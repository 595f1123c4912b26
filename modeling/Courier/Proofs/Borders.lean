import Courier.Failure.Guard
import Courier.Exchange
import Courier.Request.Basic
import Mathlib.Data.List.Forall2

/-!
# What passes the border

Failures that the caller of a request is meant to handle (`Manageable`):
those of the network, if they have a text, and the library's own for requests
and replies. Everything that goes wrong where a value is used, a text that
cannot be written or a time limit that is none, is not among them, and passes
the border as it is.
-/

namespace Courier

namespace Failure

/-- A failure that the network raises and that can be told of. -/
structure OfNetwork (failure : Failure) : Prop where
  kind : (failure.kind.isTimeout || failure.kind.isNetwork) = true
  text : failure.textFault? = none

/-- A failure that reaches the caller as a transport failure. -/
def Manageable (failure : Failure) : Prop := failure.guarded.isTransport = true

theorem OfNetwork.manageable {failure : Failure} (h : failure.OfNetwork) : failure.Manageable :=
  isTransport_guarded h.kind h.text

theorem OfNetwork.ne_cancelled {failure : Failure} (h : failure.OfNetwork) :
    failure ≠ .cancelled := by
  rintro rfl
  cases h.kind

/-- A failure that is neither the network's nor a transport failure stays what it is. -/
theorem not_manageable {failure : Failure} (hpasses : failure.passes = true)
    (hkind : failure.kind.isTransport = false) : ¬ failure.Manageable := by
  simp only [passes, Bool.and_eq_true, Bool.not_eq_true'] at hpasses
  obtain ⟨htimeout, hnetwork⟩ := hpasses
  simp [Manageable, guarded, htimeout, hnetwork, isTransport, hkind]

theorem manageable_invalidResponse (fault : ResponseFault) :
    (Failure.invalidResponse fault).Manageable := rfl

theorem manageable_invalidHeader (name value : String) :
    (Failure.invalidHeader name value).Manageable := rfl

end Failure

/-! ## Texts -/

/-- What goes wrong where a value is written. -/
inductive Unwritable : Failure → Prop where
  | deep : Unwritable (.tooDeep .showing)
  | digits : Unwritable (.unacceptable (.tooManyDigits none))

theorem Unwritable.not_manageable {failure : Failure} (h : Unwritable failure) :
    ¬ failure.Manageable := by
  cases h <;> exact Failure.not_manageable rfl rfl

/-- Going through items stops at the first one that fails. -/
theorem mapM_eq_error {α β ε : Type} {f : α → Except ε β} {e : ε} : ∀ {items : List α},
    items.mapM f = .error e ↔ ∃ before item after, items = before ++ item :: after
      ∧ (∀ passed ∈ before, ∃ result, f passed = .ok result) ∧ f item = .error e
  | [] => by
      refine iff_of_false (fun h => by cases h) ?_
      rintro ⟨before, item, after, h, -⟩
      cases before <;> cases h
  | item :: items => by
      rw [List.mapM_cons]
      cases hitem : f item with
      | error cause =>
          constructor
          · intro h
            cases h
            exact ⟨[], item, items, rfl, by simp, hitem⟩
          · rintro ⟨_ | ⟨passed, before⟩, found, after, h, hbefore, hfound⟩
            · cases h
              rw [hitem] at hfound
              cases hfound
              rfl
            · cases h
              obtain ⟨result, hpassed⟩ := hbefore item (List.mem_cons_self ..)
              cases hitem.symm.trans hpassed
      | ok result =>
          have hrest : ((Except.ok result : Except ε β) >>= fun first =>
              items.mapM f >>= fun rest => pure (first :: rest)) = .error e
                ↔ items.mapM f = .error e := by
            cases hitems : items.mapM f with
            | error cause => exact Iff.rfl
            | ok more => exact iff_of_false (fun h => by cases h) (fun h => by cases h)
          rw [hrest, mapM_eq_error]
          constructor
          · rintro ⟨before, found, after, rfl, hbefore, hfound⟩
            refine ⟨item :: before, found, after, rfl, fun passed hpassed => ?_, hfound⟩
            obtain rfl | hpassed := List.mem_cons.mp hpassed
            · exact ⟨result, hitem⟩
            · exact hbefore passed hpassed
          · rintro ⟨_ | ⟨passed, before⟩, found, after, h, hbefore, hfound⟩
            · cases h
              cases hitem.symm.trans hfound
            · cases h
              exact ⟨before, found, after, rfl,
                fun other hother => hbefore other (List.mem_cons_of_mem _ hother), hfound⟩

theorem mapM_error {α β ε : Type} {f : α → Except ε β} {items : List α} {e : ε}
    (h : items.mapM f = .error e) : ∃ item ∈ items, f item = .error e := by
  obtain ⟨before, item, after, rfl, -, hitem⟩ := mapM_eq_error.mp h
  exact ⟨item, List.mem_append_right _ (List.mem_cons_self ..), hitem⟩

theorem bind_eq_ok {α β ε : Type} {result : Except ε α} {f : α → Except ε β} {b : β}
    (h : (result >>= f) = .ok b) : ∃ a, result = .ok a ∧ f a = .ok b := by
  cases result with
  | error cause => cases h
  | ok a => exact ⟨a, rfl, h⟩

theorem mapM_eq_ok {α β ε : Type} {f : α → Except ε β} : ∀ {items : List α} {results : List β},
    items.mapM f = .ok results ↔ List.Forall₂ (fun item result => f item = .ok result) items results
  | [], [] => iff_of_true rfl .nil
  | [], result :: results => iff_of_false (fun h => by cases h) (fun h => by cases h)
  | item :: items, results => by
      rw [List.mapM_cons]
      constructor
      · intro h
        obtain ⟨result, hitem, h⟩ := bind_eq_ok h
        obtain ⟨more, hitems, h⟩ := bind_eq_ok h
        cases h
        exact .cons hitem (mapM_eq_ok.mp hitems)
      · intro h
        cases h with
        | cons hitem hitems =>
            rw [hitem, mapM_eq_ok.mpr hitems]
            rfl

theorem mem_of_mapM_eq_ok {α β ε : Type} {f : α → Except ε β} : ∀ {items : List α}
    {results : List β}, items.mapM f = .ok results → ∀ result ∈ results,
      ∃ item ∈ items, f item = .ok result
  | [], results, h, result, hmem => by
      cases h
      cases hmem
  | item :: items, results, h, result, hmem => by
      rw [List.mapM_cons] at h
      obtain ⟨first, hitem, h⟩ := bind_eq_ok h
      obtain ⟨more, hitems, h⟩ := bind_eq_ok h
      cases h
      obtain rfl | hmem := List.mem_cons.mp hmem
      · exact ⟨item, List.mem_cons_self .., hitem⟩
      · obtain ⟨found, hfound, hresult⟩ := mem_of_mapM_eq_ok hitems result hmem
        exact ⟨found, List.mem_cons_of_mem _ hfound, hresult⟩

theorem exists_of_mem_left {α β : Type} {related : α → β → Prop} {items : List α}
    {results : List β} (h : List.Forall₂ related items results) {item : α} (hitem : item ∈ items) :
    ∃ result ∈ results, related item result := by
  induction h with
  | nil => cases hitem
  | @cons first result items results hfirst hrest ih =>
      rcases List.mem_cons.mp hitem with rfl | hitem
      · exact ⟨result, List.mem_cons_self .., hfirst⟩
      · obtain ⟨found, hfound, hrelated⟩ := ih hitem
        exact ⟨found, List.mem_cons_of_mem _ hfound, hrelated⟩

theorem map_eq_ok {α β ε : Type} {result : Except ε α} {f : α → β} {b : β}
    (h : result.map f = .ok b) : ∃ a, result = .ok a ∧ f a = b := by
  cases result with
  | error cause => cases h
  | ok a => exact ⟨a, rfl, Except.ok.inj h⟩

theorem map_eq_error {α β : Type} {result : Except Failure α} {f : α → β} {failure : Failure}
    (h : result.map f = .error failure) : result = .error failure := by
  cases result with
  | error cause =>
      cases h
      rfl
  | ok a => cases h

namespace Value

theorem unwritable_showInteger {i : Int} {failure : Failure} (h : showInteger i = .error failure) :
    Unwritable failure := by
  unfold showInteger at h
  generalize Text.Integer.decimal? i = digits at h
  cases digits with
  | some digits => cases h
  | none =>
      cases h
      exact .digits

/-- Writing a value fails for its depth or for the digits of a number in it. -/
theorem unwritable_shownWithin : ∀ {depth : Nat} {v : Value} {failure : Failure},
    shownWithin depth v = .error failure → Unwritable failure
  | 0, v, failure, h => by
      cases h
      exact .deep
  | depth + 1, v, failure, h => by
      have hitems : ∀ {items : List Value}, items.mapM (shownWithin depth) = .error failure →
          Unwritable failure := fun hfault =>
        have ⟨_, _, hitem⟩ := mapM_error hfault
        unwritable_shownWithin hitem
      cases v with
      | int i =>
          have hshown : shownWithin (depth + 1) (.int i) = showInteger i := rfl
          rw [hshown] at h
          exact unwritable_showInteger h
      | list items => exact hitems (map_eq_error h)
      | tuple items => exact hitems (map_eq_error h)
      | set items =>
          cases items with
          | nil => cases h
          | cons item items => exact hitems (map_eq_error h)
      | map entries =>
          obtain ⟨entry, -, hentry⟩ := mapM_error (map_eq_error h)
          cases hkey : shownWithin depth entry.1 with
          | error cause =>
              rw [hkey] at hentry
              cases hentry
              exact unwritable_shownWithin hkey
          | ok key =>
              rw [hkey] at hentry
              exact unwritable_shownWithin (map_eq_error hentry)
      | knot mapHalf => cases mapHalf <;> cases h
      | _ => cases h

theorem unwritable_plain {v : Value} {failure : Failure} (h : v.plain = .error failure) :
    Unwritable failure := by
  cases v with
  | text s => cases h
  | _ => exact unwritable_shownWithin h

theorem unwritable_plainString {v : Value} {failure : Failure}
    (h : v.plainString = .error failure) : Unwritable failure :=
  unwritable_plain (map_eq_error h)

end Value

/-- A request whose headers are texts. -/
def Request.TextHeaders (request : Request) : Prop :=
  ∀ header ∈ request.headers, ∃ name value, header = (.text name, .text value)

namespace Request

variable {request : Request} {failure : Failure}

/-- Where the method cannot be written, the request cannot. -/
theorem encode_of_method (h : request.method.plain = .error failure) :
    request.encode = .error failure := by
  simp only [encode, encodeParts, requestLine, h]
  rfl

/-- Otherwise headers of texts are written, or refused as invalid. -/
theorem encode_error {method : List Char} (hmethod : request.method.plain = .ok method)
    (htexts : request.TextHeaders) (h : request.encode = .error failure) :
    ∃ name value, failure = .invalidHeader name value := by
  have hfirst : requestLine request.method (.text request.target)
      = .ok (method ++ ' ' :: request.target.toList ++ " HTTP/1.1".toList) := by
    simp only [requestLine, hmethod]
    rfl
  simp only [encode, encodeParts, hfirst] at h
  cases hlines : request.headers.mapM fun header => headerLine header.1 header.2 with
  | ok lines =>
      rw [hlines] at h
      cases h
  | error cause =>
      rw [hlines] at h
      cases h
      obtain ⟨header, hmem, hline⟩ := mapM_error hlines
      obtain ⟨name, value, rfl⟩ := htexts header hmem
      simp only [headerLine, Value.plain, bind, Except.bind] at hline
      split at hline
      · cases hline
        exact ⟨_, _, rfl⟩
      · cases hline

end Request

/-! ## Time limits -/

/-- A value that is no time limit is refused in a way that passes the border. -/
theorem TimeLimit.not_manageable {v : Value} {failure : Failure}
    (h : TimeLimit.ofValue v = .error failure) : ¬ failure.Manageable := by
  unfold ofValue at h
  split at h
  · cases h
  · split at h
    · split at h
      · cases h
      · split at h
        · cases h
        · cases h
          exact Failure.not_manageable rfl rfl
    · cases h
    · cases h
      exact Failure.not_manageable rfl rfl

/-- A time limit changes no failure but that of work that was called off. -/
theorem TimeLimit.bound_failed {α : Type} {failure : Failure} (h : failure ≠ .cancelled)
    (limit : TimeLimit) : limit.bound (.failed failure : Verdict α) = .failed failure := by
  unfold bound
  split
  · rename_i heq
    cases heq
  · rename_i heq
    cases heq
    exact absurd rfl h
  · rfl

end Courier
