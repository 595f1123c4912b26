import Courier.Proofs.Borders

/-!
# Values without a text

Showing a value goes through all of its parts, and there are two things that it
stumbles over: parts that are nested too deep, and integers of too many digits.
`Unshown` tells where these stand, and a value has no text exactly if it holds one
of them (`shownWithin_fails_iff`). Texts and byte strings have no parts, so that
asking for the plain text of a value makes no difference (`plain_fails_iff`).
-/

namespace Courier

section Faults

variable {α β ε : Type} {f : α → Except ε β} {items : List α} {result : Except ε α}

theorem mapM_fails_iff :
    (∃ e, items.mapM f = .error e) ↔ ∃ item ∈ items, ∃ e, f item = .error e := by
  constructor
  · rintro ⟨e, h⟩
    obtain ⟨item, hitem, hfault⟩ := mapM_error h
    exact ⟨item, hitem, e, hfault⟩
  · rintro ⟨item, hitem, e, hfault⟩
    cases hall : items.mapM f with
    | error cause => exact ⟨cause, rfl⟩
    | ok results =>
        obtain ⟨result, -, hresult⟩ := exists_of_mem_left (mapM_eq_ok.mp hall) hitem
        cases hfault.symm.trans hresult

theorem map_fails_iff {g : α → β} : (∃ e, result.map g = .error e) ↔ ∃ e, result = .error e := by
  cases result with
  | error cause => exact iff_of_true ⟨cause, rfl⟩ ⟨cause, rfl⟩
  | ok a => exact iff_of_false (fun ⟨_, h⟩ => by cases h) (fun ⟨_, h⟩ => by cases h)

theorem bind_fails_iff :
    (∃ e, result.bind f = .error e)
      ↔ (∃ e, result = .error e) ∨ ∃ a, result = .ok a ∧ ∃ e, f a = .error e := by
  cases result with
  | error cause => exact iff_of_true ⟨cause, rfl⟩ (.inl ⟨cause, rfl⟩)
  | ok a =>
      refine ⟨fun h => .inr ⟨a, rfl, h⟩, ?_⟩
      rintro (⟨e, h⟩ | ⟨b, h, hfault⟩)
      · cases h
      · cases h
        exact hfault

end Faults

/-- The result is a failure of this kind. -/
def Fails {α : Type} (kind : Kind) (result : Except Failure α) : Prop :=
  ∃ failure, result = .error failure ∧ failure.kind = kind

section Fails

variable {α β : Type} {kind : Kind} {result : Except Failure α}

theorem not_fails_ok (a : α) : ¬ Fails kind (.ok a) := fun ⟨_, h, _⟩ => by cases h

theorem fails_error {failure : Failure} :
    Fails kind (.error failure : Except Failure α) ↔ failure.kind = kind := by
  constructor
  · rintro ⟨_, ⟨⟩, h⟩
    exact h
  · exact fun h => ⟨failure, rfl, h⟩

/-- A result that never fails in one way fails in another one if it fails at all. -/
theorem fails_other_iff {other : Kind} (h : ∀ kind, Fails kind result → kind ≠ other) :
    (∃ kind, kind ≠ other ∧ Fails kind result) ↔ ∃ failure, result = .error failure := by
  constructor
  · rintro ⟨kind, -, failure, hfailure, -⟩
    exact ⟨failure, hfailure⟩
  · rintro ⟨failure, hfailure⟩
    have hfails : Fails failure.kind result := ⟨failure, hfailure, rfl⟩
    exact ⟨failure.kind, h _ hfails, hfails⟩

theorem fails_map {f : α → β} : Fails kind (result.map f) ↔ Fails kind result := by
  cases result with
  | error failure => exact fails_error.trans fails_error.symm
  | ok a => exact iff_of_false (not_fails_ok _) (not_fails_ok _)

theorem fails_bind {f : α → Except Failure β} : Fails kind (result.bind f)
    ↔ Fails kind result ∨ ∃ a, result = .ok a ∧ Fails kind (f a) := by
  cases result with
  | error failure =>
      refine fails_error.trans (fails_error.symm.trans ⟨.inl, ?_⟩)
      rintro (h | ⟨a, h, -⟩)
      · exact h
      · cases h
  | ok a =>
      refine ⟨fun h => .inr ⟨a, rfl, h⟩, ?_⟩
      rintro (h | ⟨b, h, hfails⟩)
      · exact absurd h (not_fails_ok _)
      · cases h
        exact hfails

theorem fails_mapM {f : α → Except Failure β} {items : List α} : Fails kind (items.mapM f)
    ↔ ∃ before item after, items = before ++ item :: after
      ∧ (∀ passed ∈ before, ∃ result, f passed = .ok result) ∧ Fails kind (f item) := by
  constructor
  · rintro ⟨failure, h, hkind⟩
    obtain ⟨before, item, after, hitems, hbefore, hitem⟩ := mapM_eq_error.mp h
    exact ⟨before, item, after, hitems, hbefore, failure, hitem, hkind⟩
  · rintro ⟨before, item, after, hitems, hbefore, failure, hitem, hkind⟩
    exact ⟨failure, mapM_eq_error.mpr ⟨before, item, after, hitems, hbefore, hitem⟩, hkind⟩

end Fails

namespace Value

open Text

variable {depth : Nat} {v : Value}

/-- The values that a value is written from. The halves of a knot are not followed. -/
def parts : Value → List Value
  | .list items | .tuple items | .set items => items
  | .map entries => entries.flatMap fun entry => [entry.1, entry.2]
  | _ => []

/-- The items of a list or a tuple. -/
def sequence? : Value → Option (List Value)
  | .list items | .tuple items => some items
  | _ => none

/-- An integer of more digits than are written. -/
def Long : Value → Prop
  | .int i => tenTo digitLimit ≤ i.natAbs
  | _ => False

/-- The value has parts that are nested deeper than `depth`, or integers of too
many digits above them. -/
def Unshown : Nat → Value → Prop
  | 0, _ => True
  | depth + 1, v => v.Long ∨ ∃ part ∈ v.parts, Unshown depth part

theorem showInteger_fails_iff {i : Int} :
    (∃ failure, showInteger i = .error failure) ↔ (Value.int i).Long := by
  unfold showInteger Integer.decimal? Long
  by_cases hlong : tenTo digitLimit ≤ i.natAbs
  · rw [if_pos hlong]
    exact iff_of_true ⟨_, rfl⟩ hlong
  · rw [if_neg hlong]
    exact iff_of_false (fun ⟨_, h⟩ => by cases h) hlong

/-- The texts that showing fails to find are those that `Unshown` tells of. -/
theorem shownWithin_fails_iff :
    (∃ failure, shownWithin depth v = .error failure) ↔ Unshown depth v := by
  induction depth generalizing v with
  | zero => exact iff_of_true ⟨_, rfl⟩ trivial
  | succ depth ih =>
      have hitems : ∀ {items : List Value},
          (∃ failure, items.mapM (shownWithin depth) = .error failure)
            ↔ False ∨ ∃ part ∈ items, Unshown depth part := by
        intro items
        rw [mapM_fails_iff, false_or]
        exact exists_congr fun item => and_congr_right fun _ => ih
      have hwhole : ∀ {text : List Char},
          (∃ failure : Failure, Except.ok text = .error failure)
            ↔ False ∨ ∃ part ∈ ([] : List Value), Unshown depth part := by simp
      cases v with
      | int i =>
          have hshown : shownWithin (depth + 1) (.int i) = showInteger i := rfl
          rw [hshown, showInteger_fails_iff, Unshown]
          simp [parts]
      | list items => exact map_fails_iff.trans hitems
      | tuple items => exact map_fails_iff.trans hitems
      | set items =>
          cases items with
          | nil => exact hwhole
          | cons item items => exact map_fails_iff.trans hitems
      | map entries =>
          refine map_fails_iff.trans (mapM_fails_iff.trans ?_)
          rw [Unshown]
          simp only [parts, Long, List.mem_flatMap, List.mem_pair, false_or]
          constructor
          · rintro ⟨entry, hentry, hfault⟩
            rcases bind_fails_iff.mp hfault with hkey | ⟨key, -, hvalue⟩
            · exact ⟨entry.1, ⟨entry, hentry, .inl rfl⟩, ih.mp hkey⟩
            · exact ⟨entry.2, ⟨entry, hentry, .inr rfl⟩, ih.mp (map_fails_iff.mp hvalue)⟩
          · rintro ⟨part, ⟨entry, hentry, rfl | rfl⟩, hunshown⟩
            · exact ⟨entry, hentry, bind_fails_iff.mpr (.inl (ih.mpr hunshown))⟩
            · refine ⟨entry, hentry, bind_fails_iff.mpr ?_⟩
              cases hkey : shownWithin depth entry.1 with
              | error failure => exact .inl ⟨failure, rfl⟩
              | ok key => exact .inr ⟨key, rfl, map_fails_iff.mpr (ih.mpr hunshown)⟩
      | knot mapHalf => cases mapHalf <;> exact hwhole
      | _ => exact hwhole

theorem not_unshown_text (s : String) : ¬ Unshown nestingLimit (.text s) := by
  rintro (h | ⟨_, hmem, -⟩)
  · exact h
  · cases hmem

theorem not_unshown_bytes (bs : List UInt8) : ¬ Unshown nestingLimit (.bytes bs) := by
  rintro (h | ⟨_, hmem, -⟩)
  · exact h
  · cases hmem

theorem plain_fails_iff :
    (∃ failure, v.plain = .error failure) ↔ Unshown nestingLimit v := by
  cases v with
  | text s => exact iff_of_false (fun ⟨_, h⟩ => by cases h) (not_unshown_text s)
  | _ => exact shownWithin_fails_iff

end Value

theorem Unwritable.kind {failure : Failure} (h : Unwritable failure) :
    failure.kind = .value ∨ failure.kind = .recursion := by
  cases h with
  | deep => exact .inr rfl
  | digits => exact .inl rfl

end Courier
