import Courier.Proofs.Outcomes
import Courier.Response.Head

/-!
# Reading heads

`readHeaders` as a reader put together by `andThen` (`readHeaders_eq`), and
from that the laws of readers, for it and for `readHead`: a head that is read
is delimited, pieces do not matter, and a head that cannot be read is the
stream's fault or has a line that is no header.

`consumes_readHead` is the constructive side: a status line, header lines
that are accepted one by one, and an empty line make up a head.
-/

namespace Courier

/-- Induction on the bytes that a stream still holds. -/
theorem Stream.byLength {motive : Stream → Prop}
    (step : ∀ s, (∀ t : Stream, t.bytes.length < s.bytes.length → motive t) → motive s)
    (s : Stream) : motive s := by
  induction hn : s.bytes.length using Nat.strongRecOn generalizing s with
  | _ n ih => exact step s fun t ht => ih _ (hn ▸ ht) t rfl

namespace Response

/-! ## Header lines -/

/-- One round of `readHeaders`: a line, and if it is not empty, the rest of them. -/
theorem readHeaders_eq (headers : Entries String String) (s : Stream) :
    readHeaders headers s = s.readLine.andThen fun line rest =>
      if line = [] then .done headers rest
      else (Outcome.ofExcept rest (readHeader (lineText line))).andThen fun field rest =>
        readHeaders (headers.put field.1 field.2) rest := by
  rw [readHeaders]
  split <;> rename_i hline
  · simp [hline]
  · simp [hline]
  · simp [hline]
  · rw [hline]
    split <;> rename_i hfield <;> simp [hfield, Outcome.ofExcept]

theorem delimitsAt_readHeaders (headers : Entries String String) (s : Stream) :
    DelimitsAt (readHeaders headers) s := by
  induction s using Stream.byLength generalizing headers with
  | step s ih =>
      rw [funext (readHeaders_eq headers)]
      refine (delimitsAt_readLine s).andThen fun line rest hline => ?_
      by_cases hempty : line = []
      · simpa only [if_pos hempty] using delimitsAt_done headers rest
      · simp only [if_neg hempty]
        cases readHeader (lineText line) with
        | error failure => exact delimitsAt_failed failure rest
        | ok field => exact ih rest (Stream.length_readLine hline) _

theorem alike_readHeaders (headers : Entries String String) {s t : Stream} (h : s.Same t) :
    (readHeaders headers s).Alike (readHeaders headers t) := by
  induction s using Stream.byLength generalizing headers t with
  | step s ih =>
      rw [readHeaders_eq, readHeaders_eq]
      refine (alike_readLine h).andThen fun line rest rest' hline same => ?_
      by_cases hempty : line = []
      · simpa only [if_pos hempty] using Outcome.Alike.done headers same
      · simp only [if_neg hempty]
        cases hread : readHeader (lineText line) with
        | error failure => exact .failed (.refl failure) rest rest'
        | ok field => exact ih rest (Stream.length_readLine hline) _ same

/-- What a header line that is refused is called. -/
def Refused (failure : Failure) : Prop := ∃ fault, failure = .invalidResponse fault

theorem refused_readHeader {line : List Char} {failure : Failure}
    (h : readHeader line = .error failure) : Refused failure := by
  unfold readHeader at h
  split at h
  · split at h
    · cases h; exact ⟨_, rfl⟩
    · cases h
  · cases h; exact ⟨_, rfl⟩

theorem blames_readHeaders (headers : Entries String String) (s : Stream) :
    (readHeaders headers s).Blames s.ending Refused := by
  induction s using Stream.byLength generalizing headers with
  | step s ih =>
      rw [readHeaders_eq]
      refine (blames_readLine s Refused).andThen fun line rest hline hending => ?_
      by_cases hempty : line = []
      · simpa only [if_pos hempty] using Outcome.Blames.done headers hending
      · simp only [if_neg hempty]
        cases hread : readHeader (lineText line) with
        | error failure => exact .own (refused_readHeader hread) rest
        | ok field => exact hending ▸ ih rest (Stream.length_readLine hline) _

/-! ## Heads -/

theorem delimitsAt_readHead (s : Stream) : DelimitsAt readHead s :=
  (delimitsAt_readLine s).andThen fun _ rest _ => (delimitsAt_readHeaders [] rest).map _

theorem alike_readHead {s t : Stream} (h : s.Same t) : (readHead s).Alike (readHead t) :=
  (alike_readLine h).andThen fun _ _ _ _ same => (alike_readHeaders [] same).map _

theorem blames_readHead (s : Stream) : (readHead s).Blames s.ending Refused :=
  (blames_readLine s Refused).andThen fun _ rest _ hending =>
    hending ▸ (blames_readHeaders [] rest).map _

/-! ## Heads that are there -/

/-- Lines with their ends, one after the other. -/
def joinLines (lines : List (List UInt8)) : List UInt8 := lines.flatMap (· ++ lineEnd)

@[simp] theorem joinLines_cons (line : List UInt8) (lines : List (List UInt8)) :
    joinLines (line :: lines) = line ++ lineEnd ++ joinLines lines := rfl

/-- The line is read as a header with this name and value. -/
structure ReadsAs (line : List UInt8) (field : String × String) : Prop where
  legible : Legible line
  nonempty : line ≠ []
  reads : readHeader (lineText line) = .ok field

variable {ι : Type} {line : ι → List UInt8} {field : ι → String × String}

/-- Header lines and an empty line are consumed; their fields are put one after the other. -/
theorem consumes_readHeaders : ∀ {items : List ι},
    (∀ item ∈ items, ReadsAs (line item) (field item)) → ∀ headers : Entries String String,
      Consumes (readHeaders headers) (joinLines (items.map line) ++ lineEnd)
        (headers.putAll (items.map field))
  | [], _, headers => by
      rw [funext (readHeaders_eq headers)]
      refine Consumes.of_eq ?_ (List.append_nil lineEnd)
      exact legible_nil.consumes.andThen (consumes_done headers)
  | item :: items, h, headers => by
      have hitem := h item (List.mem_cons_self ..)
      have ih := consumes_readHeaders (fun other hother => h other (List.mem_cons_of_mem _ hother))
        (headers.put (field item).1 (field item).2)
      rw [funext (readHeaders_eq headers), List.map_cons, joinLines_cons, List.append_assoc]
      refine hitem.legible.consumes.andThen ?_
      simp only [if_neg hitem.nonempty]
      exact .ofExcept hitem.reads ih

/-- A status line, header lines and an empty line are consumed as a head. -/
theorem consumes_readHead {first : List UInt8} {items : List ι} (hfirst : Legible first)
    (h : ∀ item ∈ items, ReadsAs (line item) (field item)) :
    Consumes readHead (joinLines (first :: items.map line) ++ lineEnd)
      { statusLine := String.ofList (lineText first),
        headers := Entries.putAll [] (items.map field) } := by
  rw [joinLines_cons, List.append_assoc]
  exact hfirst.consumes.andThen ((consumes_readHeaders h []).map _)

end Response

end Courier
