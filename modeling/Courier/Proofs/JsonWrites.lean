import Courier.Json.Write
import Courier.Proofs.ShownValues

/-!
# Where values are nested too deep to be written

Writing a value as JSON goes through its parts in order and stops at the first one
that fails: for its type, for the digits of a number, or for its depth.
`OverdeepValue` tells where the last comes first, and writing gives out for the
depth of a value exactly then (`fails_writeWithin_iff`).
-/

namespace Courier.Json

variable {depth : Nat} {v : Value} {kind : Kind}

/-! ## Values that are nested too deep -/

/-- The value is written in brackets. -/
def bracketed : Value → Bool
  | .list _ | .tuple _ | .map _ => true
  | _ => false

/-- Behind parts that are all written, a value in brackets stands more than `depth`
levels down. -/
inductive OverdeepValue : Nat → Value → Prop where
  | opened {v : Value} (brackets : bracketed v = true) : OverdeepValue 0 v
  | item {depth : Nat} {v item : Value} {before after : List Value}
      (items : v.sequence? = some (before ++ item :: after))
      (written : ∀ passed ∈ before, ∃ text, writeWithin depth passed = .ok text)
      (deep : OverdeepValue depth item) : OverdeepValue (depth + 1) v
  | member {depth : Nat} {before after : List (Value × Value)} {entry : Value × Value}
      (written : ∀ passed ∈ before, (∃ key, keyText passed.1 = .ok key)
        ∧ ∃ text, writeWithin depth passed.2 = .ok text)
      (key : ∃ key, keyText entry.1 = .ok key) (deep : OverdeepValue depth entry.2) :
      OverdeepValue (depth + 1) (.map (before ++ entry :: after))

theorem overdeep_sequence_iff {items : List Value} (h : v.sequence? = some items) :
    OverdeepValue (depth + 1) v ↔ ∃ before item after, items = before ++ item :: after
      ∧ (∀ passed ∈ before, ∃ text, writeWithin depth passed = .ok text)
      ∧ OverdeepValue depth item := by
  constructor
  · intro hdeep
    cases hdeep with
    | item hitems written deep =>
        cases h.symm.trans hitems
        exact ⟨_, _, _, rfl, written, deep⟩
    | member => cases h
  · rintro ⟨before, item, after, rfl, written, deep⟩
    exact .item h written deep

theorem overdeep_map_iff {entries : List (Value × Value)} :
    OverdeepValue (depth + 1) (.map entries) ↔ ∃ before entry after,
      entries = before ++ entry :: after
        ∧ (∀ passed ∈ before, (∃ key, keyText passed.1 = .ok key)
          ∧ ∃ text, writeWithin depth passed.2 = .ok text)
        ∧ (∃ key, keyText entry.1 = .ok key) ∧ OverdeepValue depth entry.2 := by
  constructor
  · intro hdeep
    cases hdeep with
    | item hitems => cases hitems
    | member written key deep => exact ⟨_, _, _, rfl, written, key, deep⟩
  · rintro ⟨before, entry, after, rfl, written, key, deep⟩
    exact .member written key deep

theorem bracketed_of_sequence {items : List Value} (h : v.sequence? = some items) :
    bracketed v = true := by
  cases v <;> first | rfl | cases h

theorem not_overdeep (h : bracketed v = false) (depth : Nat) : ¬ OverdeepValue depth v := by
  rw [← Bool.not_eq_true] at h
  intro hdeep
  cases hdeep with
  | opened brackets => exact h brackets
  | item items => exact h (bracketed_of_sequence items)
  | member => exact h rfl

theorem kind_of_showInteger {i : Int} (h : Fails kind (Value.showInteger i)) : kind = .value := by
  obtain ⟨failure, hshow, rfl⟩ := h
  unfold Value.showInteger at hshow
  split at hshow <;> cases hshow
  rfl

theorem kind_of_keyText {key : Value} (h : Fails kind (keyText key)) :
    kind = .type ∨ kind = .value := by
  unfold keyText at h
  split at h
  · exact absurd h (not_fails_ok _)
  · exact absurd h (not_fails_ok _)
  · exact absurd h (not_fails_ok _)
  · exact absurd h (not_fails_ok _)
  · exact .inr (kind_of_showInteger h)
  · exact .inl (fails_error.mp h).symm

/-- A value without brackets fails for its type or its digits. -/
theorem kind_of_writeScalar (hscalar : bracketed v = false) (h : Fails kind (writeWithin depth v)) :
    kind = .type ∨ kind = .value := by
  cases v with
  | null | bool | float | text => cases depth <;> exact absurd h (not_fails_ok _)
  | int i => cases depth <;> exact .inr (kind_of_showInteger h)
  | list | tuple | map => cases hscalar
  | knot => cases depth <;> exact .inr (fails_error.mp h).symm
  | _ => cases depth <;> exact .inl (fails_error.mp h).symm

theorem fails_zero (h : bracketed v = true) :
    Fails kind (writeWithin 0 v) ↔ kind = .recursion := by
  cases v with
  | list | tuple | map => exact fails_error.trans eq_comm
  | _ => cases h

theorem fails_sequence {items : List Value} (h : v.sequence? = some items) :
    Fails kind (writeWithin (depth + 1) v) ↔ Fails kind (items.mapM (writeWithin depth)) := by
  cases v with
  | list | tuple =>
      cases h
      exact fails_map
  | _ => cases h

theorem fails_member {entry : Value × Value} :
    Fails kind ((keyText entry.1).bind fun key =>
        (writeWithin depth entry.2).map fun value => writeText key ++ ':' :: value)
      ↔ Fails kind (keyText entry.1)
        ∨ (∃ key, keyText entry.1 = .ok key) ∧ Fails kind (writeWithin depth entry.2) := by
  rw [fails_bind]
  simp only [fails_map, exists_and_right]

theorem member_ok_iff {entry : Value × Value} :
    (∃ text, ((keyText entry.1).bind fun key =>
        (writeWithin depth entry.2).map fun value => writeText key ++ ':' :: value) = .ok text)
      ↔ (∃ key, keyText entry.1 = .ok key) ∧ ∃ text, writeWithin depth entry.2 = .ok text := by
  constructor
  · rintro ⟨text, h⟩
    obtain ⟨key, hkey, h⟩ := bind_eq_ok h
    obtain ⟨value, hvalue, -⟩ := map_eq_ok h
    exact ⟨⟨key, hkey⟩, value, hvalue⟩
  · rintro ⟨⟨key, hkey⟩, value, hvalue⟩
    rw [hkey, hvalue]
    exact ⟨_, rfl⟩

theorem fails_entries {entries : List (Value × Value)} :
    Fails kind (writeWithin (depth + 1) (.map entries)) ↔ ∃ before entry after,
      entries = before ++ entry :: after
        ∧ (∀ passed ∈ before, (∃ key, keyText passed.1 = .ok key)
          ∧ ∃ text, writeWithin depth passed.2 = .ok text)
        ∧ (Fails kind (keyText entry.1)
          ∨ (∃ key, keyText entry.1 = .ok key) ∧ Fails kind (writeWithin depth entry.2)) := by
  refine fails_map.trans (fails_mapM.trans ?_)
  simp only [member_ok_iff, fails_member]

/-- Writing a value gives out for its depth exactly where it is nested too deep. -/
theorem fails_writeWithin_iff :
    Fails .recursion (writeWithin depth v) ↔ OverdeepValue depth v := by
  induction depth generalizing v with
  | zero =>
      cases hscalar : bracketed v with
      | true => exact iff_of_true ((fails_zero hscalar).mpr rfl) (.opened hscalar)
      | false =>
          refine iff_of_false (fun h => ?_) (not_overdeep hscalar 0)
          rcases kind_of_writeScalar hscalar h with hkind | hkind <;> cases hkind
  | succ depth ih =>
      have hsequence : ∀ {items : List Value}, v.sequence? = some items →
          (Fails .recursion (writeWithin (depth + 1) v) ↔ OverdeepValue (depth + 1) v) := by
        intro items hitems
        rw [fails_sequence hitems, overdeep_sequence_iff hitems, fails_mapM]
        simp only [ih]
      cases v with
      | list | tuple => exact hsequence rfl
      | map entries =>
          have hkeys : ∀ key, ¬ Fails .recursion (keyText key) := by
            intro key h
            rcases kind_of_keyText h with hkind | hkind <;> cases hkind
          rw [fails_entries, overdeep_map_iff]
          simp only [hkeys, false_or, ih]
      | _ =>
          refine iff_of_false (fun h => ?_) (not_overdeep rfl _)
          rcases kind_of_writeScalar rfl h with hkind | hkind <;> cases hkind

/-- Writing fails for a type, for the digits of a number, or for the depth of a value. -/
theorem kind_of_writeWithin (h : Fails kind (writeWithin depth v)) :
    kind = .type ∨ kind = .value ∨ kind = .recursion := by
  induction depth generalizing v with
  | zero =>
      cases hscalar : bracketed v with
      | true => exact .inr (.inr ((fails_zero hscalar).mp h))
      | false => exact (kind_of_writeScalar hscalar h).imp id .inl
  | succ depth ih =>
      have hsequence : ∀ {items : List Value}, v.sequence? = some items →
          kind = .type ∨ kind = .value ∨ kind = .recursion := by
        intro items hitems
        rw [fails_sequence hitems, fails_mapM] at h
        obtain ⟨before, item, after, -, -, hitem⟩ := h
        exact ih hitem
      cases v with
      | list | tuple => exact hsequence rfl
      | map entries =>
          obtain ⟨before, entry, after, -, -, hkey | ⟨-, hvalue⟩⟩ := fails_entries.mp h
          · exact (kind_of_keyText hkey).imp id .inl
          · exact ih hvalue
      | _ => exact (kind_of_writeScalar rfl h).imp id .inl

/-! ## Written values -/

theorem layout_ne_nil (digits : List Char) (leading : Int) :
    Decimal.layout digits leading ≠ [] := by
  unfold Decimal.layout
  dsimp only
  split
  · split
    · simp
    · split <;> simp
  · simp

theorem writeFloat_ne_nil (x : Decimal.Binary64) : writeFloat x ≠ [] := by
  cases x with
  | nan => simp [writeFloat]
  | infinity negative => cases negative <;> simp [writeFloat]
  | finite negative mantissa exponent =>
      cases negative
      · simp only [writeFloat, Decimal.Binary64.toText, Bool.false_eq_true, if_false]
        split
        · simp
        · exact layout_ne_nil _ _
      · simp [writeFloat, Decimal.Binary64.toText]

theorem decimal_ne_nil (i : Int) : Text.Integer.decimal i ≠ [] := by
  unfold Text.Integer.decimal
  split
  · exact List.cons_ne_nil _ _
  · exact Nat.toDigits_ne_nil

theorem ne_nil_of_showInteger {i : Int} {text : List Char} (h : Value.showInteger i = .ok text) :
    text ≠ [] := by
  unfold Value.showInteger at h
  split at h
  · rename_i digits hdigits
    cases h
    unfold Text.Integer.decimal? at hdigits
    split at hdigits
    · cases hdigits
    · rw [← Option.some.inj hdigits]
      exact decimal_ne_nil i
  · cases h

theorem bracket_ne_nil (opening closing : Char) (parts : List (List Char)) :
    bracket opening closing parts ≠ [] := by
  simp [bracket]

/-- Every value that is written is written as something. -/
theorem ne_nil_of_writeWithin {text : List Char} (h : writeWithin depth v = .ok text) :
    text ≠ [] := by
  unfold writeWithin at h
  split at h
  · cases h
    simp
  · cases h
    split <;> simp
  · exact ne_nil_of_showInteger h
  · cases h
    exact writeFloat_ne_nil _
  · cases h
    simp [writeText]
  · cases h
  · cases h
  · cases h
  · obtain ⟨parts, -, rfl⟩ := map_eq_ok h
    exact bracket_ne_nil _ _ _
  · obtain ⟨parts, -, rfl⟩ := map_eq_ok h
    exact bracket_ne_nil _ _ _
  · obtain ⟨parts, -, rfl⟩ := map_eq_ok h
    exact bracket_ne_nil _ _ _
  · cases h
  · cases h

end Courier.Json
