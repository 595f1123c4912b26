import Courier.Settings.Ini

/-!
# References between options

The value of an option may refer to others of its section: `%(name)s` stands
for the value of `name`, and two percent signs for one. A value that is
referred to may refer on, up to `referenceDepth` values deep.
-/

namespace Courier.Settings

open Courier.Text

/-- A piece of a raw value. -/
inductive Piece where
  | char (c : Char)
  | reference (name : List Char)
  /-- A reference without its end, up to the end of the value. -/
  | broken (rest : List Char)
  /-- A percent sign that starts nothing, up to the end of the value. -/
  | stray (rest : List Char)

/-- The name of a reference and what follows it, from behind the opening parenthesis. -/
def readReference? (s : List Char) : Option (List Char × List Char) :=
  match s.takeWhile (· != ')'), s.dropWhile (· != ')') with
  | [], _ => none
  | name, ')' :: 's' :: rest => some (name, rest)
  | _, _ => none

theorem length_readReference {s : List Char} {found : List Char × List Char}
    (h : readReference? s = some found) : found.2.length < s.length := by
  have hlen := (List.dropWhile_sublist (l := s) (· != ')')).length_le
  unfold readReference? at h
  split at h
  · simp at h
  · simp only [Option.some.injEq] at h
    subst h
    simp_all only [List.length_cons]
    omega
  · simp at h

/-- The pieces of a raw value. -/
def pieces (s : List Char) : List Piece :=
  match s with
  | [] => []
  | '%' :: '%' :: rest => .char '%' :: pieces rest
  | '%' :: '(' :: rest =>
      match _h : readReference? rest with
      | some found => .reference found.1 :: pieces found.2
      | none => [.broken s]
  | '%' :: _ => [.stray s]
  | c :: rest => .char c :: pieces rest
termination_by s.length
decreasing_by
  all_goals simp only [List.length_cons]
  · omega
  · have := length_readReference _h; omega
  · omega

/-- How deep values may refer to each other. -/
def referenceDepth : Nat := 10

/-- Where a raw value stands. -/
structure Place where
  option : String
  name : String
  raw : String

/-- Puts values in the place of references, `depth` values deep. -/
def resolveReferences (place : Place) (value? : String → Option String) :
    Nat → List Char → Except Fault (List Char)
  | 0, _ => .error (.referencesTooDeep place.option place.name place.raw)
  | depth + 1, s =>
      let expand : Piece → Except Fault (List Char)
        | .char c => .ok [c]
        | .reference name =>
            let name := String.ofList (lower name)
            match value? name with
            | none => .error (.unknownReference place.option place.name place.raw name)
            | some value =>
                if value.toList.contains '%' then
                  resolveReferences place value? depth value.toList
                else .ok value.toList
        | .broken rest => .error (.brokenReference (String.ofList rest))
        | .stray rest => .error (.strayPercent (String.ofList rest))
      ((pieces s).mapM expand).map List.flatten

/-- The value of an option, with its references resolved. -/
def Ini.get (ini : Ini) (name option : String) : Except Fault String :=
  match ini.sections.get? name with
  | none => .error (.missingSection name)
  | some options =>
      match ini.lookup options option with
      | none => .error (.missingOption option name)
      | some raw =>
          (resolveReferences { option, name, raw } (ini.lookup options) referenceDepth
            raw.toList).map String.ofList

/-- A value without percent signs stands for itself. -/
theorem pieces_of_not_mem {s : List Char} (h : '%' ∉ s) : pieces s = s.map Piece.char := by
  induction s with
  | nil => unfold pieces; rfl
  | cons c rest ih =>
      simp only [List.mem_cons, not_or] at h
      unfold pieces
      split
      · simp_all
      · rename_i heq; exact absurd (List.cons.inj heq).1.symm h.1
      · rename_i heq; exact absurd (List.cons.inj heq).1.symm h.1
      · rename_i heq; exact absurd (List.cons.inj heq).1.symm h.1
      · rename_i heq
        obtain ⟨rfl, rfl⟩ := List.cons.inj heq
        simp [ih h.2]

end Courier.Settings
