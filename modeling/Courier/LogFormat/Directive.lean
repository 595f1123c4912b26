import Courier.Text.Digit

/-!
# Directives

A format is text with directives. A directive is a percent sign, the name of
a field in parentheses, flags, a width, a precision, and a letter that says
how the field is written. Reading a format never fails: what is wrong with
a directive shows when it is applied.
-/

namespace Courier.LogFormat

open Courier.Text

/-- The flags of a directive. -/
structure Flags where
  left : Bool := false
  sign : Bool := false
  blank : Bool := false
  alternate : Bool := false
  zero : Bool := false
  deriving DecidableEq, Repr

/-- A width or a precision: a number, or what the field holds. -/
inductive Size where
  | given (n : Nat)
  | fromField
  deriving DecidableEq, Repr

/-- A directive. -/
structure Directive where
  /-- The name of the field; without one the whole record is meant. -/
  key : Option (List Char)
  flags : Flags
  width : Option Size
  precision : Option Size
  /-- The letter with its place in the format, unless the format ends before it. -/
  conversion : Option (Char × Nat)
  deriving Repr

/-- A part of a format. -/
inductive Part where
  | char (c : Char)
  | directive (d : Directive)
  /-- The name of a field without its closing parenthesis. -/
  | openKey
  deriving Repr

/-- Puts a character before what was read. -/
def readBefore {α : Type} (c : Char) : Option (List Char × α) → Option (List Char × α) :=
  Option.map fun found => (c :: found.1, found.2)

/-- Reads up to the closing parenthesis, past `depth` inner ones. -/
def readKey : Nat → List Char → Option (List Char × List Char)
  | _, [] => none
  | depth, '(' :: rest => readBefore '(' (readKey (depth + 1) rest)
  | 0, ')' :: rest => some ([], rest)
  | depth + 1, ')' :: rest => readBefore ')' (readKey depth rest)
  | depth, c :: rest => readBefore c (readKey depth rest)

def readFlags (flags : Flags) : List Char → Flags × List Char
  | '-' :: rest => readFlags { flags with left := true } rest
  | '+' :: rest => readFlags { flags with sign := true } rest
  | ' ' :: rest => readFlags { flags with blank := true } rest
  | '#' :: rest => readFlags { flags with alternate := true } rest
  | '0' :: rest => readFlags { flags with zero := true } rest
  | s => (flags, s)

/-- The number that digits spell. -/
def digitsValue (digits : List Char) : Nat :=
  digits.foldl (fun n c => n * 10 + (c.toNat - '0'.toNat)) 0

/-- Reads a number or a star, if there is one. -/
def readSize (s : List Char) : Option Size × List Char :=
  match s with
  | '*' :: rest => (some .fromField, rest)
  | s =>
      if s.head?.any isAsciiDigit then
        (some (.given (digitsValue (s.takeWhile isAsciiDigit))), s.dropWhile isAsciiDigit)
      else (none, s)

/-- Reads a precision, if there is one. A point alone means zero. -/
def readPrecision : List Char → Option Size × List Char
  | '.' :: rest =>
      let (size, rest) := readSize rest
      (some (size.getD (.given 0)), rest)
  | s => (none, s)

/-- Drops a letter that has no meaning. -/
def dropModifier : List Char → List Char
  | [] => []
  | c :: rest => if c = 'h' ∨ c = 'l' ∨ c = 'L' then rest else c :: rest

/-- Reads the rest of a directive, after its key, in a format of the given length. -/
def readDetails (total : Nat) (key : Option (List Char)) (s : List Char) :
    Directive × List Char :=
  let (flags, s) := readFlags {} s
  let (width, s) := readSize s
  let (precision, s) := readPrecision s
  match dropModifier s with
  | [] => ({ key, flags, width, precision, conversion := none }, [])
  | c :: rest =>
      ({ key, flags, width, precision, conversion := some (c, total - rest.length - 1) }, rest)

/-- Reads what follows a percent sign, in a format of the given length. -/
def readDirective (total : Nat) : List Char → Part × List Char
  | '%' :: rest => (.char '%', rest)
  | '(' :: rest =>
      match readKey 0 rest with
      | none => (.openKey, [])
      | some (key, rest) =>
          let (d, rest) := readDetails total (some key) rest
          (.directive d, rest)
  | s =>
      let (d, rest) := readDetails total none s
      (.directive d, rest)

theorem length_readBefore {c : Char} {n : Nat} {o : Option (List Char × List Char)}
    (h : ∀ found, o = some found → found.2.length ≤ n) :
    ∀ found, readBefore c o = some found → found.2.length ≤ n + 1 := by
  intro found hfound
  cases o with
  | none => simp [readBefore] at hfound
  | some inner =>
      simp only [readBefore, Option.map_some, Option.some.injEq] at hfound
      subst hfound
      exact Nat.le_succ_of_le (h inner rfl)

theorem length_readKey (s : List Char) :
    ∀ (depth : Nat) (found : List Char × List Char),
      readKey depth s = some found → found.2.length ≤ s.length := by
  induction s with
  | nil => intro depth found h; cases depth <;> simp [readKey] at h
  | cons c rest ih =>
      intro depth
      unfold readKey
      split
      · simp
      · rename_i heq
        obtain ⟨rfl, rfl⟩ := List.cons.inj heq
        exact length_readBefore (ih _)
      · rename_i heq
        obtain ⟨rfl, rfl⟩ := List.cons.inj heq
        intro found h
        simp only [Option.some.injEq] at h
        subst h
        exact Nat.le_succ _
      · rename_i heq
        obtain ⟨rfl, rfl⟩ := List.cons.inj heq
        exact length_readBefore (ih _)
      · rename_i heq
        obtain ⟨rfl, rfl⟩ := List.cons.inj heq
        exact length_readBefore (ih _)

theorem length_readFlags (s : List Char) :
    ∀ flags : Flags, (readFlags flags s).2.length ≤ s.length := by
  induction s with
  | nil => intro flags; simp [readFlags]
  | cons c rest ih =>
      intro flags
      unfold readFlags
      split <;> simp_all only [List.length_cons, List.cons.injEq]
      all_goals first | exact Nat.le_succ_of_le (ih _) | simp_all

theorem length_readSize (s : List Char) : (readSize s).2.length ≤ s.length := by
  unfold readSize
  split
  · simp
  · split
    · exact (List.dropWhile_sublist _).length_le
    · exact Nat.le_refl _

theorem length_readPrecision (s : List Char) : (readPrecision s).2.length ≤ s.length := by
  unfold readPrecision
  split
  · exact Nat.le_succ_of_le (length_readSize _)
  · exact Nat.le_refl _

theorem length_dropModifier (s : List Char) : (dropModifier s).length ≤ s.length := by
  cases s with
  | nil => simp [dropModifier]
  | cons c rest => simp only [dropModifier]; split <;> simp

theorem length_readDetails (total : Nat) (key : Option (List Char)) (s : List Char) :
    (readDetails total key s).2.length ≤ s.length := by
  have h1 := length_readFlags s {}
  have h2 := length_readSize (readFlags {} s).2
  have h3 := length_readPrecision (readSize (readFlags {} s).2).2
  have h4 := length_dropModifier (readPrecision (readSize (readFlags {} s).2).2).2
  unfold readDetails
  simp only
  split
  · simp
  · rename_i heq
    rw [heq] at h4
    simp only [List.length_cons] at h4
    simp only
    omega

theorem length_readDirective (total : Nat) (s : List Char) :
    (readDirective total s).2.length ≤ s.length := by
  unfold readDirective
  split
  · simp
  · split
    · simp
    · rename_i rest _ key rest' heq
      have h1 := length_readKey _ _ _ heq
      have h2 := length_readDetails total (some key) rest'
      simp only [List.length_cons] at *
      omega
  · exact length_readDetails total none _

/-- The parts of what is left of a format of the given length. -/
def partsFrom (total : Nat) (s : List Char) : List Part :=
  match s with
  | [] => []
  | '%' :: rest =>
      have : (readDirective total rest).2.length < rest.length + 1 :=
        Nat.lt_succ_of_le (length_readDirective total rest)
      (readDirective total rest).1 :: partsFrom total (readDirective total rest).2
  | c :: rest => .char c :: partsFrom total rest
termination_by s.length

def parts (s : List Char) : List Part := partsFrom s.length s

end Courier.LogFormat
