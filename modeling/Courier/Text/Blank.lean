import Courier.Text.Ranges

/-!
# Blanks

White space in the wide sense: the ASCII blanks, the four information
separators, and the spaces and line ends of Unicode. Trimming and splitting
into words are said through `isBlank` alone.
-/

namespace Courier.Text

/-- The code points of white space. -/
def blankRanges : Ranges :=
  [(0x9, 0xD), (0x1C, 0x20), (0x85, 0x85), (0xA0, 0xA0), (0x1680, 0x1680), (0x2000, 0x200A),
   (0x2028, 0x2029), (0x202F, 0x202F), (0x205F, 0x205F), (0x3000, 0x3000)]

/-- The character is white space. -/
def isBlank (c : Char) : Bool := blankRanges.contains c

/-- The blanks of ASCII that separate: tab, line ends, vertical tab, form feed and space. -/
def isAsciiBlank (c : Char) : Bool := c = ' ' || (9 ≤ c.toNat && c.toNat ≤ 13)

/-- `items` without its trailing elements that satisfy `drop`. -/
def dropTrailing {α : Type} (drop : α → Bool) (items : List α) : List α :=
  (items.reverse.dropWhile drop).reverse

/-- `items` without its leading and trailing elements that satisfy `drop`. -/
def trimBy {α : Type} (drop : α → Bool) (items : List α) : List α :=
  dropTrailing drop (items.dropWhile drop)

/-- The text without blanks at either end. -/
def trim (s : List Char) : List Char := trimBy isBlank s

/-- Splits at runs of blanks, at most `cuts` times. Blanks before a word are
dropped; what follows the last cut is kept as it stands, its trailing blanks
included. -/
def words : Nat → List Char → List (List Char)
  | 0, s =>
      match s.dropWhile isBlank with
      | [] => []
      | rest => [rest]
  | cuts + 1, s =>
      match s.dropWhile isBlank with
      | [] => []
      | rest =>
          rest.takeWhile (fun c => !isBlank c)
            :: words cuts (rest.dropWhile fun c => !isBlank c)

/-- No text is longer than what it is trimmed from. -/
theorem length_trimBy_le {α : Type} (drop : α → Bool) (items : List α) :
    (trimBy drop items).length ≤ items.length := by
  have h₁ := (List.dropWhile_suffix (l := items) drop).length_le
  have h₂ := (List.dropWhile_suffix (l := (items.dropWhile drop).reverse) drop).length_le
  simp only [trimBy, dropTrailing, List.length_reverse] at *
  omega

/-- Every character that core calls white space is a blank. -/
theorem isBlank_of_isWhitespace {c : Char} (h : c.isWhitespace = true) : isBlank c = true := by
  simp only [Char.isWhitespace, Bool.or_eq_true, decide_eq_true_eq] at h
  rcases h with ((h | h) | h) | h <;> subst h <;> decide

end Courier.Text
