/-!
# Replacing text

Every occurrence of one text in another is replaced, from left to right and
without overlaps. What was put in is not looked at again.
-/

namespace Courier.Text

/-- Replaces `old` by `new`, after dropping `skip` characters of an occurrence. -/
def replaceFrom (old new : List Char) : Nat → List Char → List Char
  | _, [] => []
  | skip + 1, _ :: rest => replaceFrom old new skip rest
  | 0, c :: rest =>
      if old.isPrefixOf (c :: rest) then new ++ replaceFrom old new (old.length - 1) rest
      else c :: replaceFrom old new 0 rest

/-- Replaces every occurrence of `old`, which is not empty, by `new`. -/
def replaceAll (old new s : List Char) : List Char := replaceFrom old new 0 s

/-- A text without the first character of `old` stays as it is. -/
theorem replaceAll_of_not_mem {a : Char} {old new s : List Char} (h : a ∉ s) :
    replaceAll (a :: old) new s = s := by
  unfold replaceAll
  induction s with
  | nil => rfl
  | cons c rest ih =>
      simp only [List.mem_cons, not_or] at h
      have hne : (a == c) = false := by simpa using h.1
      simp [replaceFrom, List.isPrefixOf, hne, ih h.2]

end Courier.Text
