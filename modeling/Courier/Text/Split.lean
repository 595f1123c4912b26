/-!
# Splitting text

Cutting a list at a separator: into all its fields, or once into what
stands before and after the first one.
-/

namespace Courier.Text

/-- Adds an element to the first field. -/
def consToFirst {α : Type} (a : α) : List (List α) → List (List α)
  | [] => [[a]]
  | field :: rest => (a :: field) :: rest

/-- The fields between separators: always one more than there are separators. -/
def fields {α : Type} [BEq α] (separator : α) (items : List α) : List (List α) :=
  items.foldr (fun a done => if a == separator then [] :: done else consToFirst a done) [[]]

/-- What stands before the first separator and, if there is one, what follows it. -/
def partitionAt {α : Type} [BEq α] (separator : α) (items : List α) : List α × Option (List α) :=
  match items.dropWhile (· != separator) with
  | [] => (items, none)
  | _ :: rest => (items.takeWhile (· != separator), some rest)

def occursIn (needle s : List Char) : Bool :=
  match s with
  | [] => needle.isEmpty
  | _ :: rest => needle.isPrefixOf s || occursIn needle rest

/-- Fields are never missing altogether. -/
theorem fields_ne_nil {α : Type} [BEq α] (separator : α) (items : List α) :
    fields separator items ≠ [] := by
  cases items with
  | nil => simp [fields]
  | cons a rest =>
      simp only [fields, List.foldr_cons]
      split
      · simp
      · generalize List.foldr _ _ rest = done
        cases done <;> simp [consToFirst]

end Courier.Text
