import Courier.Text.Split
import Mathlib.Data.List.Infix

/-!
# Texts with separators

What is cut at separators can be put together again: fields that hold no separator are
what a text of these fields is cut into (`fields_intercalate`). Whatever a text is cut
into stands in it in one piece (`infix_of_mem_fields`), and so does what occurs in it
(`occursIn_iff`). What concatenation keeps is kept when parts are put together
(`intercalate_of_append`).
-/

namespace Courier.Text

section Fields

variable {α : Type} [BEq α] [LawfulBEq α] {mark : α} {front rest item : List α}

theorem fields_cons_self (mark : α) (rest : List α) :
    fields mark (mark :: rest) = [] :: fields mark rest := by
  simp [fields]

theorem fields_cons_of_ne {a : α} (h : a ≠ mark) (rest : List α) :
    fields mark (a :: rest) = consToFirst a (fields mark rest) := by
  simp [fields, h]

theorem fields_of_not_mem (h : mark ∉ front) : fields mark front = [front] := by
  induction front with
  | nil => rfl
  | cons a front ih =>
      obtain ⟨ha, hfront⟩ := List.ne_and_not_mem_of_not_mem_cons h
      rw [fields_cons_of_ne ha.symm, ih hfront]
      rfl

/-- A field in front of a separator is cut off. -/
theorem fields_append (h : mark ∉ front) (rest : List α) :
    fields mark (front ++ mark :: rest) = front :: fields mark rest := by
  induction front with
  | nil => exact fields_cons_self mark rest
  | cons a front ih =>
      obtain ⟨ha, hfront⟩ := List.ne_and_not_mem_of_not_mem_cons h
      rw [List.cons_append, fields_cons_of_ne ha.symm, ih hfront]
      rfl

/-- Fields with separators between them are these fields. -/
theorem fields_intercalate : ∀ {parts : List (List α)}, parts ≠ [] →
    (∀ part ∈ parts, mark ∉ part) → fields mark ([mark].intercalate parts) = parts
  | [part], _, h => by
      rw [List.intercalate_singleton]
      exact fields_of_not_mem (h part (List.mem_singleton_self _))
  | part :: next :: parts, _, h => by
      have ih := fields_intercalate (List.cons_ne_nil next parts)
        fun other hother => h other (List.mem_cons_of_mem _ hother)
      rw [List.intercalate_cons_cons, List.append_assoc, List.singleton_append,
        fields_append (h part List.mem_cons_self), ih]

/-- The first field is the front of the text, and every other one stands further back. -/
theorem fields_places (mark : α) (items : List α) : ∃ first others,
    fields mark items = first :: others ∧ first <+: items ∧ ∀ other ∈ others, other <:+: items := by
  induction items with
  | nil => exact ⟨[], [], rfl, List.nil_prefix, nofun⟩
  | cons a items ih =>
      obtain ⟨first, others, hfields, hfirst, hothers⟩ := ih
      have hback : items <:+: a :: items := (List.suffix_cons a items).isInfix
      by_cases ha : a = mark
      · subst ha
        refine ⟨[], first :: others, by rw [fields_cons_self, hfields], List.nil_prefix, ?_⟩
        intro other hother
        rcases List.mem_cons.mp hother with rfl | hother
        · exact hfirst.isInfix.trans hback
        · exact (hothers other hother).trans hback
      · refine ⟨a :: first, others, by rw [fields_cons_of_ne ha, hfields]; rfl, ?_, ?_⟩
        · exact (List.cons_prefix_cons).mpr ⟨rfl, hfirst⟩
        · exact fun other hother => (hothers other hother).trans hback

theorem infix_of_mem_fields (h : item ∈ fields mark rest) : item <:+: rest := by
  obtain ⟨first, others, hfields, hfirst, hothers⟩ := fields_places mark rest
  rw [hfields] at h
  rcases List.mem_cons.mp h with rfl | h
  · exact hfirst.isInfix
  · exact hothers item h

end Fields

/-- What concatenation keeps holds of parts that are put together if it holds of each part
and of the marks between them. -/
theorem intercalate_of_append {α : Type} {P : List α → Prop} {marks : List α} (hnil : P [])
    (happend : ∀ {s t}, P s → P t → P (s ++ t)) (hmarks : P marks) :
    ∀ {parts : List (List α)}, (∀ part ∈ parts, P part) → P (marks.intercalate parts)
  | [], _ => hnil
  | [part], h => by
      rw [List.intercalate_singleton]
      exact h part (List.mem_singleton_self _)
  | part :: next :: parts, h => by
      obtain ⟨hpart, hparts⟩ := List.forall_mem_cons.mp h
      rw [List.intercalate_cons_cons]
      exact happend (happend hpart hmarks) (intercalate_of_append hnil happend hmarks hparts)

theorem mem_intercalate {α : Type} {a : α} {marks : List α} {parts : List (List α)}
    (h : a ∈ marks.intercalate parts) : a ∈ marks ∨ ∃ part ∈ parts, a ∈ part := by
  refine intercalate_of_append (P := fun s => a ∈ s → a ∈ marks ∨ ∃ part ∈ parts, a ∈ part) nofun
    ?_ .inl (fun part hpart hmem => .inr ⟨part, hpart, hmem⟩) h
  exact fun hs ht hmem => (List.mem_append.mp hmem).elim hs ht

theorem occursIn_iff {needle s : List Char} : occursIn needle s = true ↔ needle <:+: s := by
  induction s with
  | nil => simp [occursIn]
  | cons c s ih =>
      rw [occursIn, Bool.or_eq_true, List.isPrefixOf_iff_prefix, ih, List.infix_cons_iff]

end Courier.Text
