import Courier.Value.Basic
import Mathlib.Data.List.Induction

/-!
# Keys

What is found under a key after puts: the value that was put last
(`get?_put_self`, `get?_putAll`), and what was there before under any other
key (`get?_put_of_ne`), so never anything else (`get?_put_cases`). Under keys
that all differ everything stands as it was put (`putAll_of_nodup`). What was
dropped is not found, and other keys keep what they have (`get?_erase_self`,
`get?_erase_of_ne`).

Equality of values is no equality of keys in general, a number that is not
equal to itself being the exception, so these laws ask for what they need of
the keys at hand. Texts need nothing: they are found by their characters
(`beq_text`, `get?_put_text`, `get?_erase_text`), and of all that is put under
a text the last is left (`under_putAll`), which is what the text stands for
(`get?_putAll_text`). The texts stand in the order in which they first came
(`names_putAll`).
-/

namespace Courier

namespace Entries

variable {κ ν : Type} [BEq κ] {entries : Entries κ ν} {key other : κ} {value : ν}

theorem get?_cons (entry : κ × ν) (entries : Entries κ ν) (key : κ) :
    get? (entry :: entries) key = if entry.1 == key then some entry.2 else get? entries key := by
  rw [get?, List.find?_cons]
  cases entry.1 == key <;> rfl

theorem get?_append (entries more : Entries κ ν) (key : κ) :
    get? (entries ++ more) key = (get? entries key).or (get? more key) := by
  simp only [get?, List.find?_append]
  cases entries.find? (·.1 == key) <;> rfl

theorem get?_eq_none_of_not_has (h : has entries key = false) : get? entries key = none := by
  rw [get?, List.find?_eq_none.mpr]
  · rfl
  · intro entry hentry
    rw [has, List.any_eq_false] at h
    exact h entry hentry

theorem get?_map_put_self (value : ν) : ∀ {entries : Entries κ ν}, has entries key = true →
    get? (entries.map fun entry => if entry.1 == key then (entry.1, value) else entry) key
      = some value
  | [], h => by simp [has] at h
  | entry :: entries, h => by
      rw [List.map_cons, get?_cons]
      by_cases hkey : (entry.1 == key) = true
      · simp [hkey]
      · have hrest : has entries key = true := by simpa [has, hkey] using h
        simpa [hkey] using get?_map_put_self value hrest

/-- What is put under a key is found there. -/
theorem get?_put_self (hkey : (key == key) = true) (entries : Entries κ ν) (value : ν) :
    get? (put entries key value) key = some value := by
  rw [put]
  split
  · rename_i hhas
    exact get?_map_put_self value hhas
  · rename_i hhas
    rw [get?_append, get?_eq_none_of_not_has (by simpa using hhas), get?_cons, if_pos hkey]
    rfl

theorem get?_map_put_of_ne (hne : ∀ k : κ, (k == other) = true → (k == key) = false) (value : ν) :
    ∀ entries : Entries κ ν,
      get? (entries.map fun entry => if entry.1 == key then (entry.1, value) else entry) other
        = get? entries other
  | [] => rfl
  | entry :: entries => by
      have ih := get?_map_put_of_ne hne value entries
      rw [List.map_cons, get?_cons, get?_cons, ih]
      by_cases hother : (entry.1 == other) = true
      · simp [hne _ hother]
      · by_cases hkey : (entry.1 == key) = true <;> simp [hkey, hother]

/-- Other keys keep what they have. -/
theorem get?_put_of_ne (hne : ∀ k : κ, (k == other) = true → (k == key) = false)
    (hkey : (key == other) = false) (entries : Entries κ ν) (value : ν) :
    get? (put entries key value) other = get? entries other := by
  rw [put]
  split
  · exact get?_map_put_of_ne hne value entries
  · rw [get?_append, get?_cons, hkey]
    cases get? entries other <;> rfl

theorem get?_map_put_cases (value : ν) : ∀ {entries : Entries κ ν} {found : ν},
    get? (entries.map fun entry => if entry.1 == key then (entry.1, value) else entry) other
      = some found → found = value ∨ get? entries other = some found
  | [], found, h => by cases h
  | entry :: entries, found, h => by
      rw [List.map_cons, get?_cons] at h
      rw [get?_cons]
      by_cases hkey : (entry.1 == key) = true <;> by_cases hother : (entry.1 == other) = true <;>
        simp only [hkey, hother, if_true, Bool.false_eq_true, if_false] at h ⊢
      · exact .inl (Option.some.inj h).symm
      · exact get?_map_put_cases value h
      · exact .inr h
      · exact get?_map_put_cases value h

/-- What is found after a put was put, or was there before. -/
theorem get?_put_cases {found : ν} (h : get? (put entries key value) other = some found) :
    found = value ∨ get? entries other = some found := by
  rw [put] at h
  split at h
  · exact get?_map_put_cases value h
  · rw [get?_append, get?_cons] at h
    cases hentries : get? entries other with
    | some before =>
        rw [hentries] at h
        exact .inr h
    | none =>
        rw [hentries, Option.none_or] at h
        split at h
        · exact .inl (Option.some.inj h).symm
        · cases h

theorem mem_of_get? {found : ν} (h : get? entries key = some found) :
    ∃ entry ∈ entries, (entry.1 == key) = true ∧ entry.2 = found := by
  obtain ⟨entry, hentry, heq⟩ := Option.map_eq_some_iff.mp h
  have hkey := List.find?_some hentry
  exact ⟨entry, List.mem_of_find?_eq_some hentry, hkey, heq⟩

theorem mem_put {entry : κ × ν} (h : entry ∈ put entries key value) :
    entry.2 = value ∨ entry ∈ entries := by
  rw [put] at h
  split at h
  · obtain ⟨before, hbefore, rfl⟩ := List.mem_map.mp h
    split
    · exact .inl rfl
    · exact .inr hbefore
  · obtain h | h := List.mem_append.mp h
    · exact .inr h
    · rw [List.mem_singleton.mp h]
      exact .inl rfl

/-- A put brings no other key. -/
theorem key_of_mem_put {entry : κ × ν} (h : entry ∈ put entries key value) :
    entry.1 = key ∨ ∃ before ∈ entries, before.1 = entry.1 := by
  rw [put] at h
  split at h
  · obtain ⟨before, hbefore, rfl⟩ := List.mem_map.mp h
    refine .inr ⟨before, hbefore, ?_⟩
    split <;> rfl
  · obtain h | h := List.mem_append.mp h
    · exact .inr ⟨entry, h, rfl⟩
    · rw [List.mem_singleton.mp h]
      exact .inl rfl

/-- What was dropped is not found. -/
theorem get?_erase_self (entries : Entries κ ν) (key : κ) : get? (erase entries key) key = none := by
  refine get?_eq_none_of_not_has (List.any_eq_false.mpr fun entry hentry => ?_)
  simpa using (List.mem_filter.mp hentry).2

theorem get?_erase_of_ne (hne : ∀ k : κ, (k == other) = true → (k == key) = false) :
    ∀ entries : Entries κ ν, get? (erase entries key) other = get? entries other
  | [] => rfl
  | entry :: entries => by
      have ih := get?_erase_of_ne hne entries
      rw [erase] at ih ⊢
      rw [List.filter_cons, get?_cons]
      by_cases hother : (entry.1 == other) = true
      · simp [hne _ hother, get?_cons, hother]
      · by_cases hkey : (entry.1 == key) = true <;> simp [hkey, get?_cons, hother, ih]

/-- The last of several puts counts. -/
theorem get?_putAll [LawfulBEq κ] (key : κ) : ∀ more entries : Entries κ ν,
    get? (putAll entries more) key
      = ((more.filter (·.1 == key)).getLast?.map (·.2)).or (get? entries key)
  | [], entries => rfl
  | entry :: more, entries => by
      have ih := get?_putAll key more (put entries entry.1 entry.2)
      rw [putAll, List.foldl_cons, ← putAll, ih]
      by_cases hkey : entry.1 = key
      · subst hkey
        have hfilter : (entry :: more).filter (·.1 == entry.1)
            = entry :: more.filter (·.1 == entry.1) := by simp
        rw [get?_put_self (beq_self_eq_true _), hfilter, List.getLast?_cons]
        cases (more.filter (·.1 == entry.1)).getLast? <;> rfl
      · have hne : ∀ k : κ, (k == key) = true → (k == entry.1) = false := by
          intro k hk
          rw [eq_of_beq hk]
          exact beq_false_of_ne (Ne.symm hkey)
        rw [get?_put_of_ne hne (beq_false_of_ne hkey),
          List.filter_cons_of_neg (by simpa using hkey)]

/-- What is put under keys that all differ stands as it was put. -/
theorem putAll_of_nodup [LawfulBEq κ] : ∀ {more entries : Entries κ ν},
    ((entries ++ more).map (·.1)).Nodup → putAll entries more = entries ++ more
  | [], entries, _ => (List.append_nil entries).symm
  | entry :: more, entries, h => by
      have hnew : has entries entry.1 = false := by
        rw [has, List.any_eq_false]
        intro old hold hsame
        rw [List.map_append, List.nodup_append] at h
        exact h.2.2 old.1 (List.mem_map_of_mem hold) entry.1 (List.mem_map_of_mem List.mem_cons_self)
          (eq_of_beq hsame)
      have hshift : entries ++ entry :: more = (entries ++ [entry]) ++ more := by simp
      rw [hshift] at h ⊢
      rw [← putAll_of_nodup h, putAll, List.foldl_cons, put_of_not_has hnew]
      rfl

end Entries

/-- A value equals a text only if it is this text. -/
theorem Value.beq_text {v : Value} {s : String} : (v == .text s) = true ↔ v = .text s := by
  have hlimit : nestingLimit = 959 + 1 := rfl
  show (equalWithin nestingLimit v (.text s)).getD false = true ↔ _
  rw [hlimit]
  cases v <;> simp [equalWithin, number?]

/-- A text that is a value. -/
def Value.text? : Value → Option String
  | .text s => some s
  | _ => none

theorem Value.text?_eq_some {v : Value} {s : String} : v.text? = some s ↔ v = .text s := by
  cases v <;> simp [text?]

theorem Value.text?_of_unhashable {v : Value} {type : String} (h : v.unhashable? = some type) :
    v.text? = none := by
  cases v with
  | text s => cases h
  | _ => rfl

theorem Value.text_beq {v : Value} {s : String} : (.text s == v) = true ↔ v = .text s := by
  have hlimit : nestingLimit = 959 + 1 := rfl
  show (equalWithin nestingLimit (.text s) v).getD false = true ↔ _
  rw [hlimit]
  cases v with
  | text t => simpa [equalWithin, number?] using eq_comm
  | _ => simp [equalWithin, number?]

namespace Entries

variable {ν : Type} {s t : String}

theorem text_ne (h : s ≠ t) (k : Value) (hk : (k == .text t) = true) : (k == .text s) = false := by
  rw [Value.beq_text.mp hk, ← Bool.not_eq_true, Value.text_beq]
  simpa using h

/-- A text is found where it was put, and any other one where it was. -/
theorem get?_put_text (entries : Entries Value ν) (s t : String) (value : ν) :
    get? (put entries (.text s) value) (.text t)
      = if s = t then some value else get? entries (.text t) := by
  split
  · rename_i heq
    exact heq ▸ get?_put_self (Value.beq_text.mpr rfl) entries value
  · rename_i hne
    exact get?_put_of_ne (text_ne hne) (text_ne (Ne.symm hne) _ (Value.beq_text.mpr rfl)) entries
      value

theorem get?_erase_text (entries : Entries Value ν) (s t : String) :
    get? (erase entries (.text s)) (.text t) = if s = t then none else get? entries (.text t) := by
  split
  · rename_i heq
    exact heq ▸ get?_erase_self entries (.text s)
  · rename_i hne
    exact get?_erase_of_ne (text_ne hne) entries

/-! ## Entries under a text -/

variable {entries more : Entries Value ν} {key : Value} {value : ν} {entry : Value × ν}

/-- The entries under a text. -/
def under (entries : Entries Value ν) (s : String) : Entries Value ν :=
  entries.filter (·.1 == .text s)

theorem mem_under : entry ∈ under entries s ↔ entry ∈ entries ∧ entry.1 = .text s := by
  rw [under, List.mem_filter, Value.beq_text]

theorem under_append : under (entries ++ more) s = under entries s ++ under more s :=
  List.filter_append ..

theorem under_self : under [(.text s, value)] s = [(.text s, value)] := by
  simp [under, Value.beq_text]

theorem under_of_ne (h : key ≠ .text s) : under [(key, value)] s = [] := by
  simpa [under, Value.beq_text] using h

theorem under_eq_nil (h : ∀ entry ∈ entries, entry.1 ≠ .text s) : under entries s = [] :=
  List.eq_nil_iff_forall_not_mem.mpr fun entry hentry =>
    h entry (mem_under.mp hentry).1 (mem_under.mp hentry).2

/-- Writing a key again moves nothing. -/
theorem under_map_put :
    under (entries.map fun entry => if entry.1 == key then (entry.1, value) else entry) s
      = (under entries s).map fun entry => if entry.1 == key then (entry.1, value) else entry := by
  unfold under
  rw [List.filter_map]
  congr 1
  refine List.filter_congr fun entry _ => ?_
  simp only [Function.comp_apply]
  split <;> rfl

theorem under_put_of_ne (h : key ≠ .text s) : under (put entries key value) s = under entries s := by
  unfold put
  split
  · rw [under_map_put]
    refine (List.map_congr_left fun entry hentry => ?_).trans (List.map_id _)
    rw [(mem_under.mp hentry).2, if_neg (by rwa [Value.text_beq])]
    rfl
  · rw [under_append, under_of_ne h, List.append_nil]

theorem under_put_self (h : (under entries s).length ≤ 1) :
    under (put entries (.text s) value) s = [(.text s, value)] := by
  unfold put
  split
  · rename_i hhas
    obtain ⟨entry, hentry, hkey⟩ := List.any_eq_true.mp hhas
    have hmem : entry ∈ under entries s := mem_under.mpr ⟨hentry, Value.beq_text.mp hkey⟩
    obtain ⟨only, honly⟩ :=
      List.length_eq_one_iff.mp (Nat.le_antisymm h (List.length_pos_of_mem hmem))
    rw [honly, List.mem_singleton] at hmem
    subst hmem
    rw [under_map_put, honly, List.map_singleton, if_pos hkey, Value.beq_text.mp hkey]
  · rename_i hhas
    have hnone : under entries s = [] := by
      rw [under, List.filter_eq_nil_iff]
      exact fun entry hentry hkey => hhas (List.any_eq_true.mpr ⟨entry, hentry, hkey⟩)
    rw [under_append, under_self, hnone, List.nil_append]

theorem putAll_append (entries more last : Entries Value ν) :
    putAll entries (more ++ last) = putAll (putAll entries more) last := List.foldl_append

/-- Of what is put under a text into no entries, the last is left. -/
theorem under_putAll (more : Entries Value ν) (s : String) :
    under (putAll [] more) s = (under more s).getLast?.toList := by
  induction more using List.reverseRecOn with
  | nil => rfl
  | append_singleton more entry ih =>
      have hput : putAll [] (more ++ [entry]) = put (putAll [] more) entry.1 entry.2 :=
        putAll_append ..
      rw [hput, under_append]
      by_cases h : entry.1 = .text s
      · have hlength : (under (putAll [] more) s).length ≤ 1 := by
          rw [ih]
          exact Option.length_toList_le
        obtain ⟨key, value⟩ := entry
        subst h
        rw [under_put_self hlength, under_self, List.getLast?_concat]
        rfl
      · rw [under_put_of_ne h, ih, under_of_ne h, List.append_nil]

theorem mem_putAll_of_last (h : (under more s).getLast? = some entry) : entry ∈ putAll [] more := by
  have hmem : entry ∈ under (putAll [] more) s := by
    rw [under_putAll, h]
    exact List.mem_singleton_self _
  exact (mem_under.mp hmem).1

/-- A text that something was put under is a key. -/
theorem left_of_put (h : entry ∈ more) (hkey : entry.1 = .text s) :
    ∃ left ∈ putAll [] more, left.1 = .text s := by
  have hne : under more s ≠ [] := List.ne_nil_of_mem (mem_under.mpr ⟨h, hkey⟩)
  exact ⟨_, mem_putAll_of_last (List.getLast?_eq_some_getLast hne),
    (mem_under.mp (List.getLast_mem hne)).2⟩

/-- Nothing is a key that nothing was put under. -/
theorem key_of_mem_putAll (h : entry ∈ putAll [] more) : ∃ before ∈ more, before.1 = entry.1 := by
  induction more using List.reverseRecOn generalizing entry with
  | nil => cases h
  | append_singleton more last ih =>
      have hput : putAll [] (more ++ [last]) = put (putAll [] more) last.1 last.2 :=
        putAll_append ..
      rw [hput] at h
      rcases key_of_mem_put h with hkey | ⟨before, hbefore, hkey⟩
      · exact ⟨last, List.mem_append_right _ (List.mem_singleton_self _), hkey.symm⟩
      · obtain ⟨first, hfirst, heq⟩ := ih hbefore
        exact ⟨first, List.mem_append_left _ hfirst, heq.trans hkey⟩

/-! ## What a text stands for -/

/-- The value that a text was given last. -/
def latest (entries : Entries Value ν) (s : String) : Option ν :=
  (under entries s).getLast?.map (·.2)

theorem get?_text : get? entries (.text s) = (under entries s).head?.map (·.2) := by
  rw [under, List.head?_filter, get?]

/-- Of what is put under a text the last is found. -/
theorem get?_putAll_text (more : Entries Value ν) (s : String) :
    get? (putAll [] more) (.text s) = latest more s := by
  rw [get?_text, under_putAll, latest]
  cases (under more s).getLast? <;> rfl

/-- A text with one value or none stands for just that. -/
theorem latest_of_under {value : Option ν}
    (h : under entries s = value.toList.map fun value => (.text s, value)) :
    latest entries s = value := by
  rw [latest, h]
  cases value <;> rfl

theorem latest_append : latest (entries ++ more) s = (latest more s).or (latest entries s) := by
  rw [latest, under_append, List.getLast?_append, Option.map_or]
  rfl

theorem latest_cons : latest ((.text t, value) :: entries) s
    = (latest entries s).or (if s = t then some value else none) := by
  rw [← List.singleton_append, latest_append]
  split
  · rename_i heq
    rw [heq, latest, latest, under_self]
    rfl
  · rename_i hne
    have hother : Value.text t ≠ .text s := fun htext => hne (Value.text.inj htext).symm
    rw [latest, latest, under_of_ne hother]
    rfl

theorem under_erase_self : under (erase entries (.text s)) s = [] := by
  refine under_eq_nil fun entry hentry htext => ?_
  have hkept := (List.mem_filter.mp hentry).2
  rw [Value.beq_text.mpr htext] at hkept
  cases hkept

theorem under_erase_of_ne (h : key ≠ .text s) : under (erase entries key) s = under entries s := by
  rw [under, erase, List.filter_filter]
  refine List.filter_congr fun entry _ => ?_
  cases hkey : entry.1 == .text s with
  | false => rfl
  | true =>
      have hother : (entry.1 == key) = false := by
        rw [Value.beq_text.mp hkey, ← Bool.not_eq_true, Value.text_beq]
        exact h
      rw [hother]
      rfl

/-! ## Names in order -/

/-- The texts among the keys, in order. -/
def names (entries : Entries Value ν) : List String := (entries.map (·.1)).filterMap Value.text?

end Entries

end Courier
