import Courier.Proofs.ShownValues
import Courier.Query

/-!
# Forms that cannot be written

A form is written field by field, from a map or from a sequence of pairs. For its type
it fails only if it is neither, or where an item of the sequence has no parts at all. All
other failures are those of a form that `Breaks` (`fails_encode_iff`): at a name or a value
without a text, or at an item that has parts, but not two.

A form may also be written as nothing, if it is `Vacant` (`encode_eq_nil_iff`). That takes
more than a map without members, since a list without elements gives no fields.
-/

namespace Courier

variable {kind : Kind} {v name value item : Value} {items : List Value}

namespace Query

/-! ## Fields -/

/-- The name of a field or one of its values has no text. -/
def Unwritten (name value : Value) : Prop :=
  name.Unshown Value.nestingLimit ∨ ∃ v ∈ spread value, v.Unshown Value.nestingLimit

theorem component_cases (v : Value) : (∃ bs, v = .bytes bs ∧ ∃ text, component v = .ok text)
    ∨ component v = v.plain.map Text.Percent.encode := by
  unfold component
  split
  · exact .inl ⟨_, rfl, _, rfl⟩
  · exact .inr rfl

theorem component_fails_iff :
    (∃ failure, component v = .error failure) ↔ v.Unshown Value.nestingLimit := by
  rcases component_cases v with ⟨bs, rfl, text, htext⟩ | hplain
  · rw [htext]
    exact iff_of_false (fun ⟨_, h⟩ => by cases h) (Value.not_unshown_bytes bs)
  · rw [hplain]
    exact map_fails_iff.trans Value.plain_fails_iff

theorem kind_of_component (h : Fails kind (component v)) : kind = .value ∨ kind = .recursion := by
  obtain ⟨failure, hfailure, rfl⟩ := h
  rcases component_cases v with ⟨bs, rfl, text, htext⟩ | hplain
  · cases htext.symm.trans hfailure
  · rw [hplain] at hfailure
    exact (Value.unwritable_plain (map_eq_error hfailure)).kind

theorem fieldsOf_fails_iff :
    (∃ failure, fieldsOf name value = .error failure) ↔ Unwritten name value := by
  have hvalues : (∃ failure, (spread value).mapM component = .error failure)
      ↔ ∃ v ∈ spread value, v.Unshown Value.nestingLimit := by
    simp only [mapM_fails_iff, component_fails_iff]
  refine bind_fails_iff.trans ?_
  simp only [mapM_fails_iff, map_fails_iff, component_fails_iff, Unwritten]
  constructor
  · exact fun h => h.imp id fun ⟨_, _, hvalue⟩ => hvalue
  · intro h
    cases hname : component name with
    | error failure => exact .inl (component_fails_iff.mp ⟨failure, hname⟩)
    | ok text => exact h.imp id fun hvalue => ⟨text, rfl, hvalue⟩

theorem kind_of_fieldsOf (h : Fails kind (fieldsOf name value)) :
    kind = .value ∨ kind = .recursion := by
  rcases fails_bind.mp h with hname | ⟨text, -, hvalues⟩
  · exact kind_of_component hname
  · obtain ⟨before, v, after, -, -, hfault⟩ := fails_mapM.mp hvalues
    exact kind_of_component (fails_map.mp hfault)

theorem ne_type_of_fieldsOf (h : Fails kind (fieldsOf name value)) : kind ≠ .type := by
  rintro rfl
  rcases kind_of_fieldsOf h with hkind | hkind <;> cases hkind

/-- A field has no values, and a name that could be written. -/
def Valueless (name value : Value) : Prop :=
  ¬ name.Unshown Value.nestingLimit ∧ spread value = []

theorem fieldsOf_eq_nil_iff : fieldsOf name value = .ok [] ↔ Valueless name value := by
  constructor
  · intro h
    obtain ⟨text, hname, hvalues⟩ := bind_eq_ok h
    refine ⟨fun hunshown => ?_, ?_⟩
    · obtain ⟨failure, hfailure⟩ := component_fails_iff.mpr hunshown
      cases hname.symm.trans hfailure
    · cases hspread : spread value with
      | nil => rfl
      | cons v more =>
          rw [hspread] at hvalues
          cases mapM_eq_ok.mp hvalues
  · rintro ⟨hshown, hspread⟩
    cases hname : component name with
    | error failure => exact absurd (component_fails_iff.mp ⟨failure, hname⟩) hshown
    | ok text =>
        rw [fieldsOf, hname, hspread]
        rfl

/-- No field is written as nothing: there is a mark behind its name. -/
theorem ne_nil_of_fieldsOf {fields : List (List Char)} (h : fieldsOf name value = .ok fields) :
    ∀ field ∈ fields, field ≠ [] := by
  obtain ⟨text, -, hvalues⟩ := bind_eq_ok h
  intro field hfield
  obtain ⟨v, -, hv⟩ := mem_of_mapM_eq_ok hvalues field hfield
  obtain ⟨shown, -, rfl⟩ := map_eq_ok hv
  simp

/-! ## Sequences of pairs -/

/-- The fields of an element of a sequence of pairs. -/
def fieldsOfPair (item : Value) : Except Failure (List (List Char)) :=
  (pairOf item).bind fun pair => fieldsOf pair.1 pair.2

/-- The element is a pair that can be written. -/
def Whole (item : Value) : Prop :=
  ∃ name value, item.elements? = some [name, value] ∧ ¬ Unwritten name value

/-- The element has parts, but is no pair that can be written. -/
def Faulty (item : Value) : Prop :=
  ∃ parts, item.elements? = some parts
    ∧ ∀ name value, parts = [name, value] → Unwritten name value

/-- What an element is for a sequence of pairs: a pair, of another number of parts,
or without any. -/
theorem fieldsOfPair_cases (item : Value) :
    (∃ name value, item.elements? = some [name, value] ∧ fieldsOfPair item = fieldsOf name value)
      ∨ (∃ parts, item.elements? = some parts ∧ (∀ name value, parts ≠ [name, value])
        ∧ ∃ fault, fieldsOfPair item = .error (.unacceptable fault))
      ∨ item.elements? = none ∧ ∃ fault, fieldsOfPair item = .error (.misuse fault) := by
  unfold fieldsOfPair pairOf
  split
  · rename_i name value helements
    exact .inl ⟨name, value, helements, rfl⟩
  · rename_i helements
    exact .inr (.inl ⟨_, helements, nofun, _, rfl⟩)
  · rename_i helements
    exact .inr (.inl ⟨_, helements, nofun, _, rfl⟩)
  · rename_i parts hpair _ _ helements
    refine .inr (.inl ⟨parts, helements, ?_, _, rfl⟩)
    rintro name value rfl
    exact hpair name value rfl
  · rename_i helements
    exact .inr (.inr ⟨helements, _, rfl⟩)

theorem exists_pair_iff {p : Value → Value → Prop} (h : item.elements? = some [name, value]) :
    (∃ name value, item.elements? = some [name, value] ∧ p name value) ↔ p name value := by
  rw [h]
  constructor
  · rintro ⟨_, _, ⟨⟩, hp⟩
    exact hp
  · exact fun hp => ⟨name, value, rfl, hp⟩

theorem fieldsOfPair_ok_iff : (∃ fields, fieldsOfPair item = .ok fields) ↔ Whole item := by
  unfold Whole
  rcases fieldsOfPair_cases item with ⟨name, value, helements, hfields⟩
    | ⟨parts, helements, hparts, fault, hfault⟩ | ⟨helements, fault, hfault⟩
  · rw [exists_pair_iff helements, hfields, ← fieldsOf_fails_iff]
    cases fieldsOf name value <;> simp
  · rw [hfault, helements]
    refine iff_of_false (fun ⟨_, h⟩ => by cases h) ?_
    rintro ⟨name, value, heq, -⟩
    exact hparts name value (Option.some.inj heq)
  · rw [hfault, helements]
    exact iff_of_false (fun ⟨_, h⟩ => by cases h) (fun ⟨_, _, h, _⟩ => by cases h)

theorem fails_fieldsOf_iff :
    (∃ kind, kind ≠ .type ∧ Fails kind (fieldsOf name value)) ↔ Unwritten name value :=
  (fails_other_iff fun _ => ne_type_of_fieldsOf).trans fieldsOf_fails_iff

/-- Except for elements without parts, an element fails exactly if it is faulty. -/
theorem fieldsOfPair_fails_iff :
    (∃ kind, kind ≠ .type ∧ Fails kind (fieldsOfPair item)) ↔ Faulty item := by
  unfold Faulty
  rcases fieldsOfPair_cases item with ⟨name, value, helements, hfields⟩
    | ⟨parts, helements, hparts, fault, hfault⟩ | ⟨helements, fault, hfault⟩
  · rw [hfields, helements, fails_fieldsOf_iff]
    refine ⟨fun h => ⟨_, rfl, ?_⟩, ?_⟩
    · rintro _ _ ⟨⟩
      exact h
    · rintro ⟨_, ⟨⟩, h⟩
      exact h name value rfl
  · rw [hfault, helements]
    exact iff_of_true ⟨.value, nofun, fails_error.mpr rfl⟩
      ⟨parts, rfl, fun name value heq => absurd heq (hparts name value)⟩
  · rw [hfault, helements]
    refine iff_of_false ?_ (fun ⟨_, h, _⟩ => by cases h)
    rintro ⟨kind, hkind, hfails⟩
    exact hkind (fails_error.mp hfails).symm

theorem kind_of_fieldsOfPair (h : Fails kind (fieldsOfPair item)) :
    kind = .type ∨ kind = .value ∨ kind = .recursion := by
  rcases fieldsOfPair_cases item with ⟨name, value, -, hfields⟩ | ⟨-, -, -, fault, hfault⟩
    | ⟨-, fault, hfault⟩
  · rw [hfields] at h
    exact .inr (kind_of_fieldsOf h)
  · rw [hfault] at h
    exact .inr (.inl (fails_error.mp h).symm)
  · rw [hfault] at h
    exact .inl (fails_error.mp h).symm

/-- The items of a sequence whose first item is a tuple. -/
def Paired (v : Value) (items : List Value) : Prop :=
  v.sequence? = some items ∧ ∃ first, items.head? = some (.tuple first)

/-- Only a value without elements or a sequence of pairs is written, if it is no map. -/
theorem pairs_cases (v : Value) : (v.elements? = some [] ∧ pairs v = .ok [])
    ∨ (∃ items, Paired v items ∧ pairs v = .ok items)
    ∨ v.elements? ≠ some [] ∧ (∀ items, ¬ Paired v items)
      ∧ pairs v = .error (.misuse .notFields) := by
  unfold pairs
  split
  · rename_i first rest
    exact .inr (.inl ⟨_, ⟨rfl, first, rfl⟩, rfl⟩)
  · rename_i first rest
    exact .inr (.inl ⟨_, ⟨rfl, first, rfl⟩, rfl⟩)
  · rename_i hlist htuple
    split
    · rename_i helements
      exact .inl ⟨helements, rfl⟩
    · rename_i helements
      refine .inr (.inr ⟨helements, ?_, rfl⟩)
      rintro items ⟨hitems, first, hfirst⟩
      obtain ⟨rest, rfl⟩ := List.head?_eq_some_iff.mp hfirst
      cases v with
      | list => cases hitems; exact hlist first rest rfl
      | tuple => cases hitems; exact htuple first rest rfl
      | _ => cases hitems

/-! ## Forms -/

theorem Paired.members (h : Paired v items) : v.members? = none := by
  obtain ⟨hitems, -⟩ := h
  cases v <;> first | rfl | cases hitems

theorem Paired.elements (h : Paired v items) : v.elements? = some items := by
  obtain ⟨hitems, -⟩ := h
  cases v <;> first | exact hitems | cases hitems

theorem Paired.unique {others : List Value} (h : Paired v items) (h' : Paired v others) :
    items = others := Option.some.inj (h.1.symm.trans h'.1)

theorem not_paired_nil : ¬ Paired v [] := fun ⟨_, _, h⟩ => by cases h

theorem not_paired (h : v.sequence? = none) (items : List Value) : ¬ Paired v items :=
  fun hpaired => by cases h.symm.trans hpaired.1

theorem encode_of_pairs (hmembers : v.members? = none) (h : pairs v = .ok items) :
    encode v = (items.mapM fieldsOfPair).map join := by
  have hitems : encode v = (items.mapM fieldsOfPair).bind fun fields => .ok (join fields) := by
    rw [encode, hmembers]
    simp only [h]
    rfl
  rw [hitems]
  cases items.mapM fieldsOfPair <;> rfl

/-- What a value is for a form: a map, without elements, a sequence of pairs, or no form. -/
theorem encode_cases (v : Value) :
    (∃ entries, v.members? = some entries
        ∧ encode v = (entries.mapM fun entry => fieldsOf entry.1 entry.2).map join)
      ∨ (v.members? = none ∧ (∀ items, ¬ Paired v items)
        ∧ (v.elements? = some [] ∧ encode v = .ok []
          ∨ v.elements? ≠ some [] ∧ encode v = .error (.misuse .notFields)))
      ∨ ∃ items, Paired v items ∧ encode v = (items.mapM fieldsOfPair).map join := by
  cases hmembers : v.members? with
  | some entries =>
      refine .inl ⟨entries, rfl, ?_⟩
      rw [encode, hmembers]
  | none =>
      rcases pairs_cases v with ⟨hempty, hpairs⟩ | ⟨items, hpaired, hpairs⟩ | ⟨hfull, hnone, hpairs⟩
      · refine .inr (.inl ⟨rfl, fun items hpaired => ?_, .inl ⟨hempty, ?_⟩⟩)
        · cases hempty.symm.trans hpaired.elements
          exact not_paired_nil hpaired
        · rw [encode_of_pairs hmembers hpairs]
          rfl
      · exact .inr (.inr ⟨items, hpaired, encode_of_pairs hmembers hpairs⟩)
      · refine .inr (.inl ⟨rfl, hnone, .inr ⟨hfull, ?_⟩⟩)
        rw [encode, hmembers]
        simp only [hpairs]
        rfl

/-- Writing a form fails without telling why: for a member of a map that cannot be written,
or for the first faulty item of a sequence, if all in front of it are written. -/
inductive Breaks (v : Value) : Prop where
  | member {entries : List (Value × Value)} {entry : Value × Value}
      (members : v.members? = some entries) (mem : entry ∈ entries)
      (unwritten : Unwritten entry.1 entry.2) : Breaks v
  | item {before after : List Value} {item : Value} (items : Paired v (before ++ item :: after))
      (whole : ∀ passed ∈ before, Whole passed) (faulty : Faulty item) : Breaks v

theorem breaks_of_members {entries : List (Value × Value)} (h : v.members? = some entries) :
    Breaks v ↔ ∃ entry ∈ entries, Unwritten entry.1 entry.2 := by
  constructor
  · rintro (⟨hothers, hentry, hunwritten⟩ | ⟨hitems, -, -⟩)
    · cases h.symm.trans hothers
      exact ⟨_, hentry, hunwritten⟩
    · cases h.symm.trans hitems.members
  · rintro ⟨entry, hentry, hunwritten⟩
    exact .member h hentry hunwritten

theorem breaks_of_paired (h : Paired v items) :
    Breaks v ↔ ∃ before item after, items = before ++ item :: after
      ∧ (∀ passed ∈ before, Whole passed) ∧ Faulty item := by
  constructor
  · rintro (⟨hothers, -, -⟩ | ⟨hitems, hwhole, hfaulty⟩)
    · cases h.members.symm.trans hothers
    · exact ⟨_, _, _, h.unique hitems, hwhole, hfaulty⟩
  · rintro ⟨before, item, after, rfl, hbefore, hitem⟩
    exact .item h hbefore hitem

/-- What is neither a map nor a sequence of pairs does not break. -/
theorem not_breaks (hmembers : v.members? = none) (hpaired : ∀ items, ¬ Paired v items) :
    ¬ Breaks v := by
  rintro (⟨hothers, -, -⟩ | ⟨hitems, -, -⟩)
  · cases hmembers.symm.trans hothers
  · exact hpaired _ hitems

/-- Members fail if any of them cannot be written, and never for a type. -/
theorem fails_members_iff {entries : List (Value × Value)} :
    (∃ kind, kind ≠ .type ∧ Fails kind (entries.mapM fun entry => fieldsOf entry.1 entry.2))
      ↔ ∃ entry ∈ entries, Unwritten entry.1 entry.2 := by
  rw [fails_other_iff, mapM_fails_iff]
  · simp only [fieldsOf_fails_iff]
  · intro kind hfails
    obtain ⟨before, entry, after, -, -, hentry⟩ := fails_mapM.mp hfails
    exact ne_type_of_fieldsOf hentry

theorem fails_items_iff : (∃ kind, kind ≠ .type ∧ Fails kind (items.mapM fieldsOfPair))
    ↔ ∃ before item after, items = before ++ item :: after
      ∧ (∀ passed ∈ before, Whole passed) ∧ Faulty item := by
  simp only [fails_mapM, fieldsOfPair_ok_iff, ← fieldsOfPair_fails_iff]
  constructor
  · rintro ⟨kind, hkind, before, item, after, hitems, hbefore, hitem⟩
    exact ⟨before, item, after, hitems, hbefore, kind, hkind, hitem⟩
  · rintro ⟨before, item, after, hitems, hbefore, kind, hkind, hitem⟩
    exact ⟨kind, hkind, before, item, after, hitems, hbefore, hitem⟩

/-- Writing a form fails, but not for a type, exactly where it breaks. -/
theorem fails_encode_iff : (∃ kind, kind ≠ .type ∧ Fails kind (encode v)) ↔ Breaks v := by
  rcases encode_cases v with ⟨entries, hentries, hencode⟩
    | ⟨hmembers, hnone, ⟨-, hencode⟩ | ⟨-, hencode⟩⟩ | ⟨items, hpaired, hencode⟩
  · simp only [hencode, fails_map]
    rw [fails_members_iff, breaks_of_members hentries]
  · rw [hencode]
    exact iff_of_false (fun ⟨_, _, h⟩ => not_fails_ok _ h) (not_breaks hmembers hnone)
  · rw [hencode]
    refine iff_of_false ?_ (not_breaks hmembers hnone)
    rintro ⟨kind, hkind, h⟩
    exact hkind (fails_error.mp h).symm
  · simp only [hencode, fails_map]
    rw [fails_items_iff, breaks_of_paired hpaired]

/-- Writing a form fails for a type, for a value that cannot be had, or for a depth. -/
theorem kind_of_encode (h : Fails kind (encode v)) :
    kind = .type ∨ kind = .value ∨ kind = .recursion := by
  rcases encode_cases v with ⟨entries, -, hencode⟩ | ⟨-, -, ⟨-, hencode⟩ | ⟨-, hencode⟩⟩
    | ⟨items, -, hencode⟩
  · rw [hencode, fails_map, fails_mapM] at h
    obtain ⟨before, entry, after, -, -, hentry⟩ := h
    exact .inr (kind_of_fieldsOf hentry)
  · rw [hencode] at h
    exact absurd h (not_fails_ok _)
  · rw [hencode] at h
    exact .inl (fails_error.mp h).symm
  · rw [hencode, fails_map, fails_mapM] at h
    obtain ⟨before, item, after, -, -, hitem⟩ := h
    exact kind_of_fieldsOfPair hitem

/-! ## Empty forms -/

/-- Nothing is written: the value has no elements, or no field of it has any values. -/
inductive Vacant (v : Value) : Prop where
  | elementless (elements : v.elements? = some []) : Vacant v
  | members {entries : List (Value × Value)} (members : v.members? = some entries)
      (valueless : ∀ entry ∈ entries, Valueless entry.1 entry.2) : Vacant v
  | items {items : List Value} (paired : Paired v items)
      (valueless : ∀ item ∈ items, ∃ name value, item.elements? = some [name, value]
        ∧ Valueless name value) : Vacant v

theorem elements_of_members {entries : List (Value × Value)} (h : v.members? = some entries) :
    v.elements? = some (entries.map (·.1)) := by
  cases v with
  | map =>
      cases h
      rfl
  | knot mapHalf =>
      cases mapHalf <;> cases h
      rfl
  | _ => cases h

theorem vacant_of_members {entries : List (Value × Value)} (h : v.members? = some entries) :
    Vacant v ↔ ∀ entry ∈ entries, Valueless entry.1 entry.2 := by
  constructor
  · rintro (helements | ⟨hothers, hvalueless⟩ | ⟨hitems, -⟩)
    · have hnone : entries.map (·.1) = [] :=
        Option.some.inj ((elements_of_members h).symm.trans helements)
      rw [List.map_eq_nil_iff.mp hnone]
      exact List.forall_mem_nil _
    · cases h.symm.trans hothers
      exact hvalueless
    · cases h.symm.trans hitems.members
  · exact .members h

theorem vacant_of_paired (h : Paired v items) : Vacant v ↔ ∀ item ∈ items,
    ∃ name value, item.elements? = some [name, value] ∧ Valueless name value := by
  constructor
  · rintro (helements | ⟨hothers, -⟩ | ⟨hitems, hvalueless⟩)
    · cases helements.symm.trans h.elements
      exact absurd h not_paired_nil
    · cases h.members.symm.trans hothers
    · cases h.unique hitems
      exact hvalueless
  · exact .items h

theorem vacant_iff_elementless (hmembers : v.members? = none) (hsequence : v.sequence? = none) :
    Vacant v ↔ v.elements? = some [] := by
  constructor
  · rintro (helements | ⟨hothers, -⟩ | ⟨hpaired, -⟩)
    · exact helements
    · cases hmembers.symm.trans hothers
    · exact absurd hpaired (not_paired hsequence _)
  · exact .elementless

theorem intercalate_ne_nil {field : List Char} {fields : List (List Char)} (h : field ≠ []) :
    ['&'].intercalate (field :: fields) ≠ [] := by
  cases fields with
  | nil =>
      rw [List.intercalate_singleton]
      exact h
  | cons next fields =>
      rw [List.intercalate_cons_cons, List.append_assoc]
      exact List.append_ne_nil_of_left_ne_nil h _

/-- Fields that are not empty themselves are joined to nothing only if there are none. -/
theorem join_eq_nil_iff {fields : List (List (List Char))}
    (h : ∀ group ∈ fields, ∀ field ∈ group, field ≠ []) :
    join fields = [] ↔ ∀ group ∈ fields, group = [] := by
  rw [← List.flatten_eq_nil_iff, join]
  cases hflatten : fields.flatten with
  | nil => simp
  | cons field rest =>
      have hmem : field ∈ fields.flatten := hflatten ▸ List.mem_cons_self ..
      obtain ⟨group, hgroup, hfield⟩ := List.mem_flatten.mp hmem
      exact iff_of_false (intercalate_ne_nil (h group hgroup field hfield)) (List.cons_ne_nil _ _)

theorem joined_eq_nil_iff {α : Type} {parts : List α} {f : α → Except Failure (List (List Char))}
    (h : ∀ part group, f part = .ok group → ∀ field ∈ group, field ≠ []) :
    (parts.mapM f).map join = .ok [] ↔ ∀ part ∈ parts, f part = .ok [] := by
  cases hall : parts.mapM f with
  | error failure =>
      obtain ⟨part, hpart, hfault⟩ := mapM_error hall
      exact iff_of_false (fun h => by cases h)
        fun hparts => by cases hfault.symm.trans (hparts part hpart)
  | ok groups =>
      have hgroups : ∀ group ∈ groups, ∃ part ∈ parts, f part = .ok group :=
        mem_of_mapM_eq_ok hall
      have hjoin : join groups = [] ↔ ∀ group ∈ groups, group = [] := by
        refine join_eq_nil_iff fun group hgroup => ?_
        obtain ⟨part, -, hpart⟩ := hgroups group hgroup
        exact h part group hpart
      refine Iff.trans ⟨Except.ok.inj, congrArg Except.ok⟩ (hjoin.trans ⟨?_, ?_⟩)
      · intro hempty part hpart
        obtain ⟨group, hgroup, hresult⟩ := exists_of_mem_left (mapM_eq_ok.mp hall) hpart
        rw [hresult, hempty group hgroup]
      · intro hparts group hgroup
        obtain ⟨part, hpart, hresult⟩ := hgroups group hgroup
        exact Except.ok.inj (hresult.symm.trans (hparts part hpart))

theorem fieldsOfPair_eq_nil_iff : fieldsOfPair item = .ok []
    ↔ ∃ name value, item.elements? = some [name, value] ∧ Valueless name value := by
  rcases fieldsOfPair_cases item with ⟨name, value, helements, hfields⟩
    | ⟨parts, helements, hparts, fault, hfault⟩ | ⟨helements, fault, hfault⟩
  · rw [exists_pair_iff helements, hfields, fieldsOf_eq_nil_iff]
  · rw [hfault, helements]
    refine iff_of_false (fun h => by cases h) ?_
    rintro ⟨name, value, heq, -⟩
    exact hparts name value (Option.some.inj heq)
  · rw [hfault, helements]
    exact iff_of_false (fun h => by cases h) (fun ⟨_, _, h, _⟩ => by cases h)

theorem ne_nil_of_fieldsOfPair {fields : List (List Char)} (h : fieldsOfPair item = .ok fields) :
    ∀ field ∈ fields, field ≠ [] := by
  obtain ⟨pair, -, hfields⟩ := bind_eq_ok h
  exact ne_nil_of_fieldsOf hfields

theorem encode_eq_nil_iff : encode v = .ok [] ↔ Vacant v := by
  rcases encode_cases v with ⟨entries, hentries, hencode⟩
    | ⟨hmembers, hnone, ⟨hempty, hencode⟩ | ⟨hfull, hencode⟩⟩ | ⟨items, hpaired, hencode⟩
  · rw [hencode, joined_eq_nil_iff fun _ _ => ne_nil_of_fieldsOf, vacant_of_members hentries]
    simp only [fieldsOf_eq_nil_iff]
  · exact iff_of_true hencode (.elementless hempty)
  · rw [hencode]
    refine iff_of_false (fun h => by cases h) ?_
    rintro (helements | ⟨hothers, -⟩ | ⟨hitems, -⟩)
    · exact hfull helements
    · cases hmembers.symm.trans hothers
    · exact hnone _ hitems
  · rw [hencode, joined_eq_nil_iff fun _ _ => ne_nil_of_fieldsOfPair, vacant_of_paired hpaired]
    simp only [fieldsOfPair_eq_nil_iff]

end Query

end Courier
