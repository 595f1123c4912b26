import Courier.Payload
import Courier.Proofs.BodyFraming
import Courier.Proofs.Forms
import Courier.Proofs.JsonReads
import Courier.Proofs.JsonWrites

/-!
# What becomes of payloads

A payload that is sent as it is (`raw?`) never fails. Any other one is written in the
format of the client, and failures of writing are explained as failures of the payload.
Not all of them are: a payload that is nested too deep is explained in neither format,
and of forms only failures for a type are. `Escapes` tells which payloads fail without
being explained, `Blank` which ones leave no bytes to be sent, and nothing else happens
(`serialize_settles_iff`).
-/

namespace Courier

variable {kind : Kind}

namespace Payload

open Text

variable {payload : Value} {format : BodyFormat} {bytes : List UInt8}

section Explained

variable {α : Type} {explained : Kind → Bool} {result : Except Failure α} {a : α}

theorem explain_eq_ok : explain payload format explained result = .ok a ↔ result = .ok a := by
  cases result with
  | ok b => exact Iff.rfl
  | error failure =>
      refine iff_of_false (fun h => ?_) (fun h => by cases h)
      cases hexplained : explained failure.kind <;> simp [explain, hexplained] at h

/-- What is explained fails as a failure of the payload, all else as it did. -/
theorem fails_explain (hkind : kind ≠ .serialization) :
    Fails kind (explain payload format explained result)
      ↔ explained kind = false ∧ Fails kind result := by
  cases result with
  | ok a => exact iff_of_false (not_fails_ok a) fun h => not_fails_ok a h.2
  | error failure =>
      cases hexplained : explained failure.kind with
      | true =>
          rw [explain, if_pos hexplained, fails_error, fails_error]
          refine iff_of_false (fun h => hkind h.symm) ?_
          rintro ⟨hunexplained, rfl⟩
          cases hexplained.symm.trans hunexplained
      | false =>
          rw [explain, if_neg (by rw [hexplained]; exact Bool.false_ne_true), fails_error]
          exact ⟨fun h => ⟨h ▸ hexplained, h⟩, And.right⟩

end Explained

/-! ## Payloads that are sent as they are -/

/-- The bytes of a payload that is sent as it is; nothing has none. -/
def raw? : Value → Option (List UInt8)
  | .null => some []
  | .bytes bs | .byteArray bs => some bs
  | _ => none

/-- The body of these bytes: none if there are no bytes. -/
def bodyOf (bytes : List UInt8) : Option (List UInt8) :=
  if bytes.isEmpty then none else some bytes

theorem bodyOf_eq_none_iff : bodyOf bytes = none ↔ bytes = [] := by
  cases bytes <;> simp [bodyOf]

theorem serialize_of_raw (h : raw? payload = some bytes) :
    serialize payload format = .ok (bodyOf bytes) := by
  cases payload <;> first | cases h; rfl | cases h

theorem serialize_of_text (h : raw? payload = none) :
    serialize payload format = (text payload format).map fun s => bodyOf (Utf8.encode s) := by
  cases payload <;> first | rfl | cases h

theorem members_of_raw (h : raw? payload = some bytes) : payload.members? = none := by
  cases payload <;> first | rfl | cases h

theorem sequence_of_raw (h : raw? payload = some bytes) : payload.sequence? = none := by
  cases payload <;> first | rfl | cases h

theorem bracketed_of_raw (h : raw? payload = some bytes) : Json.bracketed payload = false := by
  cases payload <;> first | rfl | cases h

theorem eq_nil_of_raw (h : raw? payload = some bytes) (helements : payload.elements? = some []) :
    bytes = [] := by
  cases payload with
  | bytes | byteArray =>
      cases h
      exact List.map_eq_nil_iff.mp (Option.some.inj helements)
  | null => cases helements
  | _ => cases h

/-! ## Payloads that are written -/

/-- No bytes are left to be sent. -/
inductive Blank : Value → BodyFormat → Prop where
  | raw {payload : Value} {format : BodyFormat} (bytes : raw? payload = some []) :
      Blank payload format
  | form {payload : Value} (vacant : Query.Vacant payload) : Blank payload .form

/-- Writing the payload fails in a way that is not explained. -/
inductive Escapes : Value → BodyFormat → Prop where
  | form {payload : Value} (breaks : Query.Breaks payload) : Escapes payload .form
  | value {payload : Value} (deep : Json.OverdeepValue Value.nestingLimit payload) :
      Escapes payload .json
  | text {s : String} (deep : Json.TooDeep s.toList) : Escapes (.text s) .json

theorem blank_of_raw (h : raw? payload = some bytes) : Blank payload format ↔ bytes = [] := by
  constructor
  · rintro (hraw | hvacant)
    · exact Option.some.inj (h.symm.trans hraw)
    · exact eq_nil_of_raw h
        ((Query.vacant_iff_elementless (members_of_raw h) (sequence_of_raw h)).mp hvacant)
  · rintro rfl
    exact .raw h

theorem not_escapes_raw (h : raw? payload = some bytes) : ¬ Escapes payload format := by
  rintro (hbreaks | hdeep | hdeep)
  · exact Query.not_breaks (members_of_raw h) (Query.not_paired (sequence_of_raw h)) hbreaks
  · exact Json.not_overdeep (bracketed_of_raw h) _ hdeep
  · cases h

/-- What is no text is written in the format, and failures of that are explained. -/
theorem text_cases (payload : Value) : (∃ s, payload = .text s)
    ∨ (∀ s, payload ≠ .text s)
      ∧ text payload .form = explain payload .form explainedForm (Query.encode payload)
      ∧ text payload .json = explain payload .json explainedJson (Json.write payload) := by
  cases payload with
  | text s => exact .inl ⟨s, rfl⟩
  | _ => exact .inr ⟨nofun, rfl, rfl⟩

theorem read_nil : ∃ failure, Json.read [] = .error failure := ⟨_, rfl⟩

theorem form_eq_nil_iff : text payload .form = .ok [] ↔ Query.Vacant payload := by
  rcases text_cases payload with ⟨s, rfl⟩ | ⟨-, hform, -⟩
  · rw [Query.vacant_iff_elementless rfl rfl]
    simp [text, Value.elements?]
  · rw [hform, explain_eq_ok]
    exact Query.encode_eq_nil_iff

theorem json_ne_nil : text payload .json ≠ .ok [] := by
  intro htext
  rcases text_cases payload with ⟨s, rfl⟩ | ⟨-, -, hjson⟩
  · obtain ⟨v, hread, hs⟩ := map_eq_ok (explain_eq_ok.mp htext)
    obtain ⟨failure, hfailure⟩ := read_nil
    rw [hs] at hread
    cases hfailure.symm.trans hread
  · rw [hjson, explain_eq_ok] at htext
    exact Json.ne_nil_of_writeWithin htext rfl

theorem text_eq_nil_iff (h : raw? payload = none) :
    text payload format = .ok [] ↔ Blank payload format := by
  constructor
  · intro htext
    cases format with
    | form => exact .form (form_eq_nil_iff.mp htext)
    | json => exact absurd htext json_ne_nil
  · rintro (hraw | hvacant)
    · cases h.symm.trans hraw
    · exact form_eq_nil_iff.mpr hvacant

theorem serialize_eq_none_iff : serialize payload format = .ok none ↔ Blank payload format := by
  cases h : raw? payload with
  | some bytes =>
      rw [serialize_of_raw h, blank_of_raw h, ← bodyOf_eq_none_iff]
      exact ⟨Except.ok.inj, congrArg Except.ok⟩
  | none =>
      rw [serialize_of_text h, ← text_eq_nil_iff h]
      constructor
      · intro hnone
        obtain ⟨s, hs, hbody⟩ := map_eq_ok hnone
        rw [hs]
        by_contra hne
        exact Utf8.encode_ne_nil (fun hnil => hne (congrArg Except.ok hnil))
          (bodyOf_eq_none_iff.mp hbody)
      · intro hnil
        rw [hnil]
        rfl

/-! ## Failures that are not explained -/

theorem fails_form (hkind : kind ≠ .serialization) :
    Fails kind (explain payload .form explainedForm (Query.encode payload))
      ↔ kind ≠ .type ∧ Fails kind (Query.encode payload) := by
  rw [fails_explain hkind, explainedForm, beq_eq_false_iff_ne]

theorem fails_json {α : Type} {result : Except Failure α} (hkind : kind ≠ .serialization) :
    Fails kind (explain payload .json explainedJson result)
      ↔ (kind ≠ .type ∧ kind ≠ .value ∧ kind ≠ .json) ∧ Fails kind result := by
  rw [fails_explain hkind]
  simp [explainedJson, and_assoc]

theorem recursion_of_fails_json {s : String} (hkind : kind ≠ .serialization)
    (h : Fails kind (text (.text s) .json)) : kind = .recursion ∧ Json.TooDeep s.toList := by
  obtain ⟨⟨-, hvalue, hjson⟩, hfails⟩ := (fails_json hkind).mp h
  obtain ⟨failure, hread, rfl⟩ := fails_map.mp hfails
  rcases Json.kind_of_read hread with hother | hother | hdeep
  · exact absurd hother hjson
  · exact absurd hother hvalue
  · exact hdeep

/-- A failure that is not explained is a value that cannot be had, in a form, or a depth. -/
theorem kind_of_text (hkind : kind ≠ .serialization) (h : Fails kind (text payload format)) :
    format = .form ∧ kind = .value ∨ kind = .recursion := by
  rcases text_cases payload with ⟨s, rfl⟩ | ⟨-, hform, hjson⟩
  · cases format with
    | form => exact absurd h (not_fails_ok _)
    | json => exact .inr (recursion_of_fails_json hkind h).1
  · cases format with
    | form =>
        rw [hform] at h
        obtain ⟨htype, hencode⟩ := (fails_form hkind).mp h
        rcases Query.kind_of_encode hencode with hother | hvalue | hdeep
        · exact absurd hother htype
        · exact .inl ⟨rfl, hvalue⟩
        · exact .inr hdeep
    | json =>
        rw [hjson] at h
        obtain ⟨⟨htype, hvalue, -⟩, hwrite⟩ := (fails_json hkind).mp h
        rcases Json.kind_of_writeWithin hwrite with hother | hother | hdeep
        · exact absurd hother htype
        · exact absurd hother hvalue
        · exact .inr hdeep

theorem escapes_form_iff :
    (∃ kind, kind ≠ .serialization ∧ Fails kind (text payload .form)) ↔ Query.Breaks payload := by
  rcases text_cases payload with ⟨s, rfl⟩ | ⟨-, hform, -⟩
  · refine iff_of_false ?_ (Query.not_breaks rfl (Query.not_paired rfl))
    rintro ⟨kind, -, h⟩
    exact not_fails_ok _ h
  · rw [hform, ← Query.fails_encode_iff]
    constructor
    · rintro ⟨kind, hkind, h⟩
      exact ⟨kind, (fails_form hkind).mp h⟩
    · rintro ⟨kind, htype, h⟩
      have hkind : kind ≠ .serialization := by
        rintro rfl
        rcases Query.kind_of_encode h with hkind | hkind | hkind <;> cases hkind
      exact ⟨kind, hkind, (fails_form hkind).mpr ⟨htype, h⟩⟩

theorem escapes_json_iff :
    (∃ kind, kind ≠ .serialization ∧ Fails kind (text payload .json)) ↔ Escapes payload .json := by
  have hrecursion : Kind.recursion ≠ .serialization := nofun
  rcases text_cases payload with ⟨s, rfl⟩ | ⟨hother, -, hjson⟩
  · constructor
    · rintro ⟨kind, hkind, h⟩
      exact .text (recursion_of_fails_json hkind h).2
    · rintro (- | hdeep | hdeep)
      · exact absurd hdeep (Json.not_overdeep rfl _)
      · exact ⟨.recursion, hrecursion, (fails_json hrecursion).mpr
          ⟨⟨nofun, nofun, nofun⟩, fails_map.mpr (Json.read_of_tooDeep hdeep)⟩⟩
  · constructor
    · rintro ⟨kind, hkind, h⟩
      have hdeep : kind = .recursion := (kind_of_text hkind h).elim (fun h => by cases h.1) id
      rw [hdeep, hjson, fails_json hrecursion] at h
      exact .value (Json.fails_writeWithin_iff.mp h.2)
    · rintro (- | hdeep | hdeep)
      · refine ⟨.recursion, hrecursion, ?_⟩
        rw [hjson, fails_json hrecursion]
        exact ⟨⟨nofun, nofun, nofun⟩, Json.fails_writeWithin_iff.mpr hdeep⟩
      · exact absurd rfl (hother _)

theorem escapes_iff (h : raw? payload = none) :
    (∃ kind, kind ≠ .serialization ∧ Fails kind (serialize payload format))
      ↔ Escapes payload format := by
  simp only [serialize_of_text h, fails_map]
  cases format with
  | form =>
      rw [escapes_form_iff]
      refine ⟨.form, ?_⟩
      rintro (hbreaks | - | -)
      exact hbreaks
  | json => exact escapes_json_iff

/-- A payload is left out exactly if it is blank, and a body has bytes. Failures name the
payload exactly if nothing escapes; what escapes is a value that cannot be had, in a form,
or the depth of the payload. -/
theorem serialize_settles_iff (payload : Value) (format : BodyFormat) :
    (serialize payload format = .ok none ↔ Blank payload format)
      ∧ (∀ body, serialize payload format = .ok (some body) → body ≠ [])
      ∧ ((∀ failure, serialize payload format = .error failure → failure.kind = .serialization)
        ↔ ¬ Escapes payload format)
      ∧ ∀ failure, serialize payload format = .error failure →
        failure.kind = .serialization ∨ format = .form ∧ failure.kind = .value
          ∨ failure.kind = .recursion := by
  refine ⟨serialize_eq_none_iff, fun body h hnil => serialize_ne_nil h (congrArg some hnil), ?_⟩
  cases hraw : raw? payload with
  | some bytes =>
      have hwhole : ∀ failure, serialize payload format ≠ .error failure := by
        rw [serialize_of_raw hraw]
        exact nofun
      exact ⟨iff_of_true (fun failure h => absurd h (hwhole failure)) (not_escapes_raw hraw),
        fun failure h => absurd h (hwhole failure)⟩
  | none =>
      constructor
      · rw [← escapes_iff hraw]
        constructor
        · rintro hexplained ⟨_, hkind, failure, h, rfl⟩
          exact hkind (hexplained failure h)
        · intro hescapes failure h
          by_contra hkind
          exact hescapes ⟨failure.kind, hkind, failure, h, rfl⟩
      · intro failure h
        by_cases hkind : failure.kind = .serialization
        · exact .inl hkind
        · rw [serialize_of_text hraw] at h
          exact .inr (kind_of_text hkind ⟨failure, map_eq_error h, rfl⟩)

/-- A form of an item with three parts fails, and does not name the payload. -/
theorem third_part_escapes : ∃ failure,
    serialize (.list [.tuple [.text "a", .int 1, .int 2]]) .form = .error failure
      ∧ failure.kind ≠ .serialization := ⟨.unacceptable .tooManyParts, rfl, nofun⟩

end Payload

end Courier
