import Courier.Proofs.Borders
import Courier.Proofs.Lines
import Courier.Proofs.Separators
import Courier.Payload

/-!
# Queries that are read back

A query is read by cutting it at `&`, each field at its first `=`, and by undoing the
encoding of names and values: `+` is a space, `%XX` is a byte, and the bytes are UTF-8
(`Query.read`). Neither mark stands in what is encoded, so that a query of any pairs of
texts gives these pairs back, in their order (`Query.read_written`). It takes no more than
letters and digits of ASCII and a few marks.

Where the parameters are texts and lists of texts, these pairs are one for each text
(`Query.encode_given`). The same is true of a form, except that no bytes at all are no body
(`Query.form_given`).
-/

namespace Courier

namespace Text

/-- Reads UTF-8. Bytes that are not UTF-8 have no text. -/
def Utf8.decode? (bytes : List UInt8) : Option (List Char) :=
  bytes.toByteArray.utf8Decode?.map Array.toList

theorem Utf8.decode?_encode (s : List Char) : decode? (encode s) = some s := by
  have hbytes : (encode s).toByteArray = s.utf8Encode := rfl
  rw [decode?, hbytes, List.utf8Decode?_utf8Encode, Option.map_some]

namespace Percent

variable {b : UInt8} {c : Char} {s : List Char}

/-- Reads percent-encoded bytes; other characters stand for their UTF-8. -/
def decodeBytes? : List Char → Option (List UInt8)
  | [] => some []
  | c :: rest =>
      if c = '%' then
        match rest with
        | high :: low :: rest => do
            let high ← hexValue? high
            let low ← hexValue? low
            (decodeBytes? rest).map (UInt8.ofNat (16 * high + low) :: ·)
        | _ => none
      else if c = '+' then (decodeBytes? rest).map (0x20 :: ·)
      else (decodeBytes? rest).map (String.utf8EncodeChar c ++ ·)

def decode? (s : List Char) : Option (List Char) := (decodeBytes? s).bind Utf8.decode?

/-- The character may stand in an encoded text. -/
def isCodeChar (c : Char) : Bool := c.isAlphanum || "_.-~%+".toList.contains c

theorem hexValue?_capitalHexDigit (n : Nat) : hexValue? (capitalHexDigit n) = some (n % 16) := by
  have hdigits : ∀ k < 16, hexValue? (Nat.digitChar k).toUpper = some k := by decide
  exact hdigits (n % 16) (Nat.mod_lt _ (by decide))

theorem isCodeChar_capitalHexDigit (n : Nat) : isCodeChar (capitalHexDigit n) = true := by
  have hdigits : ∀ k < 16, isCodeChar (Nat.digitChar k).toUpper = true := by decide
  exact hdigits (n % 16) (Nat.mod_lt _ (by decide))

/-- What a byte is that stands for itself. -/
structure Plain (b : UInt8) (c : Char) : Prop where
  code : isCodeChar c = true
  ne_percent : c ≠ '%'
  ne_plus : c ≠ '+'
  bytes : String.utf8EncodeChar c = [b]

theorem plain_of_unreserved (h : isUnreserved b = true) : Plain b (Char.ofNat b.toNat) := by
  have hall : ∀ n < 256, isUnreserved (UInt8.ofNat n) = true →
      isCodeChar (Char.ofNat n) = true ∧ Char.ofNat n ≠ '%' ∧ Char.ofNat n ≠ '+'
        ∧ String.utf8EncodeChar (Char.ofNat n) = [UInt8.ofNat n] := by decide +kernel
  obtain ⟨hcode, hpercent, hplus, hbytes⟩ := hall b.toNat b.toNat_lt (by rwa [UInt8.ofNat_toNat])
  exact ⟨hcode, hpercent, hplus, by rwa [UInt8.ofNat_toNat] at hbytes⟩

/-- Any other character than the two marks stands for itself, whatever follows. -/
theorem decodeBytes?_cons (hpercent : c ≠ '%') (hplus : c ≠ '+') (rest : List Char) :
    decodeBytes? (c :: rest) = (decodeBytes? rest).map (String.utf8EncodeChar c ++ ·) := by
  match rest with
  | [] => simp [decodeBytes?, hpercent, hplus]
  | [_] => simp [decodeBytes?, hpercent, hplus]
  | _ :: _ :: _ => simp [decodeBytes?, hpercent, hplus]

theorem decodeBytes?_plus (rest : List Char) :
    decodeBytes? ('+' :: rest) = (decodeBytes? rest).map (0x20 :: ·) := by
  match rest with
  | [] => rfl
  | [_] => rfl
  | _ :: _ :: _ => simp [decodeBytes?]

theorem decodeBytes?_encodeByte (b : UInt8) (rest : List Char) :
    decodeBytes? (encodeByte b ++ rest) = (decodeBytes? rest).map (b :: ·) := by
  unfold encodeByte
  split
  · rename_i hunreserved
    obtain ⟨-, hpercent, hplus, hbytes⟩ := plain_of_unreserved hunreserved
    rw [List.singleton_append, decodeBytes?_cons hpercent hplus, hbytes]
    rfl
  · split
    · rename_i hspace
      rw [hspace, List.singleton_append, decodeBytes?_plus]
    · have hvalue : UInt8.ofNat (16 * (b.toNat / 16 % 16) + b.toNat % 16) = b := by
        have hb := b.toNat_lt
        rw [show 16 * (b.toNat / 16 % 16) + b.toNat % 16 = b.toNat by omega, UInt8.ofNat_toNat]
      simp only [List.cons_append, List.nil_append, decodeBytes?, if_true, hexValue?_capitalHexDigit,
        Option.bind_eq_bind, Option.bind_some, hvalue]

theorem isCodeChar_encodeByte (hc : c ∈ encodeByte b) : isCodeChar c = true := by
  unfold encodeByte at hc
  split at hc
  · rename_i hunreserved
    rw [List.mem_singleton.mp hc]
    exact (plain_of_unreserved hunreserved).code
  · split at hc
    · rw [List.mem_singleton.mp hc]
      rfl
    · simp only [List.mem_cons, List.not_mem_nil, or_false] at hc
      obtain rfl | rfl | rfl := hc
      · rfl
      · exact isCodeChar_capitalHexDigit _
      · exact isCodeChar_capitalHexDigit _

theorem decodeBytes?_encodeBytes (bytes : List UInt8) :
    decodeBytes? (encodeBytes bytes) = some bytes := by
  induction bytes with
  | nil => rfl
  | cons b bytes ih =>
      rw [encodeBytes, List.flatMap_cons, decodeBytes?_encodeByte, ← encodeBytes, ih,
        Option.map_some]

/-- A text that was encoded is read back. -/
theorem decode?_encode (s : List Char) : decode? (encode s) = some s := by
  rw [decode?, encode, decodeBytes?_encodeBytes, Option.bind_some, Utf8.decode?_encode]

theorem isCodeChar_encode (hc : c ∈ encode s) : isCodeChar c = true := by
  obtain ⟨b, -, hmem⟩ := List.mem_flatMap.mp hc
  exact isCodeChar_encodeByte hmem

end Percent

end Text

open Text

namespace Query

variable {c : Char} {pairs : List (String × String)}

/-- Reads a field: a name and a value, with a mark between them. -/
def readField (field : List Char) : Option (String × String) :=
  match partitionAt '=' field with
  | (name, some value) => do
      let name ← Percent.decode? name
      let value ← Percent.decode? value
      some (String.ofList name, String.ofList value)
  | (_, none) => none

/-- Reads a query. One without any characters has no fields. -/
def read (query : List Char) : Option (List (String × String)) :=
  if query = [] then some [] else (fields '&' query).mapM readField

/-- The character may stand in a query. -/
def isQueryChar (c : Char) : Bool := c.isAlphanum || "_.-~%+&=".toList.contains c

/-- The field of a name and a value. -/
def writtenField (pair : String × String) : List Char :=
  Percent.encode pair.1.toList ++ '=' :: Percent.encode pair.2.toList

/-- The query of names and values. -/
def written (pairs : List (String × String)) : List Char :=
  ['&'].intercalate (pairs.map writtenField)

theorem not_mem_encode {mark : Char} (h : Percent.isCodeChar mark = false) (s : List Char) :
    mark ∉ Percent.encode s := by
  intro hmark
  rw [Percent.isCodeChar_encode hmark] at h
  cases h

theorem readField_written (pair : String × String) : readField (writtenField pair) = some pair := by
  have hmark : '=' ∉ Percent.encode pair.1.toList := not_mem_encode (by decide) _
  rw [readField, writtenField, partitionAt_append hmark]
  simp only [Percent.decode?_encode, Option.bind_eq_bind, Option.bind_some, String.ofList_toList]

theorem not_mem_writtenField (pair : String × String) : '&' ∉ writtenField pair := by
  rw [writtenField, List.mem_append, List.mem_cons, not_or, not_or]
  exact ⟨not_mem_encode (by decide) _, by decide, not_mem_encode (by decide) _⟩

theorem mapM_readField : ∀ pairs : List (String × String),
    (pairs.map writtenField).mapM readField = some pairs
  | [] => rfl
  | pair :: pairs => by
      rw [List.map_cons, List.mapM_cons, readField_written, mapM_readField pairs]
      rfl

/-- Names and values are read back in their order. -/
theorem read_written (pairs : List (String × String)) : read (written pairs) = some pairs := by
  cases pairs with
  | nil => rfl
  | cons pair pairs =>
      have hfields : fields '&' (written (pair :: pairs)) = (pair :: pairs).map writtenField := by
        refine fields_intercalate (List.cons_ne_nil _ _) fun field hfield => ?_
        obtain ⟨other, -, rfl⟩ := List.mem_map.mp hfield
        exact not_mem_writtenField other
      have hne : written (pair :: pairs) ≠ [] := by
        intro hnil
        rw [hnil] at hfields
        have hfirst : [] = writtenField pair := (List.cons.inj hfields).1
        exact absurd hfirst.symm (by simp [writtenField])
      rw [read, if_neg hne, hfields, mapM_readField]

theorem isQueryChar_of_code (h : Percent.isCodeChar c = true) : isQueryChar c = true := by
  rw [Percent.isCodeChar, Bool.or_eq_true, List.contains_iff_mem] at h
  rw [isQueryChar, Bool.or_eq_true, List.contains_iff_mem]
  exact h.imp_right fun hmark => List.mem_append_left ['&', '='] hmark

theorem isQueryChar_written (hc : c ∈ written pairs) : isQueryChar c = true := by
  rcases mem_intercalate hc with hmark | ⟨field, hfield, hmem⟩
  · rw [List.mem_singleton.mp hmark]
    rfl
  · obtain ⟨pair, -, rfl⟩ := List.mem_map.mp hfield
    rcases List.mem_append.mp hmem with hname | hvalue
    · exact isQueryChar_of_code (Percent.isCodeChar_encode hname)
    · rcases List.mem_cons.mp hvalue with rfl | hvalue
      · rfl
      · exact isQueryChar_of_code (Percent.isCodeChar_encode hvalue)

/-! ## Parameters -/

/-- A parameter: a text, or a list of texts. -/
inductive Parameter where
  | one (text : String)
  | many (texts : List String)

namespace Parameter

def value : Parameter → Value
  | one text => .text text
  | many texts => .list (texts.map .text)

/-- The texts of a parameter. -/
def texts : Parameter → List String
  | one text => [text]
  | many texts => texts

end Parameter

/-- Parameters as a map. -/
def given (params : List (String × Parameter)) : Value :=
  .map (params.map fun param => (.text param.1, param.2.value))

/-- A name and a value for each text of the parameters. -/
def spreadOut (params : List (String × Parameter)) : List (String × String) :=
  params.flatMap fun param => param.2.texts.map fun text => (param.1, text)

theorem fieldsOf_value (name : String) (parameter : Parameter) :
    fieldsOf (.text name) parameter.value
      = .ok (parameter.texts.map fun text => writtenField (name, text)) := by
  have hspread : spread parameter.value = parameter.texts.map .text := by
    cases parameter <;> rfl
  have hvalues : ∀ texts : List String,
      ((texts.map Value.text).mapM fun v =>
          (component v).map fun text => Percent.encode name.toList ++ '=' :: text)
        = .ok (texts.map fun text => writtenField (name, text)) := by
    intro texts
    refine mapM_eq_ok.mpr ?_
    rw [List.forall₂_map_left_iff, List.forall₂_map_right_iff, List.forall₂_same]
    exact fun text _ => rfl
  rw [fieldsOf, hspread]
  exact hvalues parameter.texts

/-- Parameters are written as the query of all their texts. -/
theorem encode_given (params : List (String × Parameter)) :
    encode (given params) = .ok (written (spreadOut params)) := by
  have hmembers : ((params.map fun param => (Value.text param.1, param.2.value)).mapM
      fun entry => fieldsOf entry.1 entry.2)
      = .ok (params.map fun param =>
        param.2.texts.map fun text => writtenField (param.1, text)) := by
    refine mapM_eq_ok.mpr ?_
    rw [List.forall₂_map_left_iff, List.forall₂_map_right_iff, List.forall₂_same]
    exact fun param _ => fieldsOf_value param.1 param.2
  have hjoin : join (params.map fun param => param.2.texts.map fun text => writtenField (param.1, text))
      = written (spreadOut params) := by
    rw [join, written, spreadOut, List.map_flatMap, ← List.flatMap_def]
    simp only [List.map_map]
    rfl
  rw [encode, given]
  simp only [Value.members?, hmembers]
  rw [← hjoin]
  rfl

/-- Parameters are written as a form in the same way, except that no bytes are no body. -/
theorem form_given (params : List (String × Parameter)) :
    ∃ body, Payload.serialize (given params) .form = .ok body
      ∧ body ≠ some [] ∧ body.getD [] = Utf8.encode (written (spreadOut params)) := by
  have htext : Payload.text (given params) .form = .ok (written (spreadOut params)) := by
    have hform : Payload.text (given params) .form
        = Payload.explain (given params) .form Payload.explainedForm (encode (given params)) := rfl
    rw [hform, encode_given]
    rfl
  have hbytes : Payload.serialize (given params) .form
      = (Payload.text (given params) .form).map fun s =>
          if (Utf8.encode s).isEmpty then none else some (Utf8.encode s) := rfl
  rw [hbytes, htext, Except.map]
  refine ⟨_, rfl, ?_⟩
  cases Utf8.encode (written (spreadOut params)) <;> simp

end Query

end Courier
