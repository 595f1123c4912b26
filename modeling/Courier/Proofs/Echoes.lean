import Courier.Proofs.Fields
import Courier.Transport

/-!
# Requests that are read back

What goes out as the head of a request is what comes in as the head of a
response, up to the first line. If its texts are plain (`Request.Plain`), a
reader gets the request line, the fields of the headers in their order, and
leaves the body (`Request.readHead_encodeValues`), however the bytes arrive.

Each header is one line (`Request.textsLine`), and this line is read as one
field (`Request.readsAs_textsLine`). Fields of one name replace each other, so
that no header is lost if the names differ (`Entries.putAll_of_nodup`).
-/

namespace Courier

open Text
open Response (ReadsAs joinLines)

namespace Request

variable {method target : String} {headers : Entries String String} {header : String × String}
  {body : Value} {bytes : List UInt8}

/-- A header of two texts. -/
def ofTexts (header : String × String) : Value × Value := (.text header.1, .text header.2)

/-- The line of a header of two texts. -/
def textsLine (header : String × String) : List Char :=
  header.1.toList ++ ':' :: ' ' :: header.2.toList

/-- The bytes of a body: only byte strings have any. -/
def bodyBytes : Value → List UInt8
  | .bytes bs | .byteArray bs => bs
  | _ => []

/-- What a header of two texts is read as. -/
def fieldOfTexts (header : String × String) : String × String :=
  (String.ofList (lower (trim header.1.toList)), String.ofList (trim header.2.toList))

/-- The texts of a request are ASCII, the first line is one line, and no name is blank. -/
structure Plain (method target : String) (headers : Entries String String) : Prop where
  first : ∀ c ∈ method.toList ++ target.toList, c.toNat < 128
  oneLine : Response.OneLine (method.toList ++ target.toList)
  ascii : ∀ header ∈ headers, ∀ c ∈ header.1.toList ++ header.2.toList, c.toNat < 128
  named : ∀ header ∈ headers, trim header.1.toList ≠ []

/-! ## From values to lines -/

theorem encodeValues_eq_ok {members : Entries Value Value}
    (h : encodeValues (.text method) (.text target) (.map members) body = .ok bytes) :
    encodeParts (.text method) (.text target) members (bodyBytes body) = .ok bytes := by
  obtain ⟨head, hhead, h⟩ := bind_eq_ok h
  obtain ⟨first, hfirst, hhead⟩ := bind_eq_ok hhead
  obtain ⟨lines, hlines, hhead⟩ := bind_eq_ok hhead
  cases hhead
  have hparts : ∀ data, encodeParts (.text method) (.text target) members data
      = .ok (Utf8.encode (headText (first :: lines)) ++ data) := by
    intro data
    rw [encodeParts, hfirst, hlines]
    rfl
  rw [hparts]
  simp only [List.append_nil] at h
  split at h
  · exact h
  · exact h
  · rename_i hbytes harray
    split at h
    · cases h
    · have hnone : bodyBytes body = [] := by
        unfold bodyBytes
        split
        · exact absurd rfl (hbytes _)
        · exact absurd rfl (harray _)
        · rfl
      rw [hnone, List.append_nil]
      exact h

/-- Headers of texts that pass have one line each. -/
theorem lines_eq_textsLine : ∀ {headers : Entries String String} {lines : List (List Char)},
    List.Forall₂ (fun header line => headerLine header.1 header.2 = .ok line)
      (headers.map ofTexts) lines → lines = headers.map textsLine
  | [], lines, h => by
      cases h
      rfl
  | header :: headers, lines, h => by
      cases h with
      | cons hline hlines =>
          obtain ⟨name, value, hname, hvalue, rfl, -⟩ := parts_of_headerLine hline
          cases hname
          cases hvalue
          rw [lines_eq_textsLine hlines]
          rfl

/-- The line of a header that passes is read as its field. -/
theorem readsAs_textsLine {line : List Char}
    (hline : headerLine (.text header.1) (.text header.2) = .ok line)
    (hascii : ∀ c ∈ header.1.toList ++ header.2.toList, c.toNat < 128)
    (hnamed : trim header.1.toList ≠ [])
    (hshort : (Utf8.encode (textsLine header)).length ≤ lineLimit) :
    ReadsAs (Utf8.encode (textsLine header)) (fieldOfTexts header) := by
  obtain ⟨name, value, hname, hvalue, rfl, hcolon, hsealedName, hsealedValue⟩ :=
    parts_of_headerLine hline
  cases hname
  cases hvalue
  obtain ⟨-, hunbreaking, hne⟩ := headerLine_eq_ok hline
  have hsealed := sealed_encode.mpr hunbreaking
  have hlegible : Legible (Utf8.encode (textsLine header)) :=
    ⟨unbroken_of_not_mem fun hreturn => (hsealed 13 hreturn).1 rfl, hshort⟩
  refine ⟨hlegible, Utf8.encode_ne_nil hne, ?_⟩
  obtain ⟨hasciiName, hasciiValue⟩ := List.forall_mem_append.mp hascii
  have hfield := fieldOf_encode hcolon hsealedName hsealedValue
  rw [seen_ascii hasciiName, seen_ascii hasciiValue, if_neg (by simpa using hnamed), fieldOf]
    at hfield
  cases hread : Response.readHeader (Response.lineText (Utf8.encode (textsLine header))) with
  | error failure =>
      rw [← textsLine, hread] at hfield
      cases hfield
  | ok field =>
      rw [← textsLine, hread] at hfield
      cases hfield
      rfl

/-! ## Heads that are read back -/

/-- The text of the first line. -/
def firstText (method target : String) : List Char :=
  method.toList ++ ' ' :: target.toList ++ " HTTP/1.1".toList

/-- The first line of a request, and one line for each header. -/
def textLines (method target : String) (headers : Entries String String) : List (List UInt8) :=
  Utf8.encode (firstText method target) :: headers.map fun header => Utf8.encode (textsLine header)

theorem return_not_mem_firstText (h : Response.OneLine (method.toList ++ target.toList)) :
    '\r' ∉ firstText method target := by
  have hparts := h.1
  unfold firstText
  simp only [List.mem_append, List.mem_cons, not_or] at hparts ⊢
  exact ⟨⟨hparts.1, by decide, hparts.2⟩, by decide⟩

theorem ascii_firstText (h : ∀ c ∈ method.toList ++ target.toList, c.toNat < 128) :
    ∀ c ∈ firstText method target, c.toNat < 128 := by
  obtain ⟨hmethod, htarget⟩ := List.forall_mem_append.mp h
  have hversion : ∀ c ∈ " HTTP/1.1".toList, c.toNat < 128 := Response.forall_mem_of_all (by decide)
  intro c hc
  simp only [firstText, List.mem_append, List.mem_cons] at hc
  rcases hc with (hc | rfl | hc) | hc
  · exact hmethod c hc
  · decide
  · exact htarget c hc
  · exact hversion c hc

/-- The first line is kept as it was written, with its end. -/
theorem lineText_firstText (h : ∀ c ∈ method.toList ++ target.toList, c.toNat < 128) :
    String.ofList (Response.lineText (Utf8.encode (firstText method target)))
      = method ++ " " ++ target ++ " HTTP/1.1\r\n" := by
  have hend : Latin1.decode lineEnd = ['\r', '\n'] := by decide
  have hseen := seen_ascii (ascii_firstText h)
  have htext : Response.lineText (Utf8.encode (firstText method target))
      = firstText method target ++ ['\r', '\n'] := by
    rw [Response.lineText, Latin1.decode, List.map_append]
    exact congrArg₂ (· ++ ·) hseen hend
  rw [htext, ← String.toList_inj]
  simp [firstText]

/-- What is written are these lines, which a reader finds again, and the body. -/
theorem lines_of_encodeParts {data : List UInt8}
    (honeLine : Response.OneLine (method.toList ++ target.toList))
    (h : encodeParts (.text method) (.text target) (headers.map ofTexts) data = .ok bytes) :
    (∀ header ∈ headers, ∃ line, headerLine (.text header.1) (.text header.2) = .ok line)
      ∧ bytes = joinLines (textLines method target headers) ++ lineEnd ++ data
      ∧ linesOf (headOf bytes) = textLines method target headers := by
  obtain ⟨request, hmethod, htarget, hheaders, hbody⟩ : ∃ request : Request,
      request.method = .text method ∧ request.target = target
        ∧ request.headers = headers.map ofTexts ∧ request.body = some data :=
    ⟨{ method := .text method, url := "", target, headers := headers.map ofTexts,
       body := some data }, rfl, rfl, rfl, rfl⟩
  have hencode : request.encode = .ok bytes := by
    rw [encode, hmethod, htarget, hheaders, hbody]
    exact h
  obtain ⟨written, lines, hwritten, hlines, rfl⟩ := lines_of_encode hencode
  rw [hmethod] at hwritten
  cases hwritten
  have htexts := hheaders ▸ hlines
  have hfirst : request.firstLine method.toList = firstText method target := by
    rw [firstLine, htarget, firstText]
  have hsame : (request.firstLine method.toList :: lines).map Utf8.encode
      = textLines method target headers := by
    rw [hfirst, lines_eq_textsLine htexts, List.map_cons, List.map_map]
    rfl
  have hcut := (headOf_encoded data hlines (hfirst ▸ return_not_mem_firstText honeLine)).1
  rw [hsame] at hcut
  rw [hsame, hbody]
  refine ⟨fun header hheader => ?_, (List.append_assoc ..).symm, hcut⟩
  obtain ⟨line, -, hline⟩ := exists_of_mem_left htexts (List.mem_map_of_mem hheader)
  exact ⟨line, hline⟩

/-- A head of plain texts is consumed as what was written. -/
theorem consumes_textLines (hplain : Plain method target headers)
    (hpasses : ∀ header ∈ headers, ∃ line, headerLine (.text header.1) (.text header.2) = .ok line)
    (hshort : ∀ line ∈ textLines method target headers, line.length ≤ lineLimit) :
    Consumes Response.readHead (joinLines (textLines method target headers) ++ lineEnd)
      { statusLine := method ++ " " ++ target ++ " HTTP/1.1\r\n",
        headers := Entries.putAll [] (headers.map fieldOfTexts) } := by
  have hfirst : Legible (Utf8.encode (firstText method target)) := by
    refine ⟨unbroken_of_not_mem ?_, hshort _ List.mem_cons_self⟩
    rw [show (13 : UInt8) = UInt8.ofNat '\r'.toNat from rfl, Utf8.mem_encode (by decide)]
    exact return_not_mem_firstText hplain.oneLine
  have hreads : ∀ header ∈ headers,
      ReadsAs (Utf8.encode (textsLine header)) (fieldOfTexts header) := by
    intro header hheader
    obtain ⟨line, hline⟩ := hpasses header hheader
    have hmem := List.mem_map_of_mem (f := fun header => Utf8.encode (textsLine header)) hheader
    exact readsAs_textsLine hline (hplain.ascii header hheader) (hplain.named header hheader)
      (hshort _ (List.mem_cons_of_mem _ hmem))
  have hconsumes := Response.consumes_readHead hfirst hreads
  rwa [lineText_firstText hplain.first] at hconsumes

/-- Fields with names of their own and values without blanks around them are the
headers, one for one. -/
theorem putAll_fieldOfTexts (hnames : ((headers.map fieldOfTexts).map (·.1)).Nodup)
    (hvalues : ∀ header ∈ headers, trim header.2.toList = header.2.toList) :
    Entries.putAll [] (headers.map fieldOfTexts)
      = headers.map fun header => (String.ofList (lower (trim header.1.toList)), header.2) := by
  have hput : Entries.putAll [] (headers.map fieldOfTexts) = headers.map fieldOfTexts :=
    Entries.putAll_of_nodup hnames
  rw [hput]
  refine List.map_congr_left fun header hheader => ?_
  rw [fieldOfTexts, hvalues header hheader, String.ofList_toList]

/-- Whatever the pieces in which a request comes in, its head is read as its
texts, and its body is left. If the names that are read differ, and no value
has blanks around it, the fields are the headers, one for one. -/
theorem readHead_encodeValues (hplain : Plain method target headers)
    (hencode : encodeValues (.text method) (.text target) (.map (headers.map ofTexts)) body
      = .ok bytes)
    (hshort : ∀ line ∈ linesOf (headOf bytes), line.length ≤ lineLimit)
    {link : Link} (hsent : link.incoming.bytes = bytes) (earlier : List Link) :
    ∃ fields rest, Transport.readHead { links := link :: earlier }
        = (.ok { statusLine := method ++ " " ++ target ++ " HTTP/1.1\r\n", headers := fields },
          { links := { link with incoming := rest } :: earlier })
      ∧ fields = Entries.putAll [] (headers.map fieldOfTexts)
      ∧ rest.bytes = bodyBytes body ∧ rest.ending = link.incoming.ending
      ∧ (((headers.map fieldOfTexts).map (·.1)).Nodup →
          (∀ header ∈ headers, trim header.2.toList = header.2.toList) →
          fields = headers.map fun header =>
            (String.ofList (lower (trim header.1.toList)), header.2)) := by
  obtain ⟨hpasses, hbytes, hlines⟩ := lines_of_encodeParts hplain.oneLine
    (encodeValues_eq_ok hencode)
  rw [hlines] at hshort
  obtain ⟨rest, hread, hrest, hending⟩ :=
    (consumes_textLines hplain hpasses hshort).whole (hsent.trans hbytes)
  refine ⟨_, rest, ?_, rfl, hrest, hending, putAll_fieldOfTexts⟩
  simp only [Transport.readHead, Transport.withLink, Link.read, hread]

/-- Headers that a reader merges: the last one replaces the value of the first. -/
def ranges : Entries String String :=
  [("Range", "a: b"), ("X-None", ""), (" range", "\tc ")]

theorem readHead_encodeValues_ranges :
    ∃ front back rest, encodeValues (.text "PUT") (.text "/a:b") (.map (ranges.map ofTexts))
        (.bytes [104, 105]) = .ok (front ++ back)
      ∧ front.length = 21
      ∧ Transport.readHead { links := [{ incoming := { segments := [front, back] } }] }
        = (.ok { statusLine := "PUT /a:b HTTP/1.1\r\n",
                 headers := [("range", "c"), ("x-none", "")] },
          { links := [{ incoming := rest }] })
      ∧ rest.bytes = [104, 105] := by
  have hascii : ∀ header ∈ ranges,
      (header.1.toList ++ header.2.toList).all (·.toNat < 128) = true := by decide
  have hplain : Plain "PUT" "/a:b" ranges :=
    ⟨Response.forall_mem_of_all (by decide), ⟨by decide, by decide⟩,
      fun header hheader => Response.forall_mem_of_all (hascii header hheader), by decide⟩
  obtain ⟨bytes, hencode, hlength, hshort⟩ : ∃ bytes,
      encodeValues (.text "PUT") (.text "/a:b") (.map (ranges.map ofTexts)) (.bytes [104, 105])
          = .ok bytes
        ∧ 21 ≤ bytes.length ∧ ∀ line ∈ linesOf (headOf bytes), line.length ≤ lineLimit := by
    refine ⟨_, rfl, ?_, ?_⟩ <;> decide
  have hsent : ({ incoming := { segments := [bytes.take 21, bytes.drop 21] } } : Link).incoming.bytes
      = bytes := by
    simp [Stream.bytes]
  obtain ⟨fields, rest, hread, hfields, hrest, -, -⟩ :=
    readHead_encodeValues hplain hencode hshort hsent []
  have hmerged : fields = [("range", "c"), ("x-none", "")] := by
    rw [hfields]
    decide
  rw [hmerged] at hread
  refine ⟨bytes.take 21, bytes.drop 21, rest, ?_, List.length_take_of_le hlength, hread, hrest⟩
  rw [List.take_append_drop]
  exact hencode

end Request

end Courier
