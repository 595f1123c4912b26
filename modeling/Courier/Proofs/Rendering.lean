import Courier.Proofs.Exchanges
import Courier.Proofs.Keys
import Courier.Proofs.Lines

/-!
# Rendering replies

What a server sends for a reply, written out (`Rendition`): a status line,
header lines, and a body that is counted or comes in chunks, with all the
freedom there is in the cut into chunks, in size lines and in trailers. A
rendition is `Legal` for a method if its lines are lines, and its body is
there if and only if the method and the status ask for one.

`Rendition.Legal.consumes` says that reading undoes rendering: the bytes of a
legal rendition, and no more, are taken off the stream, and the reply is the
one that was rendered. Requests that follow each other on a connection then
get the replies that were sent, in order (`exchangeAll_renditions`).
-/

namespace Courier

open Text

/-! ## Renditions -/

/-- A header line as it is sent. -/
structure Field where
  name : List Char
  value : List Char

namespace Field

def text (f : Field) : List Char := f.name ++ ':' :: ' ' :: f.value

/-- The name that the header is kept under. -/
def key (f : Field) : String := String.ofList (lower (trim f.name))

/-- The header as it is kept. -/
def entry (f : Field) : String × String := (f.key, String.ofList (trim f.value))

/-- A header line that can be sent: its name is not blank and ends at the colon. -/
structure Legal (f : Field) : Prop where
  latin : ∀ c ∈ f.text, c.toNat < 256
  oneLine : Response.OneLine f.text
  named : ∃ c ∈ f.name, isBlank c = false
  noColon : ':' ∉ f.name
  short : f.text.length ≤ lineLimit

end Field

/-- The line in front of a chunk: its size, and perhaps an extension. -/
structure SizeLine where
  digits : List Char
  extension : Option (List UInt8) := none

namespace SizeLine

def bytes (l : SizeLine) : List UInt8 :=
  match l.extension with
  | none => Latin1.encode l.digits
  | some extension => Latin1.encode l.digits ++ 59 :: extension

/-- The line announces so many bytes. -/
structure Legal (l : SizeLine) (size : Nat) : Prop where
  hex : Integer.IsHex l.digits size
  oneLine : ∀ extension, l.extension = some extension → 13 ∉ extension ∧ 10 ∉ extension
  short : l.bytes.length ≤ lineLimit

end SizeLine

/-- Some bytes of a body, and the line in front of them. -/
structure Chunk where
  size : SizeLine
  data : List UInt8

/-- What follows a head. -/
inductive Coding where
  | bare
  | counted (content : List UInt8)
  | chunked (chunks : List Chunk) (last : SizeLine) (trailers : List (List UInt8))

namespace Coding

/-- The bytes that are sent. -/
def bytes : Coding → List UInt8
  | .bare => []
  | .counted content => content
  | .chunked chunks last trailers =>
      Response.joinChunks (chunks.map fun chunk => (chunk.size.bytes, chunk.data))
        ++ (last.bytes ++ lineEnd ++ (Response.joinLines trailers ++ lineEnd))

/-- The bytes that are meant. -/
def content : Coding → List UInt8
  | .bare => []
  | .counted content => content
  | .chunked chunks _ _ => chunks.flatMap (·.data)

/-- The header fields say how the body is framed, and it is framed this way. A
length has no more digits than are read, as that of any bytes in a memory. -/
inductive Legal (fields : List Field) : Coding → Prop where
  | counted (content : List UInt8) (f : Field)
      (single : fields.filter (·.key == Response.lengthHeader) = [f])
      (length : trim f.value = Nat.toDigits 10 content.length)
      (uncoded : fields.filter (·.key == Response.codingHeader) = [])
      (short : content.length < tenTo digitLimit) : Legal fields (.counted content)
  | chunked (chunks : List Chunk) (last : SizeLine) (trailers : List (List UInt8)) (f : Field)
      (single : fields.filter (·.key == Response.codingHeader) = [f])
      (coded : trim f.value = "chunked".toList)
      (chunks_legal : ∀ chunk ∈ chunks, chunk.size.Legal chunk.data.length ∧ chunk.data ≠ [])
      (last_legal : last.Legal 0)
      (trailers_legal : ∀ trailer ∈ trailers,
        trailer ≠ [] ∧ 13 ∉ trailer ∧ 10 ∉ trailer ∧ trailer.length ≤ lineLimit) :
      Legal fields (.chunked chunks last trailers)

end Coding

/-- A reply as it is sent. -/
structure Rendition where
  status : Nat
  reason : List Char
  fields : List Field
  body : Coding

namespace Rendition

/-- The protocol that status lines name. -/
def protocol : List Char := "HTTP/1.1".toList

def statusText (r : Rendition) : List Char :=
  protocol ++ ' ' :: (Nat.toDigits 10 r.status ++ ' ' :: r.reason)

/-- The bytes on the wire. -/
def bytes (r : Rendition) : List UInt8 :=
  Response.joinLines (Latin1.encode r.statusText :: r.fields.map (Latin1.encode ·.text)) ++ lineEnd
    ++ r.body.bytes

/-- The reply that is meant. Of headers of one name the last one counts, in
the place of the first. -/
def reply (r : Rendition) : Reply where
  status := r.status
  reason := String.ofList r.reason
  headers := Entries.putAll [] (r.fields.map Field.entry)
  content := r.body.content

/-- A body follows a head with this status, in reply to this method. -/
def Bodied (method : Value) (status : Nat) : Prop :=
  method ≠ .text "HEAD" ∧ 200 ≤ status ∧ status ≠ 204 ∧ status ≠ 304

/-- A rendition that answers a request with this method. -/
structure Legal (method : Value) (r : Rendition) : Prop where
  status : 100 ≤ r.status ∧ r.status ≤ 999
  latin : ∀ c ∈ r.reason, c.toNat < 256
  oneLine : Response.OneLine r.reason
  unblank : ∀ c, r.reason.head? = some c → isBlank c = false
  short : r.statusText.length ≤ lineLimit
  fields : ∀ f ∈ r.fields, f.Legal
  bodied : Bodied method r.status → r.body.Legal r.fields
  bare : ¬ Bodied method r.status → r.body = .bare

end Rendition

/-! ## Lines -/

theorem legible_encode {s : List Char} (latin : ∀ c ∈ s, c.toNat < 256)
    (oneLine : Response.OneLine s) (short : s.length ≤ lineLimit) : Legible (Latin1.encode s) where
  unbroken := unbroken_of_not_mem fun hmem => oneLine.1 (Latin1.mem_of_mem_encode latin hmem)
  short := by rwa [Latin1.encode, List.length_map]

theorem Field.Legal.readsAs {f : Field} (h : f.Legal) :
    Response.ReadsAs (Latin1.encode f.text) f.entry where
  legible := legible_encode h.latin h.oneLine h.short
  nonempty := by simp [Latin1.encode, Field.text]
  reads := by
    rw [Response.lineText_encode h.latin]
    exact Response.readHeader_line h.noColon h.named h.oneLine

theorem SizeLine.Legal.announces {l : SizeLine} {size : Nat} (h : l.Legal size) :
    Response.Announces l.bytes size where
  legible := by
    refine ⟨unbroken_of_not_mem fun hmem => ?_, h.short⟩
    obtain ⟨values, hspells, -⟩ := h.hex.spells
    have hdigits : (13 : UInt8) ∉ Latin1.encode l.digits := fun hdigit =>
      absurd (hspells.isSome _ (Latin1.mem_of_mem_encode
        (fun c hc => Integer.toNat_lt_of_hexValue (hspells.isSome c hc)) hdigit)) (by decide)
    unfold SizeLine.bytes at hmem
    split at hmem
    · exact hdigits hmem
    · rename_i extension hextension
      obtain hdigit | hrest := List.mem_append.mp hmem
      · exact hdigits hdigit
      · exact (h.oneLine extension hextension).1 ((List.mem_cons.mp hrest).resolve_left (by decide))
  reads := by
    obtain ⟨hplain, hextended⟩ := Response.chunkSize_line h.hex
    unfold SizeLine.bytes
    split
    · exact hplain
    · exact hextended _

/-! ## Bodies -/

theorem Rendition.hasBody_iff {method : Value} {status : Nat} :
    Response.hasBody method status = true ↔ Rendition.Bodied method status := by
  have hhead : Response.headOnly method = false ↔ method ≠ .text "HEAD" := by
    rw [Response.headOnly, Bool.eq_false_iff, ne_eq, Value.beq_text]
  have hstatus : Response.statusHasBody status = true
      ↔ 200 ≤ status ∧ status ≠ 204 ∧ status ≠ 304 := by
    simp only [Response.statusHasBody, Bool.not_eq_true', Bool.or_eq_false_iff, beq_eq_false_iff_ne,
      decide_eq_false_iff_not]
    omega
  rw [Response.hasBody, Bool.and_eq_true, Bool.not_eq_true', hhead, hstatus]
  rfl

theorem get?_entries_of_single {fields : List Field} {name : String} {f : Field}
    (h : fields.filter (·.key == name) = [f]) :
    Entries.get? (Entries.putAll [] (fields.map Field.entry)) name
      = some (String.ofList (trim f.value)) := by
  have hfilter : (fields.map Field.entry).filter (·.1 == name) = [f.entry] := by
    rw [List.filter_map]
    exact congrArg (List.map Field.entry) h
  rw [Entries.get?_putAll, hfilter]
  rfl

theorem get?_entries_of_none {fields : List Field} {name : String}
    (h : fields.filter (·.key == name) = []) :
    Entries.get? (Entries.putAll [] (fields.map Field.entry)) name = none := by
  have hfilter : (fields.map Field.entry).filter (·.1 == name) = [] := by
    rw [List.filter_map]
    exact congrArg (List.map Field.entry) h
  rw [Entries.get?_putAll, hfilter]
  rfl

theorem ofHeaders_of_length {fields : List Field} {f : Field} {n : Nat}
    (single : fields.filter (·.key == Response.lengthHeader) = [f])
    (length : trim f.value = Nat.toDigits 10 n) (short : n < tenTo digitLimit)
    (uncoded : fields.filter (·.key == Response.codingHeader) = []) :
    Response.Framing.ofHeaders (Entries.putAll [] (fields.map Field.entry)) = .ok (.fixed n) := by
  have hread : Response.readLength (Nat.toDigits 10 n) = .ok (n : Int) := by
    rw [Response.readLength, if_pos (Integer.allDigitSigns_toDigits _),
      Integer.ofText_toDigits short]
  simp only [Response.Framing.ofHeaders, Response.isChunked, Response.contentLength,
    get?_entries_of_none uncoded, get?_entries_of_single single, String.toList_ofList, length,
    hread]
  rfl

theorem ofHeaders_of_coding {fields : List Field} {f : Field}
    (single : fields.filter (·.key == Response.codingHeader) = [f])
    (coded : trim f.value = "chunked".toList) :
    Response.Framing.ofHeaders (Entries.putAll [] (fields.map Field.entry)) = .ok .chunked := by
  have hspeaks : Response.speaksOfChunks "chunked".toList = true := by decide
  simp only [Response.Framing.ofHeaders, Response.isChunked, get?_entries_of_single single,
    String.toList_ofList, coded, hspeaks]
  rfl

/-- The end of the data frames no such body. -/
theorem Coding.Legal.framed {fields : List Field} {body : Coding} (h : body.Legal fields) :
    Response.Framing.ofHeaders (Entries.putAll [] (fields.map Field.entry))
      ≠ .ok .untilClosed := by
  cases h with
  | counted content f single length uncoded short =>
      rw [ofHeaders_of_length single length short uncoded]
      simp
  | chunked chunks last trailers f single coded _ _ _ =>
      rw [ofHeaders_of_coding single coded]
      simp

/-- The blocks that chunks are read in make up the data of the chunks. -/
theorem flatten_chunks (chunks : List Chunk) :
    ((chunks.map fun chunk => (chunk.size.bytes, chunk.data)).foldl
      (fun done chunk => Response.cutBlocks Response.blockSize.toNat done chunk.2)
      []).reverse.flatten
        = chunks.flatMap (·.data) := by
  have hfold := Response.flatten_foldl_cutBlocks
    (show Response.blockSize.toNat ≠ 0 by decide) (chunks.map (·.data)) []
  rw [List.foldl_map] at hfold ⊢
  rw [hfold, List.flatMap_def]
  rfl

/-- A body that is framed as its header fields say is consumed. -/
theorem Coding.Legal.consumes {fields : List Field} {body : Coding} (h : body.Legal fields)
    {method : Value} {status : Int} (hbody : Response.hasBody method status = true) :
    Consumes (Response.readContent method status (Entries.putAll [] (fields.map Field.entry)))
      body.bytes body.content := by
  rw [funext (Response.readContent_eq method status _)]
  simp only [if_pos hbody]
  cases h with
  | counted content f single length uncoded short =>
      have hblocks := (Response.consumes_readLengthBlocks Response.blockSize_pos content []).map
        fun blocks : List (List UInt8) => blocks.reverse.flatten
      rw [Response.flatten_cutBlocks (by decide)] at hblocks
      refine Consumes.ofExcept (ofHeaders_of_length single length short uncoded) ?_
      simp only [Response.joined_readBody]
      exact hblocks
  | chunked chunks last trailers f single coded chunks_legal last_legal trailers_legal =>
      have htrailers : ∀ trailer ∈ trailers, Legible trailer ∧ trailer ≠ [] := fun trailer hmem =>
        have ⟨hne, hreturn, _, hshort⟩ := trailers_legal trailer hmem
        ⟨⟨unbroken_of_not_mem hreturn, hshort⟩, hne⟩
      have hsizes : ∀ chunk ∈ chunks.map fun chunk => (chunk.size.bytes, chunk.data),
          Response.Announces chunk.1 chunk.2.length ∧ chunk.2 ≠ [] := by
        intro chunk hmem
        obtain ⟨sent, hsent, rfl⟩ := List.mem_map.mp hmem
        exact ⟨(chunks_legal sent hsent).1.announces, (chunks_legal sent hsent).2⟩
      have hblocks := (Response.consumes_readChunks Response.blockSize_pos last_legal.announces
        htrailers hsizes []).map fun blocks : List (List UInt8) => blocks.reverse.flatten
      rw [flatten_chunks] at hblocks
      refine Consumes.ofExcept (ofHeaders_of_coding single coded) ?_
      simp only [Response.joined_readBody]
      exact hblocks

/-! ## Replies -/

namespace Rendition

variable {r : Rendition} {method : Value}

theorem Legal.latin_statusText (h : r.Legal method) : ∀ c ∈ r.statusText, c.toNat < 256 := by
  have hprotocol : ∀ c ∈ protocol, c.toNat < 256 := Response.forall_mem_of_all (by decide)
  intro c hc
  simp only [statusText, List.mem_append, List.mem_cons] at hc
  obtain hc | rfl | hc | rfl | hc := hc
  · exact hprotocol c hc
  · decide
  · exact Nat.lt_trans (Integer.toNat_lt_of_mem_toDigits hc) (by decide)
  · decide
  · exact h.latin c hc

theorem isBlank_of_mem_protocol : ∀ c ∈ protocol, isBlank c = false :=
  Response.forall_mem_of_all (by decide)

theorem Legal.oneLine_statusText (h : r.Legal method) : Response.OneLine r.statusText := by
  have hmark : ∀ c, isBlank c = true → c ≠ ' ' → c ∉ r.reason → c ∉ r.statusText := by
    intro c hblank hspace hreason hc
    simp only [statusText, List.mem_append, List.mem_cons] at hc
    obtain hc | rfl | hc | rfl | hc := hc
    · rw [isBlank_of_mem_protocol c hc] at hblank
      cases hblank
    · exact hspace rfl
    · rw [Integer.isBlank_of_mem_toDigits hc] at hblank
      cases hblank
    · exact hspace rfl
    · exact hreason hc
  exact ⟨hmark _ (by decide) (by decide) h.oneLine.1, hmark _ (by decide) (by decide) h.oneLine.2⟩

theorem Legal.reads (h : r.Legal method) :
    Response.StatusLine.read (String.ofList (Response.lineText (Latin1.encode r.statusText))).toList
      = .ok { protocol := "HTTP/1.1", status := r.status, reason := String.ofList r.reason } := by
  have hstatus : Response.readStatus (Nat.toDigits 10 r.status) = .ok (r.status : Int) := by
    have hsmall : r.status < tenTo 3 := Nat.lt_of_le_of_lt h.status.2 (by decide)
    have hlimit : 3 ≤ digitLimit := by decide
    rw [Response.readStatus, if_pos (Integer.allDigitSigns_toDigits _),
      Integer.ofText_toDigits (Nat.lt_of_lt_of_le hsmall (tenTo_mono hlimit))]
  rw [String.toList_ofList, Response.lineText_encode h.latin_statusText]
  exact Response.read_statusLine (by decide) isBlank_of_mem_protocol Nat.toDigits_ne_nil
    (fun c hc => Integer.isBlank_of_mem_toDigits hc) hstatus h.unblank h.oneLine_statusText

/-- Reading undoes rendering: a legal rendition is consumed and yields its reply. -/
theorem Legal.consumes (h : r.Legal method) :
    Consumes (Response.readReply method) r.bytes r.reply := by
  have hcontent : Consumes (Response.readContent method r.status r.reply.headers)
      r.body.bytes r.body.content := by
    by_cases hbodied : Bodied method r.status
    · exact (h.bodied hbodied).consumes (hasBody_iff.mpr hbodied)
    · have hnone : ¬ Response.hasBody method r.status = true :=
        fun hbody => hbodied (hasBody_iff.mp hbody)
      rw [h.bare hbodied, funext (Response.readContent_eq method r.status r.reply.headers)]
      simp only [if_neg hnone]
      exact consumes_done []
  have hhead := Response.consumes_readHead
    (legible_encode h.latin_statusText h.oneLine_statusText h.short)
    fun f hf => (h.fields f hf).readsAs
  refine hhead.andThen (.ofExcept h.reads ?_)
  exact hcontent.map fun content => ({ r.reply with content } : Reply)

theorem Legal.selfDelimiting (h : r.Legal method) :
    Response.SelfDelimiting method r.reply.status r.reply.headers :=
  fun hbody => (h.bodied (hasBody_iff.mp hbody)).framed

end Rendition

/-- An exchange takes a rendition off the connection, and nothing else. -/
theorem Link.exchange_rendition {link : Link} (hsend : link.sendFailure = none) {r : Rendition}
    {method : Value} (h : r.Legal method) {after : List UInt8}
    (hbytes : link.incoming.bytes = r.bytes ++ after) (data : List UInt8) :
    ∃ rest : Stream, rest.bytes = after ∧ rest.ending = link.incoming.ending
      ∧ link.exchange data method
        = (.ok r.reply, { link with incoming := rest, written := link.written ++ data }) := by
  obtain ⟨rest, hread, hafter, hending⟩ := h.consumes.whole hbytes
  refine ⟨rest, hafter, hending, ?_⟩
  rw [Link.exchange_eq hsend, hread]
  rfl

/-! ## Some renditions -/

namespace Rendition

/-- A body in these chunks, and a trailer. -/
def inChunks (chunks : List Chunk) : Rendition where
  status := 200
  reason := "OK".toList
  fields := [⟨"Transfer-Encoding".toList, "chunked".toList⟩]
  body := .chunked chunks ⟨"0".toList, none⟩ [[120]]

theorem legal_inChunks {chunks : List Chunk}
    (h : ∀ chunk ∈ chunks, chunk.size.Legal chunk.data.length ∧ chunk.data ≠ []) :
    (inChunks chunks).Legal (.text "GET") where
  status := (by decide : 100 ≤ 200 ∧ 200 ≤ 999)
  latin := Response.forall_mem_of_all (by decide : "OK".toList.all (·.toNat < 256) = true)
  oneLine := ⟨(by decide : '\r' ∉ "OK".toList), (by decide : '\n' ∉ "OK".toList)⟩
  unblank := fun c hc => Option.some.inj hc ▸ (by decide : isBlank 'O' = false)
  short := Nat.le_of_lt (by decide : (statusText (inChunks [])).length < lineLimit)
  fields := by
    intro f hf
    obtain rfl := List.mem_singleton.mp hf
    exact ⟨Response.forall_mem_of_all (by decide), ⟨by decide, by decide⟩,
      ⟨'T', by decide, by decide⟩, by decide, by decide⟩
  bodied := fun _ =>
    .chunked _ _ _ _ rfl rfl h ⟨⟨0, by decide⟩, by decide, by decide⟩ (by decide)
  bare := fun hbare => absurd
    ⟨by simp, (by decide : 200 ≤ 200), (by decide : 200 ≠ 204), (by decide : 200 ≠ 304)⟩ hbare

def inOneChunk : Rendition := inChunks [⟨⟨"5".toList, none⟩, [104, 101, 108, 108, 111]⟩]

/-- The same bytes in two chunks; the second one has a leading zero and an extension. -/
def inTwoChunks : Rendition :=
  inChunks [⟨⟨"2".toList, none⟩, [104, 101]⟩, ⟨⟨"03".toList, some [120]⟩, [108, 108, 111]⟩]

theorem legal_inOneChunk : inOneChunk.Legal (.text "GET") := by
  refine legal_inChunks ?_
  simp only [List.forall_mem_cons]
  exact ⟨⟨⟨⟨0, by decide⟩, by decide, by decide⟩, by decide⟩, by simp⟩

theorem legal_inTwoChunks : inTwoChunks.Legal (.text "GET") := by
  refine legal_inChunks ?_
  simp only [List.forall_mem_cons]
  exact ⟨⟨⟨⟨0, by decide⟩, by decide, by decide⟩, by decide⟩,
    ⟨⟨⟨1, by decide⟩, by decide, by decide⟩, by decide⟩, by simp⟩

/-- A head alone, whatever its fields say of a body. -/
def headAlone : Rendition where
  status := 404
  reason := []
  fields := [⟨"Content-Length".toList, "5".toList⟩]
  body := .bare

theorem legal_headAlone : headAlone.Legal (.text "HEAD") where
  status := by decide
  latin := fun c hc => by cases hc
  oneLine := ⟨by decide, by decide⟩
  unblank := fun c hc => by cases hc
  short := by decide
  fields := by
    intro f hf
    obtain rfl := List.mem_singleton.mp hf
    exact ⟨Response.forall_mem_of_all (by decide), ⟨by decide, by decide⟩,
      ⟨'C', by decide, by decide⟩, by decide, by decide⟩
  bodied := fun h => absurd rfl h.1
  bare := fun _ => rfl

end Rendition

end Courier
