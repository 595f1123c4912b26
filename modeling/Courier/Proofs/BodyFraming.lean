import Courier.Proofs.Fields
import Courier.Proofs.Layers

/-!
# Requests that frame their bodies

The client computes the length of a body, which stands among headers that the
caller chooses. Where neither the defaults nor the call set the length or the
coding of the body themselves (`Client.LeavesFraming`), a reader of the request
finds one length, that of the bytes behind the head, if there is a body, and
none if there is not (`Client.framesBody_of_build`).

The request line is not checked, so that the head is what stands before the
first empty line only if neither the method nor the target can end a line.
-/

namespace Courier

open Text

/-- A payload of no bytes is no body. -/
theorem Payload.serialize_ne_nil {payload : Value} {format : BodyFormat}
    {body : Option (List UInt8)} (h : serialize payload format = .ok body) : body ≠ some [] := by
  have hnonempty (bytes : List UInt8) :
      (if bytes.isEmpty then none else some bytes) ≠ some ([] : List UInt8) := by
    cases bytes <;> simp
  unfold serialize at h
  split at h
  · cases h
    exact nofun
  · cases h
    exact hnonempty _
  · cases h
    exact hnonempty _
  · obtain ⟨text, -, rfl⟩ := map_eq_ok h
    exact hnonempty _

namespace Client

variable {c : Client} {call : Call} {request : Request} {bytes : List UInt8}
  {header : Value × Value} {layers : List (Entries Value Value)}

theorem key_of_tokenHeaders {token : Value} {headers : Entries Value Value}
    (h : tokenHeaders token = .ok headers) : ∀ header ∈ headers, header.1 = .text "authorization" := by
  unfold tokenHeaders at h
  split at h
  · split at h
    · cases h
      intro header hheader
      rw [List.mem_singleton.mp hheader]
    · cases h
  · cases h
    exact fun header hheader => absurd hheader List.not_mem_nil

/-! ## Names that frame -/

/-- The header is named as the length or the coding of a body. -/
def Frames (header : Value × Value) : Prop :=
  Request.Named Response.lengthHeader header ∨ Request.Named Response.codingHeader header

/-- Neither the defaults nor the call set the length or the coding of a body. -/
structure LeavesFraming (c : Client) (call : Call) : Prop where
  defaults : ∀ header ∈ c.headers, ¬ Frames header
  overrides : ∀ own, overrides call = .ok own → ∀ header ∈ own, ¬ Frames header

theorem named_iff {name s : String} (hkey : header.1 = .text s) :
    Request.Named name header ↔ lower (trim s.toList) = name.toList := by
  unfold Request.Named
  rw [hkey]
  constructor
  · rintro ⟨text, htext, hname⟩
    cases htext
    exact hname
  · exact fun h => ⟨s.toList, rfl, h⟩

theorem not_frames_of_key {s : String} (hkey : header.1 = .text s)
    (h : lower (trim s.toList) ≠ Response.lengthHeader.toList
      ∧ lower (trim s.toList) ≠ Response.codingHeader.toList) : ¬ Frames header := by
  rw [Frames, named_iff hkey, named_iff hkey, not_or]
  exact h

/-- What frames a body is set by the layer of the body alone. -/
theorem setting_of_frames {body : Option (List UInt8)} (hleaves : c.LeavesFraming call)
    (hlayers : c.layers call body = .ok layers) (hsetting : header ∈ layers.flatten)
    (hframes : Frames header) : header ∈ bodyHeaders c.format body := by
  obtain ⟨token, own, htoken, hown, rfl⟩ := layers_eq_ok hlayers
  simp only [List.flatten_cons, List.flatten_nil, List.mem_append, List.not_mem_nil, or_false]
    at hsetting
  rcases hsetting with hconnection | hdefault | hbody | hauthorization | hoverride
  · refine absurd hframes ?_
    rcases List.mem_cons.mp hconnection with rfl | hconnection
    · exact not_frames_of_key rfl (by decide)
    · rw [List.mem_singleton.mp hconnection]
      exact not_frames_of_key rfl (by decide)
  · exact absurd hframes (hleaves.defaults header hdefault)
  · exact hbody
  · exact absurd hframes
      (not_frames_of_key (key_of_tokenHeaders htoken header hauthorization) (by decide))
  · exact absurd hframes (hleaves.overrides own hown header hoverride)

/-- The header that tells the length of a body. -/
def lengthOf (body : List UInt8) : Value × Value :=
  (.text "Content-Length", .text (String.ofList (Integer.decimal body.length)))

theorem frames_of_mem_bodyHeaders {format : BodyFormat} {body : Option (List UInt8)}
    (h : header ∈ bodyHeaders format body) (hframes : Frames header) :
    ∃ data, body = some data ∧ header = lengthOf data := by
  cases body with
  | none => cases h
  | some data =>
      rcases List.mem_cons.mp h with rfl | h
      · exact absurd hframes (not_frames_of_key rfl (by decide))
      · exact ⟨data, rfl, List.mem_singleton.mp h⟩

/-- The length is left as the layer of the body sets it. -/
theorem under_length {body : Option (List UInt8)} (hleaves : c.LeavesFraming call)
    (hlayers : c.layers call body = .ok layers) :
    Entries.under (Entries.putAll [] layers.flatten) "Content-Length"
      = (body.map lengthOf).toList := by
  have hsettings : ∀ setting ∈ Entries.under layers.flatten "Content-Length",
      ∃ data, body = some data ∧ setting = lengthOf data := by
    intro setting hsetting
    obtain ⟨hmem, hkey⟩ := Entries.mem_under.mp hsetting
    have hframes : Frames setting := .inl ((named_iff hkey).mpr (by decide))
    exact frames_of_mem_bodyHeaders (setting_of_frames hleaves hlayers hmem hframes) hframes
  rw [Entries.under_putAll]
  cases body with
  | none =>
      have hnone : Entries.under layers.flatten "Content-Length" = [] :=
        List.eq_nil_iff_forall_not_mem.mpr fun setting hsetting => by
          obtain ⟨data, hdata, -⟩ := hsettings setting hsetting
          cases hdata
      rw [hnone]
      rfl
  | some data =>
      have hset : lengthOf data ∈ Entries.under layers.flatten "Content-Length" := by
        obtain ⟨token, own, -, -, rfl⟩ := layers_eq_ok hlayers
        refine Entries.mem_under.mpr ⟨?_, rfl⟩
        simp [bodyHeaders, lengthOf]
      have hne := List.ne_nil_of_mem hset
      obtain ⟨_, hdata, hlast⟩ := hsettings _ (List.getLast_mem hne)
      cases hdata
      rw [List.getLast?_eq_some_getLast hne, hlast]
      rfl

/-! ## The type of a body -/

/-- The type of a body: the one that the call sets last, in whatever letter
case, and else that of the format. -/
def typeOf (c : Client) (own : Entries Value Value) : Value × Value :=
  (own.filter (spells "Content-type")).getLast?.getD
    (.text "Content-type", .text c.format.contentType)

theorem getLast?_filter {α : Type} {p : α → Bool} {items : List α} {last : α}
    (h : items.getLast? = some last) (hlast : p last = true) :
    (items.filter p).getLast? = some last := by
  obtain ⟨front, rfl⟩ := List.getLast?_eq_some_iff.mp h
  rw [List.filter_append, List.filter_cons_of_pos hlast, List.filter_nil, List.getLast?_concat]

/-- The type of a body is left as it is set. -/
theorem typeOf_mem {data : List UInt8} {own : Entries Value Value}
    (hown : overrides call = .ok own) (hlayers : c.layers call (some data) = .ok layers) :
    c.typeOf own ∈ Entries.putAll [] layers.flatten := by
  obtain ⟨token, own', htoken, hown', rfl⟩ := layers_eq_ok hlayers
  cases hown.symm.trans hown'
  have hlast (s : String) : (Entries.under (List.flatten [connectionHeaders c.url, c.headers,
        bodyHeaders c.format (some data), token, own]) s).getLast?
      = (own.under s).getLast?.or ((token.under s).getLast?.or
        (((bodyHeaders c.format (some data)).under s).getLast?.or
          ((c.headers.under s).getLast?.or ((connectionHeaders c.url).under s).getLast?))) := by
    simp only [List.flatten_cons, List.flatten_nil, List.append_nil, Entries.under_append,
      List.getLast?_append, Option.or_assoc]
  cases hset : (own.filter (spells "Content-type")).getLast? with
  | some header =>
      obtain ⟨-, hspells⟩ := List.mem_filter.mp (List.mem_of_getLast? hset)
      obtain ⟨spelling, hkey, hlower⟩ := spells_iff.mp hspells
      have hsame : (own.filter (spells "Content-type")).filter (·.1 == .text spelling)
          = own.under spelling := by
        rw [List.filter_filter]
        refine List.filter_congr fun other _ => ?_
        rw [Bool.and_eq_left_iff_imp]
        exact fun hother => spells_iff.mpr ⟨spelling, Value.beq_text.mp hother, hlower⟩
      have hunder : (own.under spelling).getLast? = some header :=
        hsame ▸ getLast?_filter hset (Value.beq_text.mpr hkey)
      rw [typeOf, hset]
      refine Entries.mem_putAll_of_last (s := spelling) ?_
      rw [hlast, hunder]
      rfl
  | none =>
      have hnone : own.under "Content-type" = [] := Entries.under_eq_nil fun header hheader hkey => by
        have hspells : spells "Content-type" header = true := spells_iff.mpr ⟨_, hkey, rfl⟩
        have hnil := List.getLast?_eq_none_iff.mp hset
        exact absurd (List.mem_filter.mpr ⟨hheader, hspells⟩) (hnil ▸ List.not_mem_nil)
      have htokens : token.under "Content-type" = [] :=
        Entries.under_eq_nil fun header hheader hkey => by
          rw [key_of_tokenHeaders htoken header hheader] at hkey
          exact absurd hkey (by simp)
      have hbody : (bodyHeaders c.format (some data)).under "Content-type"
          = [(.text "Content-type", .text c.format.contentType)] := by
        have hlayer : bodyHeaders c.format (some data)
            = [(.text "Content-type", .text c.format.contentType)] ++ [lengthOf data] := rfl
        rw [hlayer, Entries.under_append, Entries.under_self, lengthOf,
          Entries.under_of_ne (by simp), List.append_nil]
      rw [typeOf, hset]
      refine Entries.mem_putAll_of_last (s := "Content-type") ?_
      rw [hlast, hnone, htokens, hbody]
      rfl

/-! ## Framing -/

/-- What a reader makes of the bytes of a request agrees with its body. -/
structure FramesBody (c : Client) (own : Entries Value Value) (request : Request)
    (bytes : List UInt8) : Prop where
  /-- Behind the head stands the body. -/
  rest : bytes = headOf bytes ++ (lineEnd ++ (lineEnd ++ request.body.getD []))
  nonempty : request.body ≠ some []
  /-- One field tells the number of bytes of a body, and none that there is none. -/
  length : (Request.fieldsOf bytes).filter (·.1 == Response.lengthHeader)
    = (request.body.map fun body =>
        (Response.lengthHeader, String.ofList (Integer.decimal body.length))).toList
  coding : (Request.fieldsOf bytes).filter (·.1 == Response.codingHeader) = []
  /-- A line tells the type of a body. -/
  type : request.body ≠ none →
    ∃ line ∈ (linesOf (headOf bytes)).tail, Request.Carries (c.typeOf own) line

theorem fieldOfHeader_lengthOf {body : List UInt8} {line : List Char}
    (h : Request.headerLine (lengthOf body).1 (lengthOf body).2 = .ok line) :
    Request.fieldOfHeader (lengthOf body)
      = some (Response.lengthHeader, String.ofList (Integer.decimal body.length)) := by
  have hvalue : (lengthOf body).2.plain = .ok (Integer.decimal body.length) := by
    simp [lengthOf, Value.plain]
  have hascii : ∀ c ∈ "Content-Length".toList ++ Integer.decimal body.length, c.toNat < 128 := by
    rw [Integer.decimal_natCast]
    refine List.forall_mem_append.mpr ⟨Response.forall_mem_of_all (by decide), fun c hc => ?_⟩
    exact Integer.toNat_lt_of_mem_toDigits hc
  have htrim : trim (Integer.decimal body.length) = Integer.decimal body.length := by
    rw [Integer.decimal_natCast]
    exact trimBy_eq_self fun c hc => Integer.isBlank_of_mem_toDigits hc
  rw [Request.fieldOfHeader_ascii h rfl hvalue hascii (by decide), htrim]
  rfl

theorem frames_of_key {other : Value × Value} (hkey : header.1 = other.1) (h : Frames header) :
    Frames other := by
  unfold Frames Request.Named at h ⊢
  rwa [← hkey]

/-- Whatever is left to frame a body is its length. -/
theorem key_of_frames {body : Option (List UInt8)} (hleaves : c.LeavesFraming call)
    (hlayers : c.layers call body = .ok layers)
    (hheader : header ∈ Entries.putAll [] layers.flatten) (hframes : Frames header) :
    header.1 = .text "Content-Length" := by
  obtain ⟨setting, hsetting, hkey⟩ := Entries.key_of_mem_putAll hheader
  have hset : Frames setting := frames_of_key hkey.symm hframes
  obtain ⟨data, -, rfl⟩ :=
    frames_of_mem_bodyHeaders (setting_of_frames hleaves hlayers hsetting hset) hset
  exact hkey.symm

/-- A field that frames a body comes from its length. -/
theorem fields_of_frames {headers : Entries Value Value}
    (hkeys : ∀ header ∈ headers, Frames header → header.1 = .text "Content-Length") :
    (headers.filterMap Request.fieldOfHeader).filter (·.1 == Response.lengthHeader)
        = (headers.under "Content-Length").filterMap Request.fieldOfHeader
      ∧ (headers.filterMap Request.fieldOfHeader).filter (·.1 == Response.codingHeader) = [] := by
  have hnamed {header : Value × Value} {field : String × String} {name : String}
      (hfield : Request.fieldOfHeader header = some field) (hname : field.1 = name)
      (hascii : name.toList.all (fun c => decide (c.toNat < 128)) = true) :
      Request.Named name header := by
    subst hname
    exact Request.named_of_field hfield (Response.forall_mem_of_all hascii)
  constructor
  · refine Request.filter_fields fun header hheader field hfield => ⟨fun hname => ?_, fun hkey => ?_⟩
    · exact hkeys header hheader (.inl (hnamed hfield hname (by decide)))
    · obtain ⟨name, value, hplain, -, rfl⟩ := Request.fieldOfHeader_eq_some hfield
      have hlower : lower (trim (seen "Content-Length".toList)) = Response.lengthHeader.toList := by
        decide
      rw [hkey] at hplain
      cases hplain
      simp only [hlower, String.ofList_toList]
  · refine List.filter_eq_nil_iff.mpr fun field hmem hname => ?_
    obtain ⟨header, hheader, hfield⟩ := List.mem_filterMap.mp hmem
    have hcoding := hnamed hfield (beq_iff_eq.mp hname) (by decide)
    have hkey := hkeys header hheader (.inr hcoding)
    exact absurd ((named_iff hkey).mp hcoding) (by decide)

/-- Where the framing is left to the client, what a reader makes of the request
agrees with its body. -/
theorem framesBody_of_build (hbuild : c.build call = .ok request)
    (hmethod : ∀ text, call.method.plain = .ok text → Response.OneLine text)
    (htarget : Response.OneLine request.target.toList) (hleaves : c.LeavesFraming call)
    (hencode : request.encode = .ok bytes) :
    ∃ own, overrides call = .ok own ∧ c.FramesBody own request bytes := by
  obtain ⟨layers, hlayers, hheaders⟩ := headers_of_build hbuild
  obtain ⟨-, own, -, hown, -⟩ := layers_eq_ok hlayers
  obtain ⟨method, lines, hplain, hlines, rfl⟩ := Request.lines_of_encode hencode
  have hfirst : '\r' ∉ request.firstLine method := by
    rw [(built_of_build hbuild).method] at hplain
    have hversion : '\r' ∉ " HTTP/1.1".toList := by decide
    simp only [Request.firstLine, List.mem_append, List.mem_cons, not_or]
    exact ⟨⟨(hmethod method hplain).1, by decide, htarget.1⟩, hversion⟩
  obtain ⟨hcut, hrest⟩ := Request.headOf_encoded (request.body.getD []) hlines hfirst
  have hfields := Request.filterMap_fieldOf hlines
  have hkeys : ∀ header ∈ request.headers, Frames header → header.1 = .text "Content-Length" :=
    fun header hheader => key_of_frames hleaves hlayers (hheaders ▸ hheader)
  obtain ⟨hlength, hcoding⟩ := fields_of_frames hkeys
  have hunder : request.headers.under "Content-Length" = (request.body.map lengthOf).toList :=
    hheaders ▸ under_length hleaves hlayers
  rw [← hfields] at hlength hcoding
  refine ⟨own, hown, hrest, Payload.serialize_ne_nil (built_of_build hbuild).body, ?_, ?_, ?_⟩
  · rw [Request.fieldsOf, hcut, List.map_cons, List.tail_cons, hlength, hunder]
    cases hbody : request.body with
    | none => rfl
    | some data =>
        rw [hbody] at hunder
        have hmem : lengthOf data ∈ request.headers := by
          refine (Entries.mem_under.mp (?_ : _ ∈ request.headers.under "Content-Length")).1
          rw [hunder]
          exact List.mem_singleton_self _
        obtain ⟨line, -, hline⟩ := exists_of_mem_left hlines hmem
        rw [Option.map_some, Option.toList_some, List.filterMap_cons,
          fieldOfHeader_lengthOf hline]
        rfl
  · rw [Request.fieldsOf, hcut, List.map_cons, List.tail_cons, hcoding]
  · intro hbody
    obtain ⟨data, hdata⟩ := Option.ne_none_iff_exists'.mp hbody
    have hmem : c.typeOf own ∈ request.headers := hheaders ▸ typeOf_mem hown (hdata ▸ hlayers)
    obtain ⟨line, hline, hheader⟩ := exists_of_mem_left hlines hmem
    rw [hcut, List.map_cons, List.tail_cons]
    exact ⟨_, List.mem_map_of_mem hline, (Request.headerLine_eq_ok hheader).1⟩

/-- A call with two bytes to send. -/
def postHi : Call where
  method := .text "POST"
  path := .text "/"
  body := .bytes [104, 105]

theorem framesBody_of_build_postHi :
    ∃ request bytes, loopback.build postHi = .ok request ∧ request.encode = .ok bytes
      ∧ request.body = some [104, 105] ∧ loopback.LeavesFraming postHi
      ∧ ∃ own, overrides postHi = .ok own ∧ loopback.FramesBody own request bytes := by
  have hleaves : loopback.LeavesFraming postHi := by
    refine ⟨fun header hheader => ?_, fun own hown header hheader => ?_⟩
    · cases hheader
    · cases hown
      cases hheader
  refine ⟨_, _, rfl, rfl, rfl, hleaves,
    framesBody_of_build rfl (fun text htext => ?_) ⟨by decide, by decide⟩ hleaves rfl⟩
  cases htext
  exact ⟨by decide, by decide⟩

end Client

end Courier
