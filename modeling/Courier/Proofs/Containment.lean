import Courier.Proofs.Separators
import Courier.Proofs.Taxonomy
import Courier.Proofs.Wire

/-!
# Requests that contain what they carry

A request is contained if it is refused for a header, or if its bytes say what
it says and no more: the head has the request line and one line for each
header, and behind the head stands the body (`Request.Contained`).

Header lines are checked, and parameters are encoded. The token is a header
like any other. That leaves the request line, of which nothing is checked:
with headers that pass, a request is contained exactly if nothing in the
method, in the path of the base URL, or in the path of the call could end a
line (`Client.contained_iff`).
-/

namespace Courier

open Text
open Response (joinLines joinLines_cons)

/-! ## Queries -/

namespace Text.Percent

theorem breaksLine_capitalHexDigit (n : Nat) :
    Request.breaksLine (capitalHexDigit n) = false := by
  have hdigits : ∀ k < 16, Request.breaksLine (Nat.digitChar k).toUpper = false := by decide
  exact hdigits (n % 16) (Nat.mod_lt _ (by decide))

theorem unbreaking_encodeByte (b : UInt8) : Unbreaking (encodeByte b) := by
  intro c hc
  unfold encodeByte at hc
  split at hc
  · rename_i hunreserved
    rw [List.mem_singleton.mp hc]
    by_contra hbreaks
    have hcode := Latin1.toNat_ofNat_of_lt b.toNat_lt
    have hlow : b.toNat ≤ 13 := by
      obtain heq | heq | heq := Request.breaksLine_iff.mp (by simpa using hbreaks) <;>
        rw [heq] at hcode <;> rw [← hcode] <;> decide
    simp only [isUnreserved, Bool.or_eq_true, Bool.and_eq_true, decide_eq_true_eq, beq_iff_eq]
      at hunreserved
    omega
  · split at hc
    · rw [List.mem_singleton.mp hc]
      rfl
    · simp only [List.mem_cons, List.not_mem_nil, or_false] at hc
      obtain rfl | rfl | rfl := hc
      · rfl
      · exact breaksLine_capitalHexDigit _
      · exact breaksLine_capitalHexDigit _

theorem unbreaking_encodeBytes (bytes : List UInt8) : Unbreaking (encodeBytes bytes) := by
  intro c hc
  obtain ⟨b, -, hmem⟩ := List.mem_flatMap.mp hc
  exact unbreaking_encodeByte b c hmem

end Text.Percent

namespace Query

theorem unbreaking_component {v : Value} {text : List Char} (h : component v = .ok text) :
    Unbreaking text := by
  unfold component at h
  split at h
  · cases h
    exact Percent.unbreaking_encodeBytes _
  · obtain ⟨plain, -, rfl⟩ := map_eq_ok h
    exact Percent.unbreaking_encodeBytes _

theorem unbreaking_fieldsOf {name value : Value} {fields : List (List Char)}
    (h : fieldsOf name value = .ok fields) : ∀ field ∈ fields, Unbreaking field := by
  intro field hfield
  obtain ⟨shown, hname, h⟩ := bind_eq_ok h
  obtain ⟨part, -, hpart⟩ := mem_of_mapM_eq_ok h field hfield
  obtain ⟨text, htext, rfl⟩ := map_eq_ok hpart
  exact unbreaking_append.mpr
    ⟨unbreaking_component hname, unbreaking_cons.mpr ⟨rfl, unbreaking_component htext⟩⟩

theorem unbreaking_intercalate {fields : List (List Char)}
    (h : ∀ field ∈ fields, Unbreaking field) : Unbreaking (['&'].intercalate fields) :=
  intercalate_of_append unbreaking_nil (fun hs ht => unbreaking_append.mpr ⟨hs, ht⟩) (by decide) h

theorem unbreaking_join {fields : List (List (List Char))}
    (h : ∀ group ∈ fields, ∀ field ∈ group, Unbreaking field) : Unbreaking (join fields) := by
  refine unbreaking_intercalate fun field hfield => ?_
  obtain ⟨group, hgroup, hmem⟩ := List.mem_flatten.mp hfield
  exact h group hgroup field hmem

/-- Whatever the parameters, their query cannot end a line. -/
theorem unbreaking_encode {params : Value} {query : List Char} (h : encode params = .ok query) :
    Unbreaking query := by
  unfold encode at h
  split at h
  · obtain ⟨fields, hfields, rfl⟩ := map_eq_ok h
    refine unbreaking_join fun group hgroup => ?_
    obtain ⟨entry, -, hentry⟩ := mem_of_mapM_eq_ok hfields group hgroup
    exact unbreaking_fieldsOf hentry
  · obtain ⟨items, -, h⟩ := bind_eq_ok h
    obtain ⟨fields, hfields, h⟩ := bind_eq_ok h
    cases h
    refine unbreaking_join fun group hgroup => ?_
    obtain ⟨item, -, hitem⟩ := mem_of_mapM_eq_ok hfields group hgroup
    obtain ⟨pair, -, hpair⟩ := bind_eq_ok hitem
    exact unbreaking_fieldsOf hpair

end Query

/-! ## Lines of a request -/

namespace Request

variable {request : Request} {name value : Value} {line : List Char} {failure : Failure}

/-- The bytes of a line that carries a header. -/
def Carries (header : Value × Value) (line : List UInt8) : Prop :=
  ∃ name value, header.1.plain = .ok name ∧ header.2.plain = .ok value
    ∧ line = Utf8.encode (name ++ ':' :: ' ' :: value)

/-- The line of a header has its name and its value, both as they should be. -/
theorem parts_of_headerLine (h : headerLine name value = .ok line) :
    ∃ shownName shownValue, name.plain = .ok shownName ∧ value.plain = .ok shownValue
      ∧ line = shownName ++ ':' :: ' ' :: shownValue ∧ ':' ∉ shownName
      ∧ Unbreaking shownName ∧ Unbreaking shownValue := by
  obtain ⟨shownName, hname, h⟩ := bind_eq_ok h
  obtain ⟨shownValue, hvalue, h⟩ := bind_eq_ok h
  split at h
  · cases h
  · rename_i hpasses
    cases h
    simp only [Bool.or_eq_true, not_or, Bool.not_eq_true, List.any_eq_false] at hpasses
    have hparts : Unbreaking (shownName ++ shownValue) := fun c hc => by simpa using hpasses.2 c hc
    obtain ⟨hsealedName, hsealedValue⟩ := unbreaking_append.mp hparts
    have hcolon : ':' ∉ shownName := by simpa using hpasses.1.2
    exact ⟨shownName, shownValue, hname, hvalue, rfl, hcolon, hsealedName, hsealedValue⟩

theorem headerLine_eq_ok (h : headerLine name value = .ok line) :
    Carries (name, value) (Utf8.encode line) ∧ Unbreaking line ∧ line ≠ [] := by
  obtain ⟨shownName, shownValue, hname, hvalue, rfl, -, hsealedName, hsealedValue⟩ :=
    parts_of_headerLine h
  refine ⟨⟨shownName, shownValue, hname, hvalue, rfl⟩, ?_, by simp⟩
  exact unbreaking_append.mpr
    ⟨hsealedName, unbreaking_cons.mpr ⟨rfl, unbreaking_cons.mpr ⟨rfl, hsealedValue⟩⟩⟩

/-- A header has a line, is refused, or has no text. -/
theorem headerLine_error (h : headerLine name value = .error failure) :
    Unwritable failure ∨ ∃ name value, failure = .invalidHeader name value := by
  unfold headerLine at h
  cases hname : name.plain with
  | error cause =>
      rw [hname] at h
      cases h
      exact .inl (Value.unwritable_plain hname)
  | ok shownName =>
      cases hvalue : value.plain with
      | error cause =>
          rw [hname, hvalue] at h
          cases h
          exact .inl (Value.unwritable_plain hvalue)
      | ok shownValue =>
          rw [hname, hvalue] at h
          simp only [bind, Except.bind] at h
          split at h
          · cases h
            exact .inr ⟨_, _, rfl⟩
          · cases h

/-- The request line of a method with this text. -/
def firstLine (request : Request) (method : List Char) : List Char :=
  method ++ ' ' :: request.target.toList ++ " HTTP/1.1".toList

theorem encode_headText (lines : List (List Char)) :
    Utf8.encode (headText lines) = joinLines (lines.map Utf8.encode) ++ lineEnd := by
  have hend : Utf8.encode ['\r', '\n'] = lineEnd := by decide
  unfold headText
  rw [Utf8.encode_append, hend]
  refine congrArg (· ++ lineEnd) ?_
  induction lines with
  | nil => rfl
  | cons line lines ih =>
      rw [List.flatMap_cons, Utf8.encode_append, Utf8.encode_append, hend, ih]
      rfl

/-- Where the method has a text, the headers decide what becomes of the request. -/
theorem encode_of_written {method : List Char} (h : request.method.plain = .ok method) :
    request.encode = (request.headers.mapM fun header => headerLine header.1 header.2).map
      fun lines => joinLines ((request.firstLine method :: lines).map Utf8.encode)
        ++ (lineEnd ++ request.body.getD []) := by
  have hfirst : requestLine request.method (.text request.target)
      = .ok (request.firstLine method) := by
    simp only [requestLine, h]
    rfl
  simp only [encode, encodeParts, hfirst]
  cases request.headers.mapM fun header => headerLine header.1 header.2 with
  | error failure => rfl
  | ok lines =>
      simp only [bind, Except.bind, Except.map]
      rw [encode_headText, List.append_assoc]

/-- A request that has bytes has a line for each header, all of which pass. -/
theorem lines_of_encode {bytes : List UInt8} (h : request.encode = .ok bytes) :
    ∃ method lines, request.method.plain = .ok method
      ∧ List.Forall₂ (fun header line => headerLine header.1 header.2 = .ok line)
        request.headers lines
      ∧ bytes = joinLines ((request.firstLine method :: lines).map Utf8.encode)
        ++ (lineEnd ++ request.body.getD []) := by
  cases hmethod : request.method.plain with
  | error failure => cases h.symm.trans (encode_of_method hmethod)
  | ok method =>
      rw [encode_of_written hmethod] at h
      obtain ⟨lines, hlines, rfl⟩ := map_eq_ok h
      exact ⟨method, lines, rfl, mapM_eq_ok.mp hlines, rfl⟩

/-! ## Containment -/

/-- The bytes say what the request says, and no more. -/
structure Framed (request : Request) (bytes : List UInt8) : Prop where
  count : (linesOf (headOf bytes)).length = 1 + request.headers.length
  first : ∃ method, request.method.plain = .ok method
    ∧ (linesOf (headOf bytes)).head? = some (Utf8.encode (request.firstLine method))
  headers : List.Forall₂ Carries request.headers (linesOf (headOf bytes)).tail
  clean : ∀ line ∈ linesOf (headOf bytes), Sealed line
  rest : bytes = headOf bytes ++ (lineEnd ++ (lineEnd ++ request.body.getD []))

/-- The request is refused for a header, or its bytes say no more than it does. -/
def Contained (request : Request) : Prop :=
  (∃ name value, request.encode = .error (.invalidHeader name value))
    ∨ ∃ bytes, request.encode = .ok bytes ∧ request.Framed bytes

/-- Something in the request has no text, and no header before it is refused. -/
inductive Blocked (request : Request) : Prop where
  | method {failure : Failure} (unwritable : request.method.plain = .error failure)
  | header {before after : Entries Value Value} {header : Value × Value} {failure : Failure}
      (headers : request.headers = before ++ header :: after)
      (legal : ∀ passed ∈ before, ∃ line, headerLine passed.1 passed.2 = .ok line)
      (fails : headerLine header.1 header.2 = .error failure) (unwritable : Unwritable failure)

/-- No header is refused, and all of them have a text. -/
def Admits (request : Request) : Prop :=
  ∀ header ∈ request.headers, ∃ line, headerLine header.1 header.2 = .ok line

theorem unbreaking_firstLine {method : List Char} :
    Unbreaking (request.firstLine method)
      ↔ Unbreaking method ∧ Unbreaking request.target.toList := by
  have hspace : breaksLine ' ' = false := rfl
  have hversion : Unbreaking " HTTP/1.1".toList := by decide
  simp only [firstLine, unbreaking_append, unbreaking_cons, hspace, hversion, true_and, and_true]

/-- Lines that hold no line end are what becomes of their bytes, and the body
stands behind them. -/
theorem headOf_encoded {method : List Char} {lines : List (List Char)} (body : List UInt8)
    (hlines : List.Forall₂ (fun header line => headerLine header.1 header.2 = .ok line)
      request.headers lines) (hfirst : '\r' ∉ request.firstLine method) :
    let bytes := joinLines ((request.firstLine method :: lines).map Utf8.encode)
      ++ (lineEnd ++ body)
    linesOf (headOf bytes) = (request.firstLine method :: lines).map Utf8.encode
      ∧ bytes = headOf bytes ++ (lineEnd ++ (lineEnd ++ body)) := by
  have hreturn {text : List Char} (h : '\r' ∉ text) : (13 : UInt8) ∉ Utf8.encode text := by
    rwa [show (13 : UInt8) = UInt8.ofNat '\r'.toNat from rfl, Utf8.mem_encode (by decide)]
  have hwhole : ∀ line ∈ (request.firstLine method :: lines).map Utf8.encode,
      line ≠ [] ∧ (13 : UInt8) ∉ line := by
    intro line hline
    obtain ⟨text, htext, rfl⟩ := List.mem_map.mp hline
    obtain rfl | htext := List.mem_cons.mp htext
    · exact ⟨Utf8.encode_ne_nil (by simp [firstLine]), hreturn hfirst⟩
    · obtain ⟨header, -, hheader⟩ := mem_of_mapM_eq_ok (mapM_eq_ok.mpr hlines) text htext
      obtain ⟨-, hunbreaking, hne⟩ := headerLine_eq_ok hheader
      refine ⟨Utf8.encode_ne_nil hne, hreturn fun hmem => ?_⟩
      cases hunbreaking _ hmem
  have hne : (request.firstLine method :: lines).map Utf8.encode ≠ [] := by simp
  have hhead := headOf_joinLines body hne hwhole
  refine ⟨?_, ?_⟩
  · rw [hhead, linesOf_intercalate hne fun line hline => (hwhole line hline).2]
  · rw [hhead, joinLines_eq_intercalate hne, List.append_assoc]

/-- Lines that cannot be ended early say what the request says, and no more. -/
theorem framed_of_unbreaking {method : List Char} {lines : List (List Char)}
    (hmethod : request.method.plain = .ok method)
    (hlines : List.Forall₂ (fun header line => headerLine header.1 header.2 = .ok line)
      request.headers lines) (hfirst : Unbreaking (request.firstLine method)) :
    request.Framed (joinLines ((request.firstLine method :: lines).map Utf8.encode)
      ++ (lineEnd ++ request.body.getD [])) := by
  have hsealed : ∀ line ∈ (request.firstLine method :: lines).map Utf8.encode, Sealed line := by
    intro line hline
    obtain ⟨text, htext, rfl⟩ := List.mem_map.mp hline
    obtain rfl | htext := List.mem_cons.mp htext
    · exact sealed_encode.mpr hfirst
    · obtain ⟨header, -, hheader⟩ := mem_of_mapM_eq_ok (mapM_eq_ok.mpr hlines) text htext
      exact sealed_encode.mpr (headerLine_eq_ok hheader).2.1
  have hreturn : '\r' ∉ request.firstLine method := fun hmem => by cases hfirst _ hmem
  obtain ⟨hcut, hrest⟩ := headOf_encoded (request.body.getD []) hlines hreturn
  refine ⟨?_, ⟨method, hmethod, ?_⟩, ?_, ?_, hrest⟩
  · rw [hcut, List.length_map, List.length_cons, hlines.length_eq, Nat.add_comm]
  · rw [hcut]
    rfl
  · rw [hcut]
    exact List.forall₂_map_right_iff.mpr (hlines.imp fun _ _ h => (headerLine_eq_ok h).1)
  · rw [hcut]
    exact hsealed

theorem Blocked.encode (h : request.Blocked) :
    ∃ failure, request.encode = .error failure ∧ Unwritable failure := by
  cases hmethod : request.method.plain with
  | error failure => exact ⟨failure, encode_of_method hmethod, Value.unwritable_plain hmethod⟩
  | ok method =>
      cases h with
      | method unwritable => cases hmethod.symm.trans unwritable
      | @header before after header failure headers legal fails unwritable =>
          refine ⟨failure, ?_, unwritable⟩
          rw [encode_of_written hmethod, mapM_eq_error.mpr ⟨_, _, _, headers, legal, fails⟩]
          rfl

theorem not_contained_of_blocked (h : request.Blocked) : ¬ request.Contained := by
  obtain ⟨failure, hencode, hunwritable⟩ := h.encode
  rintro (⟨name, value, hrefused⟩ | ⟨bytes, hbytes, -⟩)
  · cases hencode.symm.trans hrefused
    cases hunwritable
  · cases hencode.symm.trans hbytes

/-- A request with a text, whose headers do not pass, is refused for one of them. -/
theorem contained_of_not_admits (hwritten : ¬ request.Blocked) (h : ¬ request.Admits) :
    request.Contained := by
  cases hmethod : request.method.plain with
  | error failure => exact absurd (.method hmethod) hwritten
  | ok method =>
      have hencode := encode_of_written hmethod
      cases hlines : request.headers.mapM fun header => headerLine header.1 header.2 with
      | error failure =>
          obtain ⟨before, header, after, hheaders, hlegal, hfails⟩ := mapM_eq_error.mp hlines
          rw [hlines] at hencode
          obtain hunwritable | ⟨name, value, rfl⟩ := headerLine_error hfails
          · exact absurd (.header hheaders hlegal hfails hunwritable) hwritten
          · exact .inl ⟨name, value, hencode⟩
      | ok lines =>
          refine absurd (fun header hheader => ?_) h
          obtain ⟨line, -, hline⟩ := exists_of_mem_left (mapM_eq_ok.mp hlines) hheader
          exact ⟨line, hline⟩

/-- With headers that pass all is up to the request line. -/
theorem contained_iff_of_admits {method : List Char} (hmethod : request.method.plain = .ok method)
    (h : request.Admits) : request.Contained ↔ Unbreaking (request.firstLine method) := by
  have hencode := encode_of_written hmethod
  cases hlines : request.headers.mapM fun header => headerLine header.1 header.2 with
  | error failure =>
      obtain ⟨header, hheader, hfails⟩ := mapM_error hlines
      obtain ⟨line, hline⟩ := h header hheader
      cases hline.symm.trans hfails
  | ok lines =>
      rw [hlines] at hencode
      constructor
      · rintro (⟨name, value, hrefused⟩ | ⟨bytes, -, hframed⟩)
        · cases hencode.symm.trans hrefused
        · obtain ⟨method', hmethod', hfirst⟩ := hframed.first
          cases hmethod.symm.trans hmethod'
          exact sealed_encode.mp (hframed.clean _ (List.mem_of_head? hfirst))
      · intro hfirst
        exact .inr ⟨_, hencode, framed_of_unbreaking hmethod (mapM_eq_ok.mp hlines) hfirst⟩

/-- A request is contained if and only if what is looked at has a text, and the
request line cannot be ended early where the headers pass. -/
theorem contained_iff : request.Contained ↔ ¬ request.Blocked
    ∧ (request.Admits → ∀ method, request.method.plain = .ok method →
      Unbreaking method ∧ Unbreaking request.target.toList) := by
  by_cases hblocked : request.Blocked
  · exact iff_of_false (not_contained_of_blocked hblocked) fun h => h.1 hblocked
  · by_cases hadmits : request.Admits
    · cases hmethod : request.method.plain with
      | error failure => exact absurd (.method hmethod) hblocked
      | ok method =>
          rw [contained_iff_of_admits hmethod hadmits, unbreaking_firstLine]
          refine ⟨fun h => ⟨hblocked, fun _ other hother => ?_⟩, fun h => h.2 hadmits method rfl⟩
          cases hother
          exact h
    · exact iff_of_true (contained_of_not_admits hblocked hadmits)
        ⟨hblocked, fun h => absurd h hadmits⟩

end Request

/-! ## Requests of a client -/

namespace Client

variable {c : Client} {call : Call} {request : Request}

theorem callPath_eq_ok {v : Value} {path : List Char} (h : callPath v = .ok path) :
    ∃ s, v = .text s ∧ (path = s.toList ∨ path = '/' :: s.toList) := by
  unfold callPath at h
  split at h
  · rename_i s
    refine ⟨s, rfl, ?_⟩
    split at h <;> cases h <;> simp_all
  · split at h
    · split at h <;> cases h
    · cases h

theorem unbreaking_callQuery {params : Value} {query : List Char}
    (h : callQuery params = .ok query) : Unbreaking query := by
  unfold callQuery at h
  split at h
  · obtain ⟨encoded, hencoded, rfl⟩ := map_eq_ok h
    exact unbreaking_cons.mpr ⟨rfl, Query.unbreaking_encode hencoded⟩
  · cases h
    exact unbreaking_nil

/-- A target that is empty but for its query becomes a slash, which ends no line. -/
theorem unbreaking_target_iff {base path query : List Char} (hquery : Unbreaking query) :
    Unbreaking (target base path query) ↔ Unbreaking base ∧ Unbreaking path := by
  unfold target
  rw [unbreaking_append, and_iff_left hquery, ← unbreaking_append]
  split
  · rename_i hempty
    rw [hempty]
    exact iff_of_true (by decide) unbreaking_nil
  · exact Iff.rfl

theorem unbreaking_target (h : c.build call = .ok request) :
    Unbreaking request.target.toList ↔ Unbreaking c.url.path.toList
      ∧ ∀ s, call.path = .text s → Unbreaking s.toList := by
  obtain ⟨path, query, hpath, hquery, htarget⟩ := (built_of_build h).target
  obtain ⟨s, hcall, hpath⟩ := callPath_eq_ok hpath
  have hslash : Request.breaksLine '/' = false := rfl
  have hself : Unbreaking path ↔ Unbreaking s.toList := by
    obtain rfl | rfl := hpath
    · exact Iff.rfl
    · simp only [unbreaking_cons, hslash, true_and]
  rw [htarget, unbreaking_target_iff (unbreaking_callQuery hquery), hself, hcall]
  refine and_congr_right fun _ => ⟨fun h other hother => ?_, fun h => h s rfl⟩
  cases hother
  exact h

/-- Nothing that stands in the request line of a call could end it. -/
structure Harmless (c : Client) (call : Call) : Prop where
  method : ∀ text, call.method.plain = .ok text → Unbreaking text
  base : Unbreaking c.url.path.toList
  path : ∀ s, call.path = .text s → Unbreaking s.toList

/-- The request of a call is contained if and only if what is looked at has a
text, and the call is harmless where the headers pass. -/
theorem build_contained_iff (h : c.build call = .ok request) :
    request.Contained ↔ ¬ request.Blocked ∧ (request.Admits → c.Harmless call) := by
  have hsame := (built_of_build h).method
  rw [Request.contained_iff, hsame, unbreaking_target h]
  refine and_congr_right fun hblocked => imp_congr_right fun _ => ⟨fun hline => ?_, ?_⟩
  · obtain ⟨method, hmethod⟩ : ∃ method, call.method.plain = .ok method := by
      cases hmethod : call.method.plain with
      | error failure => exact absurd (.method (hsame ▸ hmethod)) hblocked
      | ok method => exact ⟨method, rfl⟩
    obtain ⟨-, hbase, hpath⟩ := hline method hmethod
    exact ⟨fun text htext => (hline text htext).1, hbase, hpath⟩
  · rintro ⟨hmethod, hbase, hpath⟩ text htext
    exact ⟨hmethod text htext, hbase, hpath⟩

/-- A call for the root of a server is harmless, so its request is contained. -/
theorem build_contained_iff_getRoot :
    ∃ request, loopback.build getRoot = .ok request ∧ request.Contained := by
  obtain ⟨request, hbuild, htexts, hmethod⟩ := build_getRoot
  have hwritten : ¬ request.Blocked := fun hblocked => by
    obtain ⟨failure, hencode, hunwritable⟩ := hblocked.encode
    have hget : request.method.plain = .ok "GET".toList := by rw [hmethod]; rfl
    obtain ⟨name, value, rfl⟩ := Request.encode_error hget htexts hencode
    cases hunwritable
  have hharmless : loopback.Harmless getRoot := by
    refine ⟨fun text htext => ?_, by decide, fun s hs => ?_⟩
    · cases htext
      decide
    · cases hs
      decide
  exact ⟨request, hbuild, (build_contained_iff hbuild).mpr ⟨hwritten, fun _ => hharmless⟩⟩

/-- A call whose path brings a header line of its own. -/
def smuggling : Call where
  method := .text "GET"
  path := .text "/ HTTP/1.1\r\nX-Smuggled: yes\r\nX-Rest:"

/-- The request has two headers, but its head has five lines. -/
theorem not_contained_smuggling :
    loopback.Constructed ∧ ∃ request bytes, loopback.build smuggling = .ok request
      ∧ request.encode = .ok bytes ∧ request.headers.length = 2
      ∧ (linesOf (headOf bytes)).length = 5 ∧ ¬ request.Contained := by
  have hbuild : ∃ request bytes, loopback.build smuggling = .ok request
      ∧ request.encode = .ok bytes ∧ request.headers.length = 2
      ∧ (linesOf (headOf bytes)).length = 5 := by
    refine ⟨_, _, rfl, rfl, rfl, ?_⟩
    decide
  obtain ⟨request, bytes, hbuild, hencode, hheaders, hlines⟩ := hbuild
  refine ⟨constructed_loopback, request, bytes, hbuild, hencode, hheaders, hlines, ?_⟩
  rintro (⟨name, value, hrefused⟩ | ⟨framed, hframed, hsays⟩)
  · cases hencode.symm.trans hrefused
  · cases hencode.symm.trans hframed
    have hcount := hsays.count
    omega

end Client

end Courier
