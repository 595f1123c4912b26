import Courier.Proofs.Lines
import Courier.Proofs.ReplyReads

/-!
# Numbers that are misread

A reply holds three kinds of numbers, and each of them is looked at before it
is relied on: a status and a length must be digit signs, and the size of a
chunk must be a hexadecimal number. Some texts pass the look and are no count
all the same. Digit signs may have no value in a number or be too many to be
read (`Deceptive`), and a size may have a minus sign (`NegativeSize`).

`Misread` describes the bytes that have such a text where the number is
read. They are exactly the bytes on which reading a reply fails with anything
but a fault of the stream or an invalid response (`blames_readReply`,
`readReply_of_misread`).
-/

namespace Courier

open Text

namespace Response

/-- Digit signs that spell no number. -/
structure Deceptive (s : List Char) : Prop where
  signs : allDigitSigns s = true
  unreadable : ¬ Integer.Readable s

/-- What reading fails with where a number is misread. -/
inductive Escaping : Failure → Prop where
  | number (fault : Unacceptable) : Escaping (.unacceptable fault)
  | negative : Escaping .negativeRead

theorem isDigitSign_of_all {s : List Char} (h : allDigitSigns s = true) :
    s ≠ [] ∧ ∀ c ∈ s, isDigitSign c = true := by
  simpa [allDigitSigns] using h

theorem ofText_of_deceptive {s : List Char} (h : Deceptive s) :
    ∃ fault, Integer.ofText s = .error (.unacceptable fault) :=
  Integer.ofText_refused (isDigitSign_of_all h.signs).2 h.unreadable

/-- Digit signs are a number, or they are deceptive. -/
theorem ofText_of_signs {s : List Char} (h : allDigitSigns s = true) :
    (∃ n : Nat, Integer.ofText s = .ok n) ∨ Deceptive s := by
  by_cases hread : Integer.Readable s
  · exact .inl (Integer.ofText_readable hread (isDigitSign_of_all h).1)
  · exact .inr ⟨h, hread⟩

/-! ## The status -/

/-- A status line that is one, but for the number that its status spells. -/
inductive MisreadStatus (line : List Char) : Prop where
  | intro {protocol code : List Char} {reason : List (List Char)}
      (parts : words 2 (trimLineEnds line) = protocol :: code :: reason)
      (starts : protocolStart.isPrefixOf protocol = true) (deceptive : Deceptive code)

theorem read_of_misread {line : List Char} (h : MisreadStatus line) :
    ∃ fault, StatusLine.read line = .error (.unacceptable fault) := by
  obtain ⟨parts, starts, deceptive⟩ := h
  obtain ⟨fault, hread⟩ := ofText_of_deceptive deceptive
  refine ⟨fault, ?_⟩
  simp only [StatusLine.read, parts, starts, readStatus, deceptive.signs, hread]
  rfl

/-- A status line is refused, unless its status is misread. -/
theorem refused_or_misread {line : List Char} {failure : Failure}
    (h : StatusLine.read line = .error failure) : Refused failure ∨ MisreadStatus line := by
  unfold StatusLine.read at h
  split at h
  · rename_i protocol code reason parts
    split at h
    · rename_i starts
      unfold readStatus at h
      split at h
      · rename_i signs
        obtain ⟨n, hread⟩ | deceptive := ofText_of_signs signs
        · rw [hread] at h
          cases h
        · exact .inr ⟨parts, starts, deceptive⟩
      · cases h
        exact .inl ⟨_, rfl⟩
    · cases h
      exact .inl ⟨_, rfl⟩
  · cases h
    exact .inl ⟨_, rfl⟩

/-! ## The body -/

/-- A body whose length is deceptive, or one in chunks with a negative size. -/
inductive MisreadContent (method : Value) (status : Int) (headers : Entries String String)
    (bytes : List UInt8) : Prop where
  | length {value : String} (body : hasBody method status = true)
      (unchunked : isChunked headers = false) (found : headers.get? lengthHeader = some value)
      (deceptive : Deceptive value.toList)
  | chunk (body : hasBody method status = true) (chunked : isChunked headers = true)
      (negative : NegativeSize bytes)

theorem ofHeaders_of_chunked {headers : Entries String String} (h : isChunked headers = true) :
    Framing.ofHeaders headers = .ok .chunked := by
  rw [Framing.ofHeaders, if_pos h]

/-- Without chunks there is no length, or a length that is read, is refused or is deceptive. -/
theorem ofHeaders_of_unchunked {headers : Entries String String} (h : isChunked headers = false) :
    Framing.ofHeaders headers = .ok .untilClosed
      ∨ (∃ n : Nat, Framing.ofHeaders headers = .ok (.fixed n))
      ∨ (∃ failure, Framing.ofHeaders headers = .error failure ∧ Refused failure)
      ∨ ∃ value, headers.get? lengthHeader = some value ∧ Deceptive value.toList
        ∧ ∃ fault, Framing.ofHeaders headers = .error (.unacceptable fault) := by
  simp only [Framing.ofHeaders, h, contentLength]
  cases headers.get? lengthHeader with
  | none => exact .inl rfl
  | some value =>
      by_cases signs : allDigitSigns value.toList = true
      · simp only [readLength, signs]
        obtain ⟨n, hread⟩ | deceptive := ofText_of_signs signs
        · exact .inr (.inl ⟨n, by rw [hread]; rfl⟩)
        · obtain ⟨fault, hread⟩ := ofText_of_deceptive deceptive
          exact .inr (.inr (.inr ⟨value, rfl, deceptive, fault, by rw [hread]; rfl⟩))
      · simp only [readLength, signs]
        exact .inr (.inr (.inl ⟨_, rfl, _, rfl⟩))

theorem blames_readContent (method : Value) (status : Int) (headers : Entries String String)
    (s : Stream) :
    (readContent method status headers s).Blames s.ending fun failure =>
      Refused failure ∨ MisreadContent method status headers s.bytes ∧ Escaping failure := by
  rw [readContent_eq]
  by_cases hbody : hasBody method status = true
  · rw [if_pos hbody]
    cases hchunked : isChunked headers with
    | true =>
        rw [ofHeaders_of_chunked hchunked]
        simp only [Outcome.ofExcept, Outcome.andThen_done, joined_readBody]
        refine Outcome.Blames.map ?_ _
        refine (blames_readChunks blockSize_pos [] s).mono ?_
        rintro failure (size | negative)
        · exact .inl ⟨_, rfl⟩
        · exact .inr ⟨.chunk hbody hchunked negative, .negative⟩
    | false =>
        obtain hframing | ⟨n, hframing⟩ | ⟨failure, hframing, hrefused⟩
          | ⟨value, hvalue, hdeceptive, fault, hframing⟩ := ofHeaders_of_unchunked hchunked
        · rw [hframing]
          simp only [Outcome.ofExcept, Outcome.andThen_done]
          rw [joined_readToEnd blockSize_pos]
          exact (blames_atEnding s _).map _
        · rw [hframing]
          simp only [Outcome.ofExcept, Outcome.andThen_done, joined_readBody]
          exact (blames_readLengthBlocks blockSize_pos (Int.natCast_nonneg n) [] s _).map _
        · rw [hframing]
          exact .own (.inl hrefused) s
        · rw [hframing]
          exact .own (.inr ⟨.length hbody hchunked hvalue hdeceptive, .number fault⟩) s
  · rw [if_neg hbody]
    exact .done [] rfl

theorem readContent_of_misread {method : Value} {status : Int} {headers : Entries String String}
    {s : Stream} (h : MisreadContent method status headers s.bytes) :
    ∃ failure rest, readContent method status headers s = .failed failure rest
      ∧ Escaping failure := by
  cases h with
  | @length value body unchunked found deceptive =>
      obtain ⟨fault, hread⟩ := ofText_of_deceptive deceptive
      have hframing : Framing.ofHeaders headers = .error (.unacceptable fault) := by
        simp only [Framing.ofHeaders, unchunked, contentLength, found, readLength, deceptive.signs,
          hread]
        rfl
      refine ⟨_, s, ?_, .number fault⟩
      rw [readContent_eq, if_pos body, hframing]
      rfl
  | chunk body chunked negative =>
      obtain ⟨rest, hanswer⟩ := answer_of_negativeSize blockSize_pos negative [] rfl
      refine ⟨.negativeRead, rest, ?_, .negative⟩
      rw [readContent_eq, if_pos body, ofHeaders_of_chunked chunked]
      simp only [Outcome.ofExcept, Outcome.andThen_done, joined_readBody, hanswer]
      rfl

/-! ## Replies -/

/-- The bytes of a reply in which a number is misread: behind a head that can
be read stands what its status line or its headers lead to. -/
inductive Misread (method : Value) : List UInt8 → Prop where
  | status {taken : List UInt8} {head : Head} (consumed : Consumes readHead taken head)
      (misread : MisreadStatus head.statusLine.toList) (after : List UInt8) :
      Misread method (taken ++ after)
  | content {taken after : List UInt8} {head : Head} {line : StatusLine}
      (consumed : Consumes readHead taken head)
      (reads : StatusLine.read head.statusLine.toList = .ok line)
      (misread : MisreadContent method line.status head.headers after) :
      Misread method (taken ++ after)

/-- What can go wrong with a reply is the stream's fault, is refused, or is a
number that is misread. -/
theorem blames_readReply (method : Value) (s : Stream) :
    (readReply method s).Blames s.ending fun failure =>
      Refused failure ∨ Misread method s.bytes ∧ Escaping failure := by
  refine ((blames_readHead s).mono fun failure hrefused => .inl hrefused).andThen
    fun head rest hhead hending => ?_
  obtain ⟨taken, htaken, hconsumed⟩ := delimitsAt_readHead s head rest hhead
  cases hline : StatusLine.read head.statusLine.toList with
  | error failure =>
      refine .own ?_ rest
      obtain hrefused | hmisread := refused_or_misread hline
      · exact .inl hrefused
      · obtain ⟨fault, hfault⟩ := read_of_misread hmisread
        obtain rfl : failure = .unacceptable fault := Except.error.inj (hline.symm.trans hfault)
        exact .inr ⟨htaken ▸ .status hconsumed hmisread rest.bytes, .number fault⟩
  | ok line =>
      simp only [Outcome.ofExcept, Outcome.andThen_done, ← hending]
      refine ((blames_readContent method line.status head.headers rest).mono ?_).map _
      rintro failure (hrefused | ⟨hmisread, hescaping⟩)
      · exact .inl hrefused
      · exact .inr ⟨htaken ▸ .content hconsumed hline hmisread, hescaping⟩

/-- Where a number is misread, reading fails, and not as a response that is invalid. -/
theorem readReply_of_misread {method : Value} {s : Stream} (h : Misread method s.bytes) :
    ∃ failure rest, readReply method s = .failed failure rest ∧ Escaping failure := by
  generalize hbytes : s.bytes = bytes at h
  cases h with
  | status consumed misread after =>
      obtain ⟨rest, hhead, -, -⟩ := consumed.whole hbytes
      obtain ⟨fault, hfault⟩ := read_of_misread misread
      refine ⟨.unacceptable fault, rest, ?_, .number fault⟩
      rw [readReply, hhead, Outcome.andThen_done, hfault]
      rfl
  | content consumed reads misread =>
      obtain ⟨rest, hhead, hrest, -⟩ := consumed.whole hbytes
      obtain ⟨failure, last, hcontent, hescaping⟩ := readContent_of_misread (hrest ▸ misread)
      refine ⟨failure, last, ?_, hescaping⟩
      rw [readReply, hhead, Outcome.andThen_done, reads]
      simp only [Outcome.ofExcept, Outcome.andThen_done, hcontent]
      rfl

end Response

end Courier
