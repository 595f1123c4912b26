import Courier.Proofs.BodyReads
import Courier.Proofs.HexNumbers

/-!
# Bodies in chunks, strict and lenient

A body in chunks is a grammar over bytes (`ChunkedBody`) with two parameters:
which texts are the size of a chunk, and what may stand behind its data. By
the strict rules (`WellFormed`) a size is hexadecimal digits, and a line end
stands behind the data. The reader accepts just the bodies by lenient rules
(`Accepted`): a size is whatever is read as one, and any two bytes stand behind
the data.

So what is accepted is well-formed if and only if nothing in it deviates
(`Deviates`). Sizes that no rule allows are refused where they are met
(`SizeAt`, `readChunks_sound_iff`).
-/

namespace Courier.Response

open Text

variable {line data skipped more after bytes taken content : List UInt8}
  {size : List UInt8 → Int → Prop} {gap : List UInt8 → Prop} {m n max : Int} {s : Stream}

/-! ## Sizes -/

/-- What a size line says in front of a semicolon, without blanks around it. -/
def sizeWord (line : List UInt8) : List Char :=
  trimBy isAsciiBlank (Latin1.decode (partitionAt 59 line).1)

theorem trimBy_decode_sizeText (line : List UInt8) :
    trimBy isAsciiBlank (Latin1.decode (sizeText line)) = sizeWord line := by
  unfold sizeText sizeWord
  cases hcut : partitionAt 59 line with
  | mk front back =>
      cases back with
      | none =>
          have hwhole : front = line := by
            unfold partitionAt at hcut
            split at hcut
            · exact (Prod.mk.inj hcut).1.symm
            · cases hcut
          rw [hwhole]
      | some back =>
          obtain ⟨lead, trail, haround, hlead, htrail⟩ := exists_around_trimBy
            (fun b : UInt8 => isAsciiBlank (Char.ofNat b.toNat)) front
          have hleadText : ∀ c ∈ Latin1.decode lead, isAsciiBlank c = true := by
            intro c hc
            obtain ⟨b, hb, rfl⟩ := List.mem_map.mp hc
            exact hlead b hb
          have htrailText : ∀ c ∈ Latin1.decode trail, isAsciiBlank c = true := by
            intro c hc
            obtain ⟨b, hb, rfl⟩ := List.mem_map.mp hc
            exact htrail b hb
          have hparts : Latin1.decode front = Latin1.decode lead
              ++ (Latin1.decode (trimBy (fun b => isAsciiBlank (Char.ofNat b.toNat)) front)
                ++ Latin1.decode trail) := by
            simp only [Latin1.decode, ← List.map_append, ← List.append_assoc]
            exact congrArg _ haround
          simp only [hparts, trimBy_lead hleadText, trimBy_trail htrailText]

/-- Lenient numbers are all that is read as a size. -/
theorem chunkSize_eq_ok_iff : chunkSize line = .ok n ↔ Integer.Lenient (sizeWord line) n := by
  rw [← trimBy_decode_sizeText, ← Integer.readHex_eq_ok_iff, chunkSize, Integer.ofHexBytes,
    Latin1.decode]
  cases Integer.readHex ((sizeText line).map fun b => Char.ofNat b.toNat) with
  | error fault => exact iff_of_false (fun h => by cases h) (fun h => by cases h)
  | ok value => exact ⟨fun h => by cases h; rfl, fun h => by cases h; rfl⟩

/-- A size of hexadecimal digits and nothing else. -/
def StrictSize (line : List UInt8) (n : Int) : Prop := Integer.Digits (sizeWord line) n

/-- Whatever is read as a size. -/
def LenientSize (line : List UInt8) (n : Int) : Prop := Integer.Lenient (sizeWord line) n

theorem StrictSize.lenient (h : StrictSize line n) : LenientSize line n := Integer.Digits.lenient h

theorem LenientSize.unique (h : LenientSize line n) (h' : LenientSize line m) : n = m :=
  Except.ok.inj ((chunkSize_eq_ok_iff.mpr h).symm.trans (chunkSize_eq_ok_iff.mpr h'))

/-! ## Bodies -/

/-- A body in chunks with its content: chunks with data, a last one without, and
trailers up to an empty line. -/
inductive ChunkedBody (size : List UInt8 → Int → Prop) (gap : List UInt8 → Prop) :
    List UInt8 → List UInt8 → Prop where
  | last {line : List UInt8} {trailers : List (List UInt8)} (legible : Legible line)
      (zero : size line 0) (trailing : ∀ trailer ∈ trailers, Legible trailer ∧ trailer ≠ []) :
      ChunkedBody size gap (line ++ lineEnd ++ (joinLines trailers ++ lineEnd)) []
  | chunk {line data skipped more content : List UInt8} (legible : Legible line)
      (announced : size line data.length) (nonempty : data ≠ []) (behind : gap skipped)
      (rest : ChunkedBody size gap more content) :
      ChunkedBody size gap (line ++ lineEnd ++ (data ++ skipped ++ more)) (data ++ content)

/-- A body by the strict rules. -/
def WellFormed : List UInt8 → List UInt8 → Prop := ChunkedBody StrictSize (· = lineEnd)

/-- A body by the rules of the reader. -/
def Accepted : List UInt8 → List UInt8 → Prop := ChunkedBody LenientSize (·.length = 2)

/-- Behind accepted chunks stands this size line. -/
inductive SizeAt (line : List UInt8) : List UInt8 → Prop where
  | here (after : List UInt8) (legible : Legible line) : SizeAt line (line ++ lineEnd ++ after)
  | later {first data skipped more : List UInt8} (legible : Legible first)
      (announced : LenientSize first data.length) (nonempty : data ≠ [])
      (two : skipped.length = 2) (rest : SizeAt line more) :
      SizeAt line (first ++ lineEnd ++ (data ++ skipped ++ more))

/-- Behind accepted chunks the strict rules are broken: by a size that is more or
less than digits, or by something else than a line end behind the data. -/
inductive Deviates : List UInt8 → Prop where
  | size {line : List UInt8} (after : List UInt8) (legible : Legible line)
      (odd : ∀ n, ¬ StrictSize line n) : Deviates (line ++ lineEnd ++ after)
  | gap {line data skipped : List UInt8} (after : List UInt8) (legible : Legible line)
      (announced : LenientSize line data.length) (nonempty : data ≠ [])
      (two : skipped.length = 2) (other : skipped ≠ lineEnd) :
      Deviates (line ++ lineEnd ++ (data ++ skipped ++ after))
  | later {line data skipped more : List UInt8} (legible : Legible line)
      (announced : LenientSize line data.length) (nonempty : data ≠ [])
      (two : skipped.length = 2) (rest : Deviates more) :
      Deviates (line ++ lineEnd ++ (data ++ skipped ++ more))

/-- What comes behind the first line of a body: the trailers, or a chunk and another body. -/
theorem ChunkedBody.behind_line (h : ChunkedBody size gap (line ++ lineEnd ++ after) content)
    (hline : Legible line) :
    size line 0 ∨ ∃ data skipped more content', size line data.length ∧ gap skipped
      ∧ after = data ++ skipped ++ more ∧ content = data ++ content'
      ∧ ChunkedBody size gap more content' := by
  generalize hbytes : line ++ lineEnd ++ after = bytes at h
  cases h with
  | last legible zero trailing =>
      obtain ⟨rfl, -⟩ := first_line_unique hline.unbroken legible.unbroken hbytes
      exact .inl zero
  | chunk legible announced nonempty behind rest =>
      obtain ⟨rfl, rfl⟩ := first_line_unique hline.unbroken legible.unbroken hbytes
      exact .inr ⟨_, _, _, _, announced, behind, rfl, rfl, rest⟩

/-- A strict body has the chunks that the reader finds in its bytes. -/
theorem WellFormed.same_chunk
    (h : WellFormed (line ++ lineEnd ++ (data ++ skipped ++ more)) content) (hline : Legible line)
    (hannounced : LenientSize line data.length) (hne : data ≠ []) (htwo : skipped.length = 2) :
    skipped = lineEnd ∧ ∃ content', WellFormed more content' := by
  rcases h.behind_line hline with hzero | ⟨data', skipped', more', content', hsize, rfl, hafter, -, hrest⟩
  · have hlength := hzero.lenient.unique hannounced
    exact absurd (List.length_eq_zero_iff.mp (by omega)) hne
  · have hlength := hsize.lenient.unique hannounced
    rw [List.append_assoc, List.append_assoc] at hafter
    obtain ⟨rfl, hbehind⟩ := List.append_inj hafter (by omega)
    obtain ⟨rfl, rfl⟩ := List.append_inj hbehind htwo
    exact ⟨rfl, content', hrest⟩

theorem Deviates.not_wellFormed (h : Deviates bytes) : ∀ content, ¬ WellFormed bytes content := by
  induction h with
  | size after legible odd =>
      intro content hbody
      rcases hbody.behind_line legible with hzero | ⟨data, skipped, more, content', hsize, -⟩
      · exact odd _ hzero
      · exact odd _ hsize
  | gap after legible announced nonempty two other =>
      intro content hbody
      exact other (hbody.same_chunk legible announced nonempty two).1
  | later legible announced nonempty two rest ih =>
      intro content hbody
      obtain ⟨-, content', hmore⟩ := hbody.same_chunk legible announced nonempty two
      exact ih content' hmore

/-- An accepted body is well-formed if and only if nothing in it deviates. -/
theorem Accepted.wellFormed_iff (h : Accepted taken content) :
    WellFormed taken content ↔ ¬ Deviates taken := by
  refine ⟨fun hbody hdeviates => hdeviates.not_wellFormed content hbody, fun hstrict => ?_⟩
  induction h with
  | @last line trailers legible zero trailing =>
      by_cases hodd : ∃ n, StrictSize line n
      · obtain ⟨n, hsize⟩ := hodd
        rw [hsize.lenient.unique zero] at hsize
        exact .last legible hsize trailing
      · exact absurd (.size _ legible fun n hsize => hodd ⟨n, hsize⟩) hstrict
  | @chunk line data skipped more content legible announced nonempty behind rest ih =>
      by_cases hodd : ∃ n, StrictSize line n
      · obtain ⟨n, hsize⟩ := hodd
        rw [hsize.lenient.unique announced] at hsize
        by_cases hend : skipped = lineEnd
        · refine .chunk legible hsize nonempty hend (ih fun hlater => hstrict ?_)
          exact .later legible announced nonempty behind hlater
        · exact absurd (.gap _ legible announced nonempty behind hend) hstrict
      · exact absurd (.size _ legible fun n hsize => hodd ⟨n, hsize⟩) hstrict

/-! ## What is read -/

/-- Trailers that were skipped stood at the front of the bytes. -/
theorem trailers_of_skipTrailers {rest : Stream} (h : skipTrailers s = .done () rest) :
    ∃ trailers, (∀ trailer ∈ trailers, Legible trailer ∧ trailer ≠ [])
      ∧ s.bytes = joinLines trailers ++ lineEnd ++ rest.bytes := by
  induction s using Stream.byLength with
  | step s ih =>
      rw [skipTrailers_eq] at h
      obtain ⟨line, mid, hline, h⟩ := Outcome.andThen_eq_done h
      have hbytes := Stream.bytes_readLine hline
      by_cases hempty : line = []
      · rw [if_pos hempty] at h
        cases h
        subst hempty
        exact ⟨[], by simp, by simpa [joinLines] using hbytes⟩
      · rw [if_neg hempty] at h
        obtain ⟨trailers, htrailers, hmid⟩ := ih mid (Stream.length_readLine hline) h
        refine ⟨line :: trailers, ?_, ?_⟩
        · intro trailer htrailer
          rcases List.mem_cons.mp htrailer with rfl | htrailer
          · exact ⟨Stream.legible_readLine hline, hempty⟩
          · exact htrailers trailer htrailer
        · rw [hbytes, hmid, joinLines_cons]
          simp only [List.append_assoc]

/-- A chunk that was read stood at the front of the bytes, and its data are yielded. -/
theorem data_of_readChunk (hmax : 0 < max) (hn : 0 ≤ n) {done blocks : List (List UInt8)}
    {last : Stream} (h : BodyRun.answer (readChunk max n done s) = .done blocks last) :
    ∃ data skipped, s.bytes = data ++ skipped ++ last.bytes ∧ (data.length : Int) = n
      ∧ skipped.length = 2 ∧ blocks.reverse.flatten = done.reverse.flatten ++ data := by
  obtain ⟨data, skipped, hbytes, hlength, htwo⟩ := bytes_readChunk hmax hn h
  obtain ⟨last', hread, -⟩ := (consumes_readChunk hmax data htwo done).whole hbytes
  rw [hlength, h] at hread
  obtain ⟨rfl, -⟩ := Outcome.done.inj hread
  exact ⟨data, skipped, hbytes, hlength, htwo, flatten_cutBlocks (by omega) done data⟩

/-- What is read to its end was an accepted body. -/
theorem accepted_of_readChunks (hmax : 0 < max) {done blocks : List (List UInt8)} {rest : Stream}
    (h : BodyRun.answer (readChunks max done s) = .done blocks rest) :
    ∃ taken content, s.bytes = taken ++ rest.bytes ∧ Accepted taken content
      ∧ blocks.reverse.flatten = done.reverse.flatten ++ content := by
  induction s using Stream.byLength generalizing done with
  | step s ih =>
      rw [answer_readChunks] at h
      obtain ⟨line, mid, hline, h⟩ := Outcome.andThen_eq_done h
      have hbytes := Stream.bytes_readLine hline
      have hlegible := Stream.legible_readLine hline
      cases hsize : chunkSize line with
      | error failure =>
          rw [hsize] at h
          cases h
      | ok n =>
          have hlenient := chunkSize_eq_ok_iff.mp hsize
          simp only [hsize, Outcome.ofExcept, Outcome.andThen_done] at h
          by_cases hzero : n = 0
          · rw [if_pos hzero] at h
            obtain ⟨_, hskip, rfl⟩ := Outcome.map_eq_done h
            obtain ⟨trailers, htrailers, hmid⟩ := trailers_of_skipTrailers hskip
            refine ⟨_, [], ?_, .last hlegible (hzero ▸ hlenient) htrailers, (List.append_nil _).symm⟩
            rw [hbytes, hmid]
            simp only [List.append_assoc]
          · rw [if_neg hzero] at h
            obtain ⟨yielded, last, hchunk, hmore⟩ := Outcome.andThen_eq_done h
            by_cases hnegative : n < 0
            · rw [answer_readChunk, answer_negative hnegative] at hchunk
              cases hchunk
            · obtain ⟨data, skipped, hmid, rfl, htwo, hyielded⟩ :=
                data_of_readChunk hmax (by omega) hchunk
              obtain ⟨taken, content, hlast, hbody, hblocks⟩ := ih last (length_round hline hchunk) hmore
              have hne : data ≠ [] := by
                rintro rfl
                exact hzero rfl
              refine ⟨_, _, ?_, .chunk hlegible hlenient hne htwo hbody, ?_⟩
              · rw [hbytes, hmid, hlast]
                simp only [List.append_assoc]
              · rw [hblocks, hyielded, List.append_assoc]

/-- A chunk in front of more is read, and then what comes behind it. -/
theorem answer_readChunks_chunk (hmax : 0 < max) (hlegible : Legible line)
    (hsize : LenientSize line data.length) (hne : data ≠ []) (htwo : skipped.length = 2)
    (hbytes : s.bytes = line ++ lineEnd ++ (data ++ skipped ++ more)) (done : List (List UInt8)) :
    ∃ last, last.bytes = more ∧ last.ending = s.ending
      ∧ BodyRun.answer (readChunks max done s)
        = BodyRun.answer (readChunks max (cutBlocks max.toNat done data) last) := by
  obtain ⟨mid, hline, hmid, hending⟩ := Stream.readLine_whole hbytes hlegible
  obtain ⟨last, hchunk, hlast, hending'⟩ := (consumes_readChunk hmax data htwo done).whole hmid
  have hzero : ¬ (data.length : Int) = 0 := by simpa using hne
  refine ⟨last, hlast, hending'.trans hending, ?_⟩
  rw [answer_readChunks, hline]
  simp only [Outcome.andThen_done, chunkSize_eq_ok_iff.mpr hsize, Outcome.ofExcept, if_neg hzero,
    hchunk]

/-- An accepted body is read to its end. -/
theorem Accepted.readChunks (hmax : 0 < max) (h : Accepted taken content) :
    ∀ {s : Stream} {after : List UInt8} (done : List (List UInt8)), s.bytes = taken ++ after →
      ∃ blocks rest, BodyRun.answer (readChunks max done s) = .done blocks rest
        ∧ rest.bytes = after ∧ blocks.reverse.flatten = done.reverse.flatten ++ content := by
  induction h with
  | @last line trailers legible zero trailing =>
      intro s after done hbytes
      rw [List.append_assoc, List.append_assoc, ← List.append_assoc line] at hbytes
      obtain ⟨mid, hline, hmid, -⟩ := Stream.readLine_whole hbytes legible
      obtain ⟨rest, hskip, hrest, -⟩ := (consumes_skipTrailers trailing).whole hmid
      refine ⟨done, rest, ?_, hrest, (List.append_nil _).symm⟩
      rw [answer_readChunks, hline]
      simp only [Outcome.andThen_done, chunkSize_eq_ok_iff.mpr zero, Outcome.ofExcept, if_true, hskip]
      rfl
  | @chunk line data skipped more content legible announced nonempty behind rest ih =>
      intro s after done hbytes
      have hparts : s.bytes = line ++ lineEnd ++ (data ++ skipped ++ (more ++ after)) := by
        rw [hbytes]
        simp only [List.append_assoc]
      obtain ⟨last, hlast, -, hread⟩ :=
        answer_readChunks_chunk hmax legible announced nonempty behind hparts done
      obtain ⟨blocks, rest, hdone, hrest, hblocks⟩ := ih (cutBlocks max.toNat done data) hlast
      refine ⟨blocks, rest, hread.trans hdone, hrest, ?_⟩
      rw [hblocks, flatten_cutBlocks (by omega), List.append_assoc]

/-- A size line that is reached decides over what comes next. -/
theorem SizeAt.readChunks (hmax : 0 < max) (h : SizeAt line bytes) :
    ∀ {s : Stream} (done : List (List UInt8)), s.bytes = bytes →
      ∃ mid blocks, BodyRun.answer (readChunks max done s)
        = (Outcome.ofExcept mid (chunkSize line)).andThen fun n rest =>
          if n = 0 then (skipTrailers rest).map fun _ => blocks
          else (BodyRun.answer (readChunk max n blocks rest)).andThen fun blocks last =>
            BodyRun.answer (readChunks max blocks last) := by
  induction h with
  | here after legible =>
      intro s done hbytes
      obtain ⟨mid, hline, -⟩ := Stream.readLine_whole hbytes legible
      refine ⟨mid, done, ?_⟩
      rw [answer_readChunks, hline]
      rfl
  | later legible announced nonempty two rest ih =>
      intro s done hbytes
      obtain ⟨last, hlast, -, hread⟩ :=
        answer_readChunks_chunk hmax legible announced nonempty two hbytes done
      obtain ⟨mid, blocks, hmid⟩ := ih (cutBlocks max.toNat done _) hlast
      exact ⟨mid, blocks, hread.trans hmid⟩

theorem answer_readBody (max : Int) (s : Stream) :
    BodyRun.answer (readBody .chunked max s)
      = (BodyRun.answer (readChunks max [] s)).map List.reverse := by
  unfold readBody BodyRun.answer
  cases (readChunks max [] s).outcome <;> rfl

theorem Accepted.readBody (h : Accepted taken content) (hmax : 0 < max)
    (hbytes : s.bytes = taken ++ after) :
    ∃ blocks rest, readBody .chunked max s = ⟨blocks, .done () rest⟩ ∧ blocks.flatten = content
      ∧ rest.bytes = after := by
  obtain ⟨yielded, rest, hdone, hrest, hcontent⟩ := h.readChunks hmax [] hbytes
  have hanswer := answer_readBody max s
  rw [hdone] at hanswer
  exact ⟨yielded.reverse, rest, answer_eq_done hanswer, hcontent, hrest⟩

theorem outcome_of_answer_failed {run : BodyRun} {failure : Failure} {rest : Stream}
    (h : BodyRun.answer run = .failed failure rest) : run.outcome = .failed failure rest := by
  obtain ⟨blocks, outcome⟩ := run
  cases outcome <;> cases h
  rfl

/-- The reader ends normally on accepted bodies and on no other bytes, and such a
body is well-formed if and only if nothing in it deviates. A size that no rule
allows is refused where it is met, and so is a negative one, with another failure. -/
theorem readChunks_sound_iff (hmax : 0 < max) (s : Stream) :
    (∀ blocks rest, readBody .chunked max s = ⟨blocks, .done () rest⟩ →
        ∃ taken, s.bytes = taken ++ rest.bytes ∧ Accepted taken blocks.flatten
          ∧ (WellFormed taken blocks.flatten ↔ ¬ Deviates taken))
      ∧ (∀ taken content after, Accepted taken content → s.bytes = taken ++ after →
        ∃ blocks rest, readBody .chunked max s = ⟨blocks, .done () rest⟩
          ∧ blocks.flatten = content ∧ rest.bytes = after)
      ∧ (∀ line, SizeAt line s.bytes → (∀ n, ¬ LenientSize line n) →
        ∃ rest, (readBody .chunked max s).outcome
          = .failed (.invalidResponse (.chunkSize (sizeText line))) rest)
      ∧ (∀ line n, SizeAt line s.bytes → LenientSize line n → n < 0 →
        ∃ rest, (readBody .chunked max s).outcome = .failed .negativeRead rest) := by
  refine ⟨?_, ?_, ?_, ?_⟩
  · intro blocks rest hread
    have hanswer := answer_readBody max s
    rw [hread] at hanswer
    obtain ⟨yielded, hdone, rfl⟩ := Outcome.map_eq_done hanswer.symm
    obtain ⟨taken, content, hbytes, hbody, rfl⟩ := accepted_of_readChunks hmax hdone
    exact ⟨taken, hbytes, hbody, hbody.wellFormed_iff⟩
  · intro taken content after hbody hbytes
    exact hbody.readBody hmax hbytes
  · intro line hline hodd
    obtain ⟨mid, blocks, hread⟩ := hline.readChunks hmax [] rfl
    have hanswer := answer_readBody max s
    cases hsize : chunkSize line with
    | ok n => exact absurd (chunkSize_eq_ok_iff.mp hsize) (hodd n)
    | error failure =>
        rw [hread, hsize] at hanswer
        exact ⟨mid, outcome_of_answer_failed (chunkSize_error hsize ▸ hanswer)⟩
  · intro line n hline hsize hnegative
    obtain ⟨mid, blocks, hread⟩ := hline.readChunks hmax [] rfl
    have hanswer := answer_readBody max s
    rw [hread, chunkSize_eq_ok_iff.mpr hsize] at hanswer
    simp only [Outcome.ofExcept, Outcome.andThen_done] at hanswer
    rw [if_neg (by omega), answer_readChunk, answer_negative hnegative] at hanswer
    exact ⟨mid, outcome_of_answer_failed hanswer⟩

/-- The bytes of a body with one chunk, whose size line is this one. -/
def hello (line : String) : List UInt8 :=
  Latin1.encode line.toList ++ lineEnd ++ (Latin1.encode "hello".toList ++ lineEnd
    ++ (Latin1.encode "0".toList ++ lineEnd ++ (joinLines [] ++ lineEnd)))

theorem accepted_hello {line : String} (hlegible : Legible (Latin1.encode line.toList))
    (hsize : chunkSize (Latin1.encode line.toList) = .ok 5) :
    Accepted (hello line) (Latin1.encode "hello".toList) := by
  have hlast : Legible (Latin1.encode "0".toList) :=
    ⟨unbroken_of_not_mem (by decide), by decide⟩
  have hzero : LenientSize (Latin1.encode "0".toList) 0 := chunkSize_eq_ok_iff.mp rfl
  exact .chunk hlegible (chunkSize_eq_ok_iff.mp hsize) (by decide) rfl
    (.last hlast hzero (by simp))

theorem readChunks_sound_iff_hello :
    (0 : Int) < 4096 ∧ ∃ blocks rest,
      readBody .chunked 4096 { segments := [hello "5"] } = ⟨blocks, .done () rest⟩
        ∧ blocks.flatten = Latin1.encode "hello".toList ∧ rest.bytes = [] := by
  have hlegible : Legible (Latin1.encode "5".toList) :=
    ⟨unbroken_of_not_mem (by decide), by decide⟩
  have hbytes : ({ segments := [hello "5"] } : Stream).bytes = hello "5" ++ [] := by
    simp [Stream.bytes]
  have hread := (readChunks_sound_iff (show (0 : Int) < 4096 by decide)
    { segments := [hello "5"] }).2.1
  exact ⟨by decide, hread _ _ _ (accepted_hello hlegible rfl) hbytes⟩

/-- A size with the mark `0x` is read like one without, but is no size by the strict rules. -/
theorem not_wellFormed_marked :
    (∃ blocks rest, readBody .chunked 4096 { segments := [hello "0x5"] } = ⟨blocks, .done () rest⟩
        ∧ blocks.flatten = Latin1.encode "hello".toList ∧ rest.bytes = [])
      ∧ ∀ content, ¬ WellFormed (hello "0x5") content := by
  have hlegible : Legible (Latin1.encode "0x5".toList) :=
    ⟨unbroken_of_not_mem (by decide), by decide⟩
  have hbytes : ({ segments := [hello "0x5"] } : Stream).bytes = hello "0x5" ++ [] := by
    simp [Stream.bytes]
  have hodd : ∀ n, ¬ StrictSize (Latin1.encode "0x5".toList) n := by
    rintro n ⟨-, values, hspells, -⟩
    have hmark : 'x' ∈ sizeWord (Latin1.encode "0x5".toList) := by decide
    cases hspells.isSome 'x' hmark
  exact ⟨(accepted_hello hlegible rfl).readBody (by decide) hbytes,
    (Deviates.size _ hlegible hodd).not_wellFormed⟩

end Courier.Response
