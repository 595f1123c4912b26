import Courier.Proofs.HeadReads
import Courier.Response.Basic

/-!
# Reading bodies

The readers of bodies, as readers that yield their blocks (`BodyRun.answer`)
and are put together by `andThen`: `answer_readBlocks`, `answer_readChunk`,
`answer_readChunks`. The laws of readers follow for bodies of known length
and in chunks. A body up to the end of the data is no delimited one; of it
only the bytes count (`joined_readToEnd`), since its blocks are cut where the
pieces end.

What can go wrong on the way is stated last: besides the stream, a size line
that spells no number, and one that spells a negative one
(`NegativeSize`), for which no bytes can be read.
-/

namespace Courier

/-- The blocks of a run, the last one first, as the result of a reader. -/
def BodyRun.answer (run : Response.BodyRun) : Outcome (List (List UInt8)) :=
  run.outcome.map fun _ => run.blocks

/-- All the bytes of a run whose blocks are in order, as the result of a reader. -/
def BodyRun.joined (run : Response.BodyRun) : Outcome (List UInt8) :=
  run.outcome.map fun _ => run.blocks.flatten

namespace Response

theorem answer_eq_done {run : BodyRun} {blocks : List (List UInt8)} {rest : Stream}
    (h : BodyRun.answer run = .done blocks rest) : run = ⟨blocks, .done () rest⟩ := by
  obtain ⟨found, outcome⟩ := run
  cases outcome <;> cases h
  rfl

/-! ## Blocks of a known length -/

theorem answer_readBlocks (max remaining : Nat) (done : List (List UInt8)) (s : Stream) :
    BodyRun.answer (readBlocks max remaining done s) =
      if remaining = 0 then .done done s
      else if max = 0 then .waiting s
      else (s.readExactly (min max remaining)).andThen fun block rest =>
        BodyRun.answer (readBlocks max (remaining - min max remaining) (block :: done) rest) := by
  rw [readBlocks]
  split
  · rfl
  · split
    · rfl
    · cases hread : s.readExactly (min max remaining) <;> rfl

theorem answer_readLengthBlocks (max length : Int) (done : List (List UInt8)) (s : Stream) :
    BodyRun.answer (readLengthBlocks max length done s) =
      if length = 0 then .done done s
      else if max < 0 ∨ length < 0 then .failed .negativeRead s
      else BodyRun.answer (readBlocks max.toNat length.toNat done s) := by
  rw [readLengthBlocks]
  split
  · rfl
  · split <;> rfl

theorem delimitsAt_readBlocks (max remaining : Nat) (done : List (List UInt8)) (s : Stream) :
    DelimitsAt (fun s => BodyRun.answer (readBlocks max remaining done s)) s := by
  induction remaining using Nat.strongRecOn generalizing done s with
  | _ remaining ih =>
      rw [funext (answer_readBlocks max remaining done)]
      by_cases hzero : remaining = 0
      · simpa only [if_pos hzero] using delimitsAt_done done s
      · by_cases hmax : max = 0
        · rintro blocks rest h
          simp only [if_neg hzero, if_pos hmax] at h
          cases h
        · simp only [if_neg hzero, if_neg hmax]
          exact (delimitsAt_readExactly _ s).andThen fun block rest _ =>
            ih _ (by omega) (block :: done) rest

theorem delimitsAt_readLengthBlocks (max length : Int) (done : List (List UInt8)) (s : Stream) :
    DelimitsAt (fun s => BodyRun.answer (readLengthBlocks max length done s)) s := by
  rw [funext (answer_readLengthBlocks max length done)]
  by_cases hzero : length = 0
  · simpa only [if_pos hzero] using delimitsAt_done done s
  · by_cases hneg : max < 0 ∨ length < 0
    · simpa only [if_neg hzero, if_pos hneg] using delimitsAt_failed .negativeRead s
    · simpa only [if_neg hzero, if_neg hneg] using
        delimitsAt_readBlocks max.toNat length.toNat done s

theorem alike_readBlocks (max remaining : Nat) (done : List (List UInt8)) {s t : Stream}
    (h : s.Same t) :
    (BodyRun.answer (readBlocks max remaining done s)).Alike
      (BodyRun.answer (readBlocks max remaining done t)) := by
  induction remaining using Nat.strongRecOn generalizing done s t with
  | _ remaining ih =>
      rw [answer_readBlocks, answer_readBlocks]
      by_cases hzero : remaining = 0
      · simpa only [if_pos hzero] using Outcome.Alike.done done h
      · by_cases hmax : max = 0
        · simpa only [if_neg hzero, if_pos hmax] using Outcome.Alike.waiting s t
        · simp only [if_neg hzero, if_neg hmax]
          exact (alike_readExactly _ h).andThen fun block rest rest' _ same =>
            ih _ (by omega) (block :: done) same

theorem alike_readLengthBlocks (max length : Int) (done : List (List UInt8)) {s t : Stream}
    (h : s.Same t) :
    (BodyRun.answer (readLengthBlocks max length done s)).Alike
      (BodyRun.answer (readLengthBlocks max length done t)) := by
  rw [answer_readLengthBlocks, answer_readLengthBlocks]
  by_cases hzero : length = 0
  · simpa only [if_pos hzero] using Outcome.Alike.done done h
  · by_cases hneg : max < 0 ∨ length < 0
    · simpa only [if_neg hzero, if_pos hneg] using
        Outcome.Alike.failed (.refl .negativeRead) s t
    · simpa only [if_neg hzero, if_neg hneg] using alike_readBlocks _ _ done h

theorem blames_readBlocks {max : Nat} (hmax : max ≠ 0) (remaining : Nat)
    (done : List (List UInt8)) (s : Stream) (own : Failure → Prop) :
    (BodyRun.answer (readBlocks max remaining done s)).Blames s.ending own := by
  induction remaining using Nat.strongRecOn generalizing done s with
  | _ remaining ih =>
      rw [answer_readBlocks]
      by_cases hzero : remaining = 0
      · simpa only [if_pos hzero] using Outcome.Blames.done done rfl
      · simp only [if_neg hzero, if_neg hmax]
        exact (blames_readExactly s _ own).andThen fun block rest _ hending =>
          hending ▸ ih _ (by omega) (block :: done) rest

/-- A length that is not negative is read, as far as the stream goes. -/
theorem blames_readLengthBlocks {max : Int} (hmax : 0 < max) {length : Int} (hlength : 0 ≤ length)
    (done : List (List UInt8)) (s : Stream) (own : Failure → Prop) :
    (BodyRun.answer (readLengthBlocks max length done s)).Blames s.ending own := by
  rw [answer_readLengthBlocks]
  by_cases hzero : length = 0
  · simpa only [if_pos hzero] using Outcome.Blames.done done rfl
  · rw [if_neg hzero, if_neg (by omega)]
    exact blames_readBlocks (by omega) _ done s own

/-- Bytes of a negative number are refused at once. -/
theorem answer_negative {max length : Int} (h : length < 0) (done : List (List UInt8))
    (s : Stream) :
    BodyRun.answer (readLengthBlocks max length done s) = .failed .negativeRead s := by
  rw [answer_readLengthBlocks, if_neg (by omega), if_pos (Or.inr h)]

/-! ## Blocks that are there -/

theorem cutBlocks_nil (max : Nat) (done : List (List UInt8)) : cutBlocks max done [] = done := by
  rw [cutBlocks, if_pos (Or.inr rfl)]

theorem cutBlocks_of_ne_nil {max : Nat} {bytes : List UInt8} (hmax : max ≠ 0)
    (h : bytes ≠ []) (done : List (List UInt8)) :
    cutBlocks max done bytes = cutBlocks max (bytes.take max :: done) (bytes.drop max) := by
  rw [cutBlocks, if_neg (by simp [hmax, h])]

/-- Cutting bytes into blocks loses none of them and keeps their order. -/
theorem flatten_cutBlocks {max : Nat} (hmax : max ≠ 0) (done : List (List UInt8))
    (bytes : List UInt8) :
    (cutBlocks max done bytes).reverse.flatten = done.reverse.flatten ++ bytes := by
  induction hn : bytes.length using Nat.strongRecOn generalizing done bytes with
  | _ n ih =>
      by_cases h : bytes = []
      · simp [h, cutBlocks_nil]
      · have hlen : bytes.length ≠ 0 := by simpa using h
        rw [cutBlocks_of_ne_nil hmax h, ih _ (by rw [List.length_drop]; omega) _ _ rfl]
        simp

/-- A body of known length is consumed, and cut into blocks. -/
theorem consumes_readBlocks {max : Nat} (hmax : max ≠ 0) (content : List UInt8)
    (done : List (List UInt8)) :
    Consumes (fun s => BodyRun.answer (readBlocks max content.length done s)) content
      (cutBlocks max done content) := by
  induction hn : content.length using Nat.strongRecOn generalizing done content with
  | _ n ih =>
      rw [funext (answer_readBlocks max n done)]
      by_cases h : content = []
      · subst h
        obtain rfl : n = 0 := hn.symm
        rw [cutBlocks_nil]
        exact consumes_done done
      · have hlen : content.length ≠ 0 := by simpa using h
        simp only [if_neg (show n ≠ 0 by omega), if_neg hmax]
        have hfront : (content.take max).length = min max n := by rw [List.length_take, hn]
        have hmore : (content.drop max).length = n - (content.take max).length := by
          rw [List.length_drop, hfront, hn]; omega
        have hrest := ih _ (by omega) (content.drop max) (content.take max :: done) hmore
        rw [cutBlocks_of_ne_nil hmax h, ← hfront]
        refine Consumes.of_eq ?_ (List.take_append_drop max content)
        exact (consumes_readExactly (content.take max)).andThen hrest

/-- Content of known length is consumed, whatever the size of the blocks. -/
theorem consumes_readLengthBlocks {max : Int} (hmax : 0 < max) (content : List UInt8)
    (done : List (List UInt8)) :
    Consumes (fun s => BodyRun.answer (readLengthBlocks max content.length done s)) content
      (cutBlocks max.toNat done content) := by
  rw [funext (answer_readLengthBlocks max content.length done)]
  by_cases hzero : (content.length : Int) = 0
  · obtain rfl : content = [] := by simpa using hzero
    rw [cutBlocks_nil]
    exact consumes_done done
  · simp only [if_neg hzero, if_neg (show ¬ (max < 0 ∨ (content.length : Int) < 0) by omega)]
    exact consumes_readBlocks (by omega) content done

/-! ## Trailers -/

/-- One round of `skipTrailers`. -/
theorem skipTrailers_eq (s : Stream) :
    skipTrailers s = s.readLine.andThen fun line rest =>
      if line = [] then .done () rest else skipTrailers rest := by
  rw [skipTrailers]
  split <;> rename_i hline <;> simp [hline]

theorem delimitsAt_skipTrailers (s : Stream) : DelimitsAt skipTrailers s := by
  induction s using Stream.byLength with
  | step s ih =>
      rw [funext skipTrailers_eq]
      refine (delimitsAt_readLine s).andThen fun line rest hline => ?_
      by_cases hempty : line = []
      · simpa only [if_pos hempty] using delimitsAt_done () rest
      · simpa only [if_neg hempty] using ih rest (Stream.length_readLine hline)

theorem alike_skipTrailers {s t : Stream} (h : s.Same t) :
    (skipTrailers s).Alike (skipTrailers t) := by
  induction s using Stream.byLength generalizing t with
  | step s ih =>
      rw [skipTrailers_eq, skipTrailers_eq]
      refine (alike_readLine h).andThen fun line rest rest' hline same => ?_
      by_cases hempty : line = []
      · simpa only [if_pos hempty] using Outcome.Alike.done () same
      · simpa only [if_neg hempty] using ih rest (Stream.length_readLine hline) same

theorem blames_skipTrailers (s : Stream) (own : Failure → Prop) :
    (skipTrailers s).Blames s.ending own := by
  induction s using Stream.byLength with
  | step s ih =>
      rw [skipTrailers_eq]
      refine (blames_readLine s own).andThen fun line rest hline hending => ?_
      by_cases hempty : line = []
      · simpa only [if_pos hempty] using Outcome.Blames.done () hending
      · simpa only [if_neg hempty] using hending ▸ ih rest (Stream.length_readLine hline)

/-- Trailers and an empty line are consumed. -/
theorem consumes_skipTrailers : ∀ {trailers : List (List UInt8)},
    (∀ trailer ∈ trailers, Legible trailer ∧ trailer ≠ []) →
      Consumes skipTrailers (joinLines trailers ++ lineEnd) ()
  | [], _ => by
      rw [funext skipTrailers_eq]
      refine Consumes.of_eq ?_ (List.append_nil lineEnd)
      exact legible_nil.consumes.andThen (consumes_done ())
  | trailer :: trailers, h => by
      obtain ⟨hlegible, hne⟩ := h trailer (List.mem_cons_self ..)
      have ih := consumes_skipTrailers fun other hother => h other (List.mem_cons_of_mem _ hother)
      rw [funext skipTrailers_eq, joinLines_cons, List.append_assoc]
      refine hlegible.consumes.andThen ?_
      simpa only [if_neg hne] using ih

/-! ## Chunks -/

theorem answer_readChunk (max size : Int) (done : List (List UInt8)) (s : Stream) :
    BodyRun.answer (readChunk max size done s) =
      (BodyRun.answer (readLengthBlocks max size done s)).andThen fun blocks rest =>
        (rest.readExactly 2).map fun _ => blocks := by
  simp only [readChunk, BodyRun.answer]
  obtain ⟨blocks, outcome⟩ := readLengthBlocks max size done s
  cases outcome with
  | done _ rest =>
      simp only [Outcome.map, Outcome.andThen]
      cases rest.readExactly 2 <;> rfl
  | failed failure rest => rfl
  | waiting rest => rfl

/-- One round of `readChunks`: a size line, and a chunk of this size or the trailers. -/
theorem answer_readChunks (max : Int) (done : List (List UInt8)) (s : Stream) :
    BodyRun.answer (readChunks max done s) = s.readLine.andThen fun line rest =>
      (Outcome.ofExcept rest (chunkSize line)).andThen fun size rest =>
        if size = 0 then (skipTrailers rest).map fun _ => done
        else (BodyRun.answer (readChunk max size done rest)).andThen fun blocks last =>
          BodyRun.answer (readChunks max blocks last) := by
  rw [readChunks]
  split <;> rename_i hline
  · simp [hline, BodyRun.answer, Outcome.map]
  · simp [hline, BodyRun.answer, Outcome.map]
  · rw [hline]
    split <;> rename_i hsize
    · simp [hsize, BodyRun.answer, Outcome.map, Outcome.ofExcept]
    · simp only [hsize, Outcome.ofExcept, Outcome.andThen_done]
      split
      · rfl
      · split <;> rename_i hchunk
        · simp [hchunk, BodyRun.answer, Outcome.map]
        · rename_i blocks outcome hnot
          simp only [hchunk]
          cases outcome with
          | done _ last => exact (hnot last rfl).elim
          | failed failure last => rfl
          | waiting last => rfl

/-- Every round of `readChunks` takes bytes off the stream. -/
theorem length_round {max size : Int} {done blocks : List (List UInt8)} {line : List UInt8}
    {s rest last : Stream} (hline : s.readLine = .done line rest)
    (hchunk : BodyRun.answer (readChunk max size done rest) = .done blocks last) :
    last.bytes.length < s.bytes.length :=
  Nat.lt_of_le_of_lt (length_readChunk (congrArg BodyRun.outcome (answer_eq_done hchunk)))
    (Stream.length_readLine hline)

theorem delimitsAt_readChunk (max size : Int) (done : List (List UInt8)) (s : Stream) :
    DelimitsAt (fun s => BodyRun.answer (readChunk max size done s)) s := by
  rw [funext (answer_readChunk max size done)]
  exact (delimitsAt_readLengthBlocks max size done s).andThen fun blocks rest _ =>
    (delimitsAt_readExactly 2 rest).map _

theorem delimitsAt_readChunks (max : Int) (done : List (List UInt8)) (s : Stream) :
    DelimitsAt (fun s => BodyRun.answer (readChunks max done s)) s := by
  induction s using Stream.byLength generalizing done with
  | step s ih =>
      rw [funext (answer_readChunks max done)]
      refine (delimitsAt_readLine s).andThen fun line rest hline => ?_
      cases chunkSize line with
      | error failure => exact delimitsAt_failed failure rest
      | ok size =>
          simp only [Outcome.ofExcept, Outcome.andThen_done]
          by_cases hzero : size = 0
          · simpa only [if_pos hzero] using (delimitsAt_skipTrailers rest).map fun _ => done
          · simp only [if_neg hzero]
            exact (delimitsAt_readChunk max size done rest).andThen fun blocks last hchunk =>
              ih last (length_round hline hchunk) blocks

theorem alike_readChunk (max size : Int) (done : List (List UInt8)) {s t : Stream}
    (h : s.Same t) :
    (BodyRun.answer (readChunk max size done s)).Alike
      (BodyRun.answer (readChunk max size done t)) := by
  rw [answer_readChunk, answer_readChunk]
  exact (alike_readLengthBlocks max size done h).andThen fun blocks rest rest' _ same =>
    (alike_readExactly 2 same).map _

theorem alike_readChunks (max : Int) (done : List (List UInt8)) {s t : Stream} (h : s.Same t) :
    (BodyRun.answer (readChunks max done s)).Alike (BodyRun.answer (readChunks max done t)) := by
  induction s using Stream.byLength generalizing done t with
  | step s ih =>
      rw [answer_readChunks, answer_readChunks]
      refine (alike_readLine h).andThen fun line rest rest' hline same => ?_
      cases chunkSize line with
      | error failure => exact .failed (.refl failure) rest rest'
      | ok size =>
          simp only [Outcome.ofExcept, Outcome.andThen_done]
          by_cases hzero : size = 0
          · simpa only [if_pos hzero] using (alike_skipTrailers same).map fun _ => done
          · simp only [if_neg hzero]
            exact (alike_readChunk max size done same).andThen fun blocks last last' hchunk same =>
              ih last (length_round hline hchunk) blocks same

/-! ## Chunks that are there -/

/-- A size line that announces so many bytes. -/
structure Announces (line : List UInt8) (size : Nat) : Prop where
  legible : Legible line
  reads : chunkSize line = .ok size

/-- Chunks that follow each other: a size line, the data, and a line end. -/
def joinChunks (chunks : List (List UInt8 × List UInt8)) : List UInt8 :=
  chunks.flatMap fun chunk => chunk.1 ++ lineEnd ++ (chunk.2 ++ lineEnd)

theorem joinChunks_cons_append (chunk : List UInt8 × List UInt8)
    (chunks : List (List UInt8 × List UInt8)) (after : List UInt8) :
    joinChunks (chunk :: chunks) ++ after
      = chunk.1 ++ lineEnd ++ (chunk.2 ++ lineEnd ++ (joinChunks chunks ++ after)) := by
  simp [joinChunks]

/-- The data of a chunk are consumed with the two bytes after them, whatever these are. -/
theorem consumes_readChunk {max : Int} (hmax : 0 < max) (data : List UInt8)
    {skipped : List UInt8} (hskip : skipped.length = 2) (done : List (List UInt8)) :
    Consumes (fun s => BodyRun.answer (readChunk max data.length done s)) (data ++ skipped)
      (cutBlocks max.toNat done data) := by
  rw [funext (answer_readChunk max data.length done), ← hskip]
  exact (consumes_readLengthBlocks hmax data done).andThen ((consumes_readExactly skipped).map _)

/-- A body in chunks is consumed: chunks with data, a last one without, and trailers. -/
theorem consumes_readChunks {max : Int} (hmax : 0 < max) {last : List UInt8}
    {trailers : List (List UInt8)} (hlast : Announces last 0)
    (htrailers : ∀ trailer ∈ trailers, Legible trailer ∧ trailer ≠ []) :
    ∀ {chunks : List (List UInt8 × List UInt8)},
      (∀ chunk ∈ chunks, Announces chunk.1 chunk.2.length ∧ chunk.2 ≠ []) →
        ∀ done : List (List UInt8),
          Consumes (fun s => BodyRun.answer (readChunks max done s))
            (joinChunks chunks ++ (last ++ lineEnd ++ (joinLines trailers ++ lineEnd)))
            (chunks.foldl (fun done chunk => cutBlocks max.toNat done chunk.2) done)
  | [], _, done => by
      rw [funext (answer_readChunks max done)]
      refine hlast.legible.consumes.andThen (.ofExcept hlast.reads ?_)
      exact (consumes_skipTrailers htrailers).map fun _ => done
  | chunk :: chunks, h, done => by
      obtain ⟨hsize, hne⟩ := h chunk (List.mem_cons_self ..)
      have ih := consumes_readChunks hmax hlast htrailers
        (fun other hother => h other (List.mem_cons_of_mem _ hother))
        (cutBlocks max.toNat done chunk.2)
      have hzero : ¬ (chunk.2.length : Int) = 0 := by simpa using hne
      rw [funext (answer_readChunks max done), joinChunks_cons_append]
      refine hsize.legible.consumes.andThen (.ofExcept hsize.reads ?_)
      simp only [if_neg hzero]
      exact (consumes_readChunk hmax chunk.2 rfl done).andThen ih

/-- The blocks of chunks make up the data of the chunks. -/
theorem flatten_foldl_cutBlocks {max : Nat} (hmax : max ≠ 0) :
    ∀ (pieces : List (List UInt8)) (done : List (List UInt8)),
      (pieces.foldl (cutBlocks max) done).reverse.flatten = done.reverse.flatten ++ pieces.flatten
  | [], done => by simp
  | piece :: pieces, done => by
      rw [List.foldl_cons, flatten_foldl_cutBlocks hmax pieces, flatten_cutBlocks hmax]
      simp

/-! ## Chunks that are not there -/

/-- A reader of more bytes than there are runs dry. -/
theorem dry_readLengthBlocks {max : Int} (hmax : 0 < max) {n : Nat} {s : Stream}
    (h : s.bytes.length < n) (done : List (List UInt8)) :
    (BodyRun.answer (readLengthBlocks max n done s)).Dry s.ending := by
  -- the bytes are a part of some content of this length
  have hpad : (s.bytes ++ List.replicate (n - s.bytes.length) 0).length = n := by
    simp only [List.length_append, List.length_replicate]; omega
  have hdry := (consumes_readLengthBlocks hmax
    (s.bytes ++ List.replicate (n - s.bytes.length) 0) done).part (List.prefix_append ..)
    (fun heq => by have := congrArg List.length heq; omega)
  rwa [hpad] at hdry

/-- As many bytes as there are at least are read and cut into blocks. -/
theorem answer_enough {max : Int} (hmax : 0 < max) {n : Nat} {s : Stream}
    (h : n ≤ s.bytes.length) (done : List (List UInt8)) :
    ∃ rest, BodyRun.answer (readLengthBlocks max n done s)
        = .done (cutBlocks max.toNat done (s.bytes.take n)) rest
      ∧ rest.bytes = s.bytes.drop n ∧ rest.ending = s.ending := by
  have hread := (consumes_readLengthBlocks hmax (s.bytes.take n) done).whole
    (List.take_append_drop ..).symm
  rwa [List.length_take_of_le h] at hread

/-- Content of known length that was read stood at the front of the bytes. -/
theorem bytes_readLengthBlocks {max length : Int} (hmax : 0 < max) (hlength : 0 ≤ length)
    {done blocks : List (List UInt8)} {s rest : Stream}
    (h : BodyRun.answer (readLengthBlocks max length done s) = .done blocks rest) :
    ∃ content : List UInt8, s.bytes = content ++ rest.bytes ∧ (content.length : Int) = length := by
  obtain ⟨n, rfl⟩ := Int.eq_ofNat_of_zero_le hlength
  by_cases hlen : s.bytes.length < n
  · exact absurd (h ▸ dry_readLengthBlocks hmax hlen done) Outcome.not_dry_done
  · have henough := Nat.le_of_not_lt hlen
    obtain ⟨rest', hread, hrest, -⟩ := answer_enough hmax henough done
    obtain ⟨-, rfl⟩ := Outcome.done.inj (h.symm.trans hread)
    exact ⟨s.bytes.take n, by rw [hrest, List.take_append_drop],
      by rw [List.length_take_of_le henough]⟩

theorem bytes_readChunk {max size : Int} (hmax : 0 < max) (hsize : 0 ≤ size)
    {done blocks : List (List UInt8)} {s last : Stream}
    (h : BodyRun.answer (readChunk max size done s) = .done blocks last) :
    ∃ data skipped : List UInt8, s.bytes = data ++ skipped ++ last.bytes
      ∧ (data.length : Int) = size ∧ skipped.length = 2 := by
  rw [answer_readChunk] at h
  obtain ⟨blocks', mid, hblocks, hskip⟩ := Outcome.andThen_eq_done h
  obtain ⟨skipped, hread, -⟩ := Outcome.map_eq_done hskip
  obtain ⟨data, hdata, hlen⟩ := bytes_readLengthBlocks hmax hsize hblocks
  obtain ⟨hbytes, htwo⟩ := Stream.bytes_readExactly hread
  exact ⟨data, skipped, by rw [hdata, hbytes, List.append_assoc], hlen, htwo⟩

/-- After some chunks stands a size line that spells a negative number. -/
inductive NegativeSize : List UInt8 → Prop where
  | here {line : List UInt8} (after : List UInt8) {size : Int} (legible : Legible line)
      (reads : chunkSize line = .ok size) (negative : size < 0) :
      NegativeSize (line ++ lineEnd ++ after)
  | later {line data skipped after : List UInt8} (announces : Announces line data.length)
      (nonempty : data ≠ []) (two : skipped.length = 2) (h : NegativeSize after) :
      NegativeSize (line ++ lineEnd ++ (data ++ skipped ++ after))

/-- The failures of a body in chunks that are not the stream's: a size that is
no number, or a negative one. -/
inductive ChunkFault (bytes : List UInt8) : Failure → Prop where
  | unreadable (size : List UInt8) : ChunkFault bytes (.invalidResponse (.chunkSize size))
  | negative (h : NegativeSize bytes) : ChunkFault bytes .negativeRead

theorem chunkSize_error {line : List UInt8} {failure : Failure}
    (h : chunkSize line = .error failure) :
    failure = .invalidResponse (.chunkSize (sizeText line)) := by
  unfold chunkSize at h
  cases hread : Text.Integer.ofHexBytes (sizeText line) with
  | ok size => rw [hread] at h; cases h
  | error cause => rw [hread] at h; cases h; rfl

theorem blames_readChunks {max : Int} (hmax : 0 < max) (done : List (List UInt8)) (s : Stream) :
    (BodyRun.answer (readChunks max done s)).Blames s.ending (ChunkFault s.bytes) := by
  induction s using Stream.byLength generalizing done with
  | step s ih =>
      rw [answer_readChunks]
      refine (blames_readLine s _).andThen fun line rest hline hending => ?_
      have hlegible := Stream.legible_readLine hline
      have hbytes := Stream.bytes_readLine hline
      cases hsize : chunkSize line with
      | error failure =>
          obtain rfl := chunkSize_error hsize
          exact .own (.unreadable _) rest
      | ok size =>
          simp only [Outcome.ofExcept, Outcome.andThen_done]
          by_cases hzero : size = 0
          · simp only [if_pos hzero, ← hending]
            exact (blames_skipTrailers rest _).map fun _ => done
          · simp only [if_neg hzero]
            by_cases hneg : size < 0
            · rw [answer_readChunk, answer_negative hneg]
              refine .own ?_ rest
              rw [hbytes]
              exact .negative (.here _ hlegible hsize hneg)
            · refine Outcome.Blames.andThen ?_ fun blocks last hchunk hlast => ?_
              · rw [← hending, answer_readChunk]
                exact (blames_readLengthBlocks hmax (by omega) done rest _).andThen
                  fun _ mid _ hmid => hmid ▸ (blames_readExactly mid 2 _).map _
              · obtain ⟨data, skipped, hrest, hlen, htwo⟩ := bytes_readChunk hmax (by omega) hchunk
                have hne : data ≠ [] := fun h => hzero (by rw [← hlen, h]; rfl)
                refine hlast ▸ (ih last (length_round hline hchunk) blocks).mono ?_
                rintro failure (_ | hlater)
                · exact .unreadable _
                · rw [hbytes, hrest]
                  exact .negative (.later ⟨hlegible, hlen ▸ hsize⟩ hne htwo hlater)

/-- A negative size that is reached is refused. -/
theorem answer_of_negativeSize {max : Int} (hmax : 0 < max) {bytes : List UInt8}
    (h : NegativeSize bytes) :
    ∀ {s : Stream} (done : List (List UInt8)), s.bytes = bytes →
      ∃ rest, BodyRun.answer (readChunks max done s) = .failed .negativeRead rest := by
  induction h with
  | here after hlegible hsize hneg =>
      intro s done hs
      obtain ⟨rest, hline, -⟩ := Stream.readLine_whole hs hlegible
      refine ⟨rest, ?_⟩
      rw [answer_readChunks, hline]
      simp only [Outcome.andThen_done, hsize, Outcome.ofExcept]
      rw [if_neg (by omega), answer_readChunk, answer_negative hneg]
      rfl
  | @later line data skipped after hannounces hne htwo _ ih =>
      intro s done hs
      obtain ⟨rest, hline, hrest, -⟩ := Stream.readLine_whole hs hannounces.legible
      obtain ⟨last, hchunk, hlast, -⟩ := (consumes_readChunk hmax data htwo done).whole hrest
      obtain ⟨last', hlater⟩ := ih (cutBlocks max.toNat done data) hlast
      refine ⟨last', ?_⟩
      have hzero : ¬ (data.length : Int) = 0 := by simpa using hne
      rw [answer_readChunks, hline]
      simp only [Outcome.andThen_done, hannounces.reads, Outcome.ofExcept]
      rw [if_neg hzero, hchunk]
      exact hlater

end Response

end Courier
