import Courier.Proofs.ReplyReads

/-!
# Blocks of any size

A body does not depend on the size of the blocks in which it is read. Every reader of
bodies yields blocks that are not empty and not larger than asked for (`Sized`), and
ends if the stream does. With two sizes the blocks are cut at unrelated places, and not
at all where the stream lacks bytes for one; yet both runs end in the same way, with the
same bytes in all and the same left to be read (`Outcome.Agrees`, `agrees_readBody`). Like
the other laws of readers this one is kept by `andThen`, so it is put together along
the readers.

Of a body of known length that is cut short, the full blocks are yielded before the
failure (`full_readBlocks`).
-/

namespace Courier

variable {α β γ δ : Type}

/-! ## Runs that agree -/

/-- The outcomes agree: related results with the same bytes left, failures of one kind,
or waits without end. -/
inductive Outcome.Agrees (related : α → β → Prop) : Outcome α → Outcome β → Prop where
  | done {a : α} {b : β} (h : related a b) {rest rest' : Stream} (same : rest.Same rest') :
      Agrees related (.done a rest) (.done b rest')
  | failed {failure failure' : Failure} (h : failure.kind = failure'.kind)
      (rest rest' : Stream) : Agrees related (.failed failure rest) (.failed failure' rest')
  | waiting (rest rest' : Stream) : Agrees related (.waiting rest) (.waiting rest')

namespace Outcome

variable {related : α → β → Prop} {related' : γ → δ → Prop} {outcome : Outcome α}
  {outcome' : Outcome β}

theorem Agrees.andThen {next : α → Stream → Outcome γ} {next' : β → Stream → Outcome δ}
    (h : outcome.Agrees related outcome')
    (hnext : ∀ a b rest rest', outcome = .done a rest → related a b → rest.Same rest' →
      (next a rest).Agrees related' (next' b rest')) :
    (outcome.andThen next).Agrees related' (outcome'.andThen next') := by
  cases h with
  | done h same => exact hnext _ _ _ _ rfl h same
  | failed h rest rest' => exact .failed h rest rest'
  | waiting rest rest' => exact .waiting rest rest'

theorem Agrees.map (h : outcome.Agrees related outcome') {f : α → γ} {g : β → δ}
    (hmap : ∀ a b, related a b → related' (f a) (g b)) :
    (outcome.map f).Agrees related' (outcome'.map g) := by
  simp only [map_eq_andThen]
  exact h.andThen fun a b rest rest' _ hab same => .done (hmap a b hab) same

theorem Alike.agrees {outcome outcome' : Outcome α} (h : outcome.Alike outcome') :
    outcome.Agrees (· = ·) outcome' := by
  cases h with
  | done a same => exact .done rfl same
  | failed alike rest rest' => cases alike <;> exact .failed (by rfl) rest rest'
  | waiting rest rest' => exact .waiting rest rest'

/-- Readers that run dry on one stream agree, however many bytes they lacked. -/
theorem Dry.agrees {ending : Ending} (h : outcome.Dry ending) (h' : outcome'.Dry ending) :
    outcome.Agrees related outcome' := by
  cases h with
  | closed got expected rest =>
      cases h'
      exact .failed (by rfl) ..
  | failure failure rest =>
      cases h'
      exact .failed rfl ..
  | silence rest =>
      cases h'
      exact .waiting ..

end Outcome

namespace Response

variable {max max' : Int} {done done' : List (List UInt8)} {s t : Stream}

/-- The blocks, the last one first, make up the same bytes. -/
def SameContent (done done' : List (List UInt8)) : Prop :=
  done.reverse.flatten = done'.reverse.flatten

theorem agrees_readLengthBlocks (hmax : 0 < max) (hmax' : 0 < max') (length : Int)
    (hdone : SameContent done done') (h : s.Same t) :
    (BodyRun.answer (readLengthBlocks max length done s)).Agrees SameContent
      (BodyRun.answer (readLengthBlocks max' length done' t)) := by
  by_cases hneg : length < 0
  · rw [answer_negative hneg, answer_negative hneg]
    exact .failed rfl s t
  · obtain ⟨n, rfl⟩ := Int.eq_ofNat_of_zero_le (Int.not_lt.mp hneg)
    by_cases hshort : s.bytes.length < n
    · have hdry' := dry_readLengthBlocks hmax' (h.bytes ▸ hshort) done'
      rw [← h.ending] at hdry'
      exact (dry_readLengthBlocks hmax hshort done).agrees hdry'
    · have henough := Nat.le_of_not_lt hshort
      obtain ⟨rest, hread, hrest, hending⟩ := answer_enough hmax henough done
      obtain ⟨rest', hread', hrest', hending'⟩ := answer_enough hmax' (h.bytes ▸ henough) done'
      rw [hread, hread']
      refine .done ?_ ⟨by rw [hrest, hrest', h.bytes], by rw [hending, hending', h.ending]⟩
      rw [SameContent, flatten_cutBlocks (by omega), flatten_cutBlocks (by omega), hdone, h.bytes]

theorem agrees_readChunk (hmax : 0 < max) (hmax' : 0 < max') (size : Int)
    (hdone : SameContent done done') (h : s.Same t) :
    (BodyRun.answer (readChunk max size done s)).Agrees SameContent
      (BodyRun.answer (readChunk max' size done' t)) := by
  rw [answer_readChunk, answer_readChunk]
  refine (agrees_readLengthBlocks hmax hmax' size hdone h).andThen
    fun blocks blocks' rest rest' _ hblocks same => ?_
  exact (alike_readExactly 2 same).agrees.map fun _ _ _ => hblocks

theorem agrees_readChunks (hmax : 0 < max) (hmax' : 0 < max') (hdone : SameContent done done')
    (h : s.Same t) :
    (BodyRun.answer (readChunks max done s)).Agrees SameContent
      (BodyRun.answer (readChunks max' done' t)) := by
  induction s using Stream.byLength generalizing done done' t with
  | step s ih =>
      rw [answer_readChunks, answer_readChunks]
      refine (alike_readLine h).agrees.andThen fun line line' rest rest' hline hsame same => ?_
      subst hsame
      cases chunkSize line with
      | error failure => exact .failed rfl rest rest'
      | ok size =>
          simp only [Outcome.ofExcept, Outcome.andThen_done]
          by_cases hzero : size = 0
          · simp only [if_pos hzero]
            exact (alike_skipTrailers same).agrees.map fun _ _ _ => hdone
          · simp only [if_neg hzero]
            exact (agrees_readChunk hmax hmax' size hdone same).andThen
              fun blocks blocks' last last' hchunk hblocks same =>
                ih last (length_round hline hchunk) hblocks same

/-- With blocks of any two sizes, and bytes that come in any pieces, a body is read in the
same way. -/
theorem agrees_readBody (framing : Framing) (hmax : 0 < max) (hmax' : 0 < max') (h : s.Same t) :
    (BodyRun.joined (readBody framing max s)).Agrees (· = ·)
      (BodyRun.joined (readBody framing max' t)) := by
  cases framing with
  | chunked =>
      rw [joined_readBody, joined_readBody]
      exact (agrees_readChunks hmax hmax' rfl h).map fun _ _ hsame => hsame
  | fixed length =>
      rw [joined_readBody, joined_readBody]
      exact (agrees_readLengthBlocks hmax hmax' length rfl h).map fun _ _ hsame => hsame
  | untilClosed =>
      rw [joined_readToEnd hmax, joined_readToEnd hmax']
      exact (alike_atEnding h).agrees.map fun _ _ _ => h.bytes

/-! ## The size of blocks -/

/-- No block is empty, and none is larger than `max`. -/
def Sized (max : Int) (blocks : List (List UInt8)) : Prop :=
  ∀ block ∈ blocks, block ≠ [] ∧ (block.length : Int) ≤ max

theorem sized_nil (max : Int) : Sized max [] := nofun

theorem Sized.cons (hdone : Sized max done) {block : List UInt8} (hne : block ≠ [])
    (hlength : (block.length : Int) ≤ max) : Sized max (block :: done) :=
  List.forall_mem_cons.mpr ⟨⟨hne, hlength⟩, hdone⟩

theorem sized_cutBlocks (hmax : 0 < max) (hdone : Sized max done) (bytes : List UInt8) :
    Sized max (cutBlocks max.toNat done bytes) := by
  induction hn : bytes.length using Nat.strongRecOn generalizing done bytes with
  | _ n ih =>
      by_cases h : bytes = []
      · rwa [h, cutBlocks_nil]
      · have hlen : bytes.length ≠ 0 := by simpa using h
        rw [cutBlocks_of_ne_nil (by omega) h]
        refine ih _ (by rw [List.length_drop]; omega) (hdone.cons ?_ ?_) _ rfl
        · rw [← List.length_pos_iff, List.length_take]
          omega
        · rw [List.length_take]
          omega

theorem sized_readBlocks (hmax : 0 < max) (remaining : Nat) (hdone : Sized max done) (s : Stream) :
    Sized max (readBlocks max.toNat remaining done s).blocks := by
  induction remaining using Nat.strongRecOn generalizing done s with
  | _ remaining ih =>
      rw [readBlocks]
      split
      · exact hdone
      · rw [if_neg (by omega)]
        split
        · rename_i block rest hread
          have hlength := (Stream.bytes_readExactly hread).2
          refine ih _ (by omega) (hdone.cons ?_ (by omega)) rest
          rw [← List.length_pos_iff]
          omega
        · exact hdone
        · exact hdone

theorem sized_readLengthBlocks (hmax : 0 < max) (length : Int) (hdone : Sized max done)
    (s : Stream) : Sized max (readLengthBlocks max length done s).blocks := by
  rw [readLengthBlocks]
  split
  · exact hdone
  · split
    · exact hdone
    · exact sized_readBlocks hmax _ hdone s

theorem sized_readChunks (hmax : 0 < max) (hdone : Sized max done) (s : Stream) :
    Sized max (readChunks max done s).blocks := by
  induction s using Stream.byLength generalizing done with
  | step s ih =>
      rw [readChunks]
      split
      · exact hdone
      · exact hdone
      · rename_i line rest hline
        split
        · exact hdone
        · rename_i size _
          split
          · exact hdone
          · have hchunk : Sized max (readChunk max size done rest).blocks :=
              sized_readLengthBlocks hmax size hdone rest
            split <;> rename_i blocks _ hread
            · rw [hread] at hchunk
              exact ih _ (length_round hline (congrArg BodyRun.answer hread)) hchunk
            · rwa [hread] at hchunk

theorem sized_readToEnd (hmax : 0 < max) (s : Stream) : Sized max (readToEnd max s).blocks := by
  rw [readToEnd, if_neg (by omega), if_neg (by omega)]
  exact List.foldlRecOn _ _ (sized_nil max) fun done hdone piece _ =>
    sized_cutBlocks hmax hdone piece

theorem sized_readBody (framing : Framing) (hmax : 0 < max) (s : Stream) :
    Sized max (readBody framing max s).blocks := by
  intro block hblock
  cases framing with
  | chunked => exact sized_readChunks hmax (sized_nil max) s block (List.mem_reverse.mp hblock)
  | fixed length =>
      exact sized_readLengthBlocks hmax length (sized_nil max) s block (List.mem_reverse.mp hblock)
  | untilClosed => exact sized_readToEnd hmax s block (List.mem_reverse.mp hblock)

/-! ## Bodies of known length -/

/-- Where the stream lacks bytes, all blocks are yielded for which there are enough. -/
theorem full_readBlocks (hmax : 0 < max) {n : Nat} (h : s.bytes.length < n)
    (done : List (List UInt8)) :
    ∃ full, (readBlocks max.toNat n done s).blocks = full ++ done
      ∧ (∀ block ∈ full, (block.length : Int) = max)
      ∧ full.reverse.flatten = s.bytes.take (s.bytes.length / max.toNat * max.toNat) := by
  induction n using Nat.strongRecOn generalizing done s with
  | _ n ih =>
      rw [readBlocks, if_neg (by omega), if_neg (by omega)]
      by_cases hblock : s.bytes.length < max.toNat
      · rw [Stream.readExactly_short (by omega), Nat.div_eq_of_lt hblock]
        refine ⟨[], ?_, List.forall_mem_nil _, by simp⟩
        cases s.ending <;> rfl
      · have hle := Nat.le_of_not_lt hblock
        have hfront : (s.bytes.take max.toNat).length = max.toNat := List.length_take_of_le hle
        obtain ⟨rest, hread, hrest, -⟩ :=
          Stream.readExactly_enough (List.take_append_drop max.toNat s.bytes).symm
        have hlength : rest.bytes.length = s.bytes.length - max.toNat := by
          rw [hrest, List.length_drop]
        obtain ⟨full, hblocks, hfull, hflatten⟩ := ih (n - max.toNat) (by omega)
          (s := rest) (by omega) (s.bytes.take max.toNat :: done)
        have hcount : s.bytes.length / max.toNat = rest.bytes.length / max.toNat + 1 := by
          rw [hlength, ← Nat.div_eq_sub_div (by omega) hle]
        rw [hfront] at hread
        rw [Nat.min_eq_left (by omega), hread]
        refine ⟨full ++ [s.bytes.take max.toNat], ?_, ?_, ?_⟩
        · rw [hblocks, List.append_assoc, List.singleton_append]
        · refine List.forall_mem_append.mpr ⟨hfull, fun block hlast => ?_⟩
          rw [List.mem_singleton.mp hlast, hfront]
          omega
        · rw [List.reverse_append, List.flatten_append, hflatten, hcount, hrest, Nat.add_mul,
            Nat.one_mul, Nat.add_comm, List.take_add]
          simp

/-- A run that reads a body of a known length. -/
structure ReadsLength (n max : Int) (s : Stream) (run : BodyRun) : Prop where
  enough : n ≤ s.bytes.length → ∃ rest, run.outcome = .done () rest
  whole : ∀ rest, run.outcome = .done () rest →
    (run.blocks.flatten.length : Int) = n ∧ run.blocks.flatten ++ rest.bytes = s.bytes
  short : (s.bytes.length : Int) < n → s.ending = .closed →
    (∃ got expected rest, run.outcome = .failed (.streamEnded got expected) rest)
      ∧ (∀ block ∈ run.blocks, (block.length : Int) = max)
      ∧ run.blocks.flatten = s.bytes.take (s.bytes.length / max.toNat * max.toNat)

theorem dry_outcome {run : BodyRun} {ending : Ending} (h : (BodyRun.answer run).Dry ending) :
    run.outcome.Dry ending := by
  obtain ⟨blocks, outcome⟩ := run
  cases outcome with
  | done a rest => exact absurd h Outcome.not_dry_done
  | failed failure rest =>
      cases h with
      | closed got expected rest => exact .closed got expected rest
      | failure failure rest => exact .failure failure rest
  | waiting rest =>
      cases h with
      | silence rest => exact .silence rest

theorem readsLength_readBody (hmax : 0 < max) (n : Nat) (s : Stream) :
    ReadsLength n max s (readBody (.fixed n) max s) := by
  by_cases hshort : s.bytes.length < n
  · have hrun : (readLengthBlocks max n [] s).outcome.Dry s.ending :=
      dry_outcome (dry_readLengthBlocks hmax hshort [])
    have hdry : (readBody (.fixed n) max s).outcome.Dry s.ending := hrun
    obtain ⟨full, hblocks, hfull, hflatten⟩ := full_readBlocks hmax hshort []
    have hyields : (readBody (.fixed n) max s).blocks = full.reverse := by
      rw [readBody, readLengthBlocks, if_neg (by omega), if_neg (by omega), Int.toNat_natCast,
        hblocks, List.append_nil]
    refine ⟨fun henough => absurd henough (by omega), fun rest hdone => ?_, fun _ hclosed => ?_⟩
    · exact absurd (hdone ▸ hdry) Outcome.not_dry_done
    · rw [hyields]
      refine ⟨?_, fun block hblock => hfull block (List.mem_reverse.mp hblock), hflatten⟩
      rw [hclosed] at hdry
      cases houtcome : (readBody (.fixed n) max s).outcome with
      | done a rest => exact absurd (houtcome ▸ hdry) Outcome.not_dry_done
      | failed failure rest =>
          rw [houtcome] at hdry
          cases hdry with
          | closed got expected rest => exact ⟨got, expected, rest, rfl⟩
      | waiting rest => rw [houtcome] at hdry; cases hdry
  · have henough := Nat.le_of_not_lt hshort
    obtain ⟨rest, hread, hrest, -⟩ := answer_enough hmax henough []
    have hrun : readBody (.fixed n) max s
        = ⟨(cutBlocks max.toNat [] (s.bytes.take n)).reverse, .done () rest⟩ := by
      rw [readBody, answer_eq_done hread]
    refine ⟨fun _ => ⟨rest, by rw [hrun]⟩, fun other hdone => ?_,
      fun hlack => absurd hlack (by omega)⟩
    rw [hrun] at hdone ⊢
    obtain ⟨-, rfl⟩ := Outcome.done.inj hdone
    rw [flatten_cutBlocks (by omega), List.reverse_nil, List.flatten_nil, List.nil_append, hrest,
      List.length_take_of_le henough, List.take_append_drop]
    exact ⟨rfl, rfl⟩

/-! ## Bodies up to the end of the data -/

/-- A run that reads a body up to the end of the data. -/
structure ReadsAll (s : Stream) (run : BodyRun) : Prop where
  blocks : run.blocks.flatten = s.bytes
  closed : s.ending = .closed → ∃ rest, run.outcome = .done () rest ∧ rest.bytes = []
  failure : ∀ failure, s.ending = .failure failure →
    ∃ rest, run.outcome = .failed failure rest

theorem readsAll_readBody (hmax : 0 < max) (s : Stream) :
    ReadsAll s (readBody .untilClosed max s) := by
  have hrun : readBody .untilClosed max s
      = ⟨((s.buffer :: s.segments).foldl (cutBlocks max.toNat) []).reverse, atEnding s⟩ := by
    rw [readBody, readToEnd, if_neg (by omega), if_neg (by omega)]
  rw [hrun]
  refine ⟨?_, fun hclosed => ⟨⟨[], [], s.ending⟩, ?_, rfl⟩, fun failure hfailure =>
    ⟨⟨[], [], s.ending⟩, ?_⟩⟩
  · exact flatten_foldl_cutBlocks (by omega) (s.buffer :: s.segments) []
  · rw [atEnding, hclosed]
  · rw [atEnding, hfailure]

/-! ## Any framing -/

/-- Readers wait only for a peer that has fallen silent. -/
theorem blames_readBody (framing : Framing) (hmax : 0 < max) (s : Stream)
    (hlength : ∀ n, framing = .fixed n → 0 ≤ n) :
    (BodyRun.joined (readBody framing max s)).Blames s.ending (ChunkFault s.bytes) := by
  cases framing with
  | chunked =>
      rw [joined_readBody]
      exact (blames_readChunks hmax [] s).map _
  | fixed length =>
      rw [joined_readBody]
      exact (blames_readLengthBlocks hmax (hlength length rfl) [] s _).map _
  | untilClosed =>
      rw [joined_readToEnd hmax]
      exact (blames_atEnding s _).map _

/-- Readers of bodies yield blocks of the size asked for, end with the stream, lose no
bytes, and do not depend on the size. -/
theorem readBody_conserves (framing : Framing) (hmax : 0 < max) (s : Stream)
    (hlength : ∀ n, framing = .fixed n → 0 ≤ n) :
    (∀ block ∈ (readBody framing max s).blocks, block ≠ [] ∧ (block.length : Int) ≤ max)
      ∧ (s.ending ≠ .silence → ∀ rest, (readBody framing max s).outcome ≠ .waiting rest)
      ∧ (∀ n, framing = .fixed n → ReadsLength n max s (readBody framing max s))
      ∧ (framing = .untilClosed → ReadsAll s (readBody framing max s))
      ∧ ∀ max' t, 0 < max' → s.Same t →
        (BodyRun.joined (readBody framing max s)).Agrees (· = ·)
          (BodyRun.joined (readBody framing max' t)) := by
  refine ⟨sized_readBody framing hmax s, fun hends rest hwaits => ?_, ?_, ?_,
    fun max' t hmax' hsame => agrees_readBody framing hmax hmax' hsame⟩
  · have hblames := blames_readBody framing hmax s hlength
    rw [BodyRun.joined, hwaits] at hblames
    cases hblames with
    | waiting hsilent => exact hends hsilent
  · rintro n rfl
    obtain ⟨k, rfl⟩ := Int.eq_ofNat_of_zero_le (hlength n rfl)
    exact readsLength_readBody hmax k s
  · rintro rfl
    exact readsAll_readBody hmax s

/-- Of five bytes that were announced four come, in two pieces. -/
def cutShort : Stream := { segments := [[1, 2, 3], [4]] }

theorem readBody_conserves_cutShort :
    (readBody (.fixed 5) 3 cutShort).blocks.flatten = [1, 2, 3]
      ∧ ReadsLength 5 3 cutShort (readBody (.fixed 5) 3 cutShort)
      ∧ (BodyRun.joined (readBody (.fixed 5) 3 cutShort)).Agrees (· = ·)
          (BodyRun.joined (readBody (.fixed 5) 1 cutShort)) := by
  have hlength : ∀ n, Framing.fixed 5 = .fixed n → 0 ≤ n := by
    rintro n hn
    cases hn
    decide
  obtain ⟨-, -, hreads, -, hagrees⟩ :=
    readBody_conserves (.fixed 5) (show (0 : Int) < 3 by decide) cutShort hlength
  obtain ⟨-, -, hyields⟩ := (hreads 5 rfl).short (by decide) rfl
  exact ⟨hyields, hreads 5 rfl, hagrees 1 cutShort (by decide) ⟨rfl, rfl⟩⟩

end Response

end Courier
