import Courier.Proofs.Reads

/-!
# Laws that all readers share

Readers are put together from two reads by `Outcome.andThen`, so a law of
readers is a law of the two reads that `andThen` keeps. There are three:

- a reader *consumes* certain bytes (`Consumes`): it takes exactly these off
  every stream that starts with them, and runs dry on every stream that has
  only a part of them. Two readers, one after the other, consume one thing
  after the other. A reader *delimits* what it reads if each of its successes
  is of this kind (`DelimitsAt`);
- a reader gives *alike* outcomes on streams that differ in their pieces only
  (`Outcome.Alike`);
- a reader *blames* the stream or fails in a way of its own, and waits only
  for a peer that has fallen silent (`Outcome.Blames`).
-/

namespace Courier

variable {α β : Type}

namespace Outcome

@[simp] theorem andThen_done (a : α) (rest : Stream) (next : α → Stream → Outcome β) :
    (done a rest).andThen next = next a rest := rfl

@[simp] theorem andThen_failed (failure : Failure) (rest : Stream)
    (next : α → Stream → Outcome β) :
    (failed failure rest : Outcome α).andThen next = .failed failure rest := rfl

@[simp] theorem andThen_waiting (rest : Stream) (next : α → Stream → Outcome β) :
    (waiting rest : Outcome α).andThen next = .waiting rest := rfl

theorem map_eq_andThen (f : α → β) (outcome : Outcome α) :
    outcome.map f = outcome.andThen fun a rest => .done (f a) rest := by
  cases outcome <;> rfl

theorem andThen_eq_done {outcome : Outcome α} {next : α → Stream → Outcome β} {b : β}
    {rest : Stream} (h : outcome.andThen next = .done b rest) :
    ∃ a mid, outcome = .done a mid ∧ next a mid = .done b rest := by
  cases outcome with
  | done a mid => exact ⟨a, mid, rfl, h⟩
  | failed failure mid => cases h
  | waiting mid => cases h

theorem map_eq_done {outcome : Outcome α} {f : α → β} {b : β} {rest : Stream}
    (h : outcome.map f = .done b rest) : ∃ a, outcome = .done a rest ∧ f a = b := by
  cases outcome with
  | done a mid =>
      obtain ⟨rfl, rfl⟩ := Outcome.done.inj h
      exact ⟨a, rfl, rfl⟩
  | failed failure mid => cases h
  | waiting mid => cases h

end Outcome

/-! ## Running dry -/

/-- The outcome of a reader that needed more bytes than there were, by the
ending of the stream. -/
inductive Outcome.Dry : Ending → Outcome α → Prop where
  | closed (got : Nat) (expected : Option Nat) (rest : Stream) :
      Dry .closed (.failed (.streamEnded got expected) rest)
  | failure (failure : Failure) (rest : Stream) : Dry (.failure failure) (.failed failure rest)
  | silence (rest : Stream) : Dry .silence (.waiting rest)

theorem dry_starved (expected : Option Nat) (buffer : List UInt8) (ending : Ending) :
    (Stream.starved expected buffer ending : Outcome α).Dry ending := by
  cases ending with
  | closed => exact .closed ..
  | failure failure => exact .failure ..
  | silence => exact .silence ..

theorem Outcome.Dry.andThen {ending : Ending} {outcome : Outcome α} (h : outcome.Dry ending)
    (next : α → Stream → Outcome β) : (outcome.andThen next).Dry ending := by
  cases h with
  | closed got expected rest => exact .closed ..
  | failure failure rest => exact .failure ..
  | silence rest => exact .silence ..

theorem Outcome.not_dry_done {ending : Ending} {a : α} {rest : Stream} :
    ¬ (Outcome.done a rest).Dry ending := by
  intro h
  cases h

/-! ## Consuming bytes -/

/-- The reader takes exactly `taken` off the front of a stream and yields `a`;
a stream that has only a part of it runs dry. -/
structure Consumes (reader : Stream → Outcome α) (taken : List UInt8) (a : α) : Prop where
  whole : ∀ {s : Stream} {after : List UInt8}, s.bytes = taken ++ after →
    ∃ rest, reader s = .done a rest ∧ rest.bytes = after ∧ rest.ending = s.ending
  part : ∀ {s : Stream}, s.bytes <+: taken → s.bytes ≠ taken → (reader s).Dry s.ending

theorem Consumes.of_eq {reader : Stream → Outcome α} {taken taken' : List UInt8} {a : α}
    (h : Consumes reader taken a) (heq : taken = taken') : Consumes reader taken' a := heq ▸ h

theorem consumes_done (a : α) : Consumes (Outcome.done a) [] a where
  whole := fun {s _} h => ⟨s, rfl, h, rfl⟩
  part := fun hp hne => absurd (List.prefix_nil.mp hp) hne

/-- What one reader after the other consumes. -/
theorem Consumes.andThen {reader : Stream → Outcome α} {next : α → Stream → Outcome β}
    {taken more : List UInt8} {a : α} {b : β} (h : Consumes reader taken a)
    (hnext : Consumes (next a) more b) :
    Consumes (fun s => (reader s).andThen next) (taken ++ more) b where
  whole := by
    intro s after hs
    obtain ⟨mid, hmid, hbytes, hending⟩ := h.whole (hs.trans (List.append_assoc ..))
    obtain ⟨rest, hrest, hafter, hending'⟩ := hnext.whole hbytes
    exact ⟨rest, by rw [hmid]; exact hrest, hafter, hending'.trans hending⟩
  part := by
    intro s hp hne
    by_cases hlen : s.bytes.length < taken.length
    · have hshort : s.bytes <+: taken :=
        List.prefix_of_prefix_length_le hp (List.prefix_append ..) (Nat.le_of_lt hlen)
      exact (h.part hshort (fun heq => by rw [heq] at hlen; exact Nat.lt_irrefl _ hlen)).andThen _
    · -- the first reader gets what it wants, so it is the second one that lacks bytes
      obtain ⟨left, hleft⟩ : taken <+: s.bytes :=
        List.prefix_of_prefix_length_le (List.prefix_append ..) hp (Nat.le_of_not_lt hlen)
      obtain ⟨mid, hmid, hbytes, hending⟩ := h.whole hleft.symm
      rw [← hleft, List.prefix_append_right_inj] at hp
      have hdry : (next a mid).Dry mid.ending :=
        hnext.part (hbytes ▸ hp) fun heq => hne (by rw [← hleft, ← hbytes, heq])
      rw [hmid, ← hending]
      exact hdry

theorem Consumes.map {reader : Stream → Outcome α} {taken : List UInt8} {a : α}
    (h : Consumes reader taken a) (f : α → β) :
    Consumes (fun s => (reader s).map f) taken (f a) := by
  simp only [Outcome.map_eq_andThen]
  refine Consumes.of_eq ?_ (List.append_nil taken)
  exact h.andThen (consumes_done (f a))

/-- A computation that succeeds needs no bytes. -/
theorem Consumes.ofExcept {result : Except Failure α} {next : α → Stream → Outcome β}
    {taken : List UInt8} {a : α} {b : β} (h : result = .ok a) (hnext : Consumes (next a) taken b) :
    Consumes (fun s => (Outcome.ofExcept s result).andThen next) taken b := by
  subst h
  exact hnext

theorem Legible.consumes {line : List UInt8} (h : Legible line) :
    Consumes Stream.readLine (line ++ lineEnd) line where
  whole := fun hs => Stream.readLine_whole hs h
  part := by
    intro s hp hne
    have hsplit : line ++ lineEnd = (line ++ [13]) ++ [10] := by simp [lineEnd]
    have hfront : s.bytes <+: line ++ [13] := by
      rw [hsplit] at hp hne
      exact (List.prefix_concat_iff.mp hp).resolve_left hne
    have hlen := hfront.length_le
    have hshort := h.short
    rw [List.length_append, List.length_singleton] at hlen
    rw [Stream.readLine_part (h.unbroken.append_return.of_part hfront.isInfix) (by omega)]
    exact dry_starved ..

theorem consumes_readExactly (front : List UInt8) :
    Consumes (·.readExactly front.length) front front where
  whole := Stream.readExactly_enough
  part := by
    intro s hp hne
    have hlen : s.bytes.length < front.length :=
      Nat.lt_of_le_of_ne hp.length_le fun heq => hne (hp.eq_of_length heq)
    rw [Stream.readExactly_short hlen]
    exact dry_starved ..

/-! ## Delimiting -/

/-- If the reader succeeds on this stream, it consumes what it has taken off. -/
def DelimitsAt (reader : Stream → Outcome α) (s : Stream) : Prop :=
  ∀ a rest, reader s = .done a rest →
    ∃ taken, s.bytes = taken ++ rest.bytes ∧ Consumes reader taken a

theorem delimitsAt_done (a : α) (s : Stream) : DelimitsAt (Outcome.done a) s := by
  rintro b rest h
  obtain ⟨rfl, rfl⟩ := Outcome.done.inj h
  exact ⟨[], rfl, consumes_done a⟩

theorem delimitsAt_failed (failure : Failure) (s : Stream) :
    DelimitsAt (Outcome.failed failure : Stream → Outcome α) s := by
  rintro b rest h
  cases h

theorem delimitsAt_ofExcept (result : Except Failure α) (s : Stream) :
    DelimitsAt (fun s => Outcome.ofExcept s result) s := by
  cases result with
  | ok a => exact delimitsAt_done a s
  | error failure => exact delimitsAt_failed failure s

theorem DelimitsAt.andThen {reader : Stream → Outcome α} {next : α → Stream → Outcome β}
    {s : Stream} (h : DelimitsAt reader s)
    (hnext : ∀ a rest, reader s = .done a rest → DelimitsAt (next a) rest) :
    DelimitsAt (fun s => (reader s).andThen next) s := by
  rintro b rest hb
  obtain ⟨a, mid, hmid, hrest⟩ := Outcome.andThen_eq_done hb
  obtain ⟨taken, hs, hconsumes⟩ := h a mid hmid
  obtain ⟨more, hbytes, hmore⟩ := hnext a mid hmid b rest hrest
  exact ⟨taken ++ more, by rw [hs, hbytes, List.append_assoc], hconsumes.andThen hmore⟩

theorem DelimitsAt.map {reader : Stream → Outcome α} {s : Stream} (h : DelimitsAt reader s)
    (f : α → β) : DelimitsAt (fun s => (reader s).map f) s := by
  simp only [Outcome.map_eq_andThen]
  exact h.andThen fun a rest _ => delimitsAt_done (f a) rest

theorem delimitsAt_readLine (s : Stream) : DelimitsAt Stream.readLine s := by
  rintro line rest h
  exact ⟨line ++ lineEnd, Stream.bytes_readLine h, (Stream.legible_readLine h).consumes⟩

theorem delimitsAt_readExactly (n : Nat) (s : Stream) : DelimitsAt (·.readExactly n) s := by
  rintro front rest h
  obtain ⟨hbytes, rfl⟩ := Stream.bytes_readExactly h
  exact ⟨front, hbytes, consumes_readExactly front⟩

/-! ## Pieces do not matter -/

/-- The streams differ in their pieces only. -/
structure Stream.Same (s t : Stream) : Prop where
  bytes : s.bytes = t.bytes
  ending : s.ending = t.ending

/-- The failures are the same, but for the two texts of an overlong line. -/
inductive Failure.Alike : Failure → Failure → Prop where
  | refl (failure : Failure) : Alike failure failure
  | overlong (endFound endFound' : Bool) : Alike (.lineTooLong endFound) (.lineTooLong endFound')

/-- The outcomes are the same: equal results with the same bytes left, alike
failures, or a wait without end. -/
inductive Outcome.Alike : Outcome α → Outcome α → Prop where
  | done (a : α) {rest rest' : Stream} (same : rest.Same rest') :
      Alike (.done a rest) (.done a rest')
  | failed {failure failure' : Failure} (alike : failure.Alike failure') (rest rest' : Stream) :
      Alike (.failed failure rest) (.failed failure' rest')
  | waiting (rest rest' : Stream) : Alike (.waiting rest) (.waiting rest')

theorem alike_ofExcept (result : Except Failure α) {s t : Stream} (h : s.Same t) :
    (Outcome.ofExcept s result).Alike (.ofExcept t result) := by
  cases result with
  | ok a => exact .done a h
  | error failure => exact .failed (.refl failure) s t

theorem Outcome.Alike.andThen {outcome outcome' : Outcome α}
    {next next' : α → Stream → Outcome β} (h : outcome.Alike outcome')
    (hnext : ∀ a rest rest', outcome = .done a rest → rest.Same rest' →
      (next a rest).Alike (next' a rest')) :
    (outcome.andThen next).Alike (outcome'.andThen next') := by
  cases h with
  | done a same => exact hnext a _ _ rfl same
  | failed alike rest rest' => exact .failed alike rest rest'
  | waiting rest rest' => exact .waiting rest rest'

theorem Outcome.Alike.map {outcome outcome' : Outcome α} (h : outcome.Alike outcome')
    (f : α → β) : (outcome.map f).Alike (outcome'.map f) := by
  simp only [map_eq_andThen]
  exact h.andThen fun a rest rest' _ same => .done (f a) same

theorem alike_starved (expected : Option Nat) (buffer : List UInt8) (ending : Ending) :
    (Stream.starved expected buffer ending : Outcome α).Alike
      (Stream.starved expected buffer ending) := by
  cases ending with
  | closed => exact .failed (.refl _) _ _
  | failure failure => exact .failed (.refl _) _ _
  | silence => exact .waiting _ _

theorem alike_readLine {s t : Stream} (h : s.Same t) : s.readLine.Alike t.readLine := by
  cases lineFront s.bytes with
  | whole line after hsplit hline =>
      obtain ⟨rest, hread, hbytes, hending⟩ := Stream.readLine_whole hsplit hline
      obtain ⟨rest', hread', hbytes', hending'⟩ := Stream.readLine_whole (h.bytes ▸ hsplit) hline
      rw [hread, hread']
      exact .done line ⟨hbytes.trans hbytes'.symm, by rw [hending, hending', h.ending]⟩
  | part hpart hshort =>
      rw [Stream.readLine_part hpart hshort,
        Stream.readLine_part (h.bytes ▸ hpart) (h.bytes ▸ hshort), h.bytes, h.ending]
      exact alike_starved ..
  | overlong hlong =>
      -- the two tests for overlong lines may take turns, as pieces come
      obtain ⟨endFound, rest, hread⟩ := Stream.readLine_overlong hlong
      obtain ⟨endFound', rest', hread'⟩ := Stream.readLine_overlong (h.bytes ▸ hlong)
      rw [hread, hread']
      exact .failed (.overlong endFound endFound') rest rest'

theorem alike_readExactly (n : Nat) {s t : Stream} (h : s.Same t) :
    (s.readExactly n).Alike (t.readExactly n) := by
  by_cases hlen : s.bytes.length < n
  · rw [Stream.readExactly_short hlen, Stream.readExactly_short (h.bytes ▸ hlen), h.bytes,
      h.ending]
    exact alike_starved ..
  · have hsplit : s.bytes = s.bytes.take n ++ s.bytes.drop n := (List.take_append_drop ..).symm
    have hn : (s.bytes.take n).length = n := List.length_take_of_le (Nat.le_of_not_lt hlen)
    obtain ⟨rest, hread, hbytes, hending⟩ := Stream.readExactly_enough hsplit
    obtain ⟨rest', hread', hbytes', hending'⟩ :=
      Stream.readExactly_enough (h.bytes.symm.trans hsplit)
    rw [hn] at hread hread'
    rw [hread, hread']
    exact .done _ ⟨hbytes.trans hbytes'.symm, by rw [hending, hending', h.ending]⟩

/-! ## Who is to blame -/

/-- The failure is the stream's: it ended early, held an overlong line, or
ended with this failure. -/
inductive Ending.Explains (ending : Ending) : Failure → Prop where
  | ended (got : Nat) (expected : Option Nat) : Explains ending (.streamEnded got expected)
  | overlong (endFound : Bool) : Explains ending (.lineTooLong endFound)
  | failure {failure : Failure} (h : ending = .failure failure) : Explains ending failure

/-- Failures are the stream's or satisfy `own`; a wait is for a silent peer. -/
inductive Outcome.Blames (ending : Ending) (own : Failure → Prop) : Outcome α → Prop where
  | done (a : α) {rest : Stream} (h : rest.ending = ending) : Blames ending own (.done a rest)
  | stream {failure : Failure} (h : ending.Explains failure) (rest : Stream) :
      Blames ending own (.failed failure rest)
  | own {failure : Failure} (h : own failure) (rest : Stream) :
      Blames ending own (.failed failure rest)
  | waiting (h : ending = .silence) (rest : Stream) : Blames ending own (.waiting rest)

theorem Outcome.Blames.mono {ending : Ending} {own own' : Failure → Prop} {outcome : Outcome α}
    (h : outcome.Blames ending own) (himp : ∀ failure, own failure → own' failure) :
    outcome.Blames ending own' := by
  cases h with
  | done a h => exact .done a h
  | stream h rest => exact .stream h rest
  | own h rest => exact .own (himp _ h) rest
  | waiting h rest => exact .waiting h rest

theorem Outcome.Blames.andThen {ending : Ending} {own : Failure → Prop} {outcome : Outcome α}
    {next : α → Stream → Outcome β} (h : outcome.Blames ending own)
    (hnext : ∀ a rest, outcome = .done a rest → rest.ending = ending →
      (next a rest).Blames ending own) :
    (outcome.andThen next).Blames ending own := by
  cases h with
  | done a h => exact hnext a _ rfl h
  | stream h rest => exact .stream h rest
  | own h rest => exact .own h rest
  | waiting h rest => exact .waiting h rest

theorem Outcome.Blames.map {ending : Ending} {own : Failure → Prop} {outcome : Outcome α}
    (h : outcome.Blames ending own) (f : α → β) : (outcome.map f).Blames ending own := by
  simp only [map_eq_andThen]
  exact h.andThen fun a rest _ hending => .done (f a) hending

theorem blames_starved (expected : Option Nat) (buffer : List UInt8) (ending : Ending)
    (own : Failure → Prop) :
    (Stream.starved expected buffer ending : Outcome α).Blames ending own := by
  cases ending with
  | closed => exact .stream (.ended ..) _
  | failure failure => exact .stream (.failure rfl) _
  | silence => exact .waiting rfl _

theorem blames_readLine (s : Stream) (own : Failure → Prop) :
    s.readLine.Blames s.ending own := by
  cases lineFront s.bytes with
  | whole line after hsplit hline =>
      obtain ⟨rest, hread, -, hending⟩ := Stream.readLine_whole hsplit hline
      rw [hread]
      exact .done line hending
  | part hpart hshort =>
      rw [Stream.readLine_part hpart hshort]
      exact blames_starved ..
  | overlong hlong =>
      obtain ⟨endFound, rest, hread⟩ := Stream.readLine_overlong hlong
      rw [hread]
      exact .stream (.overlong endFound) rest

theorem blames_readExactly (s : Stream) (n : Nat) (own : Failure → Prop) :
    (s.readExactly n).Blames s.ending own := by
  by_cases hlen : s.bytes.length < n
  · rw [Stream.readExactly_short hlen]
    exact blames_starved ..
  · have hsplit : s.bytes = s.bytes.take n ++ s.bytes.drop n := (List.take_append_drop ..).symm
    obtain ⟨rest, hread, -, hending⟩ := Stream.readExactly_enough hsplit
    rw [List.length_take_of_le (Nat.le_of_not_lt hlen)] at hread
    rw [hread]
    exact .done _ hending

end Courier
