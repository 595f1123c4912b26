import Courier.Json.Read
import Courier.Proofs.Borders
import Mathlib.Data.List.DropRight

/-!
# Where JSON texts are nested too deep

Most texts that cannot be read as JSON are broken at some place. Two failures are of
another kind: a number may have too many digits, and brackets may open too deep.
`Overdeep` tells the second from the text: in front of the bracket that opens too
deep stand values that are read, each with a comma behind it (`Past`), and names in
the right places (`Begins`). Reading a text gives out for its depth exactly there
(`read_of_tooDeep`, `kind_of_read`).

Lists and maps are read by loops that are alike but for where a value begins. `Round`
says what one round does, and all that follows from it is said once for both (`Loops`).
That no loop runs out of rounds is due to `Loops.shrinks`: every round takes a comma off
the text.
-/

namespace Courier.Json

open Text

/-- What holds other values. -/
inductive Bracket where
  | list
  | map

def Bracket.opening : Bracket → Char
  | .list => '['
  | .map => '\x7b'

def Bracket.closing : Bracket → Char
  | .list => ']'
  | .map => '\x7d'

variable {α : Type} {s start rest more final opening : List Char} {rounds depth : Nat}
  {element : List Char → Reading Value} {v : Value} {kind : Kind} {bracket : Bracket}

/-! ## What reading leaves -/

/-- What is left is no longer than what was there. -/
def Shrinks (reader : List Char → Reading α) : Prop :=
  ∀ s a rest, reader s = .ok (a, rest) → rest.length ≤ s.length

theorem length_skipBlanks_le (s : List Char) : (skipBlanks s).length ≤ s.length :=
  (List.dropWhile_suffix _).length_le

theorem length_readUnits_le {done units : List CodeUnit}
    (h : readUnits opening done s = .ok (units, rest)) : rest.length ≤ s.length := by
  fun_induction readUnits opening done s with
  | case2 done rest =>
      cases h
      exact Nat.le_succ _
  | case4 | case7 | case10 =>
      rename_i ih
      have hrest := ih h
      simp only [List.length_cons] at hrest ⊢
      omega
  | _ => cases h

theorem shrinks_readString : Shrinks readString := by
  intro s text rest h
  obtain ⟨⟨units, left⟩, hunits, heq⟩ := map_eq_ok h
  cases heq
  exact Nat.le_trans (length_readUnits_le hunits) (by simp)

theorem length_takeDigits_le (s : List Char) : (takeDigits s).2.length ≤ s.length :=
  (List.dropWhile_suffix _).length_le

theorem length_takeWhole_le (s : List Char) : (takeWhole s).2.length ≤ s.length := by
  unfold takeWhole
  split
  · exact Nat.le_succ _
  · exact length_takeDigits_le s

theorem length_takeFraction_le (s : List Char) : (takeFraction s).2.length ≤ s.length := by
  unfold takeFraction
  split
  · split
    · exact Nat.le_refl _
    · exact Nat.le_trans (length_takeDigits_le _) (Nat.le_succ _)
  · exact Nat.le_refl _

theorem length_splitSign_le (s : List Char) : (Integer.splitSign s).2.length ≤ s.length := by
  unfold Integer.splitSign
  split
  · exact Nat.le_succ _
  · exact Nat.le_succ _
  · exact Nat.le_refl _

theorem length_takeExponent_le (s : List Char) : (takeExponent s).2.length ≤ s.length := by
  unfold takeExponent
  split
  · rename_i mark rest
    split
    · dsimp only
      split
      · exact Nat.le_refl _
      · rename_i hdigits
        have hleft := length_takeDigits_le (Integer.splitSign rest).2
        have hsign := length_splitSign_le rest
        rw [hdigits] at hleft
        exact Nat.le_trans (Nat.le_trans hleft hsign) (Nat.le_succ _)
    · exact Nat.le_refl _
  · exact Nat.le_refl _

/-- What is left of a number, whose digits start where `digits` does. -/
theorem length_afterNumber_le (digits : List Char) :
    (takeExponent (takeFraction (takeWhole digits).2).2).2.length ≤ digits.length :=
  Nat.le_trans (length_takeExponent_le _)
    (Nat.le_trans (length_takeFraction_le _) (length_takeWhole_le _))

theorem shrinks_readNumber : Shrinks readNumber := by
  intro s v rest h
  obtain ⟨digits, hdigits, hrest⟩ : ∃ digits : List Char, digits.length ≤ s.length
      ∧ rest = (takeExponent (takeFraction (takeWhole digits).2).2).2 := by
    unfold readNumber at h
    split at h
    rename_i negative digits hsplit
    refine ⟨digits, ?_, ?_⟩
    · split at hsplit
      · cases hsplit
        exact Nat.le_succ _
      · cases hsplit
        exact Nat.le_refl _
    · split at h
      · cases h
      · rename_i whole left hne hwhole
        rw [hwhole]
        dsimp only at h
        split at h
        · obtain ⟨number, -, heq⟩ := map_eq_ok h
          cases heq
          rfl
        · cases h
          rfl
  rw [hrest]
  exact Nat.le_trans (length_afterNumber_le digits) hdigits

theorem shrinks_readScalar : Shrinks readScalar := by
  intro s v rest h
  unfold readScalar at h
  split at h
  · obtain ⟨⟨text, left⟩, htext, heq⟩ := map_eq_ok h
    cases heq
    exact shrinks_readString _ _ _ htext
  · split at h
    · cases h
      exact (List.drop_suffix _ _).length_le
    · exact shrinks_readNumber _ _ _ h

/-! ## Failures that are no broken texts -/

/-- Reading stops with a failure of this kind, whatever is left of the text. -/
def Stops (kind : Kind) (reading : Reading α) : Prop :=
  ∃ failure, reading = .error (.failed failure) ∧ failure.kind = kind

theorem not_stops_ok (read : α × List Char) : ¬ Stops kind (.ok read) :=
  fun ⟨_, h, _⟩ => by cases h

theorem not_stops_broken (problem : JsonProblem) (rest : List Char) :
    ¬ Stops (α := α) kind (.error (.broken problem rest)) := fun ⟨_, h, _⟩ => by cases h

theorem stops_failed {failure : Failure} :
    Stops (α := α) kind (.error (.failed failure)) ↔ failure.kind = kind := by
  constructor
  · rintro ⟨_, ⟨⟩, h⟩
    exact h
  · exact fun h => ⟨failure, rfl, h⟩

theorem stops_error {β : Type} {stop : Stop} :
    Stops kind (.error stop : Reading α) ↔ Stops kind (.error stop : Reading β) := by
  cases stop with
  | broken problem rest => exact iff_of_false (not_stops_broken _ _) (not_stops_broken _ _)
  | failed failure => exact stops_failed.trans stops_failed.symm

theorem stops_map {β : Type} {reading : Reading α} {f : α × List Char → β × List Char} :
    Stops kind (reading.map f) ↔ Stops kind reading := by
  cases reading with
  | error stop => exact stops_error
  | ok read => exact iff_of_false (not_stops_ok _) (not_stops_ok _)

theorem not_stops_readUnits (done : List CodeUnit) : ¬ Stops kind (readUnits opening done s) := by
  fun_induction readUnits opening done s with
  | case2 => exact not_stops_ok _
  | case4 | case7 | case10 => assumption
  | _ => exact not_stops_broken _ _

theorem not_stops_readString (s : List Char) : ¬ Stops kind (readString s) := by
  unfold readString
  rw [stops_map]
  exact not_stops_readUnits []

theorem not_stops_readNumber (hkind : kind ≠ .value) (s : List Char) :
    ¬ Stops kind (readNumber s) := by
  unfold readNumber
  split
  split
  · exact not_stops_broken _ _
  · dsimp only
    split
    · unfold integerValue
      split
      · exact fun hstops => hkind (stops_failed.mp hstops).symm
      · exact not_stops_ok _
    · exact not_stops_ok _

/-- Of what holds no other values, only a number can fail, and only for its digits. -/
theorem not_stops_readScalar (hkind : kind ≠ .value) (s : List Char) :
    ¬ Stops kind (readScalar s) := by
  unfold readScalar
  split
  · rw [stops_map]
    exact not_stops_readString _
  · split
    · exact not_stops_ok _
    · exact not_stops_readNumber hkind _

/-! ## Lists and maps -/

/-- Where the next value of a list or a map begins: in a map behind its name. -/
inductive Begins : Bracket → List Char → List Char → Prop where
  | element (s : List Char) : Begins .list s (skipBlanks s)
  | member {s quoted behind value : List Char} {name : String}
      (quote : skipBlanks s = '"' :: quoted)
      (named : readString ('"' :: quoted) = .ok (name, behind))
      (colon : skipBlanks behind = ':' :: value) : Begins .map s (skipBlanks value)

/-- Reading goes on behind values that are all read and have commas behind them. -/
inductive Past (bracket : Bracket) (element : List Char → Reading Value) :
    List Char → List Char → Prop where
  | here (s : List Char) : Past bracket element s s
  | next {s start rest more final : List Char} {v : Value} (begins : Begins bracket s start)
      (read : element start = .ok (v, rest)) (comma : skipBlanks rest = ',' :: more)
      (past : Past bracket element more final) : Past bracket element s final

theorem Begins.length_le (h : Begins bracket s start) : start.length ≤ s.length := by
  cases h with
  | element => exact length_skipBlanks_le s
  | @member _ quoted behind value name quote named colon =>
      have hquote := length_skipBlanks_le s
      have hnamed := shrinks_readString _ _ _ named
      have hcolon := length_skipBlanks_le behind
      have hvalue := length_skipBlanks_le value
      rw [quote] at hquote
      rw [colon, List.length_cons] at hcolon
      omega

theorem length_lt_of_mark (helement : Shrinks element) (hbegins : Begins bracket s start)
    (hread : element start = .ok (v, rest)) {mark : Char}
    (hmark : skipBlanks rest = mark :: more) : more.length < s.length := by
  have hstart := hbegins.length_le
  have hrest := helement _ _ _ hread
  have hmore := length_skipBlanks_le rest
  rw [hmark, List.length_cons] at hmore
  omega

theorem Past.length_le (helement : Shrinks element) (h : Past bracket element s final) :
    final.length ≤ s.length := by
  induction h with
  | here s => exact Nat.le_refl _
  | next begins read comma past ih =>
      have hmore := length_lt_of_mark helement begins read comma
      omega

theorem skipBlanks_skipBlanks (s : List Char) : skipBlanks (skipBlanks s) = skipBlanks s :=
  List.dropWhile_idempotent _ _

theorem begins_skipBlanks : Begins bracket (skipBlanks s) start ↔ Begins bracket s start := by
  constructor
  · intro h
    cases h with
    | element =>
        rw [skipBlanks_skipBlanks]
        exact .element s
    | member quote named colon =>
        rw [skipBlanks_skipBlanks] at quote
        exact .member quote named colon
  · intro h
    cases h with
    | element =>
        have hblanks : Begins .list (skipBlanks s) (skipBlanks (skipBlanks s)) := .element _
        rwa [skipBlanks_skipBlanks] at hblanks
    | member quote named colon =>
        rw [← skipBlanks_skipBlanks] at quote
        exact .member quote named colon

/-- The next value is reached past other ones, and reading it stops. -/
def Reaches (kind : Kind) (bracket : Bracket) (element : List Char → Reading Value)
    (s : List Char) : Prop :=
  ∃ final start, Past bracket element s final ∧ Begins bracket final start
    ∧ Stops kind (element start)

theorem reaches_skipBlanks :
    Reaches kind bracket element (skipBlanks s) ↔ Reaches kind bracket element s := by
  constructor
  · rintro ⟨final, start, hpast, hbegins, hstops⟩
    cases hpast with
    | here => exact ⟨s, start, .here s, begins_skipBlanks.mp hbegins, hstops⟩
    | next begins read comma past =>
        exact ⟨final, start, .next (begins_skipBlanks.mp begins) read comma past, hbegins, hstops⟩
  · rintro ⟨final, start, hpast, hbegins, hstops⟩
    cases hpast with
    | here => exact ⟨_, start, .here _, begins_skipBlanks.mpr hbegins, hstops⟩
    | next begins read comma past =>
        exact ⟨final, start, .next (begins_skipBlanks.mpr begins) read comma past, hbegins, hstops⟩

theorem Begins.unique {other : List Char} (h : Begins bracket s start)
    (h' : Begins bracket s other) : start = other := by
  cases h with
  | element =>
      cases h'
      rfl
  | member quote named colon =>
      cases h' with
      | member quote' named' colon' =>
          cases quote.symm.trans quote'
          cases named.symm.trans named'
          cases colon.symm.trans colon'
          rfl

section Loops

variable {δ : Type} {loop : Nat → δ → List Char → Reading δ} {done : δ}

/-- What one round makes of a text: it reads the value that begins there and looks for what
closes the list or the map, or for a comma, behind which the other rounds go on. -/
inductive Round (bracket : Bracket) (element : List Char → Reading Value)
    (loop : Nat → δ → List Char → Reading δ) (rounds : Nat) (s : List Char) :
    Reading δ → Prop where
  | nowhere {problem : JsonProblem} {rest : List Char} (none : ∀ start, ¬ Begins bracket s start) :
      Round bracket element loop rounds s (.error (.broken problem rest))
  | unread {start : List Char} {stop : Stop} (begins : Begins bracket s start)
      (read : element start = .error stop) : Round bracket element loop rounds s (.error stop)
  | closed {start rest left : List Char} {v : Value} {result : δ} (begins : Begins bracket s start)
      (read : element start = .ok (v, rest)) (closing : skipBlanks rest = bracket.closing :: left) :
      Round bracket element loop rounds s (.ok (result, left))
  | next {start rest more : List Char} {v : Value} {done : δ} (begins : Begins bracket s start)
      (read : element start = .ok (v, rest)) (comma : skipBlanks rest = ',' :: more) :
      Round bracket element loop rounds s (loop rounds done more)
  | unclosed {start rest left : List Char} {v : Value} {problem : JsonProblem}
      (begins : Begins bracket s start) (read : element start = .ok (v, rest))
      (comma : ∀ more, skipBlanks rest ≠ ',' :: more) :
      Round bracket element loop rounds s (.error (.broken problem left))

/-- A loop over the values of a list or a map. -/
structure Loops (bracket : Bracket) (element : List Char → Reading Value)
    (loop : Nat → δ → List Char → Reading δ) : Prop where
  zero : ∀ done s, ∃ problem, loop 0 done s = .error (.broken problem s)
  round : ∀ rounds done s, Round bracket element loop rounds s (loop (rounds + 1) done s)

theorem Loops.shrinks (hloop : Loops bracket element loop) (helement : Shrinks element)
    (rounds : Nat) (done : δ) : Shrinks (loop rounds done) := by
  induction rounds generalizing done with
  | zero =>
      intro s result rest h
      obtain ⟨problem, hzero⟩ := hloop.zero done s
      cases hzero.symm.trans h
  | succ rounds ih =>
      intro s result rest h
      have hround := hloop.round rounds done s
      rw [h] at hround
      generalize hresult : (Except.ok (result, rest) : Reading δ) = outcome at hround
      cases hround with
      | nowhere | unread | unclosed => cases hresult
      | closed begins read closing =>
          cases hresult
          exact Nat.le_of_lt (length_lt_of_mark helement begins read closing)
      | next begins read comma =>
          have hmore := length_lt_of_mark helement begins read comma
          exact Nat.le_trans (ih _ _ _ _ hresult.symm) (Nat.le_of_lt hmore)

theorem Loops.reaches (hloop : Loops bracket element loop)
    (h : Stops kind (loop rounds done s)) : Reaches kind bracket element s := by
  induction rounds generalizing done s with
  | zero =>
      obtain ⟨problem, hzero⟩ := hloop.zero done s
      rw [hzero] at h
      exact absurd h (not_stops_broken _ _)
  | succ rounds ih =>
      have hround := hloop.round rounds done s
      generalize loop (rounds + 1) done s = outcome at h hround
      cases hround with
      | nowhere | unclosed => exact absurd h (not_stops_broken _ _)
      | closed => exact absurd h (not_stops_ok _)
      | unread begins read =>
          refine ⟨s, _, .here s, begins, ?_⟩
          rw [read]
          exact stops_error.mp h
      | next begins read comma =>
          obtain ⟨final, start, hpast, hstart, hstops⟩ := ih h
          exact ⟨final, start, .next begins read comma hpast, hstart, hstops⟩

/-- No loop runs out of rounds that has one for each character of its text. -/
theorem Loops.of_reaches (hloop : Loops bracket element loop) (helement : Shrinks element)
    (hempty : ¬ Stops kind (element [])) (h : Reaches kind bracket element s)
    (hrounds : s.length ≤ rounds) (done : δ) : Stops kind (loop rounds done s) := by
  obtain ⟨final, start, hpast, hbegins, hstops⟩ := h
  induction hpast generalizing rounds done with
  | here s =>
      cases rounds with
      | zero =>
          have hstart := hbegins.length_le
          rw [List.length_eq_zero_iff.mp (by omega : start.length = 0)] at hstops
          exact absurd hstops hempty
      | succ rounds =>
          have hround := hloop.round rounds done s
          generalize loop (rounds + 1) done s = outcome at hround ⊢
          cases hround with
          | nowhere none => exact absurd hbegins (none _)
          | unread begins read =>
              rw [hbegins.unique begins, read] at hstops
              exact stops_error.mp hstops
          | closed begins read | next begins read | unclosed begins read =>
              rw [hbegins.unique begins, read] at hstops
              exact absurd hstops (not_stops_ok _)
  | @next s _ _ _ _ _ begins read comma past ih =>
      have hmore := length_lt_of_mark helement begins read comma
      cases rounds with
      | zero => omega
      | succ rounds =>
          have hround := hloop.round rounds done s
          generalize loop (rounds + 1) done s = outcome at hround ⊢
          cases hround with
          | nowhere none => exact absurd begins (none _)
          | unread begins' read' =>
              cases begins.unique begins'
              cases read.symm.trans read'
          | closed begins' read' closing =>
              cases begins.unique begins'
              cases read.symm.trans read'
              have hmark := comma.symm.trans closing
              cases bracket <;> cases hmark
          | unclosed begins' read' uncomma =>
              cases begins.unique begins'
              cases read.symm.trans read'
              exact absurd comma (uncomma _)
          | next begins' read' comma' =>
              cases begins.unique begins'
              cases read.symm.trans read'
              cases comma.symm.trans comma'
              exact ih (by omega) _ hbegins

end Loops

theorem loops_readElements (element : List Char → Reading Value) :
    Loops .list element (readElements element) where
  zero _ _ := ⟨_, rfl⟩
  round rounds done s := by
    rw [readElements]
    split
    · rename_i stop hread
      exact .unread (.element s) hread
    · rename_i v rest hread
      split
      · rename_i left hclosing
        exact .closed (.element s) hread hclosing
      · rename_i more hcomma
        exact .next (.element s) hread hcomma
      · rename_i hcomma
        exact .unclosed (.element s) hread hcomma

theorem loops_readMembers (element : List Char → Reading Value) :
    Loops .map element (readMembers element) where
  zero _ _ := ⟨_, rfl⟩
  round rounds done s := by
    rw [readMembers]
    split
    · rename_i quoted hquoted
      split
      · rename_i stop hname
        cases stop with
        | failed failure => exact absurd ⟨failure, hname, rfl⟩ (not_stops_readString _)
        | broken problem rest =>
            refine .nowhere ?_
            rintro _ (_ | ⟨quote, named, -⟩)
            cases hquoted.symm.trans quote
            cases hname.symm.trans named
      · rename_i name behind hname
        split
        · rename_i value hvalue
          have hbegins : Begins .map s (skipBlanks value) := .member hquoted hname hvalue
          split
          · rename_i stop hread
            exact .unread hbegins hread
          · rename_i v rest hread
            dsimp only
            split
            · rename_i left hclosing
              exact .closed hbegins hread hclosing
            · rename_i more hcomma
              exact .next hbegins hread hcomma
            · rename_i hcomma
              exact .unclosed hbegins hread hcomma
        · rename_i hcolon
          refine .nowhere ?_
          rintro _ (_ | ⟨quote, named, colon⟩)
          cases hquoted.symm.trans quote
          cases hname.symm.trans named
          exact hcolon _ colon
    · rename_i hquote
      refine .nowhere ?_
      rintro _ (_ | ⟨quote, -, -⟩)
      exact hquote _ quote

theorem shrinks_readList (helement : Shrinks element) (rounds : Nat) :
    Shrinks (readList element rounds) := by
  intro s v rest h
  have hblanks := length_skipBlanks_le s
  unfold readList at h
  split at h
  · rename_i closed hclosed
    cases h
    rw [hclosed] at hblanks
    exact Nat.le_trans (Nat.le_succ _) hblanks
  · obtain ⟨⟨items, left⟩, hitems, heq⟩ := map_eq_ok h
    cases heq
    exact Nat.le_trans ((loops_readElements _).shrinks helement rounds [] _ _ _ hitems) hblanks

theorem shrinks_readMap (helement : Shrinks element) (rounds : Nat) :
    Shrinks (readMap element rounds) := by
  intro s v rest h
  have hblanks := length_skipBlanks_le s
  unfold readMap at h
  split at h
  · rename_i closed hclosed
    cases h
    rw [hclosed] at hblanks
    exact Nat.le_trans (Nat.le_succ _) hblanks
  · obtain ⟨⟨members, left⟩, hmembers, heq⟩ := map_eq_ok h
    cases heq
    exact Nat.le_trans ((loops_readMembers _).shrinks helement rounds [] _ _ _ hmembers) hblanks

/-- Reading a value takes it off the front of the text. -/
theorem shrinks_readValue (rounds depth : Nat) : Shrinks (readValue rounds depth) := by
  induction depth with
  | zero =>
      intro s v rest h
      unfold readValue at h
      split at h
      · cases h
      · cases h
      · exact shrinks_readScalar _ _ _ h
  | succ depth ih =>
      intro s v rest h
      unfold readValue at h
      split at h
      · exact Nat.le_trans (shrinks_readList ih rounds _ _ _ h) (Nat.le_succ _)
      · exact Nat.le_trans (shrinks_readMap ih rounds _ _ _ h) (Nat.le_succ _)
      · exact shrinks_readScalar _ _ _ h

/-! ## Texts that are nested too deep -/

/-- Behind values that are all read, a bracket opens more than `depth` levels down. -/
inductive Overdeep (rounds : Nat) : Nat → List Char → Prop where
  | opened (bracket : Bracket) (rest : List Char) : Overdeep rounds 0 (bracket.opening :: rest)
  | inside {depth : Nat} {bracket : Bracket} {rest final start : List Char}
      (past : Past bracket (readValue rounds depth) rest final)
      (begins : Begins bracket final start) (deep : Overdeep rounds depth start) :
      Overdeep rounds (depth + 1) (bracket.opening :: rest)

/-- How a value is read that starts with a bracket. -/
def readBracket (rounds depth : Nat) : Bracket → List Char → Reading Value
  | .list => readList (readValue rounds depth) rounds
  | .map => readMap (readValue rounds depth) rounds

theorem readValue_opening (rounds depth : Nat) (bracket : Bracket) (rest : List Char) :
    readValue rounds (depth + 1) (bracket.opening :: rest)
      = readBracket rounds depth bracket rest := by
  cases bracket <;> rfl

theorem readValue_scalar (h : ∀ bracket rest, s ≠ Bracket.opening bracket :: rest) :
    readValue rounds depth s = readScalar s := by
  cases depth with
  | zero | succ =>
      unfold readValue
      split
      · exact absurd rfl (h .list _)
      · exact absurd rfl (h .map _)
      · rfl

/-- No value begins with a bracket that closes. -/
theorem readValue_closing (rounds depth : Nat) (hclosing : skipBlanks s = bracket.closing :: rest)
    (h : Begins bracket s start) :
    readValue rounds depth start = .error (.broken .valueExpected start) := by
  cases h with
  | element =>
      rw [hclosing, readValue_scalar]
      · rfl
      · rintro (_ | _) _ ⟨⟩
  | member quote named colon =>
      rw [quote] at hclosing
      cases hclosing

theorem not_reaches_closing (rounds depth : Nat) (h : skipBlanks s = bracket.closing :: rest) :
    ¬ Reaches kind bracket (readValue rounds depth) s := by
  rintro ⟨final, start, hpast, hbegins, hstops⟩
  cases hpast with
  | here =>
      rw [readValue_closing rounds depth h hbegins] at hstops
      exact not_stops_broken _ _ hstops
  | next begins read comma past =>
      rw [readValue_closing rounds depth h begins] at read
      cases read

theorem not_stops_readValue_nil (kind : Kind) (rounds depth : Nat) :
    ¬ Stops kind (readValue rounds depth []) := by
  rw [readValue_scalar fun bracket rest => by cases bracket <;> nofun]
  exact not_stops_broken _ _

/-- A list or a map fails where one of its values does, if those in front of it are read. -/
theorem stops_readBracket_iff (hrounds : rest.length ≤ rounds) :
    Stops kind (readBracket rounds depth bracket rest)
      ↔ Reaches kind bracket (readValue rounds depth) rest := by
  have hlength := length_skipBlanks_le rest
  have helement := shrinks_readValue rounds depth
  have hempty := not_stops_readValue_nil kind rounds depth
  cases bracket with
  | list =>
      simp only [readBracket, readList]
      split
      · rename_i closed hclosed
        exact iff_of_false (not_stops_ok _) (not_reaches_closing _ _ hclosed)
      · rw [stops_map, ← reaches_skipBlanks]
        exact ⟨(loops_readElements _).reaches, fun h =>
          (loops_readElements _).of_reaches helement hempty h (by omega) []⟩
  | map =>
      simp only [readBracket, readMap]
      split
      · rename_i closed hclosed
        exact iff_of_false (not_stops_ok _) (not_reaches_closing _ _ hclosed)
      · rw [stops_map, ← reaches_skipBlanks]
        exact ⟨(loops_readMembers _).reaches, fun h =>
          (loops_readMembers _).of_reaches helement hempty h (by omega) []⟩

theorem stops_readValue_zero :
    Stops kind (readValue rounds 0 (bracket.opening :: rest)) ↔ kind = .recursion := by
  cases bracket <;> exact stops_failed.trans eq_comm

theorem scalar_iff (h : ∀ bracket rest, s ≠ Bracket.opening bracket :: rest) :
    Stops .recursion (readValue rounds depth s) ↔ Overdeep rounds depth s := by
  rw [readValue_scalar h]
  refine iff_of_false (not_stops_readScalar (by decide) s) fun hdeep => ?_
  cases hdeep with
  | opened bracket rest => exact h bracket rest rfl
  | inside => exact h _ _ rfl

theorem opening_inj {other : Bracket} (h : bracket.opening = other.opening) : bracket = other := by
  cases bracket <;> cases other <;> first | rfl | exact absurd h (by decide)

theorem overdeep_succ_iff : Overdeep rounds (depth + 1) (bracket.opening :: rest)
    ↔ ∃ final start, Past bracket (readValue rounds depth) rest final
      ∧ Begins bracket final start ∧ Overdeep rounds depth start := by
  constructor
  · generalize htext : bracket.opening :: rest = s
    intro h
    cases h with
    | inside past begins deep =>
        obtain ⟨hopening, rfl⟩ := List.cons.inj htext
        obtain rfl := opening_inj hopening
        exact ⟨_, _, past, begins, deep⟩
  · rintro ⟨final, start, past, begins, deep⟩
    exact .inside past begins deep

/-- Reading a value gives out for its depth exactly where it is nested too deep. -/
theorem stops_readValue_iff (hrounds : s.length ≤ rounds) :
    Stops .recursion (readValue rounds depth s) ↔ Overdeep rounds depth s := by
  induction depth generalizing s with
  | zero =>
      by_cases hscalar : ∀ bracket rest, s ≠ Bracket.opening bracket :: rest
      · exact scalar_iff hscalar
      · simp only [not_forall, not_not] at hscalar
        obtain ⟨bracket, rest, rfl⟩ := hscalar
        exact iff_of_true (stops_readValue_zero.mpr rfl) (.opened bracket rest)
  | succ depth ih =>
      by_cases hscalar : ∀ bracket rest, s ≠ Bracket.opening bracket :: rest
      · exact scalar_iff hscalar
      · simp only [not_forall, not_not] at hscalar
        obtain ⟨bracket, rest, rfl⟩ := hscalar
        rw [List.length_cons] at hrounds
        rw [readValue_opening, stops_readBracket_iff (by omega), overdeep_succ_iff]
        refine exists_congr fun final => exists_congr fun start =>
          and_congr_right fun hpast => and_congr_right fun hbegins => ih ?_
        have hfinal := hpast.length_le (shrinks_readValue rounds depth)
        have hstart := hbegins.length_le
        omega

/-- Where no text is broken, reading stops for the depth of a value or the digits of a number. -/
theorem kind_of_stops (hrounds : s.length ≤ rounds) (h : Stops kind (readValue rounds depth s)) :
    kind = .value ∨ kind = .recursion := by
  by_cases hvalue : kind = .value
  · exact .inl hvalue
  right
  induction depth generalizing s with
  | zero =>
      by_cases hscalar : ∀ bracket rest, s ≠ Bracket.opening bracket :: rest
      · rw [readValue_scalar hscalar] at h
        exact absurd h (not_stops_readScalar hvalue s)
      · simp only [not_forall, not_not] at hscalar
        obtain ⟨bracket, rest, rfl⟩ := hscalar
        exact stops_readValue_zero.mp h
  | succ depth ih =>
      by_cases hscalar : ∀ bracket rest, s ≠ Bracket.opening bracket :: rest
      · rw [readValue_scalar hscalar] at h
        exact absurd h (not_stops_readScalar hvalue s)
      · simp only [not_forall, not_not] at hscalar
        obtain ⟨bracket, rest, rfl⟩ := hscalar
        rw [List.length_cons] at hrounds
        rw [readValue_opening, stops_readBracket_iff (by omega)] at h
        obtain ⟨final, start, hpast, hbegins, hstops⟩ := h
        have hfinal := hpast.length_le (shrinks_readValue rounds depth)
        have hstart := hbegins.length_le
        exact ih (by omega) hstops

/-- Reads one value with blanks around it. -/
def readWhole (s : List Char) : Except Stop Value :=
  match readValue s.length Value.nestingLimit (skipBlanks s) with
  | .error stop => .error stop
  | .ok (v, rest) =>
      match skipBlanks rest with
      | [] => .ok v
      | rest => .error (.broken .extraData rest)

/-- Reads one value from a text without a byte order mark. -/
def readMarked (s : List Char) : Except Stop Value :=
  match s with
  | '\uFEFF' :: _ => .error (.broken .byteOrderMark s)
  | s => readWhole s

/-- What comes of reading a text, with the place where it is broken as a fault. -/
def settle (s : List Char) : Except Stop Value → Except Failure Value
  | .ok v => .ok v
  | .error (.broken problem rest) => .error (.invalidJson (faultAt s rest problem))
  | .error (.failed failure) => .error failure

theorem read_unmarked (h : ∀ rest, s ≠ '\uFEFF' :: rest) : read s = settle s (readWhole s) := by
  have hmarked : readMarked s = readWhole s := by
    unfold readMarked
    split
    · exact absurd rfl (h _)
    · rfl
  have hread : read s = settle s (readMarked s) := rfl
  rw [hread, hmarked]

/-- A text that JSON is read from until a bracket opens too deep. -/
def TooDeep (s : List Char) : Prop := Overdeep s.length Value.nestingLimit (skipBlanks s)

theorem Overdeep.starts (h : Overdeep rounds depth s) :
    ∃ bracket rest, s = Bracket.opening bracket :: rest := by
  cases h with
  | opened bracket rest => exact ⟨bracket, rest, rfl⟩
  | inside => exact ⟨_, _, rfl⟩

/-- A text that is nested too deep does not start with a byte order mark. -/
theorem TooDeep.unmarked (h : TooDeep s) (rest : List Char) : s ≠ '\uFEFF' :: rest := by
  rintro rfl
  obtain ⟨bracket, left, hstart⟩ := h.starts
  have hskip : skipBlanks ('\uFEFF' :: rest) = '\uFEFF' :: rest := rfl
  rw [hskip] at hstart
  have hmark := (List.cons.inj hstart).1
  cases bracket <;> exact absurd hmark (by decide)

theorem read_of_tooDeep (h : TooDeep s) :
    ∃ failure, read s = .error failure ∧ failure.kind = .recursion := by
  obtain ⟨failure, hread, hkind⟩ := (stops_readValue_iff (length_skipBlanks_le s)).mpr h
  refine ⟨failure, ?_, hkind⟩
  rw [read_unmarked h.unmarked, readWhole, hread]
  rfl

/-- Reading fails for the depth of a text only if it is nested too deep, and otherwise for
a fault of the text or the digits of a number. -/
theorem kind_of_read {failure : Failure} (h : read s = .error failure) :
    failure.kind = .json ∨ failure.kind = .value ∨ failure.kind = .recursion ∧ TooDeep s := by
  unfold read at h
  dsimp only at h
  split at h
  · cases h
  · cases h
    exact .inl rfl
  · rename_i fault hfault
    cases h
    have hstops : Stops failure.kind (readValue s.length Value.nestingLimit (skipBlanks s)) := by
      split at hfault
      · cases hfault
      · split at hfault
        · rename_i stop hread
          cases hfault
          exact ⟨failure, hread, rfl⟩
        · split at hfault <;> cases hfault
    rcases kind_of_stops (length_skipBlanks_le s) hstops with hkind | hkind
    · exact .inr (.inl hkind)
    · rw [hkind] at hstops
      exact .inr (.inr ⟨hkind, (stops_readValue_iff (length_skipBlanks_le s)).mp hstops⟩)

end Courier.Json
