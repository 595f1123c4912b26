import Courier.Proofs.Decoding
import Courier.Proofs.Issues

/-!
# What the lines of a run say

The line of a request says how the request has ended, and nothing else (`Tells`). A response
is told by its body as a text. What went wrong is told by the failure that the request is
given up with (`CaughtAs`): by the one that this was raised from, if there is one
(`RaisedFrom`), and of either by the name of its kind and its message, if it has one
(`Described`).

All of this is stated apart from the functions that write the lines, which keep to it
(`tells_iff`). So a request that ends as it is meant to (`Ends`) is told of in one way
(`Ends.tells`).
-/

namespace Courier

namespace Failure

variable {failure seen cause : Failure} {text : String}

/-- What a failure was raised from. -/
inductive RaisedFrom : Failure → Failure → Prop where
  | unencodable (type : String) (format : BodyFormat) (cause : Failure) :
      RaisedFrom (.unencodable type format cause) cause
  | transport (cause : Failure) : RaisedFrom (.transport cause) cause
  | timedOut (cause : Failure) : RaisedFrom (.requestTimedOut cause) cause
  | chunkSize (size : List UInt8) : RaisedFrom (.invalidResponse (.chunkSize size))
      (.unacceptable (.integer 16 (String.ofList ((Text.Quoted.bytes size).take 200))))

theorem raisedFrom_iff : RaisedFrom failure cause ↔ failure.cause? = some cause := by
  constructor
  · rintro (_ | _ | _ | _) <;> rfl
  · intro h
    cases failure with
    | unencodable type format inner =>
        cases h
        exact .unencodable type format _
    | transport inner =>
        cases h
        exact .transport _
    | requestTimedOut inner =>
        cases h
        exact .timedOut _
    | invalidResponse fault =>
        cases fault with
        | chunkSize size =>
            cases h
            exact .chunkSize size
        | _ => cases h
    | _ => cases h

/-- A failure is described by the name of its kind, and by its message if it has one. -/
inductive Described (failure : Failure) : String → Prop where
  | silent (silent : failure.message = "") : Described failure failure.kind.name
  | worded (worded : failure.message ≠ "") :
      Described failure (failure.kind.name ++ ": " ++ failure.message)

theorem described_iff : Described failure text ↔ failure.describe = text := by
  have hempty : failure.message.isEmpty = true ↔ failure.message = "" := String.isEmpty_iff
  rw [describe, describeAs]
  by_cases hmessage : failure.message = ""
  · rw [if_pos (hempty.mpr hmessage)]
    constructor
    · rintro (_ | worded)
      · rfl
      · exact absurd hmessage worded
    · rintro rfl
      exact .silent hmessage
  · rw [if_neg (mt hempty.mp hmessage)]
    constructor
    · rintro (silent | _)
      · exact absurd silent hmessage
      · rfl
    · rintro rfl
      exact .worded hmessage

/-- What is told of a failure: what it was raised from, if anything. -/
inductive ToldAs (failure : Failure) : String → Prop where
  | cause {cause : Failure} {text : String} (raised : failure.RaisedFrom cause)
      (described : cause.Described text) : ToldAs failure text
  | itself {text : String} (uncaused : ∀ cause, ¬ failure.RaisedFrom cause)
      (described : failure.Described text) : ToldAs failure text

theorem toldAs_iff : ToldAs failure text ↔ (failure.cause?.getD failure).describe = text := by
  constructor
  · rintro (⟨raised, described⟩ | ⟨uncaused, described⟩)
    · rw [raisedFrom_iff.mp raised]
      exact described_iff.mp described
    · have hnone : failure.cause? = none :=
        Option.eq_none_iff_forall_ne_some.mpr fun cause hcause =>
          uncaused cause (raisedFrom_iff.mpr hcause)
      rw [hnone]
      exact described_iff.mp described
  · intro h
    cases hcause : failure.cause? with
    | some cause =>
        rw [hcause] at h
        exact .cause (raisedFrom_iff.mpr hcause) (described_iff.mpr h)
    | none =>
        rw [hcause] at h
        refine .itself (fun cause hraised => ?_) (described_iff.mpr h)
        cases hcause.symm.trans (raisedFrom_iff.mp hraised)

/-- The transport failure that a request is given up with, by what went wrong: an expired wait
and what the network raises are wrapped, and the library's own failures are what they are. -/
inductive CaughtAs (failure : Failure) : Failure → Prop where
  | expired (expired : failure.kind.isTimeout = true) : CaughtAs failure (.requestTimedOut failure)
  | network (network : failure.kind.isNetwork = true) (text : failure.textFault? = none) :
      CaughtAs failure (.transport failure)
  | own (own : failure.kind.isTransport = true) : CaughtAs failure failure

theorem kind_apart (kind : Kind) : (kind.isNetwork = true → kind.isTimeout = false)
    ∧ (kind.isTransport = true → kind.isTimeout = false ∧ kind.isNetwork = false) := by
  cases kind with
  | other name => exact ⟨fun _ => rfl, nofun⟩
  | _ => exact ⟨by decide, by decide⟩

/-- What goes wrong with a text is no transport failure. -/
theorem unwritable_of_textFault {fault : Failure} (h : failure.textFault? = some fault) :
    Unwritable fault := by
  have hargs {args : List Value} (hfault : textFault?.fault? args = some fault) :
      Unwritable fault := by
    unfold textFault?.fault? at hfault
    split at hfault
    · cases hfault
    · rename_i hshown
      cases hfault
      exact Value.unwritable_shownWithin hshown
  cases failure with
  | raised kind args => exact hargs h
  | raisedOn kind number text files => exact hargs h
  | _ => cases h

theorem guarded_of_caughtAs (h : CaughtAs failure seen) :
    failure.guarded = seen ∧ seen.isTransport = true := by
  unfold guarded
  cases h with
  | expired expired => exact ⟨if_pos expired, rfl⟩
  | network network text =>
      have htimeout := (kind_apart failure.kind).1 network
      rw [htimeout, if_neg Bool.false_ne_true, if_pos network, text]
      exact ⟨rfl, rfl⟩
  | own own =>
      obtain ⟨htimeout, hnetwork⟩ := (kind_apart failure.kind).2 own
      rw [htimeout, hnetwork, if_neg Bool.false_ne_true, if_neg Bool.false_ne_true]
      exact ⟨rfl, own⟩

theorem caughtAs_guarded (h : failure.guarded.isTransport = true) :
    CaughtAs failure failure.guarded := by
  unfold guarded at h ⊢
  by_cases htimeout : failure.kind.isTimeout = true
  · rw [if_pos htimeout]
    exact .expired htimeout
  · rw [if_neg htimeout] at h ⊢
    by_cases hnetwork : failure.kind.isNetwork = true
    · rw [if_pos hnetwork] at h ⊢
      cases htext : failure.textFault? with
      | none => exact .network hnetwork htext
      | some fault =>
          rw [htext] at h
          cases unwritable_of_textFault htext <;> cases h
    · rw [if_neg hnetwork] at h ⊢
      exact .own h

end Failure

namespace Dispatch

variable {journal : Journal Reply} {text : String}

/-- What the line of a request says that ended like this. -/
inductive Tells : Verdict Reply → String → Prop where
  | body (reply : Reply) : Tells (.ok reply) (String.ofList (Text.Utf8.decodeLossy reply.content))
  | failure {failure seen : Failure} {text : String} (caught : failure.CaughtAs seen)
      (told : seen.ToldAs text) : Tells (.failed failure) text

/-- A request ends as it is meant to: with a response, or it is given up with a transport
failure. -/
inductive Ends : Verdict Reply → Prop where
  | response (reply : Reply) : Ends (.ok reply)
  | givenUp {failure seen : Failure} (caught : failure.CaughtAs seen) : Ends (.failed failure)

theorem Tells.ends {verdict : Verdict Reply} (h : Tells verdict text) : Ends verdict := by
  cases h with
  | body reply => exact .response reply
  | failure caught told => exact .givenUp caught

theorem ends_iff : Ends journal.verdict
    ↔ ∃ conclusion, Dispatcher.conclusion journal = .ok conclusion := by
  unfold Dispatcher.conclusion
  cases journal.verdict with
  | ok reply => exact iff_of_true (.response reply) ⟨_, rfl⟩
  | waiting => exact iff_of_false nofun nofun
  | failed failure =>
      constructor
      · rintro ⟨⟩
        rename_i seen caught
        obtain ⟨rfl, htransport⟩ := Failure.guarded_of_caughtAs caught
        exact ⟨_, if_pos htransport⟩
      · rintro ⟨conclusion, hconclusion⟩
        simp only at hconclusion
        split at hconclusion
        · rename_i htransport
          exact .givenUp (Failure.caughtAs_guarded htransport)
        · cases hconclusion

/-- The lines are written as they are meant to be. -/
theorem tells_iff {conclusion : Conclusion} (h : Dispatcher.conclusion journal = .ok conclusion) :
    Tells journal.verdict text ↔ conclusion.text = text := by
  unfold Dispatcher.conclusion at h
  cases hverdict : journal.verdict with
  | ok reply =>
      rw [hverdict] at h
      cases h
      constructor
      · rintro ⟨⟩
        rfl
      · rintro rfl
        exact .body reply
  | waiting =>
      rw [hverdict] at h
      cases h
  | failed failure =>
      simp only [hverdict] at h
      split at h
      · rename_i htransport
        cases h
        rw [Conclusion.text, ← Failure.toldAs_iff]
        constructor
        · rintro (_ | ⟨caught, told⟩)
          obtain ⟨rfl, -⟩ := Failure.guarded_of_caughtAs caught
          exact told
        · exact .failure (Failure.caughtAs_guarded htransport)
      · cases h

/-- What ends as it is meant to is told of in one way. -/
theorem Ends.tells (h : Ends journal.verdict) : ∃! text, Tells journal.verdict text := by
  obtain ⟨conclusion, hconclusion⟩ := ends_iff.mp h
  exact ⟨conclusion.text, (tells_iff hconclusion).mpr rfl, fun text htext =>
    ((tells_iff hconclusion).mp htext).symm⟩

/-- A body that is a text is told as that text. -/
theorem tells_of_encode {reply : Reply} (h : reply.content = Text.Utf8.encode text.toList) :
    Tells (.ok reply) text := by
  have hbody := Tells.body reply
  rwa [h, Text.Utf8.decodeLossy_encode, String.ofList_toList] at hbody

end Dispatch

end Courier
