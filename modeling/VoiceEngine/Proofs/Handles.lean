import Mathlib.Algebra.Group.Int.Defs
import Mathlib.Data.List.Forall2
import VoiceEngine.Handle
import VoiceEngine.Proofs.Stored

/-!
# A handle acts for its engine

A caller behind a handle knows machine integers and addresses; an engine knows counts, rates,
effects and frames. `Request.Means` says what a request stands for, one call on the engine or one
fault, without saying how it is read. The two sides check different things: an engine never sees a
rate below zero, and a handle does not know which rates are supported.

A handle then carries out what its requests mean. A request that means a fault leaves the engine as
it is; one that means a call is answered with the code of what the engine answers and leaves the
engine as the call leaves it. Both are shown for one request, and by induction on the requests for
every run from the creation on.

The buffer of a capture lies with the caller. The engine works on a copy, which it may already have
mixed down when a stage refuses, and only the copy of a frame that was taken is written back. It can
be shorter than the buffer, and the rest of the buffer stays.
-/

namespace VoiceEngine

/-- A number that a machine integer holds. -/
def IsMachineInteger (number : Int) : Prop := -2 ^ 31 ≤ number ∧ number < 2 ^ 31

instance (number : Int) : Decidable (IsMachineInteger number) := by
  unfold IsMachineInteger
  infer_instance

/-- A machine integer that is not negative is the value of an unsigned word. -/
theorem IsMachineInteger.exists_word {number : Int} (range : IsMachineInteger number)
    (count : 0 ≤ number) : ∃ word : UInt32, number = word.toNat := by
  have small : number.toNat < 2 ^ 32 := by
    have := range.2
    omega
  refine ⟨.ofNat number.toNat, ?_⟩
  rw [UInt32.toNat_ofNat_of_lt' small, Int.toNat_of_nonneg count]

namespace EffectKind

/-- The number of an effect. -/
def number : EffectKind → Int
  | echoCanceller => 0
  | mobileEchoControl => 1
  | gainControl => 2
  | highPass => 3
  | levelMeter => 4
  | noiseSuppressor => 5
  | voiceDetector => 6

/-- An effect is found by its number and by no other. -/
theorem ofNumber?_eq_some_iff {asked : Int} {kind : EffectKind} :
    ofNumber? asked = some kind ↔ asked = kind.number := by
  constructor
  · intro found
    unfold ofNumber? at found
    split at found
    case isTrue => cases found
    case isFalse notNegative =>
      have inside : asked.toNat < 7 := (List.getElem?_eq_some_iff.mp found).1
      have placed : ∀ position : Fin 7, all[position.val]? = some kind →
          (position.val : Int) = kind.number := by
        cases kind <;> decide
      rw [← placed ⟨asked.toNat, inside⟩ found]
      exact (Int.toNat_of_nonneg (Int.not_lt.mp notNegative)).symm
  · rintro rfl
    cases kind <;> rfl

/-- No effect is found by a number that no effect has. -/
theorem ofNumber?_eq_none {asked : Int} (unknown : ∀ kind : EffectKind, asked ≠ kind.number) :
    ofNumber? asked = none :=
  Option.eq_none_iff_forall_ne_some.mpr fun kind found =>
    unknown kind (ofNumber?_eq_some_iff.mp found)

end EffectKind

section Counts

variable (fault : Fault)

/-- A count is read as itself. -/
theorem count?_natCast (count : Nat) : count? fault count = .ok count := rfl

variable {number : Int}

/-- A negative number is no count. -/
theorem count?_of_neg (negative : number < 0) : count? fault number = .error fault :=
  if_pos negative

/-- A number that is not negative is read as a count. -/
theorem count?_of_nonneg (count : 0 ≤ number) : count? fault number = .ok number.toNat :=
  if_neg (Int.not_lt.mpr count)

end Counts

/-- Wrapping the samples of a frame gives back the frame, unless it has no channel. -/
theorem Frame.ofInterleaved_data {frame : Frame} (wellFormed : frame.WellFormed)
    (sounding : 0 < frame.channelCount) :
    Frame.ofInterleaved frame.rate frame.channelCount frame.data = .ok frame := by
  have length : frame.data.length = frame.channelCount * frame.length := wellFormed
  have even : ¬ frame.data.length % frame.channelCount ≠ 0 := by simp [length]
  rw [Frame.ofInterleaved, if_neg (Nat.ne_of_gt sounding), if_neg even, length,
    Nat.mul_div_cancel_left frame.length sounding]

namespace AudioArgument

/-- Audio whose numbers fit machine integers, with a buffer that is at least as long as they say, or
with none. -/
structure InRange (audio : AudioArgument) : Prop where
  rate : IsMachineInteger audio.rate
  channels : IsMachineInteger audio.channels
  length : IsMachineInteger audio.length
  filled : ∀ samples, audio.buffer = some samples →
    audio.channels.toNat * audio.length.toNat ≤ samples.length

/-- Audio holds a frame that has a channel, if its numbers are those of the frame and its buffer
begins with the samples of the frame. -/
structure Holds (audio : AudioArgument) (frame : Frame) : Prop where
  rate : audio.rate = frame.rate.toNat
  channels : audio.channels = frame.channelCount
  length : audio.length = frame.length
  sounding : 0 < frame.channelCount
  wellFormed : frame.WellFormed
  start : ∃ samples, audio.buffer = some samples ∧ frame.data <+: samples

/-- Why audio holds no frame. Of several reasons the first one counts, in the order of the buffer,
the rate, the channels and the length; that there is no channel at all comes last. -/
inductive Refused (audio : AudioArgument) : Fault → Prop
  | missing (absent : audio.buffer = none) : Refused audio .nullPointer
  | negativeRate (present : audio.buffer ≠ none) (negative : audio.rate < 0) :
    Refused audio .badSampleRate
  | negativeChannels (present : audio.buffer ≠ none) (rate : 0 ≤ audio.rate)
    (negative : audio.channels < 0) : Refused audio .badChannelCount
  | negativeLength (present : audio.buffer ≠ none) (rate : 0 ≤ audio.rate)
    (channels : 0 ≤ audio.channels) (negative : audio.length < 0) : Refused audio .badDataLength
  | silent (present : audio.buffer ≠ none) (rate : 0 ≤ audio.rate)
    (zero : audio.channels = 0) (length : 0 ≤ audio.length) : Refused audio .badChannelCount

variable {audio : AudioArgument}

/-- The frame that audio holds is read from it. -/
theorem frame?_of_holds {frame : Frame} (holds : audio.Holds frame) : audio.frame? = .ok frame := by
  obtain ⟨samples, present, start⟩ := holds.start
  have length : frame.data.length = frame.channelCount * frame.length := holds.wellFormed
  have data : samples.take (frame.channelCount * frame.length) = frame.data := by
    rw [← length]
    exact (List.prefix_iff_eq_take.mp start).symm
  rw [frame?, present, holds.rate, holds.channels, holds.length]
  simp only [count?_natCast]
  change Frame.ofInterleaved (.ofNat frame.rate.toNat) frame.channelCount
    (samples.take (frame.channelCount * frame.length)) = .ok frame
  rw [UInt32.ofNat_toNat, data]
  exact Frame.ofInterleaved_data holds.wellFormed holds.sounding

/-- Audio that holds no frame is refused for the first reason. -/
theorem frame?_of_refused {fault : Fault} (refused : audio.Refused fault) :
    audio.frame? = .error fault := by
  rw [frame?]
  cases buffer : audio.buffer with
  | none =>
    cases refused with
    | missing => rfl
    | _ => contradiction
  | some samples =>
    cases refused with
    | missing absent =>
      rw [absent] at buffer
      cases buffer
    | negativeRate _ negative =>
      simp only [count?_of_neg _ negative]
      rfl
    | negativeChannels _ rate negative =>
      simp only [count?_of_nonneg _ rate, count?_of_neg _ negative]
      rfl
    | negativeLength _ rate channels negative =>
      simp only [count?_of_nonneg _ rate, count?_of_nonneg _ channels, count?_of_neg _ negative]
      rfl
    | silent _ rate zero length =>
      simp only [count?_of_nonneg _ rate, zero, count?_of_nonneg _ length]
      rfl

/-- Audio whose numbers are a rate, a positive count of channels and a length holds a frame. -/
theorem InRange.exists_holds (inRange : audio.InRange) {samples : List Sample}
    (present : audio.buffer = some samples) (rate : 0 ≤ audio.rate)
    (channels : 0 < audio.channels) (length : 0 ≤ audio.length) :
    ∃ frame, audio.Holds frame := by
  obtain ⟨word, same⟩ := inRange.rate.exists_word rate
  refine ⟨⟨word, audio.channels.toNat, audio.length.toNat,
    samples.take (audio.channels.toNat * audio.length.toNat)⟩, same, ?_, ?_, ?_, ?_, ?_⟩
  · exact (Int.toNat_of_nonneg (Int.le_of_lt channels)).symm
  · exact (Int.toNat_of_nonneg length).symm
  · show 0 < audio.channels.toNat
    omega
  · exact List.length_take_of_le (inRange.filled samples present)
  · exact ⟨samples, present, List.take_prefix _ _⟩

/-- Audio holds a frame or is refused. -/
theorem InRange.holds_or_refused (inRange : audio.InRange) :
    (∃ frame, audio.Holds frame) ∨ ∃ fault, audio.Refused fault := by
  cases buffer : audio.buffer with
  | none => exact .inr ⟨_, .missing buffer⟩
  | some samples =>
    have present : audio.buffer ≠ none := by simp [buffer]
    by_cases rate : audio.rate < 0
    · exact .inr ⟨_, .negativeRate present rate⟩
    rw [Int.not_lt] at rate
    by_cases channels : audio.channels < 0
    · exact .inr ⟨_, .negativeChannels present rate channels⟩
    rw [Int.not_lt] at channels
    by_cases length : audio.length < 0
    · exact .inr ⟨_, .negativeLength present rate channels length⟩
    rw [Int.not_lt] at length
    by_cases zero : audio.channels = 0
    · exact .inr ⟨_, .silent present rate zero length⟩
    · exact .inl (inRange.exists_holds buffer rate (by omega) length)

end AudioArgument

namespace Request

/-- A request whose numbers fit machine integers and whose buffer is as long as it says. -/
def InRange : Request → Prop
  | restart => True
  | setRate hz => IsMachineInteger hz
  | setChannels input output => IsMachineInteger input ∧ IsMachineInteger output
  | setReverseChannels channels => IsMachineInteger channels
  | reportDelay ms => IsMachineInteger ms
  | changeId id => IsMachineInteger id
  | enable effect _ => IsMachineInteger effect
  | capture audio => audio.InRange
  | render audio => audio.InRange
  | record _ => True
  | stopRecording => True

/-- What a request stands for: a call on the engine, or the fault that it is refused with. -/
inductive Means : Request → Except Fault Call → Prop
  | restart : Means .restart (.ok .restart)
  | setRate (hz : UInt32) : Means (.setRate hz.toNat) (.ok (.setRate hz))
  | setChannels (input output : Nat) :
    Means (.setChannels input output) (.ok (.setChannels input output))
  | setReverseChannels (channels : Nat) :
    Means (.setReverseChannels channels) (.ok (.setReverseChannels channels))
  | reportDelay (ms : Int) : Means (.reportDelay ms) (.ok (.reportDelay ms))
  | changeId (id : Int) : Means (.changeId id) (.ok (.changeId id))
  | enable (kind : EffectKind) (enabled : Bool) :
    Means (.enable kind.number enabled) (.ok (.enable kind enabled))
  | capture {audio : AudioArgument} {frame : Frame} (holds : audio.Holds frame) :
    Means (.capture audio) (.ok (.capture frame))
  | render {audio : AudioArgument} {frame : Frame} (holds : audio.Holds frame) :
    Means (.render audio) (.ok (.render frame))
  | record (name : String) (opened : Except String Trace.Sink) :
    Means (.record (.path name opened)) (.ok (.recordFile name opened))
  | stopRecording : Means .stopRecording (.ok .stopRecording)
  | negativeRate {hz : Int} (negative : hz < 0) : Means (.setRate hz) (.error .badParameter)
  | negativeChannels {input output : Int} (negative : input < 0 ∨ output < 0) :
    Means (.setChannels input output) (.error .badParameter)
  | negativeReverseChannels {channels : Int} (negative : channels < 0) :
    Means (.setReverseChannels channels) (.error .badParameter)
  | unknownEffect {effect : Int} (unknown : ∀ kind : EffectKind, effect ≠ kind.number)
    (enabled : Bool) : Means (.enable effect enabled) (.error .badParameter)
  | captureRefused {audio : AudioArgument} {fault : Fault} (refused : audio.Refused fault) :
    Means (.capture audio) (.error fault)
  | renderRefused {audio : AudioArgument} {fault : Fault} (refused : audio.Refused fault) :
    Means (.render audio) (.error fault)
  | missingPath : Means (.record .missing) (.error .nullPointer)
  | malformedPath : Means (.record .malformed) (.error .file)

variable {request : Request}

/-- A request is read as what it means, so it means one thing only. -/
theorem call?_of_means {meaning : Except Fault Call} (means : request.Means meaning) :
    request.call? = meaning := by
  cases means with
  | setRate hz =>
    simp only [call?, count?_natCast, Except.map, UInt32.ofNat_toNat]
  | enable kind enabled =>
    rw [call?, EffectKind.ofNumber?_eq_some_iff.mpr rfl]
  | capture holds =>
    rw [call?, AudioArgument.frame?_of_holds holds]
    rfl
  | render holds =>
    rw [call?, AudioArgument.frame?_of_holds holds]
    rfl
  | negativeRate negative =>
    rw [call?, count?_of_neg _ negative]
    rfl
  | @negativeChannels input output negative =>
    rw [call?]
    by_cases first : input < 0
    · rw [count?_of_neg _ first]
      rfl
    · rw [count?_of_nonneg _ (Int.not_lt.mp first), count?_of_neg _ (negative.resolve_left first)]
      rfl
  | negativeReverseChannels negative =>
    rw [call?, count?_of_neg _ negative]
    rfl
  | unknownEffect unknown enabled =>
    rw [call?, EffectKind.ofNumber?_eq_none unknown]
  | captureRefused refused =>
    rw [call?, AudioArgument.frame?_of_refused refused]
    rfl
  | renderRefused refused =>
    rw [call?, AudioArgument.frame?_of_refused refused]
    rfl
  | _ => rfl

/-- Every request in range means something. A case with a number asks whether it stands for a value
of the engine or is refused before it gets there, and a case with audio whether that holds a frame.
-/
theorem InRange.exists_means (inRange : request.InRange) : ∃ meaning, request.Means meaning := by
  cases request with
  | restart => exact ⟨_, .restart⟩
  | setRate hz =>
    by_cases negative : hz < 0
    · exact ⟨_, .negativeRate negative⟩
    · obtain ⟨rate, rfl⟩ := IsMachineInteger.exists_word inRange (Int.not_lt.mp negative)
      exact ⟨_, .setRate rate⟩
  | setChannels input output =>
    by_cases negative : input < 0 ∨ output < 0
    · exact ⟨_, .negativeChannels negative⟩
    · obtain ⟨input, rfl⟩ := Int.eq_ofNat_of_zero_le (a := input) (by omega)
      obtain ⟨output, rfl⟩ := Int.eq_ofNat_of_zero_le (a := output) (by omega)
      exact ⟨_, .setChannels input output⟩
  | setReverseChannels channels =>
    by_cases negative : channels < 0
    · exact ⟨_, .negativeReverseChannels negative⟩
    · obtain ⟨channels, rfl⟩ := Int.eq_ofNat_of_zero_le (Int.not_lt.mp negative)
      exact ⟨_, .setReverseChannels channels⟩
  | reportDelay ms => exact ⟨_, .reportDelay ms⟩
  | changeId id => exact ⟨_, .changeId id⟩
  | enable effect enabled =>
    by_cases known : ∃ kind : EffectKind, effect = kind.number
    · obtain ⟨kind, rfl⟩ := known
      exact ⟨_, .enable kind enabled⟩
    · exact ⟨_, .unknownEffect (not_exists.mp known) enabled⟩
  | capture audio =>
    rcases inRange.holds_or_refused with ⟨frame, holds⟩ | ⟨fault, refused⟩
    · exact ⟨_, .capture holds⟩
    · exact ⟨_, .captureRefused refused⟩
  | render audio =>
    rcases inRange.holds_or_refused with ⟨frame, holds⟩ | ⟨fault, refused⟩
    · exact ⟨_, .render holds⟩
    · exact ⟨_, .renderRefused refused⟩
  | record path =>
    cases path with
    | missing => exact ⟨_, .missingPath⟩
    | malformed => exact ⟨_, .malformedPath⟩
    | path name opened => exact ⟨_, .record name opened⟩
  | stopRecording => exact ⟨_, .stopRecording⟩

/-- A call that a request means hands over a frame with exactly the samples that it announces. -/
theorem wellFormed_of_means {call : Call} (means : request.Means (.ok call)) : call.WellFormed := by
  cases means with
  | capture holds => exact holds.wellFormed
  | render holds => exact holds.wellFormed
  | _ => trivial

/-- A request that needs an address which is missing. -/
def LacksAddress : Request → Prop
  | capture audio => audio.buffer = none
  | render audio => audio.buffer = none
  | record path => path = .missing
  | _ => False

/-- A request that lacks an address means that one is missing. -/
theorem means_of_lacksAddress (lacks : request.LacksAddress) :
    request.Means (.error .nullPointer) := by
  cases request with
  | capture audio => exact .captureRefused (.missing lacks)
  | render audio => exact .renderRefused (.missing lacks)
  | record path =>
    cases lacks
    exact .missingPath
  | _ => exact lacks.elim

end Request

/-- The code of a result of the engine: zero for an answer, and that of the fault otherwise. -/
def resultCode {Answer : Type} : Except Fault Answer → Int
  | .ok _ => 0
  | .error fault => fault.code

namespace Status

/-- The tables of statuses and of faults agree. -/
theorem code_some (fault : Fault) : Status.code (some fault) = fault.code := by
  cases fault <;> rfl

/-- The status of a result has the code of the result. -/
theorem code_ofResult {Answer : Type} (result : Except Fault Answer) :
    (Status.ofResult result).code = resultCode result := by
  cases result with
  | ok answer => rfl
  | error fault => exact code_some fault

/-- A status has the code zero when there is no fault, and only then. -/
theorem code_eq_zero_iff {status : Status} : status.code = 0 ↔ status = none := by
  cases status with
  | none => exact ⟨fun _ => rfl, fun _ => rfl⟩
  | some fault => cases fault <;> decide

end Status

/-- The calls among what several requests mean. -/
def callsOf (meanings : List (Except Fault Call)) : List Call := meanings.filterMap Except.toOption

/-- Requests mean well-formed calls. -/
theorem wellFormed_callsOf {requests : List Request} {meanings : List (Except Fault Call)}
    (means : List.Forall₂ Request.Means requests meanings) :
    ∀ call ∈ callsOf meanings, call.WellFormed := by
  induction means with
  | nil => exact List.forall_mem_nil _
  | @cons request meaning requests meanings first _ inductionHypothesis =>
    cases meaning with
    | error fault => exact inductionHypothesis
    | ok call =>
      exact List.forall_mem_cons.mpr ⟨Request.wellFormed_of_means first, inductionHypothesis⟩

/-- The codes of what several requests mean, one after another. A fault has its own code and does
not reach the engine; a call has the code of its result. -/
def Engine.codes (engine : Engine) : List (Except Fault Call) → List Int
  | [] => []
  | .error fault :: meanings => fault.code :: engine.codes meanings
  | .ok call :: meanings =>
    let outcome := engine.perform call
    resultCode outcome.result :: outcome.state.codes meanings

namespace Handle

/-- Carries out requests one after another: the codes of how they ended, and the handle at the
end. -/
def run (handle : Handle) : List Request → List Int × Handle
  | [] => ([], handle)
  | request :: requests =>
    let response := handle.request request
    let (codes, final) := run response.handle requests
    (response.status.code :: codes, final)

section Requests

variable {engine : Engine} {request : Request}

/-- A request that means a fault ends with it and leaves the engine as it is. -/
theorem request_of_fault {fault : Fault} (means : request.Means (.error fault)) :
    Handle.request (some engine) request = { status := some fault, handle := some engine } := by
  rw [Handle.request, Request.call?_of_means means]

/-- A request that means a call ends as the call does and leaves the engine as the call leaves
it. -/
theorem request_of_call {call : Call} (means : request.Means (.ok call)) :
    Handle.request (some engine) request =
      { status := .ofResult (engine.perform call).result
        handle := some (engine.perform call).state
        frame := frameOfReply (engine.perform call).result
        notices := (engine.perform call).notices
        released := (engine.perform call).released } := by
  rw [Handle.request, Request.call?_of_means means]

/-- A run of requests goes as the run of the calls that they mean. -/
theorem run_of_means {requests : List Request} {meanings : List (Except Fault Call)}
    (means : List.Forall₂ Request.Means requests meanings) :
    Handle.run (some engine) requests =
      (engine.codes meanings, some (engine.run (callsOf meanings)).2) := by
  induction means generalizing engine with
  | nil => rfl
  | @cons request meaning requests meanings first _ inductionHypothesis =>
    cases meaning with
    | error fault =>
      -- The run of the calls has no step here, and the engine is the same before and after.
      rw [run, request_of_fault first]
      dsimp only
      rw [inductionHypothesis, Status.code_some]
      rfl
    | ok call =>
      rw [run, request_of_call first]
      dsimp only
      rw [inductionHypothesis, Status.code_ofResult]
      rfl

end Requests

section Buffers

/-- After a request that failed the buffer is as it was. -/
theorem writeBack_of_failed {handle : Handle} {request : Request}
    (failed : (handle.request request).status.code ≠ 0) (samples : List Sample) :
    writeBack (handle.request request) samples = samples := by
  -- What the engine made of its copy is not looked at: a failed request gives back no frame.
  have nothing : (handle.request request).frame = none := by
    rw [ne_eq, Status.code_eq_zero_iff] at failed
    cases handle with
    | none => rfl
    | some engine =>
      unfold Handle.request at failed ⊢
      cases meaning : request.call? with
      | error fault => rfl
      | ok call =>
        simp only [meaning] at failed ⊢
        cases result : (engine.perform call).result with
        | error fault => rfl
        | ok reply => exact absurd (by rw [result]; rfl) failed
  rw [writeBack, nothing]

variable {engine : Engine} {audio : AudioArgument} {frame : Frame} {samples : List Sample}

/-- The answer to a capture is the frame afterwards, unless it failed. -/
theorem capture_answer (engine : Engine) (frame : Frame) :
    (engine.perform (.capture frame)).result =
      (engine.capture frame).1.result.map fun _ => .frame (engine.capture frame).2 :=
  rfl

/-- A capture that succeeded took the frame that the audio holds. -/
theorem exists_taken (inRange : audio.InRange)
    (succeeded : (Handle.request (some engine) (.capture audio)).status.code = 0) :
    ∃ frame, audio.Holds frame ∧ (engine.capture frame).1.result = .ok () := by
  rw [Status.code_eq_zero_iff] at succeeded
  rcases inRange.holds_or_refused with ⟨frame, holds⟩ | ⟨fault, refused⟩
  · refine ⟨frame, holds, ?_⟩
    rw [request_of_call (.capture holds)] at succeeded
    rw [capture_answer] at succeeded
    cases result : (engine.capture frame).1.result with
    | ok answer => rfl
    | error fault =>
      rw [result] at succeeded
      cases succeeded
  · rw [request_of_fault (.captureRefused refused)] at succeeded
    cases succeeded

/-- A frame that was taken leaves with its length in every channel that leaves. -/
theorem length_of_taken (stored : engine.Stored) (holds : audio.Holds frame)
    (taken : (engine.capture frame).1.result = .ok ()) :
    (engine.capture frame).2.data.length = audio.length.toNat * engine.format.outputChannels := by
  obtain ⟨-, length, channels, wellFormed⟩ := stored.capture_frame holds.wellFormed taken
  rw [show (engine.capture frame).2.data.length = _ from wellFormed, channels, length,
    Nat.mul_comm, holds.length, Int.toNat_natCast]

/-- What leaves is no longer than what came, so there is room for it in the buffer. -/
theorem length_of_taken_le (stored : engine.Stored) (holds : audio.Holds frame)
    (present : audio.buffer = some samples) (taken : (engine.capture frame).1.result = .ok ()) :
    audio.length.toNat * engine.format.outputChannels ≤ samples.length := by
  obtain ⟨buffer, same, start⟩ := holds.start
  obtain rfl : samples = buffer := Option.some.inj (present.symm.trans same)
  obtain ⟨-, arriving, -⟩ := Engine.frameFault_eq_none_iff.mp (stored.capture_ok_iff.mp taken).1
  calc
    audio.length.toNat * engine.format.outputChannels
      = frame.length * engine.format.outputChannels := by rw [holds.length, Int.toNat_natCast]
    _ ≤ frame.length * frame.channelCount := by
      rw [arriving]
      exact Nat.mul_le_mul_left _ stored.supported.2.1
    _ = frame.data.length := by
      rw [Nat.mul_comm]
      exact holds.wellFormed.symm
    _ ≤ samples.length := start.length_le

/-- A frame that was taken is written over the start of the buffer. -/
theorem writeBack_of_taken (holds : audio.Holds frame)
    (taken : (engine.capture frame).1.result = .ok ()) (samples : List Sample) :
    writeBack (Handle.request (some engine) (.capture audio)) samples =
      (engine.capture frame).2.data ++ samples.drop (engine.capture frame).2.data.length := by
  rw [request_of_call (.capture holds), capture_answer, taken]
  rfl

end Buffers

/-- What a handle says about an effect: no unknown number belongs to an enabled effect. -/
theorem isEnabled_iff (engine : Engine) (effect : Int) :
    isEnabled (some engine) effect = true ↔
      ∃ kind : EffectKind, effect = kind.number ∧ engine.rack.isEnabled kind = true := by
  cases found : EffectKind.ofNumber? effect with
  | none =>
    simp only [isEnabled, found, Bool.false_eq_true, false_iff]
    rintro ⟨kind, same, -⟩
    rw [EffectKind.ofNumber?_eq_some_iff.mpr same] at found
    cases found
  | some kind =>
    obtain rfl := EffectKind.ofNumber?_eq_some_iff.mp found
    simp only [isEnabled, found]
    constructor
    · intro on
      exact ⟨kind, rfl, on⟩
    · rintro ⟨other, same, on⟩
      rw [EffectKind.ofNumber?_eq_some_iff.mpr same] at found
      cases found
      exact on

/-- A handle acts for an engine. A request that means a call does what the call does; one that means
a fault only ends with it, and its code is not zero. The buffer of a capture that failed keeps every
sample. The buffer of one that succeeded begins with the processed frame, which has as many samples
as the channels that leave have together, and keeps the others. Questions are answered as the engine
answers them, and the counts and the rate fit machine integers. -/
structure ActsFor (handle : Handle) (engine : Engine) : Prop where
  leads : handle = some engine
  performs : ∀ request call, request.Means (.ok call) →
    let response := handle.request request
    let outcome := engine.perform call
    response.status = .ofResult outcome.result ∧
      response.status.code = resultCode outcome.result ∧
      response.handle = some outcome.state ∧
      response.notices = outcome.notices ∧ response.released = outcome.released
  refuses : ∀ request fault, request.Means (.error fault) →
    let response := handle.request request
    response = { status := some fault, handle } ∧ response.status.code = fault.code ∧
      fault.code ≠ 0
  keeps : ∀ audio samples, audio.buffer = some samples →
    let response := handle.request (.capture audio)
    response.status.code ≠ 0 → writeBack response samples = samples
  writes : ∀ audio samples, audio.InRange → audio.buffer = some samples →
    let response := handle.request (.capture audio)
    let written := audio.length.toNat * engine.format.outputChannels
    response.status.code = 0 → ∃ frame, audio.Holds frame ∧
      (engine.capture frame).1.result = .ok () ∧ written ≤ samples.length ∧
      (writeBack response samples).length = samples.length ∧
      (writeBack response samples).take written = (engine.capture frame).2.data ∧
      (writeBack response samples).drop written = samples.drop written
  reads : [handle.rate, handle.inputChannels, handle.outputChannels, handle.reverseChannels,
      handle.delayMs] =
    [(engine.format.rate.hz.toNat : Int), engine.format.inputChannels,
      engine.format.outputChannels, engine.format.reverseChannels, engine.delay.ms]
  fits : ∀ count ∈ [handle.rate, handle.inputChannels, handle.outputChannels,
    handle.reverseChannels], IsMachineInteger count
  enabled : ∀ effect, handle.isEnabled effect = true ↔
    ∃ kind : EffectKind, effect = kind.number ∧ engine.rack.isEnabled kind = true
  version : ∀ cells start,
    let written := VersionText.writeInto cells start
    handle.writeVersion (some cells) (some start) =
      (written.fault, some written.buffer, some written.position)

/-- Where the handle or an address is missing, a request is refused and changes nothing: not the
engine, no buffer, and neither the cells nor the position that the version is to be written to. Each
number of a missing engine is the code of that refusal, and none of its effects is enabled. -/
structure RefusesMissing (handle : Handle) : Prop where
  request : ∀ request : Request, handle = none ∨ request.LacksAddress →
    handle.request request = { status := some .nullPointer, handle } ∧
      ∀ samples, writeBack (handle.request request) samples = samples
  numbers : handle = none → ∀ answer ∈ [handle.rate, handle.inputChannels,
    handle.outputChannels, handle.reverseChannels, handle.delayMs], answer = Fault.nullPointer.code
  enabled : handle = none → ∀ effect, handle.isEnabled effect = false
  version : ∀ buffer position, handle = none ∨ buffer = none ∨ position = none →
    handle.writeVersion buffer position = (some .nullPointer, buffer, position)

/-- The handle to an engine whose storage is as its format asks acts for it. The shape of the
storage is needed for what is written back: a frame that is taken comes back no longer than it was,
so the caller has room for it. -/
theorem actsFor_of_stored {engine : Engine} (stored : engine.Stored) :
    ActsFor (some engine) engine where
  leads := rfl
  performs request call means := by
    rw [request_of_call means]
    exact ⟨rfl, Status.code_ofResult _, rfl, rfl, rfl⟩
  refuses request fault means := by
    intro response
    have refused : response = { status := some fault, handle := some engine } :=
      request_of_fault means
    refine ⟨refused, ?_, ?_⟩
    · rw [refused]
      exact Status.code_some fault
    · intro zero
      rw [← Status.code_some] at zero
      cases Status.code_eq_zero_iff.mp zero
  keeps audio samples present := fun failed => writeBack_of_failed failed samples
  writes audio samples inRange present := by
    intro response written succeeded
    obtain ⟨frame, holds, taken⟩ := exists_taken inRange succeeded
    have count := length_of_taken stored holds taken
    have after := writeBack_of_taken holds taken samples
    have room : written ≤ samples.length := length_of_taken_le stored holds present taken
    refine ⟨frame, holds, taken, room, ?_, ?_, ?_⟩
    · rw [after, List.length_append, List.length_drop, count, Nat.add_sub_cancel' room]
    · rw [after]
      exact List.take_left' count
    · rw [after, count]
      exact List.drop_left' count
  reads := rfl
  fits := by
    obtain ⟨-, fewer, few, -, reverse⟩ := stored.supported
    have rate : engine.format.rate.hz.toNat ≤ 32000 := by
      cases engine.format.rate <;> decide
    unfold maxChannels at few reverse
    simp only [List.forall_mem_cons, List.not_mem_nil, false_implies, implies_true, and_true,
      IsMachineInteger, Handle.rate, inputChannels, outputChannels, reverseChannels, number]
    omega
  enabled := isEnabled_iff engine
  version _ _ := rfl

/-- Every handle refuses a missing address. -/
theorem refusesMissing (handle : Handle) : handle.RefusesMissing where
  request request missing := by
    have refused : handle.request request = { status := some .nullPointer, handle } := by
      cases handle with
      | none => rfl
      | some engine =>
        exact request_of_fault (Request.means_of_lacksAddress (missing.resolve_left nofun))
    refine ⟨refused, fun samples => ?_⟩
    rw [refused]
    rfl
  numbers absent := by
    subst absent
    decide
  enabled absent effect := by
    subst absent
    rfl
  version buffer position missing := by
    cases handle with
    | none => rfl
    | some engine =>
      rcases missing with absent | rfl | rfl
      · cases absent
      · rfl
      · cases buffer <;> rfl

/-- Requests in range all mean something. -/
theorem exists_meanings {requests : List Request}
    (inRange : ∀ request ∈ requests, request.InRange) :
    ∃ meanings, List.Forall₂ Request.Means requests meanings := by
  induction requests with
  | nil => exact ⟨[], .nil⟩
  | cons request requests inductionHypothesis =>
    obtain ⟨first, later⟩ := List.forall_mem_cons.mp inRange
    obtain ⟨meaning, means⟩ := first.exists_means
    obtain ⟨meanings, laterMeans⟩ := inductionHypothesis later
    exact ⟨meaning :: meanings, .cons means laterMeans⟩

/-- A handle acts for its engine. Every run of requests from the creation on goes, code by code, as
the run of the calls that they mean, and at its end the handle acts for the engine that these calls
lead to. A missing address is refused there and by every other handle. -/
theorem acts_for_engine (id : Int) (requests : List Request)
    (inRange : ∀ request ∈ requests, request.InRange) :
    ∃ created meanings, (Engine.create { id }).1 = .ok created ∧
      List.Forall₂ Request.Means requests meanings ∧
      ((Handle.create id).run requests).1 = created.codes meanings ∧
      ((Handle.create id).run requests).2.ActsFor (created.run (callsOf meanings)).2 ∧
      ∀ handle : Handle, handle.RefusesMissing := by
  have made : (Engine.create { id }).1 = .ok (Engine.blank id {}) := rfl
  have start : Handle.create id = some (Engine.blank id {}) := rfl
  obtain ⟨meanings, means⟩ := exists_meanings inRange
  have reached : ((Engine.blank id {}).run (callsOf meanings)).2.Reachable :=
    ⟨{ id }, callsOf meanings, Engine.blank id {}, made, wellFormed_callsOf means, rfl⟩
  refine ⟨Engine.blank id {}, meanings, made, means, ?_, ?_, refusesMissing⟩
  · rw [start, run_of_means means]
  · rw [start, run_of_means means]
    exact actsFor_of_stored reached.stored

/-- Two channels of sixteen thousand samples a second, and one sample more than they need. -/
def stereoAudio : AudioArgument :=
  { buffer := some (List.replicate 321 7), rate := 16000, channels := 2, length := 160 }

/-- The frame that this audio holds. -/
def stereoFrame : Frame :=
  { rate := 16000, channelCount := 2, length := 160, data := List.replicate 320 7 }

/-- Requests for one channel out of two and for echo cancellation; before them a negative rate, an
effect that there is not, and a recording nowhere. -/
def mixedRequests : List Request :=
  [.setRate (-8000), .enable 7 true, .record .missing, .setChannels 2 1, .enable 0 true]

/-- The engine after the last two of these requests, the only ones that reach it. -/
def mixedEngine : Engine :=
  ((Engine.blank 3 {}).run [.setChannels 2 1, .enable .echoCanceller true]).2

/-- Echo cancellation refuses a frame for which no delay was reported. By then the engine has mixed
down its own copy; the buffer stays as it was. -/
theorem acts_for_engine_mixed :
    let run := (Handle.create 3).run mixedRequests
    let response := run.2.request (.capture stereoAudio)
    (∀ request ∈ mixedRequests, request.InRange) ∧ run.1 = [-6, -6, -5, 0, 0] ∧
      run.2.ActsFor mixedEngine ∧ stereoAudio.Holds stereoFrame ∧
      (mixedEngine.capture stereoFrame).2.channelCount = 1 ∧ response.status.code = -11 ∧
      writeBack response (List.replicate 321 7) = List.replicate 321 7 := by
  intro run response
  have inRange : ∀ request ∈ mixedRequests, request.InRange := by
    simp only [mixedRequests, List.forall_mem_cons, List.not_mem_nil, false_implies, implies_true,
      Request.InRange, true_and, and_true]
    decide
  have starts : List.replicate 320 (7 : Sample) <+: List.replicate 321 7 :=
    ⟨List.replicate 1 7, List.replicate_append_replicate⟩
  have holds : stereoAudio.Holds stereoFrame :=
    ⟨rfl, rfl, rfl, by decide, List.length_replicate, List.replicate 321 7, rfl, starts⟩
  have mixed : (mixedEngine.capture stereoFrame).2.channelCount = 1 := by decide +kernel
  have failed : response.status.code = -11 := by decide +kernel
  obtain ⟨_, _, _, _, _, acts, -⟩ := acts_for_engine 3 mixedRequests inRange
  have same : _ = mixedEngine := (Option.some.inj acts.leads).symm
  rw [same] at acts
  have kept : response.status.code ≠ 0 → writeBack response _ = _ :=
    acts.keeps stereoAudio (List.replicate 321 7) rfl
  refine ⟨inRange, by decide +kernel, acts, holds, mixed, failed, kept ?_⟩
  rw [failed]
  decide

end Handle

end VoiceEngine
