import Mathlib.Logic.Function.Iterate
import VoiceEngine.Proofs.SplitFeedback

/-!
# The high-pass filter removes the constant part

Once the input of the filter stays constant, the inputs cancel and only the past accumulators are
left. Rounding always takes from the feedback, never more than the whole remainder, so in the end
it pulls the accumulators to some level below zero and may keep them moving around it. That level
is far from small: for the wide band it lies more than a thousand units down. A sample however has
4096 units, and what is emitted is rounded to nearest.

To see that the movement stays within half a sample, the accumulators are measured from the middle
of the levels that rounding can pull to. Measured so, what rounding takes is the same amount to
either side, and the energy of the past, with the poles it has, loses more in every step than
rounding can bring, down to an energy at which nothing but zero is emitted. From the loudest past
that the stored words can hold, this takes a fixed number of steps.
-/

namespace VoiceEngine.HighPass

namespace Filter

/-- No high word of a signal is cut off: not that of the accumulator which the filter has for any
sample, after it has run over the samples before. -/
def Untruncated (filter : Filter) (signal : List Sample) : Prop :=
  ∀ before sample after, signal = before ++ sample :: after →
    (highWord ((filter.run before).2.accumulate sample)).toInt =
      (filter.run before).2.accumulate sample / 8192

/-- Nothing is cut off of a signal when nothing is for its first sample and for the others. -/
theorem untruncated_cons (filter : Filter) (sample : Sample) (rest : List Sample) :
    filter.Untruncated (sample :: rest) ↔
      (highWord (filter.accumulate sample)).toInt = filter.accumulate sample / 8192 ∧
        (filter.advance sample).Untruncated rest := by
  constructor
  · intro untruncated
    refine ⟨untruncated [] sample rest rfl, ?_⟩
    rintro before next after rfl
    exact untruncated (sample :: before) next after rfl
  · rintro ⟨now, later⟩ before next after cut
    cases before with
    | nil =>
      obtain ⟨rfl, -⟩ := List.cons.inj cut
      exact now
    | cons first before =>
      obtain ⟨rfl, rfl⟩ := List.cons.inj cut
      exact later before next after rfl

/-- A high word is not cut off exactly when its accumulator has 29 bits. -/
theorem highWord_exact_iff (accumulator : Int) :
    (highWord accumulator).toInt = accumulator / 8192 ↔ Storable accumulator := by
  constructor
  · intro exact
    have above := (highWord accumulator).le_toInt
    have below := (highWord accumulator).toInt_lt
    constructor
    · omega
    · omega
  · intro storable
    exact ((keeps_iff_storable accumulator).mpr storable).high

/-- High words that are not cut off are all that faithful feedback needs. -/
theorem untruncated_iff_faithful (filter : Filter) (signal : List Sample) :
    filter.Untruncated signal ↔ filter.Faithful signal := by
  induction signal generalizing filter with
  | nil => simp [Untruncated, Faithful]
  | cons sample rest inductionHypothesis =>
    rw [untruncated_cons, highWord_exact_iff, inductionHypothesis]
    exact and_congr_left fun _ => (keeps_iff_storable (filter.accumulate sample)).symm

/-- An accumulator within half a sample of zero is emitted as zero. -/
theorem emit_of_small {accumulator : Int} (above : -2048 ≤ accumulator)
    (below : accumulator ≤ 2047) : emit accumulator = 0 := by
  have rounded : (Word.saturate32 (accumulator + 2048)).toInt = accumulator + 2048 := by
    rw [Word.toInt_saturate32, Word.clip]
    omega
  have quotient : Word.clip (-134217728) 134217727 (accumulator + 2048) / 4096 = 0 := by
    rw [Word.clip]
    omega
  simp only [emit, rounded, quotient]
  decide

end Filter

namespace Coefficients

/-- The part of a constant output that the feedback loses. -/
def leak (c : Coefficients) : Int := 4096 - c.a1 - c.a2

/-- An output measured from the middle of the levels that rounding can pull to. -/
def lift (c : Coefficients) (output : Int) : Int := 2 * c.leak * output + 8191

/-- A bound on the energy after one more step: the part that the poles leave of the energy before,
and what rounding can bring. The weight says how much of the bound is laid on rounding. -/
def calm (c : Coefficients) (weight energy : Int) : Int :=
  ((1 + weight) * (-c.a2 * energy) +
    weight * (1 + weight) * (c.a2 * c.a2 * ((c.leak * 8191) * (c.leak * 8191)))) / (weight * 4096)

/-- The energy of the loudest past that words can hold. -/
def loudest (c : Coefficients) : Int :=
  c.energy ((c.a1 - c.a2) * (2 * c.leak * 268435456 + 8191))
    (-c.a2 * (2 * c.leak * 268435456 + 8191))

end Coefficients

namespace Recurrence

variable {c : Coefficients} {state : Recurrence} {value : Sample}

/-- What the lifted past outputs add to the next one. -/
def liftedNear (c : Coefficients) (state : Recurrence) : Int :=
  c.a1 * c.lift state.output1 + c.a2 * c.lift state.output2

/-- What the lifted past outputs add to the one after the next. -/
def liftedFar (c : Coefficients) (state : Recurrence) : Int :=
  c.a2 * c.lift state.output1

/-- The energy that is left in the past outputs, measured from where rounding pulls to. -/
def swing (c : Coefficients) (state : Recurrence) : Int :=
  c.energy (state.liftedNear c) (state.liftedFar c)

/-- The last two inputs were the same value. -/
structure Steady (value : Sample) (state : Recurrence) : Prop where
  input1 : state.input1 = value.toInt
  input2 : state.input2 = value.toInt

/-- The same value once more leaves the inputs steady. -/
theorem Steady.advance (steady : state.Steady value) (c : Coefficients) :
    (state.advance c value).Steady value :=
  ⟨rfl, steady.input1⟩

/-- On a constant signal the inputs cancel, and only the feedback is left. -/
theorem Steady.accumulate_eq (steady : state.Steady value) (resonant : c.Resonant) :
    state.accumulate c value =
      2 * ((c.a1 * state.output1 + c.a2 * state.output2) / 8192) := by
  rw [accumulate, steady.input1, steady.input2, resonant.zero1, resonant.zero2]
  ring

/-- One step on a constant signal: measured from where rounding pulls to, the next output is what
the past adds and a pull to either side, and the past of the next step takes in that pull. -/
theorem Steady.exists_pull (steady : state.Steady value) (resonant : c.Resonant) :
    ∃ pull, |pull| ≤ 8191 ∧
      4096 * c.lift (state.accumulate c value) = state.liftedNear c + c.leak * pull ∧
      4096 * (state.advance c value).liftedNear c =
        c.a1 * state.liftedNear c + 4096 * state.liftedFar c + c.leak * pull * c.a1 ∧
      4096 * (state.advance c value).liftedFar c =
        c.a2 * state.liftedNear c + c.leak * pull * c.a2 := by
  have whole := Int.mul_ediv_add_emod (c.a1 * state.output1 + c.a2 * state.output2) 8192
  have lower := Int.emod_nonneg (c.a1 * state.output1 + c.a2 * state.output2)
    (by decide : (8192 : Int) ≠ 0)
  have upper := Int.emod_lt_of_pos (c.a1 * state.output1 + c.a2 * state.output2)
    (by decide : (0 : Int) < 8192)
  have lifted : 4096 * c.lift (state.accumulate c value) = state.liftedNear c +
      c.leak * (8191 - 2 * ((c.a1 * state.output1 + c.a2 * state.output2) % 8192)) := by
    rw [steady.accumulate_eq resonant]
    simp only [liftedNear, Coefficients.lift, Coefficients.leak]
    linear_combination 2 * (4096 - c.a1 - c.a2) * whole
  refine ⟨_, ?_, lifted, ?_, ?_⟩
  · rw [abs_le]
    omega
  · simp only [liftedFar]
    rw [liftedNear, Recurrence.advance]
    linear_combination c.a1 * lifted
  · rw [liftedFar, Recurrence.advance]
    linear_combination c.a2 * lifted

end Recurrence

namespace Coefficients

/-- An energy at which a filter is silent on a constant signal, and which it falls to. -/
structure Silence (c : Coefficients) (half : Nat) where
  energy : Int
  /-- An energy on the way. -/
  midway : Int
  /-- How much of the bound on one step is laid on rounding. -/
  weight : Int
  /-- What the past adds to the next output stays below it. -/
  reach : Int
  resonant : c.Resonant
  rises : 0 ≤ c.a1
  falls : c.a2 ≤ 0
  leaks : 0 < c.leak
  heavy : 0 < weight
  forward : 0 ≤ reach
  /-- A step does not lift the energy again. -/
  kept : c.calm weight energy ≤ energy
  /-- In the first half of the time even the loudest past falls to the energy on the way. -/
  slowing : (c.calm weight)^[half] c.loudest ≤ midway
  /-- In the second half the energy falls all the way. -/
  falling : (c.calm weight)^[half] midway ≤ energy
  /-- Within the energy the past reaches no further. -/
  held : 16384 * energy < (-16384 * c.a2 - c.a1 * c.a1) * (reach * reach)
  /-- The reach of the past and the pull of rounding stay within half a sample. -/
  room : reach + c.leak * 8191 ≤ 4096 * (4096 * c.leak - 8191)

variable {c : Coefficients} {half : Nat} {state : Recurrence} {value : Sample}

/-- More energy before a step bounds to more energy after it. -/
theorem Silence.calm_mono (silence : c.Silence half) {lower upper : Int} (ordered : lower ≤ upper) :
    c.calm silence.weight lower ≤ c.calm silence.weight upper := by
  have heavy := silence.heavy
  have decay : 0 ≤ (1 + silence.weight) * -c.a2 :=
    mul_nonneg (by positivity) (neg_nonneg.mpr silence.falls)
  have scaled := mul_le_mul_of_nonneg_left ordered decay
  refine Int.ediv_le_ediv (by positivity) ?_
  linarith

/-- Even the loudest past falls to the energy of silence in time. -/
theorem Silence.falls_from_loudest (silence : c.Silence half) :
    (c.calm silence.weight)^[half + half] c.loudest ≤ silence.energy := by
  have mono : Monotone (c.calm silence.weight) := fun _ _ => silence.calm_mono
  rw [Function.iterate_add_apply]
  exact (mono.iterate half silence.slowing).trans silence.falling

/-- A step on a constant signal leaves no more energy than accounted for. -/
theorem Silence.swing_advance_le (silence : c.Silence half) (steady : state.Steady value) :
    (state.advance c value).swing c ≤ c.calm silence.weight (state.swing c) := by
  obtain ⟨pull, bounded, -, near, far⟩ := steady.exists_pull silence.resonant
  have split := silence.resonant.energy_add_le silence.weight
    (c.a1 * state.liftedNear c + 4096 * state.liftedFar c) (c.a2 * state.liftedNear c)
    (c.leak * pull * c.a1) (c.leak * pull * c.a2)
  rw [← near, ← far, energy_scale, energy_decay, energy_rounding] at split
  have pulled : (c.leak * pull) * (c.leak * pull) ≤ (c.leak * 8191) * (c.leak * 8191) := by
    have leaks := silence.leaks
    rw [← abs_mul_abs_self, abs_mul, abs_of_pos leaks]
    exact mul_self_le_mul_self (by positivity) (mul_le_mul_of_nonneg_left bounded leaks.le)
  have heavy := silence.heavy
  have brought := mul_le_mul_of_nonneg_left pulled
    (mul_nonneg (by positivity : 0 ≤ silence.weight * (1 + silence.weight)) (mul_self_nonneg c.a2))
  refine Int.le_ediv_of_mul_le (by positivity) ?_
  simp only [Recurrence.swing] at split ⊢
  linarith

/-- At the energy of silence a constant signal is emitted as zero. -/
theorem Silence.emit_eq_zero (silence : c.Silence half) (steady : state.Steady value)
    (quiet : state.swing c ≤ silence.energy) : Filter.emit (state.accumulate c value) = 0 := by
  obtain ⟨pull, bounded, lifted, -, -⟩ := steady.exists_pull silence.resonant
  have spread : 0 < -16384 * c.a2 - c.a1 * c.a1 := by
    have poles := silence.resonant.poles
    linarith
  have inside : state.liftedNear c * state.liftedNear c < silence.reach * silence.reach := by
    have bound := c.near_le_energy (state.liftedNear c) (state.liftedFar c)
    have held := silence.held
    simp only [Recurrence.swing] at quiet
    exact lt_of_mul_lt_mul_left (by linarith) spread.le
  have reached : |state.liftedNear c| < silence.reach := by
    rw [← abs_mul_abs_self] at inside
    exact lt_of_mul_self_lt_mul_self₀ silence.forward inside
  have leaks := silence.leaks
  have pulled : |c.leak * pull| ≤ c.leak * 8191 := by
    rw [abs_mul, abs_of_pos leaks]
    exact mul_le_mul_of_nonneg_left bounded leaks.le
  have room := silence.room
  rw [abs_lt] at reached
  rw [abs_le] at pulled
  simp only [lift] at lifted
  have above : c.leak * -2048 ≤ c.leak * state.accumulate c value := by linarith
  have below : c.leak * state.accumulate c value < c.leak * 2048 := by linarith
  have lower := le_of_mul_le_mul_left above leaks
  have upper := lt_of_mul_lt_mul_left below leaks.le
  exact Filter.emit_of_small lower (by omega)

/-- Larger numbers have more energy. -/
theorem Silence.energy_le (silence : c.Silence half) {near far nearBound farBound : Int}
    (nearSmall : |near| ≤ nearBound) (farSmall : |far| ≤ farBound) :
    c.energy near far ≤ c.energy nearBound farBound := by
  have rises := silence.rises
  have falls := silence.falls
  have nearSquare := mul_self_le_mul_self (abs_nonneg near) nearSmall
  have farSquare := mul_self_le_mul_self (abs_nonneg far) farSmall
  have product : near * far ≤ nearBound * farBound := by
    refine (le_abs_self _).trans ?_
    rw [abs_mul]
    exact mul_le_mul nearSmall farSmall (abs_nonneg far) ((abs_nonneg near).trans nearSmall)
  rw [abs_mul_abs_self] at nearSquare farSquare
  have first := mul_le_mul_of_nonneg_left nearSquare (neg_nonneg.mpr falls)
  have second := mul_le_mul_of_nonneg_left product rises
  simp only [Coefficients.energy]
  linarith

/-- No past that words can hold has more energy than the loudest. -/
theorem Silence.swing_le_loudest (silence : c.Silence half)
    (storable1 : Filter.Storable state.output1) (storable2 : Filter.Storable state.output2) :
    state.swing c ≤ c.loudest := by
  have rises := silence.rises
  have falls := neg_nonneg.mpr silence.falls
  have leaks := silence.leaks
  have lifted : ∀ {output}, Filter.Storable output →
      |c.lift output| ≤ 2 * c.leak * 268435456 + 8191 := by
    intro output storable
    have above := mul_le_mul_of_nonneg_left storable.1 leaks.le
    have below := mul_le_mul_of_nonneg_left storable.2.le leaks.le
    rw [abs_le, lift]
    constructor
    · linarith
    · linarith
  have lifted1 := lifted storable1
  have lifted2 := lifted storable2
  refine silence.energy_le ?_ ?_
  · have first := mul_le_mul_of_nonneg_left lifted1 rises
    have second := mul_le_mul_of_nonneg_left lifted2 falls
    refine (abs_add_le _ _).trans ?_
    rw [abs_mul, abs_mul, abs_of_nonneg rises, abs_of_nonpos silence.falls]
    linarith
  · rw [Recurrence.liftedFar, abs_mul, abs_of_nonpos silence.falls]
    exact mul_le_mul_of_nonneg_left lifted1 falls

/-- On a constant signal zeros are emitted from the step on in which the energy has fallen. -/
theorem Silence.run (silence : c.Silence half) (steady : state.Steady value) {bound : Int}
    (swinging : state.swing c ≤ bound) {signal : List Sample}
    (same : ∀ sample ∈ signal, sample = value) {remaining : Nat}
    (falls : (c.calm silence.weight)^[remaining] bound ≤ silence.energy) :
    ∀ accumulator ∈ (state.run c signal).drop remaining, Filter.emit accumulator = 0 := by
  induction signal generalizing state bound remaining with
  | nil => simp [Recurrence.run]
  | cons sample rest inductionHypothesis =>
    obtain rfl := same sample List.mem_cons_self
    have later := fun other member => same other (List.mem_cons_of_mem sample member)
    have next := (silence.swing_advance_le steady).trans (silence.calm_mono swinging)
    cases remaining with
    | zero =>
      have quiet : bound ≤ silence.energy := falls
      have stays : (c.calm silence.weight)^[0] (c.calm silence.weight bound) ≤ silence.energy :=
        (silence.calm_mono quiet).trans silence.kept
      have others := inductionHypothesis (steady.advance c) next later stays
      simp only [Recurrence.run, List.drop_zero, List.forall_mem_cons] at others ⊢
      exact ⟨silence.emit_eq_zero steady (swinging.trans quiet), others⟩
    | succ remaining =>
      exact inductionHypothesis (steady.advance c) next later falls

/-- Two samples and the time of the fall after a signal becomes constant, zeros are emitted. -/
theorem Silence.run_from (silence : c.Silence half) {signal : List Sample}
    (storable : ∀ accumulator ∈ state.run c signal, Filter.Storable accumulator)
    (storable1 : Filter.Storable state.output1) (storable2 : Filter.Storable state.output2)
    {start : Nat} (same : ∀ sample ∈ signal.drop start, sample = value) :
    ∀ accumulator ∈ (state.run c signal).drop (start + 2 + (half + half)),
      Filter.emit accumulator = 0 := by
  -- Induct on the samples before the constant; two constant samples make the inputs steady.
  induction signal generalizing state start with
  | nil => simp [Recurrence.run]
  | cons sample rest inductionHypothesis =>
    simp only [Recurrence.run, List.forall_mem_cons] at storable
    cases start with
    | zero =>
      obtain rfl := same sample List.mem_cons_self
      cases rest with
      | nil =>
        rw [List.drop_of_length_le (by simp [Recurrence.run]; omega)]
        simp
      | cons second rest =>
        obtain rfl := same second (List.mem_cons_of_mem sample List.mem_cons_self)
        simp only [Recurrence.run, List.forall_mem_cons] at storable
        have steady : ((state.advance c second).advance c second).Steady second := ⟨rfl, rfl⟩
        have loudest : ((state.advance c second).advance c second).swing c ≤ c.loudest :=
          silence.swing_le_loudest storable.2.1 storable.1
        have later := silence.run steady loudest
          (fun other member => same other
            (List.mem_cons_of_mem second (List.mem_cons_of_mem second member)))
          silence.falls_from_loudest
        rw [Nat.zero_add, Nat.add_comm]
        exact later
    | succ start =>
      have others := inductionHypothesis storable.2 storable.1 storable1 same
      rw [Nat.add_right_comm start 1 2, Nat.add_right_comm (start + 2) 1 (half + half)]
      exact others

/-- The filter of the narrow band falls silent. -/
theorem exists_silence_narrow : Nonempty (narrowCoefficients.Silence 536) :=
  ⟨{ energy := 1456800000000000000
     midway := 260000000000000000
     weight := 196
     reach := 335368214
     resonant := ⟨by decide, rfl, rfl⟩
     rises := by decide
     falls := by decide
     leaks := by decide
     heavy := by decide
     forward := by decide
     kept := by decide
     slowing := by decide +kernel
     falling := by decide +kernel
     held := by decide
     room := by decide }⟩

/-- The filter of the wide band falls silent. -/
theorem exists_silence_wide : Nonempty (wideCoefficients.Silence 536) :=
  ⟨{ energy := 33710000000000000
     midway := 157700000000000000000000
     weight := 86
     reach := 83832839
     resonant := ⟨by decide, rfl, rfl⟩
     rises := by decide
     falls := by decide
     leaks := by decide
     heavy := by decide
     forward := by decide
     kept := by decide
     slowing := by decide +kernel
     falling := by decide +kernel
     held := by decide
     room := by decide }⟩

/-- The filter of every band falls silent. -/
theorem exists_silence (bandHz : UInt32) : Nonempty ((coefficientsFor bandHz).Silence 536) := by
  unfold coefficientsFor
  split
  · exact exists_silence_narrow
  · exact exists_silence_wide

end Coefficients

/-- The samples of a constant signal after which every filter is silent. -/
def settlingTime : Nat := 1074

/-- On signals up to a peak of 20000 a new filter cuts off no high word. -/
theorem untruncated_of_quiet (bandHz : UInt32) (signal : List Sample)
    (quiet : ∀ sample ∈ signal, |sample.toInt| ≤ 20000) :
    Filter.Untruncated { coefficients := coefficientsFor bandHz } signal := by
  have known := Filter.represents_rest (coefficientsFor bandHz)
  have moderate := Coefficients.moderate_coefficientsFor bandHz
  rw [Filter.untruncated_iff_faithful, known.faithful_iff moderate]
  exact Coefficients.storable_run_of_quiet bandHz signal quiet

/-- The high-pass filter removes the constant part completely.

Take any signal that equals one value from some sample on, and let no high word be cut off while a
new filter runs over a beginning of it. Then a fixed number of samples after the signal has become
constant the filter emits zero, and it emits nothing but zero from there on, however long the
beginning is. -/
theorem zero_on_constant (bandHz : UInt32) (signal : Nat → Sample) (start : Nat) (value : Sample)
    (constant : ∀ index, start ≤ index → signal index = value) (length : Nat)
    (untruncated : Filter.Untruncated { coefficients := coefficientsFor bandHz }
      ((List.range length).map signal)) :
    (Filter.run { coefficients := coefficientsFor bandHz }
        ((List.range length).map signal)).1.drop (start + settlingTime) =
      List.replicate (length - (start + settlingTime)) 0 := by
  have known := Filter.represents_rest (coefficientsFor bandHz)
  have moderate := Coefficients.moderate_coefficientsFor bandHz
  have storable := (known.faithful_iff moderate _).mp
    ((Filter.untruncated_iff_faithful _ _).mp untruncated)
  have same : ∀ sample ∈ ((List.range length).map signal).drop start, sample = value := by
    intro sample member
    obtain ⟨index, bounded, rfl⟩ := List.mem_iff_getElem.mp member
    simp only [List.getElem_drop, List.getElem_map, List.getElem_range]
    exact constant (start + index) (Nat.le_add_right start index)
  obtain ⟨silence⟩ := Coefficients.exists_silence bandHz
  have rest : Filter.Storable 0 := ⟨by decide, by decide⟩
  have silent := silence.run_from storable rest rest same
  rw [List.eq_replicate_iff]
  refine ⟨by simp, ?_⟩
  rw [known.run moderate _ storable, ← List.map_drop]
  intro emitted member
  obtain ⟨accumulator, left, rfl⟩ := List.mem_map.mp member
  exact silent accumulator left

/-- Three loud samples below zero, and constant ones above it from then on. -/
def steepStep (index : Nat) : Sample := if index < 3 then -20000 else 20000

/-- A step across most of the range, which cuts off no high word, is gone in the end. -/
theorem zero_on_constant_steepStep :
    (∀ index, 3 ≤ index → steepStep index = 20000) ∧
      Filter.Untruncated { coefficients := coefficientsFor 16000 }
        ((List.range 1500).map steepStep) ∧
      (Filter.run { coefficients := coefficientsFor 16000 }
          ((List.range 1500).map steepStep)).1.drop (3 + settlingTime) =
        List.replicate 423 0 := by
  have constant : ∀ index, 3 ≤ index → steepStep index = 20000 := by
    intro index behind
    exact if_neg (Nat.not_lt.mpr behind)
  have quiet : ∀ sample ∈ (List.range 1500).map steepStep, |sample.toInt| ≤ 20000 := by
    intro sample member
    obtain ⟨index, -, rfl⟩ := List.mem_map.mp member
    unfold steepStep
    split <;> decide
  have untruncated := untruncated_of_quiet 16000 _ quiet
  have settled := zero_on_constant 16000 steepStep 3 20000 constant 1500 untruncated
  have remaining : 1500 - (3 + settlingTime) = 423 := rfl
  rw [remaining] at settled
  exact ⟨constant, untruncated, settled⟩

end VoiceEngine.HighPass
