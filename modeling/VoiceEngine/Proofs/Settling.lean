import Mathlib.Logic.Function.Iterate
import VoiceEngine.Proofs.Headroom
import VoiceEngine.Proofs.Streaming

/-!
# Settling on a constant signal

Recursive filters in fixed point are known for limit cycles: rounding can keep an output moving
around its final value, or hold it beside that value, for ever. The splitting filter has none. Once
the input of a section stays constant, the deviation of its output from that input goes from `d` to
`-a * d`, rounded down. An interval around zero that holds the deviation is turned over and narrowed
with every step, and rounding never keeps it from closing: a deviation of one unit below is weighted
to less than one unit above and is gone.

The intervals of every coefficient in use close from the widest deviation that words can have. So a
section settles on its constant input after a number of samples that depends on the coefficient
alone, three sections one after the other settle on the input of the cascade, and the two directions
one after the other settle on the samples themselves.
-/

namespace VoiceEngine

/-- How far an output may lie below and above a constant input. -/
structure Margin where
  below : Nat
  above : Nat
  deriving DecidableEq

namespace Margin

/-- The margin holds a deviation from the constant input. -/
def Holds (margin : Margin) (deviation : Int) : Prop :=
  -margin.below ≤ deviation ∧ deviation ≤ margin.above

/-- The margin after one more step: the sides change places, weighted with the coefficient, and
rounding down can only add to the side below. -/
def narrow (coefficient : Nat) (margin : Margin) : Margin where
  below := (coefficient * margin.above + 65535) / 65536
  above := coefficient * margin.below / 65536

/-- The margin of words. -/
def widest : Margin := ⟨2147483647, 2147483647⟩

/-- No margin at all. -/
def closed : Margin := ⟨0, 0⟩

/-- A closed margin stays closed. -/
theorem narrow_closed (coefficient : Nat) : narrow coefficient closed = closed := by
  simp [narrow, closed]

/-- A closed margin holds no deviation but zero. -/
theorem holds_closed {deviation : Int} (held : closed.Holds deviation) : deviation = 0 := by
  obtain ⟨above, below⟩ := held
  simp only [closed] at above below
  omega

/-- A deviation within a margin is within the narrowed margin after one step. -/
theorem Holds.narrow {margin : Margin} {deviation : Int} (held : margin.Holds deviation)
    (coefficient : Nat) : (margin.narrow coefficient).Holds (coefficient * -deviation / 65536) := by
  obtain ⟨above, below⟩ := held
  have upward : coefficient * -deviation ≤ (coefficient * margin.below : Int) :=
    mul_le_mul_of_nonneg_left (by omega) (Int.natCast_nonneg coefficient)
  have downward : -(coefficient * margin.above : Int) ≤ coefficient * -deviation := by
    rw [← mul_neg]
    exact mul_le_mul_of_nonneg_left (by omega) (Int.natCast_nonneg coefficient)
  simp only [Holds, Margin.narrow]
  push_cast
  omega

end Margin

namespace Section

/-- Every margin of a coefficient has closed after so many steps. -/
def SettlesIn (coefficient time : Nat) : Prop :=
  (Margin.narrow coefficient)^[time] Margin.widest = Margin.closed

instance (coefficient time : Nat) : Decidable (SettlesIn coefficient time) := by
  unfold SettlesIn
  infer_instance

/-- The last input of a section was a value, and its last output lies within a margin of it. -/
structure Around (margin : Margin) (value : Int) (state : Section) : Prop where
  input : state.lastInput.toInt = value
  output : margin.Holds (state.lastOutput.toInt - value)

variable {coefficient limit : Nat} {state : Section} {margin : Margin} {value : Int}

/-- An exact answer to the same input once more lies within the narrowed margin. -/
theorem Around.step (around : state.Around margin value) {input : Int32}
    (exact : state.ExactStep coefficient input) (same : input.toInt = value) :
    (state.advance coefficient input).Around (margin.narrow coefficient) value := by
  refine ⟨same, ?_⟩
  have deviation : (state.advance coefficient input).lastOutput.toInt - value =
      coefficient * -(state.lastOutput.toInt - value) / 65536 := by
    dsimp only [advance]
    rw [exact.answer, around.input, same, add_sub_cancel_left, neg_sub]
  rw [deviation]
  exact around.output.narrow coefficient

/-- On a constant input the outputs are the input from the step on in which the margin closes. -/
theorem Around.run (around : state.Around margin value) {inputs : List Int32}
    (exact : state.RunsExactly coefficient inputs)
    (same : ∀ input ∈ inputs, input.toInt = value) {time : Nat}
    (closes : (Margin.narrow coefficient)^[time] margin = Margin.closed) :
    ∀ output ∈ (Section.run coefficient state inputs).1.drop time, output.toInt = value := by
  induction inputs generalizing state margin time with
  | nil => simp [Section.run]
  | cons input rest inductionHypothesis =>
    have next := around.step exact.1 (same input List.mem_cons_self)
    have later := fun other member => same other (List.mem_cons_of_mem input member)
    cases time with
    | zero =>
      have closed : margin = Margin.closed := closes
      subst closed
      rw [Margin.narrow_closed] at next
      have settled := Margin.holds_closed next.output
      simp only [Section.run, List.drop_zero, List.forall_mem_cons]
      refine ⟨by omega, ?_⟩
      have stays : (Margin.narrow coefficient)^[0] Margin.closed = Margin.closed := rfl
      have others := inductionHypothesis next exact.2 later stays
      rwa [List.drop_zero] at others
    | succ time =>
      exact inductionHypothesis next exact.2 later closes

/-- A section within a limit settles on an input that is constant from some sample on. -/
theorem Within.settles (within : state.Within coefficient limit) (steady : coefficient ≤ steepest)
    (room : limit + reach coefficient limit ≤ 2147483647) {inputs : List Int32}
    (small : ∀ input ∈ inputs, |input.toInt| ≤ limit) {start : Nat}
    (same : ∀ input ∈ inputs.drop start, input.toInt = value) {time : Nat}
    (settles : SettlesIn coefficient time) :
    ∀ output ∈ (Section.run coefficient state inputs).1.drop (start + (time + 1)),
      output.toInt = value := by
  -- Until the input is constant, induct on the samples before; then one step faces the constant.
  induction inputs generalizing state start with
  | nil => simp [Section.run]
  | cons input rest inductionHypothesis =>
    have first := small input List.mem_cons_self
    have others := fun other member => small other (List.mem_cons_of_mem input member)
    obtain ⟨exact, next⟩ := within.step steady room first
    cases start with
    | zero =>
      have now : input.toInt = value := same input List.mem_cons_self
      have reached := abs_le.mp (abs_le_reach next.input next.spread)
      have small := abs_le.mp first
      have around : (state.advance coefficient input).Around Margin.widest value := by
        refine ⟨now, ?_⟩
        simp only [Margin.Holds, Margin.widest]
        omega
      rw [Nat.zero_add]
      exact around.run (next.run steady room rest others).1
        (fun other member => same other (List.mem_cons_of_mem input member)) settles
    | succ start =>
      rw [Nat.succ_add]
      exact inductionHypothesis next others same

end Section

namespace Cascade

/-- The three sections of a cascade settle one after the other, each a step after the one before it
at the earliest. -/
structure SettlesIn (coefficients : CascadeCoefficients) (first second third : Nat) : Prop where
  first : Section.SettlesIn coefficients.first first
  second : Section.SettlesIn coefficients.second second
  third : Section.SettlesIn coefficients.third third

variable {coefficients : CascadeCoefficients} {limit : Nat} {state : Cascade}

/-- A cascade within a limit settles on an input that is constant from some sample on. -/
theorem Within.settles (within : state.Within coefficients limit) (roomy : Roomy coefficients limit)
    {inputs : List Int32} (small : ∀ input ∈ inputs, |input.toInt| ≤ limit) {value : Int}
    {start : Nat} (same : ∀ input ∈ inputs.drop start, input.toInt = value)
    {first second third : Nat} (settles : SettlesIn coefficients first second third) :
    ∀ output ∈ (Cascade.run coefficients state inputs).1.drop
        (start + (first + 1) + (second + 1) + (third + 1)), output.toInt = value := by
  obtain ⟨-, once, -⟩ := within.first.run roomy.steadyFirst roomy.roomFirst inputs small
  obtain ⟨-, twice, -⟩ := within.second.run roomy.steadySecond roomy.roomSecond _ once
  have settledOnce :=
    within.first.settles roomy.steadyFirst roomy.roomFirst small same settles.first
  have settledTwice :=
    within.second.settles roomy.steadySecond roomy.roomSecond once settledOnce settles.second
  exact within.third.settles roomy.steadyThird roomy.roomThird twice settledTwice settles.third

end Cascade

namespace SplitBands

/-- The samples of a band after which one direction has settled on a constant. -/
def settlingTime : Nat := 941

/-- The cascade of the first coefficients settles in that time, with time to spare. -/
theorem settlesIn_first : Cascade.SettlesIn firstCoefficients 11 40 887 := by
  constructor <;> decide +kernel

/-- The cascade of the second coefficients settles in that time. -/
theorem settlesIn_second : Cascade.SettlesIn secondCoefficients 21 76 841 := by
  constructor <;> decide +kernel

/-- Branches that both are a sample on the scale of the cascades give that sample in the low band
and silence in the high band. -/
theorem bandSamples_of_settled {value : Sample} {odd even : Int32}
    (oddSettled : odd.toInt = value.toInt * 1024) (evenSettled : even.toInt = value.toInt * 1024) :
    lowSample odd even = value ∧ highSample odd even = 0 := by
  have above := value.le_toInt
  have below := value.toInt_lt
  rw [← Int16.toInt_inj, ← Int16.toInt_inj, lowSample, highSample, Word.toInt_saturate16,
    Word.toInt_saturate16, oddSettled, evenSettled, Int16.toInt_zero]
  simp only [Word.clip]
  omega

/-- A branch that is a sample on the scale of the cascades gives that sample. -/
theorem fullSample_of_settled {value : Sample} {branch : Int32}
    (settled : branch.toInt = value.toInt * 1024) : fullSample branch = value := by
  have above := value.le_toInt
  have below := value.toInt_lt
  rw [← Int16.toInt_inj, fullSample, Word.toInt_saturate16, Word.toInt_saturate32, settled]
  simp only [Word.clip]
  omega

/-- The first samples of a shuffled list are shuffled from the first samples of both lists, so
leaving them out leaves the others shuffled. -/
theorem drop_alternate {α : Type} (even odd : List α) (count : Nat) :
    (alternate even odd).drop (2 * count) = alternate (even.drop count) (odd.drop count) := by
  induction count generalizing even odd with
  | zero => rfl
  | succ count inductionHypothesis =>
    cases even with
    | nil => simp [alternate]
    | cons first rest =>
      cases odd with
      | nil =>
        cases rest.drop count <;> simp [alternate]
      | cons second others => exact inductionHypothesis rest others

/-- Every entry of a shuffled list is one of the two lists. -/
theorem mem_of_mem_alternate {α : Type} {entry : α} {even odd : List α}
    (member : entry ∈ alternate even odd) : entry ∈ even ∨ entry ∈ odd := by
  induction even generalizing odd with
  | nil => simp [alternate] at member
  | cons first rest inductionHypothesis =>
    cases odd with
    | nil => simp [alternate] at member
    | cons second others =>
      simp only [alternate, List.mem_cons] at member ⊢
      rcases member with here | beside | later
      · exact .inl (.inl here)
      · exact .inr (.inl beside)
      · exact (inductionHypothesis later).imp .inr .inr

/-- Every entry at an even or an odd position is an entry. -/
theorem mem_of_mem_evens_odds {α : Type} {entry : α} (list : List α)
    (member : entry ∈ evens list ∨ entry ∈ odds list) : entry ∈ list := by
  induction list using evens.induct with
  | case1 => simp [evens, odds] at member
  | case2 only => simpa [evens, odds] using member
  | case3 first second rest inductionHypothesis =>
    simp only [evens, odds, List.mem_cons] at member ⊢
    rcases member with (here | later) | (here | later)
    · exact .inl here
    · exact .inr (.inr (inductionHypothesis (.inl later)))
    · exact .inr (.inl here)
    · exact .inr (.inr (inductionHypothesis (.inr later)))

/-- What two lists are combined to entry by entry has a property behind some entries when all that
both lists hold there combine to it. -/
theorem forall_mem_drop_zipWith {α β γ : Type} {combine : α → β → γ} {first : List α}
    {second : List β} {start : Nat} {Of : α → Prop} {OfOther : β → Prop} {Holds : γ → Prop}
    (known : ∀ entry ∈ first.drop start, Of entry)
    (alsoKnown : ∀ entry ∈ second.drop start, OfOther entry)
    (combined : ∀ entry other, Of entry → OfOther other → Holds (combine entry other)) :
    ∀ entry ∈ (List.zipWith combine first second).drop start, Holds entry := by
  intro entry member
  rw [List.drop_zipWith, ← List.map_uncurry_zip_eq_zipWith] at member
  obtain ⟨⟨one, other⟩, paired, rfl⟩ := List.mem_map.mp member
  have parts := List.of_mem_zip paired
  exact combined one other (known one parts.1) (alsoKnown other parts.2)

/-- A constant block is split to itself in the low band and to silence in the high band, once the
memory has settled. -/
theorem SplitsWithin.settles {memory : Memory} (within : SplitsWithin memory) {value : Sample}
    {full : List Sample} (same : ∀ sample ∈ full, sample = value) :
    (∀ sample ∈ (SplitBands.split memory full).1.drop settlingTime, sample = value) ∧
      ∀ sample ∈ (SplitBands.split memory full).2.1.drop settlingTime, sample = 0 := by
  have constant (part : List Sample) (inside : ∀ sample ∈ part, sample ∈ full) :
      ∀ input ∈ (part.map (raise ·.toInt)).drop 0, input.toInt = value.toInt * 1024 := by
    intro input member
    obtain ⟨sample, present, rfl⟩ := List.mem_map.mp member
    rw [(raise_sample sample).1, same sample (inside sample present)]
  have odd := within.odd.settles roomy_first (abs_raised_le (odds full))
    (constant (odds full) fun _ member => mem_of_mem_evens_odds full (.inr member)) settlesIn_first
  have even := within.even.settles roomy_second (abs_raised_le (evens full))
    (constant (evens full) fun _ member => mem_of_mem_evens_odds full (.inl member))
    settlesIn_second
  exact ⟨forall_mem_drop_zipWith odd even fun _ _ oddSettled evenSettled =>
      (bandSamples_of_settled oddSettled evenSettled).1,
    forall_mem_drop_zipWith odd even fun _ _ oddSettled evenSettled =>
      (bandSamples_of_settled oddSettled evenSettled).2⟩

/-- Bands that stay constant and silent from some sample on are merged to the constant, once the
memory has settled on it. -/
theorem MergesWithin.settles {memory : Memory} (within : MergesWithin memory) {value : Sample}
    {low high : List Sample} {start : Nat} (constant : ∀ sample ∈ low.drop start, sample = value)
    (silent : ∀ sample ∈ high.drop start, sample = 0) :
    ∀ sample ∈ (SplitBands.merge memory low high).1.drop (2 * (start + settlingTime)),
      sample = value := by
  obtain ⟨smallSums, smallDifferences⟩ := abs_sums_differences_le low high
  have sum : ∀ input ∈ (sums low high).drop start, input.toInt = value.toInt * 1024 := by
    refine forall_mem_drop_zipWith constant silent ?_
    rintro l h rfl rfl
    rw [(raise_pair l 0).1.1, Int16.toInt_zero, add_zero]
  have difference : ∀ input ∈ (differences low high).drop start,
      input.toInt = value.toInt * 1024 := by
    refine forall_mem_drop_zipWith constant silent ?_
    rintro l h rfl rfl
    rw [(raise_pair l 0).2.1, Int16.toInt_zero, sub_zero]
  have odd := within.odd.settles roomy_second smallSums sum settlesIn_second
  have even := within.even.settles roomy_first smallDifferences difference settlesIn_first
  intro sample member
  have shuffled : (SplitBands.merge memory low high).1 =
      alternate ((memory.even.run firstCoefficients (differences low high)).1.map fullSample)
        ((memory.odd.run secondCoefficients (sums low high)).1.map fullSample) := rfl
  rw [shuffled, drop_alternate, ← List.map_drop, ← List.map_drop] at member
  rcases mem_of_mem_alternate member with fromEven | fromOdd
  · obtain ⟨branch, settled, rfl⟩ := List.mem_map.mp fromEven
    exact fullSample_of_settled (even branch settled)
  · obtain ⟨branch, settled, rfl⟩ := List.mem_map.mp fromOdd
    exact fullSample_of_settled (odd branch settled)

/-- A constant signal is reconstructed exactly, and stays so.

Whatever blocks were split and whatever bands were merged before, let every further sample of the
full band be the same, in blocks of any admitted lengths. From a fixed sample on the low band is
that constant and the high band is silent. And in whatever blocks these bands are merged, every
sample that comes out from a fixed sample on is the constant. -/
theorem settles_on_constant (earlierSplits : List (List Sample))
    (earlierMerges : List (List Sample × List Sample)) (value : Sample)
    (blocks : List (List Sample))
    (admitted : ∀ block ∈ blocks, 2 ∣ block.length ∧ block.length ≤ 480)
    (same : ∀ block ∈ blocks, ∀ sample ∈ block, sample = value) :
    ∃ low high splitting,
      splitBlocks? (memoryAfterSplits earlierSplits) blocks = some (low, high, splitting) ∧
      2 * low.length = blocks.flatten.length ∧ high.length = low.length ∧
      (∀ sample ∈ low.drop settlingTime, sample = value) ∧
      (∀ sample ∈ high.drop settlingTime, sample = 0) ∧
      ∀ bands : List (List Sample × List Sample),
        (∀ block ∈ bands, block.1.length = block.2.length ∧ block.1.length ≤ 240) →
        bands.flatMap Prod.fst = low → bands.flatMap Prod.snd = high →
        ∃ full merging,
          mergeBlocks? (memoryAfterMerges earlierMerges) bands = some (full, merging) ∧
          full.length = blocks.flatten.length ∧
          ∀ sample ∈ full.drop (4 * settlingTime), sample = value := by
  obtain ⟨even, cut⟩ := splitBlocks?_eq_split (memoryAfterSplits earlierSplits) blocks admitted
  have constant : ∀ sample ∈ blocks.flatten, sample = value := by
    intro sample member
    obtain ⟨block, present, inside⟩ := List.mem_flatten.mp member
    exact same block present sample inside
  obtain ⟨half, halves⟩ := even
  obtain ⟨lowLength, highLength⟩ :=
    length_split (memoryAfterSplits earlierSplits) half blocks.flatten halves
  obtain ⟨lowSettles, highSettles⟩ :=
    (splitsWithin_memoryAfterSplits earlierSplits).settles constant
  generalize SplitBands.split (memoryAfterSplits earlierSplits) blocks.flatten = parts at *
  obtain ⟨low, high, splitting⟩ := parts
  dsimp only at lowLength highLength lowSettles highSettles
  have paired : high.length = low.length := highLength.trans lowLength.symm
  refine ⟨low, high, splitting, cut, by rw [lowLength, halves], paired, lowSettles, highSettles, ?_⟩
  rintro bands admitted rfl rfl
  have together := mergeBlocks?_eq_merge (memoryAfterMerges earlierMerges) bands admitted
  have settles :=
    (mergesWithin_memoryAfterMerges earlierMerges).settles lowSettles highSettles
  have twice : 2 * (settlingTime + settlingTime) = 4 * settlingTime := by omega
  rw [twice] at settles
  have fullLength := length_merge (memoryAfterMerges earlierMerges) _ _ paired
  rw [lowLength, ← halves] at fullLength
  exact ⟨_, _, together, fullLength, settles⟩

/-- Behind loud blocks, eight blocks of a constant, whose bands are merged sample by sample. -/
theorem settles_on_constant_loud :
    ∃ low high splitting full merging,
      splitBlocks? (memoryAfterSplits [[32767, -32768, 32767, -32768]])
        (List.replicate 8 (List.replicate 480 (-20001))) = some (low, high, splitting) ∧
      mergeBlocks? (memoryAfterMerges [([32767, -32768], [-32768, 5])])
        ((low.zip high).map fun pair => ([pair.1], [pair.2])) = some (full, merging) ∧
      low.drop settlingTime = List.replicate 979 (-20001) ∧
      high.drop settlingTime = List.replicate 979 0 ∧
      full.drop (4 * settlingTime) = List.replicate 76 (-20001) := by
  have blocks : ∀ block ∈ List.replicate 8 (List.replicate 480 (-20001 : Sample)),
      block = List.replicate 480 (-20001) := fun _ member => (List.mem_replicate.mp member).2
  have signal : (List.replicate 8 (List.replicate 480 (-20001 : Sample))).flatten.length =
      3840 := by
    rw [List.flatten_replicate_replicate, List.length_replicate]
  obtain ⟨low, high, splitting, cut, lowLength, paired, lowSettles, highSettles, merges⟩ :=
    settles_on_constant [[32767, -32768, 32767, -32768]] [([32767, -32768], [-32768, 5])] (-20001)
      (List.replicate 8 (List.replicate 480 (-20001)))
      (fun block member => by rw [blocks block member, List.length_replicate]; decide)
      (fun block member sample inside => by
        rw [blocks block member] at inside
        exact (List.mem_replicate.mp inside).2)
  rw [signal] at lowLength
  obtain ⟨full, merging, together, fullLength, fullSettles⟩ :=
    merges ((low.zip high).map fun pair => ([pair.1], [pair.2]))
      (List.forall_mem_map.mpr fun _ _ => ⟨rfl, Nat.le_add_left 1 239⟩)
      (by rw [List.flatMap_map, ← List.map_eq_flatMap, List.map_fst_zip paired.ge])
      (by rw [List.flatMap_map, ← List.map_eq_flatMap, List.map_snd_zip paired.le])
  rw [signal] at fullLength
  refine ⟨low, high, splitting, full, merging, cut, together, ?_, ?_, ?_⟩
  · exact List.eq_replicate_iff.mpr ⟨by rw [List.length_drop, settlingTime]; omega, lowSettles⟩
  · exact List.eq_replicate_iff.mpr ⟨by rw [List.length_drop, settlingTime]; omega, highSettles⟩
  · exact List.eq_replicate_iff.mpr ⟨by rw [List.length_drop, settlingTime]; omega, fullSettles⟩

end SplitBands

end VoiceEngine
