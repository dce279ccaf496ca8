import VoiceEngine.SplitBands

/-!
# Splitting and merging as streams

A block passes through one section of a cascade as a whole before the next section sees it. The
machines here know no blocks: a splitting machine takes one sample at a time through all three
sections of the branch that the sample belongs to, and a merging machine takes one sample of
each band. Interchanging the loop over the sections with the loop over the samples shows that
both ways give the same bands, the same full band and the same memory, whatever the memory was
at the start. Blocks are therefore only cuts in a stream, and where the cuts are does not show.
-/

namespace VoiceEngine

/-- The answers of a machine to inputs that arrive one after another, and the machine
afterwards. It may answer an input with nothing or with several outputs. -/
def feed {State Input Output : Type} (step : State → Input → List Output × State)
    (state : State) : List Input → List Output × State
  | [] => ([], state)
  | input :: rest =>
    let (now, next) := step state input
    let (later, final) := feed step next rest
    (now ++ later, final)

/-- A machine that is fed two lists goes on after the first as it was left. -/
theorem feed_append {State Input Output : Type} (step : State → Input → List Output × State)
    (state : State) (first second : List Input) :
    feed step state (first ++ second) =
      let (early, between) := feed step state first
      let (late, final) := feed step between second
      (early ++ late, final) := by
  induction first generalizing state with
  | nil => rfl
  | cons input rest inductionHypothesis =>
    simp only [List.cons_append, feed, inductionHypothesis, List.append_assoc]

namespace Cascade

/-- One input on its way through all three sections. -/
def push (coefficients : CascadeCoefficients) (state : Cascade) (input : Int32) :
    Int32 × Cascade :=
  let first := state.first.advance coefficients.first input
  let second := state.second.advance coefficients.second first.lastOutput
  let third := state.third.advance coefficients.third second.lastOutput
  (third.lastOutput, { first, second, third })

/-- The loops interchange: the first input of a block may pass through all three sections before
any section sees the second input. -/
theorem run_cons (coefficients : CascadeCoefficients) (state : Cascade) (input : Int32)
    (rest : List Int32) :
    run coefficients state (input :: rest) =
      let (output, next) := state.push coefficients input
      let (outputs, final) := run coefficients next rest
      (output :: outputs, final) := rfl

end Cascade

namespace SplitBands

/-- A splitting machine: its memory, and the branch of an even sample that still waits for the
odd sample after it. -/
structure Splitter where
  memory : Memory
  waiting : Option Int32 := none

/-- One sample of the full band. An even one passes through the second branch and waits; an odd
one passes through the first branch, and both together give a sample of either band. -/
def Splitter.step (splitter : Splitter) (sample : Sample) : List (Sample × Sample) × Splitter :=
  let input := raise sample.toInt
  match splitter.waiting with
  | none =>
    let (branch, even) := splitter.memory.even.push secondCoefficients input
    ([], { memory := { splitter.memory with even }, waiting := some branch })
  | some evenBranch =>
    let (oddBranch, odd) := splitter.memory.odd.push firstCoefficients input
    ([(lowSample oddBranch evenBranch, highSample oddBranch evenBranch)],
      { memory := { splitter.memory with odd } })

/-- One sample of the low and one of the high band: their sum passes through the second branch
and gives the odd sample, their difference through the first and gives the even sample. -/
def mergePair (memory : Memory) (pair : Sample × Sample) : List Sample × Memory :=
  let (low, high) := pair
  let (oddBranch, odd) := memory.odd.push secondCoefficients (raise (low.toInt + high.toInt))
  let (evenBranch, even) := memory.even.push firstCoefficients (raise (low.toInt - high.toInt))
  ([fullSample evenBranch, fullSample oddBranch], { odd, even })

/-- The bands of blocks that are split one after another, each with the memory that the one
before it left; refused when one of them is refused. -/
def splitBlocks? (memory : Memory) :
    List (List Sample) → Option (List Sample × List Sample × Memory)
  | [] => some ([], [], memory)
  | block :: blocks => do
    let (low, high, next) ← split? memory block (block.length / 2) (block.length / 2)
    let (lows, highs, final) ← splitBlocks? next blocks
    some (low ++ lows, high ++ highs, final)

/-- The full band of pairs of blocks that are merged one after another; refused when one of them
is refused. -/
def mergeBlocks? (memory : Memory) :
    List (List Sample × List Sample) → Option (List Sample × Memory)
  | [] => some ([], memory)
  | (low, high) :: blocks => do
    let (full, next) ← merge? memory low high (2 * low.length)
    let (fulls, final) ← mergeBlocks? next blocks
    some (full ++ fulls, final)

/-- Two neighbouring samples of the full band give one sample of either band. -/
def splitPair (memory : Memory) (even odd : Sample) : (Sample × Sample) × Memory :=
  let (evenBranch, evenNext) := memory.even.push secondCoefficients (raise even.toInt)
  let (oddBranch, oddNext) := memory.odd.push firstCoefficients (raise odd.toInt)
  ((lowSample oddBranch evenBranch, highSample oddBranch evenBranch),
    { odd := oddNext, even := evenNext })

/-- Splitting a block splits its first two samples and then the others. -/
theorem split_cons_cons (memory : Memory) (even odd : Sample) (rest : List Sample) :
    split memory (even :: odd :: rest) =
      let ((low, high), next) := splitPair memory even odd
      let (lows, highs, final) := split next rest
      (low :: lows, high :: highs, final) := by
  simp only [split, splitPair, evens, odds, List.map_cons, Cascade.run_cons,
    List.zipWith_cons_cons]

/-- Merging two bands merges their first samples and then the others. -/
theorem merge_cons_cons (memory : Memory) (low high : Sample) (lows highs : List Sample) :
    merge memory (low :: lows) (high :: highs) =
      let (pair, next) := mergePair memory (low, high)
      let (full, final) := merge next lows highs
      (pair ++ full, final) := by
  simp only [merge, mergePair, List.zipWith_cons_cons, Cascade.run_cons, List.map_cons, alternate,
    List.cons_append, List.nil_append]

/-- A block of even length and what follows it are split one after the other. -/
theorem split_append (memory : Memory) (length : Nat) (first second : List Sample)
    (even : first.length = 2 * length) :
    split memory (first ++ second) =
      let (low, high, between) := split memory first
      let (lows, highs, final) := split between second
      (low ++ lows, high ++ highs, final) := by
  induction length generalizing memory first with
  | zero =>
    have empty : first = [] := List.eq_nil_of_length_eq_zero even
    subst empty
    rfl
  | succ length inductionHypothesis =>
    match first, even with
    | one :: other :: rest, even =>
      simp only [List.length_cons] at even
      have later := inductionHypothesis (splitPair memory one other).2 rest (by omega)
      simp only [List.cons_append, split_cons_cons, later]
    | [], even => simp at even
    | [_], even =>
      simp only [List.length_cons, List.length_nil] at even
      omega

/-- Two bands of equal length and what follows them are merged one after the other. -/
theorem merge_append (memory : Memory) (low high lows highs : List Sample)
    (same : low.length = high.length) :
    merge memory (low ++ lows) (high ++ highs) =
      let (full, between) := merge memory low high
      let (fulls, final) := merge between lows highs
      (full ++ fulls, final) := by
  induction low generalizing memory high with
  | nil =>
    have empty : high = [] := List.eq_nil_of_length_eq_zero same.symm
    subst empty
    rfl
  | cons first rest inductionHypothesis =>
    cases high with
    | nil => simp at same
    | cons second others =>
      have shorter : rest.length = others.length := by simpa using same
      have later := inductionHypothesis (mergePair memory (first, second)).2 others shorter
      simp only [List.cons_append, merge_cons_cons, later, List.append_assoc]

/-- A merging machine answers two bands of equal length with the full band of both. -/
theorem merge_eq_feed (memory : Memory) (low high : List Sample)
    (same : low.length = high.length) :
    merge memory low high = feed mergePair memory (low.zip high) := by
  induction low generalizing memory high with
  | nil => rfl
  | cons first lows inductionHypothesis =>
    cases high with
    | nil => simp at same
    | cons second highs =>
      have shorter : lows.length = highs.length := by simpa using same
      have later := inductionHypothesis (mergePair memory (first, second)).2 highs shorter
      rw [merge_cons_cons, List.zip_cons_cons, feed]
      dsimp only
      rw [later]

/-- Pairs of blocks of equal length that are not too long are merged as the bands that they are
cut from are by a merging machine. -/
theorem mergeBlocks?_eq_feed (memory : Memory) (blocks : List (List Sample × List Sample))
    (admitted : ∀ block ∈ blocks,
      block.1.length = block.2.length ∧ block.1.length ≤ maxBandLength) :
    mergeBlocks? memory blocks = some (feed mergePair memory
      ((blocks.flatMap Prod.fst).zip (blocks.flatMap Prod.snd))) := by
  induction blocks generalizing memory with
  | nil => rfl
  | cons block blocks inductionHypothesis =>
    obtain ⟨low, high⟩ := block
    obtain ⟨same, short⟩ := admitted (low, high) List.mem_cons_self
    dsimp only at same short
    have fits : Admitted (2 * low.length) low.length high.length := ⟨rfl, same.symm, short⟩
    have later := inductionHypothesis (merge memory low high).2
      fun later member => admitted later (List.mem_cons_of_mem _ member)
    rw [List.flatMap_cons, List.flatMap_cons, List.zip_append same, feed_append]
    simp only [mergeBlocks?, merge?, if_pos fits]
    rw [← merge_eq_feed memory low high same]
    simp [later]

/-- Blocks of even length that are not too long are split as their concatenation is in one piece. -/
theorem splitBlocks?_eq_split (memory : Memory) (blocks : List (List Sample))
    (admitted : ∀ block ∈ blocks, 2 ∣ block.length ∧ block.length ≤ 2 * maxBandLength) :
    2 ∣ blocks.flatten.length ∧
      splitBlocks? memory blocks = some (split memory blocks.flatten) := by
  induction blocks generalizing memory with
  | nil => exact ⟨⟨0, rfl⟩, rfl⟩
  | cons block blocks inductionHypothesis =>
    obtain ⟨even, short⟩ := admitted block List.mem_cons_self
    have halves : block.length = 2 * (block.length / 2) := (Nat.mul_div_cancel' even).symm
    have fits : Admitted block.length (block.length / 2) (block.length / 2) :=
      ⟨halves, rfl, by omega⟩
    obtain ⟨laterEven, later⟩ := inductionHypothesis (split memory block).2.2
      fun other member => admitted other (List.mem_cons_of_mem block member)
    rw [List.flatten_cons]
    refine ⟨?_, ?_⟩
    · rw [List.length_append]
      exact Nat.dvd_add even laterEven
    · rw [split_append memory (block.length / 2) block blocks.flatten halves]
      simp [splitBlocks?, split?, fits, later]

/-- Pairs of blocks of equal length that are not too long are merged as the bands that they are
cut from are in one piece. -/
theorem mergeBlocks?_eq_merge (memory : Memory) (blocks : List (List Sample × List Sample))
    (admitted : ∀ block ∈ blocks,
      block.1.length = block.2.length ∧ block.1.length ≤ maxBandLength) :
    mergeBlocks? memory blocks =
      some (merge memory (blocks.flatMap Prod.fst) (blocks.flatMap Prod.snd)) := by
  have same : (blocks.flatMap Prod.fst).length = (blocks.flatMap Prod.snd).length := by
    simp only [List.length_flatMap]
    exact congrArg List.sum (List.map_congr_left fun block member => (admitted block member).1)
  rw [mergeBlocks?_eq_feed memory blocks admitted, merge_eq_feed memory _ _ same]

end SplitBands

end VoiceEngine
