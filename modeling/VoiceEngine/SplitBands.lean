import VoiceEngine.AllPass
import VoiceEngine.Sample

/-!
# Splitting a signal into two bands

A full-band block is split into a low and a high band of half the rate. The samples at
even and at odd positions pass through two different all-pass cascades; half the sum of
the two branches is the low band and half their difference is the high band. Merging
mirrors this: the sum and the difference of the bands pass through the same two cascades,
exchanged, and the branches are the odd and the even samples of the full band.

Inside the cascades a sample is scaled by 1024, and results are rounded to the nearest
sample and saturated. Every direction keeps its own memory of two cascades, so one
channel that is split and merged again needs two memories.
-/

namespace VoiceEngine.SplitBands

/-- The coefficients of the first branch. -/
def firstCoefficients : CascadeCoefficients := ⟨6418, 36982, 57261⟩

/-- The coefficients of the second branch. -/
def secondCoefficients : CascadeCoefficients := ⟨21333, 49062, 64019⟩

/-- The longest band of one block. -/
def maxBandLength : Nat := 240

/-- Words that one cascade remembers. -/
def wordsPerCascade : Nat := 6

/-- What one direction remembers between blocks: the cascade that carries the odd samples
and the cascade that carries the even samples. -/
structure Memory where
  odd : Cascade := {}
  even : Cascade := {}
  deriving DecidableEq

/-- The lengths that one block may have: two bands of equal length, at most the longest,
and a full band of twice that length. -/
def Admitted (full low high : Nat) : Prop :=
  full = 2 * low ∧ high = low ∧ low ≤ maxBandLength

instance (full low high : Nat) : Decidable (Admitted full low high) := by
  unfold Admitted
  infer_instance

/-- The entries at even positions. -/
def evens {α : Type} : List α → List α
  | [] => []
  | [only] => [only]
  | first :: _ :: rest => first :: evens rest

/-- The entries at odd positions. -/
def odds {α : Type} : List α → List α
  | [] => []
  | [_] => []
  | _ :: second :: rest => second :: odds rest

/-- Two lists of equal length shuffled into one, the first list at even positions. -/
def alternate {α : Type} : List α → List α → List α
  | first :: even, second :: odd => first :: second :: alternate even odd
  | _, _ => []

/-- An integer on the scale that the cascades work on. -/
def raise (value : Int) : Int32 := Word.wrap32 (value * 1024)

/-- Half the rounded sum of two branches, back on the scale of samples. -/
def lowSample (odd even : Int32) : Sample :=
  Word.saturate16 ((odd.toInt + even.toInt + 1024) / 2048)

/-- Half the rounded difference of two branches, back on the scale of samples. -/
def highSample (odd even : Int32) : Sample :=
  Word.saturate16 ((odd.toInt - even.toInt + 1024) / 2048)

/-- One rounded branch, back on the scale of samples. -/
def fullSample (branch : Int32) : Sample :=
  Word.saturate16 ((Word.saturate32 (branch.toInt + 512)).toInt / 1024)

/-- The low and the high band of a block, and the memory after it. -/
def split (memory : Memory) (full : List Sample) : List Sample × List Sample × Memory :=
  let (oddBranch, odd) := memory.odd.run firstCoefficients ((odds full).map (raise ·.toInt))
  let (evenBranch, even) := memory.even.run secondCoefficients ((evens full).map (raise ·.toInt))
  (List.zipWith lowSample oddBranch evenBranch, List.zipWith highSample oddBranch evenBranch,
    { odd, even })

/-- The full band of two bands, and the memory after it. -/
def merge (memory : Memory) (low high : List Sample) : List Sample × Memory :=
  let sums := List.zipWith (fun l h => raise (l.toInt + h.toInt)) low high
  let differences := List.zipWith (fun l h => raise (l.toInt - h.toInt)) low high
  let (oddBranch, odd) := memory.odd.run secondCoefficients sums
  let (evenBranch, even) := memory.even.run firstCoefficients differences
  (alternate (evenBranch.map fullSample) (oddBranch.map fullSample), { odd, even })

/-- Splitting into bands of announced lengths; refused when the lengths are not admitted. -/
def split? (memory : Memory) (full : List Sample) (lowLength highLength : Nat) :
    Option (List Sample × List Sample × Memory) :=
  if Admitted full.length lowLength highLength then some (split memory full) else none

/-- Merging into a full band of an announced length; refused when the lengths are not
admitted. -/
def merge? (memory : Memory) (low high : List Sample) (fullLength : Nat) :
    Option (List Sample × Memory) :=
  if Admitted fullLength low.length high.length then some (merge memory low high) else none

/-- Half of the positions of a list of even length are even, half are odd. -/
theorem length_evens_odds {α : Type} (length : Nat) (full : List α)
    (even : full.length = 2 * length) :
    (evens full).length = length ∧ (odds full).length = length := by
  induction length generalizing full with
  | zero =>
    have empty : full = [] := List.eq_nil_of_length_eq_zero even
    subst empty
    exact ⟨rfl, rfl⟩
  | succ length inductionHypothesis =>
    match full, even with
    | first :: second :: rest, even =>
      simp only [List.length_cons] at even
      have shorter := inductionHypothesis rest (by omega)
      simp [evens, odds, shorter]
    | [], even => simp at even
    | [_], even =>
      simp only [List.length_cons, List.length_nil] at even
      omega

/-- A split block of even length has two bands of half that length. -/
theorem length_split (memory : Memory) (length : Nat) (full : List Sample)
    (even : full.length = 2 * length) :
    (split memory full).1.length = length ∧ (split memory full).2.1.length = length := by
  have parts := length_evens_odds length full even
  simp [split, parts]

/-- Shuffling two lists of equal length loses no entry. -/
theorem length_alternate {α : Type} (even odd : List α) (same : even.length = odd.length) :
    (alternate even odd).length = 2 * even.length := by
  induction even generalizing odd with
  | nil => simp [alternate]
  | cons first rest inductionHypothesis =>
    cases odd with
    | nil => simp at same
    | cons second others =>
      simp only [List.length_cons, Nat.add_right_cancel_iff] at same
      simp only [alternate, List.length_cons, inductionHypothesis others same]
      omega

/-- Merged bands of equal length give twice as many samples. -/
theorem length_merge (memory : Memory) (low high : List Sample) (same : high.length = low.length) :
    (merge memory low high).1.length = 2 * low.length := by
  simp [merge, length_alternate, same]

end VoiceEngine.SplitBands
