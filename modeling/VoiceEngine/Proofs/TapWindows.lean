import VoiceEngine.Effect.EchoCanceller

/-!
# What the taps of the echo canceller meet

The filter of the canceller keeps every far-end value that it passes, in a list that grows with the
samples and of which its taps meet the newest values. Here a sample comes with the values that its
taps meet and with no others, so that it can be said where in a longer line these values lie. The
filter that is told so is the same, as long as there are enough older values for all taps.
-/

namespace VoiceEngine

namespace EchoCanceller

/-- The filter over captured samples that come each with the values that its taps meet, newest
first. The products of the weights with these values add up to the predicted echo. What is left of
the sample moves every weight along the value that its tap meets, divided by the sum of the squares
of these values. -/
def filterWindows (regularization : Scalar) :
    List Scalar → List (Sample × List Scalar) → List Scalar × List Residue
  | weights, [] => (weights, [])
  | weights, (sample, window) :: rest =>
    let echo := (List.zipWith (· * ·) weights window).foldl (· + ·) 0.0
    let norm := (window.map fun value => value * value).foldl (· + ·) 0.0
    let left := Float32.ofInt sample.toInt - echo
    let step := 0.5 * left / (norm + regularization)
    let (final, residues) := filterWindows regularization
      (List.zipWith (fun weight value => weight + step * value) weights window) rest
    (final, { left, echo } :: residues)

/-- The prediction takes in as many of the values as there are weights. -/
theorem predict_eq (echo norm : Scalar) {weights values : List Scalar}
    (enough : weights.length ≤ values.length) :
    predict echo norm weights values =
      ((List.zipWith (· * ·) weights (values.take weights.length)).foldl (· + ·) echo,
        ((values.take weights.length).map fun value => value * value).foldl (· + ·) norm) := by
  induction weights generalizing echo norm values with
  | nil => simp [predict]
  | cons weight weights inductionHypothesis =>
    cases values with
    | nil => exact absurd enough (Nat.not_succ_le_zero _)
    | cons value values =>
      rw [predict, inductionHypothesis _ _ (Nat.le_of_succ_le_succ enough)]
      rfl

/-- So does the correction of the weights. -/
theorem adapt_eq (step : Scalar) (weights values : List Scalar) :
    adapt step weights values =
      List.zipWith (fun weight value => weight + step * value) weights
        (values.take weights.length) := by
  rw [adapt]
  induction weights generalizing values with
  | nil => rfl
  | cons weight weights inductionHypothesis =>
    cases values with
    | nil => rfl
    | cons value values =>
      rw [List.zipWith_cons_cons, inductionHypothesis]
      rfl

/-- The values that the taps meet at an instant of a frame: the newest ones of those passed before
the frame and of those of the frame up to the instant. -/
def window (taps : Nat) (past values : List Scalar) (instant : Nat) : List Scalar :=
  ((values.take (instant + 1)).reverse ++ past).take taps

/-- The filter meets its values window by window. Induct along the frame: the first value goes to
the older ones, and the windows of the others are the same from there. -/
theorem filter_eq (regularization : Scalar) {weights past : List Scalar}
    (reach : weights.length ≤ past.length + 1) (samples : List Sample) (values : List Scalar) :
    filter regularization weights past (samples.zip values) =
      filterWindows regularization weights
        (samples.zip ((List.range values.length).map (window weights.length past values))) := by
  induction values generalizing weights past samples with
  | nil => rw [List.zip_nil_right, List.length_nil, List.range_zero, List.map_nil,
      List.zip_nil_right, filter, filterWindows]
  | cons value values inductionHypothesis =>
    cases samples with
    | nil => rfl
    | cons sample samples =>
      have met : window weights.length past (value :: values) 0 =
          (value :: past).take weights.length := by simp [window]
      have later : (fun instant => window weights.length past (value :: values) (instant + 1)) =
          window weights.length (value :: past) values := by
        funext instant
        simp [window]
      have size (step : Scalar) : (adapt step weights (value :: past)).length =
          weights.length := by
        rw [adapt, List.length_zipWith, List.length_cons]
        omega
      have enough : weights.length ≤ (value :: past).length := reach
      rw [List.zip_cons_cons, filter, List.length_cons, List.range_succ_eq_map, List.map_cons,
        List.map_map, List.zip_cons_cons, filterWindows]
      simp only [predict_eq 0.0 0.0 enough]
      rw [inductionHypothesis (by rw [size, List.length_cons]; omega), size]
      simp only [met, Function.comp_def, Nat.succ_eq_add_one, later, adapt_eq]
      rfl

/-- A channel runs its filter window by window. -/
theorem Channel.run_eq {channel : Channel} {past : List Scalar}
    (reach : channel.weights.length ≤ past.length + 1) (near : List Sample)
    (reference : List Scalar) :
    let windows := (List.range reference.length).map
      (window channel.weights.length past reference)
    let filtered := filterWindows (10000.0 * Float32.ofNat channel.weights.length) channel.weights
      (near.zip windows)
    channel.run past near reference =
      { channel with
        weights := filtered.1
        left := filtered.2.map (·.left)
        echo := filtered.2.map (·.echo) } := by
  intro windows filtered
  have same := filter_eq (regularizationPerTap * Scalar.ofCount channel.weights.length) reach near
    reference
  rw [run]
  simp only [same]
  rfl

end EchoCanceller

end VoiceEngine
