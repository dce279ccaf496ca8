import Mathlib.Data.Nat.Log
import Mathlib.Tactic.Positivity
import Mathlib.Tactic.Ring
import VoiceEngine.Scalar

/-!
# Rounding sums

Every binary32 number is a whole multiple of the smallest positive one, so what a number is worth is
counted in these units. A sum is computed exactly and then rounded to 24 significant bits. What
matters about the rounding is that it never passes a number that needs no rounding: if the exact sum
is at most such a number, the rounded sum is too, and likewise from below. This is weaker than
rounding to nearest, and enough to carry bounds through sums and differences. Storing a rounded
number and reading it back then changes nothing, if the number is not too large.

Only what sums need is shown: products and quotients do not occur in what is bounded later. Bits
that are cut off are not followed one by one. What is kept of a cut is the quotient, that rounding
takes it or the next number, and that it takes the quotient itself when nothing was cut off; this
is all that being faithful takes.
-/

namespace VoiceEngine.Scalar

open Float.Model (Format UnpackedFloat totalExponent)
open Float.Model.UnpackedFloat

/-- The number of units that a finite binary32 number is worth; nothing for the others. The unit is
the smallest positive number, with exponent -149, so no stored number is worth a fraction of it. -/
def worth : UnpackedFloat → Option Int
  | .zero _ => some 0
  | .finite sign mantissa exponent _ =>
    some (sign.apply (mantissa * 2 ^ (exponent + 149).toNat : Nat))
  | _ => none

/-- What is worth a number of units is zero or finite. Later proofs take the two cases from here and
never meet the infinities. -/
theorem worth_cases {number : UnpackedFloat} {units : Int} (its : worth number = some units) :
    (∃ sign, number = .zero sign ∧ units = 0) ∨ ∃ sign mantissa exponent positive,
      number = .finite sign mantissa exponent positive ∧
        units = sign.apply (mantissa * 2 ^ (exponent + 149).toNat : Nat) := by
  cases number with
  | infinity => cases its
  | notANumber => cases its
  | zero sign => exact .inl ⟨sign, rfl, (Option.some.inj its).symm⟩
  | finite sign mantissa exponent positive =>
    exact .inr ⟨sign, mantissa, exponent, positive, rfl, (Option.some.inj its).symm⟩

/-- A mantissa and an exponent as they are stored: 24 significant bits, or fewer at the smallest
exponent. -/
structure Settled (mantissa : Nat) (exponent : Int) : Prop where
  short : mantissa < 2 ^ 24
  least : -149 ≤ exponent
  full : 2 ^ 23 ≤ mantissa ∨ exponent = -149

/-- A binary32 number as it is stored, but for the bound on the exponent. Rounding makes numbers of
this kind, and the bound is left out because a sum may exceed it. -/
def Canonical : UnpackedFloat → Prop
  | .finite _ mantissa exponent _ => Settled mantissa exponent
  | _ => True

/-- So many units need no rounding. There is no bound on the places, so numbers far beyond the
largest finite one are among them. -/
def Storable (units : Int) : Prop :=
  ∃ (digits : Int) (places : Nat), digits.natAbs < 2 ^ 24 ∧ units = digits * 2 ^ places

/-- Rounding units in this way passes no number that needs no rounding. This says less than rounding
to nearest: the result may be either neighbour of the exact number. It says enough for intervals,
whose ends need no rounding. -/
def Faithful (exact rounded : Int) : Prop :=
  ∀ bound, Storable bound → (exact ≤ bound → rounded ≤ bound) ∧ (bound ≤ exact → bound ≤ rounded)

/-- Shifting a mantissa to the right divides it. The bits that are shifted out are remembered beside
it and do not show in the mantissa. -/
theorem mantissa_shiftRight (extended : ExtendedMantissa) (places : Nat) :
    (extended >>> places).mantissa = extended.mantissa / 2 ^ places := by
  show (places.repeat ExtendedMantissa.shiftRightOne extended).mantissa = _
  induction places with
  | zero => simp [Nat.repeat]
  | succ places inductionHypothesis =>
    rw [Nat.repeat, ExtendedMantissa.shiftRightOne, inductionHypothesis, Nat.div_div_eq_div_mul,
      Nat.pow_succ]

/-- Shifting out zeros loses nothing: both of the remembered bits stay down. The induction shifts
out one place at a time, and all places before were zeros too. -/
theorem shiftRight_of_dvd {mantissa places : Nat} (even : 2 ^ places ∣ mantissa) :
    ExtendedMantissa.ofMantissaAndAccuracy mantissa .exact >>> places =
      ⟨mantissa / 2 ^ places, false, false⟩ := by
  show places.repeat ExtendedMantissa.shiftRightOne ⟨mantissa, false, false⟩ = _
  induction places with
  | zero => simp [Nat.repeat]
  | succ places inductionHypothesis =>
    have half : 2 ^ places ∣ mantissa := (Nat.pow_dvd_pow 2 (Nat.le_succ places)).trans even
    have rest : 2 ∣ mantissa / 2 ^ places := by
      obtain ⟨factor, rfl⟩ := even
      rw [Nat.pow_succ, Nat.mul_assoc, Nat.mul_div_cancel_left _ (Nat.two_pow_pos places)]
      exact Nat.dvd_mul_right 2 factor
    rw [Nat.repeat, inductionHypothesis half, ExtendedMantissa.shiftRightOne]
    simp only [Nat.dvd_iff_mod_eq_zero.mp rest, Nat.div_div_eq_div_mul, ← Nat.pow_succ]
    rfl

/-- A rounded mantissa is the mantissa or the next one, whatever the two remembered bits are. -/
theorem roundedMantissa_near (extended : ExtendedMantissa) :
    extended.mantissa ≤ extended.roundedMantissa ∧
      extended.roundedMantissa ≤ extended.mantissa + 1 := by
  obtain ⟨mantissa, round, sticky⟩ := extended
  cases round <;> cases sticky <;>
    simp only [ExtendedMantissa.roundedMantissa, ExtendedMantissa.accuracy,
      Accuracy.roundToNearestEven] <;> omega

/-- The exponent that a mantissa is rounded at: the one that leaves 24 bits, or the smallest. -/
theorem targetExponent_eq (mantissa : Nat) (exponent : Int) :
    Format.binary32.targetExponent (totalExponent mantissa exponent) =
      max (mantissa.log2 + exponent - 23) (-149) := by
  have bits : (Format.binary32.mantissaBits : Int) = 24 := rfl
  have least : Format.binary32.minExponent = -149 := rfl
  rw [Format.targetExponent, bits, least, totalExponent]
  omega

/-- A rounded mantissa has at most one bit too many, and shifting that out loses nothing. It has one
too many only when raising it made it a power of two, which is even. -/
theorem shift_rounded (mantissa : Nat) (exponent : Int) (short : mantissa ≤ 2 ^ 24)
    (least : -149 ≤ exponent) (full : 2 ^ 23 ≤ mantissa ∨ exponent = -149) :
    let shifted := shiftToTargetExponent Format.binary32 mantissa exponent .exact
    shifted.1.mantissa * 2 ^ (shifted.2 + 149).toNat = mantissa * 2 ^ (exponent + 149).toNat ∧
      Settled shifted.1.mantissa shifted.2 := by
  simp only [shiftToTargetExponent, shiftToExponent, targetExponent_eq, mantissa_shiftRight]
  show mantissa / _ * _ = _ ∧ Settled (mantissa / _) _
  rcases Nat.lt_or_eq_of_le short with below | rfl
  · have bits : mantissa.log2 ≤ 23 := by
      by_cases zero : mantissa = 0
      · simp [zero]
      · exact Nat.lt_succ_iff.mp ((Nat.log2_lt zero).mpr below)
    rw [show (max (mantissa.log2 + exponent - 23) (-149) - exponent).toNat = 0 by omega]
    simpa using ⟨below, least, full⟩
  · rw [Nat.log2_two_pow,
      show (max ((24 : Nat) + exponent - 23) (-149) - exponent).toNat = 1 by omega,
      show (exponent + (1 : Nat) + 149).toNat = (exponent + 149).toNat + 1 by omega]
    refine ⟨by rw [Nat.pow_succ]; omega, by decide, by omega, .inl (by decide)⟩

/-- The number that a sign, a mantissa and an exponent make, which is zero without a mantissa. -/
def ofMantissa (sign : Sign) (mantissa : Nat) (exponent : Int) : UnpackedFloat :=
  if zero : mantissa = 0 then .zero sign
  else .finite sign mantissa exponent (Nat.pos_of_ne_zero zero)

/-- It is worth what they say in both cases. -/
theorem worth_ofMantissa (sign : Sign) (mantissa : Nat) (exponent : Int) :
    worth (ofMantissa sign mantissa exponent) =
      some (sign.apply (mantissa * 2 ^ (exponent + 149).toNat : Nat)) := by
  by_cases zero : mantissa = 0
  · rw [ofMantissa, dif_pos zero, zero, Nat.zero_mul]
    cases sign <;> rfl
  · rw [ofMantissa, dif_neg zero]
    rfl

/-- What is settled makes a canonical number. -/
theorem canonical_ofMantissa (sign : Sign) {mantissa : Nat} {exponent : Int}
    (settled : Settled mantissa exponent) : Canonical (ofMantissa sign mantissa exponent) := by
  by_cases zero : mantissa = 0
  · rw [ofMantissa, dif_pos zero]
    trivial
  · rw [ofMantissa, dif_neg zero]
    exact settled

/-- A mantissa is shifted to the exponent it is rounded at, rounded, and shifted once more. -/
theorem roundWithAccuracy_eq (sign : Sign) (mantissa : Nat) (exponent : Int) :
    roundWithAccuracy Format.binary32 sign mantissa exponent .exact =
      let first := shiftToTargetExponent Format.binary32 mantissa exponent .exact
      let last := shiftToTargetExponent Format.binary32 first.1.roundedMantissa first.2 .exact
      ofMantissa sign last.1.mantissa last.2 := rfl

/-- Rounding a mantissa at an exponent that is not too large: it keeps its sign, takes one of the
two mantissas next to it, and the one below if nothing is lost.

Proof: the number is shifted twice, before it is rounded and after, and the second shift is exact by
`shift_rounded`; so the result is told by the quotient of the first shift. That quotient has 24 bits
unless the exponent is the smallest. -/
theorem roundWithAccuracy_spec (sign : Sign) (mantissa : Nat) (exponent target : Int)
    (some_bit : mantissa ≠ 0) (least : -149 ≤ exponent)
    (its : max (mantissa.log2 + exponent - 23) (-149) = target) (below : exponent ≤ target) :
    ∃ rounded : Nat,
      worth (roundWithAccuracy Format.binary32 sign mantissa exponent .exact) =
        some (sign.apply (rounded * 2 ^ (target + 149).toNat : Nat)) ∧
      Canonical (roundWithAccuracy Format.binary32 sign mantissa exponent .exact) ∧
      mantissa / 2 ^ (target - exponent).toNat ≤ rounded ∧
      rounded ≤ mantissa / 2 ^ (target - exponent).toNat + 1 ∧
      (2 ^ (target - exponent).toNat ∣ mantissa →
        rounded = mantissa / 2 ^ (target - exponent).toNat) ∧
      (2 ^ 23 ≤ mantissa / 2 ^ (target - exponent).toNat ∨ target = -149) := by
  generalize places : (target - exponent).toNat = count
  have bits : mantissa.log2 ≤ 23 + count := by omega
  have short : mantissa / 2 ^ count < 2 ^ 24 := by
    rw [Nat.div_lt_iff_lt_mul (Nat.two_pow_pos count), ← Nat.pow_add]
    exact Nat.lt_of_lt_of_le Nat.lt_log2_self (Nat.pow_le_pow_right (by decide) (by omega))
  have full : 2 ^ 23 ≤ mantissa / 2 ^ count ∨ target = -149 := by
    by_cases smallest : target = -149
    · exact .inr smallest
    · rw [Nat.le_div_iff_mul_le (Nat.two_pow_pos count), ← Nat.pow_add,
        show 23 + count = mantissa.log2 by omega]
      exact .inl (Nat.log2_self_le some_bit)
  generalize shifted :
    ExtendedMantissa.ofMantissaAndAccuracy mantissa .exact >>> count = first
  have divided : first.mantissa = mantissa / 2 ^ count := by
    rw [← shifted, mantissa_shiftRight]
    rfl
  obtain ⟨above, near⟩ := roundedMantissa_near first
  rw [divided] at above near
  have first_shift : shiftToTargetExponent Format.binary32 mantissa exponent .exact =
      (first, target) := by
    rw [shiftToTargetExponent, targetExponent_eq, its, shiftToExponent, places, shifted]
    exact Prod.ext rfl (by omega)
  obtain ⟨same, settled⟩ := shift_rounded first.roundedMantissa target
    (by omega) (by omega) (by omega)
  rw [roundWithAccuracy_eq, first_shift]
  refine ⟨first.roundedMantissa, ?_, canonical_ofMantissa sign settled, above, near, fun even => ?_,
    full⟩
  · rw [worth_ofMantissa, same]
  · have exact := shiftRight_of_dvd even
    rw [shifted] at exact
    rw [exact]
    rfl

/-- So many units need no rounding exactly when as many below zero need none; the sign is stored
apart from the digits. -/
theorem Storable.neg {units : Int} (storable : Storable units) : Storable (-units) := by
  obtain ⟨digits, places, few, rfl⟩ := storable
  exact ⟨-digits, places, by rwa [Int.natAbs_neg], by rw [Int.neg_mul]⟩

/-- Rounding treats both signs alike, so it is enough to look at positive numbers. -/
theorem Faithful.neg {exact rounded : Int} (faithful : Faithful exact rounded) :
    Faithful (-exact) (-rounded) := by
  intro bound storable
  obtain ⟨below, above⟩ := faithful (-bound) storable.neg
  exact ⟨fun under => by have := above (by omega); omega,
    fun larger => by have := below (by omega); omega⟩

/-- A mantissa that is cut off and then left or raised by one is faithful, when nothing is raised
that nothing was cut from, and what is left has 24 bits or cannot have more places.

Proof: a bound with finer places than the result is too small to lie near the number, as it has no
more than 24 digits. A bound with places as coarse as those of the result is a multiple of the same
step, and between two multiples there is nothing to pass. -/
theorem faithful_of_cut (low : Nat) {mantissa rounded count : Nat}
    (above : mantissa / 2 ^ count ≤ rounded) (near : rounded ≤ mantissa / 2 ^ count + 1)
    (kept : 2 ^ count ∣ mantissa → rounded = mantissa / 2 ^ count)
    (full : 2 ^ 23 ≤ mantissa / 2 ^ count ∨ low + count = 0) :
    Faithful (mantissa * 2 ^ low : Nat) (rounded * 2 ^ (low + count) : Nat) := by
  rintro _ ⟨digits, places, few, rfl⟩
  have cut : mantissa / 2 ^ count * 2 ^ count ≤ mantissa := Nat.div_mul_le_self mantissa _
  have unit : (0 : Int) < 2 ^ low := by positivity
  have step : (0 : Int) < 2 ^ count := by positivity
  rcases Nat.lt_or_ge places (low + count) with finer | coarse
  · have normal : 2 ^ 23 ≤ mantissa / 2 ^ count := full.resolve_right (by omega)
    have small : (digits * 2 ^ places).natAbs < 2 ^ 23 * 2 ^ (low + count) := calc
      (digits * 2 ^ places).natAbs = digits.natAbs * 2 ^ places := by
        rw [Int.natAbs_mul, Int.natAbs_pow]
        rfl
      _ < 2 ^ 24 * 2 ^ places := Nat.mul_lt_mul_of_pos_right few (Nat.two_pow_pos places)
      _ = 2 ^ 23 * 2 ^ (places + 1) := by ring
      _ ≤ 2 ^ 23 * 2 ^ (low + count) :=
        Nat.mul_le_mul_left _ (Nat.pow_le_pow_right (by decide) finer)
    have large : 2 ^ 23 * 2 ^ (low + count) ≤ mantissa * 2 ^ low := calc
      2 ^ 23 * 2 ^ (low + count) = 2 ^ 23 * 2 ^ count * 2 ^ low := by ring
      _ ≤ mantissa * 2 ^ low :=
        Nat.mul_le_mul_right _ ((Nat.mul_le_mul_right _ normal).trans cut)
    have larger : 2 ^ 23 * 2 ^ (low + count) ≤ rounded * 2 ^ (low + count) :=
      Nat.mul_le_mul_right _ (normal.trans above)
    constructor <;> omega
  · obtain ⟨extra, rfl⟩ : ∃ extra, places = low + count + extra :=
      ⟨places - (low + count), by omega⟩
    have scaled :
        digits * 2 ^ (low + count + extra) = digits * 2 ^ extra * 2 ^ count * 2 ^ low := by
      ring
    have result : ((rounded * 2 ^ (low + count) : Nat) : Int) = rounded * 2 ^ count * 2 ^ low := by
      push_cast
      ring
    rw [scaled, result]
    generalize digits * 2 ^ extra = whole
    push_cast
    constructor
    · intro under
      have within : (mantissa : Int) ≤ whole * 2 ^ count := Int.le_of_mul_le_mul_right under unit
      have raised : (rounded : Int) ≤ whole := by
        by_cases even : 2 ^ count ∣ mantissa
        · rw [kept even]
          refine Int.le_of_mul_le_mul_right (le_trans ?_ within) step
          exact_mod_cast cut
        · have lost : mantissa / 2 ^ count * 2 ^ count < mantissa :=
            Nat.lt_of_le_of_ne cut fun same => even ⟨_, by rw [Nat.mul_comm, same]⟩
          have under : ((mantissa / 2 ^ count : Nat) : Int) < whole := by
            refine Int.lt_of_mul_lt_mul_right (lt_of_lt_of_le ?_ within) (Int.le_of_lt step)
            exact_mod_cast lost
          omega
      exact Int.mul_le_mul_of_nonneg_right
        (Int.mul_le_mul_of_nonneg_right raised (Int.le_of_lt step)) (Int.le_of_lt unit)
    · intro larger
      have within : whole * 2 ^ count ≤ (mantissa : Int) := Int.le_of_mul_le_mul_right larger unit
      have below : whole ≤ (mantissa / 2 ^ count : Nat) := by
        rw [Int.natCast_ediv]
        exact (Int.le_ediv_iff_mul_le (by positivity)).mpr (by push_cast; exact within)
      exact Int.mul_le_mul_of_nonneg_right
        (Int.mul_le_mul_of_nonneg_right (by omega) (Int.le_of_lt step)) (Int.le_of_lt unit)

/-- Zero needs no rounding. -/
theorem storable_zero : Storable 0 := ⟨0, 0, by decide, rfl⟩

/-- A power of two needs no rounding. -/
theorem storable_two_pow (places : Nat) : Storable (2 ^ places) :=
  ⟨1, places, by decide, (Int.one_mul _).symm⟩

/-- What a number is rounded to is not too large if the number is not. Powers of two are bounds that
need no rounding, so they stay bounds. -/
theorem Faithful.natAbs_le {exact rounded : Int} (faithful : Faithful exact rounded)
    {places : Nat} (small : exact.natAbs ≤ 2 ^ places) : rounded.natAbs ≤ 2 ^ places := by
  have power : ((2 ^ places : Nat) : Int) = 2 ^ places := by push_cast; rfl
  have above := (faithful _ (storable_two_pow places)).1 (by omega)
  have below := (faithful _ (storable_two_pow places).neg).2 (by omega)
  omega

/-- A number of units is rounded to a canonical one, and faithfully. This is what is shown of every
operation; what the rounded number is stays open. -/
def RoundsTo (exact : Int) (result : UnpackedFloat) : Prop :=
  ∃ rounded, worth result = some rounded ∧ Canonical result ∧ Faithful exact rounded

/-- A mantissa and an exponent that is not too small are rounded faithfully. The mantissa is first
moved to the left if the exponent is larger than the one it is rounded at, so that cutting is by a
number of places that is not negative; what it is worth stays the same. -/
theorem round_spec (sign : Sign) (mantissa : Nat) {exponent : Int} (some_bit : mantissa ≠ 0)
    (least : -149 ≤ exponent) :
    RoundsTo (sign.apply (mantissa * 2 ^ (exponent + 149).toNat : Nat))
      (UnpackedFloat.round Format.binary32 sign mantissa exponent) := by
  generalize its : max ((mantissa.log2 : Int) + exponent - 23) (-149) = target
  generalize spare : (exponent - target).toNat = shift
  have nonzero : mantissa * 2 ^ shift ≠ 0 := Nat.mul_ne_zero some_bit (by positivity)
  have bits : (mantissa * 2 ^ shift).log2 = mantissa.log2 + shift := by
    refine (Nat.log2_eq_iff nonzero).mpr ⟨?_, ?_⟩
    · rw [Nat.pow_add]
      exact Nat.mul_le_mul_right _ (Nat.log2_self_le some_bit)
    · rw [Nat.add_right_comm, Nat.pow_add]
      exact Nat.mul_lt_mul_of_pos_right Nat.lt_log2_self (Nat.two_pow_pos shift)
  have lower : -149 ≤ exponent - shift := by omega
  obtain ⟨rounded, value, canonical, above, near, kept, full⟩ := roundWithAccuracy_spec sign
    (mantissa * 2 ^ shift) (exponent - shift) target nonzero lower (by rw [bits]; omega) (by omega)
  have unfolded : UnpackedFloat.round Format.binary32 sign mantissa exponent =
      roundWithAccuracy Format.binary32 sign (mantissa * 2 ^ shift) (exponent - shift) .exact := by
    rw [UnpackedFloat.round, targetExponent_eq, its]
    simp only [decreaseExponent, spare, Nat.shiftLeft_eq]
  have faithful := faithful_of_cut (exponent - shift + 149).toNat above near kept
    (full.imp_right (by omega))
  rw [Nat.mul_assoc, ← Nat.pow_add,
    show shift + (exponent - shift + 149).toNat = (exponent + 149).toNat by omega,
    show (exponent - shift + 149).toNat + (target - (exponent - shift)).toNat =
      (target + 149).toNat by omega] at faithful
  rw [unfolded]
  refine ⟨_, value, canonical, ?_⟩
  cases sign with
  | positive => exact faithful
  | negative => exact faithful.neg

/-- A whole number and an exponent that is not too small are rounded faithfully. The sign is split
off before the mantissa is rounded, and zero is left as it is. -/
theorem normalize_spec (digits : Int) {exponent : Int} (least : -149 ≤ exponent) (zeroSign : Sign) :
    RoundsTo (digits * 2 ^ (exponent + 149).toNat)
      (UnpackedFloat.normalize Format.binary32 digits exponent zeroSign) := by
  simp only [UnpackedFloat.normalize]
  split
  case h_1 order =>
    have negative : digits < 0 := compare_lt_iff_lt.mp order
    have result := round_spec .negative (-digits).toNat (by omega) least
    have worthy : Sign.apply .negative ((-digits).toNat * 2 ^ (exponent + 149).toNat : Nat) =
        digits * 2 ^ (exponent + 149).toNat := by
      show -_ = _
      push_cast
      rw [Int.toNat_of_nonneg (by omega)]
      ring
    rwa [worthy] at result
  case h_2 order =>
    have zero : digits = 0 := compare_eq_iff_eq.mp order
    rw [zero, Int.zero_mul]
    exact ⟨0, rfl, trivial, fun bound _ => ⟨id, id⟩⟩
  case h_3 order =>
    have positive : 0 < digits := compare_gt_iff_gt.mp order
    have result := round_spec .positive digits.toNat (by omega) least
    have worthy : Sign.apply .positive (digits.toNat * 2 ^ (exponent + 149).toNat : Nat) =
        digits * 2 ^ (exponent + 149).toNat := by
      show ((digits.toNat * 2 ^ (exponent + 149).toNat : Nat) : Int) = _
      push_cast
      rw [Int.toNat_of_nonneg (by omega)]
    rwa [worthy] at result

/-- A whole number of less than 25 bits needs no rounding. -/
theorem storable_whole {number : Int} (few : number.natAbs < 2 ^ 24) :
    Storable (number * 2 ^ 149) :=
  ⟨number, 149, few, rfl⟩

/-- The difference of a whole number and one that needs no rounding needs none, when it is not
larger than this one. It has no finer places than the two have, and not being larger it has no more
digits. -/
theorem Storable.whole_sub {units number : Int} (storable : Storable units)
    (small : units.natAbs < 2 ^ 24 * 2 ^ 149)
    (near : (number * 2 ^ 149 - units).natAbs ≤ units.natAbs) :
    Storable (number * 2 ^ 149 - units) := by
  obtain ⟨digits, places, few, rfl⟩ := storable
  have size (factor : Int) (count : Nat) :
      (factor * 2 ^ count).natAbs = factor.natAbs * 2 ^ count := by
    rw [Int.natAbs_mul, Int.natAbs_pow]
    rfl
  rcases Nat.le_total places 149 with fine | coarse
  · obtain ⟨rest, whole⟩ : ∃ rest, 149 = rest + places := ⟨149 - places, by omega⟩
    have difference : number * 2 ^ 149 - digits * 2 ^ places =
        (number * 2 ^ rest - digits) * 2 ^ places := by
      rw [whole]
      ring
    rw [difference, size, size] at near
    refine ⟨_, places, lt_of_le_of_lt ?_ few, difference⟩
    exact Nat.le_of_mul_le_mul_right near (by positivity)
  · obtain ⟨rest, rfl⟩ : ∃ rest, places = rest + 149 := ⟨places - 149, by omega⟩
    have difference : number * 2 ^ 149 - digits * 2 ^ (rest + 149) =
        (number - digits * 2 ^ rest) * 2 ^ 149 := by
      ring
    refine ⟨_, 149, ?_, difference⟩
    rw [difference, size] at near
    exact Nat.lt_of_mul_lt_mul_right (lt_of_le_of_lt near small)

/-- What is canonical is rounded to itself; adding zero is the case this is for. -/
theorem roundsTo_self {number : UnpackedFloat} {units : Int} (its : worth number = some units)
    (canonical : Canonical number) : RoundsTo units number :=
  ⟨units, its, canonical, fun _ _ => ⟨id, id⟩⟩

/-- Aligning a mantissa to a smaller exponent keeps what it is worth, because it is moved to the
left by the difference. -/
theorem apply_aligned (sign : Sign) {mantissa : Nat} {exponent smaller : Int}
    (least : -149 ≤ smaller) (ordered : smaller ≤ exponent) :
    sign.apply ((decreaseExponent mantissa exponent smaller).1 : Nat) *
        2 ^ (smaller + 149).toNat =
      sign.apply (mantissa * 2 ^ (exponent + 149).toNat : Nat) := by
  have places : (exponent + 149).toNat = (exponent - smaller).toNat + (smaller + 149).toNat := by
    omega
  rw [decreaseExponent, Nat.shiftLeft_eq, places, Nat.pow_add, ← Nat.mul_assoc]
  cases sign with
  | positive =>
    show ((_ : Nat) : Int) * _ = (_ : Nat)
    push_cast
    rfl
  | negative =>
    show -((_ : Nat) : Int) * _ = -(_ : Nat)
    push_cast
    ring

/-- The sum of two canonical numbers is the exact sum, rounded. Both mantissas are aligned to the
smaller exponent and added as whole numbers, so nothing is lost until the sum is rounded. -/
theorem add_spec {first second : UnpackedFloat} {left right : Int}
    (firstWorth : worth first = some left) (secondWorth : worth second = some right)
    (firstCanonical : Canonical first) (secondCanonical : Canonical second) :
    RoundsTo (left + right) (UnpackedFloat.add Format.binary32 first second) := by
  rcases worth_cases firstWorth with ⟨sign, rfl, rfl⟩ |
    ⟨sign, mantissa, exponent, positive, rfl, rfl⟩
  · rw [Int.zero_add]
    rcases worth_cases secondWorth with ⟨other, rfl, rfl⟩ | ⟨other, _, _, _, rfl, -⟩
    · cases sign <;> cases other <;> exact roundsTo_self rfl trivial
    · exact roundsTo_self secondWorth secondCanonical
  · rcases worth_cases secondWorth with ⟨other, rfl, rfl⟩ |
      ⟨other, otherMantissa, otherExponent, otherPositive, rfl, rfl⟩
    · rw [Int.add_zero]
      exact roundsTo_self firstWorth firstCanonical
    · have least : -149 ≤ min exponent otherExponent :=
        le_min firstCanonical.least secondCanonical.least
      have sum := normalize_spec
        (sign.apply ((decreaseExponent mantissa exponent (min exponent otherExponent)).1 : Nat) +
          other.apply
            ((decreaseExponent otherMantissa otherExponent (min exponent otherExponent)).1 : Nat))
        least .positive
      rw [Int.add_mul, apply_aligned sign least (min_le_left _ _),
        apply_aligned other least (min_le_right _ _)] at sum
      exact sum

/-- The negative of a number is worth the negative, and canonical: only the sign changes. -/
theorem neg_spec {number : UnpackedFloat} {units : Int} (its : worth number = some units)
    (canonical : Canonical number) :
    worth number.neg = some (-units) ∧ Canonical number.neg := by
  rcases worth_cases its with ⟨sign, rfl, rfl⟩ | ⟨sign, mantissa, exponent, positive, rfl, rfl⟩
  · exact ⟨rfl, trivial⟩
  · refine ⟨?_, canonical⟩
    cases sign with
    | positive => rfl
    | negative => exact congrArg some (Int.neg_neg _).symm

/-- Subtracting is adding the negative. The two are defined apart but agree in all cases, so what is
known of sums holds of differences. -/
theorem sub_eq_add_neg (first second : UnpackedFloat) :
    UnpackedFloat.sub Format.binary32 first second =
      UnpackedFloat.add Format.binary32 first second.neg := by
  cases first <;> cases second <;> try rfl
  case finite.finite sign mantissa exponent positive other otherMantissa otherExponent
      otherPositive =>
    cases other with
    | positive => rfl
    | negative =>
      show UnpackedFloat.normalize _ (_ - -_) _ _ = UnpackedFloat.normalize _ (_ + _) _ _
      rw [Int.sub_neg]
      rfl

/-- The implicit bit stands above the 23 that are stored. -/
theorem toNat_implicit (mantissa : BitVec 23) :
    (1#1 ++ mantissa).toNat = 2 ^ 23 + mantissa.toNat := by
  rw [BitVec.toNat_append, ← Nat.shiftLeft_add_eq_or_of_lt mantissa.isLt]
  rfl

/-- What the three fields of a stored number stand for. The largest exponent is that of the
infinities and of what is not a number, and the smallest that of the mantissas without the implicit
bit. -/
def ofFields (sign : Sign) (exponent : BitVec 8) (mantissa : BitVec 23) : UnpackedFloat :=
  if exponent = -1#8 then
    if mantissa = 0#23 then .infinity sign else .notANumber
  else if exponent = 0#8 then
    if zero : mantissa = 0#23 then .zero sign
    else
      .finite sign mantissa.toNat ((exponent.toNat : Int) - (127 + 23) + 1)
        (Nat.pos_of_ne_zero fun nothing => zero (BitVec.eq_of_toNat_eq nothing))
  else
    .finite sign (1#1 ++ mantissa).toNat ((exponent.toNat : Int) - (127 + 23))
      (by rw [toNat_implicit]; omega)

/-- What is stored is told by its fields. -/
theorem unpack_eq_ofFields (bits : BitVec Format.binary32.numBits) :
    unpack Format.binary32 bits =
      ofFields (.ofBitVec (unpackSign bits)) (unpackExponent bits) (unpackMantissa bits) := rfl

/-- What fields stand for is canonical. The exponent decides the case: in all but the two special
ones the implicit bit makes 24 bits. -/
theorem canonical_ofFields (sign : Sign) (exponent : BitVec 8) (mantissa : BitVec 23) :
    Canonical (ofFields sign exponent mantissa) := by
  have fraction := mantissa.isLt
  by_cases special : exponent = -1#8
  · rw [ofFields, if_pos special]
    by_cases empty : mantissa = 0#23
    · rw [if_pos empty]
      trivial
    · rw [if_neg empty]
      trivial
  by_cases smallest : exponent = 0#8
  · have least : exponent.toNat = 0 := congrArg BitVec.toNat smallest
    rw [ofFields, if_neg special, if_pos smallest]
    by_cases empty : mantissa = 0#23
    · rw [dif_pos empty]
      trivial
    · rw [dif_neg empty]
      exact ⟨by omega, by omega, .inr (by omega)⟩
  · have some_place : exponent.toNat ≠ 0 := fun zero => smallest (BitVec.eq_of_toNat_eq zero)
    have implicit := toNat_implicit mantissa
    rw [ofFields, if_neg special, if_neg smallest]
    exact ⟨by omega, by omega, .inl (by omega)⟩

/-- What is stored is canonical. -/
theorem canonical_unpack (bits : BitVec Format.binary32.numBits) :
    Canonical (unpack Format.binary32 bits) :=
  canonical_ofFields (.ofBitVec (unpackSign bits)) (unpackExponent bits) (unpackMantissa bits)

/-- The sign is read back as it was stored: it is the one bit before those of the exponent and the
mantissa. -/
theorem unpackSign_pack {format : Float.Model.Format} (sign : Sign)
    (exponent : BitVec format.exponentBits) (mantissa : BitVec format.mantissaBitsWithoutImplicit) :
    Sign.ofBitVec (unpackSign (packComponents format sign exponent mantissa)) = sign := by
  have stored : unpackSign (packComponents format sign exponent mantissa) = sign.toBitVec := by
    ext place first
    have only : place = 0 := Nat.lt_one_iff.mp first
    subst only
    change (BitVec.cast _ (BitVec.extractLsb _ _ (packComponents format sign exponent mantissa)))[0]
      = sign.toBitVec[0]
    simp [packComponents, BitVec.getLsbD_append, BitVec.getElem_append]
  rw [stored]
  cases sign <;> rfl

/-- The fields are read back as they were stored. -/
theorem unpack_packComponents (sign : Sign) (exponent : BitVec 8) (mantissa : BitVec 23) :
    unpack Format.binary32 (packComponents Format.binary32 sign exponent mantissa) =
      ofFields sign exponent mantissa := by
  rw [unpack_eq_ofFields, unpackSign_pack, unpackExponent_packComponents,
    unpackMantissa_packComponents]

/-- A zero is read back with its sign. -/
theorem unpack_pack_zero (sign : Sign) :
    unpack Format.binary32 (pack Format.binary32 (.zero sign)) = .zero sign :=
  unpack_packComponents sign 0#8 0#23

/-- An infinity is read back with its sign. -/
theorem unpack_packedInfinity (sign : Sign) :
    unpack Format.binary32 (packedInfinity Format.binary32 sign) = .infinity sign :=
  unpack_packComponents sign (-1#8) 0#23

/-- A finite number is stored as an infinity if its exponent is too large, without the first bit of
its mantissa if that has 24, and with all of it otherwise. -/
theorem pack_finite (sign : Sign) (mantissa : Nat) (exponent : Int) (positive : 0 < mantissa) :
    pack Format.binary32 (.finite sign mantissa exponent positive) =
      if 2 ^ 8 ≤ (exponent + 127 + 23).toNat + 1 then packedInfinity Format.binary32 sign
      else if mantissa.log2 + 1 = 24 then
        packComponents Format.binary32 sign (BitVec.ofNat 8 (exponent + 127 + 23).toNat)
          (BitVec.ofNat 23 mantissa)
      else packComponents Format.binary32 sign 0#8 (BitVec.ofNat 23 mantissa) := rfl

/-- A canonical number whose exponent is not too large is read back as it was stored.

Proof: the exponent is stored 150 higher, which the bound keeps from the largest pattern, the one
for the infinities. With 24 bits the first is left out when stored and put back when read; with
fewer the exponent is the smallest, which is stored as zero. -/
theorem unpack_pack_finite (sign : Sign) {mantissa : Nat} {exponent : Int}
    (settled : Settled mantissa exponent) (small : exponent ≤ 104) (positive : 0 < mantissa) :
    unpack Format.binary32 (pack Format.binary32 (.finite sign mantissa exponent positive)) =
      .finite sign mantissa exponent positive := by
  obtain ⟨short, least, full⟩ := settled
  have fits : ¬ 2 ^ 8 ≤ (exponent + 127 + 23).toNat + 1 := by omega
  rw [pack_finite, if_neg fits]
  by_cases normal : 2 ^ 23 ≤ mantissa
  · have bits : mantissa.log2 + 1 = 24 :=
      congrArg (· + 1) ((Nat.log2_eq_iff (by omega)).mpr ⟨normal, short⟩)
    have stored : (BitVec.ofNat 8 (exponent + 127 + 23).toNat).toNat =
        (exponent + 127 + 23).toNat := by
      rw [BitVec.toNat_ofNat, Nat.mod_eq_of_lt (by omega)]
    have ordinary : BitVec.ofNat 8 (exponent + 127 + 23).toNat ≠ -1#8 := by
      intro same
      have largest := congrArg BitVec.toNat same
      rw [stored] at largest
      have : (-1#8).toNat = 255 := rfl
      omega
    have nonzero : BitVec.ofNat 8 (exponent + 127 + 23).toNat ≠ 0#8 := by
      intro same
      have zero := congrArg BitVec.toNat same
      rw [stored] at zero
      have : (0#8).toNat = 0 := rfl
      omega
    have implicit : (1#1 ++ BitVec.ofNat 23 mantissa).toNat = mantissa := by
      rw [toNat_implicit, BitVec.toNat_ofNat]
      omega
    rw [if_pos bits, unpack_packComponents, ofFields, if_neg ordinary, if_neg nonzero,
      UnpackedFloat.finite.injEq]
    exact ⟨rfl, implicit, by rw [stored]; omega⟩
  · have subnormal : exponent = -149 := full.resolve_left normal
    have bits : mantissa.log2 + 1 ≠ 24 := by
      have := (Nat.log2_lt (by omega)).mpr (Nat.not_le.mp normal)
      omega
    have fraction : (BitVec.ofNat 23 mantissa).toNat = mantissa := by
      rw [BitVec.toNat_ofNat, Nat.mod_eq_of_lt (by omega)]
    have nonzero : BitVec.ofNat 23 mantissa ≠ 0#23 := by
      intro same
      rw [same] at fraction
      exact absurd fraction (Nat.ne_of_lt positive)
    rw [if_neg bits, unpack_packComponents, ofFields, if_neg (by decide), if_pos rfl,
      dif_neg nonzero, UnpackedFloat.finite.injEq]
    exact ⟨rfl, fraction, subnormal.symm⟩

end VoiceEngine.Scalar
