import VoiceEngine.Proofs.Rounding

/-!
# Scalars as numbers

A scalar that is a number and not infinite denotes a whole number of the smallest units. Sums and
differences of such scalars denote the exact results, rounded, as long as these are not too large;
comparisons, the smaller of two scalars and confining to an interval are exact. A scalar of which
nothing is known but that it is a number denotes one as soon as it is confined to an interval.
-/

namespace VoiceEngine.Scalar

open Float.Model (Format UnpackedFloat)
open Float.Model.UnpackedFloat

/-- The scalar is a number, and worth so many units. What is computed with scalars is from here on
told by whole numbers. -/
def Denotes (value : Scalar) (units : Int) : Prop := worth value.toModel.unpack = some units

/-- Zero denotes none of them. -/
theorem denotes_zero : Denotes 0.0 0 := by
  unfold Denotes
  decide +kernel

/-- A canonical number that is not too large is stored as a scalar that denotes it. The bound is far
beyond all values that occur, and keeps the exponent from the one that stands for the infinities. -/
theorem denotes_pack {number : UnpackedFloat} {units : Int} (its : worth number = some units)
    (canonical : Canonical number) (small : units.natAbs ≤ 2 ^ 200) :
    Denotes (.ofModel (.pack number)) units := by
  show worth (unpack Format.binary32 (pack Format.binary32 number)) = some units
  rcases worth_cases its with ⟨sign, rfl, rfl⟩ | ⟨sign, mantissa, exponent, positive, rfl, rfl⟩
  · rwa [unpack_pack_zero]
  · have fits : exponent ≤ 104 := by
      by_contra large
      have normal : 2 ^ 23 ≤ mantissa := canonical.full.resolve_right (by omega)
      have size : (sign.apply (mantissa * 2 ^ (exponent + 149).toNat : Nat)).natAbs =
          mantissa * 2 ^ (exponent + 149).toNat := by
        cases sign with
        | positive => exact Int.natAbs_natCast _
        | negative => exact (Int.natAbs_neg _).trans (Int.natAbs_natCast _)
      have huge : 2 ^ 23 * 2 ^ 254 ≤ mantissa * 2 ^ (exponent + 149).toNat :=
        Nat.mul_le_mul normal (Nat.pow_le_pow_right (by decide) (by omega))
      rw [size] at small
      exact absurd (huge.trans small) (by decide)
    rwa [unpack_pack_finite sign canonical fits positive]

/-- A sum that is not too large denotes the exact sum, rounded. The rounded sum is not too large
either, since rounding is faithful, so it can be stored. -/
theorem denotes_add {first second : Scalar} {left right : Int} (firstDenotes : Denotes first left)
    (secondDenotes : Denotes second right) (small : (left + right).natAbs ≤ 2 ^ 200) :
    ∃ rounded, Denotes (first + second) rounded ∧ Faithful (left + right) rounded := by
  obtain ⟨rounded, its, canonical, faithful⟩ := add_spec firstDenotes secondDenotes
    (canonical_unpack _) (canonical_unpack _)
  exact ⟨rounded, denotes_pack its canonical (faithful.natAbs_le small), faithful⟩

/-- A difference that is not too large denotes the exact difference, rounded, as it is the sum with
the negative. -/
theorem denotes_sub {first second : Scalar} {left right : Int} (firstDenotes : Denotes first left)
    (secondDenotes : Denotes second right) (small : (left - right).natAbs ≤ 2 ^ 200) :
    ∃ rounded, Denotes (first - second) rounded ∧ Faithful (left - right) rounded := by
  obtain ⟨negative, negCanonical⟩ := neg_spec secondDenotes (canonical_unpack _)
  obtain ⟨rounded, its, canonical, faithful⟩ :=
    add_spec firstDenotes negative (canonical_unpack _) negCanonical
  rw [← Int.sub_eq_add_neg] at faithful
  refine ⟨rounded, ?_, faithful⟩
  have stored := denotes_pack its canonical (faithful.natAbs_le small)
  rw [← sub_eq_add_neg] at stored
  exact stored

/-- The negative of a number that is not too large denotes the negative. -/
theorem Denotes.neg {value : Scalar} {units : Int} (denotes : Denotes value units)
    (small : units.natAbs ≤ 2 ^ 200) : Denotes (-value) (-units) := by
  obtain ⟨negative, canonical⟩ := neg_spec denotes (canonical_unpack _)
  exact denotes_pack negative canonical (by rwa [Int.natAbs_neg])

/-- The exponents and then the mantissas of two positive numbers compare them. A number with the
larger exponent has 24 bits, as only the smallest exponent goes with fewer, and so it is the larger
one whatever the mantissas are. -/
theorem compare_settled {mantissa other : Nat} {exponent otherExponent : Int}
    (settled : Settled mantissa exponent) (otherSettled : Settled other otherExponent) :
    (compare exponent otherExponent).then (compare mantissa other) =
      compare ((mantissa * 2 ^ (exponent + 149).toNat : Nat) : Int)
        (other * 2 ^ (otherExponent + 149).toNat : Nat) := by
  have apart {low high : Nat} {lower higher : Int} (first : Settled low lower)
      (second : Settled high higher) (less : lower < higher) :
      low * 2 ^ (lower + 149).toNat < high * 2 ^ (higher + 149).toNat := by
    have least := first.least
    have normal : 2 ^ 23 ≤ high := second.full.resolve_right (by omega)
    calc
      low * 2 ^ (lower + 149).toNat < 2 ^ 24 * 2 ^ (lower + 149).toNat :=
        Nat.mul_lt_mul_of_pos_right first.short (by positivity)
      _ = 2 ^ 23 * 2 ^ ((lower + 149).toNat + 1) := by ring
      _ ≤ high * 2 ^ (higher + 149).toNat :=
        Nat.mul_le_mul normal (Nat.pow_le_pow_right (by decide) (by omega))
  have scale : 0 < 2 ^ (exponent + 149).toNat := by positivity
  rcases lt_trichotomy exponent otherExponent with less | same | more
  · rw [Int.compare_eq_lt.mpr less,
      Int.compare_eq_lt.mpr (Int.ofNat_lt.mpr (apart settled otherSettled less))]
    rfl
  · subst same
    rw [Int.compare_eq_eq.mpr rfl]
    rcases lt_trichotomy mantissa other with less | same | more
    · rw [Nat.compare_eq_lt.mpr less,
        Int.compare_eq_lt.mpr (Int.ofNat_lt.mpr (Nat.mul_lt_mul_of_pos_right less scale))]
      rfl
    · rw [same, Nat.compare_eq_eq.mpr rfl, Int.compare_eq_eq.mpr rfl]
      rfl
    · rw [Nat.compare_eq_gt.mpr more,
        Int.compare_eq_gt.mpr (Int.ofNat_lt.mpr (Nat.mul_lt_mul_of_pos_right more scale))]
      rfl
  · rw [Int.compare_eq_gt.mpr more,
      Int.compare_eq_gt.mpr (Int.ofNat_lt.mpr (apart otherSettled settled more))]
    rfl

/-- Canonical numbers are compared as what they are worth. The cases are those of the two numbers,
zero or finite, and of their signs; only equal signs need the sizes. -/
theorem compare_spec {first second : UnpackedFloat} {left right : Int}
    (firstWorth : worth first = some left) (secondWorth : worth second = some right)
    (firstCanonical : Canonical first) (secondCanonical : Canonical second) :
    UnpackedFloat.compare first second = some (compare left right) := by
  have positive_of {mantissa : Nat} (places : Nat) (some_bit : 0 < mantissa) :
      (0 : Int) < (mantissa * 2 ^ places : Nat) := by
    exact_mod_cast Nat.mul_pos some_bit (Nat.two_pow_pos places)
  rcases worth_cases firstWorth with ⟨sign, rfl, rfl⟩ |
    ⟨sign, mantissa, exponent, some_bit, rfl, rfl⟩
  · rcases worth_cases secondWorth with ⟨other, rfl, rfl⟩ |
      ⟨other, mantissa, exponent, some_bit, rfl, rfl⟩
    · rfl
    · have nonzero := positive_of (exponent + 149).toNat some_bit
      cases other with
      | positive => exact congrArg some (Int.compare_eq_lt.mpr nonzero).symm
      | negative => exact congrArg some (Int.compare_eq_gt.mpr (Int.neg_neg_of_pos nonzero)).symm
  · have nonzero := positive_of (exponent + 149).toNat some_bit
    rcases worth_cases secondWorth with ⟨other, rfl, rfl⟩ |
      ⟨other, otherMantissa, otherExponent, otherBit, rfl, rfl⟩
    · cases sign with
      | positive => exact congrArg some (Int.compare_eq_gt.mpr nonzero).symm
      | negative => exact congrArg some (Int.compare_eq_lt.mpr (Int.neg_neg_of_pos nonzero)).symm
    · have otherNonzero := positive_of (otherExponent + 149).toNat otherBit
      have sizes := compare_settled firstCanonical secondCanonical
      cases sign with
      | positive =>
        cases other with
        | positive => exact congrArg some sizes
        | negative =>
          refine congrArg some (Int.compare_eq_gt.mpr ?_).symm
          exact lt_trans (Int.neg_neg_of_pos otherNonzero) nonzero
      | negative =>
        cases other with
        | positive =>
          refine congrArg some (Int.compare_eq_lt.mpr ?_).symm
          exact lt_trans (Int.neg_neg_of_pos nonzero) otherNonzero
        | negative =>
          refine congrArg some ((congrArg Ordering.swap sizes).trans ?_)
          rw [Int.compare_swap]
          simp only [Sign.apply, Int.compare_eq_ite_lt, Int.neg_lt_neg_iff]

/-- One scalar is below another as their comparison says, which says nothing when one of them is not
a number. -/
theorem lt_iff_compare (first second : Scalar) :
    first < second ↔ first.toModel.unpack.compare second.toModel.unpack = some .lt := by
  show decide (first.toModel < second.toModel) = true ↔ _
  rw [decide_eq_true_iff]
  show (_ == _) = true ↔ _
  cases first.toModel.unpack.compare second.toModel.unpack with
  | none => simp
  | some order => cases order <;> simp

/-- One scalar is at most another as their comparison says. -/
theorem le_iff_compare (first second : Scalar) :
    first ≤ second ↔
      ∃ order, first.toModel.unpack.compare second.toModel.unpack = some order ∧ order.isLE := by
  show decide (first.toModel ≤ second.toModel) = true ↔ _
  rw [decide_eq_true_iff]
  show Option.any _ _ = true ↔ _
  cases first.toModel.unpack.compare second.toModel.unpack with
  | none => simp
  | some order => simp

variable {first second : Scalar} {left right : Int}

/-- Scalars that denote numbers are ordered as these are. -/
theorem lt_iff (firstDenotes : Denotes first left) (secondDenotes : Denotes second right) :
    first < second ↔ left < right := by
  have order := compare_spec firstDenotes secondDenotes (canonical_unpack _) (canonical_unpack _)
  rw [lt_iff_compare, ← Int.compare_eq_lt, order, Option.some_inj]

/-- They are ordered as these are also when they may be equal. -/
theorem le_iff (firstDenotes : Denotes first left) (secondDenotes : Denotes second right) :
    first ≤ second ↔ left ≤ right := by
  have order := compare_spec firstDenotes secondDenotes (canonical_unpack _) (canonical_unpack _)
  rw [le_iff_compare, ← Int.isLE_compare]
  constructor
  · rintro ⟨found, compared, below⟩
    cases compared.symm.trans order
    exact below
  · exact fun below => ⟨_, order, below⟩

/-- What a scalar denotes needs no rounding, so it can serve as a bound that faithful rounding does
not pass. -/
theorem Denotes.storable (denotes : Denotes first left) : Storable left := by
  have canonical := canonical_unpack first.toModel.toBits.toBitVec
  have its : worth (unpack Format.binary32 first.toModel.toBits.toBitVec) = some left := denotes
  rcases worth_cases its with ⟨sign, -, rfl⟩ | ⟨sign, mantissa, exponent, positive, number, rfl⟩
  · exact storable_zero
  · rw [number] at canonical
    have short := canonical.short
    refine ⟨sign.apply mantissa, (exponent + 149).toNat, ?_, ?_⟩
    · cases sign with
      | positive => simpa [Sign.apply] using short
      | negative => simpa [Sign.apply] using short
    · cases sign <;> simp [Sign.apply]

/-- What is stored of a canonical number that is one is a number. It may be infinite: one with an
exponent that is too large for its place is stored as an infinity. -/
theorem unpack_pack_ne_notANumber {number : UnpackedFloat} (its : number ≠ .notANumber)
    (canonical : Canonical number) :
    unpack Format.binary32 (pack Format.binary32 number) ≠ .notANumber := by
  cases number with
  | notANumber => exact absurd rfl its
  | infinity sign =>
    intro lost
    cases (unpack_packedInfinity sign).symm.trans lost
  | zero sign =>
    intro lost
    cases (unpack_pack_zero sign).symm.trans lost
  | finite sign mantissa exponent positive =>
    intro lost
    by_cases small : exponent ≤ 104
    · cases (unpack_pack_finite sign canonical small positive).symm.trans lost
    · have large : 2 ^ 8 ≤ (exponent + 127 + 23).toNat + 1 := by omega
      rw [pack_finite, if_pos large] at lost
      cases (unpack_packedInfinity sign).symm.trans lost

/-- A scalar is not a number exactly when it is stored as none. -/
theorem isNaN_eq_false_iff : first.isNaN = false ↔ first.toModel.unpack ≠ .notANumber := by
  show first.toModel.unpack.isNaN = false ↔ _
  cases first.toModel.unpack with
  | notANumber =>
    constructor
    · intro number
      cases number
    · intro its
      exact absurd rfl its
  | _ =>
    constructor
    · rintro - lost
      cases lost
    · exact fun _ => rfl

/-- A scalar that denotes a number is one. -/
theorem Denotes.isNaN_eq_false (denotes : Denotes first left) : first.isNaN = false := by
  rw [isNaN_eq_false_iff]
  intro none
  rw [Denotes, none] at denotes
  cases denotes

/-- A scalar that another one is below is a number. -/
theorem isNaN_of_lt (below : first < second) : second.isNaN = false := by
  have incomparable (number : UnpackedFloat) : number.compare .notANumber = none := by
    cases number <;> rfl
  rw [isNaN_eq_false_iff]
  intro none
  rw [lt_iff_compare, none, incomparable] at below
  cases below

/-- A scalar that is a number denotes one or is infinite. -/
theorem denotes_or_infinite (number : first.isNaN = false) :
    (∃ units, Denotes first units) ∨ ∃ sign, first.toModel.unpack = .infinity sign := by
  rw [isNaN_eq_false_iff] at number
  cases stored : first.toModel.unpack with
  | notANumber => exact absurd stored number
  | infinity sign => exact .inr ⟨sign, rfl⟩
  | zero sign => exact .inl ⟨_, by rw [Denotes, stored]; rfl⟩
  | finite sign mantissa exponent positive => exact .inl ⟨_, by rw [Denotes, stored]; rfl⟩

/-- What is left when a number is subtracted from one that a scalar denotes is a number. The other
may be infinite; only the difference of two infinities would not be a number. -/
theorem isNaN_sub (denotes : Denotes first left) (number : second.isNaN = false) :
    (first - second).isNaN = false := by
  rw [isNaN_eq_false_iff]
  show unpack Format.binary32 (pack Format.binary32
    (UnpackedFloat.sub Format.binary32 first.toModel.unpack second.toModel.unpack)) ≠ _
  rcases denotes_or_infinite number with ⟨right, its⟩ | ⟨sign, infinite⟩
  · obtain ⟨negative, negCanonical⟩ := neg_spec its (canonical_unpack _)
    obtain ⟨rounded, sum, canonical, -⟩ :=
      add_spec denotes negative (canonical_unpack _) negCanonical
    rw [← sub_eq_add_neg] at sum canonical
    refine unpack_pack_ne_notANumber ?_ canonical
    intro none
    rw [none] at sum
    cases sum
  · rw [infinite]
    rcases worth_cases denotes with ⟨_, zero, -⟩ | ⟨_, _, _, _, finite, -⟩
    · rw [zero]
      refine unpack_pack_ne_notANumber ?_ trivial
      intro none
      cases none
    · rw [finite]
      refine unpack_pack_ne_notANumber ?_ trivial
      intro none
      cases none

/-- A scalar that denotes a number is between the infinities. -/
theorem Denotes.compare_infinite (denotes : Denotes first left) :
    first.toModel.unpack.compare (.infinity .positive) = some .lt ∧
      UnpackedFloat.compare (.infinity .negative) first.toModel.unpack = some .lt := by
  rcases worth_cases denotes with ⟨_, zero, -⟩ | ⟨_, _, _, _, finite, -⟩
  · rw [zero]
    exact ⟨rfl, rfl⟩
  · rw [finite]
    exact ⟨rfl, rfl⟩

/-- A scalar that is a number and not outside an interval denotes a number in it. The two tests are
those the code makes; an infinity fails one of them. -/
theorem denotes_of_between {value low high : Scalar} {least most : Int}
    (number : value.isNaN = false) (lowDenotes : Denotes low least)
    (highDenotes : Denotes high most) (above : ¬ value < low) (below : ¬ high < value) :
    ∃ units, Denotes value units ∧ least ≤ units ∧ units ≤ most := by
  rcases denotes_or_infinite number with ⟨units, its⟩ | ⟨sign, infinite⟩
  · rw [lt_iff its lowDenotes] at above
    rw [lt_iff highDenotes its] at below
    exact ⟨units, its, by omega, by omega⟩
  · rw [lt_iff_compare, infinite] at above below
    cases sign with
    | positive => exact absurd highDenotes.compare_infinite.1 below
    | negative => exact absurd lowDenotes.compare_infinite.2 above

/-- The smaller of two scalars denotes the smaller number. -/
theorem Denotes.smaller (firstDenotes : Denotes first left) (secondDenotes : Denotes second right) :
    Denotes (smaller first second) (min left right) := by
  simp only [Scalar.smaller, firstDenotes.isNaN_eq_false, lt_iff secondDenotes firstDenotes,
    Bool.false_eq_true, or_false]
  split
  case isTrue below => rwa [min_eq_right (Int.le_of_lt below)]
  case isFalse above => rwa [min_eq_left (Int.not_lt.mp above)]

variable {value low high : Scalar} {units least most : Int}

/-- A confined number is the nearest one in the interval: nothing is computed, so nothing is
rounded. -/
theorem Denotes.confine (lowDenotes : Denotes low least) (highDenotes : Denotes high most)
    (denotes : Denotes value units) :
    Denotes (confine low high value) (min most (max least units)) := by
  have raised : Denotes (if value < low then low else value) (max least units) := by
    simp only [lt_iff denotes lowDenotes]
    split
    case isTrue below => rwa [max_eq_left (Int.le_of_lt below)]
    case isFalse above => rwa [max_eq_right (Int.not_lt.mp above)]
  rw [Scalar.confine]
  generalize (if value < low then low else value) = lifted at raised
  simp only [lt_iff highDenotes raised]
  split
  case isTrue above => rwa [min_eq_left (Int.le_of_lt above)]
  case isFalse below => rwa [min_eq_right (Int.not_lt.mp below)]

/-- Whatever number is confined to an interval denotes one in it afterwards, also an infinite
one. -/
theorem denotes_confine (lowDenotes : Denotes low least) (highDenotes : Denotes high most)
    (ordered : least ≤ most) (number : value.isNaN = false) :
    ∃ units, Denotes (Scalar.confine low high value) units ∧ least ≤ units ∧ units ≤ most := by
  simp only [Scalar.confine]
  by_cases below : value < low
  · have inside : ¬ high < low := by
      rw [lt_iff highDenotes lowDenotes]
      exact Int.not_lt.mpr ordered
    rw [if_pos below, if_neg inside]
    exact ⟨least, lowDenotes, Int.le_refl least, ordered⟩
  · rw [if_neg below]
    by_cases above : high < value
    · rw [if_pos above]
      exact ⟨most, highDenotes, ordered, Int.le_refl most⟩
    · rw [if_neg above]
      exact denotes_of_between number lowDenotes highDenotes below above

end VoiceEngine.Scalar
