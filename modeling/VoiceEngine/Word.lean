/-!
# Integers fitted into machine words

Fixed-point results are computed as exact integers and only then fitted into the word
that stores them. Fitting either saturates, which keeps the nearest value of the word,
or wraps, which keeps the low bits. Naming the two rules keeps every possible loss of
precision visible at the place where it may happen: an expression without one of these
names is exact.

The main statements say what a fitted value is as an integer, and that fitting changes
nothing when the value already lies in the range of the word.
-/

namespace VoiceEngine.Word

/-- The point of the interval from `low` to `high` that is nearest to `value`. -/
def clip (low high value : Int) : Int := max low (min value high)

/-- The nearest 16-bit value. -/
def saturate16 (value : Int) : Int16 := .ofInt (clip (-32768) 32767 value)

/-- The nearest 32-bit value. -/
def saturate32 (value : Int) : Int32 := .ofInt (clip (-2147483648) 2147483647 value)

/-- The 16-bit value with the same low bits. -/
def wrap16 (value : Int) : Int16 := .ofInt value

/-- The 32-bit value with the same low bits. -/
def wrap32 (value : Int) : Int32 := .ofInt value

/-- A clipped value lies in the interval. -/
theorem clip_bounds (low high value : Int) (ordered : low ≤ high) :
    low ≤ clip low high value ∧ clip low high value ≤ high := by
  unfold clip
  omega

/-- Clipping keeps what already lies in the interval. -/
theorem clip_of_bounds {low high value : Int} (above : low ≤ value) (below : value ≤ high) :
    clip low high value = value := by
  unfold clip
  omega

@[simp] theorem toInt_wrap16 (value : Int) : (wrap16 value).toInt = value.bmod 65536 :=
  Int16.toInt_ofInt

@[simp] theorem toInt_wrap32 (value : Int) : (wrap32 value).toInt = value.bmod 4294967296 :=
  Int32.toInt_ofInt

/-- Wrapping keeps a value that fits into 16 bits. -/
theorem toInt_wrap16_of_fits {value : Int} (above : -32768 ≤ value) (below : value ≤ 32767) :
    (wrap16 value).toInt = value := by
  rw [toInt_wrap16]
  exact Int.bmod_eq_of_le (by omega) (by omega)

/-- Wrapping keeps a value that fits into 32 bits. -/
theorem toInt_wrap32_of_fits {value : Int} (above : -2147483648 ≤ value)
    (below : value ≤ 2147483647) : (wrap32 value).toInt = value := by
  rw [toInt_wrap32]
  exact Int.bmod_eq_of_le (by omega) (by omega)

@[simp] theorem toInt_saturate16 (value : Int) :
    (saturate16 value).toInt = clip (-32768) 32767 value := by
  have inside := clip_bounds (-32768) 32767 value (by decide)
  exact toInt_wrap16_of_fits inside.1 inside.2

@[simp] theorem toInt_saturate32 (value : Int) :
    (saturate32 value).toInt = clip (-2147483648) 2147483647 value := by
  have inside := clip_bounds (-2147483648) 2147483647 value (by decide)
  exact toInt_wrap32_of_fits inside.1 inside.2

/-- The difference of two 32-bit words, saturated. -/
def subtract32 (left right : Int32) : Int32 := saturate32 (left.toInt - right.toInt)

/-- Two to the power 53: below it every whole number is a binary64 number. -/
def exactLimit : Nat := 9007199254740992

/-- The magnitude of a whole number in binary64: the nearest number with at most 53
significant bits, the even one when two are equally near. Below `exactLimit` every number
is its own magnitude. -/
def round53 (value : Nat) : Nat :=
  if value < exactLimit then value
  else
    let unit := Nat.pow 2 (Nat.log2 value - 52)
    let down := value / unit
    let rest := value % unit
    let up := if unit < 2 * rest ∨ (unit = 2 * rest ∧ down % 2 = 1) then 1 else 0
    (down + up) * unit

/-- Whole numbers below the limit are represented exactly. -/
theorem round53_of_lt {value : Nat} (small : value < exactLimit) : round53 value = value := by
  unfold round53
  rw [if_pos small]

end VoiceEngine.Word
