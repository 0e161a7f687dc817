/-!
# Binary floating-point numbers

The numbers that a JSON text writes with a fraction or an exponent: binary floating-point numbers
of 64 bits, as sign, significand and exponent. `ofDecimal` takes a decimal to the nearest of them,
`truncate?` gives the integer part.

Main statements: `truncate?_eq_none_iff` (only what is not finite has no integer part) and
`truncate?_finite_of_nonneg` (a number with a nonnegative exponent is its own integer part).
-/

namespace TicketMarkup

/-- A binary floating-point number of 64 bits. A finite one is `± significand * 2 ^ exponent`, with
`significand < 2 ^ 53` and `-1074 ≤ exponent ≤ 971`. -/
inductive Binary64 where
  | nan
  | infinite (negative : Bool)
  | finite (negative : Bool) (significand : Nat) (exponent : Int)
  deriving DecidableEq, Repr

namespace Binary64

/-- The least exponent, that of the subnormal numbers. -/
def minExponent : Int := -1074

/-- The greatest exponent. -/
def maxExponent : Int := 971

/-- A zero. -/
def zero (negative : Bool) : Binary64 := .finite negative 0 minExponent

/-- The quotient `num / den`, rounded to the nearest integer, a half to the even one. -/
def roundDiv (num den : Nat) : Nat :=
  let q := num / den
  let r := num % den
  if 2 * r < den then q
  else if 2 * r = den then q + q % 2
  else q + 1

/-- `num / den / 2 ^ exponent` as a quotient of natural numbers. -/
def scale (num den : Nat) (exponent : Int) : Nat × Nat :=
  if 0 ≤ exponent then (num, den * Nat.pow 2 exponent.toNat)
  else (num * Nat.pow 2 (-exponent).toNat, den)

/-- The number nearest to `± num / den`, of two equally near the one with the even significand. -/
def ofRatio (negative : Bool) (num den : Nat) : Binary64 :=
  let guess := max ((Nat.log2 num : Int) - Nat.log2 den - 53) minExponent
  let (n, d) := scale num den guess
  let exponent := if Nat.pow 2 53 ≤ n / d then guess + 1 else guess
  let (n, d) := scale num den exponent
  let significand := roundDiv n d
  let (significand, exponent) :=
    if significand = Nat.pow 2 53 then (Nat.pow 2 52, exponent + 1) else (significand, exponent)
  if maxExponent < exponent then .infinite negative else .finite negative significand exponent

/-- The number nearest to `± digits * 10 ^ exponent`. Beyond 310 digits before the point it is
infinite and beyond 330 zeros after the point it is zero, so no large power is ever computed. -/
def ofDecimal (negative : Bool) (digits : Nat) (exponent : Int) : Binary64 :=
  let magnitude : Int := (Nat.toDigits 10 digits).length + exponent
  if digits = 0 || magnitude < -330 then zero negative
  else if 310 < magnitude then .infinite negative
  else if 0 ≤ exponent then ofRatio negative (digits * Nat.pow 10 exponent.toNat) 1
  else ofRatio negative digits (Nat.pow 10 (-exponent).toNat)

/-- Whether the number is a zero of either sign. -/
def isZero : Binary64 → Bool
  | .finite _ significand _ => significand = 0
  | _ => false

/-- Whether the number is less than an integer. -/
def ltInt (n : Int) : Binary64 → Bool
  | .nan => false
  | .infinite negative => negative
  | .finite negative significand exponent =>
    (if negative then -(significand : Int) else significand) * (Nat.pow 2 exponent.toNat : Nat) <
      n * (Nat.pow 2 (-exponent).toNat : Nat)

/-- Whether the number is greater than an integer. -/
def gtInt (n : Int) : Binary64 → Bool
  | .nan => false
  | .infinite negative => !negative
  | .finite negative significand exponent =>
    n * (Nat.pow 2 (-exponent).toNat : Nat) <
      (if negative then -(significand : Int) else significand) * (Nat.pow 2 exponent.toNat : Nat)

/-- The number without its fraction, if it is finite. -/
def truncate? : Binary64 → Option Int
  | .finite negative significand exponent =>
    let n : Nat :=
      if 0 ≤ exponent then significand * Nat.pow 2 exponent.toNat
      else significand / Nat.pow 2 (-exponent).toNat
    some (if negative then -(n : Int) else n)
  | _ => none

theorem truncate?_eq_none_iff {x : Binary64} :
    x.truncate? = none ↔ x = .nan ∨ ∃ negative, x = .infinite negative := by
  cases x <;> simp [truncate?]

theorem truncate?_finite_of_nonneg {negative : Bool} {significand : Nat} {exponent : Int}
    (h : 0 ≤ exponent) :
    (finite negative significand exponent).truncate? =
      some
        ((if negative then -1 else 1 : Int) * (significand * Nat.pow 2 exponent.toNat : Nat)) := by
  cases negative <;> simp [truncate?, h]

example : ofDecimal false 15 (-1) = .finite false 6755399441055744 (-52) := by decide +kernel
example : (ofDecimal true 29 (-1)).truncate? = some (-2) := by decide +kernel
example : (ofDecimal false 25 (-1)).gtInt 2 = true ∧ (ofDecimal false 3 0).ltInt 3 = false := by
  decide +kernel
example : ofDecimal false 1 400 = .infinite false := by decide +kernel
example : ofDecimal false 5 (-324) = .finite false 1 (-1074) := by decide +kernel

end Binary64

end TicketMarkup
