import PodLaunch.Number.Binary64

/-!
# Sums and products of floating-point numbers

Sums and products are computed exactly and then rounded once. A sum that cancels out is positive,
unless both numbers are negative zeros.
-/

namespace PodLaunch.Number.Binary64

/-- Whether a number carries a minus sign. -/
def isNegative : Binary64 → Bool
  | .finite negative _ _ => negative
  | .infinite negative => negative
  | .notANumber => false

/-- The number nearest to `±significand * 2 ^ exponent`. -/
def ofScaled (negative : Bool) (significand : Nat) (exponent : Int) : Binary64 :=
  ofQuotient negative (significand * Nat.pow 2 exponent.toNat) (Nat.pow 2 (-exponent).toNat)

/-- A significand with its sign. -/
def signed (negative : Bool) (significand : Nat) : Int :=
  if negative then -significand else significand

/-- The product of two numbers. -/
def mul : Binary64 → Binary64 → Binary64
  | .notANumber, _ => .notANumber
  | _, .notANumber => .notANumber
  | .finite leftSign left leftExponent, .finite rightSign right rightExponent =>
    ofScaled (leftSign != rightSign) (left * right) (leftExponent + rightExponent)
  | left, right =>
    if left.isZero || right.isZero then .notANumber
    else .infinite (left.isNegative != right.isNegative)

/-- The sum of two numbers. -/
def add : Binary64 → Binary64 → Binary64
  | .notANumber, _ => .notANumber
  | _, .notANumber => .notANumber
  | .infinite left, .infinite right => if left = right then .infinite left else .notANumber
  | .infinite left, _ => .infinite left
  | _, .infinite right => .infinite right
  | .finite leftSign left leftExponent, .finite rightSign right rightExponent =>
    let exponent := min leftExponent rightExponent
    let sum :=
      signed leftSign left * Nat.pow 2 (leftExponent - exponent).toNat +
        signed rightSign right * Nat.pow 2 (rightExponent - exponent).toNat
    if sum = 0 then zero (leftSign && rightSign) else ofScaled (sum < 0) sum.natAbs exponent

/-- A number with the opposite sign. -/
def neg : Binary64 → Binary64
  | .finite negative significand exponent => .finite (!negative) significand exponent
  | .infinite negative => .infinite (!negative)
  | .notANumber => .notANumber

end PodLaunch.Number.Binary64
