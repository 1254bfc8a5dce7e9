import PodLaunch.Number.Quotient

/-!
# Binary floating-point numbers of 64 bits

A number is a signed significand of at most 53 bits times a power of two, an infinity, or not a
number. Reading a quotient of naturals rounds to the nearest number, a tie to the even significand;
all arithmetic is exact on naturals.
-/

namespace PodLaunch.Number

/-- A floating-point number. -/
inductive Binary64 where
  /-- The number `±significand * 2 ^ exponent`. -/
  | finite (negative : Bool) (significand : Nat) (exponent : Int)
  /-- An infinity. -/
  | infinite (negative : Bool)
  /-- The result without a value. -/
  | notANumber
  deriving DecidableEq, Repr

namespace Binary64

/-- The exponent of the smallest numbers. -/
def minExponent : Int := -1074

/-- The exponent of the largest numbers. -/
def maxExponent : Int := 971

/-- Zero with a sign. -/
def zero (negative : Bool) : Binary64 :=
  .finite negative 0 minExponent

/-- The largest power of two that is at most a positive quotient, as its exponent. -/
def floorLog2 (numerator denominator : Nat) : Int :=
  let guess : Int := (numerator.log2 : Int) - (denominator.log2 : Int)
  if denominator * Nat.pow 2 guess.toNat ≤ numerator * Nat.pow 2 (-guess).toNat then guess
  else guess - 1

/-- The number nearest to a quotient of naturals. -/
def ofQuotient (negative : Bool) (numerator denominator : Nat) : Binary64 :=
  if numerator = 0 then zero negative
  else
    let exponent := max (floorLog2 numerator denominator - 52) minExponent
    let significand :=
      roundQuotient (numerator * Nat.pow 2 (-exponent).toNat)
        (denominator * Nat.pow 2 exponent.toNat)
    if significand < Nat.pow 2 53 then
      if exponent ≤ maxExponent then .finite negative significand exponent else .infinite negative
    else if exponent < maxExponent then .finite negative (Nat.pow 2 52) (exponent + 1)
    else .infinite negative

/-- The number nearest to `±digits * 10 ^ exponent`. Powers of ten that are out of range whatever
the digits are not computed. -/
def ofDecimal (negative : Bool) (digits : Nat) (exponent : Int) : Binary64 :=
  if digits = 0 then zero negative
  else if 400 < exponent then .infinite negative
  else if exponent + digits.log2 < -400 then zero negative
  else ofQuotient negative (digits * Nat.pow 10 exponent.toNat) (Nat.pow 10 (-exponent).toNat)

/-- The number nearest to an integer. -/
def ofInt (n : Int) : Binary64 :=
  ofQuotient (n < 0) n.natAbs 1

/-- Whether a number is zero, with either sign. -/
def isZero : Binary64 → Bool
  | .finite _ 0 _ => true
  | _ => false

/-- The integer that a number is equal to, if there is one. -/
def toInt? : Binary64 → Option Int
  | .finite negative significand exponent =>
    let denominator := Nat.pow 2 (-exponent).toNat
    let numerator := significand * Nat.pow 2 exponent.toNat
    if numerator % denominator = 0 then
      let magnitude : Int := (numerator / denominator : Nat)
      some (if negative then -magnitude else magnitude)
    else none
  | _ => none

/-- Whether two numbers are equal in value; zeros of both signs are, and a number without a value is
equal to nothing. -/
def sameValue : Binary64 → Binary64 → Bool
  | .notANumber, _ => false
  | _, .notANumber => false
  | left, right => left == right || (left.isZero && right.isZero)

end Binary64

end PodLaunch.Number
