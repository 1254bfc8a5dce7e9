/-!
# Rounded quotients

A quotient of naturals is rounded to the nearest natural, a tie to the even one.
-/

namespace PodLaunch.Number

/-- The quotient of two naturals, rounded to the nearest natural; a tie goes to the even one. -/
def roundQuotient (numerator denominator : Nat) : Nat :=
  let quotient := numerator / denominator
  let twice := 2 * (numerator % denominator)
  if twice < denominator ∨ (twice = denominator ∧ quotient % 2 = 0) then quotient else quotient + 1

end PodLaunch.Number
