import PodLaunch.Number.Binary64

/-!
# The shortest decimal that reads back

Of all decimals that round to a given floating-point number, the ones with the fewest digits are
kept, and of these the nearest to the number. For each count of digits only the two neighbours of
the number on the decimal grid of that count can qualify.
-/

namespace PodLaunch.Number

/-- A natural number of units of a power of ten. -/
structure Decimal where
  /-- The number of units. -/
  digits : Nat
  /-- The power of ten that is the unit. -/
  exponent : Int
  deriving DecidableEq, Repr

namespace Decimal

/-- A decimal is compared with `n * 2 ^ e` by comparing two naturals. -/
def crossed (d : Decimal) (n : Nat) (e : Int) : Nat × Nat :=
  (d.digits * Nat.pow 10 d.exponent.toNat * Nat.pow 2 (-e).toNat,
    n * Nat.pow 2 e.toNat * Nat.pow 10 (-d.exponent).toNat)

/-- Whether a decimal rounds to the number `significand * 2 ^ exponent`. The lower half of the
interval is narrower when the significand is the least of its exponent, and the ends belong to the
interval when the significand is even. -/
def roundsTo (d : Decimal) (significand : Nat) (exponent : Int) : Bool :=
  let narrow := significand = Nat.pow 2 52 ∧ Binary64.minExponent < exponent
  let low := 4 * significand - if narrow then 1 else 2
  let high := 4 * significand + 2
  let (fromBelow, lowEnd) := d.crossed low (exponent - 2)
  let (fromAbove, highEnd) := d.crossed high (exponent - 2)
  if significand % 2 = 0 then lowEnd ≤ fromBelow && fromAbove ≤ highEnd
  else lowEnd < fromBelow && fromAbove < highEnd

/-- Whether the lower of two decimals with one unit is at least as near to `n * 2 ^ e`, which lies
between them; a tie prefers even digits. -/
def lowerIsNearer (lower upper : Decimal) (n : Nat) (e : Int) : Bool :=
  let (below, value) := lower.crossed n e
  let (above, _) := upper.crossed n e
  let down := value - below
  let up := above - value
  down < up || (down = up && lower.digits % 2 = 0)

/-- The neighbour on a decimal grid that rounds to a number, the nearer of two. -/
def onGrid? (significand : Nat) (exponent unit : Int) : Option Decimal :=
  let (step, value) := Decimal.crossed ⟨1, unit⟩ significand exponent
  let lower : Decimal := ⟨value / step, unit⟩
  let upper : Decimal := ⟨value / step + 1, unit⟩
  match lower.roundsTo significand exponent, upper.roundsTo significand exponent with
  | true, true => some (if lowerIsNearer lower upper significand exponent then lower else upper)
  | true, false => some lower
  | false, true => some upper
  | false, false => none

/-- The first hit on the grids with one more digit each. -/
def firstOnGrids (significand : Nat) (exponent : Int) : Nat → Int → Decimal
  | 0, unit => ⟨0, unit⟩
  | grids + 1, unit =>
    match onGrid? significand exponent unit with
    | some decimal => decimal
    | none => firstOnGrids significand exponent grids (unit - 1)

/-- The largest power of ten that is at most a positive number, searched upwards from a guess. -/
def floorLog10From (significand : Nat) (exponent : Int) : Nat → Int → Int
  | 0, guess => guess
  | steps + 1, guess =>
    let (power, value) := Decimal.crossed ⟨1, guess + 1⟩ significand exponent
    if power ≤ value then floorLog10From significand exponent steps (guess + 1) else guess

/-- The largest power of ten that is at most a positive number, as its exponent. -/
def floorLog10 (significand : Nat) (exponent : Int) : Int :=
  let log2 := (significand.log2 : Int) + exponent
  floorLog10From significand exponent 4 (Int.fdiv (log2 * 30103) 100000 - 2)

/-- The same decimal without zeros at the end of its digits. -/
def dropZeros (d : Decimal) : Nat → Decimal
  | 0 => d
  | steps + 1 =>
    if d.digits ≠ 0 ∧ d.digits % 10 = 0 then
      dropZeros ⟨d.digits / 10, d.exponent + 1⟩ steps
    else d

/-- The shortest decimal that rounds to the number `significand * 2 ^ exponent`. -/
def shortest (significand : Nat) (exponent : Int) : Decimal :=
  if significand = 0 then ⟨0, 0⟩
  else
    (firstOnGrids significand exponent 18 (floorLog10 significand exponent)).dropZeros 18

end Decimal

end PodLaunch.Number
