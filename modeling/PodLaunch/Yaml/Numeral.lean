import PodLaunch.Number.Arithmetic
import PodLaunch.Text.Digit
import PodLaunch.Text.Lower
import PodLaunch.Yaml.Property

/-!
# Numerals in texts

Which plain scalars are numbers depends on the edition: the first one writes octal numbers with a
leading zero and knows digits of base sixty between colons, the later ones write octal numbers with
`0o` and always take a leading zero for a decimal digit. Digits may be grouped with underscores. A
scalar that is tagged as a number may be written with the digits of any script.
-/

namespace PodLaunch.Yaml

open Number Text

/-! ## The shapes of numerals -/

/-- Whether a character is a digit or an underscore. -/
def isGroupDigit (c : Char) : Bool :=
  c.isDigit || c = '_'

/-- Whether a character is a digit of a base or an underscore. -/
def isGroupDigitOf (base : Nat) (c : Char) : Bool :=
  c = '_' || ((hexValue? c).map (decide <| · < base)).getD false

/-- Whether some characters are there and all of a kind. -/
def isRunOf (kind : Char → Bool) (s : List Char) : Bool :=
  !s.isEmpty && s.all kind

/-- A numeral without its sign. -/
def dropSign : List Char → List Char
  | '+' :: rest => rest
  | '-' :: rest => rest
  | s => s

/-- Whether a numeral goes on with digits of base sixty, each behind a colon, until an end that a
test accepts. There may have been such a digit before. -/
def hasSixtieths (accepts : List Char → Bool) (before : Bool) : List Char → Bool
  | ':' :: tens :: units :: rest =>
    (units.isDigit && '0' ≤ tens && tens ≤ '5' && hasSixtieths accepts true rest) ||
      (tens.isDigit && hasSixtieths accepts true (units :: rest))
  | [':', unit] => unit.isDigit && accepts []
  | rest => before && accepts rest

/-- Whether some characters are an exponent of ten. Its sign may be demanded. -/
def isExponent (signed : Bool) : List Char → Bool
  | mark :: sign :: rest =>
    (mark = 'e' || mark = 'E') &&
      (if sign = '+' || sign = '-' then isRunOf Char.isDigit rest
        else !signed && isRunOf Char.isDigit (sign :: rest))
  | _ => false

/-- Whether some digits of an integer without a sign are decimal or in base sixty. -/
def isFirstDecimal (body : List Char) : Bool :=
  match body with
  | ['0'] => true
  | c :: rest =>
    c.isDigit && c ≠ '0' && (rest.all isGroupDigit ||
      hasSixtieths List.isEmpty false (rest.dropWhile isGroupDigit))
  | [] => false

/-- Whether a plain scalar is an integer. In profiles a decimal number begins with a digit; in
manifests of the first edition one of octal digits may begin with an underscore. -/
def isInteger (dialect : Dialect) (s : List Char) : Bool :=
  let body := dropSign s
  if (s.head?.map fun c => c.isDigit || c = '+' || c = '-').getD false then
    match body with
    | '0' :: 'b' :: rest => isRunOf (isGroupDigitOf 2) rest
    | '0' :: 'x' :: rest => isRunOf (isGroupDigitOf 16) rest
    | _ =>
      if dialect.isProfile then
        isFirstDecimal body ||
          (body.head? = some '0' && isRunOf (isGroupDigitOf 8) (body.drop 1))
      else if dialect.isFirst then isFirstDecimal body || isRunOf (isGroupDigitOf 8) body
      else
        match body with
        | '0' :: 'o' :: rest => isRunOf (isGroupDigitOf 8) rest
        | _ => isRunOf isGroupDigit body
  else false

/-- The forms of floating-point numbers in which dialects differ. -/
structure FloatForms where
  /-- Whether an exponent must have a sign. -/
  signedExponent : Bool
  /-- Whether an exponent may follow a number without a point. -/
  bareExponent : Bool
  /-- Whether a sign may precede a point. -/
  signedPoint : Bool
  /-- Whether an underscore may follow a leading point. -/
  pointUnderscore : Bool
  /-- Whether there may be digits of base sixty. -/
  sixtieths : Bool

/-- The forms of floating-point numbers of a dialect. -/
def floatForms (dialect : Dialect) : FloatForms :=
  if dialect.isProfile then ⟨true, false, false, false, true⟩
  else if dialect.isFirst then ⟨false, true, false, true, true⟩
  else ⟨false, true, true, true, false⟩

/-- Whether a plain scalar is a floating-point number. -/
def isFloat (dialect : Dialect) (s : List Char) : Bool :=
  let forms := floatForms dialect
  let body := dropSign s
  let signed := body.length < s.length
  let ends := fun (demanded : Bool) (rest : List Char) => rest.isEmpty || isExponent demanded rest
  if body = ".inf".toList || body = ".Inf".toList || body = ".INF".toList then true
  else if body = ".nan".toList || body = ".NaN".toList || body = ".NAN".toList then !signed
  else
    match body with
    | '.' :: rest =>
      let first := rest.head?.getD ' '
      (!signed || forms.signedPoint) && isGroupDigit first &&
        (first ≠ '_' || forms.pointUnderscore) && ends true (rest.dropWhile isGroupDigit)
    | c :: rest =>
      let after := rest.dropWhile isGroupDigit
      c.isDigit &&
        (match after with
          | '.' :: fraction => ends forms.signedExponent (fraction.dropWhile isGroupDigit)
          | ':' :: _ =>
            forms.sixtieths && hasSixtieths (fun rest =>
              match rest with
              | '.' :: fraction => fraction.all isGroupDigit
              | _ => false) false after
          | _ => forms.bareExponent && isExponent false after)
    | [] => false

/-! ## The values of numerals -/

/-- Digits behind the mark of their base, which may be left out. -/
def dropBaseMark (base : Nat) : List Char → List Char
  | '0' :: mark :: rest =>
    let marks :=
      match base with
      | 2 => ['b', 'B']
      | 8 => ['o', 'O']
      | 16 => ['x', 'X']
      | _ => []
    if marks.contains mark then rest else '0' :: mark :: rest
  | digits => digits

/-- Whether the digits of a base are counted, since reading many of them takes long. -/
def countsDigits (base : Nat) : Bool :=
  base ≠ 2 && base ≠ 8 && base ≠ 16

/-- The integer that a numeral stands for in a base. Blanks around it, a sign, and the mark of the
base are passed. -/
def integerIn (base : Nat) (numeral : List Char) : Except Defect Int :=
  let trimmed := plainNumeral numeral
  let digits := dropBaseMark base (dropSign trimmed)
  let leading := digits.takeWhile (isGroupDigitOf base)
  if countsDigits base && Document.digitLimit < leading.length then
    .error (.longInteger leading.length)
  else
    match digits, numeralValue? base digits with
    | _ :: _, some n => .ok (if trimmed.head? = some '-' then -n else n)
    | _, _ => .error (.badInteger base (String.ofList numeral))

/-- Numbers between colons, the last one counting units and each other one sixty times the next. -/
def sixtiethsValue (digits : List Int) : Int :=
  digits.foldl (fun value digit => value * 60 + digit) 0

/-- The integer that a scalar stands for. -/
def integerValue (dialect : Dialect) (text : List Char) : Except Defect Int := do
  let numeral := text.filter (· ≠ '_')
  if numeral.isEmpty then throw .emptyNumeral
  let magnitude ←
    match dropSign numeral with
    | ['0'] => pure 0
    | '0' :: 'b' :: rest => integerIn 2 rest
    | '0' :: 'x' :: rest => integerIn 16 rest
    | body =>
      if !dialect.isProfile && body.take 2 = ['0', 'o'] then integerIn 8 (body.drop 2)
      else if !dialect.isFirst then integerIn 10 body
      else if body.isEmpty then throw .emptyNumeral
      else if body.head? = some '0' then integerIn 8 body
      else if body.contains ':' then
        pure (sixtiethsValue (← (splitOnChar ':' body).mapM (integerIn 10)))
      else integerIn 10 body
  return if numeral.head? = some '-' then -magnitude else magnitude

/-- The decimal that digits, possibly with a point and an exponent, stand for. -/
def decimal? (s : List Char) : Option Decimal :=
  let whole := s.takeWhile Char.isDigit
  let afterWhole := s.dropWhile Char.isDigit
  let (fraction, rest) :=
    match afterWhole with
    | '.' :: rest => (rest.takeWhile Char.isDigit, rest.dropWhile Char.isDigit)
    | _ => ([], afterWhole)
  if whole.isEmpty && fraction.isEmpty then none
  else do
    let digits ← numeralValue? 10 (whole ++ fraction)
    match rest with
    | [] => return ⟨digits, -fraction.length⟩
    | _ =>
      if isExponent false rest then
        let power : Int ← numeralValue? 10 (dropSign (rest.drop 1))
        let power := if rest.drop 1 |>.head? |> (· == some '-') then -power else power
        return ⟨digits, power - fraction.length⟩
      else none

/-- The number that a numeral in lower case stands for. -/
def floatIn (numeral : List Char) : Except Defect Binary64 :=
  let trimmed := plainNumeral numeral
  let body := dropSign trimmed
  let negative := trimmed.head? = some '-'
  if body = "inf".toList || body = "infinity".toList then .ok (.infinite negative)
  else if body = "nan".toList then .ok .notANumber
  else
    match decimal? body with
    | some d => .ok (Binary64.ofDecimal negative d.digits d.exponent)
    | none => .error (.badFloat (String.ofList numeral))

/-- A number times a power of sixty, which must not be out of range. -/
def scaleBySixty (digit : Binary64) (power : Nat) : Except Defect Binary64 :=
  match Binary64.ofInt (Nat.pow 60 power) with
  | .infinite _ => .error .largeFactor
  | factor => .ok (digit.mul factor)

/-- The sum of numbers, the first one counting units and each other one sixty times the one before.
-/
def sixtiethsSum (sum : Binary64) (power : Nat) : List Binary64 → Except Defect Binary64
  | [] => .ok sum
  | digit :: digits => do
    let scaled ← scaleBySixty digit power
    sixtiethsSum (sum.add scaled) (power + 1) digits

/-- The number that a numeral in lower case and without a sign in front stands for. -/
def floatMagnitude (dialect : Dialect) (body : List Char) : Except Defect Binary64 := do
  if body = ".inf".toList then return .infinite false
  else if body = ".nan".toList then return .notANumber
  else if dialect.edition ≠ .second && body.contains ':' then
    let digits ← (splitOnChar ':' body).mapM floatIn
    sixtiethsSum (.zero false) 0 digits.reverse
  else floatIn body

/-- The number that a scalar stands for. -/
def floatValue (dialect : Dialect) (text : List Char) : Except Defect Binary64 := do
  let numeral := lowerCase (text.filter (· ≠ '_'))
  if numeral.isEmpty then throw .emptyNumeral
  let magnitude ← floatMagnitude dialect (dropSign numeral)
  return if numeral.head? = some '-' then magnitude.neg else magnitude

end PodLaunch.Yaml
