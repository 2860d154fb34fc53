import ComponentCompiler.Text.Basic

/-!
# Decimals

A number with a fraction or an exponent is a binary one with 53 significant bits.
It is kept by the shortest decimal that stands for it: a sign, an integer without
zeros at its end, and a power of ten.  Zero has a sign, too.  Such a number may
still be an integer; its value is then that of the binary number, which differs
from the decimal where the integer has more than 53 bits.
-/

namespace ComponentCompiler

/-- The number `digits · 10 ^ exponent` with a sign. -/
structure Decimal where
  isNegative : Bool
  digits : Nat
  exponent : Int
  deriving DecidableEq, Repr, Inhabited

namespace Decimal

/-- Digits without the zeros at their end, and the exponent that goes with them. -/
def reduce (digits : Nat) (exponent : Int) : Nat × Int :=
  if digits = 0 then (0, 0)
  else if digits % 10 = 0 then reduce (digits / 10) (exponent + 1)
  else (digits, exponent)
termination_by digits
decreasing_by omega

/-- The decimal with these digits, zeros at their end being left to the exponent. -/
def ofDigits (isNegative : Bool) (digits : Nat) (exponent : Int) : Decimal :=
  let (digits, exponent) := reduce digits exponent
  ⟨isNegative, digits, exponent⟩

/-- The number that decimal digits write. -/
def numberOf (digits : Text) : Nat :=
  digits.foldl (fun n c => n * 10 + (c.toNat - 0x30)) 0

/-- The integer that an optional sign and digits write. -/
def signedNumber : Text → Int
  | '-' :: digits => -(numberOf digits : Int)
  | '+' :: digits | digits => numberOf digits

/-- The decimal that a text writes: an optional hyphen, digits, perhaps a point with
more digits, and perhaps an exponent. -/
def ofText (s : Text) : Decimal :=
  let (isNegative, unsigned) := match s with
    | '-' :: rest => (true, rest)
    | rest => (false, rest)
  let whole := unsigned.takeWhile Char.isDigit
  let afterWhole := unsigned.drop whole.length
  let fraction := match afterWhole with
    | '.' :: rest => rest.takeWhile Char.isDigit
    | _ => []
  let exponent := afterWhole.dropWhile fun c => c != 'e' && c != 'E'
  ofDigits isNegative (numberOf (whole ++ fraction))
    (signedNumber (exponent.drop 1) - fraction.length)

/-- The text of a decimal.  Very small and very large numbers are written with an
exponent, the others with a point that has a digit on either side. -/
def text (d : Decimal) : String :=
  let digits := (toString d.digits).toList
  let sign := if d.isNegative then "-" else ""
  let leading : Int := digits.length - 1 + d.exponent
  if leading < -4 || 16 ≤ leading then
    let size := toString leading.natAbs
    let point := if digits.length = 1 then "" else "."
    sign ++ String.ofList (digits.take 1) ++ point ++ String.ofList (digits.drop 1) ++
      (if leading < 0 then "e-" else "e+") ++ (if size.length < 2 then "0" ++ size else size)
  else if 0 ≤ d.exponent then
    sign ++ String.ofList (digits ++ List.replicate d.exponent.toNat '0') ++ ".0"
  else
    let places := d.exponent.natAbs
    let padded := List.replicate (places + 1 - digits.length) '0' ++ digits
    sign ++ String.ofList (padded.take (padded.length - places)) ++ "." ++
      String.ofList (padded.drop (padded.length - places))

/-- Ten multiplied by itself so many times. -/
def powerOfTen : Nat → Nat
  | 0 => 1
  | n + 1 => powerOfTen n * 10

/-- The nearest number with 53 significant bits; of two the one with an even last bit. -/
def roundBits (n : Nat) : Nat :=
  let excess := Nat.log2 n - 52
  let unit := Nat.shiftLeft 1 excess
  let kept := n / unit
  let rest := n % unit
  let roundsUp := unit < 2 * rest || (unit == 2 * rest && kept % 2 == 1)
  (if roundsUp then kept + 1 else kept) * unit

/-- The value, if it is an integer. -/
def integer? (d : Decimal) : Option Int :=
  if d.exponent < 0 then none
  else
    let size : Int := roundBits (d.digits * powerOfTen d.exponent.toNat)
    some (if d.isNegative then -size else size)

example : (ofText "1e+16".toList).text = "1e+16" ∧ (ofText "-0.0".toList).text = "-0.0" ∧
    (ofText "0.00012".toList).text = "0.00012" ∧ (ofText "100.0".toList).text = "100.0" := by
  decide +kernel

end Decimal

end ComponentCompiler
