import CommandStream.Floating.Binary

/-!
# Shortest decimal text

The decimal text of a double word: the fewest digits that read back as the same word, nearest to
the value among those of that number. Texts are positional from `0.0001` up to below `10 ^ 16` and
always show a fraction or an exponent.
-/

namespace CommandStream.Floating

/-- An interval of reals as numerators over one denominator. -/
structure Interval where
  low : Nat
  value : Nat
  high : Nat
  denominator : Nat
  /-- Whether the ends belong to the interval. -/
  closed : Bool

/-- The reals that round to a positive double magnitude. -/
def Interval.ofMagnitude (magnitude : Nat) : Interval :=
  let f := Format.double
  let (significand, exponent) := f.parts magnitude
  let unit := if 0 ≤ exponent then 2 ^ exponent.toNat else 1
  let scale := if 0 ≤ exponent then 1 else 2 ^ (-exponent).toNat
  let value := 4 * significand * unit
  let narrow := significand = 2 ^ f.fractionBits && magnitude ≥ 2 * 2 ^ f.fractionBits
  { low := if narrow then value - unit else value - 2 * unit
    value
    high := value + 2 * unit
    denominator := 4 * scale
    closed := significand % 2 = 0 }

/-- A decimal number `digits * 10 ^ exponent`. -/
structure Decimal where
  digits : Nat
  exponent : Int

/-- The numerator of a decimal over the denominator of an interval, and the factor that the
interval's own numerators take. -/
def Interval.align (i : Interval) (d : Decimal) : Nat × Nat :=
  if 0 ≤ d.exponent then (d.digits * 10 ^ d.exponent.toNat * i.denominator, 1)
  else (d.digits * i.denominator, 10 ^ (-d.exponent).toNat)

/-- Membership of a decimal in an interval. -/
def Interval.holds (i : Interval) (d : Decimal) : Bool :=
  let (n, factor) := i.align d
  if i.closed then i.low * factor ≤ n && n ≤ i.high * factor
  else i.low * factor < n && n < i.high * factor

/-- The distance of a decimal from the value of an interval, scaled. -/
def Interval.distance (i : Interval) (d : Decimal) : Nat :=
  let (n, factor) := i.align d
  (n - i.value * factor) + (i.value * factor - n)

/-- The decimals next to the value on the grid of an exponent, lower one first. -/
def Interval.neighbours (i : Interval) (exponent : Int) : List Decimal :=
  let digits :=
    if 0 ≤ exponent then i.value / (i.denominator * 10 ^ exponent.toNat)
    else i.value * 10 ^ (-exponent).toNat / i.denominator
  [⟨digits, exponent⟩, ⟨digits + 1, exponent⟩]

/-- The least number of places at which the fraction `numerator / denominator` reaches one. -/
def leadingPlaces (numerator denominator : Nat) : Nat → Nat
  | 0 => 0
  | fuel + 1 =>
    if numerator ≥ denominator then 0
    else leadingPlaces (numerator * 10) denominator fuel + 1

/-- The exponent of ten of the leading digit. -/
def Interval.leading (i : Interval) : Int :=
  if i.value ≥ i.denominator then ((Nat.toDigits 10 (i.value / i.denominator)).length : Int) - 1
  else -(leadingPlaces i.value i.denominator 400 : Int)

/-- The nearer of the candidates within the interval; the even one of two as near. -/
def Interval.nearest (i : Interval) (candidates : List Decimal) : Option Decimal :=
  match candidates.filter i.holds with
  | [] => none
  | [d] => some d
  | d :: e :: _ =>
    match compare (i.distance d) (i.distance e) with
    | .lt => some d
    | .gt => some e
    | .eq => some (if d.digits % 2 = 0 then d else e)

/-- The shortest decimal of an interval, trying grids from coarse to fine. -/
def Interval.shortest (i : Interval) : Decimal :=
  let grids := (List.range 17).map fun (k : Nat) => i.leading - (k : Int)
  (grids.findSome? fun exponent => i.nearest (i.neighbours exponent)).getD ⟨0, 0⟩

/-- The digits of a decimal without trailing zeros, and the exponent of its leading digit. -/
def Decimal.scientific (d : Decimal) : List Char × Int :=
  let digits := Nat.toDigits 10 d.digits
  let kept := (digits.reverse.dropWhile (· == '0')).reverse
  (kept, d.exponent + ((digits.length : Int) - 1))

/-- The exponent mark: a sign and at least two digits. -/
def exponentMark (exponent : Int) : List Char :=
  let digits := Nat.toDigits 10 exponent.natAbs
  let padded := if digits.length < 2 then '0' :: digits else digits
  'e' :: (if exponent < 0 then '-' else '+') :: padded

/-- The text of digits whose first stands at an exponent of ten. -/
def decimalText (digits : List Char) (exponent : Int) : List Char :=
  if -4 ≤ exponent ∧ exponent < 16 then
    if exponent < 0 then '0' :: '.' :: List.replicate (-exponent - 1).toNat '0' ++ digits
    else
      let whole := exponent.toNat + 1
      let padded := digits ++ List.replicate (whole - digits.length) '0'
      let fraction := padded.drop whole
      padded.take whole ++ '.' :: (if fraction.isEmpty then ['0'] else fraction)
  else
    match digits with
    | [] => ['0']
    | [d] => d :: exponentMark exponent
    | d :: rest => d :: '.' :: rest ++ exponentMark exponent

/-- The text of a double word. -/
def text (bits : Nat) : String :=
  let f := Format.double
  let magnitude := f.magnitude bits
  let sign := if f.isNegative bits then ['-'] else []
  if magnitude > f.infinity then "nan"
  else if magnitude = f.infinity then String.ofList (sign ++ ['i', 'n', 'f'])
  else if magnitude = 0 then String.ofList (sign ++ ['0', '.', '0'])
  else
    let (digits, exponent) := (Interval.ofMagnitude magnitude).shortest.scientific
    String.ofList (sign ++ decimalText digits exponent)

end CommandStream.Floating
