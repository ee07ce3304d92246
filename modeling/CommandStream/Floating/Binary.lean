import CommandStream.Power

/-!
# Binary floating point

Interchange formats of sign, exponent and fraction, handled as natural numbers. A finite value is
a multiple of a power of two; `round` is the nearest value of a format, a tie going to the even
neighbour, and reads as `infinity` or more when the format cannot hold the magnitude.
-/

namespace CommandStream.Floating

/-- The nearest multiple of `2 ^ shift`, in such units; a tie goes to the even one. -/
def roundHalfEven (n shift : Nat) : Nat :=
  let quotient := n / 2 ^ shift
  let remainder := n % 2 ^ shift
  if 2 * remainder > 2 ^ shift || (2 * remainder = 2 ^ shift && quotient % 2 = 1) then quotient + 1
  else quotient

/-- A binary interchange format. -/
structure Format where
  exponentBits : Nat
  fractionBits : Nat

namespace Format

/-- The two-byte format. -/
def half : Format := ⟨5, 10⟩

/-- The four-byte format. -/
def single : Format := ⟨8, 23⟩

/-- The eight-byte format. -/
def double : Format := ⟨11, 52⟩

variable (f : Format)

/-- The exponent bias. -/
def bias : Nat := 2 ^ (f.exponentBits - 1) - 1

/-- The magnitude bits of infinity. -/
def infinity : Nat := (2 ^ f.exponentBits - 1) * 2 ^ f.fractionBits

/-- The magnitude bits of the quiet not-a-number without payload. -/
def notANumber : Nat := f.infinity + 2 ^ (f.fractionBits - 1)

/-- The sign bit as a number. -/
def signBit : Nat := 2 ^ (f.exponentBits + f.fractionBits)

/-- Whether a word has its sign bit set. -/
def isNegative (bits : Nat) : Bool := bits / f.signBit % 2 = 1

/-- A word without its sign bit. -/
def magnitude (bits : Nat) : Nat := bits % f.signBit

/-- The significand and exponent of finite magnitude bits: the value is
`significand * 2 ^ exponent`. -/
def parts (magnitude : Nat) : Nat × Int :=
  let field := magnitude / 2 ^ f.fractionBits
  let fraction := magnitude % 2 ^ f.fractionBits
  if field = 0 then (fraction, (1 : Int) - f.bias - f.fractionBits)
  else (fraction + 2 ^ f.fractionBits, (field : Int) - f.bias - f.fractionBits)

/-- The magnitude bits nearest to `significand * 2 ^ exponent`, `infinity` or more on overflow. -/
def round (significand : Nat) (exponent : Int) : Nat :=
  if significand = 0 then 0
  else
    let top : Int := significand.log2 + exponent
    let least : Int := 1 - f.bias
    let unit := max top least - f.fractionBits
    let units :=
      if exponent ≤ unit then roundHalfEven significand (unit - exponent).toNat
      else significand * 2 ^ (exponent - unit).toNat
    (top - least).toNat * 2 ^ f.fractionBits + units

end Format

/-- A word of one format in another; `none` where the magnitude overflows. -/
def convert? (source target : Format) (bits : Nat) : Option Nat :=
  let sign := if source.isNegative bits then target.signBit else 0
  let magnitude := source.magnitude bits
  if magnitude = source.infinity then some (sign + target.infinity)
  else if magnitude > source.infinity then some (sign + target.notANumber)
  else
    let (significand, exponent) := source.parts magnitude
    let rounded := target.round significand exponent
    if rounded < target.infinity then some (sign + rounded) else none

/-- A word of one format in another, an overflow going to infinity. -/
def convert (source target : Format) (bits : Nat) : Nat :=
  (convert? source target bits).getD
    ((if source.isNegative bits then target.signBit else 0) + target.infinity)

/-- The word nearest to an integer, if the format can hold it. -/
def ofInt? (target : Format) (n : Int) : Option Nat :=
  let rounded := target.round n.natAbs 0
  if rounded < target.infinity then some ((if n < 0 then target.signBit else 0) + rounded) else none

/-- The integer that a double word stands for, if it stands for one. -/
def integer? (bits : Nat) : Option Int :=
  let f := Format.double
  let magnitude := f.magnitude bits
  if magnitude ≥ f.infinity then none
  else
    let (significand, exponent) := f.parts magnitude
    let size : Option Nat :=
      if 0 ≤ exponent then some (significand * 2 ^ exponent.toNat)
      else
        let scale := 2 ^ (-exponent).toNat
        if significand % scale = 0 then some (significand / scale) else none
    size.map fun n => if f.isNegative bits then -(n : Int) else n

/-- What a double word stands for, a finite value without its fraction. -/
inductive Whole where
  | finite (n : Int)
  | infinite
  | notANumber
  deriving DecidableEq

/-- What a double word stands for, a finite value cut towards zero. -/
def classify (bits : Nat) : Whole :=
  let f := Format.double
  let magnitude := f.magnitude bits
  if magnitude > f.infinity then .notANumber
  else if magnitude = f.infinity then .infinite
  else
    let (significand, exponent) := f.parts magnitude
    let size : Nat :=
      if 0 ≤ exponent then significand * 2 ^ exponent.toNat
      else significand / 2 ^ (-exponent).toNat
    .finite (if f.isNegative bits then -(size : Int) else size)

/-- The double word nearest to the sum of a double word and an integer. -/
def addInt (bits : Nat) (n : Int) : Nat :=
  let f := Format.double
  let magnitude := f.magnitude bits
  if magnitude ≥ f.infinity then bits
  else
    let (significand, exponent) := f.parts magnitude
    let signed : Int := if f.isNegative bits then -(significand : Int) else significand
    let sum : Int :=
      if 0 ≤ exponent then signed * 2 ^ exponent.toNat + n
      else signed + n * 2 ^ (-exponent).toNat
    let rounded := f.round sum.natAbs (min exponent 0)
    (if sum < 0 then f.signBit else 0) + rounded

/-- The order of a finite or infinite double word and an integer; `none` for not-a-number. -/
def compareInt (bits : Nat) (n : Int) : Option Ordering :=
  let f := Format.double
  let magnitude := f.magnitude bits
  let negative := f.isNegative bits
  if magnitude > f.infinity then none
  else if magnitude = f.infinity then some (if negative then .lt else .gt)
  else
    let (significand, exponent) := f.parts magnitude
    let signed : Int := if negative then -(significand : Int) else significand
    if 0 ≤ exponent then some (compare (signed * 2 ^ exponent.toNat) n)
    else some (compare signed (n * 2 ^ (-exponent).toNat))

end CommandStream.Floating
