import CommandStream.Text.Class

/-!
# Numerals of users

Integers as users write them: blanks around, a sign, and decimal digits of any script with single
low lines between them.
-/

namespace CommandStream.Numeral
open Text

/-- The value of a decimal digit of any script. The digits of a script follow one another from its
zero, and so do the scripts of a run. -/
def digit? (c : Char) : Option Nat :=
  (Category.decimal.find? fun range => decide (range.1 ≤ c.toNat) && decide (c.toNat ≤ range.2)).map
    fun range => (c.toNat - range.1) % 10

/-- The blanks that may surround a numeral: all but the control characters that separate records. -/
def isMargin (c : Char) : Bool :=
  isBlank c && !(0x1C ≤ c.toNat && c.toNat ≤ 0x1F)

/-- The greatest number of digits. -/
def digitLimit : Nat := 4300

/-- The digits of a numeral; `behindDigit` tells whether a low line may follow. -/
def digits? (behindDigit : Bool) : List Char → Option (List Nat)
  | [] => if behindDigit then some [] else none
  | c :: rest =>
    match digit? c with
    | some d => (digits? true rest).map (d :: ·)
    | none => if c = '_' && behindDigit then digits? false rest else none

/-- The number of digits. -/
def ofDigits (digits : List Nat) : Nat :=
  digits.foldl (fun n d => 10 * n + d) 0

/-- The magnitude of a numeral without sign. -/
def magnitude? (cs : List Char) : Option Nat := do
  let digits ← digits? false cs
  if digits.length ≤ digitLimit then some (ofDigits digits) else none

/-- The text without the margins around it. -/
def withoutMargins (cs : List Char) : List Char :=
  ((cs.dropWhile isMargin).reverse.dropWhile isMargin).reverse

/-- The integer that a text writes. -/
def parse? (text : String) : Option Int :=
  match withoutMargins text.toList with
  | '+' :: rest => (magnitude? rest).map Int.ofNat
  | '-' :: rest => (magnitude? rest).map fun n => -(n : Int)
  | cs => (magnitude? cs).map Int.ofNat

/-- Whether a text looks like a negative number: a hyphen and decimal digits, with at most one point
in front of the last of them. A line feed at the end is of no account. -/
def looksNegative (text : String) : Bool :=
  match text.toList with
  | '-' :: cs =>
    let body := if cs.getLast? = some '\n' then cs.dropLast else cs
    let isDecimal (c : Char) : Bool := (digit? c).isSome
    let plain (cs : List Char) : Bool := !cs.isEmpty && cs.all isDecimal
    plain body ||
      match body.dropWhile isDecimal with
      | '.' :: fraction => plain fraction
      | _ => false
  | _ => false

end CommandStream.Numeral
