import CommandStream.Program.Numeral
import CommandStream.Wire.Format

/-!
# The letters of a format

How many values a record takes and how it has to be aligned can be told from the letters of its format and
the digits directly in front of them, whatever stands between. Counts are numerals, and a numeral of too
many digits is not read.
-/

namespace CommandStream.Wire

/-- A letter of a format with the digits in front of it. -/
structure Item where
  digits : List Char
  letter : Char
  deriving DecidableEq

/-- The items of a text behind some digits. Formats are ASCII texts, and so are their digits. -/
def itemsFrom (digits : List Char) : List Char → List Item
  | [] => []
  | c :: rest =>
    if c.isDigit then itemsFrom (digits ++ [c]) rest
    else if c.isAlpha || c == '?' then ⟨digits, c⟩ :: itemsFrom [] rest
    else itemsFrom [] rest

/-- The items of a format. -/
def itemsOf (format : String) : List Item :=
  itemsFrom [] format.toList

namespace Item

variable (item : Item)

/-- The repeat count of an item, if its digits can be read. -/
def count? : Option Nat :=
  if item.digits.isEmpty then some 1 else Numeral.magnitude? item.digits

/-- How many values an item takes: none for blank bytes, one for a byte string. -/
def valueCount? : Option Nat :=
  if item.letter = 'x' then some 0
  else if item.letter = 's' ∨ item.letter = 'p' then some 1
  else item.count?

/-- The size of a record of one element of an item; blank bytes and byte strings have no elements. -/
def elementSize? : Option Nat :=
  if item.letter = 's' ∨ item.letter = 'p' ∨ item.letter = 'x' then none
  else (fieldsFrom none [item.letter]).map recordSize

end Item

/-- The size of the greatest element of some items, or one if there is none. -/
def greatestElement (items : List Item) : Nat :=
  match items.filterMap Item.elementSize? with
  | [] => 1
  | size :: others => others.foldl max size

/-- The sum of some counts. -/
def total (counts : List Nat) : Nat :=
  counts.foldr (· + ·) 0

/-- How many values the items of a format take together. -/
def announcedCount? (format : String) : Option Nat :=
  ((itemsOf format).mapM Item.valueCount?).map total

/-- The alignment of a record as the items of its format tell it. -/
def announcedAlignment (format : String) : Nat :=
  greatestElement (itemsOf format)

end CommandStream.Wire
