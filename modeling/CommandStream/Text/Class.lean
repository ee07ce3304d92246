import CommandStream.Text.Category

/-!
# Character classes

The classes that names, declarations and quoted texts are read with, each a union of the Unicode
categories of `Category.lean`. A word character is a letter, a number of any kind or the low line;
an identifier starts and continues by the Unicode identifier properties.
-/

namespace CommandStream.Text
open Category

/-- Letters, and numbers of every kind: decimal, letter-like, fractions and superscripts. -/
def isAlphanumeric (c : Char) : Bool :=
  inRanges decimal c.toNat || inRanges letter c.toNat || inRanges letterNumber c.toNat ||
    inRanges otherNumber c.toNat

/-- Decimal digits and the raised, lowered and enclosed forms of a single digit. -/
def isDigit (c : Char) : Bool :=
  inRanges decimal c.toNat || inRanges digitForm c.toNat

/-- White space. -/
def isBlank (c : Char) : Bool :=
  inRanges blank c.toNat

/-- Characters of a word. -/
def isWord (c : Char) : Bool :=
  c == '_' || isAlphanumeric c

/-- Letters whose compatibility decomposition does not start as they do. -/
def unstableStart : List (Nat × Nat) := [
  (0x37A, 0x37A), (0xE33, 0xE33), (0xEB3, 0xEB3), (0x2E2F, 0x2E2F), (0xFC5E, 0xFC63),
  (0xFDFA, 0xFDFB), (0xFE70, 0xFE70), (0xFE72, 0xFE72), (0xFE74, 0xFE74), (0xFE76, 0xFE76),
  (0xFE78, 0xFE78), (0xFE7A, 0xFE7A), (0xFE7C, 0xFE7C), (0xFE7E, 0xFE7E), (0xFF9E, 0xFF9F)]

/-- Letters whose compatibility decomposition is no identifier part. -/
def unstablePart : List (Nat × Nat) := [
  (0x37A, 0x37A), (0x2E2F, 0x2E2F), (0xFC5E, 0xFC63), (0xFDFA, 0xFDFB), (0xFE70, 0xFE70),
  (0xFE72, 0xFE72), (0xFE74, 0xFE74), (0xFE76, 0xFE76), (0xFE78, 0xFE78), (0xFE7A, 0xFE7A),
  (0xFE7C, 0xFE7C), (0xFE7E, 0xFE7E)]

/-- Characters that start identifiers by tradition, outside the letters. -/
def traditionalStart : List (Nat × Nat) := [(0x1885, 0x1886), (0x2118, 0x2118), (0x212E, 0x212E)]

/-- Characters that continue identifiers by tradition, outside letters, marks and digits. -/
def traditionalPart : List (Nat × Nat) := [
  (0xB7, 0xB7), (0x387, 0x387), (0x1369, 0x1371), (0x19DA, 0x19DA), (0x2118, 0x2118),
  (0x212E, 0x212E)]

/-- Characters that may start an identifier. -/
def startsIdentifier (c : Char) : Bool :=
  c == '_' || inRanges traditionalStart c.toNat ||
    (inRanges letter c.toNat || inRanges letterNumber c.toNat) && !inRanges unstableStart c.toNat

/-- Characters that may follow in an identifier. -/
def continuesIdentifier (c : Char) : Bool :=
  inRanges traditionalPart c.toNat || inRanges decimal c.toNat || inRanges connector c.toNat ||
    inRanges mark c.toNat ||
    (inRanges letter c.toNat || inRanges letterNumber c.toNat) && !inRanges unstablePart c.toNat

/-- Identifiers: one starting character, then continuing ones. -/
def isIdentifier (s : String) : Bool :=
  match s.toList with
  | [] => false
  | c :: rest => startsIdentifier c && rest.all continuesIdentifier

/-- Characters that a quoted text shows as they are. -/
def isPrintable (c : Char) : Bool :=
  c == ' ' || isAlphanumeric c || inRanges punctuation c.toNat || inRanges symbol c.toNat ||
    inRanges mark c.toNat || inRanges connector c.toNat || inRanges enclosingMark c.toNat

end CommandStream.Text
