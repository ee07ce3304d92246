import CommandStream.Power
import CommandStream.Text.Class

/-!
# Record formats

A format text lists the fields of a record, each a letter with an optional repeat count, with the
sizes and alignments of a 64-bit little-endian machine. A field is aligned before its first
element, also when its count is zero; nothing is added behind the last field.
-/

namespace CommandStream.Wire

/-- Kinds of fields with one value per element. -/
inductive Scalar where
  | integer (signed : Bool) (size : Nat)
  /-- An address: signed or unsigned when written, unsigned when read. -/
  | pointer
  | truth
  /-- One byte of a byte string. -/
  | byte
  | half
  | single
  | double
  deriving DecidableEq

/-- The size of an element, which is its alignment too. -/
def Scalar.size : Scalar → Nat
  | integer _ size => size
  | pointer => 8
  | truth => 1
  | byte => 1
  | half => 2
  | single => 4
  | double => 8

/-- A field of a record. -/
inductive Field where
  | padding (count : Nat)
  | scalars (kind : Scalar) (count : Nat)
  /-- A byte string of fixed length. -/
  | string (length : Nat)
  /-- A byte string behind a length byte. -/
  | counted (length : Nat)
  deriving DecidableEq

namespace Field

/-- The bytes of a field. -/
def size : Field → Nat
  | padding count => count
  | scalars kind count => kind.size * count
  | string length => length
  | counted length => length

/-- The alignment in front of a field. -/
def alignment : Field → Nat
  | scalars kind _ => kind.size
  | _ => 1

/-- How many values a field takes. -/
def valueCount : Field → Nat
  | padding _ => 0
  | scalars _ count => count
  | string _ => 1
  | counted _ => 1

/-- The field of a format letter with a repeat count. -/
def ofLetter? (letter : Char) (count : Nat) : Option Field :=
  match letter with
  | 'x' => some (.padding count)
  | 'c' => some (.scalars .byte count)
  | 'b' => some (.scalars (.integer true 1) count)
  | 'B' => some (.scalars (.integer false 1) count)
  | '?' => some (.scalars .truth count)
  | 'h' => some (.scalars (.integer true 2) count)
  | 'H' => some (.scalars (.integer false 2) count)
  | 'i' => some (.scalars (.integer true 4) count)
  | 'I' => some (.scalars (.integer false 4) count)
  | 'l' => some (.scalars (.integer true 8) count)
  | 'L' => some (.scalars (.integer false 8) count)
  | 'q' => some (.scalars (.integer true 8) count)
  | 'Q' => some (.scalars (.integer false 8) count)
  | 'n' => some (.scalars (.integer true 8) count)
  | 'N' => some (.scalars (.integer false 8) count)
  | 'e' => some (.scalars .half count)
  | 'f' => some (.scalars .single count)
  | 'd' => some (.scalars .double count)
  | 'P' => some (.scalars .pointer count)
  | 's' => some (.string count)
  | 'p' => some (.counted count)
  | _ => none

end Field

/-- The distance from an offset up to a multiple of an alignment. -/
def gap (offset alignment : Nat) : Nat :=
  (alignment - offset % alignment) % alignment

theorem gap_lt (offset : Nat) {alignment : Nat} (h : 0 < alignment) :
    gap offset alignment < alignment :=
  Nat.mod_lt _ h

/-- The gap leads to a multiple of the alignment. -/
theorem dvd_add_gap (offset : Nat) {alignment : Nat} (h : 0 < alignment) :
    alignment ∣ offset + gap offset alignment := by
  have below := Nat.mod_lt offset h
  have split := Nat.div_add_mod offset alignment
  by_cases aligned : offset % alignment = 0
  · simp [gap, aligned, Nat.dvd_of_mod_eq_zero aligned]
  · have small : alignment - offset % alignment < alignment := by omega
    rw [gap, Nat.mod_eq_of_lt small]
    refine ⟨offset / alignment + 1, ?_⟩
    rw [Nat.mul_add, Nat.mul_one]
    omega

/-- The same distance for signed numbers; there are no multiples of zero to go to. -/
def signedGap? (offset alignment : Int) : Option Int :=
  if alignment = 0 then none
  else some (Int.fmod (alignment - Int.fmod offset alignment) alignment)

/-- The end of a field that follows an offset. -/
def Field.endFrom (offset : Nat) (field : Field) : Nat :=
  offset + gap offset field.alignment + field.size

/-- The size of a record: the end of its last field. -/
def recordSize (fields : List Field) : Nat :=
  fields.foldl Field.endFrom 0

/-- The greatest size that a record can have. -/
def sizeLimit : Nat := 2 ^ 63 - 1

/-- White space between the fields of a format. -/
def isGap (c : Char) : Bool :=
  c == ' ' || (9 ≤ c.toNat && c.toNat ≤ 13)

/-- The fields of a format text, behind a repeat count that has been read. -/
def fieldsFrom (count : Option Nat) : List Char → Option (List Field)
  | [] => if count.isNone then some [] else none
  | c :: rest =>
    if c.isDigit then fieldsFrom (some (count.getD 0 * 10 + (c.toNat - '0'.toNat))) rest
    else if isGap c && count.isNone then fieldsFrom none rest
    else do
      let field ← Field.ofLetter? c (count.getD 1)
      let others ← fieldsFrom none rest
      some (field :: others)

/-- Reasons for which a format text describes no record. -/
inductive FormatError where
  | notAscii
  | malformed
  /-- A repeat count of more digits than are read. -/
  | countTooLong
  deriving DecidableEq

/-- The fields that a format text describes. -/
def parseFormat (format : String) : Except FormatError (List Field) :=
  if format.toList.any fun c => c.toNat ≥ 128 then .error .notAscii
  else
    match fieldsFrom none format.toList with
    | none => .error .malformed
    | some fields => if recordSize fields ≤ sizeLimit then .ok fields else .error .malformed

end CommandStream.Wire
