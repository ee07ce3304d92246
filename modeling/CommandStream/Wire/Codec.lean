import CommandStream.Value
import CommandStream.Wire.Format

/-!
# Packing and unpacking records

A record is packed field by field, each at its aligned offset with zero bytes between, and read
back the same way. Numbers are little-endian; a number that its field cannot hold is refused,
except that a float too large for four bytes becomes infinite.
-/

namespace CommandStream.Wire

/-- Reasons for which values do not become bytes or bytes do not become values. -/
inductive CodecError where
  /-- A value of the wrong kind or range, a wrong number of values, or too few bytes. -/
  | unsuitable
  /-- A float beyond the range of the two-byte format. -/
  | tooLarge
  /-- A single value where a record of several is wanted. -/
  | notASequence
  | notAHandle
  /-- A handle with a field that is no integer, or a packed handle that is none. -/
  | notAnInteger
  /-- A counted byte string without room for its count. -/
  | noRoomForCount
  deriving DecidableEq

/-- The low bytes of a number, least significant first. -/
def littleEndian : Nat → Nat → List UInt8
  | 0, _ => []
  | size + 1, n => UInt8.ofNat (n % 256) :: littleEndian size (n / 256)

/-- The number that little-endian bytes stand for. -/
def ofLittleEndian : List UInt8 → Nat
  | [] => 0
  | b :: rest => b.toNat + 256 * ofLittleEndian rest

@[simp] theorem length_littleEndian (size n : Nat) : (littleEndian size n).length = size := by
  induction size generalizing n with
  | zero => rfl
  | succ size ih => simp [littleEndian, ih]

theorem ofLittleEndian_littleEndian (size n : Nat) :
    ofLittleEndian (littleEndian size n) = n % 256 ^ size := by
  induction size generalizing n with
  | zero => simp [littleEndian, ofLittleEndian, Nat.mod_one]
  | succ size ih =>
    have power : 256 ^ (size + 1) = 256 * 256 ^ size := by rw [Nat.pow_succ, Nat.mul_comm]
    rw [power, Nat.mod_mul]
    simp [littleEndian, ofLittleEndian, ih]

/-- The least and greatest integer of a field of so many bytes. -/
def integerRange (signed : Bool) (size : Nat) : Int × Int :=
  if signed then (-(2 ^ (8 * size - 1) : Nat), (2 ^ (8 * size - 1) : Nat) - 1)
  else (0, (2 ^ (8 * size) : Nat) - 1)

/-- The two's complement of an integer in so many bytes. -/
def packInteger (size : Nat) (n : Int) : List UInt8 :=
  littleEndian size (n % (2 ^ (8 * size) : Nat)).toNat

/-- The integer of two's complement bytes. -/
def unpackInteger (signed : Bool) (data : List UInt8) : Int :=
  let n := ofLittleEndian data
  let width := 8 * data.length
  if signed && decide (2 ^ (width - 1) ≤ n) then (n : Int) - (2 ^ width : Nat) else n

/-- An integer between bounds. -/
def integerWithin (low high : Int) (v : Value) : Except CodecError Int :=
  match v.int? with
  | none => .error .unsuitable
  | some n => if low ≤ n ∧ n ≤ high then .ok n else .error .unsuitable

/-- The double word of a number. -/
def doubleBits (v : Value) : Except CodecError Nat :=
  match v with
  | .float bits => .ok bits.toNat
  | _ =>
    match v.int? with
    | none => .error .unsuitable
    | some n =>
      match Floating.ofInt? .double n with
      | none => .error .unsuitable
      | some bits => .ok bits

/-- The bytes of one element. -/
def packScalar (kind : Scalar) (v : Value) : Except CodecError (List UInt8) :=
  match kind with
  | .integer signed size => do
    let range := integerRange signed size
    let n ← integerWithin range.1 range.2 v
    .ok (packInteger size n)
  | .pointer => do
    let n ← integerWithin (integerRange true 8).1 (integerRange false 8).2 v
    .ok (packInteger 8 n)
  | .truth => .ok [if v.isTrue then 1 else 0]
  | .byte =>
    match v with
    | .bytes [b] => .ok [b]
    | _ => .error .unsuitable
  | .half => do
    let bits ← doubleBits v
    match Floating.convert? .double .half bits with
    | some narrow => .ok (littleEndian 2 narrow)
    | none => .error (if v.int?.isSome then .unsuitable else .tooLarge)
  | .single => do
    let bits ← doubleBits v
    .ok (littleEndian 4 (Floating.convert .double .single bits))
  | .double => do
    let bits ← doubleBits v
    .ok (littleEndian 8 bits)

/-- The value of the bytes of one element. -/
def unpackScalar (kind : Scalar) (data : List UInt8) : Value :=
  match kind with
  | .integer signed _ => .int (unpackInteger signed data)
  | .pointer => .int (unpackInteger false data)
  | .truth => .truth (ofLittleEndian data != 0)
  | .byte => .bytes data
  | .half => .float (UInt64.ofNat (Floating.convert .half .double (ofLittleEndian data)))
  | .single => .float (UInt64.ofNat (Floating.convert .single .double (ofLittleEndian data)))
  | .double => .float (UInt64.ofNat (ofLittleEndian data))

/-- Zero bytes. -/
def zeros (count : Nat) : List UInt8 :=
  List.replicate count 0

/-- Bytes cut or filled with zeros to a length. -/
def fitted (length : Nat) (data : List UInt8) : List UInt8 :=
  data.take length ++ zeros (length - data.length)

@[simp] theorem length_fitted (length : Nat) (data : List UInt8) :
    (fitted length data).length = length := by
  simp [fitted, zeros]
  omega

/-- The bytes of the elements of a field. -/
def packScalars (kind : Scalar) : List Value → Except CodecError (List UInt8)
  | [] => .ok []
  | v :: rest => do
    let first ← packScalar kind v
    let others ← packScalars kind rest
    .ok (first ++ others)

/-- The bytes of a field; `values` are as many as it takes. -/
def packField (field : Field) (values : List Value) : Except CodecError (List UInt8) :=
  match field with
  | .padding count => .ok (zeros count)
  | .scalars kind _ => packScalars kind values
  | .string length =>
    match values with
    | [.bytes data] => .ok (fitted length data)
    | _ => .error .unsuitable
  | .counted length =>
    match values with
    | [.bytes data] =>
      match length with
      | 0 => .ok []
      | room + 1 => .ok (UInt8.ofNat (min (min data.length room) 255) :: fitted room data)
    | _ => .error .unsuitable

/-- The bytes of fields that follow an offset. -/
def packFields (offset : Nat) : List Field → List Value → Except CodecError (List UInt8)
  | [], _ => .ok []
  | field :: rest, values => do
    let data ← packField field (values.take field.valueCount)
    let others ← packFields (field.endFrom offset) rest (values.drop field.valueCount)
    .ok (zeros (gap offset field.alignment) ++ data ++ others)

/-- How many values a record takes. -/
def recordValueCount (fields : List Field) : Nat :=
  (fields.map Field.valueCount).foldr (· + ·) 0

/-- Whether no value fills the first byte of fields that follow an offset: it belongs to a gap, to
padding or to an empty string. -/
def startsBlank (offset : Nat) : List Field → List Value → Bool
  | [], _ => true
  | field :: rest, values =>
    match field, values with
    | .padding (_ + 1), _ => true
    | .string (_ + 1), .bytes [] :: _ => true
    | _, _ =>
      gap offset field.alignment != 0 ||
        (field.size == 0 && startsBlank offset rest (values.drop field.valueCount))

/-- The offsets of the blank bytes that counted strings without room take for their counts. -/
def strayCounts (offset : Nat) : List Field → List Value → List Nat
  | [], _ => []
  | field :: rest, values =>
    let others := values.drop field.valueCount
    if field = .counted 0 ∧ startsBlank offset rest others then
      offset :: strayCounts offset rest others
    else strayCounts (field.endFrom offset) rest others

/-- The bytes of a record. A counted string without room has the greatest count, which shows only
where it meets a blank byte. -/
def packRecord (fields : List Field) (values : List Value) : Except CodecError (List UInt8) :=
  if values.length = recordValueCount fields then do
    let data ← packFields 0 fields values
    .ok ((strayCounts 0 fields values).foldl (fun data offset => data.set offset 255) data)
  else .error .unsuitable

/-- The values of so many elements. -/
def unpackScalars (kind : Scalar) : Nat → List UInt8 → List Value
  | 0, _ => []
  | count + 1, data =>
    unpackScalar kind (data.take kind.size) :: unpackScalars kind count (data.drop kind.size)

/-- The values of the bytes of a field. -/
def unpackField (field : Field) (data : List UInt8) : Except CodecError (List Value) :=
  match field with
  | .padding _ => .ok []
  | .scalars kind count => .ok (unpackScalars kind count data)
  | .string length => .ok [.bytes (data.take length)]
  | .counted length =>
    match length, data with
    | room + 1, count :: rest => .ok [.bytes (rest.take (min count.toNat room))]
    | _, _ => .error .noRoomForCount

/-- The values of fields that follow an offset, whose bytes are at the front of `data`. -/
def unpackFields (offset : Nat) : List Field → List UInt8 → Except CodecError (List Value)
  | [], _ => .ok []
  | field :: rest, data => do
    let own := data.drop (gap offset field.alignment)
    let first ← unpackField field own
    let others ← unpackFields (field.endFrom offset) rest (own.drop field.size)
    .ok (first ++ others)

/-- Where an offset lies in `size` bytes, a negative one counting from the end, if so many bytes
follow it. -/
def place? (size needed : Nat) (offset : Int) : Option Nat :=
  if offset < 0 then
    if offset + needed > 0 ∨ offset + size < 0 then none else some (offset + size).toNat
  else if offset + needed > size then none
  else some offset.toNat

/-- The values of a record at an offset. -/
def unpackRecord (fields : List Field) (data : List UInt8) (offset : Int) :
    Except CodecError (List Value) :=
  match place? data.length (recordSize fields) offset with
  | none => .error .unsuitable
  | some start => unpackFields 0 fields (data.drop start)

end CommandStream.Wire
