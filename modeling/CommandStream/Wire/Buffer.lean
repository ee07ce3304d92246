import CommandStream.Outcome
import CommandStream.Wire.Type

/-!
# The transfer buffer

Bytes that grow at a write cursor and are consumed at a read cursor; every value lies at a multiple
of its alignment. The bytes behind the write cursor are those that a failed write left: the gap in
front of a value is filled before the value is packed.
-/

namespace CommandStream

/-- Reasons for which a value is not read. -/
inductive ReadError where
  /-- The value of a named type at an offset would end past the write cursor. -/
  | underrun (type : String) (offset writeCursor : Nat)
  | codec (cause : Wire.CodecError)
  deriving DecidableEq

/-- The message of a failed reading, where there is one. -/
def ReadError.message? : ReadError → Option String
  | underrun type offset writeCursor =>
    some ("reading " ++ type ++ " at " ++ toString offset ++ " past write cursor " ++
      toString writeCursor)
  | codec _ => none

/-- A buffer with its two cursors. -/
structure Buffer where
  data : List UInt8
  writeCursor : Nat
  readCursor : Nat
  deriving DecidableEq

namespace Buffer

/-- The buffer without content. -/
def empty : Buffer := ⟨[], 0, 0⟩

instance : Inhabited Buffer := ⟨empty⟩

variable (b : Buffer)

/-- The bytes with the gap in front of a value of a type. -/
def gapped (t : WireType) : List UInt8 :=
  b.data ++ Wire.zeros (Wire.gap b.writeCursor t.alignment)

/-- The buffer with a value behind the write cursor. -/
def write (t : WireType) (v : Value) : Outcome Buffer Wire.CodecError Unit :=
  let before := b.gapped t
  match t.pack v with
  | .ok bytes =>
    let data := before ++ bytes
    .done { b with data, writeCursor := data.length } ()
  | .error e => .failed { b with data := before } e

/-- The offset at which a value of a type is read next. -/
def readOffset (t : WireType) : Nat :=
  b.readCursor + Wire.gap b.readCursor t.alignment

/-- The next value as a value of a type, and the buffer behind it. -/
def read (t : WireType) : Except ReadError (Value × Buffer) :=
  let offset := b.readOffset t
  if offset + t.size > b.writeCursor then .error (.underrun t.name offset b.writeCursor)
  else
    match t.unpackFrom b.data offset with
    | .ok v => .ok (v, { b with readCursor := offset + t.size })
    | .error e => .error (.codec e)

/-- Whether anything is left to read. -/
def hasCommands : Bool :=
  b.readCursor < b.writeCursor

end Buffer

end CommandStream
