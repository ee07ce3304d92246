import CommandStream.Slot.Handle
import CommandStream.Text.Edit
import CommandStream.Text.Quoted
import CommandStream.Wire.Letters

/-!
# Wire types

A wire type is a named record format. A format of one value carries the value itself, every other
a tuple; the bytes are filled up to the alignment of the record. Handles travel packed into one
integer. `wireTypeFor` finds the wire type of a C argument type.
-/

namespace CommandStream

/-- How the values of a wire type are presented. -/
inductive Presentation where
  | plain
  | handle
  /-- By functions to what a record holds and back. -/
  | hooks (toWire fromWire : Value → Except Wire.CodecError Value)

namespace Presentation

/-- What a record holds for a value. -/
def toWire : Presentation → Value → Except Wire.CodecError Value
  | plain => .ok
  | handle => Slot.pack
  | hooks toWire _ => toWire

/-- The value for what a record holds. -/
def fromWire : Presentation → Value → Except Wire.CodecError Value
  | plain => .ok
  | handle => Slot.unpack
  | hooks _ fromWire => fromWire

end Presentation

/-- A named record format. -/
structure WireType where
  name : String
  format : String
  fields : List Wire.Field
  presentation : Presentation

namespace WireType
open Wire

/-- A wire type of plain values, if the counts of its format can be read. -/
def ofFormat (name format : String) : Except FormatError WireType := do
  let fields ← parseFormat format
  match announcedCount? format with
  | some _ => .ok { name, format, fields, presentation := .plain }
  | none => .error .countTooLong

/-- A wire type of one scalar. -/
def scalar (name format : String) (kind : Scalar) : WireType :=
  { name, format, fields := [.scalars kind 1], presentation := .plain }

variable (t : WireType)

/-- How many values a record of the type has. -/
def fieldCount : Nat :=
  recordValueCount t.fields

/-- The alignment of the type: the greatest of its fields. -/
def alignment : Nat :=
  (t.fields.map Field.alignment).foldl max 1

/-- The bytes of the type, filled up to its alignment. -/
def size : Nat :=
  recordSize t.fields + gap (recordSize t.fields) t.alignment

/-- The text of the type in messages. -/
def shown : String :=
  "WireType(" ++ Text.quoted t.name ++ ", " ++ Text.quoted t.format ++ ")"

/-- The values of a record given as one value. -/
def membersOf (v : Value) : Except CodecError (List Value) :=
  if t.fieldCount = 1 then .ok [v]
  else
    match v.members? with
    | some members => .ok members
    | none => .error .notASequence

/-- The bytes of a value. -/
def pack (v : Value) : Except CodecError (List UInt8) := do
  let plain ← t.presentation.toWire v
  let members ← t.membersOf plain
  let data ← packRecord t.fields members
  .ok (data ++ zeros (t.size - data.length))

/-- The value at an offset. -/
def unpackFrom (data : List UInt8) (offset : Int) : Except CodecError Value := do
  let members ← unpackRecord t.fields data offset
  let plain := match t.fieldCount, members with
    | 1, [member] => member
    | _, _ => .tuple members
  t.presentation.fromWire plain

/-- Addresses. -/
def pointer : WireType := scalar "pointer" "P" .pointer

/-- Packed handles. -/
def handle : WireType := { scalar "handle" "Q" (.integer false 8) with presentation := .handle }

/-- Enum constants of every group. -/
def enum : WireType := scalar "GLenum" "I" (.integer false 4)

/-- The wire types of the plain C types, by name. -/
def ofPlainType : List (String × WireType) :=
  let plain (name format : String) (kind : Scalar) := (name, scalar name format kind)
  [("GLenum", enum),
   plain "GLboolean" "B" (.integer false 1),
   plain "GLbitfield" "I" (.integer false 4),
   plain "GLbyte" "b" (.integer true 1),
   plain "GLubyte" "B" (.integer false 1),
   plain "GLchar" "b" (.integer true 1),
   plain "GLshort" "h" (.integer true 2),
   plain "GLushort" "H" (.integer false 2),
   plain "GLhalf" "H" (.integer false 2),
   plain "GLint" "i" (.integer true 4),
   plain "GLuint" "I" (.integer false 4),
   plain "GLsizei" "i" (.integer true 4),
   plain "GLfixed" "i" (.integer true 4),
   plain "GLfloat" "f" .single,
   plain "GLclampf" "f" .single,
   plain "GLdouble" "d" .double,
   plain "GLclampd" "d" .double,
   plain "GLint64" "q" (.integer true 8),
   plain "GLuint64" "Q" (.integer false 8),
   plain "GLintptr" "n" (.integer true 8),
   plain "GLsizeiptr" "n" (.integer true 8),
   ("GLsync", pointer),
   ("GLDEBUGPROC", pointer),
   ("GLeglImageOES", pointer),
   plain "char" "b" (.integer true 1),
   plain "int" "i" (.integer true 4),
   plain "unsigned int" "I" (.integer false 4),
   plain "float" "f" .single,
   plain "double" "d" .double]

end WireType

/-- The wire type of a C type: any pointer, any handle, any known enum, then the plain types, a
leading `const` being of no account to these. The error is the type left without a wire type. -/
def wireTypeFor (cType : String) (enumTypes : List String) : Except String WireType :=
  let type := trimmed cType
  if finishesWith type "*" then .ok .pointer
  else if finishesWith type "Handle" then .ok .handle
  else if enumTypes.contains type then .ok .enum
  else
    let plain := if beginsWith type "const " then dropFirst type 6 else type
    match WireType.ofPlainType.lookup plain with
    | some t => .ok t
    | none => .error plain

/-- The message about a type without a wire type. -/
def noWireType (type : String) : String :=
  "no wire type for " ++ type

/-- The widths of a command id. -/
inductive IdWidth where
  | byte
  | short
  | word
  deriving DecidableEq

namespace IdWidth

/-- The widths from narrow to wide. -/
def all : List IdWidth := [byte, short, word]

/-- The bits of an id. -/
def bits : IdWidth → Nat
  | byte => 8
  | short => 16
  | word => 32

/-- The C type of an id. -/
def typeName : IdWidth → String
  | byte => "uint8_t"
  | short => "uint16_t"
  | word => "uint32_t"

/-- The wire type of an id. -/
def wireType : IdWidth → WireType
  | byte => .scalar "uint8_t" "B" (.integer false 1)
  | short => .scalar "uint16_t" "H" (.integer false 2)
  | word => .scalar "uint32_t" "I" (.integer false 4)

/-- The narrowest width that holds so many ids and one more as their count. -/
def forCount? (count : Int) : Option IdWidth :=
  all.find? fun width => decide (count + 1 ≤ (2 ^ width.bits : Nat))

/-- The narrowest width that holds as many ids as a double word says and one more, which is counted
in doubles. -/
def forFloat? (bits : Nat) : Option IdWidth :=
  all.find? fun width =>
    match Floating.compareInt (Floating.addInt bits 1) (2 ^ width.bits : Nat) with
    | some .gt => false
    | some _ => true
    | none => false

end IdWidth

end CommandStream
