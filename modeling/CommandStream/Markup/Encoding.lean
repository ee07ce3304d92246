import CommandStream.Markup.Charset
import CommandStream.Markup.Document
import CommandStream.Text.Utf8

/-!
# Encoded documents

Documents as bytes. The first bytes show whether a document is read in units of one byte or two. The
declared encoding, which must have units of the same size if every reader knows it, holds from
behind the declaration on; a document that declares none is UTF-8 or UTF-16.
-/

namespace CommandStream.Markup
open Text

/-- Reasons for which bytes are no document. -/
inductive DocumentError where
  | malformed
  | unknownEncoding (name : String)
  /-- An encoding that takes several bytes for some characters and is not among the registered. -/
  | multibyteEncoding (name : String)
  /-- An encoding that is not made for a trial. -/
  | untriableEncoding (name : String)
  /-- An encoding that fails in a trial. -/
  | undecodableEncoding (name : String)
  deriving DecidableEq

/-- Encodings of documents. -/
inductive Encoding where
  | utf8
  | latin1
  | ascii
  | utf16 (bigEndian : Bool)
  | page (p : CodePage)

namespace Encoding

/-- The number of bytes of a unit. -/
def unitSize : Encoding → Nat
  | utf16 _ => 2
  | _ => 1

/-- A document in an encoding as a place that text is read from. -/
def origin : Encoding → Origin
  | utf8 => ⟨true, Char.utf8Size, false, false⟩
  | latin1 => ⟨true, fun _ => 1, true, true⟩
  | ascii => ⟨true, fun _ => 1, false, false⟩
  | utf16 _ => ⟨true, fun c => if c.toNat < 0x10000 then 2 else 4, true, true⟩
  | page _ => ⟨true, fun _ => 1, false, true⟩

/-- The characters of bytes of which each stands for one, if all do. -/
def eachByte? (char? : Nat → Option Char) (bytes : List UInt8) : Option (List Char) :=
  bytes.mapM fun b => char? b.toNat

/-- The sixteen-bit units of bytes, behind those already read in reverse. -/
def unitsFrom? (bigEndian : Bool) (read : List Nat) : List UInt8 → Option (List Nat)
  | [] => some read.reverse
  | [_] => none
  | a :: b :: rest =>
    let unit := if bigEndian then a.toNat * 256 + b.toNat else b.toNat * 256 + a.toNat
    unitsFrom? bigEndian (unit :: read) rest

/-- The characters of sixteen-bit units, behind those already read in reverse. The second unit of a
pair gives its low ten bits, whatever it is. -/
def charsFrom? (read : List Char) : List Nat → Option (List Char)
  | [] => some read.reverse
  | unit :: rest =>
    if unit < 0xD800 ∨ 0xDFFF < unit then charsFrom? (Char.ofNat unit :: read) rest
    else if 0xDC00 ≤ unit then none
    else
      match rest with
      | second :: rest =>
        charsFrom? (Char.ofNat (0x10000 + (unit - 0xD800) * 0x400 + second % 0x400) :: read) rest
      | [] => none

/-- The text of bytes in an encoding. -/
def decode? (bytes : List UInt8) : Encoding → Option (List Char)
  | utf8 => Utf8.decode? bytes
  | latin1 => eachByte? (fun n => some (Char.ofNat n)) bytes
  | ascii => eachByte? (fun n => if n < 0x80 then some (Char.ofNat n) else none) bytes
  | utf16 bigEndian => do charsFrom? [] (← unitsFrom? bigEndian [] bytes)
  | page p => p.decode? bytes

/-- The units of bytes as characters as far as each is one; enough for a declaration. -/
def looseChars (bytes : List UInt8) : Encoding → List Char
  | utf16 bigEndian =>
    let even := if bytes.length % 2 = 0 then bytes else bytes.dropLast
    ((unitsFrom? bigEndian [] even).getD []).map Char.ofNat
  | _ => bytes.map fun b => Char.ofNat b.toNat

/-- The encoding that the first bytes show, UTF-8 for all of single bytes, and the length of a byte
order mark. -/
def detect (bytes : List UInt8) : Encoding × Nat :=
  match bytes with
  | 0xFE :: 0xFF :: _ => (utf16 true, 2)
  | 0xFF :: 0xFE :: _ => (utf16 false, 2)
  | 0 :: _ :: _ => (utf16 true, 0)
  | _ :: 0 :: _ => (utf16 false, 0)
  | 0xEF :: 0xBB :: 0xBF :: _ => (utf8, 3)
  | _ => (utf8, 0)

/-- The encoding of a name that every reader knows; names are compared without regard to case. In
units of two bytes `UTF-16` leaves the order of bytes open. -/
def registered? (shown : Encoding) (name : String) : Option Encoding :=
  match name.map Char.toLower, shown with
  | "utf-8", _ => some utf8
  | "iso-8859-1", _ => some latin1
  | "us-ascii", _ => some ascii
  | "utf-16", utf16 bigEndian => some (utf16 bigEndian)
  | "utf-16", _ => some (utf16 true)
  | "utf-16be", _ => some (utf16 true)
  | "utf-16le", _ => some (utf16 false)
  | _, _ => none

/-- Whether a document that shows one encoding may declare another that every reader knows. -/
def agrees : Encoding → Encoding → Bool
  | utf16 a, utf16 b => a == b
  | a, b => a.unitSize == 1 && b.unitSize == 1

/-- The encoding of a document that shows one and declares another by its name. -/
def declared (shown : Encoding) (name : String) : Except DocumentError Encoding :=
  match registered? shown name with
  | some encoding => if agrees shown encoding then .ok encoding else .error .malformed
  | none =>
    match Charset.ofName? name with
    | some (.page p) => .ok (page p)
    | some .multibyte => .error (.multibyteEncoding name)
    | some .displaced => .error .malformed
    | some .untriable => .error (.untriableEncoding name)
    | some .undecodable => .error (.undecodableEncoding name)
    | none => .error (.unknownEncoding name)

end Encoding

/-- The root element of a document given as bytes, whose declared encoding may count or not. -/
def Element.ofEncoded (heeded : Bool) (bytes : List UInt8) : Except DocumentError Element :=
  let (shown, mark) := Encoding.detect bytes
  let text := bytes.drop mark
  let chars := Encoding.looseChars text shown
  match DocumentHead.read? chars with
  | none => .error .malformed
  | some (head, behind) => do
    let encoding ← match head.encoding with
      | some name => if heeded then Encoding.declared shown name else .ok shown
      | none => .ok shown
    let headSize := (chars.length - behind.length) * shown.unitSize
    let body := (Encoding.decode? (text.drop headSize) encoding).bind
      (ofBody? encoding.origin head.standalone ⟨mark + headSize, 0⟩)
    match body with
    | some root => .ok root
    | none => .error .malformed

/-- The root element of a document given as bytes. -/
def Element.ofBytes (bytes : List UInt8) : Except DocumentError Element :=
  ofEncoded true bytes

/-- The root element of a document given as text. Whatever encoding it declares is of no account. -/
def Element.ofText? (text : String) : Option Element :=
  (ofEncoded false text.toUTF8.toList).toOption

end CommandStream.Markup
