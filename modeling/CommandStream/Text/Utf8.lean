import CommandStream.Power

/-!
# Strict UTF-8

Decoding of a byte sequence by the table of well-formed sequences: no overlong form, no surrogate,
nothing above U+10FFFF. The reader works in blocks, so the text in front of a faulty block is known
even when the whole cannot be decoded.
-/

namespace CommandStream.Text.Utf8

/-- The result of looking for one character at the front of a byte sequence. -/
inductive Step where
  | char (c : Char) (length : Nat)
  /-- The bytes start a character and end too early. -/
  | short
  | fault

/-- Whether a byte continues a character. -/
def isTail (b : UInt8) : Bool :=
  0x80 ≤ b && b ≤ 0xBF

/-- The lowest and highest second byte behind a lead byte. -/
def secondRange (lead : UInt8) : UInt8 × UInt8 :=
  if lead = 0xE0 then (0xA0, 0xBF)
  else if lead = 0xED then (0x80, 0x9F)
  else if lead = 0xF0 then (0x90, 0xBF)
  else if lead = 0xF4 then (0x80, 0x8F)
  else (0x80, 0xBF)

/-- How many bytes follow a lead byte of several. -/
def tailCount (lead : UInt8) : Option Nat :=
  if 0xC2 ≤ lead && lead ≤ 0xDF then some 1
  else if 0xE0 ≤ lead && lead ≤ 0xEF then some 2
  else if 0xF0 ≤ lead && lead ≤ 0xF4 then some 3
  else none

/-- The payload of a lead byte with so many bytes behind it. -/
def leadBits (lead : UInt8) (count : Nat) : Nat :=
  lead.toNat % 2 ^ (6 - count)

/-- The first character of a nonempty byte sequence. -/
def step (lead : UInt8) (rest : List UInt8) : Step :=
  if lead < 0x80 then .char (Char.ofNat lead.toNat) 1
  else
    match tailCount lead with
    | none => .fault
    | some count =>
      let tail := rest.take count
      let range := secondRange lead
      let sound :=
        match tail with
        | [] => true
        | second :: others => range.1 ≤ second && second ≤ range.2 && others.all isTail
      if !sound then .fault
      else if tail.length < count then .short
      else
        .char (Char.ofNat (tail.foldl (fun acc b => acc * 64 + b.toNat % 64) (leadBits lead count)))
          (count + 1)

/-- The characters of a sequence up to its end or first fault, behind those already read in
reverse, and the bytes left over: none after a whole text, the start of a character or of a fault
otherwise. The next `skip` bytes belong to a character already read. -/
def decodeFrom (read : List Char) : Nat → List UInt8 → List Char × List UInt8
  | _, [] => (read.reverse, [])
  | skip + 1, _ :: rest => decodeFrom read skip rest
  | 0, lead :: rest =>
    match step lead rest with
    | .char c length => decodeFrom (c :: read) (length - 1) rest
    | .short => (read.reverse, lead :: rest)
    | .fault => (read.reverse, lead :: rest)

/-- The text of a byte sequence, if it is well formed. -/
def decode? (bytes : List UInt8) : Option (List Char) :=
  match decodeFrom [] 0 bytes with
  | (cs, []) => some cs
  | (_, _ :: _) => none

/-- How many bytes the reader takes in at a time. -/
def blockSize : Nat := 8192

/-- Whether a byte sequence is the start of a well-formed text. -/
def isExtensible (bytes : List UInt8) : Bool :=
  match decodeFrom [] 0 bytes with
  | (_, []) => true
  | (_, lead :: rest) =>
    match step lead rest with
    | .short => true
    | _ => false

/-- The number of whole blocks in front of the first block with a fault, of at most `fuel`. -/
def soundBlocks (bytes : List UInt8) : Nat → Nat
  | 0 => 0
  | fuel + 1 =>
    let before := soundBlocks bytes fuel
    if before < fuel then before
    else if isExtensible (bytes.take ((fuel + 1) * blockSize)) then fuel + 1
    else fuel

/-- The text in front of the block that holds the first fault, or in front of a character that the
end of the whole cuts short. -/
def soundPart (bytes : List UInt8) : List Char :=
  (decodeFrom [] 0 (bytes.take (soundBlocks bytes (bytes.length / blockSize + 1) * blockSize))).1

end CommandStream.Text.Utf8
