import CommandStream.Floating.Binary

/-!
# The growth of a document

References let a document stand for a text that is much longer than the document. All bytes that are
read count, those of the document itself and those read in the place of references; once they are
many, they may be no more than a hundred times those of the document.
-/

namespace CommandStream.Markup

/-- The bytes read of a document. -/
structure Growth where
  /-- Those of the document itself. -/
  own : Nat
  /-- Those in the place of references. -/
  inserted : Nat
  deriving DecidableEq

namespace Growth

/-- The growth of a document of which nothing has been read. -/
def zero : Growth := ⟨0, 0⟩

variable (g : Growth)

/-- All bytes that have been read. -/
def total : Nat := g.own + g.inserted

/-- The number of bytes below which any growth is tolerated. -/
def harmless : Nat := 8 * 1024 * 1024

/-- The greatest factor of growth. -/
def limit : Nat := 100

/-- A number as the four-byte format holds it, with a significand of 24 bits. -/
def inSingle (n : Nat) : Nat :=
  let excess := n.log2 - 23
  Floating.roundHalfEven n excess * 2 ^ excess

/-- Whether the factor of growth is within the limit. It is computed in the four-byte format, which
rounds quotients down to the limit that exceed it by `2 ^ (-18)` at most, half of its last place. -/
def isWithinLimit : Bool :=
  inSingle g.total * 2 ^ 18 ≤ inSingle g.own * (limit * 2 ^ 18 + 1)

/-- Whether the growth is tolerated. -/
def isTolerated : Bool :=
  g.total < harmless || g.isWithinLimit

/-- The growth itself, if it is tolerated. -/
def tolerated? : Option Growth :=
  if g.isTolerated then some g else none

/-- The growth after the single byte that a predefined entity stands for, which is always tolerated:
the reference took more. -/
def insertOne : Growth :=
  { g with inserted := g.inserted + 1 }

/-- The growth once so many bytes of the document have been read. -/
def reach? (own : Nat) : Option Growth :=
  tolerated? { g with own }

end Growth

/-- Where text is read from: the document in its encoding, or the replacement text of an entity. -/
structure Origin where
  /-- Whether it is the document itself. -/
  own : Bool
  /-- The number of bytes of a character. -/
  width : Char → Nat
  /-- Whether the ordinal indicators and the micro sign are letters of names. -/
  ordinals : Bool
  /-- Whether text is converted before it is handed on. -/
  converted : Bool

namespace Origin

/-- The replacement text of an entity. -/
def entity : Origin := ⟨false, Char.utf8Size, false, false⟩

variable (o : Origin)

/-- The number of bytes of a text. -/
def size (cs : List Char) : Nat :=
  cs.foldl (fun n c => n + o.width c) 0

/-- The number of bytes of so many characters of markup. -/
def marks (count : Nat) : Nat :=
  count * o.width ' '

/-- The growth after reading so many bytes. -/
def read? (g : Growth) (bytes : Nat) : Option Growth :=
  (if o.own then { g with own := g.own + bytes }
    else { g with inserted := g.inserted + bytes }).tolerated?

end Origin

end CommandStream.Markup
