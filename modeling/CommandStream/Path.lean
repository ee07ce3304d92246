import CommandStream.Text.Edit

/-!
# Paths

How a text names a place in a file system: what the path starts from and the segments behind it,
with the limits that a file system sets on both.
-/

namespace CommandStream

/-- A path: what it starts from, and its segments. -/
structure Path where
  start : String
  segments : List String
  deriving DecidableEq

namespace Path

/-- What a path starts from: the root, which two slashes name in another way, or nothing. -/
def startOf (cs : List Char) : String :=
  match cs with
  | '/' :: '/' :: '/' :: _ => "/"
  | '/' :: '/' :: _ => "//"
  | '/' :: _ => "/"
  | _ => ""

/-- The segments of a text; empty ones and single dots are of no account. -/
def segmentsOf (text : String) : List String :=
  ((Text.pieces '/' text.toList).map String.ofList).filter fun s => s != "" && s != "."

/-- The path that a text writes. -/
def ofText (text : String) : Path :=
  ⟨startOf text.toList, segmentsOf text⟩

variable (p : Path)

/-- The path to something inside a directory. -/
def inside (name : String) : Path :=
  { p with segments := p.segments ++ [name] }

/-- The text of a path. -/
def text : String :=
  if p.start.isEmpty && p.segments.isEmpty then "." else p.start ++ "/".intercalate p.segments

/-- Paths in the order of their segments. -/
def sorted (paths : List Path) : List Path :=
  paths.mergeSort fun p q => !q.segments.lex p.segments

/-- Whether a text can name a file: the null character ends a name. -/
def isNamable (text : String) : Bool :=
  !text.toList.contains '\x00'

/-- The greatest number of bytes of a path. -/
def byteLimit : Nat := 4095

/-- The greatest number of bytes of a segment. -/
def segmentByteLimit : Nat := 255

end Path

end CommandStream
