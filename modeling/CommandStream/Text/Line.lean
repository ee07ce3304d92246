/-!
# Lines

A line ends with a line feed, a carriage return or both, and keeps a line feed as its mark.
-/

namespace CommandStream.Text

/-- Line ends of every kind turned into line feeds, behind text already read in reverse. -/
def unifyFrom (read : List Char) : List Char → List Char
  | [] => read.reverse
  | '\r' :: '\n' :: rest => unifyFrom ('\n' :: read) rest
  | '\r' :: rest => unifyFrom ('\n' :: read) rest
  | c :: rest => unifyFrom (c :: read) rest

/-- Line ends of every kind turned into line feeds. -/
def unifyLineEnds (cs : List Char) : List Char :=
  unifyFrom [] cs

/-- A character put in front of the lines of a text. -/
def startLine (c : Char) (lines : List (List Char)) : List (List Char) :=
  if c = '\n' then [c] :: lines
  else
    match lines with
    | [] => [[c]]
    | line :: others => (c :: line) :: others

/-- The lines of a text, each with its line feed; a last line may lack one. -/
def markedLines (cs : List Char) : List (List Char) :=
  cs.foldr startLine []

/-- The lines of a text with any kind of line end. -/
def textLines (cs : List Char) : List String :=
  (markedLines (unifyLineEnds cs)).map String.ofList

/-- A text without a carriage return at its very end, which may be half of a line end. -/
def settledPart (cs : List Char) : List Char :=
  if cs.getLast? == some '\r' then cs.dropLast else cs

/-- The lines of the start of a text that are certain to be whole. -/
def finishedLines (cs : List Char) : List String :=
  let lines := markedLines (unifyLineEnds (settledPart cs))
  (lines.filter fun line => line.getLast? == some '\n').map String.ofList

end CommandStream.Text
