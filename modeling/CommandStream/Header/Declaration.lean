import CommandStream.Text.Edit

/-!
# Declarations of a loader header

The three line shapes that declare an interface:

* `typedef void (APIENTRYP PFNGLCLEARPROC)(GLbitfield mask);`, a function type;
* `GLAPI PFNGLCLEARPROC glad_glClear;`, a function of a declared type;
* `#define GL_COLOR_BUFFER_BIT 0x4000`, a define with a value.

What follows a shape on its line is of no account.
-/

namespace CommandStream.Header
open Text

/-- The rest behind blanks, of which there must be one. -/
def afterBlanks? (cs : List Char) : Option (List Char) :=
  match cs with
  | c :: rest => if isBlank c then some (rest.dropWhile isBlank) else none
  | [] => none

/-- A word of at least one character, and the rest. -/
def word? (cs : List Char) : Option (List Char × List Char) :=
  match cs.takeWhile isWord with
  | [] => none
  | word => some (word, cs.dropWhile isWord)

/-- The rest behind blanks and then a text. -/
def afterText? (text : String) (cs : List Char) : Option (List Char) :=
  afterPrefix? text.toList (cs.dropWhile isBlank)

/-- The part up to a character, and the rest behind it. -/
def upTo? (stop : Char) (cs : List Char) : Option (List Char × List Char) :=
  match cs.dropWhile (· != stop) with
  | [] => none
  | _ :: rest => some (cs.takeWhile (· != stop), rest)

/-- A function type as a header declares it. -/
structure TypeDeclaration where
  returnType : String
  name : String
  parameters : String

/-- The return type in the text between the keyword and the opening parenthesis: it stands behind
a blank, and blanks alone make an empty one if there is one to spare. -/
def returnType? (between : List Char) : Option String :=
  match between with
  | c :: d :: rest => if isBlank c then some (String.ofList (trim (d :: rest))) else none
  | _ => none

/-- The function type that a line declares. -/
def TypeDeclaration.ofLine? (line : List Char) : Option TypeDeclaration := do
  let behind ← afterPrefix? "typedef".toList line
  let (between, declarator) ← upTo? '(' behind
  let returnType ← returnType? between
  let marked ← afterText? "APIENTRYP" declarator
  let (name, closing) ← word? (← afterBlanks? marked)
  let opening ← afterText? ")" closing
  let (parameters, tail) ← upTo? ')' (← afterText? "(" opening)
  let _ ← afterText? ";" tail
  some { returnType, name := String.ofList name, parameters := String.ofList parameters }

/-- A function as a header declares it. -/
structure SymbolDeclaration where
  type : String
  symbol : String

/-- The function that a line declares. -/
def SymbolDeclaration.ofLine? (line : List Char) : Option SymbolDeclaration := do
  let behind ← afterPrefix? "GLAPI".toList line
  let (type, rest) ← word? (← afterBlanks? behind)
  let (symbol, tail) ← word? (← afterBlanks? rest)
  let _ ← afterText? ";" tail
  some { type := String.ofList type, symbol := String.ofList symbol }

/-- The name that a line defines with a value. -/
def defineOfLine? (line : List Char) : Option String := do
  let behind ← afterPrefix? "#define".toList line
  let (name, rest) ← word? (← afterBlanks? behind)
  match ← afterBlanks? rest with
  | [] => none
  | _ :: _ => some (String.ofList name)

/-- The shapes by which a line is read. -/
inductive Shape where
  | functionType
  | symbol
  | define
  | other
  deriving DecidableEq

/-- The shape of a line, told from how it begins. -/
def Shape.ofLine (line : List Char) : Shape :=
  if "typedef".toList.isPrefixOf line && occursIn "APIENTRYP".toList line then functionType
  else if "GLAPI".toList.isPrefixOf line then symbol
  else if "#define".toList.isPrefixOf line then define
  else other

end CommandStream.Header
