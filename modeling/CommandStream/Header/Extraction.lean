import CommandStream.Header.Declaration
import CommandStream.Log
import CommandStream.Outcome
import CommandStream.Registry.Basic
import CommandStream.Text.Line
import CommandStream.Text.Utf8

/-!
# Reading a loader header

Each line that declares something goes into the registry or is skipped with a warning; a skipped
line leaves the registry as it was. A reading that stops keeps what was reported until then.
-/

namespace CommandStream.Header

/-- Reasons for which a header is not read to its end. -/
inductive HeaderError where
  /-- It is no text. -/
  | undecodable
  | registry (cause : RegistryError)

/-- The state of a reading: the registry so far, what was counted and what was reported. -/
structure Extraction where
  registry : Registry
  typeCount : Nat
  functionCount : Nat
  skipped : Nat
  log : Log

namespace Extraction

/-- The reading that starts with a registry. -/
def start (registry : Registry) : Extraction :=
  { registry, typeCount := 0, functionCount := 0, skipped := 0, log := [] }

variable (x : Extraction)

/-- The name under which the reading reports. -/
def source : String := "glheader"

/-- The reading with a line skipped. -/
def skip (lineNumber : Nat) (reason : String) : Extraction :=
  { x with
    skipped := x.skipped + 1
    log := x.log ++ [⟨.warning, source, "line " ++ toString lineNumber ++ ": " ++ reason⟩] }

/-- The reading after the registry refused an entry: a line that clashes with an earlier one or
names an unknown type is skipped, anything else stops the reading. -/
def refuse (lineNumber : Nat) : RegistryError → Except RegistryError Extraction
  | .typeDeclared type => .ok (x.skip lineNumber (RegistryError.typeDeclared type).message)
  | .unknownType type => .ok (x.skip lineNumber (RegistryError.unknownType type).message)
  | .functionDeclared name => .ok (x.skip lineNumber (RegistryError.functionDeclared name).message)
  | .shortNameTaken short name holder =>
    .ok (x.skip lineNumber (RegistryError.shortNameTaken short name holder).message)
  | e => .error e

/-- A reading with a function type line. -/
def readType (lineNumber : Nat) (line : List Char) : Except RegistryError Extraction :=
  match TypeDeclaration.ofLine? line with
  | none =>
    .ok (x.skip lineNumber
      ("malformed function type declaration: " ++ String.ofList (Text.trim line)))
  | some d =>
    match Argument.listOfC? d.parameters with
    | none => .ok (x.skip lineNumber ("unnamed or malformed argument in " ++ d.name))
    | some arguments =>
      let type : FunctionType :=
        { typedefName := d.name, returnType := d.returnType, returnsEnum := false, arguments }
      match x.registry.addType type with
      | .ok registry => .ok { x with registry, typeCount := x.typeCount + 1 }
      | .error e => x.refuse lineNumber e

/-- What the symbols of a loader start with. -/
def symbolStart : String := "glad_"

/-- A reading with a symbol line. -/
def readSymbol (lineNumber : Nat) (line : List Char) : Except RegistryError Extraction :=
  match SymbolDeclaration.ofLine? line with
  | none =>
    .ok (x.skip lineNumber ("malformed symbol declaration: " ++ String.ofList (Text.trim line)))
  | some d =>
    if beginsWith d.symbol (symbolStart ++ x.registry.start) then
      match x.registry.addFunction (dropFirst d.symbol symbolStart.length) d.type with
      | .ok (_, registry) => .ok { x with registry, functionCount := x.functionCount + 1 }
      | .error e => x.refuse lineNumber e
    else
      .ok (x.skip lineNumber
        ("failed to read function of type " ++ d.type ++ " - invalid name " ++ d.symbol))

/-- A reading with a define line. -/
def readDefine (line : List Char) : Except RegistryError Extraction :=
  match defineOfLine? line with
  | none => .ok x
  | some name =>
    if beginsWith name x.registry.defineStart then
      (x.registry.addDefine name).map fun registry => { x with registry }
    else .ok x

/-- A reading with a line. -/
def readLine (lineNumber : Nat) (line : List Char) : Except RegistryError Extraction :=
  match Shape.ofLine line with
  | .functionType => x.readType lineNumber line
  | .symbol => x.readSymbol lineNumber line
  | .define => x.readDefine line
  | .other => .ok x

/-- A reading with lines, of which the first has the given number. -/
def readFrom (x : Extraction) (lineNumber : Nat) : List String → Outcome Extraction HeaderError Unit
  | [] => .done x ()
  | line :: rest =>
    match x.readLine lineNumber line.toList with
    | .ok next => next.readFrom (lineNumber + 1) rest
    | .error e => .failed x (.registry e)

/-- The reading with its summary reported. -/
def summarized : Extraction :=
  { x with
    log := x.log ++ [⟨.info, source,
      "parsed " ++ toString x.typeCount ++ " function types, " ++ toString x.functionCount ++
      " functions, " ++ toString x.registry.defines.length ++ " defines (" ++
      toString x.skipped ++ " lines skipped)"⟩] }

/-- The reading of a header. -/
def ofLines (registry : Registry) (lines : List String) : Outcome Extraction HeaderError Unit :=
  ((start registry).readFrom 1 lines).andThen fun x _ => .done x.summarized ()

/-- The reading of a header file. One that is no text is read up to where that shows. -/
def ofBytes (registry : Registry) (bytes : List UInt8) : Outcome Extraction HeaderError Unit :=
  match Text.Utf8.decode? bytes with
  | some cs => ofLines registry (Text.textLines cs)
  | none =>
    ((start registry).readFrom 1 (Text.finishedLines (Text.Utf8.soundPart bytes))).andThen
      fun x _ => .failed x .undecodable

end Extraction

end CommandStream.Header
