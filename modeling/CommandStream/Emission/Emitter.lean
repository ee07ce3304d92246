import CommandStream.Emission.Statement
import CommandStream.Override.Tracker
import CommandStream.Wire.Type

/-!
# The emitter

Commands are numbered in the order of the functions, with ids as narrow as their number allows. The
producer of a command writes its id and its arguments; the consumer reads the arguments and makes
the native call. Override rules put statements of their own in the place of these.
-/

namespace CommandStream

/-- Reasons for which code is not emitted. -/
inductive EmissionError where
  | tooManyCommands (count : Int)
  /-- A number of commands that is infinite. -/
  | infiniteCount
  /-- A number of commands that is undefined. -/
  | undefinedCount
  /-- A number of commands that is no number. -/
  | notACount
  /-- A rule that passes on an argument that the function does not have. -/
  | noSuchArgument
  /-- A rule that makes objects of no resource kind. -/
  | noResource
  /-- A path that leads to no pattern of an artifact. -/
  | noPattern (path : String)
  /-- A path to a pattern that is longer than a file system takes. -/
  | pathTooLong
  deriving DecidableEq

/-- The message of an emission error, where there is one. -/
def EmissionError.message? : EmissionError → Option String
  | tooManyCommands count => some ("too many commands: " ++ toString count)
  | noPattern path => some ("missing template " ++ path)
  | _ => none

/-- Whether an error says that nothing can be emitted. -/
def EmissionError.unfit : EmissionError → Bool
  | tooManyCommands _ => true
  | noPattern _ => true
  | _ => false

/-- The width of the ids of so many commands and of their number. -/
def idWidthFor (count : Int) : Except EmissionError IdWidth :=
  match IdWidth.forCount? count with
  | some width => .ok width
  | none => .error (.tooManyCommands count)

/-- The width of the ids of as many commands as a value says; the message leaves fractions out. -/
def idWidthForValue (count : Value) : Except EmissionError IdWidth :=
  match count with
  | .float bits =>
    match IdWidth.forFloat? bits.toNat with
    | some width => .ok width
    | none =>
      match Floating.classify bits.toNat with
      | .finite whole => .error (.tooManyCommands whole)
      | .infinite => .error .infiniteCount
      | .notANumber => .error .undefinedCount
  | _ =>
    match count.int? with
    | some count => idWidthFor count
    | none => .error .notACount

/-- A registry and its overrides, ready for emission in a namespace. -/
structure Emitter where
  registry : Registry
  overrides : OverrideTracker
  space : String
  idWidth : IdWidth
  /-- Every command has an id of its own. -/
  unambiguous : registry.Unambiguous

namespace Emitter

/-- The emitter of a registry to which overrides have been applied. -/
def ofRegistry (registry : Registry) (overrides : OverrideTracker) (space : String)
    (unambiguous : registry.Unambiguous) : Except EmissionError Emitter := do
  .ok { registry, overrides, space, idWidth := ← idWidthFor registry.functions.length, unambiguous }

variable (e : Emitter)

/-- The functions in the order of their command ids. -/
def functions : List Function :=
  Keyed.values e.registry.functions

/-- The ids of the commands by their names, given out in the order of the functions. -/
def commandIds : Keyed Nat :=
  e.functions.foldl (fun ids f => Keyed.put ids f.shortName ids.length) []

/-- The id of the command for a function in an index of ids, which has all functions of an
emitter. -/
def idIn (ids : Keyed Nat) (f : Function) : Nat :=
  (Keyed.find? ids f.shortName).getD 0

/-- The slot table of a resource kind. -/
def tableOf (kind : ResourceKind) : String :=
  resourcesName ++ "." ++ kind.tableName

/-- An argument as it is passed to a native function. -/
def passed (a : Argument) : String :=
  if a.isEnum then "static_cast<GLenum>(" ++ a.name ++ ")" else a.name

/-- The arguments of a function as they are passed to a native function. -/
def passedAll (f : Function) : List String :=
  f.type.arguments.map passed

/-- The arguments of a native call. -/
def callArguments (f : Function) : String :=
  ", ".intercalate (passedAll f)

/-- The name of the class that has the commands as methods. -/
def className : String := "CommandBuffer"

/-- The declaration of the method for a function. -/
def declaration (f : Function) (qualified : Bool) : String :=
  f.type.returnType ++ " " ++ (if qualified then className ++ "::" else "") ++ f.shortName ++ "(" ++
    f.type.parameters ++ ")"

/-- A pattern with the function, the type and the argument filled in, one after another. -/
def filled (f : Function) (a : Argument) (pattern : String) : String :=
  replaceAll (replaceAll (replaceAll pattern "$f" f.name) "$t" a.type) "$a" a.name

/-- The statements that write an argument. -/
def writesOf (f : Function) (a : Argument) : List Statement :=
  match Keyed.find? e.overrides.writes a.type with
  | none => [.write a.type a.name]
  | some (.handle kind) => [.write kind.handleType a.name]
  | some (.lines patterns) => patterns.map fun pattern => .line (filled f a pattern)

/-- The statements that read an argument; a handle is read into a local of its own. -/
def readsOf (f : Function) (a : Argument) : List Statement :=
  match Keyed.find? e.overrides.reads a.type with
  | none => [.read a.type a.name]
  | some (.handle kind) =>
    let handle := a.name ++ "Handle"
    [.read kind.handleType handle, .lookUp kind.nativeType a.name (tableOf kind) handle]
  | some (.lines patterns) => patterns.map fun pattern => .line (filled f a pattern)

/-- The usual statements that write the arguments of a function. -/
def defaultWrites (f : Function) : List Statement :=
  f.type.arguments.flatMap (e.writesOf f)

/-- The usual statements that read the arguments of a function. -/
def defaultReads (f : Function) : List Statement :=
  f.type.arguments.flatMap (e.readsOf f)

/-- The statements of a script. -/
def scripted (default : List Statement) (script : Script) : List Statement :=
  let lines := script.lines.map Statement.line
  match script.default with
  | .nowhere => lines
  | .before => default ++ lines
  | .after => lines ++ default

/-- The resource kind of a rule that makes objects. -/
def made (kind : Option ResourceKind) : Except EmissionError ResourceKind :=
  match kind with
  | none => .error .noResource
  | some kind => .ok kind

/-- The statements of a producer that hands out a handle. -/
def handOut (f : Function) (kind : ResourceKind) : List Statement :=
  e.defaultWrites f ++
    [.createHandle (tableOf kind), .write kind.handleType "handle", .returnHandle]

/-- What a rule has the producer of a function do, if anything. -/
def producedBy (f : Function) (rule : Rule) : Except EmissionError (Option (List Statement)) :=
  match rule.effect with
  | .generate kind _ _ => .ok (some (e.handOut f kind))
  | .create kind => do .ok (some (e.handOut f (← made kind)))
  | .custom _ (some script) _ => .ok (some (scripted (e.defaultWrites f) script))
  | _ => .ok none

/-- The statements of a consumer that makes an object by a call. -/
def makeObject (f : Function) (kind : ResourceKind) (call : NativeCall) : List Statement :=
  e.defaultReads f ++
    [.readHandle kind.handleType, .declareObject kind.nativeType, .check call,
     .storeObject (tableOf kind)]

/-- The statements of a consumer that deletes an object by a call. -/
def deleteObject (kind : ResourceKind) (call : NativeCall) : List Statement :=
  [.readHandle kind.handleType, .lookUp kind.nativeType "object" (tableOf kind) "handle",
   .check call, .releaseHandle (tableOf kind)]

/-- Whether a deletion takes a count and the address of the object. -/
def deletesSeveral (name : Option String) : Bool :=
  match name with
  | some name => !name.isEmpty
  | none => false

/-- What a rule has the consumer of a function do, if anything. -/
def consumedBy (f : Function) (rule : Rule) : Except EmissionError (Option (List Statement)) :=
  match rule.effect with
  | .generate kind _ _ =>
    .ok (some (e.makeObject f kind ⟨rule.function, passedAll f ++ ["1", "&object"], false⟩))
  | .create kind => do
    .ok (some (e.makeObject f (← made kind) ⟨rule.function, passedAll f, true⟩))
  | .delete kind _ name =>
    .ok (some (deleteObject kind
      ⟨rule.function, if deletesSeveral name then ["1", "&object"] else ["object"], false⟩))
  | .custom _ _ (some (.script script)) => .ok (some (scripted (e.defaultReads f) script))
  | .custom _ _ (some (.singleElement native)) =>
    match f.type.arguments with
    | first :: second :: third :: _ =>
      .ok (some (e.defaultReads f ++
        [.check ⟨native, [first.name, "1", "&" ++ second.name, "&" ++ third.name], false⟩]))
    | _ => .error .noSuchArgument
  | _ => .ok none

/-- The statements of all rules that provide some, one after another. -/
def combined (rules : List Rule) (side : Rule → Except EmissionError (Option (List Statement))) :
    Except EmissionError (Option (List Statement)) := do
  let parts := (← rules.mapM side).filterMap id
  .ok (if parts.isEmpty then none else some parts.flatten)

/-- The statements behind the usual writes of a function whose result nobody provides. -/
def unprovidedResult (f : Function) : List Statement :=
  if f.type.returns then
    [.line "#ifdef MULTIGL_STRICT_RETURNS",
     .line ("#error \"" ++ f.name ++ " returns " ++ f.type.returnType ++
       " but has no write override\""),
     .line "#endif", .returnDefault]
  else []

/-- The statements of the producer of a function. -/
def writeStatements (f : Function) : Except EmissionError (List Statement) := do
  let custom ← combined (e.overrides.rulesOf f.name) (e.producedBy f)
  .ok (.writeCommand f.shortName :: custom.getD (e.defaultWrites f ++ unprovidedResult f))

/-- The statements of the consumer of a function. -/
def readStatements (f : Function) : Except EmissionError (List Statement) := do
  let custom ← combined (e.overrides.rulesOf f.name) (e.consumedBy f)
  .ok (custom.getD (e.defaultReads f ++ [.check ⟨f.name, passedAll f, false⟩]))

/-- The text of statements at an indentation. -/
def body (level : Int) (statements : List Statement) : String :=
  indented level (statements.map Statement.text)

end Emitter

end CommandStream
