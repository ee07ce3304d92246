import CommandStream.Text.CaseMap
import CommandStream.Text.Edit
import CommandStream.Text.Quoted

/-!
# C signatures

Arguments, function types and short names. An argument declaration is cut behind its last
character that belongs to no word: what precedes is the type, what follows the name.
-/

namespace CommandStream

/-- An argument of a function. -/
structure Argument where
  type : String
  name : String
  /-- Whether the type is an enum of the interface, to be cast where the native call is made. -/
  isEnum : Bool
  deriving DecidableEq

namespace Argument

/-- The type and name of a trimmed declaration read from its end, the name so far in front. -/
def splitFromEnd (name : List Char) : List Char → Option (List Char × List Char)
  | [] => none
  | c :: before =>
    if Text.isWord c then splitFromEnd (c :: name) before
    else some ((c :: before).reverse, name)

/-- The argument that a declaration such as `const void *data` declares, if it has a type and
a name. -/
def ofC? (declaration : String) : Option Argument :=
  match splitFromEnd [] (Text.trim declaration.toList).reverse with
  | none => none
  | some (before, after) =>
    let type := Text.trim before
    let name := Text.trim after
    if type.isEmpty || name.isEmpty then none
    else some { type := String.ofList type, name := String.ofList name, isEnum := false }

variable (a : Argument)

/-- The declaration of an argument; a type that ends with a star takes no space. -/
def toC : String :=
  if finishesWith a.type "*" then a.type ++ a.name else a.type ++ " " ++ a.name

/-- The text of an argument in messages. -/
def shown : String :=
  "GLArgument(" ++ Text.quoted a.type ++ ", " ++ Text.quoted a.name ++ ")"

/-- The arguments of a parameter list, or nothing if one is malformed. An empty list and a lone
`void` declare none. -/
def listOfC? (parameters : String) : Option (List Argument) :=
  let text := Text.trim parameters.toList
  if text.isEmpty || String.ofList text == "void" then some []
  else (Text.pieces ',' text).mapM fun piece => ofC? (String.ofList piece)

end Argument

/-- A function type. -/
structure FunctionType where
  typedefName : String
  returnType : String
  /-- Whether the return type is an enum of the interface. -/
  returnsEnum : Bool
  arguments : List Argument
  deriving DecidableEq

namespace FunctionType

variable (t : FunctionType)

/-- Whether a function of the type returns a value. -/
def returns : Bool := t.returnType != "void"

/-- Whether a function of the type returns a handle. -/
def returnsHandle : Bool := finishesWith t.returnType "Handle"

/-- The position of the first argument with a name. -/
def findArgument? (name : String) : Option Nat :=
  t.arguments.findIdx? fun a => a.name == name

/-- The parameter list in C. -/
def parametersWith (separator : String) : String :=
  separator.intercalate (t.arguments.map Argument.toC)

/-- The parameter list in C, separated by commas. -/
def parameters : String := t.parametersWith ", "

/-- The text of a function type in listings. -/
def shown : String :=
  let arguments := t.arguments.map fun a => "(" ++ a.type ++ ") [" ++ a.name ++ "]"
  t.returnType ++ " " ++ t.typedefName ++ " (" ++ ", ".intercalate arguments ++ ")"

/-- The type with other arguments. -/
def withArguments (arguments : List Argument) : FunctionType := { t with arguments }

end FunctionType

/-- The name of the command for a function: without the prefix of the interface, unless nothing
would be left, and with its first character as a capital. The empty name has no short name. -/
def shortName? (name start : String) : Option String :=
  let cs := name.toList
  let rest :=
    match Text.afterPrefix? start.toList cs with
    | some (c :: rest) => c :: rest
    | _ => cs
  match rest with
  | [] => none
  | c :: rest => some (String.ofList (Text.capitalForm c ++ rest))

/-- A function of the interface. -/
structure Function where
  name : String
  /-- The name of its command, derived from `name` when that was last assigned. -/
  shortName : String
  /-- The access label under which its command is declared. -/
  access : String
  type : FunctionType
  deriving DecidableEq

namespace Function

/-- The access label that every function starts with. -/
def publicAccess : String := "public"

/-- The text of a function in listings and messages. -/
def shown (f : Function) : String :=
  f.type.returnType ++ " " ++ f.name ++ " (" ++ f.type.parameters ++ ")"

end Function

end CommandStream
