import CommandStream.Description.Key
import CommandStream.Description.Membership
import CommandStream.Registry.Basic

/-!
# Refining signatures by a description

The commands of a description tell which plain enum arguments and results belong to which group.
A group is resolved when it is first wanted, to those of its symbols that the header defines, and
stays resolved; commands of other interfaces are passed over.
-/

namespace CommandStream

/-- The state of a refinement: the registry so far, what the description says of groups, the names
asked for in vain, what was counted and what was reported. -/
structure Refinement where
  registry : Registry
  membership : Description.Membership
  unresolved : List String
  found : Nat
  skipped : Nat
  log : Log

namespace Refinement
open Description Markup

/-- The refinement of a registry before any command. -/
def start (registry : Registry) (membership : Membership) (log : Log) : Refinement :=
  { registry, membership, unresolved := [], found := 0, skipped := 0, log }

variable (x : Refinement)

/-- The refinement with a message reported. -/
def report (severity : Severity) (message : String) : Refinement :=
  { x with log := x.log ++ [⟨severity, source, message⟩] }

/-- The group of an enum class with the defined ones among some symbols. -/
def groupOf (registry : Registry) (group : String) (symbols : List String) : EnumGroup :=
  (symbols.filter fun symbol => registry.defines.contains symbol).foldl
    (fun found symbol =>
      found.add (keyOf (dropFirst symbol registry.defineStart.length)) symbol)
    ⟨groupTypeName group, []⟩

/-- A group resolved, if the description knows it. -/
def resolve (group : String) : Option EnumGroup × Refinement :=
  match Keyed.find? x.registry.enums group with
  | some found => (some found, x)
  | none =>
    if x.unresolved.contains group then (none, x)
    else
      match Keyed.find? x.membership group with
      | none =>
        (none, { x.report .debug ("group " ++ group ++ " is not described by the XML") with
          unresolved := x.unresolved ++ [group] })
      | some symbols =>
        let found := groupOf x.registry group symbols
        (some found, { x with
          registry := { x.registry with enums := x.registry.enums ++ [(group, found)] } })

/-- Several groups resolved one after another. -/
def resolveAll (x : Refinement) : List String → List (Option EnumGroup) × Refinement
  | [] => ([], x)
  | group :: rest =>
    let (found, next) := x.resolve group
    let (others, last) := next.resolveAll rest
    (found :: others, last)

/-- The type that marks arguments and results as enums. -/
def enumType : String := "GLenum"

/-- The group of an element whose type is a plain enum. -/
def enumGroup? (e : Element) : Option String :=
  match e.child? "ptype" with
  | some type => if type.text = enumType then e.attribute? "group" else none
  | none => none

/-- The function type with an enum class as result. -/
def withResult (type : FunctionType) (group : EnumGroup) : FunctionType :=
  { type with returnType := group.name, returnsEnum := true }

/-- An argument of an enum class. -/
def withGroup (a : Argument) (group : EnumGroup) : Argument :=
  { a with type := group.name, isEnum := true }

/-- The refinement with the result of a function, by its prototype. -/
def refineResult (place : Nat) (prototype : Element) : Refinement :=
  match enumGroup? prototype with
  | none => x
  | some name =>
    match x.resolve name with
    | (none, next) => next
    | (some group, next) =>
      { next with
        registry := next.registry.modifyAt place fun f =>
          { f with type := withResult f.type group } }

/-- The refinement with a parameter of a function. -/
def refineParameter (place : Nat) (parameter : Element) : Refinement :=
  match enumGroup? parameter, parameter.child? "name" with
  | some name, some nameElement =>
    match x.resolve name with
    | (none, next) => next
    | (some group, next) =>
      match next.registry.functionAt? place with
      | none => next
      | some f =>
        match f.type.findArgument? nameElement.text with
        | none => next
        | some i =>
          let refined := next.report .debug
            ("found enum " ++ group.name ++ " for " ++ f.shortName ++
              "(" ++ nameElement.text ++ ")")
          { refined with
            registry := refined.registry.modifyAt place fun f =>
              { f with type := { f.type with
                arguments := f.type.arguments.modify i fun a => withGroup a group } } }
  | _, _ => x

/-- The name of the function that a command element describes, with its prototype. -/
def prototype? (command : Element) : Option (String × Element) := do
  let prototype ← command.child? "proto"
  let name ← prototype.child? "name"
  if name.text.isEmpty then none else some (name.text, prototype)

/-- The refinement with a command. -/
def refineCommand (command : Element) : Refinement :=
  match prototype? command with
  | none => { x.report .warning "skipping malformed <command>" with skipped := x.skipped + 1 }
  | some (name, prototype) =>
    match x.registry.placeOf? name with
    | none => x
    | some place =>
      (command.childrenNamed "param").foldl (fun x parameter => x.refineParameter place parameter)
        ({ x with found := x.found + 1 }.refineResult place prototype)

/-- The command elements of a description. -/
def commandsOf (root : Element) : List Element :=
  (root.childrenNamed "commands").flatMap fun e => e.childrenNamed "command"

/-- The refinement with its summary reported. -/
def summarized : Refinement :=
  let declared := x.registry.functions.length
  if x.found = declared then
    x.report .info ("all " ++ toString x.found ++ " functions found in XML")
  else
    x.report .warning ("function count mismatch between XML (" ++ toString x.found ++
      ") and header (" ++ toString declared ++ ")")

/-- The refinement of a registry by a description. -/
def ofRoot (registry : Registry) (root : Element) : Refinement :=
  let start := Refinement.start registry (Membership.ofRoot root) (membershipLog root)
  ((commandsOf root).foldl refineCommand start).summarized

end Refinement

end CommandStream
