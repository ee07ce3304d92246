import CommandStream.Emission.Emitter

/-!
# Commands on the wire

What travels for a command: its arguments with their wire types, and behind them the handle of the
object that it makes.
-/

namespace CommandStream

/-- An argument as it travels. -/
structure WireArgument where
  name : String
  cType : String
  type : WireType

/-- A command as it travels. -/
structure Command where
  id : Nat
  shortName : String
  arguments : List WireArgument
  /-- The kind of which the command makes an object. -/
  creates : Option ResourceKind
  /-- The kind of which the command deletes objects. -/
  destroys : Option ResourceKind

namespace Command

/-- The last kind that rules name. -/
def lastKind (select : Rule → Option ResourceKind) (rules : List Rule) : Option ResourceKind :=
  (rules.filterMap select).getLast?

/-- The arguments of a function as they travel; the error is a type that does not. -/
def argumentsOf (enumTypes : List String) (f : Function) : Except String (List WireArgument) :=
  f.type.arguments.mapM fun a => do
    .ok { name := a.name, cType := a.type, type := ← wireTypeFor a.type enumTypes }

/-- The command of a function with some rules. -/
def ofFunction (id : Nat) (f : Function) (rules : List Rule) (enumTypes : List String) :
    Except String Command := do
  .ok { id, shortName := f.shortName, arguments := ← argumentsOf enumTypes f,
        creates := lastKind Rule.creates? rules, destroys := lastKind Rule.destroys? rules }

end Command

/-- The names of the enum classes of a registry. -/
def Registry.enumTypes (r : Registry) : List String :=
  (Keyed.values r.enums).map EnumGroup.name

/-- The commands of an emitter; the error is a type that does not travel. -/
def Emitter.commands (e : Emitter) : Except String (List Command) :=
  let ids := e.commandIds
  e.functions.mapM fun f =>
    Command.ofFunction (Emitter.idIn ids f) f (e.overrides.rulesOf f.name) e.registry.enumTypes

end CommandStream
