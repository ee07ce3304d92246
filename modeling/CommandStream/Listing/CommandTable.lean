import CommandStream.Emission.Emitter

/-!
# The table of commands

The commands with their ids, and the native functions behind them where the names differ.
-/

namespace CommandStream

/-- A row of the table of commands. -/
structure CommandRow where
  id : Nat
  name : String
  /-- The name of the function. -/
  function : String
  /-- The native function that the consumer calls. -/
  native : String

namespace CommandRow

/-- The native function that the consumer of a function with some rules calls: the one that the last
rule with a native call was registered for. -/
def nativeName (f : Function) (rules : List Rule) : String :=
  match (rules.filter Rule.keepsNativeCall).getLast? with
  | some rule => rule.function
  | none => f.name

/-- The line of a row. -/
def line (row : CommandRow) : String :=
  let named := "    " ++ padTo 6 (toString row.id) ++ row.name
  if row.native = row.function then named
  else padTo 40 named ++ "/* " ++ row.native ++ " */"

end CommandRow

namespace Emitter

variable (e : Emitter)

/-- The rows of the table of commands. -/
def commandRows : List CommandRow :=
  let ids := e.commandIds
  e.functions.map fun f =>
    { id := idIn ids f, name := f.shortName, function := f.name,
      native := CommandRow.nativeName f (e.overrides.rulesOf f.name) }

/-- The lines of the table of commands. -/
def commandTable : List String :=
  (e.idWidth.typeName ++ ", " ++ toString e.commandRows.length ++ " commands") ::
    e.commandRows.map CommandRow.line

end Emitter

end CommandStream
