import CommandStream.Registry.Basic

/-!
# The table of enum classes

The enum classes in alphabetical order with their keys and symbols, and the groups behind each where
these are not just the one of the same name.
-/

namespace CommandStream.EnumTable

/-- The groups of each enum class. -/
def groupsByType (enums : Keyed EnumGroup) : Keyed (List String) :=
  enums.foldl (fun found (name, group) =>
    Keyed.put found group.name ((Keyed.find? found group.name).getD [] ++ [name])) []

/-- Names in alphabetical order. -/
def sorted (names : List String) : List String :=
  names.mergeSort fun a b => decide (a ≤ b)

/-- The heading of an enum class. -/
def heading (type : String) (groups : List String) : String :=
  if groups = [type] then type else type ++ " (" ++ ", ".intercalate groups ++ ")"

/-- The line of a key. -/
def keyLine (key symbol : String) : String :=
  padTo 40 ("      " ++ key ++ " = ") ++ symbol

/-- The lines of an enum class with some groups; the first one counts. -/
def typeLines (enums : Keyed EnumGroup) (type : String) (groups : List String) : List String :=
  heading type groups ::
    match groups.head?.bind (Keyed.find? enums) with
    | some group => group.values.map fun (key, symbol) => keyLine key symbol
    | none => []

/-- The lines of the table. -/
def lines (enums : Keyed EnumGroup) : List String :=
  let byType := groupsByType enums
  (sorted (Keyed.keys byType)).flatMap fun type =>
    typeLines enums type ((Keyed.find? byType type).getD [])

end CommandStream.EnumTable
