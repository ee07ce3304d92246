import CommandStream.Listing.CommandTable
import CommandStream.Listing.EnumTable
import CommandStream.Program.Generator

/-!
# The table programs

Runs that read the same sources as the generator and print a table instead of writing files: the
commands with their ids, or the enum classes with their keys.
-/

namespace CommandStream

/-- The tables that can be printed. -/
inductive Table where
  | commands
  | enums
  deriving DecidableEq

namespace Table

/-- The options of the program for a table. Without a description there are no enum classes. -/
def options (t : Table) : List OptionSpec :=
  [Options.help, ⟨"--header", .text, true⟩, ⟨"--xml", .text, decide (t = .enums)⟩]

/-- The lines of a table. -/
def lines (t : Table) (r : Registry) : Except BuildError (List String) :=
  match t with
  | .enums => .ok (EnumTable.lines r.enums)
  | .commands =>
    (Build.emitter [] r OverrideModule.builtIns Generator.defaultNamespace).answer.map
      Emitter.commandTable

variable {m : Type → Type} [Monad m]

/-- A run that gives a table: its lines. -/
def run (fs : FileSystem m) (console : Console m) (t : Table) (words : List String) :
    m (Except RunError (List String)) := do
  match Options.read t.options words with
  | .error u => pure (.error (.usage u))
  | .ok given =>
    match ← (Generator.readRegistry fs console false (.ofOptions given)).run with
    | .error e => pure (.error e)
    | .ok r => pure ((t.lines r).mapError .build)

end Table

end CommandStream
