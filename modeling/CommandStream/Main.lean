import CommandStream.Program.Tables

/-!
# The command line

The programs on the files of the machine. The name under which the program is called tells which one
is meant: the two table programs by their own names, the generator by any other.
-/

namespace CommandStream.Machine

/-- The error of a failed access. -/
def fileErrorOf (e : IO.Error) : FileError :=
  let kind := match e with
    | .noFileOrDirectory .. => FileErrorKind.notFound
    | .inappropriateType .. => .notADirectory
    | .alreadyExists .. => .exists
    | _ => .other
  ⟨kind, toString e⟩

/-- The outcome of an access to a path. -/
def attempt {α : Type} (path : String) (action : IO α) : IO (Except FileError α) := do
  if Path.isNamable path then
    match ← action.toBaseIO with
    | .ok a => pure (.ok a)
    | .error e => pure (.error (fileErrorOf e))
  else pure (.error ⟨.unnamable, "null character in a path"⟩)

/-- The files of the machine. -/
def machineFiles : FileSystem IO where
  read path := attempt path do pure (← IO.FS.readBinFile path).toList
  write path data := attempt path (IO.FS.writeBinFile path ⟨data.toArray⟩)
  makeDirectory path := attempt path (IO.FS.createDir path)
  isDirectory path := do
    match ← attempt path (do (← IO.FS.realPath path).isDir) with
    | .ok found => pure found
    | .error _ => pure false

/-- The console of the machine. -/
def machineConsole : Console IO where
  report e := IO.eprintln (e.logEntry Generator.source FileError.text).line

/-- The last words of a run that was stopped, and its status. -/
def stopped (e : RunError) : IO UInt32 := do
  match e with
  | .usage u =>
    if u = .misuse then IO.eprintln "error: unusable arguments"
    pure (UInt32.ofNat u.status)
  | .file cause =>
    IO.eprintln cause.text
    pure 1
  | .noValue =>
    IO.eprintln "an option lacks its value"
    pure 1
  | .build cause =>
    IO.eprintln (cause.message?.getD "the sources cannot be read")
    pure 1

/-- A run of a table program. -/
def printTable (t : Table) (words : List String) : IO UInt32 := do
  match ← t.run machineFiles ⟨fun _ => pure ()⟩ words with
  | .error e => stopped e
  | .ok lines =>
    lines.forM IO.println
    pure 0

/-- A run of the generator. -/
def generate (words : List String) : IO UInt32 := do
  match ← Generator.run machineFiles machineConsole words with
  | .error e => stopped e
  | .ok status => pure (UInt32.ofNat status)

end CommandStream.Machine

open CommandStream Machine in
/-- The program that the command line asks for. -/
def main (words : List String) : IO UInt32 := do
  match (← IO.appPath).fileStem with
  | some "command_table" => printTable .commands words
  | some "enum_table" => printTable .enums words
  | _ => generate words
