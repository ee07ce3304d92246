import CommandStream.Program.FileTree
import CommandStream.Program.Generator

/-!
# Recorded runs

Runs on a file tree: the files afterwards and everything reported.
-/

namespace CommandStream

/-- The state of a recorded run. -/
structure Recording where
  files : FileTree
  /-- The reports, the latest first. -/
  reports : List RunEntry

namespace Recording

/-- Accesses to the files of the recording that answer with something. -/
def access {α : Type} (look : FileTree → α) : StateM Recording α := do
  pure (look (← get).files)

/-- Accesses that may change the files of the recording. -/
def change (next : FileTree → Except FileError FileTree) :
    StateM Recording (Except FileError Unit) := do
  let recording ← get
  match next recording.files with
  | .ok files =>
    set { recording with files }
    pure (.ok ())
  | .error e => pure (.error e)

/-- The file system of a recording. -/
def fileSystem : FileSystem (StateM Recording) where
  read path := access fun t => t.read path
  write path data := change fun t => t.write path data
  makeDirectory path := change fun t => t.makeDirectory path
  isDirectory path := access fun t => t.isDirectory path

/-- The console of a recording. -/
def console : Console (StateM Recording) where
  report e := modify fun recording => { recording with reports := e :: recording.reports }

/-- A run on a file tree: its answer, the files afterwards, and the reports in order. -/
def run {α : Type} (program : StateM Recording α) (files : FileTree) :
    α × FileTree × List RunEntry :=
  let (answer, recording) := program ⟨files, []⟩
  (answer, recording.files, recording.reports.reverse)

end Recording

end CommandStream
