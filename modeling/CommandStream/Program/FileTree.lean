import CommandStream.Program.Files
import CommandStream.Text.Quoted

/-!
# File trees

A file system as a value: files and directories by their segments. Paths start at the root of the
tree, and two dots lead one directory up. No two paths without dots lead to one file, and what is
guarded can be read but neither written nor made.
-/

namespace CommandStream

/-- What stands under a path. -/
inductive FileEntry where
  | file (data : List UInt8)
  | directory
  deriving DecidableEq

/-- A tree of files; each place occurs once. -/
structure FileTree where
  entries : List (List String × FileEntry)
  /-- The places where the system refuses to write or to make anything. -/
  guarded : List String → Bool

namespace FileTree

/-- The tree with an empty root and nothing guarded. -/
def empty : FileTree := ⟨[], fun _ => false⟩

variable (t : FileTree)

/-- What stands at a place. -/
def find? (place : List String) : Option FileEntry :=
  if place.isEmpty then some .directory else t.entries.lookup place

/-- Entries with what stands at a place replaced or added. -/
def putEntry (place : List String) (entry : FileEntry) :
    List (List String × FileEntry) → List (List String × FileEntry)
  | [] => [(place, entry)]
  | first :: rest =>
    if first.1 = place then (place, entry) :: rest else first :: putEntry place entry rest

/-- The tree with something put at a place. -/
def put (place : List String) (entry : FileEntry) : FileTree :=
  { t with entries := putEntry place entry t.entries }

/-- The tree with something at a place, in directories that are made where they are missing. -/
def install (place : List String) (entry : FileEntry) : FileTree :=
  let around := (List.range (place.length - 1)).map fun i => place.take (i + 1)
  let housed := around.foldl (fun t directory =>
    if (t.find? directory).isSome then t else t.put directory .directory) t
  housed.put place entry

/-- A failure. -/
def fail {α : Type} (kind : FileErrorKind) (path : String) : Except FileError α :=
  let words := match kind with
    | .notFound => "No such file or directory"
    | .notADirectory => "Not a directory"
    | .isADirectory => "Is a directory"
    | .exists => "File exists"
    | .unnamable => "Null character in a path"
    | .tooLong => "File name too long"
    | .other => "Input/output error"
  .error ⟨kind, words ++ ": " ++ Text.quoted path⟩

/-- Where segments lead from a place through directories. -/
def walk (t : FileTree) (path : String) (place : List String) :
    List String → Except FileError (List String)
  | [] => .ok place
  | segment :: rest =>
    match t.find? place with
    | none => fail .notFound path
    | some (.file _) => fail .notADirectory path
    | some .directory =>
      if segment = ".." then t.walk path place.dropLast rest
      else if segment.utf8ByteSize > Path.segmentByteLimit then fail .tooLong path
      else t.walk path (place ++ [segment]) rest

/-- The place that a path leads to, which need not exist; only a directory may be named with a slash
or dots at the end. -/
def resolve (path : String) : Except FileError (List String × Bool) :=
  if !Path.isNamable path then fail .unnamable path
  else if path.utf8ByteSize > Path.byteLimit then fail .tooLong path
  else if path.isEmpty then fail .notFound path
  else do
    let place ← t.walk path [] (Path.segmentsOf path)
    let last := ((Text.pieces '/' path.toList).map String.ofList).getLast?.getD ""
    .ok (place, ["", ".", ".."].contains last)

/-- The content of a file. -/
def read (path : String) : Except FileError (List UInt8) := do
  let (place, directoryWanted) ← t.resolve path
  match t.find? place with
  | none => fail .notFound path
  | some .directory => fail .isADirectory path
  | some (.file data) => if directoryWanted then fail .notADirectory path else .ok data

/-- The place of the file that a path names for writing, which need not be there. -/
def target (path : String) : Except FileError (List String) := do
  let (place, directoryWanted) ← t.resolve path
  let standing := t.find? place
  if standing = some .directory then fail .isADirectory path
  else if directoryWanted then
    fail (if standing.isSome then .notADirectory else .isADirectory) path
  else if t.guarded place then fail .other path
  else .ok place

/-- The tree with a file written. -/
def write (path : String) (data : List UInt8) : Except FileError FileTree := do
  .ok (t.put (← t.target path) (.file data))

/-- The tree with a directory made. -/
def makeDirectory (path : String) : Except FileError FileTree := do
  let (place, _) ← t.resolve path
  match t.find? place with
  | some _ => fail .exists path
  | none => if t.guarded place then fail .other path else .ok (t.put place .directory)

/-- Whether a path leads to a directory. -/
def isDirectory (path : String) : Bool :=
  match t.resolve path with
  | .ok (place, _) => t.find? place == some .directory
  | .error _ => false

/-- The files below a place, with their places. -/
def filesBelow (place : List String) : List (List String × List UInt8) :=
  t.entries.filterMap fun (spot, entry) =>
    match entry with
    | .file data => if place.isPrefixOf spot && spot != place then some (spot, data) else none
    | .directory => none

end FileTree

end CommandStream
