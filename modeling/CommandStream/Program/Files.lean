import CommandStream.Path

/-!
# Files

What a run needs of a file system, and how the directories of a path are made. The file system is a
parameter, so that a run can be looked at without one.
-/

namespace CommandStream

/-- Reasons for which a file or directory is not to be had. -/
inductive FileErrorKind where
  | notFound
  | notADirectory
  | isADirectory
  | exists
  /-- A text that can name no file. -/
  | unnamable
  /-- A path, or a segment of one, that is too long. -/
  | tooLong
  | other
  deriving DecidableEq

/-- A failed access to a file system, with the words of the system. -/
structure FileError where
  kind : FileErrorKind
  text : String
  deriving DecidableEq

/-- The accesses to a file system that a run makes. -/
structure FileSystem (m : Type → Type) where
  read : String → m (Except FileError (List UInt8))
  /-- Writes a whole file, which need not have been there. -/
  write : String → List UInt8 → m (Except FileError Unit)
  /-- Makes one directory. -/
  makeDirectory : String → m (Except FileError Unit)
  isDirectory : String → m Bool

namespace FileSystem

variable {m : Type → Type} [Monad m]

/-- The outcome of making a directory that may be there already. -/
def acceptExisting (fs : FileSystem m) (path : String) (e : FileError) :
    m (Except FileError Unit) := do
  pure (if ← fs.isDirectory path then .ok () else .error e)

/-- Makes a directory, with those around it where they are missing. The segments of the path stand
last first. -/
def makeAll (fs : FileSystem m) (start : String) : List String → m (Except FileError Unit)
  | [] => do
    let path := Path.text ⟨start, []⟩
    match ← fs.makeDirectory path with
    | .ok () => pure (.ok ())
    | .error e => if e.kind = .notFound then pure (.error e) else fs.acceptExisting path e
  | last :: around => do
    let path := Path.text ⟨start, (last :: around).reverse⟩
    match ← fs.makeDirectory path with
    | .ok () => pure (.ok ())
    | .error e =>
      if e.kind = .notFound then
        match ← fs.makeAll start around with
        | .error e => pure (.error e)
        | .ok () =>
          match ← fs.makeDirectory path with
          | .ok () => pure (.ok ())
          | .error e => if e.kind = .notFound then pure (.error e) else fs.acceptExisting path e
      else fs.acceptExisting path e

/-- Makes a directory, with those around it where they are missing. -/
def ensureDirectory (fs : FileSystem m) (path : Path) : m (Except FileError Unit) :=
  fs.makeAll path.start path.segments.reverse

end FileSystem

end CommandStream
