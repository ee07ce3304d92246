import CommandStream.Emission.Artifact
import CommandStream.Emission.Build
import CommandStream.Program.Files
import CommandStream.Program.Options

/-!
# The generator

The run that reads a header and a description and writes the artifacts. All artifacts are tried
before a failure is reported; what cannot be emitted at all ends the run with status 1, what cannot
be read stops it.
-/

namespace CommandStream

/-- Reasons for which a run stops without a status of its own. -/
inductive RunError where
  | usage (u : Usage)
  | file (e : FileError)
  /-- An option that is needed and was given without its value. -/
  | noValue
  | build (e : BuildError)

/-- What a run reports. -/
inductive RunEntry where
  | entry (e : LogEntry)
  | created (path : String)
  | failed (name : String) (cause : FileError)

namespace RunEntry

/-- The entry as an entry of a log, with the words for a failed access. -/
def logEntry (source : String) (words : FileError → String) : RunEntry → LogEntry
  | entry e => e
  | created path => ⟨.info, source, "created " ++ path⟩
  | failed name cause =>
    ⟨.error, source, "failed to generate " ++ name ++ ": " ++ words cause⟩

end RunEntry

/-- What a run does besides accessing files. -/
structure Console (m : Type → Type) where
  report : RunEntry → m Unit

/-- The files that a registry is read from. -/
structure Sources where
  header : Options.Supply
  description : Options.Supply

/-- The files that options name. -/
def Sources.ofOptions (given : Keyed OptionValue) : Sources :=
  ⟨Options.supply given "--header", Options.supply given "--xml"⟩

namespace Generator

/-- The name under which the generator reports. -/
def source : String := "mgl_protocol"

/-- The options of the generator. -/
def options : List OptionSpec :=
  [Options.help, ⟨"--header", .text, true⟩, ⟨"--xml", .text, false⟩, ⟨"--outdir", .text, true⟩,
   ⟨"--banner", .text, false⟩, ⟨"--namespace", .text, false⟩, ⟨"--jobs", .integer, false⟩,
   ⟨"--verbose", .flag, false⟩]

/-- The banner of artifacts for which none is given. -/
def defaultBanner : List UInt8 :=
  "/* This file is generated by mgl_protocol.py. */\n\n".toUTF8.toList

/-- The namespace of artifacts for which none is given. -/
def defaultNamespace : String := "multigl"

/-- What a run is asked for. -/
structure Settings where
  sources : Sources
  outdir : Options.Supply
  /-- The file of the banner. -/
  banner : Options.Supply
  /-- The namespace of the artifacts. -/
  scope : String
  /-- Whether the number of files written at a time is known. -/
  paced : Bool
  /-- Whether debug entries are reported. -/
  verbose : Bool

/-- The settings that the words of a command line give. -/
def Settings.read (words : List String) : Except Usage Settings := do
  let given ← Options.read options words
  .ok
    { sources := .ofOptions given
      outdir := Options.supply given "--outdir"
      banner := Options.supply given "--banner"
      scope := (Options.supply given "--namespace").textOr defaultNamespace
      paced := Options.supply given "--jobs" != .withheld
      verbose := Keyed.hasKey given "--verbose" }

/-- What became of artifacts that were tried: the paths of the files written, and the names of the
artifacts that failed. -/
structure Outputs where
  written : List Path
  failed : List String

/-- Artifacts that could not be generated: their names in order. -/
structure GenerationFailure where
  names : List String

/-- The message about artifacts that failed. -/
def GenerationFailure.message (f : GenerationFailure) : String :=
  "failed to generate " ++ ", ".intercalate f.names

/-- The answer for artifacts that were tried: the paths in order, if none failed. -/
def Outputs.result (o : Outputs) : Except GenerationFailure (List Path) :=
  if o.failed.isEmpty then .ok (Path.sorted o.written)
  else .error ⟨o.failed.mergeSort fun a b => decide (a ≤ b)⟩

/-- The directories of the artifacts in alphabetical order. -/
def directories : List String := ["include", "src"]

/-- The entries of a log that are reported: debug entries only on request. -/
def reportable (verbose : Bool) (log : Log) : Log :=
  log.filter fun e => verbose || e.severity != .debug

section
variable {m : Type → Type} [Monad m]

/-- A step of a run, which may stop it. -/
abbrev Step (m : Type → Type) (α : Type) := ExceptT RunError m α

/-- A step that cannot stop the run. -/
def perform {α : Type} (action : m α) : Step m α := ExceptT.lift action

/-- Reports a log. -/
def reportAll (console : Console m) (verbose : Bool) (log : Log) : m Unit :=
  (reportable verbose log).forM fun e => console.report (.entry e)

/-- The content of a file. -/
def readFile (fs : FileSystem m) (path : String) : Step m (List UInt8) := do
  match ← fs.read path with
  | .ok data => pure data
  | .error e => throw (.file e)

/-- The text that an option must give. -/
def needed (supply : Options.Supply) : Step m String :=
  match supply with
  | .text s => pure s
  | _ => throw .noValue

/-- Reports a step of a build and goes on with its answer. -/
def built {α : Type} (console : Console m) (verbose : Bool) (b : Build α) : Step m α := do
  perform (reportAll console verbose b.state)
  match b.answer with
  | .ok a => pure a
  | .error e => throw (.build e)

/-- The registry of a header file. -/
def readHeader (fs : FileSystem m) (console : Console m) (verbose : Bool) (path : String) :
    Step m Registry := do
  let bytes ← readFile fs path
  built console verbose (Build.ofHeader [] (Header.Extraction.ofBytes (.empty "gl") bytes))

/-- A registry refined by a description file, if there is one, and closed to new entries. -/
def refine (fs : FileSystem m) (console : Console m) (verbose : Bool) (r : Registry)
    (path : Options.Supply) : Step m Registry := do
  let description ← match path with
    | .missing => pure none
    | path => do pure (some (Markup.Element.ofBytes (← readFile fs (← needed path))))
  let refined ← built console verbose (Build.refine [] r description)
  pure refined.freeze

/-- The registry of source files. -/
def readRegistry (fs : FileSystem m) (console : Console m) (verbose : Bool) (sources : Sources) :
    Step m Registry := do
  let r ← readHeader fs console verbose (← needed sources.header)
  refine fs console verbose r sources.description

/-- The banner in the named file; the usual one if there is no such file or nothing in it. -/
def bannerOf (fs : FileSystem m) (path : Options.Supply) : Step m (List UInt8) := do
  match path with
  | .text path =>
    if path.isEmpty then pure defaultBanner
    else
      let data ← readFile fs path
      pure (if data.isEmpty then defaultBanner else data)
  | _ => pure defaultBanner

/-- Makes the directories of the artifacts. -/
def makeDirectories (fs : FileSystem m) (outdir : Path) : Step m Unit :=
  directories.forM fun directory => do
    match ← fs.ensureDirectory (outdir.inside directory) with
    | .ok () => pure ()
    | .error e => throw (.file e)

/-- The content of an artifact's file. -/
def content (e : Emitter) (banner : List UInt8) (a : Artifact) :
    Except EmissionError (List UInt8) :=
  (a.text e).map fun text => banner ++ text.toUTF8.toList

/-- The error of an artifact that cannot be emitted. -/
def emissionTrouble (cause : EmissionError) : FileError :=
  ⟨.other, cause.message?.getD ""⟩

/-- The path of the file of an artifact. -/
def outputPath (outdir : Path) (a : Artifact) : Path :=
  (outdir.inside a.directory).inside a.fileName

/-- Writes an artifact; the answer is whether it worked. The file is opened when its content is
there. -/
def writeArtifact (fs : FileSystem m) (console : Console m) (e : Emitter) (outdir : Path)
    (banner : List UInt8) (a : Artifact) : m Bool := do
  let path := (outputPath outdir a).text
  match content e banner a with
  | .error cause =>
    console.report (.failed a.fileName (emissionTrouble cause))
    pure false
  | .ok data =>
    match ← fs.write path data with
    | .ok () =>
      console.report (.created path)
      pure true
    | .error cause =>
      console.report (.failed a.fileName cause)
      pure false

/-- Writes artifacts, whatever becomes of those before. -/
def writeArtifacts (fs : FileSystem m) (console : Console m) (e : Emitter) (outdir : Path)
    (banner : List UInt8) : List Artifact → m Outputs
  | [] => pure ⟨[], []⟩
  | a :: rest => do
    let worked ← writeArtifact fs console e outdir banner a
    let others ← writeArtifacts fs console e outdir banner rest
    pure (if worked then { others with written := outputPath outdir a :: others.written }
      else { others with failed := a.fileName :: others.failed })

/-- Generates the files of artifacts in their directories below another one. The artifacts are tried
in the order given, which stands for any in which several at a time may be finished. -/
def generateFiles (fs : FileSystem m) (console : Console m) (e : Emitter) (outdir : String)
    (banner : List UInt8) (paced : Bool) (order : List Artifact) :
    Step m (Except GenerationFailure (List Path)) := do
  let outdir := Path.ofText outdir
  makeDirectories fs outdir
  if !paced then throw .noValue
  let outputs ← perform (writeArtifacts fs console e outdir banner order)
  pure outputs.result

/-- The run up to the last artifact: the number of commands, or the failure of artifacts. -/
def emit (fs : FileSystem m) (console : Console m) (settings : Settings) :
    Step m (Except GenerationFailure Nat) := do
  let r ← readRegistry fs console settings.verbose settings.sources
  let e ← built console settings.verbose
    (Build.emitter [] r OverrideModule.builtIns settings.scope)
  let banner ← bannerOf fs settings.banner
  let outdir ← needed settings.outdir
  let result ← generateFiles fs console e outdir banner settings.paced Artifact.all
  pure (result.map fun _ => e.functions.length)

/-- Reports an entry of the generator itself. -/
def reportOwn (console : Console m) (severity : Severity) (message : String) : m Unit :=
  console.report (.entry ⟨severity, source, message⟩)

/-- A run of the generator. The answer is its status. -/
def run (fs : FileSystem m) (console : Console m) (words : List String) :
    m (Except RunError Nat) := do
  match Settings.read words with
  | .error u => pure (.error (.usage u))
  | .ok settings =>
    match ← (emit fs console settings).run with
    | .ok (.ok count) =>
      reportOwn console .info
        ("generated " ++ toString count ++ " commands into " ++ settings.outdir.textOr "")
      pure (.ok 0)
    | .ok (.error failure) =>
      reportOwn console .error failure.message
      pure (.ok 1)
    | .error (.build cause) =>
      if cause.unfit then
        reportOwn console .error (cause.message?.getD "")
        pure (.ok 1)
      else pure (.error (.build cause))
    | .error e => pure (.error e)

end

end Generator

end CommandStream
