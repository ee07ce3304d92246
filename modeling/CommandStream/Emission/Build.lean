import CommandStream.Description.Refinement
import CommandStream.Emission.Emitter
import CommandStream.Header.Extraction
import CommandStream.Markup.Encoding
import CommandStream.Override.Module

/-!
# From sources to an emitter

A header gives the registry, a description refines it, and override modules change it. Every step
reports; the reports stay also if a later step fails.
-/

namespace CommandStream

/-- Reasons for which sources give no emitter. -/
inductive BuildError where
  | header (cause : Header.HeaderError)
  | description (cause : Markup.DocumentError)
  | overrides (cause : OverrideError)
  | emission (cause : EmissionError)

/-- The message of a reading that stopped, where there is one. -/
def Header.HeaderError.message? : HeaderError → Option String
  | undecodable => none
  | registry cause => some cause.message

/-- Whether an error says that nothing can be emitted. -/
def Header.HeaderError.unfit : HeaderError → Bool
  | undecodable => false
  | registry cause => cause.unfit

namespace BuildError

/-- The message of a build error, where there is one. -/
def message? : BuildError → Option String
  | header cause => cause.message?
  | description _ => none
  | overrides cause => cause.message?
  | emission cause => cause.message?

/-- Whether an error says that nothing can be emitted. -/
def unfit : BuildError → Bool
  | header cause => cause.unfit
  | description _ => false
  | overrides cause => cause.unfit
  | emission cause => cause.unfit

end BuildError

/-- A step of a build, with everything reported so far. -/
abbrev Build (α : Type) := Outcome Log BuildError α

namespace Build

/-- The registry of a header that has been read. -/
def ofHeader (log : Log) (read : Outcome Header.Extraction Header.HeaderError Unit) :
    Build Registry :=
  (read.within (fun x => log ++ x.log) .header).andThen fun log _ =>
    .done log read.state.registry

/-- A registry refined by a description, if there is one. -/
def refine (log : Log) (r : Registry)
    (description : Option (Except Markup.DocumentError Markup.Element)) : Build Registry :=
  match description with
  | none => .done log r
  | some (.error e) => .failed log (.description e)
  | some (.ok root) =>
    let x := Refinement.ofRoot r root
    .done (log ++ x.log) x.registry

/-- The registry of a header and a description, closed to new entries. -/
def readRegistry (log : Log) (start : String) (lines : List String)
    (description : Option (Except Markup.DocumentError Markup.Element)) : Build Registry :=
  (ofHeader log (Header.Extraction.ofLines (.empty start) lines)).andThen fun log r =>
    (refine log r description).andThen fun log r => .done log r.freeze

/-- The emitter of a registry after the overrides of a tracker. -/
def overridden (log : Log) (r : Registry) (t : OverrideTracker) (space : String) : Build Emitter :=
  let run := t.apply r
  let log := log ++ run.state.1.log
  match applied : run.answer with
  | .error e => .failed log (.overrides e)
  | .ok () =>
    let sound := Registry.unambiguous_of_validate (OverrideTracker.validate_of_apply applied)
    match Emitter.ofRegistry run.state.2 run.state.1 space sound with
    | .ok e => .done log e
    | .error e => .failed log (.emission e)

/-- The emitter of a registry after the overrides of some modules. -/
def emitter (log : Log) (r : Registry) (modules : List OverrideModule) (space : String) :
    Build Emitter :=
  match OverrideModule.registerAll r modules with
  | .error e => .failed log (.overrides e)
  | .ok t => overridden log r t space

section Overridden

variable {r : Registry} {t : OverrideTracker}

theorem answer_overridden_error (log : Log) (space : String) {e : OverrideError}
    (applied : (t.apply r).answer = .error e) :
    (overridden log r t space).answer = .error (.overrides e) := by
  unfold overridden
  dsimp only
  split
  · rename_i failed
    rw [applied] at failed
    cases failed
    rfl
  · rename_i passed
    rw [applied] at passed
    cases passed

/-- Overrides that apply leave short names from which ids can be given out. -/
theorem answer_overridden_ok (log : Log) (space : String) (applied : (t.apply r).answer = .ok ()) :
    (overridden log r t space).answer =
      (Emitter.ofRegistry (t.apply r).state.2 (t.apply r).state.1 space
        (Registry.unambiguous_of_validate (OverrideTracker.validate_of_apply applied))).mapError
        .emission := by
  unfold overridden
  dsimp only
  split
  · rename_i failed
    rw [applied] at failed
    cases failed
  · cases Emitter.ofRegistry (t.apply r).state.2 (t.apply r).state.1 space _ <;> rfl

end Overridden

end Build

end CommandStream
