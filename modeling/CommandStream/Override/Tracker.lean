import CommandStream.Log
import CommandStream.Override.Rule

/-!
# Tracking overrides

A tracker collects the rules of all modules under the names of functions, the ways in which values
of special types travel, and the resource kinds. Applied once to a registry, it changes the
signatures and files the rules under the names that the functions have afterwards.
-/

namespace CommandStream

/-- How a value of a special type travels. -/
inductive Transfer where
  /-- As a handle, looked up in the table of its kind by the consumer. -/
  | handle (kind : ResourceKind)
  /-- By lines with placeholders for the function, the type and the argument. -/
  | lines (patterns : List String)

/-- The overrides of a run. -/
structure OverrideTracker where
  /-- The rules of each function in order of registration. -/
  rules : Keyed (List Rule)
  /-- How the consumer reads values of a type. -/
  reads : Keyed Transfer
  /-- How the producer writes values of a type. -/
  writes : Keyed Transfer
  kinds : List ResourceKind
  applied : Bool
  log : Log

namespace OverrideTracker

/-- The tracker without overrides. -/
def empty : OverrideTracker := ⟨[], [], [], [], false, []⟩

variable (t : OverrideTracker)

/-- The name under which overrides report. -/
def source : String := "mgl_overrides"

/-- The tracker with a message reported. -/
def report (message : String) : OverrideTracker :=
  { t with log := t.log ++ [⟨.debug, source, message⟩] }

/-- The rules of a function. -/
def rulesOf (function : String) : List Rule :=
  (Keyed.find? t.rules function).getD []

/-- Rules filed under a name behind those already there. -/
def fileUnder (filed : Keyed (List Rule)) (name : String) (rules : List Rule) :
    Keyed (List Rule) :=
  Keyed.put filed name ((Keyed.find? filed name).getD [] ++ rules)

/-- The tracker with a rule. -/
def addRule (rule : Rule) : OverrideTracker :=
  { t with rules := fileUnder t.rules rule.function [rule] }

/-- The tracker with a way to read values of a type; the last one counts. -/
def setRead (type : String) (transfer : Transfer) : OverrideTracker :=
  let next :=
    if Keyed.hasKey t.reads type then t.report ("read override for " ++ type ++ " replaced") else t
  { next with reads := Keyed.put t.reads type transfer }

/-- The tracker with a way to write values of a type; the last one counts. -/
def setWrite (type : String) (transfer : Transfer) : OverrideTracker :=
  let next :=
    if Keyed.hasKey t.writes type then t.report ("write override for " ++ type ++ " replaced")
    else t
  { next with writes := Keyed.put t.writes type transfer }

/-- The tracker with a resource kind, once. -/
def addKind (kind : ResourceKind) : OverrideTracker :=
  if t.kinds.contains kind then t else { t with kinds := t.kinds ++ [kind] }

/-- A registry whose rules are being applied, with the rules filed so far and the reports. -/
structure Application where
  registry : Registry
  filed : Keyed (List Rule)
  log : Log

namespace Application

/-- The application of the rules registered for a name: nothing but a report if no function has that
name now. -/
def applyRules (x : Application) (entry : String × List Rule) :
    Outcome Application OverrideError Unit :=
  match x.registry.placeOf? entry.1 with
  | none =>
    .done { x with log := x.log ++ [⟨.debug, source, toString entry.2.length ++
      " override(s) for missing function " ++ entry.1 ++ " ignored"⟩] } ()
  | some place =>
    let mutated := Outcome.runAll
      (fun r (rule : Rule) => rule.effect.mutate r place) x.registry entry.2
    (mutated.within (fun registry => { x with registry }) id).andThen fun next _ =>
      match next.registry.functionAt? place with
      | some f => .done { next with filed := fileUnder next.filed f.name entry.2 } ()
      | none => .done next ()

end Application

/-- The tracker and the registry after applying all rules. If a rule fails, the rules stay filed as
they were; if the registry is unfit for emission afterwards, the rules are applied all the same. -/
def apply (r : Registry) : Outcome (OverrideTracker × Registry) OverrideError Unit :=
  if t.applied then .failed (t, r) .alreadyApplied
  else
    let run := Outcome.runAll Application.applyRules ⟨r.freeze, [], t.log⟩ t.rules
    match run.answer with
    | .error e => .failed ({ t with log := run.state.log }, run.state.registry) e
    | .ok () =>
      let next := { t with rules := run.state.filed, applied := true, log := run.state.log }
      match run.state.registry.validate with
      | .ok () => .done (next, run.state.registry) ()
      | .error e => .failed (next, run.state.registry) (.edit (.registry e))

/-- Overrides that are applied without error leave a registry that can be emitted. -/
theorem validate_of_apply {t : OverrideTracker} {r : Registry}
    (applied : (t.apply r).answer = .ok ()) : (t.apply r).state.2.validate = .ok () := by
  unfold apply at applied ⊢
  split at applied
  · cases applied
  rename_i fresh
  rw [if_neg fresh]
  dsimp only at applied ⊢
  split at applied
  · cases applied
  split at applied
  · assumption
  · cases applied

end OverrideTracker

end CommandStream
