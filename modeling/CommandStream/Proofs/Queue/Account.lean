import Mathlib.Logic.Relation
import CommandStream.Proofs.Queue.Backlog

/-!
# Accounts of runs

What a run of a queue comes to when handles are names of objects and nothing else: there are no slots and
no generations, only the commands that were executed, what their handlers answered, and the commands that
wait. An object is what the handler of its command answered, until a command deletes it.
-/

namespace CommandStream

/-- The handle of the object that a command makes, with its type. -/
def Pending.object? (p : Pending) : Option (String × Value) :=
  p.reserved.map fun made => (made.1.handleType, made.2)

/-- A command that has been executed, and what its handler answered. -/
structure Execution where
  pending : Pending
  answer : Value

namespace Execution

/-- The command made the object of a handle. -/
def Makes (x : Execution) (h : String × Value) : Prop :=
  x.pending.object? = some h

/-- The command deleted the object of a handle. -/
def Deletes (x : Execution) (h : String × Value) : Prop :=
  x.pending.command.destroys.isSome ∧ h ∈ x.pending.handles

end Execution

/-- What has come of a run. -/
structure Account where
  done : List Execution
  pending : List Pending
  calls : List Call

namespace Account

/-- The account of a run that has not begun. -/
def start : Account := ⟨[], [], []⟩

/-- The handles of the objects that executed commands have made. -/
def made (acc : Account) : List (String × Value) :=
  acc.done.filterMap fun x => x.pending.object?

/-- The handles that have been given out. -/
def issued (acc : Account) : List (String × Value) :=
  acc.made ++ acc.pending.filterMap Pending.object?

/-- A handle whose object a command has deleted. -/
def Deleted (acc : Account) (h : String × Value) : Prop :=
  ∃ x ∈ acc.done, x.Deletes h

/-- What a handler receives for arguments: for a handle, the answer of the handler whose command made the object. -/
inductive Receives (acc : Account) : List WireArgument → List Value → List Value → Prop where
  | nothing : Receives acc [] [] []
  | plain {a : WireArgument} {v : Value} {arguments : List WireArgument} {values received : List Value}
      (isPlain : a.type.presentation ≠ .handle) (others : Receives acc arguments values received) :
      Receives acc (a :: arguments) (v :: values) (v :: received)
  | object {a : WireArgument} {v : Value} {arguments : List WireArgument} {values received : List Value} {x : Execution}
      (isHandle : a.type.presentation = .handle) (executed : x ∈ acc.done) (makes : x.Makes (a.cType, v))
      (others : Receives acc arguments values received) :
      Receives acc (a :: arguments) (v :: values) (x.answer :: received)

/-- The calls after the one of a command's handler, and its answer; a command without handler is not called. -/
inductive Calls (acc : Account) (native : NativeSide) (name : String) (values : List Value) : List Call → Value → Prop where
  | missing (nobody : native.handler? name = none) : Calls acc native name values acc.calls .absent
  | answered {handler : Handler} {answer : Value} (somebody : native.handler? name = some handler)
      (answers : handler acc.calls ⟨name, values⟩ = .ok answer) :
      Calls acc native name values (acc.calls ++ [⟨name, values⟩]) answer

/-- The execution of the command that waits in front, none of whose arguments has been deleted. -/
inductive Executes (native : NativeSide) (acc : Account) : Account → Prop where
  | front {p : Pending} {rest : List Pending} {values : List Value} {calls : List Call} {answer : Value}
      (waits : acc.pending = p :: rest) (alive : ∀ h ∈ p.handles, ¬ acc.Deleted h)
      (received : acc.Receives p.command.arguments p.values values)
      (called : acc.Calls native p.command.shortName values calls answer) :
      Executes native acc ⟨acc.done ++ [⟨p, answer⟩], rest, calls⟩

/-- The handle that an answered operation gives out for the object of a command. -/
def issuedBy? (commands : List Command) : QueueOperation × Except QueueError QueueReply → Option (String × Value)
  | (.enqueue name _, .ok (.accepted handle)) =>
    (commands.find? fun c => c.shortName == name).bind fun c => c.creates.map fun kind => (kind.handleType, handle)
  | _ => none

/-- An operation with its answer. Enqueuing gives out a new handle for the object of the command. Processing executes
commands until none waits, or until it refuses one, with an argument that has been deleted. -/
inductive Step (native : NativeSide) (commands : List Command) (acc : Account) :
    QueueOperation × Except QueueError QueueReply → Account → Prop where
  | enqueued {name : String} {values arrived : List Value} {c : Command} {handle : Value}
      (found : commands.find? (fun c => c.shortName == name) = some c)
      (arrives : Backlog.arrivals c.arguments values = .ok arrived)
      (unchanged : handleArguments c.arguments arrived = handleArguments c.arguments values)
      (fresh : ∀ kind, c.creates = some kind → (kind.handleType, handle) ∉ acc.issued) :
      Step native commands acc (.enqueue name values, .ok (.accepted handle))
        { acc with pending := acc.pending ++ [⟨c, arrived, c.creates.map fun kind => (kind, handle)⟩] }
  | executed {acc' : Account} (all : Relation.ReflTransGen (Executes native) acc acc') (nothing : acc'.pending = []) :
      Step native commands acc (.process, .ok (.executed acc.pending.length)) acc'
  | refused {acc' : Account} {p : Pending} {rest : List Pending} {h : String × Value} {e : QueueError}
      (some : Relation.ReflTransGen (Executes native) acc acc') (waits : acc'.pending = p :: rest)
      (argument : h ∈ p.handles) (deleted : acc'.Deleted h) (refusal : ∃ table, e = .resource (.access (.invalid table h.2))) :
      Step native commands acc (.process, .error e) { acc' with pending := rest }

/-- Operations with their answers, earliest first. -/
inductive Run (native : NativeSide) (commands : List Command) :
    List (QueueOperation × Except QueueError QueueReply) → Account → Prop where
  | nothing : Run native commands [] start
  | snoc {past : List (QueueOperation × Except QueueError QueueReply)} {acc acc' : Account}
      {x : QueueOperation × Except QueueError QueueReply} (before : Run native commands past acc)
      (step : Step native commands acc x acc') : Run native commands (past ++ [x]) acc'

end Account

end CommandStream
