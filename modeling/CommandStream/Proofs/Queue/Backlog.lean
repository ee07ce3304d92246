import CommandStream.Proofs.Wire.Record
import CommandStream.Queue.Basic

/-!
# The backlog of a queue

A queue without bytes: the commands that wait, in order, each with its arguments as they will arrive
and with the handle that was handed out for its object. An enqueued command waits behind all others
or leaves no trace; executing takes commands off the front one by one. Only what a command does to
the native side and to the slot tables is left of its execution.
-/

namespace CommandStream
open Wire

/-- A command that waits. -/
structure Pending where
  command : Command
  /-- The arguments as they arrive. -/
  values : List Value
  /-- The kind and the handle of the object that the command makes, the handle as it arrives. -/
  reserved : Option (ResourceKind × Value)

/-- An argument with its type, if it is a handle. -/
def handleArgument (a : WireArgument) (v : Value) : List (String × Value) :=
  match a.type.presentation with
  | .handle => [(a.cType, v)]
  | _ => []

section HandleArgument

variable {a : WireArgument} (v : Value)

theorem handleArgument_of_handle (isHandle : a.type.presentation = .handle) : handleArgument a v = [(a.cType, v)] := by
  rw [handleArgument, isHandle]

theorem handleArgument_of_ne (other : a.type.presentation ≠ .handle) : handleArgument a v = [] := by
  unfold handleArgument
  split
  · contradiction
  · rfl

theorem mem_handleArgument {v : Value} {x : String × Value} :
    x ∈ handleArgument a v ↔ a.type.presentation = .handle ∧ x = (a.cType, v) := by
  by_cases isHandle : a.type.presentation = .handle
  · simp [handleArgument_of_handle v isHandle, isHandle]
  · simp [handleArgument_of_ne v isHandle, isHandle]

end HandleArgument

/-- The handles among arguments, with their types. -/
def handleArguments : List WireArgument → List Value → List (String × Value)
  | a :: arguments, v :: values => handleArgument a v ++ handleArguments arguments values
  | _, _ => []

/-- The handles among the arguments of a command that waits. -/
def Pending.handles (p : Pending) : List (String × Value) :=
  handleArguments p.command.arguments p.values

/-- Commands that wait, and what they will work on. -/
structure Backlog where
  commands : List Command
  native : NativeSide
  resources : ResourceTables
  pending : List Pending
  calls : List Call
  log : Log

/-- What comes of an operation on a queue that succeeds. -/
inductive QueueReply where
  /-- A command was enqueued, and a handle given out for its object. -/
  | accepted (handle : Value)
  /-- So many commands were executed. -/
  | executed (count : Nat)

/-- An operation on a queue. -/
inductive QueueOperation where
  | enqueue (name : String) (values : List Value)
  | process

/-- Operations one after another, whether or not they fail, with all answers. -/
def Outcome.runEach {σ ε α β : Type} (step : σ → β → Outcome σ ε α) (s : σ) : List β → List (Except ε α) × σ
  | [] => ([], s)
  | b :: rest => ((step s b).answer :: (runEach step (step s b).state rest).1, (runEach step (step s b).state rest).2)

theorem Outcome.length_runEach {σ ε α β : Type} (step : σ → β → Outcome σ ε α) (s : σ) (items : List β) :
    (runEach step s items).1.length = items.length := by
  induction items generalizing s with
  | nil => rfl
  | cons item rest ih => simp only [runEach, List.length_cons, ih]

theorem Outcome.runEach_snoc {σ ε α β : Type} (step : σ → β → Outcome σ ε α) (s : σ) (items : List β) (item : β) :
    runEach step s (items ++ [item]) =
      ((runEach step s items).1 ++ [(step (runEach step s items).2 item).answer], (step (runEach step s items).2 item).state) := by
  induction items generalizing s with
  | nil => rfl
  | cons first rest ih => simp only [List.cons_append, runEach, ih]

/-- An operation performed. -/
def CommandQueue.perform (q : CommandQueue) : QueueOperation → Outcome CommandQueue QueueError QueueReply
  | .enqueue name values => (q.enqueue name values).andThen fun q handle => .done q (.accepted handle)
  | .process => q.process.andThen fun q count => .done q (.executed count)

/-- The operations of a run with their answers. -/
def CommandQueue.record (q : CommandQueue) (operations : List QueueOperation) :
    List (QueueOperation × Except QueueError QueueReply) :=
  operations.zip (Outcome.runEach CommandQueue.perform q operations).1

/-- The queue behind a run. -/
def CommandQueue.after (q : CommandQueue) (operations : List QueueOperation) : CommandQueue :=
  (Outcome.runEach CommandQueue.perform q operations).2

theorem CommandQueue.after_snoc (q : CommandQueue) (operations : List QueueOperation) (o : QueueOperation) :
    q.after (operations ++ [o]) = ((q.after operations).perform o).state := by
  rw [after, Outcome.runEach_snoc]
  rfl

theorem CommandQueue.record_snoc (q : CommandQueue) (operations : List QueueOperation) (o : QueueOperation) :
    q.record (operations ++ [o]) = q.record operations ++ [(o, ((q.after operations).perform o).answer)] := by
  rw [record, Outcome.runEach_snoc, List.zip_append (Outcome.length_runEach _ _ _).symm]
  rfl

namespace Backlog

/-- The backlog of a queue in which nothing waits. -/
def ofIdle (q : CommandQueue) : Backlog :=
  { commands := q.commands, native := q.native, resources := q.resources, pending := [], calls := q.calls,
    log := q.log }

/-- Operations on a backlog. -/
abbrev Step (α : Type) := Outcome Backlog QueueError α

/-! ## Enqueuing -/

/-- Arguments as they arrive. -/
def arrivals : List WireArgument → List Value → Except CodecError (List Value)
  | a :: arguments, v :: values => do
    let first ← a.type.delivered v
    let others ← arrivals arguments values
    .ok (first :: others)
  | _, _ => .ok []

variable (a : Backlog)

/-- A command behind all others. -/
def push (p : Pending) : Backlog :=
  { a with pending := a.pending ++ [p] }

/-- A command with arguments behind all others, and the handle for its object. -/
def accept (c : Command) (values : List Value) : Step Value :=
  match c.creates with
  | none => .done (a.push ⟨c, values, none⟩) .absent
  | some kind =>
    let made := a.resources.call kind (.create [.int 0])
    match made.answer with
    | .error e => .failed a (.resource e)
    | .ok handle =>
      match WireType.handle.delivered handle with
      | .error e => .failed a (.codec e)
      | .ok arrived => .done ({ a with resources := made.state }.push ⟨c, values, some (kind, arrived)⟩) handle

/-- A command enqueued, or nothing done at all. -/
def enqueue (name : String) (values : List Value) : Step Value :=
  match a.commands.find? fun c => c.shortName == name with
  | none => .failed a (.unknownName name)
  | some c =>
    if values.length ≠ c.arguments.length then
      .failed a (.wrongCount name c.arguments.length values.length)
    else
      match arrivals c.arguments values with
      | .error e => .failed a (.codec e)
      | .ok arrived => a.accept c arrived

/-! ## Executing -/

/-- An argument, a handle replaced by what its slot holds. -/
def heldArgument (r : ResourceTables) (a : WireArgument) (v : Value) : Except ResourceError Value :=
  match a.type.presentation with
  | .handle => (r.callHandle a.cType (.get v)).answer
  | _ => .ok v

theorem heldArgument_of_handle (r : ResourceTables) {x : WireArgument} (isHandle : x.type.presentation = .handle) (v : Value) :
    heldArgument r x v = (r.callHandle x.cType (.get v)).answer := by
  rw [heldArgument, isHandle]

theorem heldArgument_of_ne (r : ResourceTables) {x : WireArgument} (other : x.type.presentation ≠ .handle) (v : Value) :
    heldArgument r x v = .ok v := by
  unfold heldArgument
  split
  · contradiction
  · rfl

/-- Arguments with handles replaced by what their slots hold. -/
def heldArguments (r : ResourceTables) : List WireArgument → List Value → Except ResourceError (List Value)
  | a :: arguments, v :: values => do
    let first ← heldArgument r a v
    let others ← heldArguments r arguments values
    .ok (first :: others)
  | _, _ => .ok []

/-- A message about a command. -/
def report (severity : Severity) (message : String) : Backlog :=
  { a with log := a.log ++ [⟨severity, CommandQueue.source, message⟩] }

/-- The call of a handler, if there is one, and its answer. -/
def callNative (name : String) (values : List Value) : Step Value :=
  match a.native.handler? name with
  | none => .done (a.report .debug ("no handler for " ++ name)) .absent
  | some handler =>
    let called := { a with calls := a.calls ++ [⟨name, values⟩] }
    match handler a.calls ⟨name, values⟩ with
    | .ok v => .done called v
    | .error e => .failed called (.handler e)

/-- A warning about the error that is found behind a command, if anyone looks and finds one. -/
def lookForError (name : String) : Step Unit :=
  match a.native.errorCode? with
  | none => .done a ()
  | some look =>
    match look name with
    | .error e => .failed a (.handler e)
    | .ok code =>
      if code = 0 then .done a ()
      else .done (a.report .warning (name ++ " failed with GL error 0x" ++ CommandQueue.hexCode code)) ()

/-- The answer of a handler in the slot that waits for it. -/
def store (reserved : Option (ResourceKind × Value)) (answer : Value) : Step Unit :=
  match reserved with
  | none => .done a ()
  | some (kind, handle) =>
    ((a.resources.call kind (.set handle answer)).within (fun resources => { a with resources }) .resource).andThen
      fun a _ => .done a ()

/-- A slot given free. -/
def destroy (handle : String × Value) : Step Unit :=
  ((a.resources.callHandle handle.1 (.destroy handle.2)).within (fun resources => { a with resources })
    .resource).andThen fun a _ => .done a ()

/-- Slots given free. -/
def release (handles : List (String × Value)) : Step Unit :=
  Outcome.runAll destroy a handles

/-- The execution of a command. -/
def execute (p : Pending) : Step Unit :=
  match heldArguments a.resources p.command.arguments p.values with
  | .error e => .failed a (.resource e)
  | .ok values =>
    (a.callNative p.command.shortName values).andThen fun a answer =>
      (a.lookForError p.command.shortName).andThen fun a _ =>
        (a.store p.reserved answer).andThen fun a _ =>
          if p.command.destroys.isSome then a.release p.handles else .done a ()

/-- The execution of commands one after another, with their count added to `count`. A command is taken
off the backlog before it is executed, and stays off if that fails. -/
def drain (a : Backlog) (count : Nat) : List Pending → Step Nat
  | [] => .done { a with pending := [] } count
  | p :: rest => ({ a with pending := rest }.execute p).andThen fun a _ => drain a (count + 1) rest

/-- The execution of everything that waits. -/
def process : Step Nat :=
  a.drain 0 a.pending

/-- An operation performed. -/
def perform : QueueOperation → Step QueueReply
  | .enqueue name values => (a.enqueue name values).andThen fun a handle => .done a (.accepted handle)
  | .process => a.process.andThen fun a count => .done a (.executed count)

end Backlog

end CommandStream
