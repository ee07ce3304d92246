import CommandStream.Log
import CommandStream.Queue.Command
import CommandStream.Queue.Native
import CommandStream.Slot.Resource
import CommandStream.Wire.Buffer

/-!
# The command queue

Commands are enqueued by name and executed in order. The producer hands out the handle of an object
before it exists; the consumer makes the object and puts it into the slot that is waiting for it.
While anything has been enqueued and not been executed to the end, the queue is draining.
-/

namespace CommandStream

/-- Whether anything waits in a queue. -/
inductive QueueState where
  | idle
  | draining
  deriving DecidableEq

/-- The name of a state. -/
def QueueState.name : QueueState → String
  | idle => "Idle"
  | draining => "Draining"

/-- Reasons for which a command is not enqueued or not executed. -/
inductive QueueError where
  | unknownName (name : String)
  | wrongCount (name : String) (expected given : Nat)
  | codec (cause : Wire.CodecError)
  | read (cause : ReadError)
  | resource (cause : ResourceError)
  | unknownCommand (id : Int)
  | handler (cause : HandlerError)

/-- The message of a queue error, where there is one. -/
def QueueError.message? : QueueError → Option String
  | unknownName name => some name
  | wrongCount name expected given =>
    some (name ++ " takes " ++ toString expected ++ " arguments (" ++ toString given ++ " given)")
  | codec _ => none
  | read cause => cause.message?
  | resource cause => cause.message?
  | unknownCommand id => some ("unknown command id " ++ toString id)
  | handler (.raised message) => some message
  | handler _ => none

/-- A queue of commands. -/
structure CommandQueue where
  commands : List Command
  idType : WireType
  native : NativeSide
  resources : ResourceTables
  buffer : Buffer
  state : QueueState
  /-- The calls of handlers so far. -/
  calls : List Call
  log : Log

namespace CommandQueue

/-- The queue for the commands of an emitter; the error is a type that does not travel. -/
def ofEmitter (e : Emitter) (native : NativeSide) : Except String CommandQueue := do
  .ok { commands := ← e.commands, idType := e.idWidth.wireType, native,
        resources := .ofKinds e.overrides.kinds, buffer := .empty, state := .idle, calls := [],
        log := [] }

/-- The name under which a queue reports. -/
def source : String := "mgl_runtime"

/-- Operations on a queue. -/
abbrev Step (α : Type) := Outcome CommandQueue QueueError α

variable (q : CommandQueue)

/-- The queue with a message reported. -/
def report (severity : Severity) (message : String) : CommandQueue :=
  { q with log := q.log ++ [⟨severity, source, message⟩] }

/-- The queue without content; tables and calls stay. -/
def reset : CommandQueue :=
  { q with buffer := .empty, state := .idle }

/-- The queue with an empty buffer, whatever its state. -/
def clearBuffer : CommandQueue :=
  { q with buffer := .empty }

/-- The command of a name. -/
def command? (name : String) : Option Command :=
  q.commands.find? fun c => c.shortName == name

/-- The queue with a value in its buffer. -/
def write (t : WireType) (v : Value) : Step Unit :=
  (q.buffer.write t v).within (fun buffer => { q with buffer }) .codec

/-- The queue with arguments in its buffer. -/
def writeArguments (q : CommandQueue) : List WireArgument → List Value → Step Unit
  | a :: arguments, v :: values =>
    (q.write a.type v).andThen fun q _ => writeArguments q arguments values
  | _, _ => .done q ()

/-- A call on the table of a resource kind. -/
def callTable (kind : ResourceKind) (call : SlotCall) : Step Value :=
  (q.resources.call kind call).within (fun resources => { q with resources }) .resource

/-- A call on the table of a handle type. -/
def callHandleTable (handleType : String) (call : SlotCall) : Step Value :=
  (q.resources.callHandle handleType call).within (fun resources => { q with resources }) .resource

/-- The queue with a slot made for the object of a command, whose handle goes into the buffer. -/
def reserve (kind : ResourceKind) : Step Value :=
  (q.callTable kind (.create [.int 0])).andThen fun q handle =>
    (q.write .handle handle).andThen fun q _ => .done q handle

/-- The queue with a command behind all others; the answer is the handle of the object that the
command makes. -/
def enqueue (name : String) (values : List Value) : Step Value :=
  match q.command? name with
  | none => .failed q (.unknownName name)
  | some c =>
    if values.length ≠ c.arguments.length then
      .failed q (.wrongCount name c.arguments.length values.length)
    else
      ({ q with state := .draining }.write q.idType (.int c.id)).andThen fun q _ =>
        (q.writeArguments c.arguments values).andThen fun q _ =>
          match c.creates with
          | some kind => q.reserve kind
          | none => .done q .absent

/-- The next value of a type from the buffer. -/
def read (t : WireType) : Step Value :=
  match q.buffer.read t with
  | .ok (v, buffer) => .done { q with buffer } v
  | .error e => .failed q (.read e)

/-- The arguments of a command, handles replaced by what their slots hold, and the handles with
their types. -/
def readArguments (q : CommandQueue) :
    List WireArgument → Step (List Value × List (String × Value))
  | [] => .done q ([], [])
  | a :: rest =>
    (q.read a.type).andThen fun q v =>
      match a.type.presentation with
      | .handle =>
        (q.callHandleTable a.cType (.get v)).andThen fun q held =>
          (q.readArguments rest).andThen fun q (values, handles) =>
            .done q (held :: values, (a.cType, v) :: handles)
      | _ =>
        (q.readArguments rest).andThen fun q (values, handles) => .done q (v :: values, handles)

/-- The call of a command's handler, if there is one, and its answer. -/
def callNative (name : String) (values : List Value) : Step Value :=
  match q.native.handler? name with
  | none => .done (q.report .debug ("no handler for " ++ name)) .absent
  | some handler =>
    let call : Call := ⟨name, values⟩
    let called := { q with calls := q.calls ++ [call] }
    match handler q.calls call with
    | .ok v => .done called v
    | .error e => .failed called (.handler e)

/-- A number in at least four hexadecimal characters, sign included. -/
def hexCode (n : Int) : String :=
  let digits := Nat.toDigits 16 n.natAbs
  let sign := if n < 0 then ['-'] else []
  String.ofList (sign ++ List.replicate (4 - sign.length - digits.length) '0' ++ digits)

/-- The queue after looking for an error behind a command. -/
def lookForError (name : String) : Step Unit :=
  match q.native.errorCode? with
  | none => .done q ()
  | some look =>
    match look name with
    | .error e => .failed q (.handler e)
    | .ok code =>
      if code = 0 then .done q ()
      else .done (q.report .warning (name ++ " failed with GL error 0x" ++ hexCode code)) ()

/-- The queue with slots given free. -/
def release (q : CommandQueue) (handles : List (String × Value)) : Step Unit :=
  Outcome.runAll (fun q (handle : String × Value) =>
    (q.callHandleTable handle.1 (.destroy handle.2)).andThen fun q _ => .done q ()) q handles

/-- The handle of the object that a command makes. -/
def readReserved (c : Command) : Step (Option (ResourceKind × Value)) :=
  match c.creates with
  | none => .done q none
  | some kind => (q.read .handle).andThen fun q handle => .done q (some (kind, handle))

/-- The queue with the answer of a handler in the slot that waits for it. -/
def store (reserved : Option (ResourceKind × Value)) (answer : Value) : Step Unit :=
  match reserved with
  | none => .done q ()
  | some (kind, handle) =>
    (q.callTable kind (.set handle answer)).andThen fun q _ => .done q ()

/-- The queue after executing a command whose id has been read. -/
def execute (c : Command) : Step Unit :=
  (q.readArguments c.arguments).andThen fun q (values, handles) =>
    (q.readReserved c).andThen fun q reserved =>
      (q.callNative c.shortName values).andThen fun q answer =>
        (q.lookForError c.shortName).andThen fun q _ =>
          (q.store reserved answer).andThen fun q _ =>
            if c.destroys.isSome then q.release handles else .done q ()

/-- The queue after reading the id of a command and executing it. -/
def executeNext : Step Unit :=
  (q.read q.idType).andThen fun q v =>
    let id := v.int?.getD 0
    match q.commands[id.toNat]? with
    | some c => q.execute c
    | none => .failed q.reset (.unknownCommand id)

/-- The queue after executing commands as long as there are any, at most `fuel` of them; the answer
is `count` and how many more they were. -/
def drain (q : CommandQueue) (count : Nat) : Nat → Step Nat
  | 0 => .done q count
  | fuel + 1 =>
    if q.buffer.hasCommands then
      q.executeNext.andThen fun q _ => drain q (count + 1) fuel
    else .done q count

/-- The queue after executing everything; the answer is how many commands there were. Every command
takes at least the byte of its id. -/
def process : Step Nat :=
  (q.drain 0 (q.buffer.writeCursor - q.buffer.readCursor)).andThen fun q count =>
    .done q.reset count

end CommandQueue

end CommandStream
