import CommandStream.Keyed
import CommandStream.Value

/-!
# The native side

What executes commands: a handler per command, which sees the calls made so far, and the errors that
are found behind a command.
-/

namespace CommandStream

/-- A call of a handler. -/
structure Call where
  command : String
  arguments : List Value

/-- Reasons for which a handler fails, or a look for an error behind a command. -/
inductive HandlerError where
  | raised (message : String)
  | noSuchArgument
  /-- A cycle of answers without answers. -/
  | noAnswers

/-- A handler: its answer to the last of some calls. -/
abbrev Handler := List Call → Call → Except HandlerError Value

/-- The handlers of commands, and the error codes found behind commands if anyone looks; a look can
fail. -/
structure NativeSide where
  handler? : String → Option Handler
  errorCode? : Option (String → Except HandlerError Int)

/-- Handlers that answer by a plan. -/
inductive Response where
  | value (v : Value)
  | argument (index : Int)
  /-- One value per call, in turn. -/
  | cycle (values : List Value)
  | failure (message : String)

namespace Response

/-- The item that a number stands for in a list, counted from the end if it is negative. -/
def item? (items : List Value) (index : Int) : Option Value :=
  if 0 ≤ index then items[index.toNat]?
  else if -index ≤ items.length then items[(items.length + index).toNat]?
  else none

/-- The handler of a response. `before` holds the earlier calls. -/
def handler : Response → Handler
  | value v, _, _ => .ok v
  | argument index, _, call =>
    match item? call.arguments index with
    | some v => .ok v
    | none => .error .noSuchArgument
  | cycle values, before, call =>
    let turn := before.countP fun earlier => earlier.command == call.command
    match values[turn % values.length]? with
    | some v => .ok v
    | none => .error .noAnswers
  | failure message, _, _ => .error (.raised message)

end Response

/-- The native side with planned handlers and error codes; commands without a code have no error. -/
def NativeSide.ofPlan (responses : Keyed Response) (codes : Option (Keyed Int)) : NativeSide :=
  { handler? := fun command => (Keyed.find? responses command).map Response.handler
    errorCode? := codes.map fun codes command => .ok ((Keyed.find? codes command).getD 0) }

end CommandStream
