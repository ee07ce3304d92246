import CommandStream.Proofs.Failure
import CommandStream.Proofs.Queue.Backlog
import Mathlib.Data.List.Induction

/-!
# Idle and draining

The state of a queue is set apart from the cursors of its buffer: draining before anything of a command is written, idle
with the buffer cleared once everything is executed or an unknown id is met. Every other failure leaves the state as it
was, between the commands and in the middle of one. So an idle queue has nothing to execute, whatever happened to it.
-/

namespace CommandStream
open Wire

/-- Failures to find a command or to fit values to it. -/
def QueueError.OfLookup : QueueError → Prop
  | unknownName _ | wrongCount _ _ _ | unknownCommand _ => True
  | _ => False

namespace CommandQueue

/-- A queue with empty tables and an empty buffer. -/
def fresh (commands : List Command) (idType : WireType) (native : NativeSide) (kinds : List ResourceKind) :
    CommandQueue where
  commands := commands
  idType := idType
  native := native
  resources := .ofKinds kinds
  buffer := .empty
  state := .idle
  calls := []
  log := []

/-- The queue of an emitter is fresh. -/
theorem fresh_of_ofEmitter {e : Emitter} {native : NativeSide} {q : CommandQueue} (made : ofEmitter e native = .ok q) :
    ∃ commands, q = fresh commands e.idWidth.wireType native e.overrides.kinds := by
  obtain ⟨commands, -, made⟩ := bind_ok made
  cases made
  exact ⟨commands, rfl⟩

/-! ## Steps within a command -/

/-- An operation that leaves the queue in a state, and does not fail for want of a command. -/
structure Leaves {α : Type} (o : Step α) (s : QueueState) : Prop where
  state : o.state.state = s
  found : ∀ e, o.answer = .error e → ¬ e.OfLookup

section Leaves

variable {α β : Type} {s : QueueState} {q : CommandQueue}

theorem leaves_done (a : α) : Leaves (.done q a) q.state :=
  ⟨rfl, fun _ failed => nomatch failed⟩

/-- A failure is the failure of everything that would have followed. -/
theorem Leaves.failed {e : QueueError} (first : Leaves (.failed q e : Step α) s) : Leaves (.failed q e : Step β) s := by
  refine ⟨first.state, fun cause answer => ?_⟩
  cases answer
  exact first.found e rfl

theorem Leaves.andThen {o : Step α} {next : CommandQueue → α → Step β} (first : Leaves o s)
    (rest : ∀ q a, q.state = s → Leaves (next q a) s) : Leaves (o.andThen next) s := by
  obtain ⟨q, a, rfl⟩ | ⟨q, e, rfl⟩ := o.done_or_failed
  · exact rest q a first.state
  · exact first.failed

theorem leaves_write (t : WireType) (v : Value) : Leaves (q.write t v) q.state := by
  refine ⟨rfl, fun e failed => ?_⟩
  obtain ⟨cause, -, rfl⟩ := Outcome.within_error failed
  exact id

theorem leaves_callTable (kind : ResourceKind) (call : SlotCall) : Leaves (q.callTable kind call) q.state := by
  refine ⟨rfl, fun e failed => ?_⟩
  obtain ⟨cause, -, rfl⟩ := Outcome.within_error failed
  exact id

theorem leaves_callHandleTable (handleType : String) (call : SlotCall) :
    Leaves (q.callHandleTable handleType call) q.state := by
  refine ⟨rfl, fun e failed => ?_⟩
  obtain ⟨cause, -, rfl⟩ := Outcome.within_error failed
  exact id

theorem leaves_read (t : WireType) : Leaves (q.read t) q.state := by
  unfold read
  split
  · exact leaves_done (q := { q with buffer := _ }) _
  · refine ⟨rfl, fun e failed => ?_⟩
    cases failed
    exact id

theorem leaves_callNative (name : String) (values : List Value) : Leaves (q.callNative name values) q.state := by
  unfold callNative
  split
  · exact leaves_done (q := q.report .debug _) _
  · dsimp only
    split
    · exact leaves_done (q := { q with calls := _ }) _
    · refine ⟨rfl, fun e failed => ?_⟩
      cases failed
      exact id

theorem leaves_lookForError (name : String) : Leaves (q.lookForError name) q.state := by
  unfold lookForError
  split
  · exact leaves_done ()
  split
  · refine ⟨rfl, fun e failed => ?_⟩
    cases failed
    exact id
  split
  · exact leaves_done ()
  · exact leaves_done (q := q.report .warning _) ()

/-! ### Enqueuing -/

theorem leaves_writeArguments (same : q.state = s) (arguments : List WireArgument) (values : List Value) :
    Leaves (q.writeArguments arguments values) s := by
  induction arguments generalizing q values with
  | nil => exact same ▸ leaves_done ()
  | cons a arguments ih =>
    cases values with
    | nil => exact same ▸ leaves_done ()
    | cons v values => exact (same ▸ leaves_write a.type v).andThen fun _ _ same => ih same values

theorem leaves_reserve (same : q.state = s) (kind : ResourceKind) : Leaves (q.reserve kind) s :=
  (same ▸ leaves_callTable kind _).andThen fun _ handle same =>
    (same ▸ leaves_write .handle handle).andThen fun _ _ same => same ▸ leaves_done handle

/-- Whatever becomes of a command that is found and has its values, the queue is draining. -/
theorem leaves_enqueue {name : String} {values : List Value} {c : Command} (found : q.command? name = some c)
    (count : values.length = c.arguments.length) : Leaves (q.enqueue name values) .draining := by
  rw [enqueue, found]
  simp only [ne_eq, count, not_true_eq_false, if_false]
  refine (leaves_write (q := { q with state := .draining }) _ _).andThen fun q _ same => ?_
  refine (leaves_writeArguments same _ _).andThen fun q _ same => ?_
  split
  · exact leaves_reserve same _
  · exact same ▸ leaves_done _

/-! ### Executing -/

theorem leaves_readArguments (same : q.state = s) (arguments : List WireArgument) :
    Leaves (q.readArguments arguments) s := by
  induction arguments generalizing q with
  | nil => exact same ▸ leaves_done _
  | cons a rest ih =>
    rw [readArguments]
    refine (same ▸ leaves_read a.type).andThen fun q v same => ?_
    split
    · exact (same ▸ leaves_callHandleTable a.cType _).andThen fun _ _ same =>
        (ih same).andThen fun _ _ same => same ▸ leaves_done _
    · exact (ih same).andThen fun _ _ same => same ▸ leaves_done _

theorem leaves_readReserved (same : q.state = s) (c : Command) : Leaves (q.readReserved c) s := by
  unfold readReserved
  split
  · exact same ▸ leaves_done _
  · exact (same ▸ leaves_read .handle).andThen fun _ _ same => same ▸ leaves_done _

theorem leaves_store (same : q.state = s) (reserved : Option (ResourceKind × Value)) (answer : Value) :
    Leaves (q.store reserved answer) s := by
  unfold store
  split
  · exact same ▸ leaves_done _
  · exact (same ▸ leaves_callTable _ _).andThen fun _ _ same => same ▸ leaves_done _

theorem leaves_release (same : q.state = s) (handles : List (String × Value)) : Leaves (q.release handles) s := by
  unfold release
  induction handles generalizing q with
  | nil => exact same ▸ leaves_done _
  | cons handle rest ih =>
    rw [Outcome.runAll]
    refine Leaves.andThen ?_ fun q _ same => ih same
    exact (same ▸ leaves_callHandleTable handle.1 _).andThen fun _ _ same => same ▸ leaves_done _

theorem leaves_execute (same : q.state = s) (c : Command) : Leaves (q.execute c) s := by
  refine (leaves_readArguments same c.arguments).andThen fun q held same => ?_
  refine (leaves_readReserved same c).andThen fun q reserved same => ?_
  refine (same ▸ leaves_callNative c.shortName held.1).andThen fun q answer same => ?_
  refine (same ▸ leaves_lookForError c.shortName).andThen fun q _ same => ?_
  refine (leaves_store same reserved answer).andThen fun q _ same => ?_
  split
  · exact leaves_release same held.2
  · exact same ▸ leaves_done _

end Leaves

/-! ## Whole operations -/

variable {α : Type} {s : QueueState} {q : CommandQueue}

/-- An operation that leaves the queue in a state, or meets an unknown id and clears the queue. -/
def LeavesOrClears (o : Step α) (s : QueueState) : Prop :=
  Leaves o s ∨ ∃ (stopped : CommandQueue) (id : Int), o = .failed stopped.reset (.unknownCommand id)

theorem leavesOrClears_executeNext (same : q.state = s) : LeavesOrClears q.executeNext s := by
  rw [executeNext]
  have first : Leaves (q.read q.idType) s := same ▸ leaves_read q.idType
  obtain ⟨q₁, v, done⟩ | ⟨q₁, e, failed⟩ := (q.read q.idType).done_or_failed
  · rw [done] at first ⊢
    rw [Outcome.done_andThen]
    dsimp only
    split
    · exact .inl (leaves_execute first.state _)
    · exact .inr ⟨q₁, _, rfl⟩
  · rw [failed] at first ⊢
    exact .inl first.failed

theorem leavesOrClears_drain (same : q.state = s) (count fuel : Nat) : LeavesOrClears (q.drain count fuel) s := by
  induction fuel generalizing q count with
  | zero => exact .inl (same ▸ leaves_done count)
  | succ fuel ih =>
    rw [drain]
    split
    · obtain first | ⟨stopped, id, failed⟩ := leavesOrClears_executeNext same
      · obtain ⟨q₁, _, done⟩ | ⟨q₁, e, failed⟩ := q.executeNext.done_or_failed
        · rw [done] at first ⊢
          exact ih first.state (count + 1)
        · rw [failed] at first ⊢
          exact .inl first.failed
      · rw [failed]
        exact .inr ⟨stopped, id, rfl⟩
    · exact .inl (same ▸ leaves_done count)

/-- Answers behind which nothing waits: everything was executed, or an unknown id met. -/
def Clears (answer : Except QueueError Nat) : Prop :=
  (∃ count, answer = .ok count) ∨ ∃ id, answer = .error (.unknownCommand id)

/-- Executing clears the queue, or fails on the way and leaves its state. -/
theorem process_cases (q : CommandQueue) :
    (Clears q.process.answer ∧ ∃ stopped : CommandQueue, q.process.state = stopped.reset) ∨
    (¬ Clears q.process.answer ∧ q.process.state.state = q.state) := by
  rw [process]
  generalize q.buffer.writeCursor - q.buffer.readCursor = fuel
  obtain left | ⟨stopped, id, failed⟩ := leavesOrClears_drain (q := q) rfl 0 fuel
  · obtain ⟨q₁, count, done⟩ | ⟨q₁, e, failed⟩ := (q.drain 0 fuel).done_or_failed
    · rw [done]
      exact .inl ⟨.inl ⟨count, rfl⟩, q₁, rfl⟩
    · rw [failed] at left ⊢
      refine .inr ⟨?_, left.state⟩
      rintro (⟨count, answer⟩ | ⟨id, answer⟩)
      · cases answer
      · exact left.found _ answer trivial
  · rw [failed]
    exact .inl ⟨.inr ⟨id, rfl⟩, stopped, rfl⟩

/-- A queue without bytes that is idle has nothing to execute, and stays as it is. -/
theorem process_of_cleared (idle : q.state = .idle) (empty : q.buffer = .empty) : q.process = .done q 0 := by
  obtain ⟨commands, idType, native, resources, buffer, state, calls, log⟩ := q
  cases idle
  cases empty
  rfl

/-- An idle queue has an empty buffer. -/
def Settled (q : CommandQueue) : Prop :=
  q.state = .idle → q.buffer = .empty

/-- An operation that fails for want of a command, or of values for it. -/
def Refused (o : Step α) : Prop :=
  ∃ e : QueueError, e.OfLookup ∧ o.answer = .error e

/-- A command without a name or with another number of values is refused before anything happens. -/
theorem enqueue_refused {name : String} {values : List Value}
    (unfit : ∀ c, q.command? name = some c → values.length ≠ c.arguments.length) :
    Refused (q.enqueue name values) ∧ (q.enqueue name values).state = q := by
  cases found : q.command? name with
  | none =>
    rw [enqueue, found]
    exact ⟨⟨.unknownName name, trivial, rfl⟩, rfl⟩
  | some c =>
    rw [enqueue, found]
    simp only [unfit c found, ne_eq, not_false_eq_true, if_true]
    exact ⟨⟨.wrongCount name c.arguments.length values.length, trivial, rfl⟩, rfl⟩

theorem refused_enqueue_iff (q : CommandQueue) (name : String) (values : List Value) :
    Refused (q.enqueue name values) ↔ ∀ c, q.command? name = some c → values.length ≠ c.arguments.length := by
  refine ⟨?_, fun unfit => (enqueue_refused unfit).1⟩
  rintro ⟨e, lookup, answer⟩ c found count
  exact (leaves_enqueue found count).found e answer lookup

theorem state_of_refused {name : String} {values : List Value} (refused : Refused (q.enqueue name values)) :
    (q.enqueue name values).state = q :=
  (enqueue_refused ((q.refused_enqueue_iff name values).mp refused)).2

/-- A command that is not refused leaves the queue draining, whatever becomes of its values. -/
theorem draining_of_not_refused {name : String} {values : List Value} (taken : ¬ Refused (q.enqueue name values)) :
    (q.enqueue name values).state.state = .draining := by
  by_contra resting
  refine taken ((q.refused_enqueue_iff name values).mpr fun c found count => ?_)
  exact resting (leaves_enqueue found count).state

theorem Settled.enqueue (settled : q.Settled) (name : String) (values : List Value) :
    (q.enqueue name values).state.Settled := by
  by_cases refused : Refused (q.enqueue name values)
  · rw [state_of_refused refused]
    exact settled
  · intro idle
    rw [draining_of_not_refused refused] at idle
    cases idle

theorem Settled.process (settled : q.Settled) : q.process.state.Settled := by
  obtain ⟨-, stopped, cleared⟩ | ⟨stuck, same⟩ := q.process_cases
  · rw [cleared]
    exact fun _ => rfl
  · -- executing fails on the way only where there is a way, and an idle queue has none
    intro idle
    have before := same.symm.trans idle
    rw [process_of_cleared before (settled before)] at stuck
    exact absurd (.inl ⟨0, rfl⟩) stuck

theorem Settled.perform (settled : q.Settled) (o : QueueOperation) : (q.perform o).state.Settled := by
  cases o with
  | enqueue name values =>
    rw [CommandQueue.perform, Outcome.state_andThen_done _ QueueReply.accepted]
    exact settled.enqueue name values
  | process =>
    rw [CommandQueue.perform, Outcome.state_andThen_done _ QueueReply.executed]
    exact settled.process

theorem Settled.after (settled : q.Settled) (operations : List QueueOperation) : (q.after operations).Settled := by
  induction operations using List.reverseRecOn with
  | nil => exact settled
  | append_singleton operations o ih =>
    rw [after_snoc]
    exact ih.perform o

/-- Executing again and again finds nothing where nothing waits. -/
theorem runEach_process_of_cleared (idle : q.state = .idle) (empty : q.buffer = .empty) (times : Nat) :
    Outcome.runEach CommandQueue.perform q (List.replicate times .process) =
      (List.replicate times (.ok (.executed 0)), q) := by
  have once : q.perform .process = .done q (.executed 0) := by
    rw [CommandQueue.perform, process_of_cleared idle empty, Outcome.done_andThen]
  induction times with
  | zero => rfl
  | succ times ih =>
    simp only [List.replicate_succ, Outcome.runEach, once, Outcome.state_done, Outcome.answer_done, ih]

/-- **Idle means empty.** Along every run of a new queue, whatever its commands, its native side and its kinds, and whatever
fails: an idle queue has an empty buffer, so a queue with something to execute is draining. A command is refused, with
the queue as it was, exactly if there is none of its name with so many arguments; otherwise the queue is draining.
Executing makes the queue idle exactly if it ends or meets an unknown id, so it is still draining if a handler fails or a
look for an error. Once it has ended, executing again and again answers zero and leaves the calls, the tables and everything
else. -/
theorem idle_means_empty (commands : List Command) (idType : WireType) (native : NativeSide) (kinds : List ResourceKind)
    (operations : List QueueOperation) : let q := (fresh commands idType native kinds).after operations
    (q.state = .idle → q.buffer = ⟨[], 0, 0⟩) ∧
    (q.buffer.hasCommands → q.state = .draining) ∧
    (∀ name values,
      (Refused (q.enqueue name values) ↔ ∀ c, q.command? name = some c → values.length ≠ c.arguments.length) ∧
      (Refused (q.enqueue name values) → (q.enqueue name values).state = q) ∧
      (¬ Refused (q.enqueue name values) → (q.enqueue name values).state.state = .draining)) ∧
    (Clears q.process.answer → q.process.state.state = .idle ∧ q.process.state.buffer = ⟨[], 0, 0⟩) ∧
    (q.process.state.state = .idle → Clears q.process.answer) ∧
    (∀ cause, q.process.answer = .error (.handler cause) → q.process.state.state = .draining) ∧
    ((∃ count, q.process.answer = .ok count) → ∀ times,
      Outcome.runEach CommandQueue.perform q.process.state (List.replicate times .process) =
        (List.replicate times (.ok (.executed 0)), q.process.state)) := by
  intro q
  have settled : q.Settled := Settled.after (fun _ => rfl) operations
  have cleared : Clears q.process.answer → q.process.state.state = .idle ∧ q.process.state.buffer = .empty := by
    intro clears
    obtain ⟨-, stopped, reset⟩ | ⟨stuck, -⟩ := q.process_cases
    · rw [reset]
      exact ⟨rfl, rfl⟩
    · exact absurd clears stuck
  have clears : q.process.state.state = .idle → Clears q.process.answer := by
    intro idle
    obtain ⟨clears, -⟩ | ⟨stuck, same⟩ := q.process_cases
    · exact clears
    · have before := same.symm.trans idle
      rw [process_of_cleared before (settled before)]
      exact .inl ⟨0, rfl⟩
  refine ⟨settled, ?_, ?_, cleared, clears, ?_, ?_⟩
  · intro waiting
    cases state : q.state with
    | draining => rfl
    | idle =>
      rw [settled state] at waiting
      cases waiting
  · exact fun name values => ⟨q.refused_enqueue_iff name values, state_of_refused, draining_of_not_refused⟩
  · intro cause failed
    cases state : q.process.state.state with
    | draining => rfl
    | idle =>
      rcases clears state with ⟨count, answer⟩ | ⟨id, answer⟩
      · rw [failed] at answer
        cases answer
      · rw [failed] at answer
        cases answer
  · rintro ⟨count, answer⟩ times
    obtain ⟨idle, empty⟩ := cleared (.inl ⟨count, answer⟩)
    exact runEach_process_of_cleared idle empty times

end CommandQueue

end CommandStream
