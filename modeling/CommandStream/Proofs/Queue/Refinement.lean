import CommandStream.Proofs.Emission.Ids
import CommandStream.Proofs.Queue.Dispatch

/-!
# Dispatch as first in, first out

A queue made from an emitter whose handle arguments all have tables does what its backlog does, as long
as commands are enqueued successfully and no handle opens nothing: the same handlers are called with the
same arguments, the tables hold the same, and only handlers make processing fail.
-/

namespace CommandStream
open Wire

/-- Every argument that travels as a handle has the handle type of a kind; as for wire types, blanks
around its type are of no account. -/
def Emitter.HandlesKnown (e : Emitter) : Prop :=
  ∀ f ∈ e.functions, ∀ a ∈ f.type.arguments, finishesWith (trimmed a.type) "Handle" = true →
    ∃ kind ∈ e.overrides.kinds, kind.handleType = a.type

/-- An operation that a queue takes well: enqueuing succeeds, and processing meets no handle that opens
nothing. -/
def QueueOperation.Permitted (answer : Except QueueError QueueReply) : QueueOperation → Prop
  | enqueue _ _ => ∃ reply, answer = .ok reply
  | process => ∀ e, answer = .error e → ¬ e.Refusal

namespace Backlog

variable {a : Backlog} {t : WireType} {b : Buffer} {s : QueueState} {q : CommandQueue}

/-! ## One operation -/

/-- Processing fails as expected. -/
theorem perform_process_expected (regular : a.Regular) {e : QueueError}
    (failed : (a.perform .process).answer = .error e) : e.Expected := by
  rcases Outcome.andThen_error failed with failed | ⟨_, _, failed⟩
  · exact drain_expected regular regular.fits failed
  · cases failed

/-- A queue whose buffer carries what waits answers as its backlog does. -/
theorem queue_perform (orderly : a.Orderly) (ids : t.CarriesIds)
    (carries : b.Carries (a.pending.flatMap (Pending.items t))) (o : QueueOperation)
    (accepted : ∀ name values, o = .enqueue name values → ∃ reply, ((a.queue t b s).perform o).answer = .ok reply) :
    ∃ b' s', (a.queue t b s).perform o = Step.queue (a.perform o) t b' s' ∧
      b'.Carries (a.leftBehind o ++ (a.perform o).state.pending.flatMap (Pending.items t)) := by
  cases o with
  | enqueue name values =>
    obtain ⟨reply, answered⟩ := accepted name values rfl
    obtain ⟨q₁, handle, enqueued, -⟩ := Outcome.andThen_ok answered
    obtain ⟨b', same, carries⟩ := queue_enqueue orderly ids carries (congrArg Outcome.answer enqueued)
    refine ⟨b', .draining, ?_, ?_⟩
    · simp only [CommandQueue.perform, perform, same]
      exact step_queue_andThen _ fun _ _ => rfl
    · rw [perform, Outcome.state_andThen_done]
      exact carries
  | process =>
    obtain ⟨b', s', same, carries, -⟩ := queue_process (s := s) orderly ids.size_pos carries
    refine ⟨b', s', ?_, ?_⟩
    · simp only [CommandQueue.perform, perform, same]
      exact step_queue_andThen _ fun _ _ => rfl
    · rw [perform, Outcome.state_andThen_done]
      exact carries

/-- A permitted operation takes all of the commands that it executes out of the buffer. -/
theorem leftBehind_of_permitted (regular : a.Regular) {o : QueueOperation} (permitted : o.Permitted (a.perform o).answer) :
    a.leftBehind o = [] := by
  cases o with
  | enqueue name values => rfl
  | process =>
    refine leftover_of_answered 0 fun cause refused => ?_
    have failed : (a.perform .process).answer = .error (.resource cause) := Outcome.answer_andThen_of_error refused
    rcases perform_process_expected regular failed with refusal | ⟨_, equal⟩
    · exact permitted _ failed refusal
    · cases equal

/-! ## Runs -/

/-- A queue whose buffer carries what waits in a backlog, and that is like it otherwise. -/
def Serves (t : WireType) (q : CommandQueue) (a : Backlog) : Prop :=
  ∃ b s, q = a.queue t b s ∧ b.Carries (a.pending.flatMap (Pending.items t))

theorem Serves.answer (orderly : a.Orderly) (ids : t.CarriesIds) (serves : Serves t q a) {o : QueueOperation}
    (accepted : ∀ name values, o = .enqueue name values → ∃ reply, (q.perform o).answer = .ok reply) :
    (q.perform o).answer = (a.perform o).answer ∧ (q.perform o).state.calls = (a.perform o).state.calls := by
  obtain ⟨b, s, rfl, carries⟩ := serves
  obtain ⟨b', s', same, -⟩ := queue_perform (s := s) orderly ids carries o accepted
  rw [same]
  exact ⟨mapError_id _, rfl⟩

/-- A queue still serves its backlog behind an operation that leaves nothing behind. -/
theorem Serves.next (orderly : a.Orderly) (ids : t.CarriesIds) (serves : Serves t q a) {o : QueueOperation}
    (accepted : ∀ name values, o = .enqueue name values → ∃ reply, (q.perform o).answer = .ok reply)
    (whole : a.leftBehind o = []) : Serves t (q.perform o).state (a.perform o).state := by
  obtain ⟨b, s, rfl, carries⟩ := serves
  obtain ⟨b', s', same, carries⟩ := queue_perform (s := s) orderly ids carries o accepted
  rw [whole] at carries
  exact ⟨b', s', congrArg Outcome.state same, carries⟩

theorem Serves.step (regular : a.Regular) (ids : t.CarriesIds) (serves : Serves t q a) {o : QueueOperation}
    (permitted : o.Permitted (q.perform o).answer) :
    (q.perform o).answer = (a.perform o).answer ∧ Serves t (q.perform o).state (a.perform o).state := by
  have accepted : ∀ name values, o = .enqueue name values → ∃ reply, (q.perform o).answer = .ok reply := by
    rintro name values rfl
    exact permitted
  obtain ⟨answers, -⟩ := serves.answer regular.toOrderly ids accepted
  rw [answers] at permitted
  exact ⟨answers, serves.next regular.toOrderly ids accepted (leftBehind_of_permitted regular permitted)⟩

/-- A queue serves its backlog along every permitted run. -/
theorem Serves.run (ids : t.CarriesIds) {operations : List QueueOperation} (regular : a.Regular) (serves : Serves t q a)
    (permitted : ∀ x ∈ operations.zip (Outcome.runEach CommandQueue.perform q operations).1, x.1.Permitted x.2) :
    (Outcome.runEach CommandQueue.perform q operations).1 = (Outcome.runEach perform a operations).1 ∧
      Serves t (Outcome.runEach CommandQueue.perform q operations).2 (Outcome.runEach perform a operations).2 ∧
      (Outcome.runEach perform a operations).2.Regular := by
  induction operations generalizing q a with
  | nil => exact ⟨rfl, serves, regular⟩
  | cons o rest ih =>
    obtain ⟨answers, serves⟩ := serves.step regular ids (permitted (o, (q.perform o).answer) List.mem_cons_self)
    obtain ⟨others, serves, kept⟩ :=
      ih (regular.perform o) serves fun x member => permitted x (List.mem_cons_of_mem _ member)
    refine ⟨?_, serves, kept⟩
    simp only [Outcome.runEach, answers, others]

/-- Every answer along a permitted run is a success or the failure of a handler. -/
theorem Serves.answers (ids : t.CarriesIds) {operations : List QueueOperation} (regular : a.Regular)
    (serves : Serves t q a)
    (permitted : ∀ x ∈ operations.zip (Outcome.runEach CommandQueue.perform q operations).1, x.1.Permitted x.2) :
    ∀ answer ∈ (Outcome.runEach CommandQueue.perform q operations).1,
      (∃ reply, answer = .ok reply) ∨ ∃ cause, answer = .error (.handler cause) := by
  induction operations generalizing q a with
  | nil => simp [Outcome.runEach]
  | cons o rest ih =>
    have first := permitted (o, (q.perform o).answer) List.mem_cons_self
    obtain ⟨answers, next⟩ := serves.step regular ids first
    intro answer member
    rcases List.mem_cons.mp member with rfl | member
    · cases o with
      | enqueue name values => exact .inl first
      | process =>
        cases answer : (q.perform .process).answer with
        | ok reply => exact .inl ⟨reply, rfl⟩
        | error e =>
          rcases perform_process_expected regular (answers.symm.trans answer) with refusal | ⟨cause, rfl⟩
          · exact absurd refusal (first e answer)
          · exact .inr ⟨cause, rfl⟩
    · exact ih (regular.perform o) next (fun x member => permitted x (List.mem_cons_of_mem _ member)) answer member

/-! ## The queue of an emitter -/

variable {e : Emitter} {native : NativeSide}

theorem argument_of_command {f : Function} {id : Nat} {rules : List Rule} {enumTypes : List String} {c : Command}
    (built : Command.ofFunction id f rules enumTypes = .ok c) {x : WireArgument} (argument : x ∈ c.arguments) :
    ∃ y ∈ f.type.arguments, x.cType = y.type ∧ wireTypeFor y.type enumTypes = .ok x.type := by
  obtain ⟨arguments, types, built⟩ := bind_ok built
  cases built
  obtain ⟨y, member, built⟩ := mem_of_mapM_ok types argument
  obtain ⟨type, found, built⟩ := bind_ok built
  cases built
  exact ⟨y, member, rfl, found⟩

/-- A queue made from an emitter serves an idle backlog, and each of its arguments has the wire type of an argument
of its function. -/
theorem orderly_ofEmitter (made : CommandQueue.ofEmitter e native = .ok q) :
    ((ofIdle q).Orderly ∧ q.idType.CarriesIds ∧ Serves q.idType q (ofIdle q)) ∧
      q.resources = .ofKinds e.overrides.kinds ∧
      ∀ c ∈ q.commands, ∀ x ∈ c.arguments, ∃ f ∈ e.functions, ∃ y ∈ f.type.arguments,
        x.cType = y.type ∧ wireTypeFor y.type e.registry.enumTypes = .ok x.type := by
  obtain ⟨commands, listed, made⟩ := bind_ok made
  cases made
  have each : ∀ c ∈ commands, ∀ x ∈ c.arguments, ∃ f ∈ e.functions, ∃ y ∈ f.type.arguments,
      x.cType = y.type ∧ wireTypeFor y.type e.registry.enumTypes = .ok x.type := by
    intro c member x argument
    obtain ⟨i, at_⟩ := List.mem_iff_getElem?.mp member
    obtain ⟨f, found, built⟩ := Emitter.command_of_emitter listed at_
    obtain ⟨y, member, type, wire⟩ := argument_of_command built argument
    exact ⟨f, List.mem_of_getElem? found, y, member, type, wire⟩
  refine ⟨⟨?_, WireType.carriesIds _, .empty, .idle, rfl, Buffer.carries_empty⟩, rfl, each⟩
  constructor
  · intro i c at_
    obtain ⟨f, -, built⟩ := Emitter.command_of_emitter listed at_
    obtain ⟨arguments, -, built⟩ := bind_ok built
    cases built
    rfl
  · intro c member x argument
    obtain ⟨f, -, y, -, -, wire⟩ := each c member x argument
    exact (single_of_wireTypeFor wire).1
  · exact ResourceTables.distinct_ofKinds _
  · intro p waits
    cases waits

theorem regular_ofEmitter (made : CommandQueue.ofEmitter e native = .ok q) (known : e.HandlesKnown) :
    (ofIdle q).Regular ∧ q.idType.CarriesIds ∧ Serves q.idType q (ofIdle q) := by
  obtain ⟨⟨orderly, ids, serves⟩, tables, each⟩ := orderly_ofEmitter made
  refine ⟨⟨orderly, ?_⟩, ids, serves⟩
  intro c member x argument isHandle
  obtain ⟨f, function, y, member, type, wire⟩ := each c member x argument
  obtain ⟨kind, listed, named⟩ := known f function y member ((single_of_wireTypeFor wire).2 isHandle)
  show q.resources.Knows x.cType
  rw [tables, type, ← named]
  exact ResourceTables.knows_ofKinds listed

end Backlog

/-- Buffered dispatch is first in, first out. A permitted run of a queue gives the answers of its backlog,
with the same handlers called in the same order with the same arguments, the same tables and the same
reports behind it; nothing but a handler fails; and integers in the range of their type arrive as they are. -/
theorem CommandQueue.dispatches_in_order {e : Emitter} {native : NativeSide} {q : CommandQueue}
    (made : CommandQueue.ofEmitter e native = .ok q) (known : e.HandlesKnown) {operations : List QueueOperation}
    (permitted : ∀ x ∈ operations.zip (Outcome.runEach CommandQueue.perform q operations).1, x.1.Permitted x.2) :
    let run := Outcome.runEach CommandQueue.perform q operations
    let ideal := Outcome.runEach Backlog.perform (.ofIdle q) operations
    (run.1 = ideal.1 ∧ run.2.calls = ideal.2.calls ∧ run.2.resources = ideal.2.resources ∧ run.2.log = ideal.2.log) ∧
    (∀ answer ∈ run.1, (∃ reply, answer = .ok reply) ∨ ∃ cause, answer = .error (.handler cause)) ∧
    (∀ c ∈ q.commands, ∀ x ∈ c.arguments, ∀ range, x.type.bounds? = some range → ∀ n, range.1 ≤ n → n ≤ range.2 →
      x.type.delivered (.int n) = .ok (.int n)) := by
  intro run ideal
  obtain ⟨regular, ids, serves⟩ := Backlog.regular_ofEmitter made known
  obtain ⟨answers, ⟨b, s, same, -⟩, -⟩ := Backlog.Serves.run ids regular serves permitted
  refine ⟨⟨answers, congrArg calls same, congrArg resources same, congrArg log same⟩,
    serves.answers ids regular permitted, ?_⟩
  intro c member x argument range bounds n above below
  obtain ⟨kind, single⟩ := regular.single c member x argument
  exact single.delivered_int bounds above below

/-! ## A run -/

namespace Binding

def kind : ResourceKind := ⟨"Buffer", "GLuint", 0⟩

/-- An emitter of two functions: one makes a buffer, the other takes it. -/
def emitter : Emitter where
  registry :=
    { Registry.empty "gl" with
      functions :=
        [("glGenBuffer", ⟨"glGenBuffer", "GenBuffer", "public", ⟨"PFNGLGENBUFFERSPROC", "BufferHandle", false, []⟩⟩),
         ("glBindBuffer", ⟨"glBindBuffer", "BindBuffer", "public",
           ⟨"PFNGLBINDBUFFERPROC", "void", false, [⟨"GLint", "slot", false⟩, ⟨"BufferHandle", "buffer", false⟩]⟩⟩)] }
  overrides :=
    { OverrideTracker.empty with
      rules := [("glGenBuffer", [⟨"glGenBuffers", .generate kind "glGenBuffer" 0⟩])]
      kinds := [kind] }
  space := "gl"
  idWidth := .byte
  unambiguous := by decide

/-- Handlers that answer with the number of calls so far and forty. -/
def native : NativeSide where
  handler? := fun _ => some fun before _ => .ok (.int (before.length + 40))
  errorCode? := none

def queue : CommandQueue where
  commands :=
    [⟨0, "GenBuffer", [], some kind, none⟩,
     ⟨1, "BindBuffer", [⟨"slot", "GLint", .scalar "GLint" "i" (.integer true 4)⟩, ⟨"buffer", "BufferHandle", .handle⟩],
       none, none⟩]
  idType := IdWidth.byte.wireType
  native := native
  resources := .ofKinds [kind]
  buffer := .empty
  state := .idle
  calls := []
  log := []

def operations : List QueueOperation :=
  [.enqueue "GenBuffer" [], .process, .enqueue "BindBuffer" [.int (-3), .handle (.int 1) (.int 0)], .process]

theorem answers : (Outcome.runEach CommandQueue.perform queue operations).1 =
    [.ok (.accepted (.handle (.int 1) (.int 0))), .ok (.executed 1), .ok (.accepted .absent), .ok (.executed 1)] := by
  rfl

/-- The backlog's calls: the second handler gets the number that the first one answered. -/
theorem calls_of_run :
    (Outcome.runEach Backlog.perform (.ofIdle queue) operations).2.calls =
      [⟨"GenBuffer", []⟩, ⟨"BindBuffer", [.int (-3), .int 40]⟩] := by
  have made : CommandQueue.ofEmitter emitter native = .ok queue := rfl
  have known : emitter.HandlesKnown := by
    unfold Emitter.HandlesKnown
    decide
  have permitted : ∀ x ∈ operations.zip (Outcome.runEach CommandQueue.perform queue operations).1,
      x.1.Permitted x.2 := by
    rw [answers]
    simp [operations, QueueOperation.Permitted]
  obtain ⟨⟨-, calls, -, -⟩, -⟩ := CommandQueue.dispatches_in_order made known permitted
  rw [← calls]
  rfl

end Binding

end CommandStream
