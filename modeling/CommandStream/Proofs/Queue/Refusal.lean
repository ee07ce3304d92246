import CommandStream.Proofs.Queue.Refinement

/-!
# Where a refused command leaves the stream

A command is refused as soon as a handle among its arguments opens nothing. The arguments behind this handle and the
handle for the object of the command stay unread, and the buffer is not cleared as it is for an unknown id. So the
consumer stays in step with the producer exactly if the handle was the last thing to read; otherwise it takes what
is left of the command for the id of the next one.
-/

namespace CommandStream
open Wire

namespace Backlog

/-- A run in which every operation takes the commands that it executes out of the buffer as a whole. -/
def InStep (a : Backlog) : List QueueOperation → Prop
  | [] => True
  | o :: rest => a.leftBehind o = [] ∧ (a.perform o).state.InStep rest

variable {a : Backlog} {t : WireType} {q : CommandQueue}

/-- A queue serves its backlog along every run that stays in step, whatever is refused. -/
theorem Serves.inStep_run (ids : t.CarriesIds) {operations : List QueueOperation} (orderly : a.Orderly)
    (serves : Serves t q a)
    (accepted : ∀ x ∈ q.record operations, ∀ name values, x.1 = .enqueue name values → ∃ reply, x.2 = .ok reply)
    (inStep : a.InStep operations) :
    (Outcome.runEach CommandQueue.perform q operations).1 = (Outcome.runEach perform a operations).1 ∧
      Serves t (q.after operations) (Outcome.runEach perform a operations).2 ∧
      (Outcome.runEach perform a operations).2.Orderly := by
  induction operations generalizing q a with
  | nil => exact ⟨rfl, serves, orderly⟩
  | cons o rest ih =>
    obtain ⟨whole, later⟩ := inStep
    have first := accepted (o, (q.perform o).answer) List.mem_cons_self
    obtain ⟨answers, -⟩ := serves.answer orderly ids first
    obtain ⟨others, serves', kept⟩ := ih (orderly.perform o) (serves.next orderly ids first whole)
      (fun x member => accepted x (List.mem_cons_of_mem _ member)) later
    refine ⟨?_, serves', kept⟩
    simp only [Outcome.runEach, answers, others]

end Backlog

theorem lt_extent_cons (start : Nat) (item : WireType × Value) (rest : List (WireType × Value)) (sized : 1 ≤ item.1.size) :
    start < extent start (item :: rest) := by
  have others : start + gap start item.1.alignment + item.1.size ≤ extent start (item :: rest) := le_extent _ rest
  omega

/-- A buffer from which values were taken is cleared, or its read cursor stands behind more of them, only if there are
no more. -/
theorem Buffer.Carries.stands_behind_iff {b : Buffer} {taken left others : List (WireType × Value)}
    (carries : (b.past taken).Carries (left ++ others)) (sized : ∀ item ∈ left, 1 ≤ item.1.size) :
    (b.past taken = .empty ∨ (b.past taken).readCursor = extent b.readCursor (taken ++ left)) ↔ left = [] := by
  have cursor : (b.past taken).readCursor = extent b.readCursor taken := rfl
  rw [extent_append, cursor]
  cases left with
  | nil => exact ⟨fun _ => rfl, fun _ => .inr rfl⟩
  | cons item rest =>
    have first := sized item List.mem_cons_self
    refine ⟨?_, fun none_left => nomatch none_left⟩
    rintro (cleared | stands)
    · have busy := carries.hasCommands_cons first
      rw [cleared] at busy
      cases busy
    · exact absurd stands (Nat.ne_of_lt (lt_extent_cons _ item rest first))

/-- Processing that fails leaves the read cursor behind the commands that were taken off the backlog exactly if
nothing of them is left. -/
theorem Backlog.Serves.cursor_iff {a : Backlog} {t : WireType} {q : CommandQueue} (orderly : a.Orderly)
    (ids : t.CarriesIds) (serves : Serves t q a) {e : QueueError} (failed : (q.perform .process).answer = .error e) :
    ∃ off, a.pending = off ++ (a.perform .process).state.pending ∧
      ((q.perform .process).state.buffer = .empty ∨
          (q.perform .process).state.buffer.readCursor = extent q.buffer.readCursor (off.flatMap (Pending.items t)) ↔
        a.leftBehind .process = []) := by
  obtain ⟨b, s, rfl, carries⟩ := serves
  obtain ⟨b', s', same, carries', stops⟩ := queue_process (s := s) orderly ids.size_pos carries
  have state : ((a.queue t b s).perform .process).state = Backlog.queue a.process.state t b' s' := by
    rw [CommandQueue.perform, Outcome.state_andThen_done, same]
    rfl
  have cause : a.process.answer = .error e := by
    rcases Outcome.andThen_error failed with refused | ⟨_, _, refused⟩
    · rw [same] at refused
      exact (mapError_id _).symm.trans refused
    · cases refused
  obtain ⟨-, off, taken, kept, split, rfl⟩ := stops e cause
  have sized : ∀ item ∈ a.leftover a.pending, 1 ≤ item.1.size := by
    intro item member
    have own : item ∈ off.flatMap (Pending.items t) := split ▸ List.mem_append_right _ member
    obtain ⟨p, waits, member⟩ := List.mem_flatMap.mp own
    have fits := orderly.fits p (kept ▸ List.mem_append_left _ waits)
    exact size_pos_of_fits orderly ids.size_pos fits item member
  refine ⟨off, ?_, ?_⟩
  · rw [Backlog.perform, Outcome.state_andThen_done]
    exact kept
  · rw [state, split]
    exact carries'.stands_behind_iff sized

/-- **Where a refused command leaves the stream.** A queue whose commands were taken out of the buffer as wholes answers
as its backlog does. When processing now meets a handle that opens nothing, the read cursor comes to stand behind the
commands that are no longer waiting exactly if nothing of the refused one is behind the handle, and then processing goes
on with the commands that still wait. -/
theorem CommandQueue.in_step_iff_nothing_unread {e : Emitter} {native : NativeSide} {q : CommandQueue}
    (made : CommandQueue.ofEmitter e native = .ok q) {operations : List QueueOperation}
    (accepted : ∀ x ∈ q.record operations, ∀ name values, x.1 = .enqueue name values → ∃ reply, x.2 = .ok reply)
    (inStep : (Backlog.ofIdle q).InStep operations) :
    let ideal := Outcome.runEach Backlog.perform (.ofIdle q) operations
    let stopped := (q.after operations).perform .process
    let waiting := ideal.2.perform .process
    ((Outcome.runEach CommandQueue.perform q operations).1 = ideal.1 ∧ (q.after operations).calls = ideal.2.calls ∧
      (q.after operations).resources = ideal.2.resources ∧ (q.after operations).log = ideal.2.log) ∧
    ∀ cause, stopped.answer = .error (.resource cause) →
      (∃ off, ideal.2.pending = off ++ waiting.state.pending ∧
        (stopped.state.buffer = .empty ∨
            stopped.state.buffer.readCursor =
              extent (q.after operations).buffer.readCursor (off.flatMap (Pending.items q.idType)) ↔
          ideal.2.leftBehind .process = [])) ∧
      (ideal.2.leftBehind .process = [] →
        (stopped.state.perform .process).answer = (waiting.state.perform .process).answer ∧
        (stopped.state.perform .process).state.calls = (waiting.state.perform .process).state.calls) := by
  intro ideal stopped waiting
  obtain ⟨⟨orderly, ids, serves⟩, -⟩ := Backlog.orderly_ofEmitter made
  obtain ⟨answers, serves, orderly⟩ := serves.inStep_run ids orderly accepted inStep
  refine ⟨⟨answers, ?_⟩, fun cause refused => ⟨serves.cursor_iff orderly ids refused, fun whole => ?_⟩⟩
  · obtain ⟨b, s, same, -⟩ := serves
    rw [same]
    exact ⟨rfl, rfl, rfl⟩
  · have next := serves.next orderly ids (fun _ _ equal => by cases equal) whole
    exact next.answer (orderly.perform .process) ids fun _ _ equal => by cases equal

/-! ## A dead handle -/

namespace DeadBuffer

def kind : ResourceKind := ⟨"Buffer", "GLuint", 0⟩

/-- Functions that make, delete, bind and fill buffers; one takes the handle last and one takes it first. -/
def emitter : Emitter where
  registry :=
    { Registry.empty "gl" with
      functions :=
        [("glGenBuffer", ⟨"glGenBuffer", "GenBuffer", "public", ⟨"PFNGLGENBUFFERSPROC", "BufferHandle", false, []⟩⟩),
         ("glDeleteBuffer", ⟨"glDeleteBuffer", "DeleteBuffer", "public",
           ⟨"PFNGLDELETEBUFFERSPROC", "void", false, [⟨"BufferHandle", "buffer", false⟩]⟩⟩),
         ("glBindBuffer", ⟨"glBindBuffer", "BindBuffer", "public",
           ⟨"PFNGLBINDBUFFERPROC", "void", false, [⟨"GLint", "slot", false⟩, ⟨"BufferHandle", "buffer", false⟩]⟩⟩),
         ("glFillBuffer", ⟨"glFillBuffer", "FillBuffer", "public",
           ⟨"PFNGLFILLBUFFERPROC", "void", false, [⟨"BufferHandle", "buffer", false⟩, ⟨"GLint", "size", false⟩]⟩⟩),
         ("glFinish", ⟨"glFinish", "Finish", "public", ⟨"PFNGLFINISHPROC", "void", false, []⟩⟩)] }
  overrides :=
    { OverrideTracker.empty with
      rules :=
        [("glGenBuffer", [⟨"glGenBuffers", .generate kind "glGenBuffer" 0⟩]),
         ("glDeleteBuffer", [⟨"glDeleteBuffers", .delete kind "buffer" (some "glDeleteBuffer")⟩])]
      kinds := [kind] }
  space := "gl"
  idWidth := .byte
  unambiguous := by decide

/-- Handlers that answer with the number of calls so far and forty. -/
def native : NativeSide where
  handler? := fun _ => some fun before _ => .ok (.int (before.length + 40))
  errorCode? := none

def size : WireType := .scalar "GLint" "i" (.integer true 4)

def delete : Command := ⟨1, "DeleteBuffer", [⟨"buffer", "BufferHandle", .handle⟩], none, some kind⟩

def fill : Command := ⟨3, "FillBuffer", [⟨"buffer", "BufferHandle", .handle⟩, ⟨"size", "GLint", size⟩], none, none⟩

def queue : CommandQueue where
  commands :=
    [⟨0, "GenBuffer", [], some kind, none⟩, delete,
     ⟨2, "BindBuffer", [⟨"slot", "GLint", size⟩, ⟨"buffer", "BufferHandle", .handle⟩], none, none⟩, fill,
     ⟨4, "Finish", [], none, none⟩]
  idType := IdWidth.byte.wireType
  native := native
  resources := .ofKinds [kind]
  buffer := .empty
  state := .idle
  calls := []
  log := []

/-- The handle of the buffer. -/
def buffer : Value := .handle (.int 1) (.int 0)

/-- A buffer that is made and deleted, in front of other commands. -/
def behindDeletion (commands : List QueueOperation) : List QueueOperation :=
  [.enqueue "GenBuffer" [], .process, .enqueue "DeleteBuffer" [buffer]] ++ commands

/-- The deleted buffer as the last argument of a command. -/
def bound : List QueueOperation :=
  behindDeletion [.enqueue "BindBuffer" [.int 3, buffer], .enqueue "Finish" []]

/-- The deleted buffer in front of another argument. -/
def filled : List QueueOperation :=
  behindDeletion [.enqueue "FillBuffer" [buffer, .int 7], .enqueue "Finish" []]

/-- When the dead handle is the last thing to read, the command behind is executed by the next processing. -/
theorem goes_on_behind_last_handle :
    let stopped := (queue.after bound).perform .process
    stopped.answer = .error (.resource (.access (.invalid "Buffers" buffer))) ∧
    (stopped.state.perform .process).answer = .ok (.executed 1) ∧
    (stopped.state.perform .process).state.calls = [⟨"GenBuffer", []⟩, ⟨"DeleteBuffer", [.int 40]⟩, ⟨"Finish", []⟩] := by
  have made : CommandQueue.ofEmitter emitter native = .ok queue := rfl
  have record : queue.record bound =
      [(.enqueue "GenBuffer" [], .ok (.accepted buffer)), (.process, .ok (.executed 1)),
       (.enqueue "DeleteBuffer" [buffer], .ok (.accepted .absent)),
       (.enqueue "BindBuffer" [.int 3, buffer], .ok (.accepted .absent)),
       (.enqueue "Finish" [], .ok (.accepted .absent))] := rfl
  have accepted : ∀ x ∈ queue.record bound, ∀ name values, x.1 = .enqueue name values → ∃ reply, x.2 = .ok reply := by
    rw [record]
    simp
  have inStep : (Backlog.ofIdle queue).InStep bound := ⟨rfl, rfl, rfl, rfl, rfl, trivial⟩
  have refusal : ((queue.after bound).perform .process).answer =
      .error (.resource (.access (.invalid "Buffers" buffer))) := rfl
  obtain ⟨-, refused⟩ := CommandQueue.in_step_iff_nothing_unread made accepted inStep
  obtain ⟨-, goes_on⟩ := refused _ refusal
  obtain ⟨answer, calls⟩ := goes_on rfl
  refine ⟨refusal, ?_, ?_⟩
  · rw [answer]
    rfl
  · rw [calls]
    rfl

/-- When an argument is behind the dead handle, the cursor stands in front of this argument. The next processing takes
the argument for an id, and the command behind is never executed. -/
theorem argument_taken_for_id : CommandQueue.ofEmitter emitter native = .ok queue ∧
    let q := queue.after filled
    let stopped := q.perform .process
    stopped.answer = .error (.resource (.access (.invalid "Buffers" buffer))) ∧
    stopped.state.buffer ≠ .empty ∧ stopped.state.buffer.readCursor = 32 ∧
    extent q.buffer.readCursor ([⟨delete, [buffer], none⟩, ⟨fill, [buffer, .int 7], none⟩].flatMap
      (Pending.items q.idType)) = 36 ∧
    (stopped.state.perform .process).answer = .error (.unknownCommand 7) ∧
    (stopped.state.perform .process).state.calls = [⟨"GenBuffer", []⟩, ⟨"DeleteBuffer", [.int 40]⟩] ∧
    (stopped.state.perform .process).state.buffer = .empty := by
  refine ⟨rfl, rfl, ?_, rfl, rfl, rfl, rfl, rfl⟩
  intro cleared
  have cursor : 32 = 0 := congrArg Buffer.readCursor cleared
  cases cursor

end DeadBuffer

end CommandStream
