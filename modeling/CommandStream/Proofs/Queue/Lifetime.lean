import Mathlib.Data.List.Induction
import CommandStream.Proofs.Override.Signature
import CommandStream.Proofs.Queue.Keeping
import CommandStream.Proofs.Queue.Refinement

/-!
# The life of objects

In a queue with the built-in overrides, an object can be used from the moment its handle is given out, before
there is an object, until a command that deletes it is executed. Up to there its handle stands for what the
handler of its command answered, and never for what came into its slot later.
-/

namespace CommandStream
open Wire

namespace Account

/-- Operations through handles that were given out before, by operations of the run or in `issued`. -/
def Borrows (commands : List Command) (issued : List (String × Value)) :
    List (QueueOperation × Except QueueError QueueReply) → Prop
  | [] => True
  | x :: rest =>
    (∀ name values, x.1 = .enqueue name values → ∀ c, commands.find? (fun c => c.shortName == name) = some c →
      ∀ h ∈ handleArguments c.arguments values, h ∈ issued) ∧
    Borrows commands (issued ++ (issuedBy? commands x).toList) rest

/-- Operations as callers make them: enqueuing succeeds, through handles that were given out before for objects of
their kinds, fewer than 2 ^ 32 in all, and nothing before the last operation was refused. -/
structure Proper (commands : List Command) (record : List (QueueOperation × Except QueueError QueueReply)) : Prop where
  accepted : ∀ x ∈ record, ∀ name values, x.1 = .enqueue name values → ∃ reply, x.2 = .ok reply
  borrows : Borrows commands [] record
  few : (record.filterMap (issuedBy? commands)).length < 2 ^ 32
  unrefused : ∀ x ∈ record.dropLast, ∀ e, x.2 = .error e → ¬ e.Refusal

variable {commands : List Command} {past : List (QueueOperation × Except QueueError QueueReply)}
  {x : QueueOperation × Except QueueError QueueReply}

theorem Borrows.init {issued : List (String × Value)} (borrows : Borrows commands issued (past ++ [x])) :
    Borrows commands issued past := by
  induction past generalizing issued with
  | nil => trivial
  | cons first rest ih => exact ⟨borrows.1, ih borrows.2⟩

/-- The last operation uses handles that were given out by the others. -/
theorem Borrows.last {issued : List (String × Value)} (borrows : Borrows commands issued (past ++ [x])) :
    ∀ name values, x.1 = .enqueue name values → ∀ c, commands.find? (fun c => c.shortName == name) = some c →
      ∀ h ∈ handleArguments c.arguments values, h ∈ issued ++ past.filterMap (issuedBy? commands) := by
  induction past generalizing issued with
  | nil =>
    intro name values enqueues c found h argument
    exact List.mem_append_left _ (borrows.1 name values enqueues c found h argument)
  | cons first rest ih =>
    intro name values enqueues c found h argument
    have given := ih borrows.2 name values enqueues c found h argument
    rw [List.append_assoc, ← filterMap_singleton, ← List.filterMap_append] at given
    exact given

/-- A run is proper until its last operation. -/
theorem Proper.init (proper : Proper commands (past ++ [x])) : Proper commands past := by
  refine ⟨?_, proper.borrows.init, ?_, ?_⟩
  · intro y member
    exact proper.accepted y (List.mem_append_left _ member)
  · have few := proper.few
    rw [List.filterMap_append, List.length_append] at few
    omega
  · intro y member
    refine proper.unrefused y ?_
    rw [List.dropLast_concat]
    exact List.dropLast_subset past member

end Account

namespace Backlog

variable {a : Backlog} {acc : Account} {t : WireType} {q : CommandQueue} {native : NativeSide} {commands : List Command}

/-- A queue that serves a backlog that is as an account says. -/
def Kept (t : WireType) (native : NativeSide) (commands : List Command) (acc : Account) (q : CommandQueue) : Prop :=
  ∃ a : Backlog, Serves t q a ∧ a.Regular ∧ a.Owning ∧ Keeps acc a ∧ a.native = native ∧ a.commands = commands

/-- One operation as the account has it. -/
theorem Kept.step (ids : t.CarriesIds) (steady : native.Steady) (kept : Kept t native commands acc q) {o : QueueOperation}
    (accepted : ∀ name values, o = .enqueue name values → ∃ reply, (q.perform o).answer = .ok reply)
    (lent : ∀ name values, o = .enqueue name values → ∀ c, commands.find? (fun c => c.shortName == name) = some c →
      ∀ h ∈ handleArguments c.arguments values, h ∈ acc.issued)
    (few : (acc.issued ++ (Account.issuedBy? commands (o, (q.perform o).answer)).toList).length < 2 ^ 32) :
    ∃ acc', Account.Step native commands acc (o, (q.perform o).answer) acc' ∧ (q.perform o).state.calls = acc'.calls ∧
      ((∀ e, (q.perform o).answer = .error e → ¬ e.Refusal) → Kept t native commands acc' (q.perform o).state ∧
        acc'.issued = acc.issued ++ (Account.issuedBy? commands (o, (q.perform o).answer)).toList) := by
  obtain ⟨a, serves, regular, owning, keeps, rfl, rfl⟩ := kept
  have answers := serves.answer regular.toOrderly ids accepted
  have alike := alike_perform a o
  have goes_on : ∀ acc', Keeps acc' (a.perform o).state → o.Permitted (q.perform o).answer →
      Kept t a.native a.commands acc' (q.perform o).state := by
    intro acc' keeps' permitted
    exact ⟨_, (serves.step regular ids permitted).2, regular.perform o, owning.alike alike, keeps', alike.native, alike.commands⟩
  cases o with
  | enqueue name values =>
    obtain ⟨reply, answered⟩ := accepted name values rfl
    rw [answered] at answers few ⊢
    obtain ⟨acc', step, kept', issued⟩ := keeps.enqueue regular owning answers.1.symm (lent name values rfl) few
    exact ⟨acc', step, answers.2.trans kept'.calls, fun _ => ⟨goes_on acc' kept' ⟨reply, answered⟩, issued⟩⟩
  | process =>
    obtain ⟨acc', step, calls, rest⟩ := keeps.process regular owning steady
    rw [← answers.1] at step rest
    refine ⟨acc', step, answers.2.trans calls, ?_⟩
    intro unrefused
    obtain ⟨kept', issued⟩ := rest unrefused
    refine ⟨goes_on acc' kept' unrefused, ?_⟩
    rw [issued]
    exact (List.append_nil _).symm

/-- The last operation of a proper run. -/
theorem Kept.last (ids : t.CarriesIds) (steady : native.Steady) {earlier : List QueueOperation} {o : QueueOperation}
    (kept : Kept t native commands acc (q.after earlier))
    (issued : acc.issued = (q.record earlier).filterMap (Account.issuedBy? commands))
    (proper : Account.Proper commands (q.record (earlier ++ [o]))) :
    ∃ acc', Account.Step native commands acc (o, ((q.after earlier).perform o).answer) acc' ∧
      (q.after (earlier ++ [o])).calls = acc'.calls ∧
      ((∀ e, ((q.after earlier).perform o).answer = .error e → ¬ e.Refusal) →
        Kept t native commands acc' (q.after (earlier ++ [o])) ∧
        acc'.issued = (q.record (earlier ++ [o])).filterMap (Account.issuedBy? commands)) := by
  rw [q.record_snoc] at proper ⊢
  rw [q.after_snoc, List.filterMap_append, filterMap_singleton, ← issued]
  have lent := proper.borrows.last
  have few := proper.few
  rw [List.nil_append, ← issued] at lent
  rw [List.filterMap_append, filterMap_singleton, ← issued] at few
  have accepted := proper.accepted _ (List.mem_append_right _ (List.mem_singleton_self _))
  exact kept.step ids steady accepted lent few

/-- A proper run in which nothing is refused, as its account has it. -/
theorem Kept.run (ids : t.CarriesIds) (steady : native.Steady) (kept : Kept t native commands .start q)
    {operations : List QueueOperation} (proper : Account.Proper commands (q.record operations))
    (unrefused : ∀ x ∈ q.record operations, ∀ e, x.2 = .error e → ¬ e.Refusal) :
    ∃ acc, Account.Run native commands (q.record operations) acc ∧ Kept t native commands acc (q.after operations) ∧
      acc.issued = (q.record operations).filterMap (Account.issuedBy? commands) := by
  induction operations using List.reverseRecOn with
  | nil => exact ⟨.start, .nothing, kept, rfl⟩
  | append_singleton earlier o ih =>
    have split := q.record_snoc earlier o
    obtain ⟨acc, run, before, issued⟩ := ih (split ▸ proper).init fun x member =>
      unrefused x (split ▸ List.mem_append_left _ member)
    obtain ⟨acc', step, -, rest⟩ := before.last ids steady issued proper
    obtain ⟨now, issued'⟩ := rest (unrefused _ (split ▸ List.mem_append_right _ (List.mem_singleton_self _)))
    refine ⟨acc', ?_, now, issued'⟩
    rw [split]
    exact run.snoc step

/-- A proper run, its last operation refused or not, as its account has it. -/
theorem Kept.account (ids : t.CarriesIds) (steady : native.Steady) (kept : Kept t native commands .start q)
    (idle : q.calls = []) {operations : List QueueOperation} (proper : Account.Proper commands (q.record operations)) :
    ∃ acc, Account.Run native commands (q.record operations) acc ∧ (q.after operations).calls = acc.calls := by
  cases operations using List.reverseRecOn with
  | nil => exact ⟨.start, .nothing, idle⟩
  | append_singleton earlier o =>
    have split := q.record_snoc earlier o
    have calm := (split ▸ proper).unrefused
    rw [List.dropLast_concat] at calm
    obtain ⟨acc, run, before, issued⟩ := kept.run ids steady (split ▸ proper).init calm
    obtain ⟨acc', step, calls, -⟩ := before.last ids steady issued proper
    refine ⟨acc', ?_, calls⟩
    rw [split]
    exact run.snoc step

/-! ## The queue of an emitter with the built-in overrides -/

section BuiltIn

variable {log : Log} {r : Registry} {space : String} {e : Emitter}

theorem kinds_of_emitter (filed : r.Filed)
    (built : (Build.emitter log r OverrideModule.builtIns space).answer = .ok e) :
    e.overrides.kinds = OverrideModule.builtInKinds := by
  obtain ⟨_, _, tracker⟩ := (applied_of_emitter filed built).tracker
  rw [tracker]
  exact OverrideModule.kinds_builtInTracker r

theorem length_of_command {id : Nat} {f : Function} {rules : List Rule} {enumTypes : List String} {c : Command}
    (made : Command.ofFunction id f rules enumTypes = .ok c) : c.arguments.length = f.type.arguments.length := by
  obtain ⟨arguments, types, made⟩ := bind_ok made
  cases made
  exact length_of_mapM_ok types

/-- A command makes and deletes objects as the principal rule of its function says. -/
theorem kinds_of_command (filed : r.Filed) (built : (Build.emitter log r OverrideModule.builtIns space).answer = .ok e)
    (listed : e.commands = .ok commands) {c : Command} (member : c ∈ commands) :
    (c.creates = none ∧ c.destroys = none) ∨ ∃ p ∈ OverrideModule.principals,
      c.creates = p.creates? ∧ c.destroys = p.destroys? ∧ (p.destroys?.isSome → c.arguments.length = 1) := by
  obtain ⟨i, at_⟩ := List.mem_iff_getElem?.mp member
  obtain ⟨f, stands, made⟩ := Emitter.command_of_emitter listed at_
  have length := length_of_command made
  obtain ⟨arguments, types, made⟩ := bind_ok made
  cases made
  rcases (overridden_of_emitter filed built stands).kinds with plain | ⟨p, principal, leaves, creates, destroys⟩
  · exact .inl plain
  · exact .inr ⟨p, principal, creates, destroys, fun deletes => length.trans (single_of_deletes leaves deletes)⟩

theorem owning_ofEmitter (filed : r.Filed) (built : (Build.emitter log r OverrideModule.builtIns space).answer = .ok e)
    (made : CommandQueue.ofEmitter e native = .ok q) : (ofIdle q).Owning := by
  obtain ⟨commands, listed, made⟩ := bind_ok made
  cases made
  constructor
  · intro c member kind creates
    show kind ∈ e.overrides.kinds
    rw [kinds_of_emitter filed built]
    rcases kinds_of_command filed built listed member with ⟨nothing, -⟩ | ⟨p, principal, same, -⟩
    · rw [creates] at nothing
      cases nothing
    · exact OverrideModule.kind_of_principal p principal kind (same.symm.trans creates)
  · intro c member destroys
    rcases kinds_of_command filed built listed member with ⟨-, nothing⟩ | ⟨p, principal, creates, same, single⟩
    · rw [nothing] at destroys
      cases destroys
    · rw [same] at destroys
      exact ⟨creates.trans (creates?_of_deletes destroys), single destroys⟩

end BuiltIn

end Backlog

/-- **Objects last until they are deleted.** A queue for a registry with the built-in overrides, whose handlers do not
fail, keeps the account of every proper run: each command that is executed has its handler called with the answers of the
handlers that made its arguments, and a command is refused exactly if an argument was deleted by a command before it. -/
theorem CommandQueue.objects_last_until_deleted {log : Log} {r : Registry} {space : String} {e : Emitter}
    {native : NativeSide} {q : CommandQueue} (filed : r.Filed)
    (built : (Build.emitter log r OverrideModule.builtIns space).answer = .ok e) (known : e.HandlesKnown)
    (made : CommandQueue.ofEmitter e native = .ok q) (steady : native.Steady) {operations : List QueueOperation}
    (proper : Account.Proper q.commands (q.record operations)) :
    ∃ acc, Account.Run native q.commands (q.record operations) acc ∧ (q.after operations).calls = acc.calls := by
  obtain ⟨regular, ids, serves⟩ := Backlog.regular_ofEmitter made known
  have owning := Backlog.owning_ofEmitter filed built made
  have idle : q.calls = [] ∧ q.native = native ∧ q.resources = .ofKinds e.overrides.kinds := by
    obtain ⟨commands, -, made⟩ := bind_ok made
    cases made
    exact ⟨rfl, rfl, rfl⟩
  have stocked : q.resources.Stocked [] := by
    rw [idle.2.2, Backlog.kinds_of_emitter filed built]
    exact ResourceTables.stocked_ofKinds OverrideModule.nodup_builtInKinds
  have keeps : Backlog.Keeps .start (.ofIdle q) := by
    refine ⟨rfl, idle.1, stocked, List.nodup_nil, trivial, ?_, ?_, ?_, ?_⟩
    · rintro h ⟨x, executed, -⟩
      cases executed
    · rintro h ⟨x, executed, -⟩
      cases executed
    · intro x executed
      cases executed
    · intro p waits
      cases waits
  have kept : Backlog.Kept q.idType native q.commands .start q :=
    ⟨.ofIdle q, serves, regular, owning, keeps, idle.2.1, rfl⟩
  exact kept.account ids steady idle.1 proper

/-! ## A slot used again -/

namespace BufferLife

open OverrideModule

/-- A registry that makes, binds and deletes buffers. -/
def registry : Registry :=
  { Registry.empty "gl" with
    functions :=
      [("glGenBuffers", ⟨"glGenBuffers", "GenBuffers", "public",
         ⟨"PFNGLGENBUFFERSPROC", "void", false, [⟨"GLsizei", "n", false⟩, ⟨"GLuint *", "buffers", false⟩]⟩⟩),
       ("glBindBuffer", ⟨"glBindBuffer", "BindBuffer", "public",
         ⟨"PFNGLBINDBUFFERPROC", "void", false, [⟨"GLuint", "buffer", false⟩]⟩⟩),
       ("glDeleteBuffers", ⟨"glDeleteBuffers", "DeleteBuffers", "public",
         ⟨"PFNGLDELETEBUFFERSPROC", "void", false, [⟨"GLsizei", "n", false⟩, ⟨"const GLuint *", "buffers", false⟩]⟩⟩)]
    shortNames :=
      [("GenBuffers", "glGenBuffers"), ("BindBuffer", "glBindBuffer"), ("DeleteBuffers", "glDeleteBuffers")] }

def emitter : Emitter where
  registry := ((builtInTracker registry).apply registry).state.2
  overrides := ((builtInTracker registry).apply registry).state.1
  space := "gl"
  idWidth := .byte
  unambiguous := by decide +kernel

/-- Handlers that answer with the number of calls so far and forty. -/
def native : NativeSide where
  handler? := fun _ => some fun before _ => .ok (.int (before.length + 40))
  errorCode? := none

def queue : CommandQueue where
  commands :=
    [⟨0, "GenBuffer", [], some (glKind "Buffer" 0), none⟩,
     ⟨1, "BindBuffer", [⟨"buffer", "BufferHandle", .handle⟩], none, none⟩,
     ⟨2, "DeleteBuffer", [⟨"buffer", "BufferHandle", .handle⟩], none, some (glKind "Buffer" 0)⟩]
  idType := IdWidth.byte.wireType
  native := native
  resources := .ofKinds builtInKinds
  buffer := .empty
  state := .idle
  calls := []
  log := []

def first : Value := .handle (.int 1) (.int 0)

/-- The handle of the same slot when it is used again. -/
def second : Value := .handle (.int 2) (.int 0)

def operations : List QueueOperation :=
  [.enqueue "GenBuffer" [], .enqueue "BindBuffer" [first], .enqueue "DeleteBuffer" [first], .process,
   .enqueue "GenBuffer" [], .enqueue "BindBuffer" [second], .enqueue "BindBuffer" [first], .process]

set_option maxRecDepth 20000 in
theorem record_operations : queue.record operations =
    [(.enqueue "GenBuffer" [], .ok (.accepted first)), (.enqueue "BindBuffer" [first], .ok (.accepted .absent)),
     (.enqueue "DeleteBuffer" [first], .ok (.accepted .absent)), (.process, .ok (.executed 3)),
     (.enqueue "GenBuffer" [], .ok (.accepted second)), (.enqueue "BindBuffer" [second], .ok (.accepted .absent)),
     (.enqueue "BindBuffer" [first], .ok (.accepted .absent)),
     (.process, .error (.resource (.access (.invalid "Buffers" first))))] := by
  rfl

theorem proper_operations : Account.Proper queue.commands (queue.record operations) := by
  rw [record_operations]
  refine ⟨?_, ?_, ?_, ?_⟩
  · simp
  · have type : (glKind "Buffer" 0).handleType = "BufferHandle" := rfl
    simp [Account.Borrows, queue, Account.issuedBy?, handleArguments, handleArgument, WireType.handle, type]
  · decide
  · simp

set_option maxRecDepth 20000 in
/-- The second buffer is bound as what its own handler answered, and the first is refused. -/
theorem calls_until_refused : ∃ acc, Account.Run native queue.commands (queue.record operations) acc ∧
    acc.calls = [⟨"GenBuffer", []⟩, ⟨"BindBuffer", [.int 40]⟩, ⟨"DeleteBuffer", [.int 40]⟩, ⟨"GenBuffer", []⟩,
      ⟨"BindBuffer", [.int 43]⟩] := by
  have filed : registry.Filed := by
    constructor
    · decide
    · decide
  have built : (Build.emitter [] registry builtIns "gl").answer = .ok emitter := by rfl
  have known : emitter.HandlesKnown := by
    unfold Emitter.HandlesKnown
    decide
  have made : CommandQueue.ofEmitter emitter native = .ok queue := by rfl
  have steady : native.Steady := by
    constructor
    · intro name handler found before call
      cases found
      exact ⟨_, rfl⟩
    · intro look found
      cases found
  obtain ⟨acc, run, calls⟩ := CommandQueue.objects_last_until_deleted filed built known made steady proper_operations
  refine ⟨acc, run, calls.symm.trans ?_⟩
  rfl

end BufferLife

end CommandStream
