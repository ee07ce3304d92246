import CommandStream.Proofs.Override.Kinds
import CommandStream.Proofs.Queue.Lifetime

/-!
# Executing any bytes

Whatever lies in the buffer of a queue, and whatever is done on the native side as long as the buffer is left alone,
executing comes to an end. Every command that is begun takes at least the bytes of its id, and what is read lies between
the cursors, so the read cursor only moves towards the write cursor. The loop is stated without a bound on its rounds
(`Executes`, `Drains`); the bound is then a fact about it.
-/

namespace CommandStream
open Wire

/-- A failure that executing any bytes may meet. -/
def QueueError.Foreseen (e : QueueError) : Prop :=
  e.Expected ∨ (∃ type offset cursor, e = .read (.underrun type offset cursor)) ∨ ∃ id, e = .unknownCommand id

/-! ## Reading at any place -/

theorem WireType.Single.unpackFrom_inside {t : WireType} {kind : Scalar} (single : t.Single kind) {data : List UInt8}
    {offset : Nat} (inside : offset + t.size ≤ data.length) :
    ∃ bytes, t.unpackFrom data offset = t.presented (unpackScalar kind bytes) := by
  have whole : ((data.drop offset).take t.size).length = t.size := by
    rw [List.length_take, List.length_drop]
    omega
  have split : data.take offset ++ (data.drop offset).take t.size ++ (data.drop offset).drop t.size = data := by
    rw [List.append_assoc, List.take_append_drop, List.take_append_drop]
  have place : (data.take offset).length = offset := by
    rw [List.length_take]
    omega
  have embedded := t.unpackFrom_embedded whole (data.take offset) ((data.drop offset).drop t.size)
  rw [split, place] at embedded
  exact ⟨_, embedded.trans (single.unpackFrom_eq whole)⟩

/-- Single values that are read: handles are pairs of integers. -/
theorem WireType.Single.presented_ok {t : WireType} {kind : Scalar} (single : t.Single kind) (bytes : List UInt8) :
    ∃ v, t.presented (unpackScalar kind bytes) = .ok v ∧ (t.presentation = .handle → v.key?.isSome) := by
  unfold WireType.presented
  rcases single.plain_or_handle with plain | isHandle
  · rw [plain]
    exact ⟨_, rfl, fun h => nomatch h⟩
  · rw [single.unpackScalar_of_handle isHandle, isHandle]
    exact ⟨_, rfl, fun _ => rfl⟩

theorem unpackInteger_unsigned_nonneg (data : List UInt8) : ∃ n : Nat, unpackInteger false data = n :=
  ⟨ofLittleEndian data, by simp [unpackInteger]⟩

namespace CommandQueue

/-! ## The loop -/

/-- What is done on the native side for a command with its arguments. -/
abbrev NativeWork := CommandQueue → String → List Value → Step Value

/-- The work of a queue's own native side: the handler is called, and an error looked for behind it. -/
def ask : NativeWork := fun q name values =>
  (q.callNative name values).andThen fun q answer => (q.lookForError name).andThen fun q _ => .done q answer

/-- A command whose id has been read, executed with some native work. -/
def executeWith (work : NativeWork) (q : CommandQueue) (c : Command) : Step Unit :=
  (q.readArguments c.arguments).andThen fun q (values, handles) =>
    (q.readReserved c).andThen fun q reserved =>
      (work q c.shortName values).andThen fun q answer =>
        (q.store reserved answer).andThen fun q _ =>
          if c.destroys.isSome then q.release handles else .done q ()

/-- One round: an id is read, and the command in its place executed. -/
def executeNextWith (work : NativeWork) (q : CommandQueue) : Step Unit :=
  (q.read q.idType).andThen fun q v =>
    let id := v.int?.getD 0
    match q.commands[id.toNat]? with
    | some c => q.executeWith work c
    | none => .failed q.reset (.unknownCommand id)

/-- So many rounds, each begun because something is left to read. -/
inductive Executes (work : NativeWork) : CommandQueue → Nat → CommandQueue → Prop
  | nothing (q : CommandQueue) : Executes work q 0 q
  | next {q q₁ q₂ : CommandQueue} {n : Nat} : q.buffer.hasCommands = true → q.executeNextWith work = .done q₁ () →
      Executes work q₁ n q₂ → Executes work q (n + 1) q₂

/-- How executing everything ends, and how many commands were begun until then. -/
inductive Drains (work : NativeWork) (q : CommandQueue) : Nat → Step Nat → Prop
  | drained {n : Nat} {q' : CommandQueue} : Executes work q n q' → q'.buffer.hasCommands = false →
      Drains work q n (.done q'.reset n)
  | stopped {n : Nat} {q' q'' : CommandQueue} {e : QueueError} : Executes work q n q' → q'.buffer.hasCommands = true →
      q'.executeNextWith work = .failed q'' e → Drains work q (n + 1) (.failed q'' e)

variable {work : NativeWork} {q q₁ q₂ : CommandQueue}

theorem execute_eq (q : CommandQueue) (c : Command) : q.execute c = q.executeWith ask c := by
  simp only [execute, executeWith, ask, Outcome.andThen_assoc, Outcome.done_andThen]

theorem executeNext_eq (q : CommandQueue) : q.executeNext = q.executeNextWith ask := by
  unfold executeNext executeNextWith
  obtain ⟨q₁, v, read⟩ | ⟨q₁, e, failed⟩ := (q.read q.idType).done_or_failed
  · simp only [read, Outcome.done_andThen]
    cases q₁.commands[(v.int?.getD 0).toNat]? with
    | none => rfl
    | some c => exact execute_eq q₁ c
  · simp only [failed, Outcome.failed_andThen]

/-! ## What a round leaves -/

/-- A queue behind another one: commands and tables neither come nor go, and of the buffer nothing moves but the read
cursor, towards the write cursor. -/
structure Behind (q q' : CommandQueue) : Prop where
  commands : q'.commands = q.commands
  idType : q'.idType = q.idType
  tables : q.resources.Alike q'.resources
  data : q'.buffer.data = q.buffer.data
  writeCursor : q'.buffer.writeCursor = q.buffer.writeCursor
  moves : q.buffer.readCursor ≤ q'.buffer.readCursor
  stops : q.buffer.readCursor ≤ q.buffer.writeCursor → q'.buffer.readCursor ≤ q.buffer.writeCursor

theorem Behind.refl (q : CommandQueue) : Behind q q :=
  ⟨rfl, rfl, .refl _, rfl, rfl, Nat.le_refl _, id⟩

theorem Behind.trans (first : Behind q q₁) (last : Behind q₁ q₂) : Behind q q₂ where
  commands := last.commands.trans first.commands
  idType := last.idType.trans first.idType
  tables := first.tables.trans last.tables
  data := last.data.trans first.data
  writeCursor := last.writeCursor.trans first.writeCursor
  moves := Nat.le_trans first.moves last.moves
  stops := by
    intro before
    have between := first.stops before
    rw [← first.writeCursor] at between ⊢
    exact last.stops between

/-- Work that leaves the buffer alone, and fails for reasons of its own only. -/
structure Quiet (work : NativeWork) : Prop where
  commands : ∀ (q : CommandQueue) name values, (work q name values).state.commands = q.commands
  idType : ∀ (q : CommandQueue) name values, (work q name values).state.idType = q.idType
  tables : ∀ (q : CommandQueue) name values, q.resources.Alike (work q name values).state.resources
  buffer : ∀ (q : CommandQueue) name values, (work q name values).state.buffer = q.buffer
  failure : ∀ (q : CommandQueue) name values e, (work q name values).answer = .error e → ∃ cause, e = .handler cause

/-- A look for an error changes the log at most, and fails for a reason of the native side. -/
theorem lookForError_eq (q : CommandQueue) (name : String) :
    ∃ log, (q.lookForError name).state = { q with log } ∧
      ∀ e, (q.lookForError name).answer = .error e → ∃ cause, e = .handler cause := by
  unfold lookForError
  split
  · exact ⟨q.log, rfl, fun e failed => nomatch failed⟩
  split
  · refine ⟨q.log, rfl, fun e failed => ?_⟩
    cases failed
    exact ⟨_, rfl⟩
  split <;> exact ⟨_, rfl, fun e failed => nomatch failed⟩

/-- A call changes the calls and the log at most, and fails with its handler. -/
theorem callNative_eq (q : CommandQueue) (name : String) (values : List Value) :
    ∃ calls log, (q.callNative name values).state = { q with calls, log } ∧
      ∀ e, (q.callNative name values).answer = .error e → ∃ cause, e = .handler cause := by
  unfold callNative
  split
  · exact ⟨q.calls, _, rfl, fun e failed => nomatch failed⟩
  · refine ⟨q.calls ++ [⟨name, values⟩], q.log, ?_, ?_⟩
    · dsimp only
      split <;> rfl
    · intro e failed
      dsimp only at failed
      split at failed
      · cases failed
      · cases failed
        exact ⟨_, rfl⟩

theorem ask_eq (q : CommandQueue) (name : String) (values : List Value) :
    ∃ calls log, (ask q name values).state = { q with calls, log } ∧
      ∀ e, (ask q name values).answer = .error e → ∃ cause, e = .handler cause := by
  obtain ⟨calls, log, state, failure⟩ := q.callNative_eq name values
  unfold ask
  obtain ⟨q₁, answer, done⟩ | ⟨q₁, e, failed⟩ := (q.callNative name values).done_or_failed
  · rw [done, Outcome.done_andThen]
    rw [done, Outcome.state_done] at state
    subst state
    obtain ⟨log', state, failure⟩ := lookForError_eq { q with calls, log } name
    refine ⟨calls, log', (Outcome.state_andThen_done _ _).trans state, fun e failed => ?_⟩
    rcases Outcome.andThen_error failed with failed | ⟨_, -, failed⟩
    · exact failure e failed
    · cases failed
  · rw [failed] at state failure ⊢
    exact ⟨calls, log, state, failure⟩

/-- The own native side of a queue is quiet. -/
theorem quiet_ask : Quiet ask where
  commands := by
    intro q name values
    obtain ⟨calls, log, state, -⟩ := q.ask_eq name values
    rw [state]
  idType := by
    intro q name values
    obtain ⟨calls, log, state, -⟩ := q.ask_eq name values
    rw [state]
  tables := by
    intro q name values
    obtain ⟨calls, log, state, -⟩ := q.ask_eq name values
    rw [state]
    exact .refl _
  buffer := by
    intro q name values
    obtain ⟨calls, log, state, -⟩ := q.ask_eq name values
    rw [state]
  failure := by
    intro q name values
    obtain ⟨-, -, -, failure⟩ := q.ask_eq name values
    exact failure

/-- A queue whose bytes can be read as commands: ids and arguments are single values, there are tables for all handles
that are read, and the cursors lie in the bytes, in their order. -/
structure Runnable (q : CommandQueue) : Prop where
  ids : q.idType.CarriesIds
  single : ∀ c ∈ q.commands, ∀ x ∈ c.arguments, ∃ kind, x.type.Single kind
  known : ∀ c ∈ q.commands, ∀ x ∈ c.arguments, x.type.presentation = .handle → q.resources.Knows x.cType
  objects : ∀ c ∈ q.commands, ∀ kind ∈ c.creates, (q.resources.table? kind.tableName).isSome
  cursors : q.buffer.readCursor ≤ q.buffer.writeCursor
  inside : q.buffer.writeCursor ≤ q.buffer.data.length

theorem Runnable.behind (runnable : q.Runnable) (behind : Behind q q₁) : q₁.Runnable where
  ids := behind.idType ▸ runnable.ids
  single := behind.commands ▸ runnable.single
  known := by
    intro c member x argument isHandle
    exact behind.tables.knows (runnable.known c (behind.commands ▸ member) x argument isHandle)
  objects := by
    intro c member kind creates
    rw [behind.tables.present]
    exact runnable.objects c (behind.commands ▸ member) kind creates
  cursors := by
    rw [behind.writeCursor]
    exact behind.stops runnable.cursors
  inside := by
    rw [behind.writeCursor, behind.data]
    exact runnable.inside

/-- A step that leaves a queue behind the one before it, answers with something of which `P` holds, and fails in a
foreseen way. -/
structure Sound {α : Type} (q : CommandQueue) (o : Step α) (P : α → Prop) : Prop where
  behind : Behind q o.state
  answered : ∀ a, o.answer = .ok a → P a
  failure : ∀ e, o.answer = .error e → e.Foreseen

section Sound

variable {α β : Type} {P : α → Prop} {R : β → Prop}

theorem sound_done {a : α} (holds : P a) : Sound q (.done q a) P := by
  refine ⟨.refl q, fun b answer => ?_, fun e failed => nomatch failed⟩
  cases answer
  exact holds

theorem Sound.andThen {o : Step α} {next : CommandQueue → α → Step β} (first : Sound q o P)
    (rest : ∀ q' a, Behind q q' → P a → Sound q' (next q' a) R) : Sound q (o.andThen next) R := by
  obtain ⟨q', a, rfl⟩ | ⟨q', e, rfl⟩ := o.done_or_failed
  · have second := rest q' a first.behind (first.answered a rfl)
    exact ⟨first.behind.trans second.behind, second.answered, second.failure⟩
  · refine ⟨first.behind, fun b answer => (nomatch answer), fun cause failed => ?_⟩
    cases failed
    exact first.failure e rfl

theorem Sound.imp {o : Step α} {P' : α → Prop} (sound : Sound q o P) (all : ∀ a, P a → P' a) : Sound q o P' :=
  ⟨sound.behind, fun a answer => all a (sound.answered a answer), sound.failure⟩

/-! ### Reading -/

/-- A value that is read lies between the cursors, and the read cursor is moved behind it. -/
theorem read_cases (runnable : q.Runnable) {t : WireType} {kind : Scalar} (single : t.Single kind) :
    (∃ type offset cursor, q.read t = .failed q (.read (.underrun type offset cursor))) ∨
      ∃ bytes v, t.presented (unpackScalar kind bytes) = .ok v ∧ (t.presentation = .handle → v.key?.isSome) ∧
        q.buffer.readOffset t + t.size ≤ q.buffer.writeCursor ∧
        q.read t = .done { q with buffer := { q.buffer with readCursor := q.buffer.readOffset t + t.size } } v := by
  by_cases short : q.buffer.readOffset t + t.size > q.buffer.writeCursor
  · left
    refine ⟨t.name, q.buffer.readOffset t, q.buffer.writeCursor, ?_⟩
    simp only [read, Buffer.read, short, if_true]
  · right
    have room : q.buffer.readOffset t + t.size ≤ q.buffer.writeCursor := by omega
    obtain ⟨bytes, unpacked⟩ := single.unpackFrom_inside (Nat.le_trans room runnable.inside)
    obtain ⟨v, presented, key⟩ := single.presented_ok bytes
    refine ⟨bytes, v, presented, key, room, ?_⟩
    simp only [read, Buffer.read, short, if_false, unpacked, presented]

theorem behind_read {t : WireType} (room : q.buffer.readOffset t + t.size ≤ q.buffer.writeCursor) :
    Behind q { q with buffer := { q.buffer with readCursor := q.buffer.readOffset t + t.size } } := by
  refine ⟨rfl, rfl, .refl _, rfl, rfl, ?_, fun _ => room⟩
  show q.buffer.readCursor ≤ q.buffer.readCursor + gap q.buffer.readCursor t.alignment + t.size
  omega

theorem sound_read (runnable : q.Runnable) {t : WireType} {kind : Scalar} (single : t.Single kind) :
    Sound q (q.read t) fun v => t.presentation = .handle → v.key?.isSome := by
  obtain ⟨type, offset, cursor, failed⟩ | ⟨bytes, v, -, key, room, done⟩ := read_cases runnable single
  · rw [failed]
    refine ⟨.refl q, fun v answer => (nomatch answer), fun e same => ?_⟩
    cases same
    exact .inr (.inl ⟨type, offset, cursor, rfl⟩)
  · rw [done]
    refine ⟨behind_read room, fun w answer => ?_, fun e failed => (nomatch failed)⟩
    cases answer
    exact key

/-! ### Tables -/

theorem sound_callTable {kind : ResourceKind} (present : (q.resources.table? kind.tableName).isSome) {call : SlotCall}
    {handle : Value} (through : call.handle? = some handle) (key : handle.key?.isSome) :
    Sound q (q.callTable kind call) fun _ => True := by
  refine ⟨⟨rfl, rfl, ResourceTables.alike_call _ _ _, rfl, rfl, Nat.le_refl _, id⟩, fun _ _ => trivial, ?_⟩
  intro e failed
  obtain ⟨cause, refused, rfl⟩ := Outcome.within_error failed
  exact .inl (.inl ⟨cause, ResourceTables.call_refused present through key refused, rfl⟩)

theorem sound_callHandleTable {handleType : String} (known : q.resources.Knows handleType) {call : SlotCall}
    {handle : Value} (through : call.handle? = some handle) (key : handle.key?.isSome) :
    Sound q (q.callHandleTable handleType call) fun _ => True := by
  refine ⟨⟨rfl, rfl, ResourceTables.alike_callHandle _ _ _, rfl, rfl, Nat.le_refl _, id⟩, fun _ _ => trivial, ?_⟩
  intro e failed
  obtain ⟨cause, refused, rfl⟩ := Outcome.within_error failed
  exact .inl (.inl ⟨cause, ResourceTables.callHandle_refused known through key refused, rfl⟩)

/-! ### Commands -/

/-- Handles that are read are pairs of integers, of the types of handle arguments. -/
theorem sound_readArguments (runnable : q.Runnable) {arguments : List WireArgument}
    (single : ∀ x ∈ arguments, ∃ kind, x.type.Single kind)
    (known : ∀ x ∈ arguments, x.type.presentation = .handle → q.resources.Knows x.cType) :
    Sound q (q.readArguments arguments) fun read => ∀ h ∈ read.2,
      (∃ x ∈ arguments, x.type.presentation = .handle ∧ x.cType = h.1) ∧ h.2.key?.isSome := by
  induction arguments generalizing q with
  | nil => exact sound_done fun h member => nomatch member
  | cons x rest ih =>
    obtain ⟨kind, own⟩ := single x List.mem_cons_self
    have others := fun y member => single y (List.mem_cons_of_mem x member)
    have later : ∀ q₁, Behind q q₁ → Sound q₁ (q₁.readArguments rest) fun read => ∀ h ∈ read.2,
        (∃ y ∈ x :: rest, y.type.presentation = .handle ∧ y.cType = h.1) ∧ h.2.key?.isSome := by
      intro q₁ behind
      have tables : ∀ y ∈ rest, y.type.presentation = .handle → q₁.resources.Knows y.cType :=
        fun y member isHandle => behind.tables.knows (known y (List.mem_cons_of_mem x member) isHandle)
      refine (ih (runnable.behind behind) others tables).imp fun read handles h member => ?_
      obtain ⟨⟨y, argument, isHandle, type⟩, key⟩ := handles h member
      exact ⟨⟨y, List.mem_cons_of_mem x argument, isHandle, type⟩, key⟩
    rw [readArguments]
    refine (sound_read runnable own).andThen fun q₁ v behind key => ?_
    split
    · rename_i isHandle
      have table := behind.tables.knows (known x List.mem_cons_self isHandle)
      refine (sound_callHandleTable table rfl (key isHandle)).andThen fun q₂ held between _ => ?_
      refine (later q₂ (behind.trans between)).andThen fun q₃ read _ handles => sound_done fun h member => ?_
      rcases List.mem_cons.mp member with rfl | member
      · exact ⟨⟨x, List.mem_cons_self, isHandle, rfl⟩, key isHandle⟩
      · exact handles h member
    · exact (later q₁ behind).andThen fun q₂ read _ handles => sound_done handles

/-- A handle that is read for an object is a pair of integers, and there is a table for the kind. -/
theorem sound_readReserved (runnable : q.Runnable) (c : Command) :
    Sound q (q.readReserved c) fun reserved => ∀ x ∈ reserved, x.1 ∈ c.creates ∧ x.2.key?.isSome := by
  unfold readReserved
  split
  · exact sound_done fun x member => nomatch member
  · rename_i kind creates
    refine (sound_read runnable WireType.single_handle).andThen fun q₁ handle _ key => sound_done fun x member => ?_
    cases member
    exact ⟨creates, key rfl⟩

theorem sound_work (quiet : Quiet work) (q : CommandQueue) (name : String) (values : List Value) :
    Sound q (work q name values) fun _ => True := by
  have buffer := quiet.buffer q name values
  constructor
  · constructor
    · exact quiet.commands q name values
    · exact quiet.idType q name values
    · exact quiet.tables q name values
    all_goals simp [buffer]
  · exact fun _ _ => trivial
  · intro e failed
    exact .inl (.inr (quiet.failure q name values e failed))

theorem sound_store {reserved : Option (ResourceKind × Value)} (answer : Value)
    (fits : ∀ x ∈ reserved, (q.resources.table? x.1.tableName).isSome ∧ x.2.key?.isSome) :
    Sound q (q.store reserved answer) fun _ => True := by
  unfold store
  split
  · exact sound_done trivial
  · rename_i kind handle
    obtain ⟨present, key⟩ := fits (kind, handle) rfl
    exact (sound_callTable present rfl key).andThen fun _ _ _ _ => sound_done trivial

theorem sound_release {handles : List (String × Value)}
    (fits : ∀ h ∈ handles, q.resources.Knows h.1 ∧ h.2.key?.isSome) : Sound q (q.release handles) fun _ => True := by
  unfold release
  induction handles generalizing q with
  | nil => exact sound_done trivial
  | cons h rest ih =>
    obtain ⟨known, key⟩ := fits h List.mem_cons_self
    have first : Sound q ((q.callHandleTable h.1 (.destroy h.2)).andThen fun q _ => .done q ()) fun _ => True :=
      (sound_callHandleTable known rfl key).andThen fun _ _ _ _ => sound_done trivial
    rw [Outcome.runAll]
    refine first.andThen fun q₁ _ behind _ => ih fun x member => ?_
    obtain ⟨known, key⟩ := fits x (List.mem_cons_of_mem h member)
    exact ⟨behind.tables.knows known, key⟩

theorem sound_executeWith (quiet : Quiet work) (runnable : q.Runnable) {c : Command} (member : c ∈ q.commands) :
    Sound q (q.executeWith work c) fun _ => True := by
  unfold executeWith
  refine (sound_readArguments runnable (runnable.single c member) (runnable.known c member)).andThen ?_
  intro q₁ read behind handles
  refine (sound_readReserved (runnable.behind behind) c).andThen fun q₂ reserved behind' fits => ?_
  have behind := behind.trans behind'
  refine (sound_work quiet q₂ c.shortName read.1).andThen fun q₃ answer behind' _ => ?_
  have behind := behind.trans behind'
  refine (sound_store answer fun x present => ?_).andThen fun q₄ _ behind' _ => ?_
  · obtain ⟨creates, key⟩ := fits x present
    exact ⟨(runnable.behind behind).objects c (behind.commands ▸ member) x.1 creates, key⟩
  have behind := behind.trans behind'
  split
  · refine sound_release fun h among => ?_
    obtain ⟨⟨x, argument, isHandle, type⟩, key⟩ := handles h among
    exact ⟨type ▸ behind.tables.knows (runnable.known c member x argument isHandle), key⟩
  · exact sound_done trivial

end Sound

/-! ## Rounds -/

/-- The id that a round finds, as a place in the list of commands: the command there is executed, or there is none. -/
def Picks (work : NativeWork) (q : CommandQueue) : Prop :=
  ∀ q' v, q.read q.idType = .done q' v → ∃ id : Nat, v = .int id ∧
    (∀ inside : id < q.commands.length, q.executeNextWith work = q'.executeWith work q.commands[id]) ∧
    (q.commands.length ≤ id → q.executeNextWith work = .failed q'.reset (.unknownCommand id))

/-- An id that is read is a natural number. -/
theorem read_id (runnable : q.Runnable) {q' : CommandQueue} {v : Value} (read : q.read q.idType = .done q' v) :
    ∃ id : Nat, v = .int id := by
  obtain ⟨size, single, plain⟩ := runnable.ids
  obtain ⟨type, offset, cursor, failed⟩ | ⟨bytes, w, presented, -, -, done⟩ := read_cases runnable single
  · rw [failed] at read
    cases read
  · rw [done] at read
    cases read
    rw [WireType.presented, plain] at presented
    obtain ⟨n, unsigned⟩ := unpackInteger_unsigned_nonneg bytes
    refine ⟨n, ?_⟩
    cases presented
    rw [← unsigned]
    rfl

theorem picks (runnable : q.Runnable) (work : NativeWork) : Picks work q := by
  intro q' v read
  obtain ⟨id, rfl⟩ := read_id runnable read
  have kept : q'.commands = q.commands := by
    obtain ⟨size, single, -⟩ := runnable.ids
    have behind := (sound_read runnable single).behind
    rw [read] at behind
    exact behind.commands
  have place : ((Value.int id).int?.getD 0).toNat = id := rfl
  refine ⟨id, rfl, fun inside => ?_, fun outside => ?_⟩
  · have found : q.commands[id]? = some q.commands[id] := List.getElem?_eq_getElem inside
    simp only [executeNextWith, read, Outcome.done_andThen, place, kept, found]
  · have none_there : q.commands[id]? = none := List.getElem?_eq_none outside
    simp only [executeNextWith, read, Outcome.done_andThen, place, kept, none_there]
    rfl

/-- A round that ends well takes at least one byte; one that fails does so in a foreseen way. -/
theorem executeNextWith_cases (quiet : Quiet work) (runnable : q.Runnable) :
    (∃ q', q.executeNextWith work = .done q' () ∧ Behind q q' ∧ q.buffer.readCursor < q'.buffer.readCursor) ∨
      ∃ q' e, q.executeNextWith work = .failed q' e ∧ e.Foreseen := by
  obtain ⟨size, single, -⟩ := id runnable.ids
  obtain ⟨type, offset, cursor, failed⟩ | ⟨bytes, v, -, -, room, read⟩ := read_cases runnable single
  · right
    refine ⟨q, _, ?_, .inr (.inl ⟨type, offset, cursor, rfl⟩)⟩
    rw [executeNextWith, failed, Outcome.failed_andThen]
  have moved := behind_read room
  obtain ⟨id, -, inside, outside⟩ := picks runnable work _ v read
  by_cases listed : id < q.commands.length
  · rw [inside listed]
    have sound := sound_executeWith quiet (runnable.behind moved) (List.getElem_mem listed)
    obtain ⟨q', x, done⟩ | ⟨q', e, failed⟩ := (executeWith work _ q.commands[id]).done_or_failed
    · left
      rw [done] at sound ⊢
      refine ⟨q', rfl, moved.trans sound.behind, Nat.lt_of_lt_of_le ?_ sound.behind.moves⟩
      have sized := single.size_pos
      show q.buffer.readCursor < q.buffer.readCursor + gap q.buffer.readCursor q.idType.alignment + q.idType.size
      omega
    · right
      rw [failed] at sound ⊢
      exact ⟨q', e, rfl, sound.failure e rfl⟩
  · right
    exact ⟨_, _, outside (by omega), .inr (.inr ⟨_, rfl⟩)⟩

/-! ## Executing everything -/

/-- Each round takes a byte at least, and leaves a queue that can be run on. -/
theorem Executes.behind (quiet : Quiet work) {n : Nat} (executes : Executes work q n q₁) (runnable : q.Runnable) :
    Behind q q₁ ∧ q.buffer.readCursor + n ≤ q₁.buffer.readCursor := by
  induction executes with
  | nothing q => exact ⟨.refl q, Nat.le_refl _⟩
  | next waiting round rest ih =>
    obtain ⟨q', done, behind, progress⟩ | ⟨q', e, failed, -⟩ := executeNextWith_cases quiet runnable
    · rw [round] at done
      cases done
      obtain ⟨further, moved⟩ := ih (runnable.behind behind)
      exact ⟨behind.trans further, by omega⟩
    · rw [round] at failed
      cases failed

theorem Drains.prepend {n : Nat} {o : Step Nat} (waiting : q.buffer.hasCommands = true)
    (round : q.executeNextWith work = .done q₁ ()) (drains : Drains work q₁ n o) :
    ∃ o', Drains work q (n + 1) o' ∧ ∀ e, o'.answer = .error e → o.answer = .error e := by
  cases drains with
  | drained executes empty =>
    exact ⟨_, .drained (.next waiting round executes) empty, fun e failed => nomatch failed⟩
  | stopped executes left failed =>
    exact ⟨_, .stopped (.next waiting round executes) left failed, fun e same => same⟩

/-- Executing ends, after as many commands as there are bytes at most, and fails in a foreseen way only. -/
theorem drains (quiet : Quiet work) (runnable : q.Runnable) :
    ∃ n o, Drains work q n o ∧ n ≤ q.buffer.writeCursor - q.buffer.readCursor ∧
      ∀ e, o.answer = .error e → e.Foreseen := by
  -- What is left to read shrinks with every round.
  induction left : q.buffer.writeCursor - q.buffer.readCursor using Nat.strongRecOn generalizing q with
  | _ bytes ih =>
    cases waiting : q.buffer.hasCommands with
    | false => exact ⟨0, _, .drained (.nothing q) waiting, Nat.zero_le _, fun e failed => nomatch failed⟩
    | true =>
      have some_left : q.buffer.readCursor < q.buffer.writeCursor := by simpa [Buffer.hasCommands] using waiting
      obtain ⟨q', round, behind, progress⟩ | ⟨q', e, failed, foreseen⟩ := executeNextWith_cases quiet runnable
      · have same := behind.writeCursor
        obtain ⟨n, o, drains, few, foreseen⟩ := ih (q'.buffer.writeCursor - q'.buffer.readCursor) (by omega)
          (runnable.behind behind) rfl
        obtain ⟨o', drains', failures⟩ := drains.prepend waiting round
        exact ⟨n + 1, o', drains', by omega, fun e failed => foreseen e (failures e failed)⟩
      · refine ⟨1, _, .stopped (.nothing q) waiting failed, by omega, fun cause same => ?_⟩
        cases same
        exact foreseen

/-- Rounds with the own native side are rounds of the bounded loop, as long as its bound allows them. -/
theorem Executes.drain {n : Nat} (executes : Executes ask q n q₁) (count rest : Nat) :
    q.drain count (n + rest) = q₁.drain (count + n) rest := by
  induction executes generalizing count with
  | nothing q => rw [Nat.zero_add, Nat.add_zero]
  | @next q q₁ q₂ n waiting round _ ih =>
    have bound : n + 1 + rest = n + rest + 1 := by omega
    have counted : count + (n + 1) = count + 1 + n := by omega
    rw [bound, counted, CommandQueue.drain, if_pos waiting, executeNext_eq, round, Outcome.done_andThen, ih]

/-- The bounded loop with the own native side ends as the loop does, if its bound allows the rounds. -/
theorem Drains.drain {n : Nat} {o : Step Nat} (drains : Drains ask q n o) {fuel : Nat} (enough : n ≤ fuel) :
    ((q.drain 0 fuel).andThen fun q count => .done q.reset count) = o := by
  cases drains with
  | @drained _ q' executes empty =>
    obtain ⟨rest, rfl⟩ := Nat.exists_eq_add_of_le enough
    have last : q'.drain n rest = .done q' n := by
      cases rest with
      | zero => rfl
      | succ rest => rw [CommandQueue.drain, if_neg (by simp [empty])]
    rw [executes.drain 0 rest, Nat.zero_add, last, Outcome.done_andThen]
  | @stopped n q' q'' e executes waiting failed =>
    obtain ⟨rest, rfl⟩ := Nat.exists_eq_add_of_le enough
    have bound : n + 1 + rest = n + (rest + 1) := by omega
    rw [bound, executes.drain 0 (rest + 1), CommandQueue.drain, if_pos waiting, executeNext_eq, failed,
      Outcome.failed_andThen, Outcome.failed_andThen]

/-! ## The queue of an emitter -/

/-- The queue of an emitter can be run on any bytes, whatever its tables hold. -/
theorem runnable_ofEmitter {e : Emitter} {native : NativeSide} {b : Buffer} {tables : ResourceTables}
    (made : ofEmitter e native = .ok q) (known : e.HandlesKnown) (objects : e.ObjectsKnown)
    (alike : q.resources.Alike tables) (cursors : b.readCursor ≤ b.writeCursor) (inside : b.writeCursor ≤ b.data.length) :
    Runnable { q with buffer := b, resources := tables } := by
  obtain ⟨regular, ids, -⟩ := Backlog.regular_ofEmitter made known
  obtain ⟨-, kinds, -⟩ := Backlog.orderly_ofEmitter made
  refine ⟨ids, regular.single, ?_, ?_, cursors, inside⟩
  · intro c member x argument isHandle
    exact alike.knows (regular.known c member x argument isHandle)
  · intro c member kind creates
    rw [alike.present, kinds]
    obtain ⟨commands, listed, made⟩ := bind_ok made
    cases made
    obtain ⟨i, at_⟩ := List.mem_iff_getElem?.mp member
    obtain ⟨f, stands, command⟩ := Emitter.command_of_emitter listed at_
    obtain ⟨arguments, -, command⟩ := bind_ok command
    cases command
    obtain ⟨rule, among, makes⟩ := List.mem_filterMap.mp (List.mem_of_getLast? creates)
    have present := objects f (List.mem_of_getElem? stands) rule among kind makes
    rw [ResourceTables.table?_ofKinds present]
    rfl

/-- **Executing any bytes comes to an end.** Take the queue of an emitter whose handles all have tables: those among the
arguments, and those of the objects that are made (by `objectsKnown_of_build` there are always tables for the latter where
modules make objects of their own kinds). Give it any bytes, any two cursors in their order within these bytes, and anything
in the tables; and native work that leaves the buffer alone, such as that of the queue itself. Executing everything ends,
and begins as many commands as there are bytes between the cursors at most; no run is longer. In each round the id that is
read is the place of the command to execute, unless there is none in that place, and the only failures are an unknown id, a
value that would end past the write cursor, a handle that opens nothing, and those of the native side, of a handler or of a
look for an error. -/
theorem drains_any_bytes {e : Emitter} {native : NativeSide} {q₀ : CommandQueue} (made : ofEmitter e native = .ok q₀)
    (known : e.HandlesKnown) (objects : e.ObjectsKnown) {tables : ResourceTables} (alike : q₀.resources.Alike tables)
    {b : Buffer} (cursors : b.readCursor ≤ b.writeCursor) (inside : b.writeCursor ≤ b.data.length)
    {work : NativeWork} (quiet : Quiet work) :
    let q := { q₀ with buffer := b, resources := tables }
    (∃ n o, Drains work q n o ∧ n ≤ b.writeCursor - b.readCursor ∧ (work = ask → q.process = o) ∧
      ∀ failure, o.answer = .error failure →
        (∃ id, failure = .unknownCommand id) ∨ (∃ type offset cursor, failure = .read (.underrun type offset cursor)) ∨
        (∃ table handle, failure = .resource (.access (.invalid table handle))) ∨ ∃ cause, failure = .handler cause) ∧
    ∀ n q', Executes work q n q' →
      n ≤ b.writeCursor - b.readCursor ∧ (q'.buffer.hasCommands = true → Picks work q') := by
  intro q
  have runnable : q.Runnable := runnable_ofEmitter made known objects alike cursors inside
  constructor
  · obtain ⟨n, o, drains, few, foreseen⟩ := drains quiet runnable
    refine ⟨n, o, drains, few, ?_, ?_⟩
    · rintro rfl
      exact drains.drain few
    · intro failure failed
      obtain (⟨cause, ⟨table, handle, rfl⟩, rfl⟩ | native) | underrun | unknown := foreseen failure failed
      · exact .inr (.inr (.inl ⟨table, handle, rfl⟩))
      · exact .inr (.inr (.inr native))
      · exact .inr (.inl underrun)
      · exact .inl unknown
  · intro n q' executes
    obtain ⟨behind, taken⟩ := executes.behind quiet runnable
    have stops : q'.buffer.readCursor ≤ b.writeCursor := behind.stops cursors
    have first : q.buffer.readCursor = b.readCursor := rfl
    exact ⟨by omega, fun _ => picks (runnable.behind behind) work⟩

end CommandQueue

/-! ## Bytes that nobody enqueued -/

namespace StrayBytes

open BufferLife OverrideModule

/-- Tables with one buffer that nothing was stored for. -/
def tables : ResourceTables :=
  (queue.resources.call (glKind "Buffer" 0) (.create [.int 0])).state

/-- An id, seven bytes that are passed over, the handle of the buffer, and an id that no command has. -/
def buffer : Buffer where
  data := [0, 1, 2, 3, 4, 5, 6, 7, 0, 0, 0, 0, 1, 0, 0, 0, 9]
  writeCursor := 17
  readCursor := 0

set_option maxRecDepth 20000 in
/-- The buffer is made, and then the last byte is an unknown command. -/
theorem made_then_unknown : let q := { queue with buffer, resources := tables }
    (∃ n ≤ 17, CommandQueue.Drains CommandQueue.ask q n q.process) ∧
      q.process.answer.toOption = none ∧ q.process.state.calls = [⟨"GenBuffer", []⟩] := by
  have built : (Build.emitter [] registry builtIns "gl").answer = .ok emitter := by rfl
  have made : CommandQueue.ofEmitter emitter native = .ok queue := by rfl
  have known : emitter.HandlesKnown := by
    unfold Emitter.HandlesKnown
    decide
  obtain ⟨⟨n, o, drains, few, own, -⟩, -⟩ := CommandQueue.drains_any_bytes made known
    (objectsKnown_of_build makesOwn_builtIns built)
    (ResourceTables.alike_call queue.resources (glKind "Buffer" 0) (.create [.int 0])) (b := buffer) (by decide)
    (by decide) CommandQueue.quiet_ask
  refine ⟨⟨n, few, ?_⟩, rfl, rfl⟩
  rw [← own rfl] at drains
  exact drains

end StrayBytes

end CommandStream
