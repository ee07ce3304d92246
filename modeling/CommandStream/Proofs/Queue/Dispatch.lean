import CommandStream.Proofs.Queue.Regularity
import CommandStream.Proofs.Wire.Transfer

/-!
# The bytes behind a backlog

A queue serves a backlog when its buffer carries what waits: for each command its id, its arguments and
the handle for its object. Enqueuing and processing keep it so, answer for answer, until a handle opens
nothing; then the queue still answers as its backlog does, but what is behind this handle in the command
stays in front of the other commands.
-/

namespace CommandStream
open Wire

/-- Arguments as a buffer carries them. -/
def argumentItems (arguments : List WireArgument) (values : List Value) : List (WireType × Value) :=
  (arguments.zip values).map fun x => (x.1.type, x.2)

/-- The handle that a buffer carries for the object of a command that waits. -/
def Pending.reservedItems (p : Pending) : List (WireType × Value) :=
  p.reserved.toList.map fun x => (.handle, x.2)

/-- What a buffer carries behind the id of a command that waits. -/
def Pending.body (p : Pending) : List (WireType × Value) :=
  argumentItems p.command.arguments p.values ++ p.reservedItems

/-- What a buffer carries for a command that waits. -/
def Pending.items (idType : WireType) (p : Pending) : List (WireType × Value) :=
  (idType, .int p.command.id) :: p.body

namespace Backlog

/-- The arguments behind the first handle that opens nothing; none if there is no such handle. -/
def unreadArguments (r : ResourceTables) : List WireArgument → List Value → List (WireType × Value)
  | x :: arguments, v :: values =>
    match heldArgument r x v with
    | .error _ => argumentItems arguments values
    | .ok _ => unreadArguments r arguments values
  | _, _ => []

/-- What executing a command leaves of it in the buffer. -/
def unread (a : Backlog) (p : Pending) : List (WireType × Value) :=
  match heldArguments a.resources p.command.arguments p.values with
  | .error _ => unreadArguments a.resources p.command.arguments p.values ++ p.reservedItems
  | .ok _ => []

/-- What draining leaves in the buffer of the command at which it stops. -/
def leftover (a : Backlog) : List Pending → List (WireType × Value)
  | [] => []
  | p :: rest =>
    let executed := { a with pending := rest }.execute p
    match executed.answer with
    | .error _ => a.unread p
    | .ok _ => executed.state.leftover rest

/-- What an operation leaves in the buffer of a command that is no longer waiting. -/
def leftBehind (a : Backlog) : QueueOperation → List (WireType × Value)
  | .enqueue _ _ => []
  | .process => a.leftover a.pending

/-- The queue of a backlog, with a buffer. -/
def queue (a : Backlog) (idType : WireType) (buffer : Buffer) (state : QueueState) : CommandQueue :=
  { commands := a.commands, idType, native := a.native, resources := a.resources, buffer, state, calls := a.calls,
    log := a.log }

/-- The queue of a backlog as a part of an outcome. -/
def Step.queue {α : Type} (o : Step α) (idType : WireType) (buffer : Buffer) (state : QueueState) :
    CommandQueue.Step α :=
  o.within (fun a => a.queue idType buffer state) id

variable {a : Backlog} {t : WireType} {b : Buffer} {s : QueueState} {items : List (WireType × Value)}

/-! ## Steps without bytes -/

theorem step_queue_andThen {α β : Type} (o : Step α) {next : Backlog → α → Step β}
    {next' : CommandQueue → α → CommandQueue.Step β}
    (same : ∀ a x, next' (a.queue t b s) x = Step.queue (next a x) t b s) :
    (Step.queue o t b s).andThen next' = Step.queue (o.andThen next) t b s :=
  o.within_andThen same

theorem queue_callTable (a : Backlog) (kind : ResourceKind) (c : SlotCall) :
    (a.queue t b s).callTable kind c =
      Step.queue ((a.resources.call kind c).within (fun resources => { a with resources }) .resource) t b s := by
  unfold CommandQueue.callTable Step.queue Outcome.within
  dsimp only [queue]
  cases (a.resources.call kind c).answer <;> rfl

theorem queue_callHandleTable (a : Backlog) (handleType : String) (c : SlotCall) :
    (a.queue t b s).callHandleTable handleType c =
      Step.queue ((a.resources.callHandle handleType c).within (fun resources => { a with resources }) .resource) t b s := by
  unfold CommandQueue.callHandleTable Step.queue Outcome.within
  dsimp only [queue]
  cases (a.resources.callHandle handleType c).answer <;> rfl

theorem queue_callNative (a : Backlog) (name : String) (values : List Value) :
    (a.queue t b s).callNative name values = Step.queue (a.callNative name values) t b s := by
  cases found : a.native.handler? name with
  | none =>
    simp only [CommandQueue.callNative, callNative, queue, found]
    rfl
  | some handler =>
    simp only [CommandQueue.callNative, callNative, queue, found]
    cases handler a.calls ⟨name, values⟩ <;> rfl

theorem queue_lookForError (a : Backlog) (name : String) :
    (a.queue t b s).lookForError name = Step.queue (a.lookForError name) t b s := by
  cases found : a.native.errorCode? with
  | none =>
    simp only [CommandQueue.lookForError, lookForError, queue, found]
    rfl
  | some look =>
    simp only [CommandQueue.lookForError, lookForError, queue, found]
    cases look name with
    | error e => rfl
    | ok code =>
      dsimp only
      split <;> rfl

theorem queue_store (a : Backlog) (reserved : Option (ResourceKind × Value)) (answer : Value) :
    (a.queue t b s).store reserved answer = Step.queue (a.store reserved answer) t b s := by
  unfold CommandQueue.store store
  split
  · rfl
  · rw [queue_callTable]
    exact step_queue_andThen _ fun _ _ => rfl

theorem queue_destroy (a : Backlog) (handle : String × Value) :
    (((a.queue t b s).callHandleTable handle.1 (.destroy handle.2)).andThen fun q _ => .done q ()) =
      Step.queue (a.destroy handle) t b s := by
  rw [queue_callHandleTable]
  exact step_queue_andThen _ fun _ _ => rfl

theorem queue_release (a : Backlog) (handles : List (String × Value)) :
    (a.queue t b s).release handles = Step.queue (a.release handles) t b s := by
  induction handles generalizing a with
  | nil => rfl
  | cons handle rest ih =>
    simp only [CommandQueue.release, Outcome.runAll] at ih ⊢
    rw [queue_destroy]
    exact step_queue_andThen (a.destroy handle) fun a' _ => ih a'

/-! ## Reading -/

theorem queue_read {u : WireType} {v : Value} (carries : b.Carries ((u, v) :: items)) :
    (a.queue t b s).read u = .done (a.queue t (b.past [(u, v)]) s) v := by
  simp only [CommandQueue.read, queue, carries.read.1]

/-- The look of an argument into its slot. -/
theorem queue_readArguments_cons (distinct : a.resources.Distinct) {x : WireArgument} {v : Value}
    (carries : b.Carries ((x.type, v) :: items)) (arguments : List WireArgument) :
    (a.queue t b s).readArguments (x :: arguments) =
      match heldArgument a.resources x v with
      | .error e => .failed (a.queue t (b.past [(x.type, v)]) s) (.resource e)
      | .ok first => ((a.queue t (b.past [(x.type, v)]) s).readArguments arguments).andThen fun q (values, handles) =>
        .done q (first :: values, handleArgument x v ++ handles) := by
  have read := queue_read (a := a) (t := t) (s := s) carries
  cases isHandle : x.type.presentation with
  | plain | hooks => simp [CommandQueue.readArguments, read, isHandle, heldArgument, handleArgument]
  | handle =>
    have same := ResourceTables.callHandle_get_state distinct x.cType v
    have look : (a.queue t (b.past [(x.type, v)]) s).callHandleTable x.cType (.get v) =
        ⟨a.queue t (b.past [(x.type, v)]) s, (a.resources.callHandle x.cType (.get v)).answer.mapError .resource⟩ := by
      rw [queue_callHandleTable]
      simp only [Step.queue, Outcome.within, same]
      cases (a.resources.callHandle x.cType (.get v)).answer <;> rfl
    simp only [CommandQueue.readArguments, read, Outcome.done_andThen, isHandle, look, heldArgument, handleArgument]
    cases (a.resources.callHandle x.cType (.get v)).answer <;> rfl

/-- Arguments are read as they were written, and handles replaced by what they open. -/
theorem queue_readArguments (distinct : a.resources.Distinct) {arguments : List WireArgument} {values held : List Value}
    (count : values.length = arguments.length) (carries : b.Carries (argumentItems arguments values ++ items))
    (holds : heldArguments a.resources arguments values = .ok held) :
    (a.queue t b s).readArguments arguments =
      .done (a.queue t (b.past (argumentItems arguments values)) s) (held, handleArguments arguments values) := by
  induction arguments generalizing values held b with
  | nil =>
    cases values with
    | cons v values => cases count
    | nil =>
      cases holds
      rfl
  | cons x arguments ih =>
    cases values with
    | nil => cases count
    | cons v values =>
      obtain ⟨first, one, holds⟩ := bind_ok holds
      obtain ⟨others, more, holds⟩ := bind_ok holds
      cases holds
      have rest := ih (Nat.succ.inj count) carries.read.2 more
      rw [queue_readArguments_cons distinct carries, one]
      simp only [rest, Outcome.done_andThen, handleArguments]
      rfl

/-- Reading stops behind the first handle that opens nothing. -/
theorem queue_readArguments_refused (distinct : a.resources.Distinct) {arguments : List WireArgument}
    {values : List Value} (count : values.length = arguments.length)
    (carries : b.Carries (argumentItems arguments values ++ items)) {e : ResourceError}
    (refused : heldArguments a.resources arguments values = .error e) :
    ∃ taken, argumentItems arguments values = taken ++ unreadArguments a.resources arguments values ∧
      (a.queue t b s).readArguments arguments = .failed (a.queue t (b.past taken) s) (.resource e) := by
  induction arguments generalizing values b with
  | nil => cases refused
  | cons x arguments ih =>
    cases values with
    | nil => cases count
    | cons v values =>
      have step := queue_readArguments_cons (t := t) (s := s) distinct carries arguments
      rcases bind_error refused with one | ⟨first, one, refused⟩
      · refine ⟨[(x.type, v)], ?_, ?_⟩
        · rw [unreadArguments, one]
          rfl
        · rw [step, one]
      rcases bind_error refused with more | ⟨others, -, refused⟩
      · obtain ⟨taken, split, rest⟩ := ih (Nat.succ.inj count) carries.read.2 more
        refine ⟨(x.type, v) :: taken, ?_, ?_⟩
        · rw [unreadArguments, one]
          exact congrArg _ split
        · rw [step, one]
          simp only [rest, Outcome.failed_andThen]
          rfl
      · cases refused

theorem queue_readReserved {p : Pending} (creates : p.reserved.map Prod.fst = p.command.creates)
    (carries : b.Carries (p.reservedItems ++ items)) :
    (a.queue t b s).readReserved p.command = .done (a.queue t (b.past p.reservedItems) s) p.reserved := by
  unfold Pending.reservedItems at carries ⊢
  cases reserved : p.reserved with
  | none =>
    rw [reserved] at creates
    simp only [CommandQueue.readReserved, ← creates, Option.map_none]
    rfl
  | some x =>
    obtain ⟨kind, handle⟩ := x
    rw [reserved] at creates carries
    have read := queue_read (a := a) (t := t) (s := s) carries
    simp only [CommandQueue.readReserved, ← creates, Option.map_some, read, Outcome.done_andThen]
    rfl

/-! ## Executing -/

/-- A command whose id has been read is executed as it waits; all that belongs to it is read, up to the first
handle that opens nothing. -/
theorem queue_execute (distinct : a.resources.Distinct) {p : Pending} (fits : a.Fits p)
    (carries : b.Carries (p.body ++ items)) :
    ∃ taken, p.body = taken ++ a.unread p ∧
      (a.queue t b s).execute p.command = Step.queue (a.execute p) t (b.past taken) s := by
  rw [Pending.body, List.append_assoc] at carries
  unfold unread
  cases holds : heldArguments a.resources p.command.arguments p.values with
  | error e =>
    obtain ⟨taken, split, refused⟩ := queue_readArguments_refused (t := t) (s := s) distinct fits.count carries holds
    refine ⟨taken, ?_, ?_⟩
    · rw [Pending.body, split, List.append_assoc]
    · simp only [CommandQueue.execute, refused, Outcome.failed_andThen, execute, holds]
      rfl
  | ok held =>
    have read := queue_readArguments (t := t) (s := s) distinct fits.count carries holds
    have reserved := queue_readReserved (a := a) (t := t) (s := s) fits.creates carries.past
    refine ⟨p.body, (List.append_nil _).symm, ?_⟩
    rw [Buffer.past_past, ← Pending.body] at reserved
    simp only [CommandQueue.execute, read, reserved, Outcome.done_andThen, execute, holds, queue_callNative]
    refine step_queue_andThen _ fun a₁ answer => ?_
    rw [queue_lookForError]
    refine step_queue_andThen _ fun a₂ _ => ?_
    rw [queue_store]
    refine step_queue_andThen _ fun a₃ _ => ?_
    split
    · exact queue_release a₃ _
    · rfl

theorem queue_executeNext (orderly : a.Orderly) {p : Pending} (fits : a.Fits p) (carries : b.Carries (p.items t ++ items)) :
    ∃ taken, p.items t = taken ++ a.unread p ∧
      (a.queue t b s).executeNext = Step.queue (a.execute p) t (b.past taken) s := by
  have read := queue_read (a := a) (t := t) (s := s) carries
  obtain ⟨taken, split, executed⟩ := queue_execute (t := t) (s := s) orderly.distinct fits carries.read.2
  refine ⟨(t, .int p.command.id) :: taken, congrArg _ split, ?_⟩
  have id : ((Value.int p.command.id).int?.getD 0).toNat = p.command.id := rfl
  have idType : (a.queue t b s).idType = t := rfl
  have found : (a.queue t (b.past [(t, .int p.command.id)]) s).commands[p.command.id]? = some p.command :=
    orderly.command_of_id fits.command
  simp only [CommandQueue.executeNext, idType, read, Outcome.done_andThen, id, found]
  exact executed

theorem unread_of_ok {p : Pending} {x : Unit} (executed : (a.execute p).answer = .ok x) : a.unread p = [] := by
  unfold unread
  cases holds : heldArguments a.resources p.command.arguments p.values with
  | ok held => rfl
  | error e =>
    simp only [execute, holds] at executed
    cases executed

/-- Draining executes what waits, and leaves what waits behind a command that fails. -/
theorem queue_drain (orderly : a.Orderly) (sized : 1 ≤ t.size) {pending : List Pending}
    (fits : ∀ p ∈ pending, a.Fits p) (carries : b.Carries (pending.flatMap (Pending.items t))) (count : Nat)
    {fuel : Nat} (enough : pending.length ≤ fuel) :
    ∃ off taken, pending = off ++ (a.drain count pending).state.pending ∧
      off.flatMap (Pending.items t) = taken ++ a.leftover pending ∧
      (a.queue t b s).drain count fuel = Step.queue (a.drain count pending) t (b.past taken) s := by
  induction pending generalizing a b count fuel with
  | nil =>
    have drained : (a.queue t b s).buffer.hasCommands = false := carries.hasCommands_nil
    refine ⟨[], [], rfl, rfl, ?_⟩
    cases fuel with
    | zero => rfl
    | succ fuel =>
      simp only [CommandQueue.drain, drained, Bool.false_eq_true, if_false]
      rfl
  | cons p rest ih =>
    obtain ⟨fuel, rfl⟩ : ∃ n, fuel = n + 1 := ⟨fuel - 1, by simp only [List.length_cons] at enough; omega⟩
    have front : Alike a { a with pending := rest } := ⟨rfl, rfl, .refl _⟩
    have others : ∀ x ∈ rest, a.Fits x := fun x member => fits x (List.mem_cons_of_mem _ member)
    have ready := orderly.alike front fun x member => .inr ((others x member).alike front)
    have waiting : (a.queue t b s).buffer.hasCommands = true := carries.hasCommands_cons sized
    rw [List.flatMap_cons] at carries
    obtain ⟨taken, split, executed⟩ := queue_executeNext (s := s) ready ((fits p List.mem_cons_self).alike front) carries
    have next : (a.queue t b s).executeNext = Step.queue ({ a with pending := rest }.execute p) t (b.past taken) s := executed
    have beside := beside_execute { a with pending := rest } p
    have chain : a.drain count (p :: rest) =
        ({ a with pending := rest }.execute p).andThen fun a _ => a.drain (count + 1) rest := rfl
    simp only [CommandQueue.drain, waiting, if_true, next, chain, leftover]
    obtain ⟨a₁, x, done⟩ | ⟨a₁, e, failed⟩ := ({ a with pending := rest }.execute p).done_or_failed
    · have whole := unread_of_ok (congrArg Outcome.answer done)
      rw [whole, List.append_nil] at split
      rw [done] at beside ⊢
      obtain ⟨off, takenNext, kept, splitNext, drained⟩ := ih (ready.beside beside)
        (fun x member => ((others x member).alike front).alike beside.toAlike) (split ▸ carries.past) (count + 1)
        (Nat.le_of_succ_le_succ enough)
      refine ⟨p :: off, taken ++ takenNext, congrArg _ kept, ?_, ?_⟩
      · rw [List.flatMap_cons, splitNext, split, List.append_assoc]
        rfl
      · rw [← Buffer.past_past]
        exact drained
    · -- The command is off the backlog, and what was not read of it is still in the buffer.
      rw [failed] at beside ⊢
      have kept : a₁.pending = rest := beside.pending
      refine ⟨[p], taken, ?_, ?_, rfl⟩
      · simp only [Outcome.failed_andThen, Outcome.state_failed, kept, List.cons_append, List.nil_append]
      · rw [List.flatMap_cons, List.flatMap_nil, List.append_nil, split]
        rfl

/-- Nothing is left in the buffer of a command that meets no handle that opens nothing. -/
theorem leftover_of_answered {pending : List Pending} (count : Nat)
    (answered : ∀ e, (a.drain count pending).answer ≠ .error (.resource e)) : a.leftover pending = [] := by
  induction pending generalizing a count with
  | nil => rfl
  | cons p rest ih =>
    have chain : a.drain count (p :: rest) =
        ({ a with pending := rest }.execute p).andThen fun a _ => a.drain (count + 1) rest := rfl
    rw [chain] at answered
    rw [leftover]
    obtain ⟨a₁, x, done⟩ | ⟨a₁, e, failed⟩ := ({ a with pending := rest }.execute p).done_or_failed
    · rw [done] at answered ⊢
      exact ih (count + 1) answered
    · rw [failed] at answered ⊢
      show a.unread p = []
      unfold unread
      cases holds : heldArguments a.resources p.command.arguments p.values with
      | ok held => rfl
      | error cause =>
        simp only [execute, holds] at failed
        cases failed
        exact absurd rfl (answered cause)

theorem size_pos_of_fits (orderly : a.Orderly) (sized : 1 ≤ t.size) {p : Pending} (fits : a.Fits p) :
    ∀ item ∈ p.items t, 1 ≤ item.1.size := by
  have arguments : ∀ (arguments : List WireArgument) (values : List Value),
      (∀ x ∈ arguments, 1 ≤ x.type.size) → ∀ item ∈ argumentItems arguments values, 1 ≤ item.1.size := by
    intro arguments values each item member
    obtain ⟨⟨x, v⟩, paired, rfl⟩ := List.mem_map.mp member
    exact each x (List.of_mem_zip paired).1
  intro item member
  rcases List.mem_cons.mp member with rfl | member
  · exact sized
  rcases List.mem_append.mp member with member | member
  · refine arguments _ _ (fun x own => ?_) item member
    obtain ⟨kind, single⟩ := orderly.single p.command fits.command x own
    exact single.size_pos
  · obtain ⟨x, -, rfl⟩ := List.mem_map.mp member
    exact WireType.single_handle.size_pos

theorem length_le_items (pending : List Pending) :
    pending.length ≤ (pending.flatMap (Pending.items t)).length := by
  induction pending with
  | nil => exact Nat.le_refl 0
  | cons p rest ih =>
    rw [List.flatMap_cons, List.length_append, Pending.items, List.length_cons, List.length_cons]
    omega

/-- Processing drains the buffer and clears it, unless a command fails. -/
theorem queue_process (orderly : a.Orderly) (sized : 1 ≤ t.size)
    (carries : b.Carries (a.pending.flatMap (Pending.items t))) :
    ∃ b' s', (a.queue t b s).process = Step.queue a.process t b' s' ∧
      b'.Carries (a.leftover a.pending ++ a.process.state.pending.flatMap (Pending.items t)) ∧
      ∀ e, a.process.answer = .error e → s' = s ∧ ∃ off taken, a.pending = off ++ a.process.state.pending ∧
        off.flatMap (Pending.items t) = taken ++ a.leftover a.pending ∧ b' = b.past taken := by
  have each : ∀ item ∈ a.pending.flatMap (Pending.items t), 1 ≤ item.1.size := by
    intro item member
    obtain ⟨p, waits, member⟩ := List.mem_flatMap.mp member
    exact size_pos_of_fits orderly sized (orderly.fits p waits) item member
  have enough : a.pending.length ≤ b.writeCursor - b.readCursor :=
    Nat.le_trans (length_le_items a.pending) (carries.length_le each)
  obtain ⟨off, taken, kept, split, drained⟩ := queue_drain (s := s) orderly sized orderly.fits carries 0 enough
  have whole : (a.queue t b s).process = ((a.queue t b s).drain 0 (b.writeCursor - b.readCursor)).andThen fun q count =>
      .done q.reset count := rfl
  rw [whole, drained, process]
  obtain ⟨a₁, count, done⟩ | ⟨a₁, e, failed⟩ := (a.drain 0 a.pending).done_or_failed
  · have idle := (drain_count (congrArg Outcome.answer done)).2
    have nothing : a.leftover a.pending = [] := leftover_of_answered 0 fun cause refused => by
      rw [done] at refused
      cases refused
    rw [done] at idle ⊢
    refine ⟨.empty, .idle, rfl, ?_, fun e failed => nomatch failed⟩
    rw [idle, nothing]
    exact Buffer.carries_empty
  · rw [failed] at kept ⊢
    refine ⟨b.past taken, s, rfl, ?_, fun _ _ => ⟨rfl, off, taken, kept, split, rfl⟩⟩
    refine Buffer.Carries.past ?_
    rw [← List.append_assoc, ← split, ← List.flatMap_append]
    exact kept ▸ carries

/-! ## Enqueuing -/

/-- A value that is written arrives. -/
theorem queue_write {u : WireType} {kind : Scalar} (single : u.Single kind) (carries : b.Carries items) {v : Value}
    (written : ((a.queue t b s).write u v).answer = .ok ()) :
    ∃ w b', u.delivered v = .ok w ∧ (a.queue t b s).write u v = .done (a.queue t b' s) () ∧
      b'.Carries (items ++ [(u, w)]) := by
  have buffer : (a.queue t b s).buffer = b := rfl
  cases packed : u.pack v with
  | error e =>
    simp only [CommandQueue.write, buffer, Buffer.write, packed] at written
    cases written
  | ok data =>
    obtain ⟨w, arrives⟩ := single.delivered_of_pack packed
    obtain ⟨b', done, carries⟩ := carries.write arrives
    refine ⟨w, b', arrives, ?_, carries⟩
    simp only [CommandQueue.write, buffer, done]
    rfl

theorem queue_writeArguments {arguments : List WireArgument} {values : List Value}
    (single : ∀ x ∈ arguments, ∃ kind, x.type.Single kind) (count : values.length = arguments.length)
    (carries : b.Carries items) (written : ((a.queue t b s).writeArguments arguments values).answer = .ok ()) :
    ∃ arrived b', arrivals arguments values = .ok arrived ∧
      (a.queue t b s).writeArguments arguments values = .done (a.queue t b' s) () ∧
      b'.Carries (items ++ argumentItems arguments arrived) := by
  induction arguments generalizing values b items with
  | nil =>
    cases values with
    | cons v values => cases count
    | nil =>
      refine ⟨[], b, rfl, rfl, ?_⟩
      rw [argumentItems, List.zip_nil_left, List.map_nil, List.append_nil]
      exact carries
  | cons x arguments ih =>
    cases values with
    | nil => cases count
    | cons v values =>
      obtain ⟨kind, element⟩ := single x List.mem_cons_self
      obtain ⟨q₁, _, first, chain⟩ := Outcome.andThen_ok written
      obtain ⟨w, b₁, arrives, write, carries⟩ := queue_write element carries (congrArg Outcome.answer first)
      rw [first] at write
      cases write
      rw [CommandQueue.writeArguments, chain] at written ⊢
      obtain ⟨others, b₂, rest, writes, carries⟩ :=
        ih (fun y member => single y (List.mem_cons_of_mem _ member)) (Nat.succ.inj count) carries written
      refine ⟨w :: others, b₂, ?_, writes, ?_⟩
      · simp only [arrivals, arrives, rest, bind, Except.bind]
      · rw [List.append_assoc] at carries
        exact carries

theorem queue_reserve {kind : ResourceKind} {handle : Value} (carries : b.Carries items)
    (issued : ((a.queue t b s).reserve kind).answer = .ok handle) :
    ∃ arrived b', (a.resources.call kind (.create [.int 0])).answer = .ok handle ∧
      WireType.handle.delivered handle = .ok arrived ∧
      (a.queue t b s).reserve kind =
        .done ({ a with resources := (a.resources.call kind (.create [.int 0])).state }.queue t b' s) handle ∧
      b'.Carries (items ++ [(.handle, arrived)]) := by
  obtain ⟨q₁, h, created, chain⟩ := Outcome.andThen_ok issued
  rw [CommandQueue.reserve, chain] at issued ⊢
  obtain ⟨q₂, _, written, last⟩ := Outcome.andThen_ok issued
  rw [last] at issued ⊢
  cases issued
  rw [queue_callTable] at created
  cases made : (a.resources.call kind (.create [.int 0])).answer with
  | error e =>
    simp only [Step.queue, Outcome.within, made] at created
    cases created
  | ok value =>
    simp only [Step.queue, Outcome.within, made] at created
    cases created
    obtain ⟨arrived, b', arrives, done, carries⟩ :=
      queue_write WireType.single_handle carries (congrArg Outcome.answer written)
    rw [written] at done
    cases done
    exact ⟨arrived, b', rfl, arrives, rfl, carries⟩

/-- A command whose id and arguments are written is accepted. -/
theorem queue_accept {c : Command} {arrived : List Value} {handle : Value}
    (carries : b.Carries (a.pending.flatMap (Pending.items t) ++
      (t, .int c.id) :: argumentItems c.arguments arrived))
    (accepted : (match c.creates with
      | some kind => (a.queue t b s).reserve kind
      | none => .done (a.queue t b s) .absent).answer = .ok handle) :
    ∃ b', (match c.creates with
        | some kind => (a.queue t b s).reserve kind
        | none => .done (a.queue t b s) .absent) = Step.queue (a.accept c arrived) t b' s ∧
      b'.Carries ((a.accept c arrived).state.pending.flatMap (Pending.items t)) := by
  unfold accept
  cases creates : c.creates with
  | none =>
    refine ⟨b, rfl, ?_⟩
    simpa [push, Pending.items, Pending.body, Pending.reservedItems] using carries
  | some kind =>
    simp only [creates] at accepted ⊢
    obtain ⟨held, b', made, arrives, done, carries⟩ := queue_reserve carries accepted
    refine ⟨b', ?_, ?_⟩
    · simp only [done, made, arrives]
      rfl
    · simpa [made, arrives, push, Pending.items, Pending.body, Pending.reservedItems] using carries

/-- A command that is enqueued waits behind the others. -/
theorem queue_enqueue (orderly : a.Orderly) (ids : t.CarriesIds)
    (carries : b.Carries (a.pending.flatMap (Pending.items t))) {name : String} {values : List Value} {handle : Value}
    (enqueued : ((a.queue t b s).enqueue name values).answer = .ok handle) :
    ∃ b', (a.queue t b s).enqueue name values = Step.queue (a.enqueue name values) t b' .draining ∧
      b'.Carries ((a.enqueue name values).state.pending.flatMap (Pending.items t)) := by
  have command : (a.queue t b s).command? name = a.commands.find? fun c => c.shortName == name := rfl
  unfold CommandQueue.enqueue at enqueued ⊢
  unfold enqueue
  rw [command] at enqueued ⊢
  cases found : a.commands.find? fun c => c.shortName == name with
  | none =>
    rw [found] at enqueued
    cases enqueued
  | some c =>
    simp only [found] at enqueued ⊢
    by_cases count : values.length = c.arguments.length
    · rw [if_neg (not_not_intro count)] at enqueued ⊢
      rw [if_neg (not_not_intro count)]
      have single := orderly.single c (List.mem_of_find?_eq_some found)
      obtain ⟨size, idSingle, -⟩ := id ids
      obtain ⟨q₁, _, first, chain⟩ := Outcome.andThen_ok enqueued
      obtain ⟨sent, b₁, arrives, done, carries⟩ :=
        queue_write (a := a) (s := .draining) idSingle carries (congrArg Outcome.answer first)
      obtain rfl := ids.delivered arrives
      obtain rfl : q₁ = a.queue t b₁ .draining := congrArg Outcome.state (first.symm.trans done)
      rw [chain] at enqueued ⊢
      obtain ⟨q₂, _, second, chain⟩ := Outcome.andThen_ok enqueued
      obtain ⟨arrived, b₂, arrives, done, carries⟩ :=
        queue_writeArguments single count carries (congrArg Outcome.answer second)
      obtain rfl : q₂ = a.queue t b₂ .draining := congrArg Outcome.state (second.symm.trans done)
      rw [chain] at enqueued ⊢
      rw [List.append_assoc] at carries
      rw [arrives]
      exact queue_accept carries enqueued
    · rw [if_pos count] at enqueued
      cases enqueued

end Backlog

end CommandStream
