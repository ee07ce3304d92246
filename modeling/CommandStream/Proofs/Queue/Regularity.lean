import CommandStream.Proofs.Queue.Backlog
import CommandStream.Proofs.Slot.Tables
import CommandStream.Proofs.Wire.Single

/-!
# What every backlog keeps

Operations change neither the commands nor the native side nor which tables there are, and whatever
waits fits its command. So if there is a table for each handle argument, executing fails in two ways
only: a handler fails, or a handle opens nothing.
-/

namespace CommandStream
open Wire

/-- A failure that says that a handle opens nothing. -/
def QueueError.Refusal (e : QueueError) : Prop :=
  ∃ cause : ResourceError, cause.Refusal ∧ e = .resource cause

/-- A failure that execution may meet. -/
def QueueError.Expected (e : QueueError) : Prop :=
  e.Refusal ∨ ∃ cause, e = .handler cause

namespace Backlog

/-- Backlogs with the same commands, the same native side and the same tables, whatever these hold. -/
structure Alike (a a' : Backlog) : Prop where
  commands : a'.commands = a.commands
  native : a'.native = a.native
  resources : a.resources.Alike a'.resources

/-- Alike backlogs in which the same commands wait. -/
structure Beside (a a' : Backlog) : Prop extends Alike a a' where
  pending : a'.pending = a.pending

variable {a : Backlog}

theorem Alike.refl (a : Backlog) : Alike a a :=
  ⟨rfl, rfl, .refl _⟩

theorem Alike.trans {a₁ a₂ a₃ : Backlog} (first : Alike a₁ a₂) (second : Alike a₂ a₃) : Alike a₁ a₃ :=
  ⟨second.commands.trans first.commands, second.native.trans first.native, first.resources.trans second.resources⟩

theorem Beside.refl (a : Backlog) : Beside a a :=
  ⟨.refl a, rfl⟩

theorem Beside.andThen {α β : Type} {o : Step α} {next : Backlog → α → Step β} (first : Beside a o.state)
    (second : ∀ a' x, Beside a' (next a' x).state) : Beside a (o.andThen next).state := by
  cases answer : o.answer with
  | error e =>
    simp only [Outcome.andThen, answer]
    exact first
  | ok x =>
    have step := second o.state x
    simp only [Outcome.andThen, answer]
    exact ⟨first.toAlike.trans step.toAlike, step.pending.trans first.pending⟩

/-! ## Steps of an execution -/

theorem beside_report (a : Backlog) (severity : Severity) (message : String) : Beside a (a.report severity message) :=
  ⟨⟨rfl, rfl, .refl _⟩, rfl⟩

theorem beside_callNative (a : Backlog) (name : String) (values : List Value) :
    Beside a (a.callNative name values).state := by
  unfold callNative
  split
  · exact beside_report a _ _
  · dsimp only
    split <;> exact ⟨⟨rfl, rfl, .refl _⟩, rfl⟩

theorem beside_lookForError (a : Backlog) (name : String) : Beside a (a.lookForError name).state := by
  unfold lookForError
  split
  · exact .refl a
  split
  · exact .refl a
  split
  · exact .refl a
  · exact beside_report a _ _

theorem beside_store (a : Backlog) (reserved : Option (ResourceKind × Value)) (answer : Value) :
    Beside a (a.store reserved answer).state := by
  unfold store
  split
  · exact .refl a
  · exact Beside.andThen ⟨⟨rfl, rfl, ResourceTables.alike_call _ _ _⟩, rfl⟩ fun a' _ => .refl a'

theorem beside_destroy (a : Backlog) (handle : String × Value) : Beside a (a.destroy handle).state :=
  Beside.andThen ⟨⟨rfl, rfl, ResourceTables.alike_callHandle _ _ _⟩, rfl⟩ fun a' _ => .refl a'

theorem beside_release (a : Backlog) (handles : List (String × Value)) : Beside a (a.release handles).state := by
  induction handles generalizing a with
  | nil => exact .refl a
  | cons handle rest ih => exact Beside.andThen (beside_destroy a handle) fun a' _ => ih a'

theorem beside_execute (a : Backlog) (p : Pending) : Beside a (a.execute p).state := by
  unfold execute
  split
  · exact .refl a
  refine Beside.andThen (beside_callNative a _ _) fun a₁ answer => ?_
  refine Beside.andThen (beside_lookForError a₁ p.command.shortName) fun a₂ _ => ?_
  refine Beside.andThen (beside_store a₂ p.reserved answer) fun a₃ _ => ?_
  split
  · exact beside_release a₃ _
  · exact .refl a₃

/-! ## What fits -/

/-- A command that waits as its command wants it. -/
structure Fits (a : Backlog) (p : Pending) : Prop where
  command : p.command ∈ a.commands
  count : p.values.length = p.command.arguments.length
  handles : ∀ x ∈ p.handles, x.2.key?.isSome
  creates : p.reserved.map Prod.fst = p.command.creates
  reserved : ∀ x ∈ p.reserved, (a.resources.table? x.1.tableName).isSome ∧ x.2.key?.isSome

/-- A backlog whose commands stand at the places of their ids, with single elements as arguments, and
with fitting commands that wait. -/
structure Orderly (a : Backlog) : Prop where
  identified : ∀ (i : Nat) (c : Command), a.commands[i]? = some c → c.id = i
  single : ∀ c ∈ a.commands, ∀ x ∈ c.arguments, ∃ kind, x.type.Single kind
  distinct : a.resources.Distinct
  fits : ∀ p ∈ a.pending, a.Fits p

/-- An orderly backlog with a table for each handle argument. -/
structure Regular (a : Backlog) : Prop extends Orderly a where
  known : ∀ c ∈ a.commands, ∀ x ∈ c.arguments, x.type.presentation = .handle → a.resources.Knows x.cType

theorem Fits.alike {a' : Backlog} {p : Pending} (fits : a.Fits p) (alike : Alike a a') : a'.Fits p where
  command := alike.commands ▸ fits.command
  count := fits.count
  handles := fits.handles
  creates := fits.creates
  reserved := fun x member => ⟨(alike.resources.present _).trans (fits.reserved x member).1, (fits.reserved x member).2⟩

/-- Alike backlogs are orderly together, as far as what waits was there before or fits. -/
theorem Orderly.alike {a' : Backlog} (orderly : a.Orderly) (alike : Alike a a')
    (fits : ∀ p ∈ a'.pending, p ∈ a.pending ∨ a'.Fits p) : a'.Orderly where
  identified := alike.commands ▸ orderly.identified
  single := alike.commands ▸ orderly.single
  distinct := alike.resources.distinct orderly.distinct
  fits := by
    intro _ member
    rcases fits _ member with before | fitting
    · exact (orderly.fits _ before).alike alike
    · exact fitting

theorem Orderly.beside {a' : Backlog} (orderly : a.Orderly) (beside : Beside a a') : a'.Orderly :=
  orderly.alike beside.toAlike fun _ member => .inl (beside.pending ▸ member)

/-- An orderly backlog that is alike a regular one is regular. -/
theorem Regular.of_alike {a' : Backlog} (regular : a.Regular) (alike : Alike a a') (orderly : a'.Orderly) : a'.Regular where
  toOrderly := orderly
  known := by
    intro c member x argument isHandle
    exact alike.resources.knows (regular.known c (alike.commands ▸ member) x argument isHandle)

theorem Regular.alike {a' : Backlog} (regular : a.Regular) (alike : Alike a a')
    (fits : ∀ p ∈ a'.pending, p ∈ a.pending ∨ a'.Fits p) : a'.Regular :=
  regular.of_alike alike (regular.toOrderly.alike alike fits)

theorem Regular.beside {a' : Backlog} (regular : a.Regular) (beside : Beside a a') : a'.Regular :=
  regular.of_alike beside.toAlike (regular.toOrderly.beside beside)

/-- The command of an id. -/
theorem Orderly.command_of_id (orderly : a.Orderly) {c : Command} (member : c ∈ a.commands) :
    a.commands[c.id]? = some c := by
  obtain ⟨i, bound, found⟩ := List.mem_iff_getElem.mp member
  have at_ : a.commands[i]? = some c := List.getElem?_eq_some_iff.mpr ⟨bound, found⟩
  rw [orderly.identified i c at_]
  exact at_

/-! ## How executing fails -/

theorem heldArgument_refused {r : ResourceTables} {x : WireArgument} {v : Value}
    (known : x.type.presentation = .handle → r.Knows x.cType) (keys : ∀ y ∈ handleArgument x v, y.2.key?.isSome)
    {e : ResourceError} (failed : heldArgument r x v = .error e) : e.Refusal := by
  by_cases isHandle : x.type.presentation = .handle
  · rw [heldArgument_of_handle r isHandle] at failed
    have key : v.key?.isSome := keys (x.cType, v) (mem_handleArgument.mpr ⟨isHandle, rfl⟩)
    exact ResourceTables.callHandle_refused (known isHandle) rfl key failed
  · rw [heldArgument_of_ne r isHandle] at failed
    cases failed

theorem heldArguments_refused {r : ResourceTables} {arguments : List WireArgument} {values : List Value}
    (known : ∀ x ∈ arguments, x.type.presentation = .handle → r.Knows x.cType)
    (keys : ∀ x ∈ handleArguments arguments values, x.2.key?.isSome) {e : ResourceError}
    (failed : heldArguments r arguments values = .error e) : e.Refusal := by
  induction arguments generalizing values with
  | nil => cases failed
  | cons x arguments ih =>
    cases values with
    | nil => cases failed
    | cons v values =>
      simp only [handleArguments, List.mem_append] at keys
      rcases bind_error failed with failed | ⟨first, -, failed⟩
      · exact heldArgument_refused (known x List.mem_cons_self) (fun y member => keys y (.inl member)) failed
      rcases bind_error failed with failed | ⟨others, -, failed⟩
      · exact ih (fun y member => known y (List.mem_cons_of_mem _ member)) (fun y member => keys y (.inr member)) failed
      · cases failed

theorem callNative_error {name : String} {values : List Value} {e : QueueError}
    (failed : (a.callNative name values).answer = .error e) : ∃ cause, e = .handler cause := by
  unfold callNative at failed
  split at failed
  · cases failed
  · dsimp only at failed
    split at failed
    · cases failed
    · cases failed
      exact ⟨_, rfl⟩

theorem lookForError_error {name : String} {e : QueueError} (failed : (a.lookForError name).answer = .error e) :
    ∃ cause, e = .handler cause := by
  unfold lookForError at failed
  split at failed
  · cases failed
  split at failed
  · cases failed
    exact ⟨_, rfl⟩
  split at failed <;> cases failed

theorem store_refused {reserved : Option (ResourceKind × Value)} {answer : Value}
    (fits : ∀ x ∈ reserved, (a.resources.table? x.1.tableName).isSome ∧ x.2.key?.isSome) {e : QueueError}
    (failed : (a.store reserved answer).answer = .error e) : e.Refusal := by
  unfold store at failed
  split at failed
  · cases failed
  · rename_i kind handle
    rcases Outcome.andThen_error failed with failed | ⟨_, _, failed⟩
    · obtain ⟨cause, refused, rfl⟩ := Outcome.within_error failed
      obtain ⟨present, key⟩ := fits (kind, handle) rfl
      exact ⟨cause, ResourceTables.call_refused present rfl key refused, rfl⟩
    · cases failed

theorem release_refused {handles : List (String × Value)}
    (fits : ∀ x ∈ handles, a.resources.Knows x.1 ∧ x.2.key?.isSome) {e : QueueError}
    (failed : (a.release handles).answer = .error e) : e.Refusal := by
  induction handles generalizing a with
  | nil => cases failed
  | cons handle rest ih =>
    rcases Outcome.andThen_error failed with failed | ⟨_, _, failed⟩
    · rcases Outcome.andThen_error failed with failed | ⟨_, _, failed⟩
      · obtain ⟨cause, refused, rfl⟩ := Outcome.within_error failed
        obtain ⟨known, key⟩ := fits handle List.mem_cons_self
        exact ⟨cause, ResourceTables.callHandle_refused known rfl key refused, rfl⟩
      · cases failed
    · refine ih (fun x member => ?_) failed
      obtain ⟨known, key⟩ := fits x (List.mem_cons_of_mem _ member)
      exact ⟨(beside_destroy a handle).resources.knows known, key⟩

/-- The handles of fitting arguments name tables. -/
theorem knows_handleArguments {r : ResourceTables} {arguments : List WireArgument} {values : List Value}
    (known : ∀ x ∈ arguments, x.type.presentation = .handle → r.Knows x.cType) :
    ∀ x ∈ handleArguments arguments values, r.Knows x.1 := by
  induction arguments generalizing values with
  | nil => simp [handleArguments]
  | cons y arguments ih =>
    cases values with
    | nil => simp [handleArguments]
    | cons v values =>
      intro x member
      rcases List.mem_append.mp member with own | member
      · obtain ⟨isHandle, rfl⟩ := mem_handleArgument.mp own
        exact known y List.mem_cons_self isHandle
      · exact ih (fun z member => known z (List.mem_cons_of_mem _ member)) x member

/-- Executing what fits fails as expected. -/
theorem execute_expected (regular : a.Regular) {p : Pending} (fits : a.Fits p) {e : QueueError}
    (failed : (a.execute p).answer = .error e) : e.Expected := by
  have known := regular.known p.command fits.command
  unfold execute at failed
  split at failed
  · rename_i cause refused
    cases failed
    exact .inl ⟨cause, heldArguments_refused known fits.handles refused, rfl⟩
  rename_i values _
  have called := beside_callNative a p.command.shortName values
  have looked := beside_lookForError (a.callNative p.command.shortName values).state p.command.shortName
  rcases Outcome.andThen_error failed with failed | ⟨answer, _, failed⟩
  · exact .inr (callNative_error failed)
  rcases Outcome.andThen_error failed with failed | ⟨_, _, failed⟩
  · exact .inr (lookForError_error failed)
  have fitting := (fits.alike called.toAlike).alike looked.toAlike
  rcases Outcome.andThen_error failed with failed | ⟨_, _, failed⟩
  · exact .inl (store_refused fitting.reserved failed)
  split at failed
  · have stored := beside_store
      ((a.callNative p.command.shortName values).state.lookForError p.command.shortName).state p.reserved answer
    have alike := (called.toAlike.trans looked.toAlike).trans stored.toAlike
    refine .inl (release_refused (fun x member => ⟨?_, fits.handles x member⟩) failed)
    exact alike.resources.knows (knows_handleArguments known x member)
  · cases failed

/-! ## Draining -/

theorem alike_drain (a : Backlog) (count : Nat) (pending : List Pending) : Alike a (a.drain count pending).state := by
  induction pending generalizing a count with
  | nil => exact ⟨rfl, rfl, .refl _⟩
  | cons p rest ih =>
    have first : Alike a { a with pending := rest } := ⟨rfl, rfl, .refl _⟩
    have executed := beside_execute { a with pending := rest } p
    cases answer : ({ a with pending := rest }.execute p).answer with
    | error e =>
      simp only [drain, Outcome.andThen, answer]
      exact first.trans executed.toAlike
    | ok x =>
      simp only [drain, Outcome.andThen, answer]
      exact (first.trans executed.toAlike).trans (ih _ _)

/-- Draining takes commands off the front. -/
theorem pending_drain (a : Backlog) (count : Nat) (pending : List Pending) :
    (a.drain count pending).state.pending <:+ pending := by
  induction pending generalizing a count with
  | nil => exact List.nil_suffix
  | cons p rest ih =>
    cases answer : ({ a with pending := rest }.execute p).answer with
    | error e =>
      simp only [drain, Outcome.andThen, answer, Outcome.state_failed]
      rw [(beside_execute _ p).pending]
      exact List.suffix_cons p rest
    | ok x =>
      simp only [drain, Outcome.andThen, answer]
      exact (ih _ _).trans (List.suffix_cons p rest)

theorem drain_expected (regular : a.Regular) {count : Nat} {pending : List Pending} (fits : ∀ p ∈ pending, a.Fits p)
    {e : QueueError} (failed : (a.drain count pending).answer = .error e) : e.Expected := by
  induction pending generalizing a count with
  | nil => cases failed
  | cons p rest ih =>
    have first : Alike a { a with pending := rest } := ⟨rfl, rfl, .refl _⟩
    have others : ∀ x ∈ rest, a.Fits x := fun x member => fits x (List.mem_cons_of_mem _ member)
    have front := regular.alike first fun x member => .inr ((others x member).alike first)
    have fitting := (fits p List.mem_cons_self).alike first
    have executed := beside_execute { a with pending := rest } p
    rcases Outcome.andThen_error failed with failed | ⟨_, _, failed⟩
    · exact execute_expected front fitting failed
    · exact ih (front.beside executed) (fun x member => (others x member).alike (first.trans executed.toAlike)) failed

/-- A drained backlog counts what waited. -/
theorem drain_count {count total : Nat} {pending : List Pending} (drained : (a.drain count pending).answer = .ok total) :
    total = count + pending.length ∧ (a.drain count pending).state.pending = [] := by
  induction pending generalizing a count with
  | nil =>
    cases drained
    exact ⟨rfl, rfl⟩
  | cons p rest ih =>
    obtain ⟨_, _, -, chain⟩ := Outcome.andThen_ok drained
    rw [drain, chain] at drained ⊢
    obtain ⟨length, empty⟩ := ih drained
    refine ⟨?_, empty⟩
    rw [length, List.length_cons]
    omega

/-! ## Operations -/

theorem arrivals_length {arguments : List WireArgument} {values arrived : List Value}
    (count : values.length = arguments.length) (arrives : arrivals arguments values = .ok arrived) :
    arrived.length = arguments.length := by
  induction arguments generalizing values arrived with
  | nil =>
    cases arrives
    rfl
  | cons x arguments ih =>
    cases values with
    | nil => cases count
    | cons v values =>
      obtain ⟨first, -, arrives⟩ := bind_ok arrives
      obtain ⟨others, rest, arrives⟩ := bind_ok arrives
      cases arrives
      rw [List.length_cons, List.length_cons, ih (Nat.succ.inj count) rest]

/-- What arrives as handles has keys. -/
theorem keys_of_arrivals {arguments : List WireArgument} {values arrived : List Value}
    (single : ∀ x ∈ arguments, ∃ kind, x.type.Single kind) (arrives : arrivals arguments values = .ok arrived) :
    ∀ x ∈ handleArguments arguments arrived, x.2.key?.isSome := by
  induction arguments generalizing values arrived with
  | nil => simp [handleArguments]
  | cons y arguments ih =>
    cases values with
    | nil =>
      cases arrives
      simp [handleArguments]
    | cons v values =>
      obtain ⟨first, one, arrives⟩ := bind_ok arrives
      obtain ⟨others, rest, arrives⟩ := bind_ok arrives
      cases arrives
      intro x member
      rcases List.mem_append.mp member with own | member
      · obtain ⟨isHandle, rfl⟩ := mem_handleArgument.mp own
        obtain ⟨kind, element⟩ := single y List.mem_cons_self
        obtain ⟨g, i, rfl⟩ := element.handle_of_delivered isHandle one
        rfl
      · exact ih (fun z member => single z (List.mem_cons_of_mem _ member)) rest x member

theorem table?_of_call_ok {r : ResourceTables} {kind : ResourceKind} {c : SlotCall} {v : Value}
    (answered : (r.call kind c).answer = .ok v) : (r.table? kind.tableName).isSome := by
  cases found : r.table? kind.tableName with
  | none =>
    simp only [ResourceTables.call, found] at answered
    cases answered
  | some table => rfl

/-- An accepted command waits behind the others. -/
theorem accept_ok {c : Command} {values : List Value} {handle : Value}
    (accepted : (a.accept c values).answer = .ok handle) :
    ∃ reserved, Alike a (a.accept c values).state ∧
      (a.accept c values).state.pending = a.pending ++ [⟨c, values, reserved⟩] ∧
      reserved.map Prod.fst = c.creates ∧
      ∀ x ∈ reserved, ((a.accept c values).state.resources.table? x.1.tableName).isSome ∧ x.2.key?.isSome := by
  unfold accept at accepted ⊢
  cases creates : c.creates with
  | none =>
    refine ⟨none, ⟨rfl, rfl, .refl _⟩, rfl, rfl, ?_⟩
    simp
  | some kind =>
    simp only [creates] at accepted ⊢
    cases made : (a.resources.call kind (.create [.int 0])).answer with
    | error e => simp [made] at accepted
    | ok issued =>
      simp only [made] at accepted ⊢
      cases arrived : WireType.handle.delivered issued with
      | error e => simp [arrived] at accepted
      | ok held =>
        obtain ⟨g, i, rfl⟩ := WireType.single_handle.handle_of_delivered rfl arrived
        have alike := ResourceTables.alike_call a.resources kind (.create [.int 0])
        refine ⟨some (kind, _), ⟨rfl, rfl, alike⟩, rfl, rfl, ?_⟩
        rintro x ⟨⟩
        exact ⟨(alike.present _).trans (table?_of_call_ok made), rfl⟩

/-- A command that is not enqueued leaves no trace. -/
theorem accept_failed {c : Command} {values : List Value} {e : QueueError} (failed : (a.accept c values).answer = .error e) :
    (a.accept c values).state = a := by
  unfold accept at failed ⊢
  split at failed
  · cases failed
  · dsimp only at failed ⊢
    split at failed
    · rfl
    · split at failed
      · rfl
      · cases failed

theorem enqueue_failed {name : String} {values : List Value} {e : QueueError}
    (failed : (a.enqueue name values).answer = .error e) : (a.enqueue name values).state = a := by
  unfold enqueue at failed ⊢
  split at failed
  · rfl
  · split at failed
    · rename_i count
      rw [if_pos count]
      rfl
    · rename_i count
      rw [if_neg count]
      split at failed
      · rfl
      · exact accept_failed failed

/-- An enqueued command arrives and is accepted. -/
theorem enqueue_ok {name : String} {values : List Value} {handle : Value}
    (enqueued : (a.enqueue name values).answer = .ok handle) :
    ∃ c arrived, a.commands.find? (fun c => c.shortName == name) = some c ∧ values.length = c.arguments.length ∧
      arrivals c.arguments values = .ok arrived ∧ a.enqueue name values = a.accept c arrived := by
  unfold enqueue at enqueued ⊢
  split at enqueued
  · cases enqueued
  · rename_i c found
    split at enqueued
    · cases enqueued
    · rename_i count
      split at enqueued
      · cases enqueued
      · rename_i arrived arrives
        refine ⟨c, arrived, found, by omega, arrives, ?_⟩
        rw [if_neg count]

theorem Orderly.enqueue (orderly : a.Orderly) (name : String) (values : List Value) :
    (a.enqueue name values).state.Orderly := by
  cases answer : (a.enqueue name values).answer with
  | error e =>
    rw [enqueue_failed answer]
    exact orderly
  | ok handle =>
    obtain ⟨c, arrived, found, count, arrives, accepted⟩ := enqueue_ok answer
    have member := List.mem_of_find?_eq_some found
    rw [accepted] at answer ⊢
    obtain ⟨reserved, alike, pending, creates, fitting⟩ := accept_ok answer
    refine orderly.alike alike fun p waits => ?_
    rw [pending] at waits
    rcases List.mem_append.mp waits with before | new
    · exact .inl before
    · obtain rfl := List.mem_singleton.mp new
      have keys := keys_of_arrivals (orderly.single c member) arrives
      exact .inr ⟨alike.commands ▸ member, arrivals_length count arrives, keys, creates, fitting⟩

theorem Orderly.process (orderly : a.Orderly) : a.process.state.Orderly :=
  orderly.alike (alike_drain a 0 a.pending) fun _ waits => .inl ((pending_drain a 0 a.pending).subset waits)

theorem alike_perform (a : Backlog) (o : QueueOperation) : Alike a (a.perform o).state := by
  cases o with
  | enqueue name values =>
    rw [Backlog.perform, Outcome.state_andThen_done]
    cases answer : (a.enqueue name values).answer with
    | error e =>
      rw [enqueue_failed answer]
      exact .refl a
    | ok handle =>
      obtain ⟨c, arrived, -, -, -, accepts⟩ := enqueue_ok answer
      rw [accepts] at answer ⊢
      obtain ⟨-, alike, -⟩ := accept_ok answer
      exact alike
  | process =>
    rw [Backlog.perform, Outcome.state_andThen_done]
    exact alike_drain a 0 a.pending

/-- Every operation keeps a backlog orderly. -/
theorem Orderly.perform (orderly : a.Orderly) (o : QueueOperation) : (a.perform o).state.Orderly := by
  cases o with
  | enqueue name values =>
    rw [Backlog.perform, Outcome.state_andThen_done]
    exact orderly.enqueue name values
  | process =>
    rw [Backlog.perform, Outcome.state_andThen_done]
    exact orderly.process

/-- Every operation keeps a backlog regular. -/
theorem Regular.perform (regular : a.Regular) (o : QueueOperation) : (a.perform o).state.Regular :=
  regular.of_alike (alike_perform a o) (regular.toOrderly.perform o)

end Backlog

end CommandStream
