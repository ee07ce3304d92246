import CommandStream.Proofs.Queue.Account
import CommandStream.Proofs.Queue.Regularity
import CommandStream.Proofs.Slot.Holdings

/-!
# Objects live until they are deleted

A backlog keeps its account as long as every handle argument has been given out before: the tables hold
the objects that were made and not deleted, and the objects of commands that wait have their slots. So a
command is refused exactly if one of its arguments has been deleted.
-/

namespace CommandStream
open Wire

theorem filterMap_singleton {α β : Type} (pick : α → Option β) (a : α) : [a].filterMap pick = (pick a).toList := by
  rw [List.filterMap_cons]
  cases pick a <;> rfl

/-- Handlers that do not fail, and whoever looks for errors does not fail either. -/
structure NativeSide.Steady (native : NativeSide) : Prop where
  handlers : ∀ name handler, native.handler? name = some handler → ∀ before call, ∃ answer, handler before call = .ok answer
  looks : ∀ look, native.errorCode? = some look → ∀ name, ∃ code, look name = .ok code

namespace Account

variable {acc : Account} {p : Pending} {rest : List Pending} {h : String × Value}

/-- Handles as arguments of commands that wait, each given out by a command in front or executed before. -/
def Lent (made : List (String × Value)) : List Pending → Prop
  | [] => True
  | p :: rest => (∀ h ∈ p.handles, h ∈ made) ∧ Lent (made ++ p.object?.toList) rest

theorem lent_snoc {made : List (String × Value)} {pending : List Pending} {p : Pending} (lent : Lent made pending)
    (last : ∀ h ∈ p.handles, h ∈ made ++ pending.filterMap Pending.object?) : Lent made (pending ++ [p]) := by
  induction pending generalizing made with
  | nil =>
    refine ⟨?_, trivial⟩
    intro h argument
    simpa using last h argument
  | cons first rest ih =>
    refine ⟨lent.1, ih lent.2 ?_⟩
    intro h argument
    have given := last h argument
    rw [List.filterMap_cons] at given
    cases object : first.object? with
    | none => simpa [object] using given
    | some h => simpa [object] using given

theorem mem_issued (made : h ∈ acc.made) : h ∈ acc.issued :=
  List.mem_append_left _ made

theorem mem_made {x : Execution} (executed : x ∈ acc.done) (makes : x.Makes h) : h ∈ acc.made :=
  List.mem_filterMap.mpr ⟨x, executed, makes⟩

/-- The account after the execution of the command in front. -/
def after (acc : Account) (p : Pending) (rest : List Pending) (answer : Value) (calls : List Call) : Account :=
  ⟨acc.done ++ [⟨p, answer⟩], rest, calls⟩

theorem made_after (answer : Value) (calls : List Call) : (acc.after p rest answer calls).made = acc.made ++ p.object?.toList := by
  unfold made after
  rw [List.filterMap_append, filterMap_singleton]

theorem issued_of_front (waits : acc.pending = p :: rest) :
    acc.issued = acc.made ++ (p.object?.toList ++ rest.filterMap Pending.object?) := by
  rw [issued, waits, List.filterMap_cons]
  cases p.object? <;> rfl

/-- Executing gives out no handle. -/
theorem issued_after (waits : acc.pending = p :: rest) (answer : Value) (calls : List Call) :
    (acc.after p rest answer calls).issued = acc.issued := by
  rw [issued_of_front waits, issued, made_after, List.append_assoc]
  rfl

theorem deleted_after {answer : Value} {calls : List Call} :
    (acc.after p rest answer calls).Deleted h ↔ acc.Deleted h ∨ Execution.Deletes ⟨p, answer⟩ h := by
  constructor
  · rintro ⟨x, executed, deletes⟩
    rcases List.mem_append.mp executed with before | last
    · exact .inl ⟨x, before, deletes⟩
    · rw [List.mem_singleton.mp last] at deletes
      exact .inr deletes
  · rintro (⟨x, executed, deletes⟩ | deletes)
    · exact ⟨x, List.mem_append_left _ executed, deletes⟩
    · exact ⟨_, List.mem_append_right _ (List.mem_singleton_self _), deletes⟩

theorem issued_of_waiting (waits : p ∈ acc.pending) (object : p.object? = some h) : h ∈ acc.issued :=
  List.mem_append_right _ (List.mem_filterMap.mpr ⟨p, waits, object⟩)

/-- The object of the command in front has not been made before. -/
theorem not_made_of_front (nodup : acc.issued.Nodup) (waits : acc.pending = p :: rest) (object : p.object? = some h) :
    h ∉ acc.made := by
  rw [issued_of_front waits] at nodup
  intro made
  exact (List.nodup_append.mp nodup).2.2 h made h (List.mem_append_left _ (Option.mem_toList.mpr object)) rfl

/-- The objects of commands behind it have not been made either, and are not that of the command in front. -/
theorem not_made_behind (nodup : acc.issued.Nodup) (waits : acc.pending = p :: rest) {p' : Pending} (behind : p' ∈ rest)
    (object : p'.object? = some h) : h ∉ acc.made ∧ p.object? ≠ some h := by
  rw [issued_of_front waits] at nodup
  obtain ⟨-, unmade, apart⟩ := List.nodup_append.mp nodup
  have later : h ∈ rest.filterMap Pending.object? := List.mem_filterMap.mpr ⟨p', behind, object⟩
  constructor
  · intro made
    exact apart h made h (List.mem_append_right _ later) rfl
  · intro first
    exact (List.nodup_append.mp unmade).2.2 h (Option.mem_toList.mpr first) h later rfl

end Account

namespace Backlog

variable {a : Backlog} {acc : Account} {p : Pending} {rest : List Pending}

/-- A backlog whose commands make objects of kinds with tables, and delete through a single argument. -/
structure Owning (a : Backlog) : Prop where
  creates : ∀ c ∈ a.commands, ∀ kind, c.creates = some kind → kind ∈ a.resources.kinds
  destroys : ∀ c ∈ a.commands, c.destroys.isSome → c.creates = none ∧ c.arguments.length = 1

theorem Owning.alike {a' : Backlog} (owning : a.Owning) (alike : Alike a a') : a'.Owning := by
  constructor
  · intro c member kind creates
    rw [alike.resources.kinds]
    exact owning.creates c (alike.commands ▸ member) kind creates
  · intro c member
    exact owning.destroys c (alike.commands ▸ member)

/-- A backlog that is as its account says. -/
structure Keeps (acc : Account) (a : Backlog) : Prop where
  pending : a.pending = acc.pending
  calls : a.calls = acc.calls
  stocked : a.resources.Stocked acc.issued
  nodup : acc.issued.Nodup
  lent : Account.Lent acc.made acc.pending
  /-- Only what was made has been deleted. -/
  deleted : ∀ h, acc.Deleted h → h ∈ acc.made
  gone : ∀ h, acc.Deleted h → a.resources.held? h = none
  answers : ∀ x ∈ acc.done, ∀ h, x.Makes h → ¬ acc.Deleted h → a.resources.held? h = some x.answer
  /-- Slots wait for the objects of commands that wait. -/
  waiting : ∀ p ∈ acc.pending, ∀ h, p.object? = some h → ∃ v, a.resources.held? h = some v

/-! ## Looking at arguments -/

/-- An argument: it has been deleted, or the handler receives its object in front of what it receives for others. -/
theorem Keeps.heldArgument (keeps : Keeps acc a) {x : WireArgument} {v : Value} (made : ∀ h ∈ handleArgument x v, h ∈ acc.made) :
    (∃ h ∈ handleArgument x v, acc.Deleted h ∧
      ∃ table, Backlog.heldArgument a.resources x v = .error (.access (.invalid table h.2))) ∨
    ((∀ h ∈ handleArgument x v, ¬ acc.Deleted h) ∧ ∃ object, Backlog.heldArgument a.resources x v = .ok object ∧
      ∀ {arguments values received}, acc.Receives arguments values received →
        acc.Receives (x :: arguments) (v :: values) (object :: received)) := by
  by_cases isHandle : x.type.presentation = .handle
  · rw [handleArgument_of_handle v isHandle] at made ⊢
    rw [heldArgument_of_handle _ isHandle]
    have given : (x.cType, v) ∈ acc.made := made _ (List.mem_singleton_self _)
    by_cases deleted : acc.Deleted (x.cType, v)
    · obtain ⟨table, refused⟩ := keeps.stocked.get_refused (Account.mem_issued given) (keeps.gone _ deleted)
      exact .inl ⟨_, List.mem_singleton_self _, deleted, table, refused⟩
    · obtain ⟨maker, executed, makes⟩ := List.mem_filterMap.mp given
      have held := keeps.stocked.get_held (Account.mem_issued given) (keeps.answers maker executed _ makes deleted)
      refine .inr ⟨?_, maker.answer, held, .object isHandle executed makes⟩
      intro h argument
      rw [List.mem_singleton.mp argument]
      exact deleted
  · rw [handleArgument_of_ne v isHandle, heldArgument_of_ne _ isHandle]
    exact .inr ⟨fun _ argument => (List.not_mem_nil argument).elim, v, rfl, .plain isHandle⟩

/-- The arguments of a command: one has been deleted, or the handler receives the objects of all. -/
theorem Keeps.heldArguments (keeps : Keeps acc a) {arguments : List WireArgument} {values : List Value}
    (count : values.length = arguments.length) (made : ∀ h ∈ handleArguments arguments values, h ∈ acc.made) :
    (∃ h ∈ handleArguments arguments values, acc.Deleted h ∧
      ∃ table, Backlog.heldArguments a.resources arguments values = .error (.access (.invalid table h.2))) ∨
    ((∀ h ∈ handleArguments arguments values, ¬ acc.Deleted h) ∧
      ∃ received, Backlog.heldArguments a.resources arguments values = .ok received ∧
        acc.Receives arguments values received) := by
  induction arguments generalizing values with
  | nil =>
    obtain rfl : values = [] := List.length_eq_zero_iff.mp count
    right
    refine ⟨?_, [], rfl, .nothing⟩
    intro h argument
    cases argument
  | cons x arguments ih =>
    obtain ⟨v, values, rfl⟩ := List.exists_cons_of_length_eq_add_one count
    rw [handleArguments] at made ⊢
    rw [Backlog.heldArguments]
    rcases keeps.heldArgument fun h argument => made h (List.mem_append_left _ argument) with
      ⟨h, argument, deleted, table, refused⟩ | ⟨first, object, found, receives⟩
    · rw [refused]
      exact .inl ⟨h, List.mem_append_left _ argument, deleted, table, rfl⟩
    rw [found]
    rcases ih (Nat.succ.inj count) fun h argument => made h (List.mem_append_right _ argument) with
      ⟨h, argument, deleted, table, refused⟩ | ⟨others, received, all, receives'⟩
    · rw [refused]
      exact .inl ⟨h, List.mem_append_right _ argument, deleted, table, rfl⟩
    · rw [all]
      right
      refine ⟨?_, object :: received, rfl, receives receives'⟩
      intro h argument
      rcases List.mem_append.mp argument with front | behind
      · exact first h front
      · exact others h behind

/-! ## One execution -/

/-- What an execution makes of tables. -/
structure Settled (r r' : ResourceTables) (issued : List (String × Value)) (x : Execution) : Prop where
  stocked : r'.Stocked issued
  makes : ∀ h, x.Makes h → r'.held? h = some x.answer
  deletes : ∀ h, x.Deletes h → r'.held? h = none
  others : ∀ h ∈ issued, ¬ x.Makes h → ¬ x.Deletes h → r'.held? h = r.held? h

theorem handles_of_single {p : Pending} (single : p.command.arguments.length = 1) : p.handles = [] ∨ ∃ h, p.handles = [h] := by
  obtain ⟨x, arguments⟩ := List.length_eq_one_iff.mp single
  cases values : p.values with
  | nil =>
    left
    simp only [Pending.handles, arguments, values, handleArguments]
  | cons v others =>
    by_cases isHandle : x.type.presentation = .handle
    · right
      refine ⟨(x.cType, v), ?_⟩
      simp only [Pending.handles, arguments, values, handleArguments, handleArgument_of_handle v isHandle, List.append_nil]
    · left
      simp only [Pending.handles, arguments, values, handleArguments, handleArgument_of_ne v isHandle, List.append_nil]

/-- An execution that makes nothing and deletes nothing leaves the tables as they are. -/
theorem settled_idle {r : ResourceTables} {issued : List (String × Value)} {x : Execution} (stocked : r.Stocked issued)
    (makes : ∀ h, ¬ x.Makes h) (deletes : ∀ h, ¬ x.Deletes h) : Settled r r issued x := by
  refine ⟨stocked, ?_, ?_, fun _ _ _ _ => rfl⟩
  · intro h made
    exact absurd made (makes h)
  · intro h gone
    exact absurd gone (deletes h)

/-- The answer of a handler goes into the slot that waits for it. -/
theorem store_ok {issued : List (String × Value)} (stocked : a.resources.Stocked issued) {kind : ResourceKind} {handle : Value}
    (member : kind ∈ a.resources.kinds) (given : (kind.handleType, handle) ∈ issued)
    (waits : ∃ v, a.resources.held? (kind.handleType, handle) = some v) (reserved : p.reserved = some (kind, handle))
    (keeps : ¬ p.command.destroys.isSome) (answer : Value) :
    ∃ r', a.store (some (kind, handle)) answer = .done { a with resources := r' } () ∧
      Settled a.resources r' issued ⟨p, answer⟩ := by
  have own : p.object? = some (kind.handleType, handle) := by rw [Pending.object?, reserved]; rfl
  obtain ⟨v, held⟩ := waits
  obtain ⟨r', called, stocked', moved⟩ := stocked.set member given held answer
  refine ⟨r', ?_, stocked', ?_, ?_, ?_⟩
  · simp only [store, called]
    rfl
  · intro h made
    have same : some (kind.handleType, handle) = some h := own.symm.trans made
    cases same
    exact moved.here
  · intro h deletes
    exact absurd deletes.1 keeps
  · intro h listed other _
    refine moved.elsewhere h listed ?_
    rintro rfl
    exact other own

/-- The slot of the argument of a command that deletes is given free. -/
theorem release_ok {issued : List (String × Value)} (stocked : a.resources.Stocked issued)
    (single : p.handles = [] ∨ ∃ h, p.handles = [h])
    (handles : ∀ h ∈ p.handles, h ∈ issued ∧ ∃ v, a.resources.held? h = some v) {answer : Value}
    (makes : ∀ h, ¬ Execution.Makes ⟨p, answer⟩ h) (destroys : p.command.destroys.isSome) :
    ∃ r', a.release p.handles = .done { a with resources := r' } () ∧ Settled a.resources r' issued ⟨p, answer⟩ := by
  rcases single with nothing | ⟨h, single⟩
  · rw [nothing]
    refine ⟨a.resources, rfl, settled_idle stocked makes ?_⟩
    rintro h ⟨-, argument⟩
    rw [nothing] at argument
    cases argument
  · obtain ⟨given, v, held⟩ := handles h (by rw [single]; exact List.mem_singleton_self h)
    obtain ⟨r', called, stocked', moved⟩ := stocked.destroy given held
    rw [single]
    refine ⟨r', ?_, stocked', fun h made => absurd made (makes h), ?_, ?_⟩
    · simp only [release, Outcome.runAll, destroy, called]
      rfl
    · rintro other ⟨-, argument⟩
      rw [single] at argument
      rw [List.mem_singleton.mp argument]
      exact moved.here
    · intro other listed _ stays
      refine moved.elsewhere other listed ?_
      rintro rfl
      exact stays ⟨destroys, by rw [single]; exact List.mem_singleton_self _⟩

/-- What follows the call of a handler: its answer goes into the slot that waits for it, or a slot is given free. -/
theorem settle_ok {issued : List (String × Value)} (owning : a.Owning) (stocked : a.resources.Stocked issued)
    (command : p.command ∈ a.commands) (creates : p.reserved.map Prod.fst = p.command.creates)
    (object : ∀ h, p.object? = some h → h ∈ issued ∧ ∃ v, a.resources.held? h = some v)
    (handles : ∀ h ∈ p.handles, h ∈ issued ∧ ∃ v, a.resources.held? h = some v) (answer : Value) :
    ∃ r', ((a.store p.reserved answer).andThen fun a _ =>
        if p.command.destroys.isSome then a.release p.handles else .done a ()) = .done { a with resources := r' } () ∧
      Settled a.resources r' issued ⟨p, answer⟩ := by
  cases reserved : p.reserved with
  | none =>
    have makes : ∀ h, ¬ Execution.Makes ⟨p, answer⟩ h := by
      intro h made
      simp [Execution.Makes, Pending.object?, reserved] at made
    simp only [store, Outcome.done_andThen]
    by_cases destroys : p.command.destroys.isSome = true
    · simp only [if_pos destroys]
      exact release_ok stocked (handles_of_single (owning.destroys p.command command destroys).2) handles makes destroys
    · simp only [if_neg destroys]
      exact ⟨a.resources, rfl, settled_idle stocked makes fun h deletes => destroys deletes.1⟩
  | some made =>
    obtain ⟨kind, handle⟩ := made
    rw [reserved] at creates
    have maker : p.command.creates = some kind := creates.symm
    have keeps : ¬ p.command.destroys.isSome = true := by
      intro destroys
      rw [(owning.destroys p.command command destroys).1] at maker
      cases maker
    obtain ⟨given, waits⟩ := object (kind.handleType, handle) (by rw [Pending.object?, reserved]; rfl)
    obtain ⟨r', stored, settled⟩ :=
      store_ok stocked (owning.creates p.command command kind maker) given waits reserved keeps answer
    refine ⟨r', ?_, settled⟩
    simp only [stored, Outcome.done_andThen, if_neg keeps]

theorem callNative_ok (steady : a.native.Steady) (calls : a.calls = acc.calls) (name : String) (values : List Value) :
    ∃ calls' log answer, a.callNative name values = .done { a with calls := calls', log } answer ∧
      acc.Calls a.native name values calls' answer := by
  cases found : a.native.handler? name with
  | none =>
    refine ⟨a.calls, (a.report .debug ("no handler for " ++ name)).log, .absent, ?_, ?_⟩
    · simp only [callNative, found]
      rfl
    · rw [calls]
      exact .missing found
  | some handler =>
    obtain ⟨answer, answers⟩ := steady.handlers name handler found a.calls ⟨name, values⟩
    refine ⟨a.calls ++ [⟨name, values⟩], a.log, answer, ?_, ?_⟩
    · simp only [callNative, found, answers]
    · rw [calls] at answers ⊢
      exact .answered found answers

theorem lookForError_ok (steady : a.native.Steady) (name : String) : ∃ log, a.lookForError name = .done { a with log } () := by
  cases found : a.native.errorCode? with
  | none =>
    refine ⟨a.log, ?_⟩
    simp only [lookForError, found]
  | some look =>
    obtain ⟨code, looked⟩ := steady.looks look found name
    simp only [lookForError, found, looked]
    split
    · exact ⟨a.log, rfl⟩
    · exact ⟨_, rfl⟩

/-- The account of a backlog goes on with the command in front. -/
theorem Keeps.next (keeps : Keeps acc a) (waits : acc.pending = p :: rest) {r' : ResourceTables} {answer : Value}
    (settled : Settled a.resources r' acc.issued ⟨p, answer⟩) (calls : List Call) (log : Log) :
    Keeps (acc.after p rest answer calls) { a with pending := rest, resources := r', calls, log } := by
  have lent := keeps.lent
  rw [waits] at lent
  have deleting : ∀ h, Execution.Deletes ⟨p, answer⟩ h → h ∈ acc.made := fun h deletes => lent.1 h deletes.2
  -- What was made before is not made again, so it stays unless it is deleted now.
  have stays : ∀ h ∈ acc.made, ¬ Execution.Deletes ⟨p, answer⟩ h → r'.held? h = a.resources.held? h := by
    intro h made remains
    refine settled.others h (Account.mem_issued made) ?_ remains
    intro makes
    exact Account.not_made_of_front keeps.nodup waits makes made
  have issued : (acc.after p rest answer calls).issued = acc.issued := Account.issued_after waits answer calls
  refine ⟨rfl, rfl, ?_, ?_, ?_, ?_, ?_, ?_, ?_⟩
  · rw [issued]
    exact settled.stocked
  · rw [issued]
    exact keeps.nodup
  · rw [Account.made_after]
    exact lent.2
  · intro h deleted
    rw [Account.made_after]
    apply List.mem_append_left
    rcases Account.deleted_after.mp deleted with before | deletes
    · exact keeps.deleted h before
    · exact deleting h deletes
  · intro h deleted
    by_cases deletes : Execution.Deletes ⟨p, answer⟩ h
    · exact settled.deletes h deletes
    · have before : acc.Deleted h := (Account.deleted_after.mp deleted).resolve_right deletes
      exact (stays h (keeps.deleted h before) deletes).trans (keeps.gone h before)
  · intro x executed h makes alive
    obtain ⟨before, remains⟩ := not_or.mp (mt Account.deleted_after.mpr alive)
    rcases List.mem_append.mp executed with earlier | last
    · exact (stays h (Account.mem_made earlier makes) remains).trans (keeps.answers x earlier h makes before)
    · rw [List.mem_singleton.mp last] at makes ⊢
      exact settled.makes h makes
  · intro p' behind h object
    obtain ⟨unmade, other⟩ := Account.not_made_behind keeps.nodup waits behind object
    have waiting : p' ∈ acc.pending := by
      rw [waits]
      exact List.mem_cons_of_mem _ behind
    have remains : ¬ Execution.Deletes ⟨p, answer⟩ h := fun deletes => unmade (deleting h deletes)
    obtain ⟨v, held⟩ := keeps.waiting p' waiting h object
    exact ⟨v, (settled.others h (Account.issued_of_waiting waiting object) other remains).trans held⟩

/-- The command in front is refused for an argument that has been deleted, or executed. -/
theorem Keeps.execute (keeps : Keeps acc a) (regular : a.Regular) (owning : a.Owning) (steady : a.native.Steady)
    (waits : acc.pending = p :: rest) :
    (∃ h ∈ p.handles, acc.Deleted h ∧ ∃ table,
      { a with pending := rest }.execute p = .failed { a with pending := rest } (.resource (.access (.invalid table h.2)))) ∨
    ∃ a' acc', { a with pending := rest }.execute p = .done a' () ∧ Account.Executes a.native acc acc' ∧
      acc'.pending = rest ∧ acc'.issued = acc.issued ∧ Keeps acc' a' := by
  have front : p ∈ a.pending := by
    rw [keeps.pending, waits]
    exact List.mem_cons_self
  have fits := regular.fits p front
  have made : ∀ h ∈ p.handles, h ∈ acc.made := by
    have lent := keeps.lent
    rw [waits] at lent
    exact lent.1
  rcases keeps.heldArguments fits.count made with ⟨h, argument, deleted, table, refused⟩ | ⟨alive, received, all, receives⟩
  · refine .inl ⟨h, argument, deleted, table, ?_⟩
    simp only [Backlog.execute, refused]
  right
  obtain ⟨calls, log, answer, called, calling⟩ :=
    callNative_ok (a := { a with pending := rest }) steady keeps.calls p.command.shortName received
  obtain ⟨log', looked⟩ := lookForError_ok (a := { a with pending := rest, calls, log }) steady p.command.shortName
  have handles : ∀ h ∈ p.handles, h ∈ acc.issued ∧ ∃ v, a.resources.held? h = some v := by
    intro h argument
    obtain ⟨x, executed, makes⟩ := List.mem_filterMap.mp (made h argument)
    exact ⟨Account.mem_issued (made h argument), x.answer, keeps.answers x executed h makes (alive h argument)⟩
  have object : ∀ h, p.object? = some h → h ∈ acc.issued ∧ ∃ v, a.resources.held? h = some v := by
    intro h own
    have waiting : p ∈ acc.pending := keeps.pending ▸ front
    exact ⟨Account.issued_of_waiting waiting own, keeps.waiting p waiting h own⟩
  have owning' : Backlog.Owning { a with pending := rest, calls, log := log' } := ⟨owning.creates, owning.destroys⟩
  obtain ⟨r', settles, settled⟩ := settle_ok owning' keeps.stocked fits.command fits.creates object handles answer
  refine ⟨{ a with pending := rest, resources := r', calls, log := log' }, acc.after p rest answer calls, ?_, ?_, rfl,
    Account.issued_after waits answer calls, keeps.next waits settled calls log'⟩
  · simp only [Backlog.execute, all, called, Outcome.done_andThen, looked]
    exact settles
  · exact .front waits alive receives calling

/-! ## Operations -/

/-- Processing executes what waits, or stops at a command with an argument that has been deleted. -/
theorem Keeps.drain (keeps : Keeps acc a) (regular : a.Regular) (owning : a.Owning) (steady : a.native.Steady) (count : Nat)
    {pending : List Pending} (waits : acc.pending = pending) :
    ∃ acc', Relation.ReflTransGen (Account.Executes a.native) acc acc' ∧
      ((∃ a', a.drain count pending = .done a' (count + pending.length) ∧ acc'.pending = [] ∧ acc'.issued = acc.issued ∧
        Keeps acc' a') ∨
      ∃ p rest, acc'.pending = p :: rest ∧ ∃ h ∈ p.handles, acc'.Deleted h ∧ ∃ a' table,
        a.drain count pending = .failed a' (.resource (.access (.invalid table h.2))) ∧ a'.calls = acc'.calls) := by
  induction pending generalizing acc a count with
  | nil =>
    have idle : { a with pending := [] } = a := by
      have nothing : a.pending = [] := keeps.pending.trans waits
      rw [← nothing]
    refine ⟨acc, .refl, .inl ⟨a, ?_, waits, rfl, keeps⟩⟩
    rw [Backlog.drain, idle]
    rfl
  | cons p rest ih =>
    rcases keeps.execute regular owning steady waits with
      ⟨h, argument, deleted, table, refused⟩ | ⟨a₁, acc₁, executed, executes, left, issued, kept⟩
    · refine ⟨acc, .refl, .inr ⟨p, rest, waits, h, argument, deleted, { a with pending := rest }, table, ?_, keeps.calls⟩⟩
      rw [Backlog.drain, refused]
      rfl
    have first : Alike a { a with pending := rest } := ⟨rfl, rfl, .refl _⟩
    have beside := beside_execute { a with pending := rest } p
    rw [executed, Outcome.state_done] at beside
    have fits : ∀ x ∈ rest, a.Fits x := by
      intro x member
      refine regular.fits x ?_
      rw [keeps.pending, waits]
      exact List.mem_cons_of_mem p member
    have regular₁ : a₁.Regular := by
      refine Regular.beside ?_ beside
      exact regular.alike first fun x member => .inr ((fits x member).alike first)
    have native : a₁.native = a.native := beside.native
    obtain ⟨acc', run, others⟩ := ih kept regular₁ ((owning.alike first).alike beside.toAlike) (native ▸ steady) (count + 1) left
    rw [native] at run
    have total : count + (p :: rest).length = count + 1 + rest.length := by
      rw [List.length_cons]
      omega
    refine ⟨acc', run.head executes, ?_⟩
    rw [Backlog.drain, executed, Outcome.done_andThen, total]
    rcases others with ⟨a', drained, nothing, same, keeps'⟩ | refused
    · exact .inl ⟨a', drained, nothing, same.trans issued, keeps'⟩
    · exact .inr refused

/-- A processing as its account has it. -/
theorem Keeps.process (keeps : Keeps acc a) (regular : a.Regular) (owning : a.Owning) (steady : a.native.Steady) :
    ∃ acc', Account.Step a.native a.commands acc (.process, (a.perform .process).answer) acc' ∧
      (a.perform .process).state.calls = acc'.calls ∧
      ((∀ e, (a.perform .process).answer = .error e → ¬ e.Refusal) →
        Keeps acc' (a.perform .process).state ∧ acc'.issued = acc.issued) := by
  obtain ⟨acc', run, ⟨a', drained, nothing, issued, kept⟩ | ⟨p, rest, waits, h, argument, deleted, a', table, drained, calls⟩⟩ :=
    keeps.drain regular owning steady 0 keeps.pending.symm
  · have performed : a.perform .process = .done a' (.executed acc.pending.length) := by
      rw [Backlog.perform, Backlog.process, drained, keeps.pending, Nat.zero_add]
      rfl
    rw [performed]
    exact ⟨acc', .executed run nothing, kept.calls, fun _ => ⟨kept, issued⟩⟩
  · have performed : a.perform .process = .failed a' (.resource (.access (.invalid table h.2))) := by
      rw [Backlog.perform, Backlog.process, drained]
      rfl
    rw [performed]
    refine ⟨_, .refused run waits argument deleted ⟨table, rfl⟩, calls, ?_⟩
    intro unrefused
    exact absurd ⟨_, ⟨table, h.2, rfl⟩, rfl⟩ (unrefused _ rfl)

theorem handles_of_arrivals {arguments : List WireArgument} {values arrived : List Value}
    (single : ∀ x ∈ arguments, ∃ kind, x.type.Single kind)
    (same : ∀ h ∈ handleArguments arguments values, ∀ (t : WireType) kind, t.Single kind → t.presentation = .handle →
      t.delivered h.2 = .ok h.2)
    (arrives : arrivals arguments values = .ok arrived) : handleArguments arguments arrived = handleArguments arguments values := by
  induction arguments generalizing values arrived with
  | nil => rfl
  | cons x arguments ih =>
    cases values with
    | nil =>
      cases arrives
      rfl
    | cons v values =>
      obtain ⟨first, one, arrives⟩ := bind_ok arrives
      obtain ⟨others, more, arrives⟩ := bind_ok arrives
      cases arrives
      have behind := ih (fun y member => single y (List.mem_cons_of_mem _ member))
        (fun h argument => same h (List.mem_append_right _ argument)) more
      have front : handleArgument x first = handleArgument x v := by
        by_cases isHandle : x.type.presentation = .handle
        · obtain ⟨kind, element⟩ := single x List.mem_cons_self
          have arrived := same (x.cType, v) (List.mem_append_left _ (mem_handleArgument.mpr ⟨isHandle, rfl⟩))
            x.type kind element isHandle
          rw [one] at arrived
          cases arrived
          rfl
        · rw [handleArgument_of_ne first isHandle, handleArgument_of_ne v isHandle]
      rw [handleArguments, handleArguments, front, behind]

/-- Handles that were given out travel as they are, as long as they are few. -/
theorem delivered_of_stocked {r : ResourceTables} {issued : List (String × Value)} (stocked : r.Stocked issued)
    (few : issued.length < Slot.halfRange) {h : String × Value} (given : h ∈ issued) {t : WireType} {kind : Scalar}
    (single : t.Single kind) (isHandle : t.presentation = .handle) : t.delivered h.2 = .ok h.2 := by
  obtain ⟨_, -, g, i, rfl, low, inside⟩ := stocked.given h given
  exact single.delivered_handle isHandle (by omega) (by omega)

/-- A command behind all others, with a slot for its object. -/
theorem Keeps.push (keeps : Keeps acc a) {r' : ResourceTables} (stocked : r'.Stocked (acc.issued ++ p.object?.toList))
    (lent : ∀ h ∈ p.handles, h ∈ acc.issued)
    (fresh : ∀ h, p.object? = some h → h ∉ acc.issued ∧ ∃ v, r'.held? h = some v)
    (same : ∀ h ∈ acc.issued, r'.held? h = a.resources.held? h) :
    Keeps { acc with pending := acc.pending ++ [p] } ({ a with resources := r' }.push p) ∧
      Account.issued { acc with pending := acc.pending ++ [p] } = acc.issued ++ p.object?.toList := by
  have issued : Account.issued { acc with pending := acc.pending ++ [p] } = acc.issued ++ p.object?.toList := by
    unfold Account.issued
    rw [List.filterMap_append, filterMap_singleton, List.append_assoc]
    rfl
  refine ⟨⟨?_, keeps.calls, ?_, ?_, Account.lent_snoc keeps.lent lent, keeps.deleted, ?_, ?_, ?_⟩, issued⟩
  · show a.pending ++ [p] = acc.pending ++ [p]
    rw [keeps.pending]
  · rw [issued]
    exact stocked
  · rw [issued, List.nodup_append]
    refine ⟨keeps.nodup, ?_, ?_⟩
    · cases p.object? with
      | none => exact List.nodup_nil
      | some h => exact List.nodup_singleton h
    · rintro h before other last rfl
      exact (fresh h (Option.mem_toList.mp last)).1 before
  · intro h deleted
    exact (same h (Account.mem_issued (keeps.deleted h deleted))).trans (keeps.gone h deleted)
  · intro x executed h makes alive
    exact (same h (Account.mem_issued (Account.mem_made executed makes))).trans (keeps.answers x executed h makes alive)
  · intro p' member h object
    rcases List.mem_append.mp member with before | last
    · obtain ⟨v, held⟩ := keeps.waiting p' before h object
      exact ⟨v, (same h (Account.issued_of_waiting before object)).trans held⟩
    · rw [List.mem_singleton.mp last] at object
      exact (fresh h object).2

theorem object?_of_creates (c : Command) (values : List Value) (handle : Value) :
    Pending.object? ⟨c, values, c.creates.map fun kind => (kind, handle)⟩ =
      c.creates.map fun kind => (kind.handleType, handle) := by
  rw [Pending.object?, Option.map_map]
  rfl

/-- An accepted command has a slot for its object, under a handle that was not given out before. -/
theorem accept_stocked {issued : List (String × Value)} (owning : a.Owning) (stocked : a.resources.Stocked issued)
    {c : Command} (command : c ∈ a.commands) {arrived : List Value} {a' : Backlog} {handle : Value}
    (accepted : a.accept c arrived = .done a' handle)
    (few : (issued ++ (c.creates.map fun kind => (kind.handleType, handle)).toList).length < Slot.halfRange) :
    ∃ r', a' = { a with resources := r' }.push ⟨c, arrived, c.creates.map fun kind => (kind, handle)⟩ ∧
      r'.Stocked (issued ++ (c.creates.map fun kind => (kind.handleType, handle)).toList) ∧
      (∀ kind, c.creates = some kind →
        (kind.handleType, handle) ∉ issued ∧ ∃ v, r'.held? (kind.handleType, handle) = some v) ∧
      ∀ h ∈ issued, r'.held? h = a.resources.held? h := by
  unfold accept at accepted
  cases creates : c.creates with
  | none =>
    simp only [creates] at accepted
    cases accepted
    refine ⟨a.resources, rfl, ?_, ?_, fun _ _ => rfl⟩
    · rw [Option.map_none, Option.toList_none, List.append_nil]
      exact stocked
    · intro kind made
      cases made
  | some kind =>
    rw [creates, Option.map_some, Option.toList_some] at few
    obtain ⟨r', h, called, stocked', fresh, moved⟩ := stocked.create (owning.creates c command kind creates) (.int 0)
    simp only [creates, called, Outcome.answer_done, Outcome.state_done] at accepted
    -- What arrives is the handle itself, since it is small.
    have travels : WireType.handle.delivered h = .ok h := by
      refine delivered_of_stocked stocked' ?_ (List.mem_append_right _ (List.mem_singleton_self (kind.handleType, h)))
        WireType.single_handle rfl
      rw [List.length_append, List.length_singleton] at few ⊢
      exact few
    rw [travels] at accepted
    cases accepted
    refine ⟨r', rfl, stocked', ?_, ?_⟩
    · intro other made
      cases made
      exact ⟨fresh, .int 0, moved.here⟩
    · intro other before
      refine moved.elsewhere other before ?_
      rintro rfl
      exact fresh before

/-- An enqueuing as its account has it. -/
theorem Keeps.enqueue (keeps : Keeps acc a) (regular : a.Regular) (owning : a.Owning) {name : String} {values : List Value}
    {reply : QueueReply} (accepted : (a.perform (.enqueue name values)).answer = .ok reply)
    (lent : ∀ c, a.commands.find? (fun c => c.shortName == name) = some c →
      ∀ h ∈ handleArguments c.arguments values, h ∈ acc.issued)
    (few : (acc.issued ++ (Account.issuedBy? a.commands (.enqueue name values, .ok reply)).toList).length < Slot.halfRange) :
    ∃ acc', Account.Step a.native a.commands acc (.enqueue name values, .ok reply) acc' ∧
      Keeps acc' (a.perform (.enqueue name values)).state ∧
      acc'.issued = acc.issued ++ (Account.issuedBy? a.commands (.enqueue name values, .ok reply)).toList := by
  obtain ⟨a', handle, enqueued, performed⟩ := Outcome.andThen_ok accepted
  have whole : a.perform (.enqueue name values) = .done a' (.accepted handle) := performed
  rw [whole] at accepted ⊢
  cases accepted
  obtain ⟨c, arrived, found, -, arrives, accepts⟩ := enqueue_ok (congrArg Outcome.answer enqueued)
  rw [enqueued] at accepts
  have command := List.mem_of_find?_eq_some found
  have room : acc.issued.length < Slot.halfRange := by
    rw [List.length_append] at few
    omega
  have unchanged := handles_of_arrivals (regular.single c command)
    (fun h argument t kind single isHandle => delivered_of_stocked keeps.stocked room (lent c found h argument) single isHandle)
    arrives
  have only : Account.issuedBy? a.commands (.enqueue name values, .ok (.accepted handle)) =
      c.creates.map fun kind => (kind.handleType, handle) := by
    simp only [Account.issuedBy?, found, Option.bind_some]
  have object := object?_of_creates c arrived handle
  rw [only] at few ⊢
  obtain ⟨r', rfl, stocked, fresh, same⟩ := accept_stocked owning keeps.stocked command accepts.symm few
  rw [← object] at stocked ⊢
  have given : ∀ h ∈ handleArguments c.arguments arrived, h ∈ acc.issued := by
    intro h argument
    rw [unchanged] at argument
    exact lent c found h argument
  have new : ∀ h, Pending.object? ⟨c, arrived, c.creates.map fun kind => (kind, handle)⟩ = some h →
      h ∉ acc.issued ∧ ∃ v, r'.held? h = some v := by
    intro h own
    rw [object] at own
    obtain ⟨kind, creates, rfl⟩ := Option.map_eq_some_iff.mp own
    exact fresh kind creates
  obtain ⟨pushed, issued⟩ := keeps.push stocked given new same
  exact ⟨_, .enqueued found arrives unchanged fun kind creates => (fresh kind creates).1, pushed, issued⟩

end Backlog

end CommandStream
