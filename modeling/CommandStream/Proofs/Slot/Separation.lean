import CommandStream.Proofs.Slot.History
import CommandStream.Proofs.Slot.Holdings

/-!
# Tables that do not interfere

A caller reaches a table by a resource kind or by a handle type. Both ways lead to the table of one name, also where several
kinds have that name. What happens under a name is decided by the requests under this name alone: with all others left
out, every answer and the table stay the same, and they are those of a single slot table.
-/

namespace CommandStream
open Slot

/-- How a caller says which table it means. -/
inductive TableAddress where
  | kind (kind : ResourceKind)
  | handleType (type : String)

/-- A call on the table of an address. -/
structure TableRequest where
  address : TableAddress
  call : SlotCall

/-- A request and what came of it. -/
structure TableEvent where
  request : TableRequest
  answer : Except ResourceError Value

/-- An address for the kinds of a name. -/
def TableAddress.Names (name : String) : TableAddress → Prop
  | .kind k => k.name = name
  | .handleType t => t = name ++ "Handle"

instance (name : String) : DecidablePred (TableAddress.Names name)
  | .kind k => inferInstanceAs (Decidable (k.name = name))
  | .handleType t => inferInstanceAs (Decidable (t = name ++ "Handle"))

/-- The requests under a name. -/
def TableRequest.under (name : String) (requests : List TableRequest) : List TableRequest :=
  requests.filter fun q => q.address.Names name

/-- The events under a name. -/
def TableEvent.under (name : String) (events : List TableEvent) : List TableEvent :=
  events.filter fun e => e.request.address.Names name

namespace ResourceTables

/-- The tables after a request, with its answer. -/
def serve (r : ResourceTables) (q : TableRequest) : Outcome ResourceTables ResourceError Value :=
  match q.address with
  | .kind kind => r.call kind q.call
  | .handleType type => r.callHandle type q.call

/-- The tables after some requests. -/
def afterAll (r : ResourceTables) (requests : List TableRequest) : ResourceTables :=
  requests.foldl (fun r q => (r.serve q).state) r

/-- The events of some requests. -/
def events (r : ResourceTables) : List TableRequest → List TableEvent
  | [] => []
  | q :: rest => ⟨q, (r.serve q).answer⟩ :: events (r.serve q).state rest

/-- Every call at an address is a call on the table of a name, and changes no other table. -/
def Reaches (r : ResourceTables) (a : TableAddress) (tableName : String) : Prop :=
  ∃ table, r.table? tableName = some table ∧ ∀ c, r.serve ⟨a, c⟩ = (table.call c).within (r.setTable tableName) .access

/-- Two managers of the same kinds with the same table of a name. -/
structure Agree (name : String) (r r' : ResourceTables) : Prop where
  kinds : r'.kinds = r.kinds
  table : r'.table? (name ++ "s") = r.table? (name ++ "s")

/-- A name of listed kinds, and its table. -/
structure Holds (r : ResourceTables) (name : String) (table : SlotTable) : Prop where
  listed : name ∈ r.kinds.map ResourceKind.name
  found : r.table? (name ++ "s") = some table

variable {r r' r'' : ResourceTables} {name other : String} {q : TableRequest} {kind : ResourceKind} {table : SlotTable}
  {a b : TableAddress}

/-! ## One request -/

/-- A kind of the name answers for the handle type of a name, if there is one. -/
theorem exists_kindOfName (listed : name ∈ r.kinds.map ResourceKind.name) :
    ∃ kind, r.kindOfHandle? (name ++ "Handle") = some kind ∧ kind.name = name := by
  obtain ⟨kind, member, rfl⟩ := List.mem_map.mp listed
  obtain ⟨other, answers⟩ := exists_kindOfHandle? member
  exact ⟨other, answers, ResourceKind.handleType_inj.mp (listed_of_kindOfHandle? answers).2⟩

/-- A request under a name goes to the table of the name, by whatever address. -/
theorem Holds.serve (holds : r.Holds name table) (named : q.address.Names name) :
    r.serve q = (table.call q.call).within (r.setTable (name ++ "s")) .access := by
  obtain ⟨address, c⟩ := q
  cases address with
  | kind kind =>
    obtain rfl : kind.name = name := named
    exact call_of_table? holds.found c
  | handleType type =>
    obtain rfl : type = name ++ "Handle" := named
    obtain ⟨kind, answers, rfl⟩ := exists_kindOfName holds.listed
    simp only [ResourceTables.serve, callHandle, answers]
    exact call_of_table? holds.found c

theorem Holds.reaches (holds : r.Holds name table) (named : a.Names name) : r.Reaches a (name ++ "s") :=
  ⟨table, holds.found, fun c => holds.serve (q := ⟨a, c⟩) named⟩

/-- Putting a value into a table changes the table. -/
theorem state_create_ne (table : SlotTable) : (table.call (.create [])).state ≠ table := by
  intro same
  cases free : table.free with
  | nil =>
    have cells := congrArg (fun t : SlotTable => t.cells.length) same
    simp [SlotTable.call, SlotTable.create, free] at cells
  | cons index rest =>
    have freed := congrArg (fun t : SlotTable => t.free.length) same
    simp [SlotTable.call, SlotTable.create, SlotTable.setCell, free] at freed

/-- An address reaches one table only: a value put in there would change any other one as well. -/
theorem Reaches.unique {s t : String} (first : r.Reaches a s) (second : r.Reaches a t) : s = t := by
  obtain ⟨table, found, serves⟩ := first
  obtain ⟨table', found', serves'⟩ := second
  by_contra apart
  have same := congrArg (fun o => o.state.table? s) ((serves (.create [])).symm.trans (serves' (.create [])))
  simp only [Outcome.within, table?_setTable, if_pos, if_neg apart, found, Option.map_some, Option.some.injEq] at same
  exact state_create_ne table same

namespace Agree

theorem refl (name : String) (r : ResourceTables) : Agree name r r :=
  ⟨rfl, rfl⟩

theorem symm (agree : Agree name r r') : Agree name r' r :=
  ⟨agree.kinds.symm, agree.table.symm⟩

theorem trans (first : Agree name r r') (second : Agree name r' r'') : Agree name r r'' :=
  ⟨second.kinds.trans first.kinds, second.table.trans first.table⟩

/-- A call on the kinds of the name is answered alike, and the managers still agree. -/
theorem call (agree : Agree name r r') (named : kind.name = name) (c : SlotCall) :
    (r'.call kind c).answer = (r.call kind c).answer ∧ Agree name (r.call kind c).state (r'.call kind c).state := by
  subst named
  have same : r'.table? kind.tableName = r.table? kind.tableName := agree.table
  cases found : r.table? kind.tableName with
  | none =>
    rw [found] at same
    simp only [ResourceTables.call, found, same, Outcome.answer_failed, Outcome.state_failed, true_and]
    exact agree
  | some table =>
    rw [call_of_table? found, call_of_table? (same.trans found)]
    refine ⟨rfl, agree.kinds, ?_⟩
    show (r'.setTable kind.tableName _).table? kind.tableName = (r.setTable kind.tableName _).table? kind.tableName
    rw [table?_setTable, table?_setTable, if_pos rfl, if_pos rfl, same]

/-- A request under the name is answered alike, and the managers still agree. -/
theorem serve (agree : Agree name r r') (named : q.address.Names name) :
    (r'.serve q).answer = (r.serve q).answer ∧ Agree name (r.serve q).state (r'.serve q).state := by
  obtain ⟨address, c⟩ := q
  cases address with
  | kind kind => exact agree.call named c
  | handleType type =>
    have answers : r'.kindOfHandle? type = r.kindOfHandle? type := by
      rw [kindOfHandle?, agree.kinds]
      rfl
    simp only [ResourceTables.serve, callHandle, answers]
    cases found : r.kindOfHandle? type with
    | none => exact ⟨rfl, agree⟩
    | some kind =>
      have same : kind.handleType = name ++ "Handle" := (listed_of_kindOfHandle? found).2.trans named
      exact agree.call ((String.append_left_inj _).mp same) c

end Agree

theorem agree_call_elsewhere (apart : kind.name ≠ name) (c : SlotCall) : Agree name r (r.call kind c).state := by
  refine ⟨(alike_call r kind c).kinds, ?_⟩
  cases found : r.table? kind.tableName with
  | none => simp only [call, found, Outcome.state_failed]
  | some table =>
    have other : ¬ name ++ "s" = kind.tableName := fun same => apart ((String.append_left_inj _).mp same).symm
    rw [call_of_table? found]
    show (r.setTable kind.tableName _).table? (name ++ "s") = _
    rw [table?_setTable, if_neg other]

/-- A request under no name or another one leaves the table of a name. -/
theorem agree_elsewhere (apart : ¬ q.address.Names name) : Agree name r (r.serve q).state := by
  obtain ⟨address, c⟩ := q
  cases address with
  | kind kind => exact agree_call_elsewhere apart c
  | handleType type =>
    simp only [serve, callHandle]
    cases found : r.kindOfHandle? type with
    | none => exact .refl name r
    | some kind =>
      refine agree_call_elsewhere (fun same => apart ?_) c
      rw [← same]
      exact (listed_of_kindOfHandle? found).2.symm

/-! ## Runs -/

/-- With the requests under other names left out, the events under a name are the same, and so is its table. -/
theorem Agree.run (agree : Agree name r r') (requests : List TableRequest) :
    TableEvent.under name (r.events requests) = r'.events (TableRequest.under name requests) ∧
      Agree name (r.afterAll requests) (r'.afterAll (TableRequest.under name requests)) := by
  induction requests generalizing r r' with
  | nil => exact ⟨rfl, agree⟩
  | cons q rest ih =>
    by_cases named : q.address.Names name
    · obtain ⟨answers, still⟩ := agree.serve named
      obtain ⟨later, last⟩ := ih still
      have kept : TableRequest.under name (q :: rest) = q :: TableRequest.under name rest := by
        simp [TableRequest.under, named]
      rw [kept]
      refine ⟨?_, last⟩
      simp only [TableEvent.under, events, named, decide_true, List.filter_cons_of_pos] at later ⊢
      rw [later, answers]
    · obtain ⟨later, last⟩ := ih ((agree_elsewhere named).symm.trans agree)
      have dropped : TableRequest.under name (q :: rest) = TableRequest.under name rest := by
        simp [TableRequest.under, named]
      rw [dropped]
      refine ⟨?_, last⟩
      rw [← later]
      simp [TableEvent.under, events, named]

/-- A name whose kinds are listed keeps its table, which alone answers the requests under the name. -/
theorem Holds.run (holds : r.Holds name table) {requests : List TableRequest} (each : ∀ q ∈ requests, q.address.Names name) :
    (r.afterAll requests).Holds name (table.after (requests.map TableRequest.call)) ∧
      (r.events requests).map TableEvent.answer =
        (table.history (requests.map TableRequest.call)).map fun e => e.answer.mapError .access := by
  induction requests generalizing r table with
  | nil => exact ⟨holds, rfl⟩
  | cons q rest ih =>
    have served := holds.serve (each q List.mem_cons_self)
    have next : (r.serve q).state.Holds name (table.call q.call).state := by
      rw [served]
      refine ⟨holds.listed, ?_⟩
      show (r.setTable (name ++ "s") _).table? (name ++ "s") = _
      rw [table?_setTable, if_pos rfl, holds.found]
      rfl
    obtain ⟨last, answers⟩ := ih next fun other member => each other (List.mem_cons_of_mem _ member)
    have here : (r.serve q).answer = (table.call q.call).answer.mapError .access := by
      rw [served]
      rfl
    refine ⟨last, ?_⟩
    simp only [events, List.map_cons, SlotTable.history, here, answers]

theorem alike_serve (r : ResourceTables) (q : TableRequest) : Alike r (r.serve q).state := by
  unfold serve
  split
  · exact alike_call r _ _
  · exact alike_callHandle r _ _

theorem alike_afterAll (r : ResourceTables) (requests : List TableRequest) : Alike r (r.afterAll requests) := by
  induction requests generalizing r with
  | nil => exact .refl r
  | cons q rest ih => exact (alike_serve r q).trans (ih _)

theorem holds_ofKinds {kinds : List ResourceKind} (listed : name ∈ kinds.map ResourceKind.name) :
    (ofKinds kinds).Holds name (.empty (name ++ "s")) := by
  refine ⟨listed, ?_⟩
  obtain ⟨kind, member, rfl⟩ := List.mem_map.mp listed
  exact table?_ofKinds member

theorem Holds.alike (holds : r.Holds name table) (alike : Alike r r') : ∃ table', r'.Holds name table' := by
  have present : (r'.table? (name ++ "s")).isSome := by
    rw [alike.present, holds.found]
    rfl
  obtain ⟨table', found⟩ := Option.isSome_iff_exists.mp present
  exact ⟨table', alike.kinds ▸ holds.listed, found⟩

/-- **Tables of different names do not interfere.** For every list of kinds, with names that may be equal, and all requests by kinds
or by handle types: the tables stay those of the names of the kinds, and two addresses reach the same table exactly if they
are for the same name. Under every name, the answers of all requests and the table in the end are as if only the requests under
this name had been made, and under the name of a kind they are those of one slot table on which nothing else was called. -/
theorem tables_keep_apart (kinds : List ResourceKind) (requests : List TableRequest) :
    let r := (ofKinds kinds).afterAll requests
    r.tables.map Prod.fst = (kinds.map ResourceKind.tableName).eraseDups ∧
    (∀ n ∈ kinds.map ResourceKind.name, ∀ m ∈ kinds.map ResourceKind.name, ∀ a b : TableAddress, a.Names n → b.Names m →
      ((∃ tableName, r.Reaches a tableName ∧ r.Reaches b tableName) ↔ n = m)) ∧
    ∀ name, let own := TableRequest.under name requests
      TableEvent.under name ((ofKinds kinds).events requests) = (ofKinds kinds).events own ∧
      r.table? (name ++ "s") = ((ofKinds kinds).afterAll own).table? (name ++ "s") ∧
      (name ∈ kinds.map ResourceKind.name →
        ((ofKinds kinds).events own).map TableEvent.answer =
          ((SlotTable.empty (name ++ "s")).history (own.map TableRequest.call)).map (fun e => e.answer.mapError .access) ∧
        r.table? (name ++ "s") = some ((SlotTable.empty (name ++ "s")).after (own.map TableRequest.call))) := by
  intro r
  have alike : Alike (ofKinds kinds) r := alike_afterAll _ _
  refine ⟨?_, ?_, ?_⟩
  · rw [alike.names]
    simp [ofKinds, Function.comp_def]
  · intro n first m second a b named named'
    obtain ⟨table, holds⟩ := (holds_ofKinds first).alike alike
    obtain ⟨table', holds'⟩ := (holds_ofKinds second).alike alike
    constructor
    · rintro ⟨tableName, here, there⟩
      have same := ((holds.reaches named).unique here).trans (there.unique (holds'.reaches named'))
      exact (String.append_left_inj _).mp same
    · rintro rfl
      exact ⟨_, holds.reaches named, holds.reaches named'⟩
  · intro name own
    obtain ⟨events, agree⟩ := (Agree.refl name (ofKinds kinds)).run requests
    refine ⟨events, agree.table.symm, fun listed => ?_⟩
    have each : ∀ q ∈ own, q.address.Names name := fun q member => of_decide_eq_true (List.mem_filter.mp member).2
    obtain ⟨holds, answers⟩ := (holds_ofKinds listed).run each
    exact ⟨answers, agree.table.symm.trans holds.found⟩

end ResourceTables

/-! ## Two kinds of one name -/

namespace TwoTextures
open ResourceTables

/-- Buffers, and textures of two kinds. -/
def kinds : List ResourceKind :=
  [⟨"Texture", "GLuint", 0⟩, ⟨"Buffer", "GLuint", 1⟩, ⟨"Texture", "GLint", 2⟩]

def texture : ResourceKind := ⟨"Texture", "GLuint", 0⟩

/-- A texture and a buffer are made, a buffer is looked up under the handle of the texture, and the texture is destroyed. -/
def requests : List TableRequest :=
  [⟨.kind texture, .create [.int 7]⟩, ⟨.handleType "BufferHandle", .create [.int 8]⟩,
   ⟨.handleType "BufferHandle", .get (.handle (.int 1) (.int 0))⟩,
   ⟨.handleType "TextureHandle", .destroy (.handle (.int 1) (.int 0))⟩]

/-- Textures of both kinds are in one table, apart from the buffers, whose table has not changed but for the buffer made. -/
theorem buffers_stay : let r := (ofKinds kinds).afterAll requests
    "Texture" ∈ kinds.map ResourceKind.name ∧ "Buffer" ∈ kinds.map ResourceKind.name ∧
    (∃ tableName, r.Reaches (.kind texture) tableName ∧ r.Reaches (.handleType "TextureHandle") tableName) ∧
    ¬ (∃ tableName, r.Reaches (.kind texture) tableName ∧ r.Reaches (.handleType "BufferHandle") tableName) ∧
    r.table? "Buffers" = some ((SlotTable.empty "Buffers").after [.create [.int 8], .get (.handle (.int 1) (.int 0))]) := by
  intro r
  have textures : "Texture" ∈ kinds.map ResourceKind.name := by decide
  have buffers : "Buffer" ∈ kinds.map ResourceKind.name := by decide
  obtain ⟨-, reached, apart⟩ := tables_keep_apart kinds requests
  have shared := (reached _ textures _ textures (.kind texture) (.handleType "TextureHandle") rfl rfl).mpr rfl
  refine ⟨textures, buffers, shared, ?_, ((apart "Buffer").2.2 buffers).2⟩
  intro shared
  have same := (reached _ textures _ buffers (.kind texture) (.handleType "BufferHandle") rfl rfl).mp shared
  exact absurd same (by decide)

end TwoTextures

end CommandStream
