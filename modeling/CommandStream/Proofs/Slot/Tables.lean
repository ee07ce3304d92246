import CommandStream.Proofs.Failure
import CommandStream.Proofs.Lookup
import CommandStream.Proofs.Slot.Occupancy
import CommandStream.Slot.Resource

/-!
# Tables of several kinds

A call reaches the table of its kind alone, tables never come or go, and a look into a table leaves
all of them as they are.
-/

namespace CommandStream
open Slot

/-- A failure that says that a handle opens nothing. -/
def ResourceError.Refusal (e : ResourceError) : Prop :=
  ∃ table handle, e = .access (.invalid table handle)

namespace ResourceTables

variable {r : ResourceTables}

/-- Each name belongs to one table. -/
def Distinct (r : ResourceTables) : Prop :=
  (r.tables.map Prod.fst).Nodup

/-- Two managers of the same kinds with tables of the same names. -/
structure Alike (r r' : ResourceTables) : Prop where
  kinds : r'.kinds = r.kinds
  names : r'.tables.map Prod.fst = r.tables.map Prod.fst
  present : ∀ n, (r'.table? n).isSome = (r.table? n).isSome

/-- A handle type with a table. -/
def Knows (r : ResourceTables) (handleType : String) : Prop :=
  ∃ kind, r.kindOfHandle? handleType = some kind ∧ (r.table? kind.tableName).isSome

theorem Alike.refl (r : ResourceTables) : Alike r r :=
  ⟨rfl, rfl, fun _ => rfl⟩

theorem Alike.trans {r₁ r₂ r₃ : ResourceTables} (first : Alike r₁ r₂) (second : Alike r₂ r₃) : Alike r₁ r₃ :=
  ⟨second.kinds.trans first.kinds, second.names.trans first.names, fun n => (second.present n).trans (first.present n)⟩

theorem Alike.distinct {r' : ResourceTables} (alike : Alike r r') (distinct : r.Distinct) : r'.Distinct := by
  rw [Distinct, alike.names]
  exact distinct

theorem Alike.kindOfHandle? {r' : ResourceTables} (alike : Alike r r') (handleType : String) :
    r'.kindOfHandle? handleType = r.kindOfHandle? handleType := by
  rw [ResourceTables.kindOfHandle?, alike.kinds]
  rfl

theorem Alike.knows {r' : ResourceTables} (alike : Alike r r') {handleType : String} (known : r.Knows handleType) :
    r'.Knows handleType := by
  obtain ⟨kind, answers, present⟩ := known
  exact ⟨kind, (alike.kindOfHandle? handleType).trans answers, (alike.present _).trans present⟩

theorem nodup_eraseDups : ∀ names : List String, names.eraseDups.Nodup
  | [] => by simp
  | name :: rest => by
    rw [List.eraseDups_cons]
    refine List.nodup_cons.mpr ⟨?_, nodup_eraseDups _⟩
    simp [List.mem_eraseDups]
termination_by names => names.length
decreasing_by exact Nat.lt_succ_of_le (List.length_filter_le _ _)

theorem distinct_ofKinds (kinds : List ResourceKind) : (ofKinds kinds).Distinct := by
  have names : (ofKinds kinds).tables.map Prod.fst = (kinds.map ResourceKind.tableName).eraseDups := by
    simp [ofKinds, Function.comp_def]
  rw [Distinct, names]
  exact nodup_eraseDups _

theorem table?_ofKinds {kinds : List ResourceKind} {kind : ResourceKind} (member : kind ∈ kinds) :
    (ofKinds kinds).table? kind.tableName = some (.empty kind.tableName) := by
  have entry : (kind.tableName, SlotTable.empty kind.tableName) ∈ (ofKinds kinds).tables := by
    simp only [ofKinds, List.mem_map, List.mem_eraseDups]
    exact ⟨kind.tableName, ⟨kind, member, rfl⟩, rfl⟩
  exact lookup_of_mem (distinct_ofKinds kinds) entry

/-- The kind that answers for a handle type is a listed one with this type. -/
theorem listed_of_kindOfHandle? {type : String} {kind : ResourceKind} (answers : r.kindOfHandle? type = some kind) :
    kind ∈ r.kinds ∧ kind.handleType = type := by
  unfold kindOfHandle? at answers
  have fits := List.find?_some answers
  exact ⟨List.mem_reverse.mp (List.mem_of_find?_eq_some answers), beq_iff_eq.mp fits⟩

/-- For the handle type of a listed kind some kind answers. -/
theorem exists_kindOfHandle? {kind : ResourceKind} (member : kind ∈ r.kinds) :
    ∃ other, r.kindOfHandle? kind.handleType = some other := by
  cases answers : r.kindOfHandle? kind.handleType with
  | none =>
    have none_fits := List.find?_eq_none.mp answers kind (List.mem_reverse.mpr member)
    simp at none_fits
  | some other => exact ⟨other, rfl⟩

theorem knows_ofKinds {kinds : List ResourceKind} {kind : ResourceKind} (member : kind ∈ kinds) :
    (ofKinds kinds).Knows kind.handleType := by
  obtain ⟨other, answers⟩ := exists_kindOfHandle? (r := ofKinds kinds) member
  have listed : other ∈ kinds := (listed_of_kindOfHandle? answers).1
  exact ⟨other, answers, by rw [table?_ofKinds listed]; rfl⟩

theorem table?_setTable (r : ResourceTables) (name : String) (table : SlotTable) (n : String) :
    (r.setTable name table).table? n = if n = name then (r.table? name).map fun _ => table else r.table? n :=
  lookup_map_replace r.tables name table n

theorem setTable_self (distinct : r.Distinct) {name : String} {table : SlotTable} (found : r.table? name = some table) :
    r.setTable name table = r := by
  rw [setTable, map_replace_self distinct found]

theorem alike_setTable (r : ResourceTables) (name : String) (table : SlotTable) : Alike r (r.setTable name table) where
  kinds := rfl
  names := by
    simp only [setTable, List.map_map]
    apply List.map_congr_left
    intro entry _
    simp only [Function.comp_apply]
    split
    · rename_i same
      exact same.symm
    · rfl
  present := by
    intro n
    rw [table?_setTable]
    split
    · rename_i same
      rw [same, Option.isSome_map]
    · rfl

/-! ## Calls -/

variable {kind : ResourceKind} {table : SlotTable}

theorem call_of_table? (found : r.table? kind.tableName = some table) (c : SlotCall) :
    r.call kind c = (table.call c).within (r.setTable kind.tableName) .access := by
  simp only [call, found]

theorem alike_call (r : ResourceTables) (kind : ResourceKind) (c : SlotCall) : Alike r (r.call kind c).state := by
  cases found : r.table? kind.tableName with
  | none =>
    simp only [call, found]
    exact Alike.refl r
  | some table =>
    rw [call_of_table? found]
    exact alike_setTable r _ _

theorem alike_callHandle (r : ResourceTables) (handleType : String) (c : SlotCall) :
    Alike r (r.callHandle handleType c).state := by
  unfold callHandle
  split
  · exact Alike.refl r
  · exact alike_call r _ c

/-- A call that leaves its table as it is leaves all of them. -/
theorem call_state_self (distinct : r.Distinct) (found : r.table? kind.tableName = some table) {c : SlotCall}
    (unchanged : (table.call c).state = table) : (r.call kind c).state = r := by
  rw [call_of_table? found]
  show r.setTable kind.tableName (table.call c).state = r
  rw [unchanged, setTable_self distinct found]

theorem call_get_state (distinct : r.Distinct) (kind : ResourceKind) (handle : Value) :
    (r.call kind (.get handle)).state = r := by
  cases found : r.table? kind.tableName with
  | none => simp only [call, found, Outcome.state_failed]
  | some table => exact call_state_self distinct found rfl

theorem callHandle_get_state (distinct : r.Distinct) (handleType : String) (handle : Value) :
    (r.callHandle handleType (.get handle)).state = r := by
  unfold callHandle
  split
  · rfl
  · exact call_get_state distinct _ handle

/-- A call through a key fails only by a refusal. -/
theorem call_refused (present : (r.table? kind.tableName).isSome) {c : SlotCall} {handle : Value}
    (through : c.handle? = some handle) (key : handle.key?.isSome) {e : ResourceError}
    (failed : (r.call kind c).answer = .error e) : e.Refusal := by
  obtain ⟨table, found⟩ := Option.isSome_iff_exists.mp present
  obtain ⟨k, key⟩ := Option.isSome_iff_exists.mp key
  rw [call_of_table? found] at failed
  obtain ⟨cause, answer, rfl⟩ := Outcome.within_error failed
  rw [SlotTable.call_error_of_key through key answer]
  exact ⟨_, _, rfl⟩

theorem callHandle_refused {handleType : String} (known : r.Knows handleType) {c : SlotCall} {handle : Value}
    (through : c.handle? = some handle) (key : handle.key?.isSome) {e : ResourceError}
    (failed : (r.callHandle handleType c).answer = .error e) : e.Refusal := by
  obtain ⟨kind, answers, present⟩ := known
  rw [callHandle, answers] at failed
  exact call_refused present through key failed

end ResourceTables

end CommandStream
