import Mathlib.Data.List.Nodup
import CommandStream.Proofs.Slot.Tables

/-!
# What tables hold

Tables of kinds with different names, known by what they hold under the handles that they have given
out: a new handle is none of them, and a call through one of them leaves what is held under the others.
No table has more slots, and no slot a later generation, than handles have been given out.
-/

namespace CommandStream
open Slot

theorem Value.key?_int (g i : Int) : (Value.handle (.int g) (.int i)).key? = some ⟨g, i⟩ := rfl

namespace SlotTable

/-- A table after no more than so many creations, with freed slots remembered by plain numbers. -/
structure Within (t : SlotTable) (n : Nat) : Prop where
  cells : t.cells.length ≤ n
  generations : ∀ cell ∈ t.cells, cell.generation ≤ n
  free : ∀ v ∈ t.free, ∃ i : Nat, v = .int i

variable {t : SlotTable} {n m : Nat}

theorem Within.mono (w : t.Within n) (le : n ≤ m) : t.Within m := by
  refine ⟨Nat.le_trans w.cells le, ?_, w.free⟩
  intro cell member
  exact Nat.le_trans (w.generations cell member) le

theorem within_empty (name : String) : (empty name).Within 0 := by
  refine ⟨Nat.le_refl 0, ?_, ?_⟩
  · intro cell member
    cases member
  · intro v member
    cases member

/-- A cell replaced by one of a generation within bounds. -/
theorem Within.set (w : t.Within n) (i : Nat) (cell : Cell) (bound : cell.generation ≤ n) {t' : SlotTable}
    (cells : t'.cells = t.cells.set i cell) (free : ∀ v ∈ t'.free, ∃ i : Nat, v = .int i) : t'.Within n := by
  refine ⟨?_, ?_, free⟩
  · rw [cells, List.length_set]
    exact w.cells
  · intro other member
    rw [cells] at member
    rcases List.mem_or_eq_of_mem_set member with before | rfl
    · exact w.generations other before
    · exact bound

theorem within_create (s : t.Sound) (w : t.Within n) (v : Value) : (t.create v).2.Within (n + 1) ∧
    ∃ g i : Nat, (t.create v).1 = .handle (.int g) (.int i) ∧ g ≤ n + 1 ∧ i ≤ n := by
  cases free : t.free with
  | nil =>
    have grown : (t.create v).2.cells = t.cells ++ [⟨v, 1, true⟩] := by simp [create, free]
    have none_free : (t.create v).2.free = [] := by simp [create, free]
    refine ⟨⟨?_, ?_, ?_⟩, 1, t.cells.length, by simp [create, free], by omega, w.cells⟩
    · rw [grown, List.length_append]
      exact Nat.succ_le_succ w.cells
    · intro cell member
      rw [grown] at member
      rcases List.mem_append.mp member with before | new
      · exact Nat.le_succ_of_le (w.generations cell before)
      · rw [List.mem_singleton.mp new]
        exact Nat.succ_le_succ (Nat.zero_le n)
    · rw [none_free]
      intro v member
      cases member
  | cons index rest =>
    obtain ⟨i, whole, -, cell, found, -⟩ := s.cell_of_free free
    obtain ⟨j, rfl⟩ := w.free index (by rw [free]; exact List.mem_cons_self)
    have same : (j : Int) = i := Option.some.inj whole
    obtain rfl : j = i := by omega
    have bound := (List.getElem?_eq_some_iff.mp found).1
    have generation := w.generations cell (List.mem_of_getElem? found)
    have cells : (t.create v).2.cells = t.cells.set j ⟨v, cell.generation + 1, true⟩ := by
      simp [create, free, whole, found, setCell]
    have left : (t.create v).2.free = rest := by simp [create, free, setCell]
    refine ⟨(w.mono (Nat.le_succ n)).set j _ (Nat.succ_le_succ generation) cells ?_, cell.generation + 1, j,
      by simp [create, free, whole, found], Nat.succ_le_succ generation, ?_⟩
    · intro v member
      rw [left] at member
      exact w.free v (by rw [free]; exact List.mem_cons_of_mem _ member)
    · have enough := w.cells
      omega

theorem within_destroy (w : t.Within n) {g i : Nat} {v : Value} (held : t.held? ⟨g, i⟩ = some v) :
    (t.call (.destroy (.handle (.int g) (.int i)))).state.Within n := by
  obtain ⟨cell, opened, -, _, -, found, -⟩ := cell_of_held? held
  have key := Value.key?_int g i
  have called : t.call (.destroy (.handle (.int g) (.int i))) =
      .done { t.setCell i { cell with value := .absent, occupied := false } with
        free := .int i :: t.free, changes := t.changes + 1 } .absent := by
    simp [call, destroy, access_of_opened? key opened, bind, Except.bind]
  rw [called]
  refine w.set i { cell with value := .absent, occupied := false } (w.generations cell (List.mem_of_getElem? found)) rfl ?_
  intro v member
  rcases List.mem_cons.mp member with rfl | before
  · exact ⟨i, rfl⟩
  · exact w.free v before

theorem within_set (w : t.Within n) {g i : Nat} {v : Value} (held : t.held? ⟨g, i⟩ = some v) (value : Value) :
    (t.call (.set (.handle (.int g) (.int i)) value)).state.Within n := by
  obtain ⟨cell, opened, -, _, -, found, -⟩ := cell_of_held? held
  have key := Value.key?_int g i
  have called : t.call (.set (.handle (.int g) (.int i)) value) = .done (t.setCell i { cell with value }) .absent := by
    simp [call, set, access_of_opened? key opened, bind, Except.bind]
  rw [called]
  exact w.set i { cell with value } (w.generations cell (List.mem_of_getElem? found)) rfl w.free

end SlotTable

/-! ## Kinds -/

theorem ResourceKind.handleType_inj {kind other : ResourceKind} : kind.handleType = other.handleType ↔ kind.name = other.name :=
  String.append_left_inj "Handle"

theorem ResourceKind.tableName_inj {kind other : ResourceKind} : kind.tableName = other.tableName ↔ kind.name = other.name :=
  String.append_left_inj "s"

namespace ResourceTables

variable {r : ResourceTables} {kind : ResourceKind}

/-- Kinds with different names. -/
def Named (r : ResourceTables) : Prop :=
  (r.kinds.map ResourceKind.name).Nodup

theorem Named.eq_of_name (named : r.Named) {other : ResourceKind} (first : kind ∈ r.kinds) (second : other ∈ r.kinds)
    (same : kind.name = other.name) : kind = other :=
  List.inj_on_of_nodup_map named first second same

/-- A kind answers for its handle type. -/
theorem Named.kindOfHandle? (named : r.Named) (member : kind ∈ r.kinds) : r.kindOfHandle? kind.handleType = some kind := by
  obtain ⟨other, answers⟩ := exists_kindOfHandle? member
  obtain ⟨listed, same⟩ := listed_of_kindOfHandle? answers
  rw [answers, named.eq_of_name listed member (ResourceKind.handleType_inj.mp same)]

/-- The value that the table of a handle type holds under a handle. -/
def held? (r : ResourceTables) (h : String × Value) : Option Value :=
  (r.kindOfHandle? h.1).bind fun kind => (r.table? kind.tableName).bind fun t => h.2.key?.bind t.held?

theorem held?_eq (named : r.Named) (member : kind ∈ r.kinds) {t : SlotTable} (found : r.table? kind.tableName = some t)
    (h : Value) : r.held? (kind.handleType, h) = h.key?.bind t.held? := by
  simp only [held?, named.kindOfHandle? member, found, Option.bind_some]

/-- Tables of kinds with different names that have given out some handles. -/
structure Stocked (r : ResourceTables) (issued : List (String × Value)) : Prop where
  named : r.Named
  distinct : r.Distinct
  given : ∀ h ∈ issued, ∃ kind ∈ r.kinds, ∃ g i : Nat, h = (kind.handleType, .handle (.int g) (.int i)) ∧
    g ≤ issued.length ∧ i ≤ issued.length
  table : ∀ kind ∈ r.kinds, ∃ t, r.table? kind.tableName = some t ∧ t.Sound ∧ t.Within issued.length ∧
    ∀ g i : Nat, (kind.handleType, .handle (.int g) (.int i)) ∈ issued → g ≤ t.generationAt i

/-- Tables that hold something else under one handle, and under the others that were given out what they held. -/
structure Moved (r r' : ResourceTables) (issued : List (String × Value)) (h : String × Value) (v : Option Value) : Prop where
  here : r'.held? h = v
  elsewhere : ∀ other ∈ issued, other ≠ h → r'.held? other = r.held? other

variable {issued more : List (String × Value)} {t t' : SlotTable}

theorem stocked_ofKinds {kinds : List ResourceKind} (named : (kinds.map ResourceKind.name).Nodup) :
    (ofKinds kinds).Stocked [] := by
  refine ⟨named, distinct_ofKinds kinds, ?_, ?_⟩
  · intro h given
    cases given
  · intro kind member
    refine ⟨_, table?_ofKinds member, SlotTable.sound_empty _, SlotTable.within_empty _, ?_⟩
    intro g i given
    cases given

/-- A table replaced by one that has grown. -/
theorem Stocked.replace (stocked : r.Stocked issued) (member : kind ∈ r.kinds) (found : r.table? kind.tableName = some t)
    (sound : t'.Sound) (within : t'.Within (issued ++ more).length) (grown : ∀ i, t.generationAt i ≤ t'.generationAt i)
    (new : ∀ h ∈ more, ∃ g i : Nat, h = (kind.handleType, .handle (.int g) (.int i)) ∧ g ≤ t'.generationAt i ∧
      g ≤ (issued ++ more).length ∧ i ≤ (issued ++ more).length) :
    (r.setTable kind.tableName t').Stocked (issued ++ more) := by
  have longer : issued.length ≤ (issued ++ more).length := by simp
  refine ⟨stocked.named, (alike_setTable r _ _).distinct stocked.distinct, ?_, ?_⟩
  · intro h given
    rcases List.mem_append.mp given with before | later
    · obtain ⟨other, listed, g, i, rfl, low, inside⟩ := stocked.given h before
      exact ⟨other, listed, g, i, rfl, Nat.le_trans low longer, Nat.le_trans inside longer⟩
    · obtain ⟨g, i, rfl, -, low, inside⟩ := new h later
      exact ⟨kind, member, g, i, rfl, low, inside⟩
  · intro other listed
    rw [table?_setTable]
    split
    · rename_i same
      obtain rfl := stocked.named.eq_of_name listed member (ResourceKind.tableName_inj.mp same)
      refine ⟨t', by rw [found]; rfl, sound, within, ?_⟩
      intro g i given
      rcases List.mem_append.mp given with before | later
      · obtain ⟨t₀, found₀, -, -, each⟩ := stocked.table other member
        obtain rfl : t = t₀ := Option.some.inj (found.symm.trans found₀)
        exact Nat.le_trans (each g i before) (grown i)
      · obtain ⟨g', i', equal, bound, -⟩ := new _ later
        cases equal
        exact bound
    · rename_i apart
      obtain ⟨t₀, found₀, sound₀, within₀, each⟩ := stocked.table other listed
      refine ⟨t₀, found₀, sound₀, within₀.mono longer, ?_⟩
      intro g i given
      rcases List.mem_append.mp given with before | later
      · exact each g i before
      · obtain ⟨_, _, equal, -⟩ := new _ later
        have named := ResourceKind.handleType_inj.mp (congrArg Prod.fst equal)
        exact absurd (ResourceKind.tableName_inj.mpr named) apart

/-- A table replaced by one that holds something else under one key. -/
theorem Stocked.moved (stocked : r.Stocked issued) (member : kind ∈ r.kinds) (found : r.table? kind.tableName = some t)
    {g i : Nat} {v : Option Value} (changed : t.Changed t' ⟨g, i⟩ v) :
    Moved r (r.setTable kind.tableName t') issued (kind.handleType, .handle (.int g) (.int i)) v := by
  have now : (r.setTable kind.tableName t').table? kind.tableName = some t' := by
    rw [table?_setTable, if_pos rfl, found]
    rfl
  have named : (r.setTable kind.tableName t').Named := stocked.named
  constructor
  · rw [held?_eq named member now, Value.key?_int g i, Option.bind_some, changed.held, if_pos rfl]
  · intro other given apart
    obtain ⟨kind', listed, g', i', rfl, -⟩ := stocked.given other given
    by_cases same : kind' = kind
    · subst same
      have keys : (⟨g', i'⟩ : Key) ≠ ⟨g, i⟩ := by
        rintro equal
        cases equal
        exact apart rfl
      rw [held?_eq named member now, held?_eq stocked.named member found, Value.key?_int, Option.bind_some,
        Option.bind_some, changed.held, if_neg keys]
    · obtain ⟨t₀, found₀, -⟩ := stocked.table kind' listed
      have there : (r.setTable kind.tableName t').table? kind'.tableName = some t₀ := by
        rw [table?_setTable, if_neg, found₀]
        intro equal
        exact same (stocked.named.eq_of_name listed member (ResourceKind.tableName_inj.mp equal))
      rw [held?_eq named listed there, held?_eq stocked.named listed found₀]

/-! ## Calls through handles that were given out -/

/-- A new handle is none of those that were given out. -/
theorem Stocked.create (stocked : r.Stocked issued) (member : kind ∈ r.kinds) (v : Value) :
    ∃ r' h, r.call kind (.create [v]) = .done r' h ∧ r'.Stocked (issued ++ [(kind.handleType, h)]) ∧
      (kind.handleType, h) ∉ issued ∧ Moved r r' issued (kind.handleType, h) (some v) := by
  obtain ⟨t, found, sound, within, each⟩ := stocked.table kind member
  obtain ⟨key, changed⟩ := SlotTable.create_changed sound v
  obtain ⟨within', g, i, handle, low, inside⟩ := SlotTable.within_create sound within v
  rw [handle] at key
  have next : (⟨g, i⟩ : Key) = t.nextKey := Option.some.inj key
  rw [← next] at changed
  have called : r.call kind (.create [v]) =
      .done (r.setTable kind.tableName (t.create v).2) (.handle (.int g) (.int i)) := by
    rw [call_of_table? found, ← handle]
    rfl
  have later : (g : Int) = t.generationAt i + 1 := by
    have generation := congrArg Key.generation next
    have index := congrArg Key.index next
    simp only [SlotTable.nextKey] at generation index
    rw [generation, index]
  refine ⟨_, _, called, ?_, ?_, stocked.moved member found changed⟩
  · refine stocked.replace member found changed.sound ?_ changed.grown ?_
    · rw [List.length_append]
      exact within'
    · intro h given
      have now : (t.create v).2.held? ⟨g, i⟩ = some v := by rw [changed.held, if_pos rfl]
      have latest : (g : Int) = (t.create v).2.generationAt i := SlotTable.generationAt_of_held? now
      rw [List.mem_singleton.mp given, List.length_append]
      exact ⟨g, i, rfl, by omega, low, Nat.le_succ_of_le inside⟩
  · intro given
    have before := each g i given
    omega

/-- A look through a handle under which something is held. -/
theorem Stocked.get_held (stocked : r.Stocked issued) {h : String × Value} (given : h ∈ issued) {v : Value}
    (held : r.held? h = some v) : (r.callHandle h.1 (.get h.2)).answer = .ok v := by
  obtain ⟨kind, member, g, i, rfl, -⟩ := stocked.given h given
  obtain ⟨t, found, -⟩ := stocked.table kind member
  rw [held?_eq stocked.named member found, Value.key?_int g i, Option.bind_some] at held
  rw [callHandle, stocked.named.kindOfHandle? member]
  dsimp only
  rw [call_of_table? found, SlotTable.call_get (Value.key?_int g i), held]
  rfl

/-- A look through a handle under which nothing is held any more. -/
theorem Stocked.get_refused (stocked : r.Stocked issued) {h : String × Value} (given : h ∈ issued)
    (held : r.held? h = none) : ∃ table, (r.callHandle h.1 (.get h.2)).answer = .error (.access (.invalid table h.2)) := by
  obtain ⟨kind, member, g, i, rfl, -⟩ := stocked.given h given
  obtain ⟨t, found, -⟩ := stocked.table kind member
  rw [held?_eq stocked.named member found, Value.key?_int g i, Option.bind_some] at held
  refine ⟨t.name, ?_⟩
  rw [callHandle, stocked.named.kindOfHandle? member]
  dsimp only
  rw [call_of_table? found, SlotTable.call_get (Value.key?_int g i), held]
  rfl

/-- Another value under a handle under which something is held. -/
theorem Stocked.set (stocked : r.Stocked issued) (member : kind ∈ r.kinds) {h : Value}
    (given : (kind.handleType, h) ∈ issued) {v : Value} (held : r.held? (kind.handleType, h) = some v) (value : Value) :
    ∃ r', r.call kind (.set h value) = .done r' .absent ∧ r'.Stocked issued ∧
      Moved r r' issued (kind.handleType, h) (some value) := by
  obtain ⟨t, found, sound, within, -⟩ := stocked.table kind member
  obtain ⟨kind', listed, g, i, equal, -⟩ := stocked.given _ given
  obtain rfl : h = .handle (.int g) (.int i) := congrArg Prod.snd equal
  rw [held?_eq stocked.named member found, Value.key?_int g i, Option.bind_some] at held
  obtain ⟨t', called, changed⟩ := SlotTable.set_changed sound (Value.key?_int g i) held value
  have within' := SlotTable.within_set within held value
  rw [called, Outcome.state_done] at within'
  refine ⟨r.setTable kind.tableName t', ?_, ?_, stocked.moved member found changed⟩
  · rw [call_of_table? found, called]
    rfl
  · rw [← List.append_nil issued]
    refine stocked.replace member found changed.sound ?_ changed.grown ?_
    · rw [List.append_nil]
      exact within'
    · intro h given
      cases given

/-- A handle under which something is held, given free. -/
theorem Stocked.destroy (stocked : r.Stocked issued) {h : String × Value} (given : h ∈ issued) {v : Value}
    (held : r.held? h = some v) : ∃ r', r.callHandle h.1 (.destroy h.2) = .done r' .absent ∧ r'.Stocked issued ∧
      Moved r r' issued h none := by
  obtain ⟨kind, member, g, i, rfl, -⟩ := stocked.given h given
  obtain ⟨t, found, sound, within, -⟩ := stocked.table kind member
  rw [held?_eq stocked.named member found, Value.key?_int g i, Option.bind_some] at held
  obtain ⟨t', called, changed⟩ := SlotTable.destroy_changed sound (Value.key?_int g i) held
  have within' := SlotTable.within_destroy within held
  rw [called, Outcome.state_done] at within'
  refine ⟨r.setTable kind.tableName t', ?_, ?_, stocked.moved member found changed⟩
  · rw [callHandle, stocked.named.kindOfHandle? member]
    dsimp only
    rw [call_of_table? found, called]
    rfl
  · rw [← List.append_nil issued]
    refine stocked.replace member found changed.sound ?_ changed.grown ?_
    · rw [List.append_nil]
      exact within'
    · intro h given
      cases given

end ResourceTables

end CommandStream
