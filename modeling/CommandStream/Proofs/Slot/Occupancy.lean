import CommandStream.Slot.Table

/-!
# Occupied slots

A handle whose fields are integers is a key into its table, and a table is read as the values that
it holds under keys. The free list of a sound table holds exactly the indices of its unoccupied
slots, each once; every call keeps a table sound and changes what it holds under at most one key.
Generations only grow, and a new handle has a greater one than its slot ever had.
-/

namespace CommandStream

namespace Slot

/-- What tells the handles of a table apart. -/
@[ext] structure Key where
  generation : Int
  index : Int
  deriving DecidableEq

end Slot

open Slot

/-- The key of a handle whose fields are integers. -/
def Value.key? : Value → Option Key
  | .handle generation index =>
    match generation.int?, index.int? with
    | some g, some i => some ⟨g, i⟩
    | _, _ => none
  | _ => none

theorem Value.key?_handle {generation index : Value} {g i : Int} (hg : generation.int? = some g)
    (hi : index.int? = some i) : (Value.handle generation index).key? = some ⟨g, i⟩ := by
  simp only [Value.key?, hg, hi]

/-- A handle with a key has integer fields. -/
theorem Value.fields_of_key? {h : Value} {k : Key} (key : h.key? = some k) :
    ∃ generation index, h = .handle generation index ∧ generation.int? = some k.generation ∧ index.int? = some k.index := by
  unfold Value.key? at key
  split at key
  · split at key
    · rename_i hg hi
      cases key
      exact ⟨_, _, rfl, hg, hi⟩
    · cases key
  · cases key

theorem Value.equalsNat_of_int? {v : Value} {g : Int} (h : v.int? = some g) (n : Nat) :
    v.equalsNat n = decide (g = n) := by
  have unfolded : v.equalsNat n = (v.int? == some (n : Int)) := by
    unfold Value.equalsNat
    split
    · cases h
    · rfl
  rw [unfolded, h]
  by_cases e : g = n <;> simp [e]

theorem Slot.place_of_int? {v : Value} {i : Int} (h : v.int? = some i) (count : Nat) :
    place v count = if 0 ≤ i ∧ i < count then .at i.toNat else .outside := by
  unfold place
  split
  · cases h
  · rw [h]

/-- The handle through which a call is made. -/
def SlotCall.handle? : SlotCall → Option Value
  | .destroy handle | .get handle | .set handle _ | .isValid handle => some handle
  | .create _ | .size => none

namespace SlotTable

variable (t : SlotTable)

/-- The cell at an index that may lie outside. -/
def cellAt? (i : Int) : Option Cell :=
  if 0 ≤ i then t.cells[i.toNat]? else none

/-- The occupied cell that a key opens. -/
def opened? (k : Key) : Option Cell :=
  (t.cellAt? k.index).filter fun cell => cell.occupied && decide (k.generation = cell.generation)

/-- The value held under a key. -/
def held? (k : Key) : Option Value :=
  (t.opened? k).map Cell.value

/-- The generation of the slot at an index; zero before there is one. -/
def generationAt (i : Int) : Nat :=
  ((t.cellAt? i).map Cell.generation).getD 0

/-- The indices in the free list. -/
def freeIndices : List Nat :=
  t.free.map fun v => (v.int?.getD 0).toNat

/-- The free list of a table holds the indices of the unoccupied cells, each once. -/
structure Sound : Prop where
  integral : ∀ v ∈ t.free, ∃ i : Nat, v.int? = some (i : Int)
  nodup : t.freeIndices.Nodup
  unoccupied : ∀ i, i ∈ t.freeIndices ↔ ∃ cell, t.cells[i]? = some cell ∧ cell.occupied = false

variable {t}

theorem sound_empty (name : String) : (empty name).Sound where
  integral := by intro v hv; cases hv
  nodup := List.nodup_nil
  unoccupied := by intro i; simp [empty, freeIndices]

@[simp] theorem held?_empty (name : String) (k : Key) : (empty name).held? k = none := by
  simp [held?, opened?, cellAt?, empty]

theorem cellAt?_natCast (i : Nat) : t.cellAt? i = t.cells[i]? := by
  simp [cellAt?]

theorem opened?_eq_some {k : Key} {cell : Cell} :
    t.opened? k = some cell ↔
      0 ≤ k.index ∧ t.cells[k.index.toNat]? = some cell ∧ cell.occupied = true ∧ k.generation = cell.generation := by
  unfold opened? cellAt?
  by_cases inside : 0 ≤ k.index
  · simp [inside, Option.filter_eq_some_iff]
  · simp [inside]

/-! ## Reading -/

theorem find?_of_key? {handle : Value} {k : Key} (key : handle.key? = some k) :
    t.find? handle = .ok ((t.opened? k).map fun cell => (k.index.toNat, cell)) := by
  obtain ⟨generation, index, rfl, hg, hi⟩ := Value.fields_of_key? key
  simp only [find?, place_of_int? hi]
  by_cases inside : 0 ≤ k.index ∧ k.index < t.cells.length
  · have bound : k.index.toNat < t.cells.length := by omega
    simp only [inside, and_self, if_true, List.getElem?_eq_getElem bound, opened?, cellAt?,
      Value.equalsNat_of_int? hg, Option.filter]
    split <;> rfl
  · have none_opened : t.opened? k = none := by
      cases opened : t.opened? k with
      | none => rfl
      | some cell =>
        obtain ⟨low, found, -, -⟩ := opened?_eq_some.mp opened
        have := (List.getElem?_eq_some_iff.mp found).1
        exact absurd ⟨low, by omega⟩ inside
    rw [if_neg inside, none_opened]
    rfl

theorem access_of_opened? {handle : Value} {k : Key} (key : handle.key? = some k) {cell : Cell}
    (opened : t.opened? k = some cell) : t.access handle = .ok (k.index.toNat, cell) := by
  simp [access, find?_of_key? key, opened]

theorem access_of_closed {handle : Value} {k : Key} (key : handle.key? = some k)
    (closed : t.opened? k = none) : t.access handle = .error (.invalid t.name handle) := by
  simp [access, find?_of_key? key, closed]

theorem held?_eq_none {k : Key} : t.held? k = none ↔ t.opened? k = none := by
  simp [held?]

theorem call_get {handle : Value} {k : Key} (key : handle.key? = some k) :
    t.call (.get handle) =
      match t.held? k with
      | some v => .done t v
      | none => .failed t (.invalid t.name handle) := by
  cases opened : t.opened? k with
  | none => simp [call, get, access_of_closed key opened, held?, opened, Outcome.failed, bind, Except.bind]
  | some cell => simp [call, get, access_of_opened? key opened, held?, opened, Outcome.done, bind, Except.bind]

theorem call_isValid {handle : Value} {k : Key} (key : handle.key? = some k) :
    t.call (.isValid handle) = .done t (.truth (t.held? k).isSome) := by
  simp [call, isValid, find?_of_key? key, held?, Outcome.done, Except.map]

/-! ## Replacing and adding cells -/

section Cells

variable {t' : SlotTable} {i : Nat} {cell old : Cell}

theorem cellAt?_of_set (cells : t'.cells = t.cells.set i cell) (bound : i < t.cells.length) (j : Int) :
    t'.cellAt? j = if j = i then some cell else t.cellAt? j := by
  unfold cellAt?
  rw [cells, List.getElem?_set]
  by_cases low : 0 ≤ j
  · by_cases same : j = i
    · subst same
      simp [bound]
    · have apart : ¬ i = j.toNat := by omega
      simp [low, same, apart]
  · have apart : ¬ j = i := by omega
    simp [low, apart]

theorem cellAt?_of_append (cells : t'.cells = t.cells ++ [cell]) (j : Int) :
    t'.cellAt? j = if j = t.cells.length then some cell else t.cellAt? j := by
  unfold cellAt?
  rw [cells, List.getElem?_append]
  by_cases low : 0 ≤ j
  · by_cases same : j = t.cells.length
    · subst same
      simp
    · by_cases below : j.toNat < t.cells.length
      · simp [low, same, below]
      · have beyond : ¬ j.toNat - t.cells.length < 1 := by omega
        simp [low, same, below, List.getElem?_eq_none (Nat.le_of_not_lt beyond : [cell].length ≤ _)]
  · have apart : ¬ j = t.cells.length := by omega
    simp [low, apart]

/-- Keys of other slots open what they opened before. -/
theorem held?_of_cellAt? {n : Int} (cellAt : ∀ j, t'.cellAt? j = if j = n then some cell else t.cellAt? j)
    (k : Key) :
    t'.held? k =
      if k.index = n then (if cell.occupied = true ∧ k.generation = cell.generation then some cell.value else none)
      else t.held? k := by
  unfold held? opened?
  rw [cellAt]
  by_cases same : k.index = n
  · by_cases opens : cell.occupied = true ∧ k.generation = cell.generation
    · simp [same, opens, Option.filter]
    · have shut : (cell.occupied && decide (k.generation = cell.generation)) = false := by simpa using opens
      rw [if_pos same, if_pos same, if_neg opens, Option.filter_some_neg (by simp [shut])]
      rfl
  · simp [same]

theorem generationAt_of_cellAt? {n : Int}
    (cellAt : ∀ j, t'.cellAt? j = if j = n then some cell else t.cellAt? j) (j : Int) :
    t'.generationAt j = if j = n then cell.generation else t.generationAt j := by
  unfold generationAt
  rw [cellAt]
  split <;> rfl

/-- A value in a slot that no key opens is held under the key of its generation. -/
theorem held?_of_new {n : Int} (cellAt : ∀ j, t'.cellAt? j = if j = n then some cell else t.cellAt? j)
    (occupied : cell.occupied = true) (shut : ∀ k : Key, k.index = n → t.held? k = none) (k : Key) :
    t'.held? k = if k = ⟨cell.generation, n⟩ then some cell.value else t.held? k := by
  rw [held?_of_cellAt? cellAt]
  by_cases same : k.index = n
  · by_cases own : k.generation = cell.generation
    · simp [same, own, occupied, Key.ext_iff]
    · simp [same, own, shut k same, Key.ext_iff]
  · simp [same, Key.ext_iff]

/-- Generations grow with that of a cell. -/
theorem generationAt_le {n : Int} (cellAt : ∀ j, t'.cellAt? j = if j = n then some cell else t.cellAt? j)
    (older : t.generationAt n ≤ cell.generation) (j : Int) : t.generationAt j ≤ t'.generationAt j := by
  rw [generationAt_of_cellAt? cellAt]
  split
  · rename_i same
    rw [same]
    exact older
  · exact Nat.le_refl _

theorem size_of_set (cells : t'.cells = t.cells.set i cell) (found : t.cells[i]? = some old) :
    t'.size + (if old.occupied then 1 else 0) = t.size + (if cell.occupied then 1 else 0) := by
  obtain ⟨bound, read⟩ := List.getElem?_eq_some_iff.mp found
  unfold size
  rw [cells, List.countP_set bound, read]
  by_cases held : old.occupied = true
  · have positive : 0 < t.cells.countP Cell.occupied :=
      List.countP_pos_iff.mpr ⟨old, read ▸ List.getElem_mem bound, held⟩
    simp only [held, if_true]
    omega
  · simp [held]

end Cells

/-! ## What calls change -/

/-- A table that differs from a sound one in what it holds under one key. -/
structure Changed (t t' : SlotTable) (k : Key) (v : Option Value) : Prop where
  name : t'.name = t.name
  sound : t'.Sound
  held : ∀ j, t'.held? j = if j = k then v else t.held? j
  grown : ∀ i, t.generationAt i ≤ t'.generationAt i
  size : t'.size + (if (t.held? k).isSome then 1 else 0) = t.size + (if v.isSome then 1 else 0)

/-- The index of the next slot to be occupied. -/
def freshIndex (t : SlotTable) : Nat :=
  match t.free with
  | index :: _ => (index.int?.getD 0).toNat
  | [] => t.cells.length

/-- The key of the next handle. -/
def nextKey (t : SlotTable) : Key :=
  ⟨t.generationAt t.freshIndex + 1, t.freshIndex⟩

/-- A key opens a slot in the slot's latest generation only. -/
theorem generationAt_of_held? {k : Key} {v : Value} (held : t.held? k = some v) : k.generation = t.generationAt k.index := by
  obtain ⟨cell, opened, -⟩ := Option.map_eq_some_iff.mp held
  obtain ⟨low, found, -, generation⟩ := opened?_eq_some.mp opened
  simp [generationAt, cellAt?, low, found, generation]

theorem held?_nextKey : t.held? t.nextKey = none := by
  cases held : t.held? t.nextKey with
  | none => rfl
  | some v =>
    have same := generationAt_of_held? held
    simp only [nextKey] at same
    omega

/-- A freed slot is unoccupied. -/
theorem Sound.cell_of_free (s : t.Sound) {index : Value} {rest : List Value} (free : t.free = index :: rest) :
    ∃ i : Nat, index.int? = some (i : Int) ∧ t.freshIndex = i ∧
      ∃ cell, t.cells[i]? = some cell ∧ cell.occupied = false := by
  obtain ⟨i, whole⟩ := s.integral index (by rw [free]; exact List.mem_cons_self)
  have fresh : t.freshIndex = i := by simp [freshIndex, free, whole]
  refine ⟨i, whole, fresh, (s.unoccupied i).mp ?_⟩
  rw [freeIndices, free, List.map_cons, whole]
  exact List.mem_cons_self

theorem Sound.sound_reuse (s : t.Sound) {index : Value} {rest : List Value} (free : t.free = index :: rest)
    {i : Nat} (whole : index.int? = some (i : Int)) {cell : Cell} (occupied : cell.occupied = true)
    {t' : SlotTable} (cells : t'.cells = t.cells.set i cell) (free' : t'.free = rest) : t'.Sound := by
  have indices : t.freeIndices = i :: t'.freeIndices := by simp [freeIndices, free, free', whole]
  have nodup := s.nodup
  rw [indices, List.nodup_cons] at nodup
  refine ⟨fun v hv => s.integral v (by rw [free, ← free']; exact List.mem_cons_of_mem _ hv), nodup.2, ?_⟩
  intro j
  rw [cells, List.getElem?_set]
  by_cases same : i = j
  · subst same
    have bound : i < t.cells.length := by
      obtain ⟨_, found, -⟩ := (s.unoccupied i).mp (by rw [indices]; exact List.mem_cons_self)
      exact (List.getElem?_eq_some_iff.mp found).1
    simp [nodup.1, bound, occupied]
  · rw [if_neg same, ← s.unoccupied j, indices, List.mem_cons]
    exact ⟨Or.inr, fun h => h.resolve_left fun e => same e.symm⟩

theorem Sound.sound_freed (s : t.Sound) {index : Value} {i : Nat} (whole : index.int? = some (i : Int))
    {old cell : Cell} (found : t.cells[i]? = some old) (occupied : old.occupied = true)
    (vacant : cell.occupied = false) {t' : SlotTable} (cells : t'.cells = t.cells.set i cell)
    (free' : t'.free = index :: t.free) : t'.Sound := by
  have indices : t'.freeIndices = i :: t.freeIndices := by simp [freeIndices, free', whole]
  have outside : i ∉ t.freeIndices := by
    rw [s.unoccupied i]
    rintro ⟨_, read, vacant⟩
    rw [found, Option.some.injEq] at read
    rw [← read, occupied] at vacant
    cases vacant
  have bound := (List.getElem?_eq_some_iff.mp found).1
  refine ⟨?_, indices ▸ List.nodup_cons.mpr ⟨outside, s.nodup⟩, ?_⟩
  · intro v hv
    rw [free'] at hv
    rcases List.mem_cons.mp hv with rfl | hv
    · exact ⟨i, whole⟩
    · exact s.integral v hv
  · intro j
    rw [indices, cells, List.mem_cons, List.getElem?_set]
    by_cases same : i = j
    · simp [same, same ▸ bound, vacant]
    · rw [if_neg same, ← s.unoccupied j]
      exact ⟨fun h => h.resolve_left fun e => same e.symm, Or.inr⟩

theorem Sound.sound_kept (s : t.Sound) (cell : Cell) {i : Nat} {old : Cell} (found : t.cells[i]? = some old)
    (occupied : old.occupied = true) (stays : cell.occupied = true) {t' : SlotTable}
    (cells : t'.cells = t.cells.set i cell) (free' : t'.free = t.free) : t'.Sound := by
  have indices : t'.freeIndices = t.freeIndices := by simp [freeIndices, free']
  have bound := (List.getElem?_eq_some_iff.mp found).1
  refine ⟨free' ▸ s.integral, indices ▸ s.nodup, ?_⟩
  intro j
  rw [indices, s.unoccupied j, cells, List.getElem?_set]
  by_cases same : i = j
  · subst same
    rw [if_pos rfl, if_pos bound, found]
    simp [occupied, stays]
  · rw [if_neg same]

/-- A new value in a freed slot. -/
theorem create_reused (s : t.Sound) {index : Value} {rest : List Value} (free : t.free = index :: rest)
    (v : Value) : (t.create v).1.key? = some t.nextKey ∧ Changed t (t.create v).2 t.nextKey (some v) := by
  obtain ⟨i, whole, fresh, old, found, vacant⟩ := s.cell_of_free free
  have bound := (List.getElem?_eq_some_iff.mp found).1
  have generation : t.generationAt (i : Int) = old.generation := by
    simp [generationAt, cellAt?_natCast, found]
  have key : t.nextKey = ⟨(old.generation + 1 : Nat), (i : Int)⟩ := by
    rw [nextKey, fresh, generation]
    rfl
  have cells : (t.create v).2.cells = t.cells.set i ⟨v, old.generation + 1, true⟩ := by
    simp [create, free, whole, found, setCell]
  have cellAt := cellAt?_of_set cells bound
  have shut : ∀ k : Key, k.index = i → t.held? k = none := by
    intro k same
    simp [held?_eq_none, opened?, same, cellAt?_natCast, found, vacant, Option.filter]
  have older : t.generationAt (i : Int) ≤ old.generation + 1 := by
    rw [generation]
    exact Nat.le_succ _
  refine ⟨?_, by simp [create, free, setCell], s.sound_reuse free whole rfl cells (by simp [create, free, setCell]), ?_,
    generationAt_le cellAt older, ?_⟩
  · rw [key]
    simp only [create, free, whole, Option.getD_some, Int.toNat_natCast, found]
    exact Value.key?_handle rfl whole
  · rw [key]
    exact held?_of_new cellAt rfl shut
  · have sizes := size_of_set cells found
    simpa [held?_nextKey, vacant] using sizes

/-- A new value in a new slot. -/
theorem create_added (s : t.Sound) (free : t.free = []) (v : Value) :
    (t.create v).1.key? = some t.nextKey ∧ Changed t (t.create v).2 t.nextKey (some v) := by
  have generation : t.generationAt (t.cells.length : Int) = 0 := by
    simp [generationAt, cellAt?_natCast]
  have key : t.nextKey = ⟨(1 : Nat), (t.cells.length : Int)⟩ := by
    have fresh : t.freshIndex = t.cells.length := by simp [freshIndex, free]
    rw [nextKey, fresh, generation]
    rfl
  have cells : (t.create v).2.cells = t.cells ++ [⟨v, 1, true⟩] := by simp [create, free]
  have free' : (t.create v).2.free = [] := by simp [create, free]
  have cellAt := cellAt?_of_append cells
  have sound : (t.create v).2.Sound := by
    refine ⟨by simp [free'], by simp [freeIndices, free'], ?_⟩
    intro j
    have none_free : ¬ ∃ cell, t.cells[j]? = some cell ∧ cell.occupied = false := by
      rw [← s.unoccupied j, freeIndices, free]
      exact List.not_mem_nil
    rw [cells, List.getElem?_append]
    split
    · simpa [freeIndices, free'] using none_free
    · simp [freeIndices, free', List.getElem?_singleton]
  have shut : ∀ k : Key, k.index = t.cells.length → t.held? k = none := by
    intro k same
    simp [held?_eq_none, opened?, same, cellAt?_natCast]
  have older : t.generationAt (t.cells.length : Int) ≤ 1 := by
    rw [generation]
    exact Nat.zero_le _
  refine ⟨?_, by simp [create, free], sound, ?_, generationAt_le cellAt older, ?_⟩
  · rw [key]
    simp only [create, free]
    exact Value.key?_handle rfl rfl
  · rw [key]
    exact held?_of_new cellAt rfl shut
  · simp [held?_nextKey, size, cells]

/-- A new value is held under the next key. -/
theorem create_changed (s : t.Sound) (v : Value) :
    (t.create v).1.key? = some t.nextKey ∧ Changed t (t.create v).2 t.nextKey (some v) := by
  cases free : t.free with
  | cons index rest => exact create_reused s free v
  | nil => exact create_added s free v

/-- The cell that holds a value. -/
theorem cell_of_held? {k : Key} {v : Value} (held : t.held? k = some v) :
    ∃ cell, t.opened? k = some cell ∧ cell.value = v ∧ ∃ i : Nat, k = ⟨cell.generation, i⟩ ∧
      t.cells[i]? = some cell ∧ cell.occupied = true := by
  obtain ⟨cell, opened, value⟩ := Option.map_eq_some_iff.mp held
  obtain ⟨low, found, occupied, generation⟩ := opened?_eq_some.mp opened
  refine ⟨cell, opened, value, k.index.toNat, ?_, found, occupied⟩
  ext
  · exact generation
  · exact (Int.toNat_of_nonneg low).symm

/-- A replaced cell of the same generation changes nothing but what the key of that generation opens. -/
theorem changed_of_set (cell : Cell) {i : Nat} {old : Cell} {t' : SlotTable} {k : Key} {v : Option Value}
    (found : t.cells[i]? = some old) (occupied : old.occupied = true) (key : k = ⟨old.generation, i⟩)
    (generation : cell.generation = old.generation) (now : (if cell.occupied then some cell.value else none) = v)
    (name : t'.name = t.name) (sound : t'.Sound) (cells : t'.cells = t.cells.set i cell) :
    Changed t t' k v := by
  subst now
  have bound := (List.getElem?_eq_some_iff.mp found).1
  have cellAt := cellAt?_of_set cells bound
  have before : t.held? k = some old.value := by
    simp [held?, opened?, key, cellAt?_natCast, found, occupied, Option.filter]
  have older : t.generationAt (i : Int) ≤ cell.generation := by
    simp [generationAt, cellAt?_natCast, found, generation]
  refine ⟨name, sound, ?_, generationAt_le cellAt older, ?_⟩
  · intro j
    rw [held?_of_cellAt? cellAt]
    by_cases same : j.index = i
    · by_cases own : j.generation = old.generation
      · have equal : j = k := by rw [key]; exact Key.ext own same
        simp [equal, key, generation]
      · have none_held : t.held? j = none := by
          simp [held?_eq_none, opened?, same, cellAt?_natCast, found, own, Option.filter]
        have apart : ¬ j = k := fun e => own (by rw [e, key])
        simp [same, own, apart, none_held, generation]
    · have apart : ¬ j = k := fun e => same (by rw [e, key])
      simp [same, apart]
  · have sizes := size_of_set cells found
    rw [before]
    by_cases o : cell.occupied = true <;> simpa [occupied, o] using sizes

/-- A destroyed value is held no more. -/
theorem destroy_changed (s : t.Sound) {handle : Value} {k : Key} (key : handle.key? = some k) {v : Value}
    (held : t.held? k = some v) :
    ∃ t', t.call (.destroy handle) = .done t' .absent ∧ Changed t t' k none := by
  obtain ⟨cell, opened, -, i, equal, found, occupied⟩ := cell_of_held? held
  obtain ⟨generation, index, rfl, hg, hi⟩ := Value.fields_of_key? key
  have place : k.index.toNat = i := by simp [equal]
  have whole : index.int? = some (i : Int) := by rw [hi, equal]
  refine ⟨{ t.setCell k.index.toNat { cell with value := .absent, occupied := false } with
    free := index :: t.free, changes := t.changes + 1 }, ?_, ?_⟩
  · simp [call, destroy, access_of_opened? key opened, bind, Except.bind]
  have cells : t.cells.set k.index.toNat { cell with value := .absent, occupied := false } =
      t.cells.set i { cell with value := .absent, occupied := false } := by
    rw [place]
  exact changed_of_set { cell with value := .absent, occupied := false } found occupied equal rfl rfl rfl
    (s.sound_freed whole found occupied rfl cells rfl) cells

/-- A stored value is held instead of the one before. -/
theorem set_changed (s : t.Sound) {handle : Value} {k : Key} (key : handle.key? = some k) {v : Value}
    (held : t.held? k = some v) (value : Value) :
    ∃ t', t.call (.set handle value) = .done t' .absent ∧ Changed t t' k (some value) := by
  obtain ⟨cell, opened, -, i, equal, found, occupied⟩ := cell_of_held? held
  have place : k.index.toNat = i := by simp [equal]
  refine ⟨t.setCell k.index.toNat { cell with value }, ?_, ?_⟩
  · simp [call, set, access_of_opened? key opened, bind, Except.bind]
  have cells : t.cells.set k.index.toNat { cell with value } = t.cells.set i { cell with value } := by rw [place]
  exact changed_of_set { cell with value } found occupied equal rfl (if_pos occupied) rfl
    (s.sound_kept { cell with value } found occupied occupied cells rfl) cells

/-- A call through a key that opens nothing fails and changes nothing. -/
theorem destroy_closed {handle : Value} {k : Key} (key : handle.key? = some k) (none_held : t.held? k = none) :
    t.call (.destroy handle) = .failed t (.invalid t.name handle) := by
  simp [call, destroy, access_of_closed key (held?_eq_none.mp none_held), bind, Except.bind]

theorem set_closed {handle : Value} {k : Key} (key : handle.key? = some k) (none_held : t.held? k = none)
    (value : Value) : t.call (.set handle value) = .failed t (.invalid t.name handle) := by
  simp [call, set, access_of_closed key (held?_eq_none.mp none_held), bind, Except.bind]

/-- A call through a key fails only because the key opens nothing. -/
theorem call_error_of_key {c : SlotCall} {handle : Value} (through : c.handle? = some handle) {k : Key}
    (key : handle.key? = some k) {e : AccessError} (failed : (t.call c).answer = .error e) :
    e = .invalid t.name handle := by
  cases opened : t.opened? k with
  | none =>
    have shut := access_of_closed key opened
    cases c <;> cases through
    · simpa [call, destroy, shut, bind, Except.bind, eq_comm] using failed
    · simpa [call, get, shut, bind, Except.bind, eq_comm] using failed
    · simpa [call, set, shut, bind, Except.bind, eq_comm] using failed
    · simp [call_isValid key] at failed
  | some cell =>
    have open_ := access_of_opened? key opened
    cases c <;> cases through
    · simp [call, destroy, open_, bind, Except.bind] at failed
    · simp [call, get, open_, bind, Except.bind] at failed
    · simp [call, set, open_, bind, Except.bind] at failed
    · simp [call_isValid key] at failed

end SlotTable

end CommandStream
