import CommandStream.Proofs.Slot.History

/-!
# What a call does to the slots

A call hands out the next key, destroys a key that was held, or leaves keys and slots as they are; a call through a handle that
opens no slot changes nothing at all, whatever the fields of the handle are. Which of these happened is told by the call and its
answer, and so are the slots that are free behind it and their generations.
-/

namespace CommandStream
open Slot

/-! ## What a handle names -/

/-- The integer that a value equals, as an integer or as a float without fraction. -/
def Value.whole? : Value → Option Int
  | .float bits => Floating.integer? bits.toNat
  | v => v.int?

/-- The key that a handle names; its generation may be a float. -/
def Value.names? : Value → Option Key
  | .handle generation index =>
    match generation.whole?, index.int? with
    | some g, some i => some ⟨g, i⟩
    | _, _ => none
  | _ => none

theorem Value.equalsNat_iff {v : Value} {n : Nat} : v.equalsNat n = true ↔ v.whole? = some (n : Int) := by
  cases v <;> simp only [equalsNat, whole?, beq_iff_eq]

theorem Slot.int?_of_place {index : Value} {count i : Nat} (stands : place index count = .at i) :
    index.int? = some (i : Int) := by
  unfold place at stands
  split at stands
  · split at stands <;> cases stands
  · split at stands
    · cases stands
    · rename_i n whole
      split at stands
      · rename_i inside
        cases stands
        rw [whole, Int.toNat_of_nonneg inside.1]
      · cases stands

theorem Slot.int?_of_unusable {index : Value} {count : Nat} (stands : place index count = .unusable) :
    index.int? = none := by
  unfold place at stands
  split at stands
  · rfl
  · split at stands
    · assumption
    · split at stands <;> cases stands

namespace SlotTable

variable {t t' : SlotTable} {handle : Value} {i : Nat} {cell : Cell}

/-- A handle that opens a slot names its key. -/
theorem names_of_find? (found : t.find? handle = .ok (some (i, cell))) :
    ∃ generation index, handle = .handle generation index ∧ index.int? = some (i : Int) ∧
      handle.names? = some ⟨cell.generation, i⟩ ∧ t.cells[i]? = some cell ∧ cell.occupied = true := by
  unfold find? at found
  split at found
  · rename_i generation index
    split at found
    · cases found
    · cases found
    · rename_i j stands
      split at found
      · rename_i own read
        split at found
        · rename_i opens
          cases found
          obtain ⟨occupied, equal⟩ := Bool.and_eq_true_iff.mp opens
          have whole := Slot.int?_of_place stands
          refine ⟨generation, index, rfl, whole, ?_, read, occupied⟩
          simp only [Value.names?, Value.equalsNat_iff.mp equal, whole]
        · cases found
      · cases found
  · cases found
  · cases found
  · cases found
  · cases found

end SlotTable

/-! ## What an event tells -/

namespace SlotEvent

/-- The key that an event destroys. -/
def freed? (e : SlotEvent) : Option Key :=
  match e.call, e.answer with
  | .destroy handle, .ok _ => handle.names?
  | _, _ => none

/-- The live keys after an event. -/
def settle (living : List Key) (e : SlotEvent) : List Key :=
  (living ++ e.issued?.toList).filter fun k => e.freed? != some k

theorem settle_of_none {e : SlotEvent} (freed : e.freed? = none) (living : List Key) :
    e.settle living = living ++ e.issued?.toList := by
  rw [settle, freed]
  exact List.filter_eq_self.mpr fun _ _ => rfl

theorem settle_of_some {e : SlotEvent} {k : Key} (freed : e.freed? = some k) {living : List Key}
    (distinct : (living ++ e.issued?.toList).Nodup) : e.settle living = (living ++ e.issued?.toList).erase k := by
  rw [settle, freed, List.Nodup.erase_eq_filter distinct]
  apply List.filter_congr
  intro j _
  rw [bne_comm]
  rfl

/-- The free indices after an event, the latest freed first. -/
def vacate (free : List Int) (e : SlotEvent) : List Int :=
  (e.freed?.map Key.index).toList ++ free.filter fun i => e.issued?.map Key.index != some i

theorem vacate_of_none {e : SlotEvent} (issued : e.issued? = none) (free : List Int) :
    e.vacate free = (e.freed?.map Key.index).toList ++ free := by
  rw [vacate, issued]
  exact congrArg _ (List.filter_eq_self.mpr fun _ _ => rfl)

/-- Whether an event is a successful destruction. -/
def destroys (e : SlotEvent) : Bool :=
  match e.call, e.answer with
  | .destroy _, .ok _ => true
  | _, _ => false

/-- The handle that an event hands out. -/
def handed? (e : SlotEvent) : Option Value :=
  match e.call, e.answer with
  | .create _, .ok handle => some handle
  | _, _ => none

end SlotEvent

namespace SlotTable

variable {t t' : SlotTable}

/-! ## One call -/

/-- The indices of freed slots as integers, the latest freed first. -/
def vacant (t : SlotTable) : List Int :=
  t.freeIndices.map Int.ofNat

/-- What an event does to a table: the key it hands out is the next one and the key it destroys was held, and both tell the
occupied slots, their generations, the free list and the counts. A slot is added only when none is free. -/
structure Transition (t : SlotTable) (e : SlotEvent) (t' : SlotTable) : Prop where
  sound : t'.Sound
  issued : ∀ k, e.issued? = some k → k = t.nextKey
  handed : ∀ handle, e.handed? = some handle → handle.key? = e.issued? ∧ e.issued?.isSome
  freed : ∀ k, e.freed? = some k → (t.held? k).isSome
  destroys : e.destroys = e.freed?.isSome
  held : ∀ k, (t'.held? k).isSome ↔ (e.issued? = some k ∨ (t.held? k).isSome) ∧ e.freed? ≠ some k
  generation : ∀ i, t'.generationAt i = t.generationAt i + if e.issued?.map Key.index = some i then 1 else 0
  vacant : t'.vacant = e.vacate t.vacant
  size : t'.size + e.freed?.toList.length = t.size + e.issued?.toList.length
  slots : t'.cells.length = t.cells.length ∨ t'.cells.length = t.cells.length + 1 ∧ t'.free = []
  inside : ∀ k, e.issued? = some k → k.index < t'.cells.length
  changes : t'.changes + t.cells.length = t.changes + t'.cells.length + if e.destroys then 1 else 0

/-- An event that hands out and destroys nothing. -/
theorem transition_idle (e : SlotEvent) (handed : e.handed? = none) (issued : e.issued? = none) (freed : e.freed? = none)
    (destroys : e.destroys = false) (sound : t'.Sound) (held : ∀ k, (t'.held? k).isSome = (t.held? k).isSome)
    (generation : ∀ i, t'.generationAt i = t.generationAt i) (free : t'.free = t.free) (size : t'.size = t.size)
    (slots : t'.cells.length = t.cells.length) (changes : t'.changes = t.changes) : Transition t e t' where
  sound := sound
  issued k own := by simp [issued] at own
  handed h own := by simp [handed] at own
  freed k own := by simp [freed] at own
  destroys := by simp [destroys, freed]
  held k := by simp [held, issued, freed]
  generation i := by simp [generation, issued]
  vacant := by
    have same : t'.vacant = t.vacant := by rw [SlotTable.vacant, SlotTable.vacant, freeIndices, freeIndices, free]
    rw [same, SlotEvent.vacate_of_none issued, freed]
    rfl
  size := by simp [issued, freed, size]
  slots := .inl slots
  inside k own := by simp [issued] at own
  changes := by simp [changes, slots, destroys]

/-- A failed call hands out and destroys nothing. -/
theorem transition_failed (sound : t.Sound) (c : SlotCall) (e : AccessError) : Transition t ⟨c, .error e⟩ t := by
  refine transition_idle _ ?_ ?_ ?_ ?_ sound (fun _ => rfl) (fun _ => rfl) rfl rfl rfl rfl
  all_goals cases c <;> rfl

/-- A call that only looks hands out and destroys nothing. -/
theorem transition_looked (sound : t.Sound) {c : SlotCall} (answer : Except AccessError Value)
    (looks : (∃ handle, c = .get handle) ∨ (∃ handle, c = .isValid handle) ∨ c = .size) : Transition t ⟨c, answer⟩ t := by
  refine transition_idle _ ?_ ?_ ?_ ?_ sound (fun _ => rfl) (fun _ => rfl) rfl rfl rfl rfl
  all_goals obtain ⟨handle, rfl⟩ | ⟨handle, rfl⟩ | rfl := looks <;> rfl

/-- The cells behind a new value. -/
theorem create_cells (s : t.Sound) (v : Value) : ∃ cell : Cell, cell.generation = t.generationAt t.freshIndex + 1 ∧
    ∀ j, (t.create v).2.cellAt? j = if j = t.freshIndex then some cell else t.cellAt? j := by
  cases free : t.free with
  | cons index rest =>
    obtain ⟨i, whole, fresh, old, found, -⟩ := s.cell_of_free free
    have bound := (List.getElem?_eq_some_iff.mp found).1
    have generation : t.generationAt (i : Int) = old.generation := by
      simp [generationAt, cellAt?_natCast, found]
    have cells : (t.create v).2.cells = t.cells.set i ⟨v, old.generation + 1, true⟩ := by
      simp [create, free, whole, found, setCell]
    rw [fresh]
    exact ⟨_, by rw [generation], cellAt?_of_set cells bound⟩
  | nil =>
    have fresh : t.freshIndex = t.cells.length := by simp [freshIndex, free]
    have generation : t.generationAt (t.cells.length : Int) = 0 := by
      simp [generationAt, cellAt?_natCast]
    have cells : (t.create v).2.cells = t.cells ++ [⟨v, 1, true⟩] := by simp [create, free]
    rw [fresh]
    exact ⟨_, by rw [generation], cellAt?_of_append cells⟩

/-- A new value takes the latest freed slot, or a new one if none is free. -/
theorem create_slots (s : t.Sound) (v : Value) :
    (t.create v).2.vacant = t.vacant.filter (fun i => some (t.freshIndex : Int) != some i) ∧
      ((t.create v).2.cells.length = t.cells.length ∧ (t.create v).2.changes = t.changes ∧ t.freshIndex < t.cells.length ∨
        (t.create v).2.cells.length = t.cells.length + 1 ∧ (t.create v).2.changes = t.changes + 1 ∧
          (t.create v).2.free = [] ∧ t.freshIndex = t.cells.length) := by
  cases free : t.free with
  | cons index rest =>
    obtain ⟨i, whole, fresh, old, found, -⟩ := s.cell_of_free free
    have bound := (List.getElem?_eq_some_iff.mp found).1
    have indices : t.freeIndices = i :: (t.create v).2.freeIndices := by
      simp [freeIndices, create, free, setCell, whole]
    have nodup := s.nodup
    rw [indices, List.nodup_cons] at nodup
    refine ⟨?_, .inl ⟨by simp [create, free, setCell], by simp [create, free, setCell], fresh ▸ bound⟩⟩
    have others : ∀ j ∈ (t.create v).2.vacant, (some (i : Int) != some j) = true := by
      intro j member
      obtain ⟨own, listed, rfl⟩ := List.mem_map.mp member
      rw [bne_iff_ne]
      intro same
      exact nodup.1 (Int.ofNat.inj (Option.some.inj same) ▸ listed)
    have first : t.vacant = (i : Int) :: (t.create v).2.vacant := by
      rw [vacant, indices]
      rfl
    rw [first, fresh, List.filter_cons_of_neg (by simp), List.filter_eq_self.mpr others]
  | nil =>
    refine ⟨?_, .inr ⟨?_, ?_, ?_, ?_⟩⟩
    · simp [vacant, freeIndices, create, free]
    · simp [create, free]
    · simp [create, free]
    · simp [create, free]
    · simp [freshIndex, free]

/-- A new value is handed out under the next key. -/
theorem transition_created (s : t.Sound) (values : List Value) (v : Value) :
    Transition t ⟨.create values, .ok (t.create v).1⟩ (t.create v).2 := by
  obtain ⟨key, changed⟩ := create_changed s v
  obtain ⟨cell, generation, cellAt⟩ := create_cells s v
  obtain ⟨others, slots⟩ := create_slots s v
  have issued : SlotEvent.issued? ⟨.create values, .ok (t.create v).1⟩ = some t.nextKey := key
  have freed : SlotEvent.freed? ⟨.create values, .ok (t.create v).1⟩ = none := rfl
  have destroys : SlotEvent.destroys ⟨.create values, .ok (t.create v).1⟩ = false := rfl
  exact {
    sound := changed.sound
    issued := fun k own => (Option.some.inj (issued.symm.trans own)).symm
    handed := by
      rintro handle own
      cases own
      rw [issued]
      exact ⟨key, rfl⟩
    freed := by
      intro k own
      cases own
    destroys := rfl
    held := by
      intro k
      rw [changed.held, issued, freed, Option.some.injEq]
      split
      · rename_i same
        simp [same]
      · rename_i other
        have apart : ¬ t.nextKey = k := fun e => other e.symm
        simp [apart]
    generation := by
      intro i
      rw [generationAt_of_cellAt? cellAt, issued, generation]
      simp only [Option.map_some, nextKey, Option.some.injEq]
      by_cases same : i = t.freshIndex
      · rw [if_pos same, if_pos same.symm, same]
      · rw [if_neg same, if_neg fun e => same e.symm, Nat.add_zero]
    vacant := by
      rw [others, SlotEvent.vacate, issued, freed]
      rfl
    size := by
      have sizes := changed.size
      rw [held?_nextKey] at sizes
      simpa [issued, freed] using sizes
    slots := slots.imp And.left fun added => ⟨added.1, added.2.2.1⟩
    inside := by
      intro k own
      obtain rfl := Option.some.inj (issued.symm.trans own)
      have index : t.nextKey.index = t.freshIndex := rfl
      omega
    changes := by
      rw [destroys]
      simp only [Bool.false_eq_true, if_false]
      omega }

section Opened
variable {handle : Value} {i : Nat} {cell : Cell} (s : t.Sound) (found : t.find? handle = .ok (some (i, cell)))

theorem held?_of_cell (read : t.cells[i]? = some cell) (occupied : cell.occupied = true) :
    t.held? ⟨cell.generation, i⟩ = some cell.value := by
  simp [held?, opened?, cellAt?_natCast, read, occupied, Option.filter]

/-- A replaced cell of the same generation leaves all generations as they were. -/
theorem generationAt_of_set (read : t.cells[i]? = some cell) {other : Cell} (cells : t'.cells = t.cells.set i other)
    (generation : other.generation = cell.generation) (j : Int) : t'.generationAt j = t.generationAt j := by
  have bound := (List.getElem?_eq_some_iff.mp read).1
  rw [generationAt_of_cellAt? (cellAt?_of_set cells bound)]
  split
  · rename_i same
    simp [same, generationAt, cellAt?_natCast, read, generation]
  · rfl

include s found

/-- A slot that is opened is given free. -/
theorem transition_destroyed :
    ∃ t', t.call (.destroy handle) = .done t' .absent ∧ Transition t ⟨.destroy handle, .ok .absent⟩ t' := by
  obtain ⟨generation, index, rfl, whole, names, read, occupied⟩ := names_of_find? found
  let left : Cell := { cell with value := .absent, occupied := false }
  let t' : SlotTable := { t.setCell i left with free := index :: t.free, changes := t.changes + 1 }
  have done : t.call (.destroy (.handle generation index)) = .done t' .absent := by
    simp only [call, destroy, access, found, bind, Except.bind]
    rfl
  have cells : t'.cells = t.cells.set i left := rfl
  have changed : Changed t t' ⟨cell.generation, i⟩ none :=
    changed_of_set left read occupied rfl rfl rfl rfl (s.sound_freed whole read occupied rfl cells rfl) cells
  have before := held?_of_cell read occupied
  have freed : SlotEvent.freed? ⟨.destroy (.handle generation index), .ok .absent⟩ = some ⟨cell.generation, i⟩ := names
  have issued : SlotEvent.issued? ⟨.destroy (.handle generation index), .ok .absent⟩ = none := rfl
  have destroys : SlotEvent.destroys ⟨.destroy (.handle generation index), .ok .absent⟩ = true := rfl
  have slots : t'.cells.length = t.cells.length := by rw [cells, List.length_set]
  refine ⟨t', done, ?_⟩
  exact {
    sound := changed.sound
    issued := by
      intro k own
      cases own
    handed := by
      intro h own
      cases own
    freed := by
      intro k own
      rw [← Option.some.inj (freed.symm.trans own), before]
      rfl
    destroys := by
      rw [destroys, freed]
      rfl
    held := by
      intro k
      rw [changed.held, issued, freed]
      split
      · rename_i same
        simp [same]
      · rename_i other
        have apart : ¬ (⟨cell.generation, i⟩ : Key) = k := fun e => other e.symm
        simp [apart]
    generation := by
      intro j
      rw [issued]
      exact generationAt_of_set read cells rfl j
    vacant := by
      have first : t'.vacant = (i : Int) :: t.vacant := by
        simp [vacant, freeIndices, t', whole]
      rw [first, SlotEvent.vacate_of_none issued, freed]
      rfl
    size := by
      have sizes := changed.size
      rw [before] at sizes
      simpa [issued, freed] using sizes
    slots := .inl slots
    inside := by
      intro k own
      cases own
    changes := by
      have more : t'.changes = t.changes + 1 := rfl
      rw [destroys, if_pos rfl]
      omega }

/-- A slot that is opened gets another value. -/
theorem transition_stored (value : Value) :
    ∃ t', t.call (.set handle value) = .done t' .absent ∧ Transition t ⟨.set handle value, .ok .absent⟩ t' := by
  obtain ⟨generation, index, rfl, -, -, read, occupied⟩ := names_of_find? found
  let left : Cell := { cell with value }
  have cells : (t.setCell i left).cells = t.cells.set i left := rfl
  have done : t.call (.set (.handle generation index) value) = .done (t.setCell i left) .absent := by
    simp only [call, set, access, found, bind, Except.bind]
    rfl
  have changed : Changed t (t.setCell i left) ⟨cell.generation, i⟩ (some value) :=
    changed_of_set left read occupied rfl rfl (if_pos occupied) rfl (s.sound_kept left read occupied occupied cells rfl) cells
  have before := held?_of_cell read occupied
  have held : ∀ k, ((t.setCell i left).held? k).isSome = (t.held? k).isSome := by
    intro k
    rw [changed.held]
    split
    · rename_i same
      rw [same, before]
      rfl
    · rfl
  have sizes := changed.size
  rw [before] at sizes
  refine ⟨_, done, transition_idle _ rfl rfl rfl rfl changed.sound held (generationAt_of_set read cells rfl) rfl ?_ ?_ rfl⟩
  · simpa using sizes
  · rw [cells, List.length_set]

end Opened

/-- A handle opens a slot, or a call through it fails. -/
theorem access_cases (t : SlotTable) (handle : Value) :
    (∃ i cell, t.find? handle = .ok (some (i, cell))) ∨ ∃ e, t.access handle = .error e := by
  unfold access
  cases t.find? handle with
  | error e => exact .inr ⟨e, rfl⟩
  | ok opened =>
    cases opened with
    | none => exact .inr ⟨_, rfl⟩
    | some found => exact .inl ⟨found.1, found.2, rfl⟩

/-- Every call takes a sound table to another. -/
theorem transition (s : t.Sound) (c : SlotCall) : Transition t ⟨c, (t.call c).answer⟩ (t.call c).state := by
  cases c with
  | create values =>
    by_cases single : values.length ≤ 1
    · rw [call_create_single values single]
      exact transition_created s values _
    · rw [call_create_several values single]
      exact transition_failed s _ _
  | destroy handle =>
    obtain ⟨i, cell, found⟩ | ⟨e, shut⟩ := t.access_cases handle
    · obtain ⟨t', done, moved⟩ := transition_destroyed s found
      rw [done]
      exact moved
    · have failed : t.call (.destroy handle) = .failed t e := by
        simp only [call, destroy, shut, bind, Except.bind]
      rw [failed]
      exact transition_failed s _ _
  | set handle value =>
    obtain ⟨i, cell, found⟩ | ⟨e, shut⟩ := t.access_cases handle
    · obtain ⟨t', done, moved⟩ := transition_stored s found value
      rw [done]
      exact moved
    · have failed : t.call (.set handle value) = .failed t e := by
        simp only [call, set, shut, bind, Except.bind]
      rw [failed]
      exact transition_failed s _ _
  | get handle => exact transition_looked s _ (.inl ⟨handle, rfl⟩)
  | isValid handle => exact transition_looked s _ (.inr (.inl ⟨handle, rfl⟩))
  | size => exact transition_looked s _ (.inr (.inr rfl))

end SlotTable

end CommandStream
