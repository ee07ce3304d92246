import CommandStream.Proofs.Slot.Transition
import CommandStream.Slot.Handle
import Mathlib.Order.Bounds.Basic

/-!
# Slots and generations

How a table grows is told by its history. A slot is added only where every slot is occupied, so there are as many slots as keys
were ever live at once; a freed slot is occupied again before any other, the latest freed first; and the generation of a slot
counts the keys that were handed out for it.
-/

namespace CommandStream
open Slot

/-- A later generation is above the bits of any index. -/
theorem Slot.join_ne_zero {generation : Nat} (later : 1 ≤ generation) (index : Nat) : join generation index ≠ 0 := by
  show ((generation * halfRange ||| index : Nat) : Int) ≠ 0
  intro zero
  have halves := Nat.or_eq_zero_iff.mp (Int.ofNat.inj zero)
  have above : 0 < generation * halfRange := Nat.mul_pos later (by decide)
  omega

/-! ## What a history tells -/

namespace SlotHistory

variable (past : SlotHistory)

/-- The live keys: those handed out and not destroyed since. -/
def living : List Key :=
  past.foldl SlotEvent.settle []

/-- The indices freed and not handed out since, the latest freed first. -/
def freed : List Int :=
  past.foldl SlotEvent.vacate []

/-- How many keys were destroyed. -/
def destroyed : Nat :=
  past.countP SlotEvent.destroys

/-- The keys handed out for an index, the earliest first. -/
def issuedAt (i : Int) : List Key :=
  past.issued.filter fun k => k.index == i

/-- Whether so many keys were live at some time, and never more. -/
def Peak (n : Nat) : Prop :=
  IsGreatest {n | ∃ earlier, earlier <+: past ∧ (living earlier).length = n} n

variable {past}

theorem living_snoc (e : SlotEvent) : living (past ++ [e]) = e.settle past.living := by
  simp [living]

/-- A live key has been handed out. -/
theorem issued_of_living {k : Key} (alive : k ∈ living past) : k ∈ past.issued := by
  induction past using List.reverseRecOn with
  | nil => cases alive
  | append_singleton earlier e ih =>
    rw [living_snoc, SlotEvent.settle, List.mem_filter, List.mem_append, Option.mem_toList] at alive
    rw [issued_snoc, List.mem_append, Option.mem_toList]
    exact alive.1.imp ih id

theorem freed_snoc (e : SlotEvent) : freed (past ++ [e]) = e.vacate past.freed := by
  simp [freed]

theorem destroyed_snoc (e : SlotEvent) : destroyed (past ++ [e]) = past.destroyed + if e.destroys then 1 else 0 := by
  simp [destroyed, List.countP_singleton]

theorem issuedAt_snoc (e : SlotEvent) (i : Int) :
    issuedAt (past ++ [e]) i = past.issuedAt i ++ e.issued?.toList.filter fun k => k.index == i := by
  rw [issuedAt, issued_snoc, List.filter_append]
  rfl

end SlotHistory

namespace SlotTable

variable {t t' : SlotTable}

/-! ## A whole history -/

/-- The slots that are not free are occupied. -/
theorem size_of_none_free (s : t.Sound) (none_free : t.free = []) : t.size = t.cells.length := by
  rw [size, List.countP_eq_length]
  intro cell member
  obtain ⟨i, bound, rfl⟩ := List.mem_iff_getElem.mp member
  by_contra vacant
  have listed := (s.unoccupied i).mpr ⟨t.cells[i], List.getElem?_eq_getElem bound, Bool.eq_false_iff.mpr vacant⟩
  rw [freeIndices, none_free] at listed
  cases listed

theorem size_le_slots (t : SlotTable) : t.size ≤ t.cells.length :=
  List.countP_le_length

/-- A table whose slots, generations and counts are those that its history tells. -/
structure Accounted (past : SlotHistory) (t : SlotTable) : Prop where
  sound : t.Sound
  distinct : past.living.Nodup
  living : ∀ k, k ∈ past.living ↔ (t.held? k).isSome
  size : past.living.length = t.size
  freed : past.freed = t.vacant
  counted : ∀ i, (past.issuedAt i).length = t.generationAt i
  numbered : ∀ (i : Int) (n : Nat) (k : Key), (past.issuedAt i)[n]? = some k → k.generation = n + 1
  inside : ∀ k ∈ past.issued, 0 ≤ k.index ∧ k.index < t.cells.length
  handed : ∀ e ∈ past, ∀ handle, e.handed? = some handle → ∃ k ∈ past.issued, handle.key? = some k
  peak : past.Peak t.cells.length
  changes : t.changes = t.cells.length + past.destroyed

theorem accounted_empty (name : String) : Accounted [] (empty name) where
  sound := sound_empty name
  distinct := List.nodup_nil
  living k := by simp [SlotHistory.living]
  size := rfl
  freed := rfl
  counted i := by simp [SlotHistory.issuedAt, SlotHistory.issued, generationAt, cellAt?, empty]
  numbered i n k own := by simp [SlotHistory.issuedAt, SlotHistory.issued] at own
  inside k own := by cases own
  handed e own := by cases own
  peak := by
    refine ⟨⟨[], List.prefix_rfl, rfl⟩, ?_⟩
    rintro n ⟨earlier, begins, rfl⟩
    rw [List.prefix_nil.mp begins]
    exact Nat.le_refl 0
  changes := rfl

section Step
variable {past : SlotHistory} {e : SlotEvent} (a : Accounted past t) (m : Transition t e t')
include a m

theorem Accounted.fresh {k : Key} (own : e.issued? = some k) : k ∉ past.living := by
  rw [m.issued k own, a.living, held?_nextKey]
  exact Bool.false_ne_true

theorem Accounted.distinct_append : (past.living ++ e.issued?.toList).Nodup := by
  cases own : e.issued? with
  | none => simpa using a.distinct
  | some k =>
    rw [Option.toList_some, List.nodup_append]
    refine ⟨a.distinct, List.nodup_cons.mpr ⟨List.not_mem_nil, List.nodup_nil⟩, ?_⟩
    rintro j listed _ new rfl
    exact a.fresh m own (List.mem_singleton.mp new ▸ listed)

theorem Accounted.living_step (k : Key) : k ∈ (past ++ [e]).living ↔ (t'.held? k).isSome := by
  rw [SlotHistory.living_snoc, SlotEvent.settle, List.mem_filter, List.mem_append, Option.mem_toList, a.living, m.held,
    bne_iff_ne, or_comm]

/-- A destroyed key was live, and only once. -/
theorem Accounted.length_living_step : (past ++ [e]).living.length = t'.size := by
  have sizes := m.size
  have own := a.size
  rw [SlotHistory.living_snoc]
  cases freed : e.freed? with
  | none =>
    rw [freed, Option.toList_none, List.length_nil] at sizes
    rw [SlotEvent.settle_of_none freed, List.length_append]
    omega
  | some k =>
    have listed : k ∈ past.living ++ e.issued?.toList := List.mem_append_left _ ((a.living k).mpr (m.freed k freed))
    have positive := List.length_pos_of_mem listed
    rw [freed, Option.toList_some, List.length_singleton] at sizes
    rw [SlotEvent.settle_of_some freed (a.distinct_append m), List.length_erase_of_mem listed]
    rw [List.length_append] at positive ⊢
    omega

theorem Accounted.counted_step (i : Int) : ((past ++ [e]).issuedAt i).length = t'.generationAt i := by
  rw [SlotHistory.issuedAt_snoc, List.length_append, a.counted, m.generation]
  cases e.issued? with
  | none => rfl
  | some k =>
    by_cases same : k.index = i
    · simp [same]
    · simp [same]

theorem Accounted.numbered_step (i : Int) (n : Nat) (k : Key) (own : ((past ++ [e]).issuedAt i)[n]? = some k) :
    k.generation = n + 1 := by
  rw [SlotHistory.issuedAt_snoc, List.getElem?_append] at own
  split at own
  · exact a.numbered i n k own
  · rename_i beyond
    have member := List.mem_of_getElem? own
    rw [List.mem_filter, Option.mem_toList, beq_iff_eq] at member
    obtain ⟨issued, index⟩ := member
    have next := m.issued k issued
    have last : n - (past.issuedAt i).length = 0 := by
      have short := (List.getElem?_eq_some_iff.mp own).1
      have one : (e.issued?.toList.filter fun k => k.index == i).length ≤ 1 := by
        refine Nat.le_trans (List.length_filter_le _ _) ?_
        cases e.issued? <;> simp
      omega
    have counted := a.counted i
    rw [← index, next] at counted beyond last
    rw [next]
    simp only [nextKey] at counted beyond last ⊢
    omega

theorem Accounted.inside_step (k : Key) (own : k ∈ (past ++ [e]).issued) : 0 ≤ k.index ∧ k.index < t'.cells.length := by
  rw [SlotHistory.issued_snoc, List.mem_append, Option.mem_toList] at own
  obtain old | new := own
  · obtain ⟨low, high⟩ := a.inside k old
    have grown : t.cells.length ≤ t'.cells.length := by
      rcases m.slots with same | more
      · omega
      · omega
    exact ⟨low, by omega⟩
  · refine ⟨?_, m.inside k new⟩
    rw [m.issued k new]
    exact Int.natCast_nonneg _

theorem Accounted.handed_step (e' : SlotEvent) (among : e' ∈ past ++ [e]) (handle : Value) (own : e'.handed? = some handle) :
    ∃ k ∈ (past ++ [e]).issued, handle.key? = some k := by
  rw [SlotHistory.issued_snoc]
  rcases List.mem_append.mp among with old | new
  · obtain ⟨k, listed, key⟩ := a.handed e' old handle own
    exact ⟨k, List.mem_append_left _ listed, key⟩
  · rw [List.mem_singleton.mp new] at own
    obtain ⟨key, whole⟩ := m.handed handle own
    obtain ⟨k, issued⟩ := Option.isSome_iff_exists.mp whole
    exact ⟨k, List.mem_append_right _ (Option.mem_toList.mpr issued), key.trans issued⟩

/-- The slots are as many as were ever occupied at once: one is added only when all are occupied. -/
theorem Accounted.peak_step : (past ++ [e]).Peak t'.cells.length := by
  have now := a.length_living_step m
  have bound := t'.size_le_slots
  obtain ⟨⟨top, begins, most⟩, least⟩ := a.peak
  constructor
  -- Behind a new slot none is free, so the slots are the keys that are live now.
  · rcases m.slots with same | ⟨-, none_free⟩
    · exact ⟨top, begins.trans (List.prefix_append _ _), most.trans same.symm⟩
    · exact ⟨past ++ [e], List.prefix_rfl, now.trans (size_of_none_free m.sound none_free)⟩
  · rintro n ⟨earlier, begins, rfl⟩
    rcases List.prefix_concat_iff.mp begins with rfl | before
    · rw [now]
      exact bound
    · have := least ⟨earlier, before, rfl⟩
      rcases m.slots with same | more
      · omega
      · omega

/-- One call keeps the account. -/
theorem Accounted.step : Accounted (past ++ [e]) t' where
  sound := m.sound
  distinct := by
    rw [SlotHistory.living_snoc, SlotEvent.settle]
    exact (a.distinct_append m).filter _
  living := a.living_step m
  size := a.length_living_step m
  freed := by rw [SlotHistory.freed_snoc, a.freed, m.vacant]
  counted := a.counted_step m
  numbered := a.numbered_step m
  inside := a.inside_step m
  handed := a.handed_step m
  peak := a.peak_step m
  changes := by
    have own := a.changes
    have more := m.changes
    rw [SlotHistory.destroyed_snoc]
    omega

end Step

/-- Every history accounts for its table. -/
theorem accounted (name : String) (calls : List SlotCall) :
    Accounted ((empty name).history calls) ((empty name).after calls) := by
  induction calls using List.reverseRecOn with
  | nil => exact accounted_empty name
  | append_singleton earlier c ih =>
    rw [history_snoc, after_snoc]
    exact ih.step (transition ih.sound c)

theorem Accounted.generation_pos {past : SlotHistory} (a : Accounted past t) {k : Key} (own : k ∈ past.issued) :
    ∃ n : Nat, k.generation = (n + 1 : Nat) := by
  have listed : k ∈ past.issuedAt k.index := List.mem_filter.mpr ⟨own, beq_self_eq_true _⟩
  obtain ⟨n, stands⟩ := List.mem_iff_getElem?.mp listed
  exact ⟨n, a.numbered k.index n k stands⟩

/-- How a table has allocated its slots, as its history tells: which keys are live, how many slots there are and how often
they changed, which slot is taken next, how the keys of a slot are numbered, and that no handle of generation zero is given
out or valid. -/
structure Allocated (past : SlotHistory) (t : SlotTable) : Prop where
  distinct : past.living.Nodup
  valid : ∀ handle k, handle.key? = some k → t.call (.isValid handle) = .done t (.truth (decide (k ∈ past.living)))
  slots : past.Peak t.cells.length
  indices : ∀ k ∈ past.issued, 0 ≤ k.index ∧ k.index < t.cells.length
  changes : t.changes = t.cells.length + past.destroyed
  next : ∀ values, values.length ≤ 1 → ∃ handle k, (t.call (.create values)).answer = .ok handle ∧
    handle.key? = some k ∧ k.index = past.freed.headD t.cells.length
  generations : ∀ (i : Int) (n : Nat) (k : Key), (past.issuedAt i)[n]? = some k → k.generation = n + 1
  packed : ∀ e ∈ past, ∀ handle, e.handed? = some handle → ∃ n, Slot.pack handle = .ok (.int n) ∧ n ≠ 0
  zero : ∀ generation index, generation.whole? = some 0 →
    t.call (.isValid (.handle generation index)) = .done t (.truth false) ∨
      index.int? = none ∧ t.call (.isValid (.handle generation index)) = .failed t .notAnIndex

section Account
variable {past : SlotHistory} (a : Accounted past t)
include a

theorem Accounted.next (values : List Value) (single : values.length ≤ 1) :
    ∃ handle k, (t.call (.create values)).answer = .ok handle ∧ handle.key? = some k ∧
      k.index = past.freed.headD t.cells.length := by
  rw [call_create_single values single]
  refine ⟨_, t.nextKey, rfl, (create_changed a.sound _).1, ?_⟩
  rw [a.freed]
  show (t.freshIndex : Int) = _
  cases free : t.free <;> simp [freshIndex, vacant, freeIndices, free]

theorem Accounted.packed (e : SlotEvent) (among : e ∈ past) (handle : Value) (own : e.handed? = some handle) :
    ∃ n, Slot.pack handle = .ok (.int n) ∧ n ≠ 0 := by
  obtain ⟨k, issued, key⟩ := a.handed e among handle own
  obtain ⟨generation, index, rfl, first, second⟩ := Value.fields_of_key? key
  obtain ⟨n, later⟩ := a.generation_pos issued
  obtain ⟨i, place⟩ := Int.eq_ofNat_of_zero_le (a.inside k issued).1
  refine ⟨Slot.join k.generation k.index, ?_, ?_⟩
  · simp only [Slot.pack, first, second]
  · rw [later, place]
    exact Slot.join_ne_zero (Nat.succ_le_succ (Nat.zero_le n)) i

theorem Accounted.zero (generation index : Value) (none_yet : generation.whole? = some 0) :
    t.call (.isValid (.handle generation index)) = .done t (.truth false) ∨
      index.int? = none ∧ t.call (.isValid (.handle generation index)) = .failed t .notAnIndex := by
  cases found : t.find? (.handle generation index) with
  | error e =>
    refine .inr ?_
    have shut := found
    simp only [find?] at shut
    split at shut
    · rename_i stands
      cases shut
      refine ⟨Slot.int?_of_unusable stands, ?_⟩
      simp only [call, isValid, found]
      rfl
    · cases shut
    · split at shut
      · split at shut <;> cases shut
      · cases shut
  | ok opened =>
    refine .inl ?_
    cases opened with
    | none =>
      simp only [call, isValid, found]
      rfl
    | some place =>
      obtain ⟨i, cell⟩ := place
      obtain ⟨_, _, same, whole, names, read, occupied⟩ := names_of_find? found
      cases same
      have alive := (a.living _).mpr (Option.isSome_iff_exists.mpr ⟨_, held?_of_cell read occupied⟩)
      obtain ⟨n, later⟩ := a.generation_pos (SlotHistory.issued_of_living alive)
      simp only [Value.names?, none_yet, whole, Option.some.injEq, Key.mk.injEq] at names
      simp only at later
      omega

end Account

/-- **Slots are allocated as the history of a table tells.** After any calls on an empty table, failed ones among them, there
are as many slots as keys were ever live at once, and every index lies below that; each slot and each destruction changed the
table once; the next value takes the slot that was freed last, or a new one if none is free; the keys of a slot have the
generations one, two, three and so on; so no handle is packed as zero, and none of generation zero is valid. -/
theorem allocated_by_history (name : String) (calls : List SlotCall) :
    Allocated ((empty name).history calls) ((empty name).after calls) := by
  have a := accounted name calls
  exact {
    distinct := a.distinct
    valid := fun handle k key => by
      rw [call_isValid key, ← Bool.decide_coe (Option.isSome _)]
      simp only [a.living]
    slots := a.peak
    indices := a.inside
    changes := a.changes
    next := a.next
    generations := a.numbered
    packed := a.packed
    zero := a.zero }

/-- Two keys that are live at once, both destroyed, the second once more, and one handed out again. -/
def overlap : List SlotCall :=
  [.create [.int 7], .create [.int 8], .destroy (.handle (.int 1) (.int 0)), .destroy (.handle (.int 1) (.int 1)),
    .destroy (.handle (.int 1) (.int 1)), .create [.int 9]]

theorem overlap_allocated : ((empty "t").history overlap).Peak 2 ∧ ((empty "t").after overlap).changes = 2 + 2 ∧
    (∃ handle k, (((empty "t").after overlap).call (.create [])).answer = .ok handle ∧ handle.key? = some k ∧ k.index = 0) ∧
    ((empty "t").after overlap).call (.isValid (.handle (.int 2) (.int 1))) =
      .done ((empty "t").after overlap) (.truth true) := by
  have allocated := allocated_by_history "t" overlap
  exact ⟨allocated.slots, allocated.changes, allocated.next [] (Nat.zero_le 1), allocated.valid _ ⟨2, 1⟩ rfl⟩

end SlotTable

end CommandStream
