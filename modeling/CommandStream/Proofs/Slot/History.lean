import CommandStream.Proofs.Slot.Occupancy
import Mathlib.Data.List.Induction

/-!
# Slot tables and their history

What a call answers is told by the calls before it alone: a key is live from the call that handed
it out until the call that destroys it, and what it holds is what was last put under it. No key is
handed out twice, whatever handles callers make up.
-/

namespace CommandStream
open Slot

/-- A call on a slot table and what came of it. -/
structure SlotEvent where
  call : SlotCall
  answer : Except AccessError Value

namespace SlotEvent

/-- The key that an event hands out. -/
def issued? (e : SlotEvent) : Option Key :=
  match e.call, e.answer with
  | .create _, .ok handle => handle.key?
  | _, _ => none

/-- Whether a key is live after an event. -/
def keepsLive (k : Key) (live : Bool) (e : SlotEvent) : Bool :=
  match e.call, e.answer with
  | .create _, .ok handle => live || handle.key? == some k
  | .destroy handle, .ok _ => live && handle.key? != some k
  | _, _ => live

/-- The value last put under a key, after an event. -/
def lastPut (k : Key) (last : Value) (e : SlotEvent) : Value :=
  match e.call, e.answer with
  | .create values, .ok handle => if handle.key? = some k then values.headD .absent else last
  | .set handle value, .ok _ => if handle.key? = some k then value else last
  | _, _ => last

end SlotEvent

/-- The events of a table, earliest first. -/
abbrev SlotHistory := List SlotEvent

namespace SlotHistory

variable (past : SlotHistory)

/-- The keys handed out. -/
def issued : List Key :=
  past.filterMap SlotEvent.issued?

/-- Whether a key has been handed out and not been destroyed since. -/
def live (k : Key) : Bool :=
  past.foldl (SlotEvent.keepsLive k) false

/-- The value last put under a key. -/
def lastValue (k : Key) : Value :=
  past.foldl (SlotEvent.lastPut k) .absent

/-- How many keys are live. -/
def liveCount : Nat :=
  (past.issued.filter past.live).length

variable {past}

theorem issued_snoc (e : SlotEvent) : issued (past ++ [e]) = past.issued ++ e.issued?.toList := by
  cases h : e.issued? <;> simp [issued, h]

theorem live_snoc (e : SlotEvent) (k : Key) : live (past ++ [e]) k = e.keepsLive k (past.live k) := by
  simp [live]

theorem lastValue_snoc (e : SlotEvent) (k : Key) :
    lastValue (past ++ [e]) k = e.lastPut k (past.lastValue k) := by
  simp [lastValue]

end SlotHistory

/-- A call through no handle, or through one with integer fields. -/
def SlotCall.Integral (c : SlotCall) : Prop :=
  ∀ handle ∈ c.handle?, handle.key?.isSome

namespace SlotTable

/-- The table after some calls. -/
def after (t : SlotTable) (calls : List SlotCall) : SlotTable :=
  calls.foldl (fun t c => (t.call c).state) t

/-- The events of some calls. -/
def history (t : SlotTable) : List SlotCall → SlotHistory
  | [] => []
  | c :: rest => ⟨c, (t.call c).answer⟩ :: history (t.call c).state rest

theorem after_snoc (t : SlotTable) (calls : List SlotCall) (c : SlotCall) :
    t.after (calls ++ [c]) = ((t.after calls).call c).state := by
  simp [after]

theorem history_snoc (t : SlotTable) (calls : List SlotCall) (c : SlotCall) :
    t.history (calls ++ [c]) = t.history calls ++ [⟨c, ((t.after calls).call c).answer⟩] := by
  induction calls generalizing t with
  | nil => rfl
  | cons first rest ih => simp [history, after, ih, List.foldl_cons]

/-- What a history tells of the next call: the answer, and that a failed call changes nothing. -/
def Conforms (past : SlotHistory) (t : SlotTable) : SlotCall → Prop
  | .create values =>
      if values.length ≤ 1 then
        ∃ handle k, (t.call (.create values)).answer = .ok handle ∧ handle.key? = some k ∧ k ∉ past.issued
      else t.call (.create values) = .failed t .tooManyValues
  | .destroy handle => ∀ k ∈ handle.key?,
      if past.live k then (t.call (.destroy handle)).answer = .ok .absent
      else t.call (.destroy handle) = .failed t (.invalid t.name handle)
  | .get handle => ∀ k ∈ handle.key?, t.call (.get handle) =
      if past.live k then .done t (past.lastValue k) else .failed t (.invalid t.name handle)
  | .set handle v => ∀ k ∈ handle.key?,
      if past.live k then (t.call (.set handle v)).answer = .ok .absent
      else t.call (.set handle v) = .failed t (.invalid t.name handle)
  | .isValid handle => ∀ k ∈ handle.key?, t.call (.isValid handle) = .done t (.truth (past.live k))
  | .size => t.call .size = .done t (.int past.liveCount)

/-- A table that is as its history tells. -/
structure Follows (past : SlotHistory) (t : SlotTable) : Prop where
  sound : t.Sound
  held : ∀ k, t.held? k = if past.live k then some (past.lastValue k) else none
  bounded : ∀ k ∈ past.issued, k.generation ≤ t.generationAt k.index
  nodup : past.issued.Nodup
  issued : ∀ k, past.live k = true → k ∈ past.issued
  size : t.size = past.liveCount

theorem follows_empty (name : String) : Follows [] (empty name) where
  sound := sound_empty name
  held := by intro k; simp [SlotHistory.live]
  bounded := by intro k hk; cases hk
  nodup := List.nodup_nil
  issued := by intro k hk; cases hk
  size := rfl

variable {past : SlotHistory} {t t' : SlotTable}

theorem Follows.held_of_live (f : Follows past t) {k : Key} (alive : past.live k = true) :
    t.held? k = some (past.lastValue k) := by
  rw [f.held, if_pos alive]

theorem Follows.held_of_dead (f : Follows past t) {k : Key} (dead : ¬ past.live k = true) : t.held? k = none := by
  rw [f.held, if_neg dead]

/-- The next key has not been handed out before. -/
theorem Follows.nextKey_not_mem (f : Follows past t) : t.nextKey ∉ past.issued := by
  intro old
  have := f.bounded _ old
  simp only [nextKey] at this
  omega

/-- Keys that were handed out stay within the generations of their slots. -/
theorem Follows.bounded_of_changed (f : Follows past t) {k : Key} {v : Option Value} (changed : Changed t t' k v) {j : Key}
    (old : j ∈ past.issued) : j.generation ≤ t'.generationAt j.index := by
  have before := f.bounded j old
  have grown := changed.grown j.index
  omega

/-- An event that changes neither table nor keys. -/
theorem Follows.idle (f : Follows past t) {e : SlotEvent} (issues : e.issued? = none)
    (live : ∀ k b, e.keepsLive k b = b) (last : ∀ k v, e.lastPut k v = v) : Follows (past ++ [e]) t := by
  have same : SlotHistory.issued (past ++ [e]) = past.issued := by simp [SlotHistory.issued_snoc, issues]
  refine ⟨f.sound, ?_, same ▸ f.bounded, same ▸ f.nodup, ?_, ?_⟩
  · intro k
    rw [SlotHistory.live_snoc, SlotHistory.lastValue_snoc, live, last]
    exact f.held k
  · intro k
    rw [SlotHistory.live_snoc, live, same]
    exact f.issued k
  · have stays : ∀ k, SlotHistory.live (past ++ [e]) k = past.live k := fun k => by
      rw [SlotHistory.live_snoc, live]
    rw [f.size, SlotHistory.liveCount, SlotHistory.liveCount, same, funext stays]

/-- A failed event changes nothing. -/
theorem Follows.failed (f : Follows past t) (call : SlotCall) (e : AccessError) :
    Follows (past ++ [⟨call, .error e⟩]) t := by
  apply f.idle
  · cases call <;> rfl
  · intro k b
    cases call <;> rfl
  · intro k v
    cases call <;> rfl

/-- The next key becomes live. -/
theorem Follows.created (f : Follows past t) {values : List Value} {handle : Value} {t' : SlotTable}
    (key : handle.key? = some t.nextKey) (changed : Changed t t' t.nextKey (some (values.headD .absent))) :
    Follows (past ++ [⟨.create values, .ok handle⟩]) t' := by
  have fresh := f.nextKey_not_mem
  have dead : past.live t.nextKey = false := Bool.eq_false_iff.mpr fun l => fresh (f.issued _ l)
  have issues : SlotHistory.issued (past ++ [⟨.create values, .ok handle⟩]) = past.issued ++ [t.nextKey] := by
    simp [SlotHistory.issued_snoc, SlotEvent.issued?, key]
  have live : ∀ k, SlotHistory.live (past ++ [⟨.create values, .ok handle⟩]) k =
      (past.live k || t.nextKey == k) := by
    intro k
    simp [SlotHistory.live_snoc, SlotEvent.keepsLive, key]
  refine ⟨changed.sound, ?_, ?_, ?_, ?_, ?_⟩
  · intro k
    rw [changed.held, live, SlotHistory.lastValue_snoc]
    simp only [SlotEvent.lastPut, key]
    by_cases new : k = t.nextKey
    · simp [new]
    · have other : ¬ t.nextKey = k := fun e => new e.symm
      simp [new, other, f.held]
  · intro k hk
    rw [issues, List.mem_append, List.mem_singleton] at hk
    rcases hk with old | rfl
    · exact f.bounded_of_changed changed old
    · have now : t'.held? t.nextKey = some (values.headD .absent) := by rw [changed.held, if_pos rfl]
      exact Int.le_of_eq (generationAt_of_held? now)
  · rw [issues, List.nodup_append]
    refine ⟨f.nodup, List.nodup_cons.mpr ⟨List.not_mem_nil, List.nodup_nil⟩, ?_⟩
    intro k old j new
    rw [List.mem_singleton.mp new]
    exact fun e => fresh (e ▸ old)
  · intro k hk
    rw [live, Bool.or_eq_true, beq_iff_eq] at hk
    rw [issues, List.mem_append, List.mem_singleton]
    exact hk.imp (f.issued k) Eq.symm
  · have sizes := changed.size
    have rest : past.issued.filter (fun k => past.live k || t.nextKey == k) = past.issued.filter past.live := by
      apply List.filter_congr
      intro k old
      have other : ¬ t.nextKey = k := fun e => fresh (e ▸ old)
      simp [other]
    rw [held?_nextKey] at sizes
    rw [SlotHistory.liveCount, issues, funext live, List.filter_append, rest, List.length_append]
    simpa [f.size, SlotHistory.liveCount, dead] using sizes

/-- A live key that is destroyed is live no more. -/
theorem Follows.destroyed (f : Follows past t) {handle : Value} {k : Key} (key : handle.key? = some k)
    (alive : past.live k = true) {t' : SlotTable} (changed : Changed t t' k none) (answer : Value) :
    Follows (past ++ [⟨.destroy handle, .ok answer⟩]) t' := by
  have issues : SlotHistory.issued (past ++ [⟨.destroy handle, .ok answer⟩]) = past.issued := by
    simp [SlotHistory.issued_snoc, SlotEvent.issued?]
  have live : ∀ j, SlotHistory.live (past ++ [⟨.destroy handle, .ok answer⟩]) j = (past.live j && k != j) := by
    intro j
    rw [SlotHistory.live_snoc]
    simp only [SlotEvent.keepsLive, key]
    rfl
  refine ⟨changed.sound, ?_, ?_, issues ▸ f.nodup, ?_, ?_⟩
  · intro j
    rw [changed.held, live, SlotHistory.lastValue_snoc]
    by_cases same : j = k
    · simp [same]
    · have other : ¬ k = j := fun e => same e.symm
      simp [same, other, f.held, SlotEvent.lastPut]
  · intro j hj
    exact f.bounded_of_changed changed (issues ▸ hj)
  · intro j hj
    rw [live, Bool.and_eq_true] at hj
    exact issues ▸ f.issued j hj.1
  · have sizes := changed.size
    have member : k ∈ past.issued.filter past.live := List.mem_filter.mpr ⟨f.issued k alive, alive⟩
    have positive := List.length_pos_of_mem member
    have rest : past.issued.filter (fun j => past.live j && k != j) = (past.issued.filter past.live).erase k := by
      rw [List.Nodup.erase_eq_filter (List.Pairwise.filter _ f.nodup), List.filter_filter]
      apply List.filter_congr
      intro j _
      rw [Bool.and_comm, bne_comm]
    have held := f.held_of_live alive
    rw [held, f.size] at sizes
    rw [SlotHistory.liveCount, issues, funext live, rest, List.length_erase_of_mem member]
    simp only [SlotHistory.liveCount, Option.isSome_some, Option.isSome_none, if_true, Bool.false_eq_true,
      if_false] at sizes
    omega

/-- A live key under which a value is put stays live. -/
theorem Follows.stored (f : Follows past t) {handle : Value} {k : Key} (key : handle.key? = some k)
    (alive : past.live k = true) {value : Value} {t' : SlotTable} (changed : Changed t t' k (some value))
    (answer : Value) : Follows (past ++ [⟨.set handle value, .ok answer⟩]) t' := by
  have issues : SlotHistory.issued (past ++ [⟨.set handle value, .ok answer⟩]) = past.issued := by
    simp [SlotHistory.issued_snoc, SlotEvent.issued?]
  have live : ∀ j, SlotHistory.live (past ++ [⟨.set handle value, .ok answer⟩]) j = past.live j := by
    intro j
    simp [SlotHistory.live_snoc, SlotEvent.keepsLive]
  refine ⟨changed.sound, ?_, ?_, issues ▸ f.nodup, ?_, ?_⟩
  · intro j
    rw [changed.held, live, SlotHistory.lastValue_snoc]
    simp only [SlotEvent.lastPut, key]
    by_cases same : j = k
    · simp [same, alive]
    · have other : ¬ k = j := fun e => same e.symm
      simp [same, other, f.held]
  · intro j hj
    exact f.bounded_of_changed changed (issues ▸ hj)
  · intro j hj
    rw [live] at hj
    exact issues ▸ f.issued j hj
  · have sizes := changed.size
    have held := f.held_of_live alive
    rw [held, f.size] at sizes
    rw [SlotHistory.liveCount, issues, funext live]
    simpa [SlotHistory.liveCount] using sizes

/-! ## Runs -/

theorem call_create_single (values : List Value) (single : values.length ≤ 1) :
    t.call (.create values) =
      .done (t.create (values.headD .absent)).2 (t.create (values.headD .absent)).1 := by
  match values, single with
  | [], _ => rfl
  | [_], _ => rfl

theorem call_create_several (values : List Value) (several : ¬ values.length ≤ 1) :
    t.call (.create values) = .failed t .tooManyValues := by
  match values, several with
  | [], several => exact absurd (Nat.zero_le 1) several
  | [_], several => exact absurd (Nat.le_refl 1) several
  | _ :: _ :: _, _ => rfl

/-- The key of the handle of a call. -/
theorem key_of_integral {c : SlotCall} {handle : Value} (integral : c.Integral) (through : c.handle? = some handle) :
    ∃ k, handle.key? = some k :=
  Option.isSome_iff_exists.mp (integral handle through)

theorem Follows.live_of_held? (f : Follows past t) {k : Key} {v : Value} (held : t.held? k = some v) :
    past.live k = true := by
  rw [f.held] at held
  cases alive : past.live k with
  | true => rfl
  | false => simp [alive] at held

/-- Every call through integral handles follows its history. -/
theorem Follows.step (f : Follows past t) (c : SlotCall) (integral : c.Integral) :
    Follows (past ++ [⟨c, (t.call c).answer⟩]) (t.call c).state := by
  cases c with
  | create values =>
    by_cases single : values.length ≤ 1
    · obtain ⟨key, changed⟩ := create_changed f.sound (values.headD .absent)
      rw [call_create_single values single]
      exact f.created key changed
    · rw [call_create_several values single]
      exact f.failed _ _
  | destroy handle =>
    obtain ⟨k, key⟩ := key_of_integral integral rfl
    cases held : t.held? k with
    | none =>
      rw [destroy_closed key held]
      exact f.failed _ _
    | some v =>
      obtain ⟨t', done, changed⟩ := destroy_changed f.sound key held
      rw [done]
      exact f.destroyed key (f.live_of_held? held) changed _
  | set handle value =>
    obtain ⟨k, key⟩ := key_of_integral integral rfl
    cases held : t.held? k with
    | none =>
      rw [set_closed key held]
      exact f.failed _ _
    | some v =>
      obtain ⟨t', done, changed⟩ := set_changed f.sound key held value
      rw [done]
      exact f.stored key (f.live_of_held? held) changed _
  | get handle =>
    obtain ⟨k, key⟩ := key_of_integral integral rfl
    rw [call_get key]
    cases t.held? k with
    | none => exact f.failed _ _
    | some v => exact f.idle rfl (fun _ _ => rfl) (fun _ _ => rfl)
  | isValid handle =>
    obtain ⟨k, key⟩ := key_of_integral integral rfl
    rw [call_isValid key]
    exact f.idle rfl (fun _ _ => rfl) (fun _ _ => rfl)
  | size => exact f.idle rfl (fun _ _ => rfl) (fun _ _ => rfl)

/-- What a table answers that follows its history. -/
theorem Follows.conforms (f : Follows past t) (c : SlotCall) : Conforms past t c := by
  cases c with
  | create values =>
    simp only [Conforms]
    split
    · rename_i single
      rw [call_create_single values single]
      exact ⟨_, t.nextKey, rfl, (create_changed f.sound _).1, f.nextKey_not_mem⟩
    · rename_i several
      exact call_create_several values several
  | destroy handle =>
    intro k key
    split
    · rename_i alive
      obtain ⟨t', done, -⟩ := destroy_changed f.sound key (f.held_of_live alive)
      rw [done]
      rfl
    · rename_i dead
      exact destroy_closed key (f.held_of_dead dead)
  | set handle value =>
    intro k key
    split
    · rename_i alive
      obtain ⟨t', done, -⟩ := set_changed f.sound key (f.held_of_live alive) value
      rw [done]
      rfl
    · rename_i dead
      exact set_closed key (f.held_of_dead dead) value
  | get handle =>
    intro k key
    rw [call_get key, f.held]
    cases past.live k <;> rfl
  | isValid handle =>
    intro k key
    rw [call_isValid key, f.held]
    cases past.live k <;> rfl
  | size =>
    show Outcome.done t (Value.int t.size) = _
    rw [f.size]

theorem follows_history (name : String) (calls : List SlotCall) (integral : ∀ c ∈ calls, c.Integral) :
    Follows ((empty name).history calls) ((empty name).after calls) := by
  induction calls using List.reverseRecOn with
  | nil => exact follows_empty name
  | append_singleton earlier c ih =>
    rw [history_snoc, after_snoc]
    exact (ih fun c hc => integral c (List.mem_append_left _ hc)).step c
      (integral c (List.mem_append_right _ List.mem_cons_self))

/-- **A table is a finite map whose keys are never used again.** Whatever calls were made on an empty
table through handles with integer fields, the next one answers what the history of the others tells;
the keys handed out are all different, and the live ones are among them. -/
theorem conforms_to_history (name : String) (calls : List SlotCall) (integral : ∀ c ∈ calls, c.Integral)
    (c : SlotCall) :
    Conforms ((empty name).history calls) ((empty name).after calls) c ∧
      ((empty name).history calls).issued.Nodup ∧
      ∀ k, ((empty name).history calls).live k = true → k ∈ ((empty name).history calls).issued := by
  have follows := follows_history name calls integral
  exact ⟨follows.conforms c, follows.nodup, follows.issued⟩

/-- Calls that use one slot twice. -/
def reuse : List SlotCall :=
  [.create [.int 7], .destroy (.handle (.int 1) (.int 0)), .create [.int 8]]

theorem reuse_conforms_to_history :
    (∀ c ∈ reuse, c.Integral) ∧
      ((empty "t").after reuse).call (.get (.handle (.int 2) (.int 0))) = .done ((empty "t").after reuse) (.int 8) ∧
      ((empty "t").after reuse).call (.get (.handle (.int 1) (.int 0))) =
        .failed ((empty "t").after reuse) (.invalid "t" (.handle (.int 1) (.int 0))) := by
  have integral : ∀ c ∈ reuse, c.Integral := by
    simp [reuse, SlotCall.Integral, SlotCall.handle?, Value.key?, Value.int?]
  exact ⟨integral, (conforms_to_history "t" reuse integral (.get (.handle (.int 2) (.int 0)))).1 ⟨2, 0⟩ rfl,
    (conforms_to_history "t" reuse integral (.get (.handle (.int 1) (.int 0)))).1 ⟨1, 0⟩ rfl⟩

end SlotTable

end CommandStream
