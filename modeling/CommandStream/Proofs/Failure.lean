import CommandStream.Outcome

/-!
# Chains that may fail

A chain of steps succeeds when all of them do, and fails with the first that fails; a list of steps
does so item by item.
-/

namespace CommandStream

section Except

variable {ε α β : Type}

/-- A successful step of a computation that may fail, and what follows it. -/
theorem bind_ok {x : Except ε α} {f : α → Except ε β} {b : β} (h : (x >>= f) = .ok b) :
    ∃ a, x = .ok a ∧ f a = .ok b := by
  cases x with
  | error e => cases h
  | ok a => exact ⟨a, rfl, h⟩

/-- A chain of computations fails with its first or with the rest. -/
theorem bind_error {x : Except ε α} {f : α → Except ε β} {e : ε} (failed : (x >>= f) = .error e) :
    x = .error e ∨ ∃ a, x = .ok a ∧ f a = .error e := by
  cases x with
  | error cause =>
    cases failed
    exact .inl rfl
  | ok a => exact .inr ⟨a, rfl, failed⟩

theorem ok_of_toOption {x : Except ε α} {a : α} (present : x.toOption = some a) : x = .ok a := by
  cases x with
  | error e => cases present
  | ok b =>
    cases present
    rfl

theorem mapError_id (x : Except ε α) : x.mapError id = x := by
  cases x <;> rfl

theorem ok_of_mapError {δ : Type} {x : Except ε α} {cause : ε → δ} {a : α} (same : x.mapError cause = .ok a) : x = .ok a := by
  cases x with
  | error e => cases same
  | ok b =>
    cases same
    rfl

/-- What each step of a chain keeps holds at the end of the chain. -/
theorem foldlM_keeps {σ : Type} {f : σ → α → Except ε σ} {P : σ → Prop} {items : List α}
    (each : ∀ item ∈ items, ∀ s s', P s → f s item = .ok s' → P s') {s s' : σ} (start : P s)
    (made : items.foldlM f s = .ok s') : P s' := by
  induction items generalizing s with
  | nil =>
    cases made
    exact start
  | cons item rest ih =>
    rw [List.foldlM_cons] at made
    obtain ⟨next, one, made⟩ := bind_ok made
    have kept := each item List.mem_cons_self s next start one
    exact ih (fun other member => each other (List.mem_cons_of_mem _ member)) kept made

/-- A chain of steps that all succeed where a property holds that they keep. -/
theorem foldlM_eq_ok {σ : Type} {f : σ → α → Except ε σ} {g : σ → α → σ} {P : σ → Prop}
    (each : ∀ s item, P s → f s item = .ok (g s item) ∧ P (g s item)) {s : σ} (start : P s) (items : List α) :
    items.foldlM f s = .ok (items.foldl g s) := by
  induction items generalizing s with
  | nil => rfl
  | cons item rest ih =>
    obtain ⟨one, kept⟩ := each s item start
    rw [List.foldlM_cons, one]
    exact ih kept

/-- A chain of steps that all succeed. -/
theorem exists_mapM_ok {f : α → Except ε β} {items : List α} (each : ∀ item ∈ items, ∃ result, f item = .ok result) :
    ∃ results, items.mapM f = .ok results := by
  induction items with
  | nil => exact ⟨[], rfl⟩
  | cons item rest ih =>
    obtain ⟨first, one⟩ := each item List.mem_cons_self
    obtain ⟨others, more⟩ := ih fun item member => each item (List.mem_cons_of_mem _ member)
    refine ⟨first :: others, ?_⟩
    rw [List.mapM_cons, one, more]
    rfl

/-- What a step makes of each item stands at the item's place. -/
theorem mapM_ok {f : α → Except ε β} {items : List α} {results : List β} (made : items.mapM f = .ok results) {i : Nat}
    {result : β} (at_ : results[i]? = some result) : ∃ item, items[i]? = some item ∧ f item = .ok result := by
  induction items generalizing results i with
  | nil =>
    cases made
    simp at at_
  | cons item rest ih =>
    rw [List.mapM_cons] at made
    obtain ⟨first, one, made⟩ := bind_ok made
    obtain ⟨others, more, made⟩ := bind_ok made
    cases made
    cases i with
    | zero =>
      cases at_
      exact ⟨item, rfl, one⟩
    | succ i => exact ih more at_

/-- Every item has its result at the item's place. -/
theorem mapM_ok_item {f : α → Except ε β} {items : List α} {results : List β} (made : items.mapM f = .ok results) {i : Nat}
    {item : α} (at_ : items[i]? = some item) : ∃ result, results[i]? = some result ∧ f item = .ok result := by
  induction items generalizing results i with
  | nil => simp at at_
  | cons first rest ih =>
    rw [List.mapM_cons] at made
    obtain ⟨result, one, made⟩ := bind_ok made
    obtain ⟨others, more, made⟩ := bind_ok made
    cases made
    cases i with
    | zero =>
      cases at_
      exact ⟨result, rfl, one⟩
    | succ i => exact ih more at_

/-- What each step keeps of its item, a chain keeps of all. -/
theorem map_of_mapM_ok {γ : Type} {f : α → Except ε β} {g : β → γ} {h : α → γ}
    (keeps : ∀ item result, f item = .ok result → g result = h item) {items : List α} {results : List β}
    (made : items.mapM f = .ok results) : results.map g = items.map h := by
  induction items generalizing results with
  | nil =>
    cases made
    rfl
  | cons item rest ih =>
    rw [List.mapM_cons] at made
    obtain ⟨first, one, made⟩ := bind_ok made
    obtain ⟨others, more, made⟩ := bind_ok made
    cases made
    rw [List.map_cons, List.map_cons, keeps item first one, ih more]

theorem length_of_mapM_ok {f : α → Except ε β} {items : List α} {results : List β} (made : items.mapM f = .ok results) :
    results.length = items.length := by
  have units := map_of_mapM_ok (g := fun _ => ()) (h := fun _ => ()) (fun _ _ _ => rfl) made
  have lengths := congrArg List.length units
  rwa [List.length_map, List.length_map] at lengths

theorem mem_of_mapM_ok {f : α → Except ε β} {items : List α} {results : List β} (made : items.mapM f = .ok results)
    {result : β} (member : result ∈ results) : ∃ item ∈ items, f item = .ok result := by
  obtain ⟨i, at_⟩ := List.mem_iff_getElem?.mp member
  obtain ⟨item, found, one⟩ := mapM_ok made at_
  exact ⟨item, List.mem_of_getElem? found, one⟩

end Except

namespace Outcome

variable {σ τ ε δ α β : Type}

theorem done_or_failed (o : Outcome σ ε α) : (∃ s a, o = .done s a) ∨ ∃ s e, o = .failed s e := by
  obtain ⟨s, answer⟩ := o
  cases answer with
  | ok a => exact .inl ⟨s, a, rfl⟩
  | error e => exact .inr ⟨s, e, rfl⟩

/-- A chain fails with its first operation or with the rest. -/
theorem andThen_error {o : Outcome σ ε α} {next : σ → α → Outcome σ ε β} {e : ε}
    (failed : (o.andThen next).answer = .error e) :
    o.answer = .error e ∨ ∃ a, o.answer = .ok a ∧ (next o.state a).answer = .error e := by
  unfold andThen at failed
  split at failed
  · rename_i a answer
    exact .inr ⟨a, answer, failed⟩
  · rename_i cause answer
    cases failed
    exact .inl answer

theorem andThen_assoc (o : Outcome σ ε α) (next : σ → α → Outcome σ ε β) {γ : Type} (last : σ → β → Outcome σ ε γ) :
    (o.andThen next).andThen last = o.andThen fun s a => (next s a).andThen last := by
  obtain ⟨s, answer⟩ := o
  cases answer <;> rfl

theorem answer_andThen_of_error {o : Outcome σ ε α} {next : σ → α → Outcome σ ε β} {e : ε} (failed : o.answer = .error e) :
    (o.andThen next).answer = .error e := by
  simp only [andThen, failed, answer_failed]

/-- A chain succeeds with all its operations. -/
theorem andThen_ok {o : Outcome σ ε α} {next : σ → α → Outcome σ ε β} {b : β}
    (succeeded : (o.andThen next).answer = .ok b) :
    ∃ s a, o = .done s a ∧ o.andThen next = next s a := by
  obtain ⟨s, answer⟩ := o
  cases answer with
  | ok a => exact ⟨s, a, rfl, rfl⟩
  | error e => cases succeeded

/-- An operation whose answer is put another way. -/
theorem state_andThen_done (o : Outcome σ ε α) (f : α → β) : (o.andThen fun s a => .done s (f a)).state = o.state := by
  obtain ⟨s, answer⟩ := o
  cases answer <;> rfl

/-- A chain within a larger state. -/
theorem within_andThen (o : Outcome σ ε α) {next : σ → α → Outcome σ ε β} {place : σ → τ}
    {cause : ε → δ} {next' : τ → α → Outcome τ δ β} (same : ∀ s a, next' (place s) a = (next s a).within place cause) :
    (o.within place cause).andThen next' = (o.andThen next).within place cause := by
  obtain ⟨s, answer⟩ := o
  cases answer with
  | ok a => exact same s a
  | error e => rfl

/-- An operation on a part of a state succeeds with the operation. -/
theorem within_ok {o : Outcome σ ε α} {place : σ → τ} {cause : ε → δ} {a : α}
    (succeeded : (o.within place cause).answer = .ok a) : o.answer = .ok a := by
  cases answer : o.answer with
  | ok b =>
    simp only [Outcome.within, answer] at succeeded
    cases succeeded
    rfl
  | error e =>
    simp only [Outcome.within, answer] at succeeded
    cases succeeded

theorem within_error {o : Outcome σ ε α} {place : σ → τ} {cause : ε → δ} {e : δ}
    (failed : (o.within place cause).answer = .error e) : ∃ reason, o.answer = .error reason ∧ e = cause reason := by
  cases answer : o.answer with
  | ok a =>
    simp only [Outcome.within, answer] at failed
    cases failed
  | error reason =>
    simp only [Outcome.within, answer] at failed
    cases failed
    exact ⟨reason, rfl, rfl⟩

end Outcome

end CommandStream
