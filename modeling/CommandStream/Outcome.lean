/-!
# Outcomes

An operation on a state answers or fails, and either way leaves a state: what a failed operation
did before it failed stays done.
-/

namespace CommandStream

/-- The state that an operation leaves, and its answer or failure. -/
structure Outcome (σ ε α : Type) where
  state : σ
  answer : Except ε α

namespace Outcome

variable {σ ε α β : Type}

/-- A successful operation. -/
def done (state : σ) (a : α) : Outcome σ ε α := ⟨state, .ok a⟩

/-- A failed operation. -/
def failed (state : σ) (e : ε) : Outcome σ ε α := ⟨state, .error e⟩

/-- The operation that follows a successful one. -/
def andThen (o : Outcome σ ε α) (next : σ → α → Outcome σ ε β) : Outcome σ ε β :=
  match o.answer with
  | .ok a => next o.state a
  | .error e => failed o.state e

/-- The same operation as part of a larger state, with the larger state's failures. -/
def within {τ δ : Type} (o : Outcome σ ε α) (place : σ → τ) (cause : ε → δ) : Outcome τ δ α :=
  ⟨place o.state, o.answer.mapError cause⟩

@[simp] theorem state_done (s : σ) (a : α) : (done s a : Outcome σ ε α).state = s := rfl

@[simp] theorem answer_done (s : σ) (a : α) : (done s a : Outcome σ ε α).answer = .ok a := rfl

@[simp] theorem state_failed (s : σ) (e : ε) : (failed s e : Outcome σ ε α).state = s := rfl

@[simp] theorem answer_failed (s : σ) (e : ε) : (failed s e : Outcome σ ε α).answer = .error e :=
  rfl

@[simp] theorem done_andThen (s : σ) (a : α) (next : σ → α → Outcome σ ε β) :
    (done s a).andThen next = next s a := rfl

@[simp] theorem failed_andThen (s : σ) (e : ε) (next : σ → α → Outcome σ ε β) :
    (failed s e).andThen next = failed s e := rfl

/-- The operations of a list one after another, up to the first that fails. -/
def runAll (run : σ → β → Outcome σ ε Unit) : σ → List β → Outcome σ ε Unit
  | state, [] => done state ()
  | state, item :: rest => (run state item).andThen fun next _ => runAll run next rest

end Outcome

end CommandStream
