import CommandStream.Proofs.Registry.Indexed
import Mathlib.Data.List.InsertIdx
import Mathlib.Data.List.Perm.Basic

/-!
# When the index of short names is exact

Insertion looks a short name up in the index before it takes it, renaming looks up the name alone. So two functions
come to share a short name by a renaming, and the index has one entry for both: when one of them is renamed again,
the entry goes, and the other function is no longer in the index. The index never holds a short name that no function
has; it lacks none as long as no renaming takes the entry of a shared short name away.
-/

namespace CommandStream

/-! ## Runs of calls -/

/-- A call that adds to a registry or renames one of its functions. -/
inductive RegistryCall where
  | addType (type : FunctionType)
  | addFunction (name typedefName : String)
  | rename (place : Nat) (new : String)

/-- A call that gives no function the empty name. -/
def RegistryCall.Named : RegistryCall → Prop
  | addType _ => True
  | addFunction name _ => name ≠ ""
  | rename _ new => new ≠ ""

instance : DecidablePred RegistryCall.Named
  | .addType _ => inferInstanceAs (Decidable True)
  | .addFunction name _ => inferInstanceAs (Decidable (name ≠ ""))
  | .rename _ new => inferInstanceAs (Decidable (new ≠ ""))

namespace Registry

/-- A call made. -/
def call (r : Registry) : RegistryCall → Outcome Registry RegistryError Unit
  | .addType type =>
    match r.addType type with
    | .ok grown => .done grown ()
    | .error e => .failed r e
  | .addFunction name typedefName =>
    match r.addFunction name typedefName with
    | .ok (_, grown) => .done grown ()
    | .error e => .failed r e
  | .rename place new => r.rename place new

/-- The registry behind calls, whether or not they fail. -/
def after (r : Registry) : List RegistryCall → Registry
  | [] => r
  | c :: rest => (r.call c).state.after rest

/-- The short names of the functions, in their order. -/
def shorts (r : Registry) : List String :=
  (Keyed.values r.functions).map Function.shortName

/-- The short names of all functions but the one at a place. -/
def shortsBut (r : Registry) (place : Nat) : List String :=
  (Keyed.values (r.functions.eraseIdx place)).map Function.shortName

/-- A registry whose index holds the short names of its functions and no others. -/
def Exact (r : Registry) : Prop :=
  ∀ short, short ∈ Keyed.keys r.shortNames ↔ short ∈ r.shorts

/-- A renaming that gives a function another short name while a second function has its old one. -/
def Loses (r : Registry) : RegistryCall → Prop
  | .rename place new => ∃ f ∈ r.functionAt? place, new ≠ f.name ∧ new ∉ Keyed.keys r.functions ∧
      shortName? new r.start ≠ some f.shortName ∧ f.shortName ∈ r.shortsBut place
  | _ => False

/-- Calls that give no function the empty name, and of which none takes a shared short name out of the index. -/
def Careful (r : Registry) : List RegistryCall → Prop
  | [] => True
  | c :: rest => c.Named ∧ ¬ r.Loses c ∧ (r.call c).state.Careful rest

instance (r : Registry) : DecidablePred r.Loses
  | .addType _ => inferInstanceAs (Decidable False)
  | .addFunction .. => inferInstanceAs (Decidable False)
  | .rename place new => inferInstanceAs (Decidable (∃ f ∈ r.functionAt? place, new ≠ f.name ∧
      new ∉ Keyed.keys r.functions ∧ shortName? new r.start ≠ some f.shortName ∧ f.shortName ∈ r.shortsBut place))

instance decidableCareful (r : Registry) : (calls : List RegistryCall) → Decidable (r.Careful calls)
  | [] => inferInstanceAs (Decidable True)
  | c :: rest =>
    have := decidableCareful (r.call c).state rest
    inferInstanceAs (Decidable (c.Named ∧ ¬ r.Loses c ∧ (r.call c).state.Careful rest))

variable {r r' : Registry} {place : Nat} {key : String} {f g : Function}

/-! ## Additions -/

/-- A registry with further functions whose short names are all in the index. -/
def Extended (r r' : Registry) : Prop :=
  ∃ added, r'.shorts = r.shorts ++ added ∧ Keyed.keys r'.shortNames = Keyed.keys r.shortNames ++ added ∧
    r'.frozen = r.frozen

theorem extended_self (r : Registry) : r.Extended r :=
  ⟨[], by simp only [List.append_nil, and_self]⟩

theorem extended_addType (r : Registry) (type : FunctionType) : r.Extended (r.call (.addType type)).state := by
  simp only [call, addType]
  split
  · rename_i added
    split at added
    · cases added
    split at added
    · cases added
    · cases added
      exact extended_self r
  · exact extended_self r

theorem extended_addFunction (r : Registry) (name typedefName : String) :
    r.Extended (r.call (.addFunction name typedefName)).state := by
  simp only [call]
  split
  · rename_i f grown added
    obtain ⟨short, type, -, -, rfl, rfl⟩ := addFunction_ok added
    refine ⟨[short], ?_⟩
    simp only [Outcome.state_done, shorts, Keyed.values, Keyed.keys, List.map_append, List.map_cons, List.map_nil, and_self]
  · exact extended_self r

/-- A new name of a declared type is refused exactly for the sake of its short name. -/
theorem addFunction_of_new (mutable : r.frozen = false) {name typedefName short : String} (new : name ∉ Keyed.keys r.functions)
    (declared : typedefName ∈ Keyed.keys r.types) (named : shortName? name r.start = some short) :
    (short ∈ Keyed.keys r.shortNames → ∃ holder, r.addFunction name typedefName = .error (.shortNameTaken short name holder)) ∧
    (short ∉ Keyed.keys r.shortNames → ∃ added, r.addFunction name typedefName = .ok added) := by
  obtain ⟨type, found⟩ := Option.isSome_iff_exists.mp (isSome_find?_iff.mpr declared)
  have typed : r.findType typedefName = .ok type := by
    rw [findType, found]
  have absent : ¬ Keyed.hasKey r.functions name = true := fun held => new ((Keyed.hasKey_iff _ _).mp held)
  unfold addFunction
  rw [mutable, if_neg Bool.false_ne_true, if_neg absent, typed]
  constructor
  · intro taken
    obtain ⟨holder, held⟩ := Option.isSome_iff_exists.mp (isSome_find?_iff.mpr taken)
    refine ⟨holder, ?_⟩
    simp only [bind, Except.bind, named, held]
  · intro free
    simp only [bind, Except.bind, named, find?_eq_none_iff.mpr free]
    exact ⟨_, rfl⟩

/-! ## Renaming -/

/-- The short name of a function and those of all others. -/
theorem perm_shorts (at_ : r.functionAt? place = some f) : r.shorts.Perm (f.shortName :: r.shortsBut place) := by
  obtain ⟨entry, stands, rfl⟩ := Option.map_eq_some_iff.mp at_
  obtain ⟨bound, rfl⟩ := List.getElem?_eq_some_iff.mp stands
  have apart := (List.getElem_cons_eraseIdx_perm bound).map fun entry => entry.2.shortName
  rw [shorts, shortsBut, Keyed.values, Keyed.values, List.map_map, List.map_map]
  exact apart.symm

theorem mem_shorts_iff (at_ : r.functionAt? place = some f) (short : String) :
    short ∈ r.shorts ↔ short = f.shortName ∨ short ∈ r.shortsBut place := by
  rw [(perm_shorts at_).mem_iff, List.mem_cons]

theorem shorts_rekeyed (functions : Keyed Function) (old new : String) :
    (Keyed.values (functions.map fun entry => if entry.1 = old then (new, entry.2) else entry)).map Function.shortName =
      (Keyed.values functions).map Function.shortName := by
  rw [Keyed.values, Keyed.values, List.map_map, List.map_map, List.map_map]
  apply List.map_congr_left
  intro entry _
  simp only [Function.comp_apply]
  split <;> rfl

/-- All functions but the one renamed keep their short names, under whatever keys. -/
theorem shortsBut_modify {old new : String} {change : String × Function → String × Function}
    (functions : r'.functions = (r.rekeyed old new).modify place change) : r'.shortsBut place = r.shortsBut place := by
  rw [shortsBut, functions, List.eraseIdx_modify_of_eq, rekeyed, List.eraseIdx_map, shorts_rekeyed, shortsBut]

/-- Renaming puts the new short name of the function in the place of its old one. -/
theorem mem_shorts_renamedAt (at_ : r.functionAt? place = some f) (new short other : String) :
    other ∈ (r.renamedAt place f new short).shorts ↔ other = short ∨ other ∈ r.shortsBut place := by
  rw [mem_shorts_iff (functionAt?_renamedAt at_ new short), shortsBut_modify rfl]

/-- An exact index stays exact unless a short name that it loses is still some other function's. -/
theorem exact_renamedAt_iff (exact_ : r.Exact) (at_ : r.functionAt? place = some f) (new short : String) :
    (r.renamedAt place f new short).Exact ↔ (f.shortName ∈ r.shortsBut place → short = f.shortName) := by
  have index : ∀ other, other ∈ Keyed.keys (r.renamedAt place f new short).shortNames ↔
      (other ∈ r.shortsBut place ∧ other ≠ f.shortName) ∨ other = short := by
    intro other
    rw [renamedAt, mem_keys_put, mem_keys_drop, exact_ other, mem_shorts_iff at_]
    tauto
  constructor
  · intro still shared
    have held := (still f.shortName).mpr ((mem_shorts_renamedAt at_ new short _).mpr (.inr shared))
    rcases (index f.shortName).mp held with ⟨-, apart⟩ | same
    · exact absurd rfl apart
    · exact same.symm
  · intro kept other
    rw [index, mem_shorts_renamedAt at_]
    constructor
    · rintro (⟨member, -⟩ | same)
      · exact .inr member
      · exact .inl same
    · rintro (same | member)
      · exact .inr same
      · by_cases own : other = f.shortName
        · exact .inr (own.trans (kept (own ▸ member)).symm)
        · exact .inl ⟨member, own⟩

/-- With an exact index a renaming succeeds, or changes nothing because another function has the new name. -/
theorem rename_of_exact (exact_ : r.Exact) (place : Nat) {new : String} (named : new ≠ "") :
    ((r.rename place new).answer = .ok () ∧
      ∀ f ∈ r.functionAt? place, ((r.rename place new).state.functionAt? place).map Function.name = some new) ∨
    ∃ f ∈ r.functionAt? place, r.rename place new = .failed r (.nameTaken f.name new) := by
  cases at_ : r.functionAt? place with
  | none =>
    left
    rw [rename, at_]
    refine ⟨rfl, ?_⟩
    rintro f ⟨⟩
  | some f =>
    have result := renaming_rename at_ new
    generalize r.rename place new = o at result ⊢
    cases result with
    | own same =>
      refine .inl ⟨rfl, fun g _ => ?_⟩
      rw [Outcome.state_done, at_, same]
      rfl
    | taken => exact .inr ⟨f, rfl, rfl⟩
    | lost _ _ absent => exact absurd ((exact_ _).mpr ((mem_shorts_iff at_ _).mpr (.inl rfl))) absent
    | unnamed _ _ _ nameless =>
      have some_short := isSome_shortName? named r.start
      rw [nameless] at some_short
      cases some_short
    | @named short =>
      refine .inl ⟨rfl, fun g _ => ?_⟩
      rw [Outcome.state_done, functionAt?_renamedAt at_]
      rfl

/-! ## Calls -/

theorem Extended.exact (extended : r.Extended r') (exact_ : r.Exact) : r'.Exact := by
  obtain ⟨added, shorts, index, -⟩ := extended
  intro short
  rw [shorts, index, List.mem_append, List.mem_append, exact_ short]

/-- The calls after which an exact index is not exact any more. -/
theorem exact_call_iff (exact_ : r.Exact) {c : RegistryCall} (named : c.Named) :
    (r.call c).state.Exact ↔ ¬ r.Loses c := by
  cases c with
  | addType type => exact iff_of_true ((r.extended_addType type).exact exact_) id
  | addFunction name typedefName => exact iff_of_true ((r.extended_addFunction name typedefName).exact exact_) id
  | rename place new =>
    show (r.rename place new).state.Exact ↔ _
    cases at_ : r.functionAt? place with
    | none =>
      rw [rename, at_]
      refine iff_of_true exact_ ?_
      rintro ⟨f, here, -⟩
      rw [at_] at here
      cases here
    | some f =>
      have losing : r.Loses (.rename place new) ↔ new ≠ f.name ∧ new ∉ Keyed.keys r.functions ∧
          shortName? new r.start ≠ some f.shortName ∧ f.shortName ∈ r.shortsBut place := by
        simp only [Loses, at_, Option.mem_def, Option.some.injEq, exists_eq_left']
      have result := renaming_rename at_ new
      generalize r.rename place new = o at result ⊢
      cases result with
      | own same => exact iff_of_true exact_ fun loses => (losing.mp loses).1 same
      | taken _ held => exact iff_of_true exact_ fun loses => (losing.mp loses).2.1 held
      | lost _ _ absent => exact absurd ((exact_ _).mpr ((mem_shorts_iff at_ _).mpr (.inl rfl))) absent
      | unnamed _ _ _ nameless =>
        have some_short := isSome_shortName? named r.start
        rw [nameless] at some_short
        cases some_short
      | @named short' other free _ short =>
        rw [Outcome.state_done, exact_renamedAt_iff exact_ at_, losing, short]
        simp only [ne_eq, other, not_false_eq_true, free, Option.some.injEq, true_and]
        tauto

/-- An index that is exact stays so along careful calls. -/
theorem Careful.exact {calls : List RegistryCall} (careful : r.Careful calls) (exact_ : r.Exact) : (r.after calls).Exact := by
  induction calls generalizing r with
  | nil => exact exact_
  | cons c rest ih =>
    obtain ⟨named, keeps, later⟩ := careful
    exact ih later ((exact_call_iff exact_ named).mpr keeps)

/-- A registry whose index holds no short name that no function has. -/
def Sound (r : Registry) : Prop :=
  ∀ short ∈ Keyed.keys r.shortNames, short ∈ r.shorts

theorem Extended.sound (extended : r.Extended r') (sound : r.Sound) : r'.Sound := by
  obtain ⟨added, shorts, index, -⟩ := extended
  intro short member
  rw [index, List.mem_append] at member
  rw [shorts, List.mem_append]
  exact member.imp_left (sound short)

/-- What is dropped from the index is the short name of the function that is renamed, whether or not it gets another. -/
theorem Sound.rename (sound : r.Sound) (place : Nat) (new : String) : (r.rename place new).state.Sound := by
  cases at_ : r.functionAt? place with
  | none =>
    rw [Registry.rename, at_]
    exact sound
  | some f =>
    have others : ∀ short ∈ Keyed.keys (Keyed.drop r.shortNames f.shortName), short ∈ r.shortsBut place := by
      intro short member
      obtain ⟨held, apart⟩ := mem_keys_drop.mp member
      exact ((mem_shorts_iff at_ short).mp (sound short held)).resolve_left apart
    have result := renaming_rename at_ new
    generalize r.rename place new = o at result ⊢
    cases result with
    | own => exact sound
    | taken => exact sound
    | lost =>
      intro short member
      rw [shorts, Outcome.state_failed, rekeyed, shorts_rekeyed]
      exact sound short member
    | unnamed =>
      intro short member
      rw [Outcome.state_failed] at member ⊢
      rw [mem_shorts_iff (functionAt?_modify at_ (fun f => { f with name := new }) rfl), shortsBut_modify rfl]
      exact .inr (others short member)
    | @named short' =>
      intro short member
      rw [Outcome.state_done, mem_shorts_renamedAt at_]
      rcases mem_keys_put.mp member with held | same
      · exact .inr (others short held)
      · exact .inl same

theorem Sound.after (sound : r.Sound) (calls : List RegistryCall) : (r.after calls).Sound := by
  induction calls generalizing r with
  | nil => exact sound
  | cons c rest ih =>
    refine ih ?_
    cases c with
    | addType type => exact (r.extended_addType type).sound sound
    | addFunction name typedefName => exact (r.extended_addFunction name typedefName).sound sound
    | rename place new => exact sound.rename place new

theorem frozen_rename (r : Registry) (place : Nat) (new : String) : (r.rename place new).state.frozen = r.frozen := by
  cases at_ : r.functionAt? place with
  | none => rw [rename, at_, Outcome.state_done]
  | some f =>
    have result := renaming_rename at_ new
    generalize r.rename place new = o at result ⊢
    cases result <;> rfl

/-- No call closes a registry. -/
theorem frozen_after (r : Registry) (calls : List RegistryCall) : (r.after calls).frozen = r.frozen := by
  induction calls generalizing r with
  | nil => rfl
  | cons c rest ih =>
    rw [after, ih]
    cases c with
    | addType type =>
      obtain ⟨_, -, -, same⟩ := r.extended_addType type
      exact same
    | addFunction name typedefName =>
      obtain ⟨_, -, -, same⟩ := r.extended_addFunction name typedefName
      exact same
    | rename place new => exact r.frozen_rename place new

/-- **The index of short names.** Along every run of calls on a new registry, the index holds no short name that no function
has. While no renaming takes the entry of a short name away that another function shares, the index holds the short
names of the functions and no others: a new function of a declared type is refused exactly if some function has its
short name, and a renaming gives the function its new name or, if another function has that name, changes nothing.
The first renaming that takes such an entry away ends this, and no other call does. -/
theorem index_exact_while_careful (start : String) (calls : List RegistryCall) : let r := (empty start).after calls
    (∀ short ∈ Keyed.keys r.shortNames, short ∈ r.shorts) ∧
    ((empty start).Careful calls →
      (∀ short, short ∈ Keyed.keys r.shortNames ↔ short ∈ r.shorts) ∧
      (∀ name typedefName short, name ∉ Keyed.keys r.functions → typedefName ∈ Keyed.keys r.types →
        shortName? name r.start = some short →
        (short ∈ r.shorts → ∃ holder, r.addFunction name typedefName = .error (.shortNameTaken short name holder)) ∧
        (short ∉ r.shorts → ∃ added, r.addFunction name typedefName = .ok added)) ∧
      (∀ place new, new ≠ "" →
        ((r.rename place new).answer = .ok () ∧
          ∀ f ∈ r.functionAt? place, ((r.rename place new).state.functionAt? place).map Function.name = some new) ∨
        ∃ f ∈ r.functionAt? place, r.rename place new = .failed r (.nameTaken f.name new)) ∧
      ∀ c : RegistryCall, c.Named →
        ((∀ short, short ∈ Keyed.keys (r.call c).state.shortNames ↔ short ∈ (r.call c).state.shorts) ↔ ¬ r.Loses c)) := by
  intro r
  have sound : (empty start).Sound := fun short member => nomatch member
  refine ⟨sound.after calls, fun careful => ?_⟩
  have exact_ : r.Exact := careful.exact fun short => iff_of_false List.not_mem_nil List.not_mem_nil
  have mutable : r.frozen = false := (empty start).frozen_after calls
  refine ⟨exact_, ?_, fun place new named => rename_of_exact exact_ place named, fun c named => exact_call_iff exact_ named⟩
  intro name typedefName short new declared named
  obtain ⟨refused, added⟩ := addFunction_of_new mutable new declared named
  exact ⟨fun shared => refused ((exact_ short).mpr shared), fun unshared => added fun held => unshared ((exact_ short).mp held)⟩

end Registry

/-! ## A shared short name -/

namespace SharedShortName
open Registry

def finish : FunctionType := ⟨"PFNGLFINISHPROC", "void", false, []⟩

/-- Two functions, the second of which is renamed to the short name of the first. -/
def calls : List RegistryCall :=
  [.addType finish, .addFunction "glFoo" "PFNGLFINISHPROC", .addFunction "glBar" "PFNGLFINISHPROC", .rename 1 "glfoo"]

/-- A renaming of the first function. -/
def again : RegistryCall := .rename 0 "glBaz"

def registry : Registry := (Registry.empty "gl").after calls

def behind : Registry := (registry.call again).state

/-- The index is exact while the functions share a short name, and not when one of them has another. -/
theorem exact_until_renamed_again : (Registry.empty "gl").Careful calls ∧ registry.shorts = ["Foo", "Foo"] ∧
    registry.Exact ∧ again.Named ∧ registry.Loses again ∧ ¬ behind.Exact := by
  have careful : (Registry.empty "gl").Careful calls := by decide +kernel
  have loses : registry.Loses again := by decide +kernel
  obtain ⟨exact_, -, -, ends⟩ := (index_exact_while_careful "gl" calls).2 careful
  exact ⟨careful, by decide +kernel, exact_, by decide, loses, fun still => (ends again (by decide)).mp still loses⟩

/-- The index has lost a short name. So a new function is taken although another one has its short name, and that one
cannot be renamed any more: it gets a new key, keeps its name, and is not found in the index. -/
theorem collision_taken : behind = (Registry.empty "gl").after (calls ++ [again]) ∧ (∀ c ∈ calls ++ [again], c.Named) ∧
    behind.shorts = ["Baz", "Foo"] ∧ Keyed.keys behind.shortNames = ["Baz"] ∧
    "glFoo" ∉ Keyed.keys behind.functions ∧ "PFNGLFINISHPROC" ∈ Keyed.keys behind.types ∧
    shortName? "glFoo" behind.start = some "Foo" ∧ (∃ added, behind.addFunction "glFoo" "PFNGLFINISHPROC" = .ok added) ∧
    (behind.rename 1 "glQux").answer = .error (.shortNameLost "Foo") ∧
    Keyed.keys (behind.rename 1 "glQux").state.functions = ["glBaz", "glQux"] ∧
    ((behind.rename 1 "glQux").state.functionAt? 1).map Function.name = some "glfoo" := by
  refine ⟨rfl, by decide, by decide +kernel, by decide +kernel, by decide +kernel, by decide +kernel, by decide +kernel,
    ⟨_, rfl⟩, rfl, by decide +kernel, by decide +kernel⟩

end SharedShortName

end CommandStream
