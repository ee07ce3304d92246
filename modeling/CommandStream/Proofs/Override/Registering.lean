import Mathlib.Data.List.Nodup
import CommandStream.Override.Module
import CommandStream.Proofs.Lookup

/-!
# What modules register

A module with a resource kind gives the tracker its kind, a way for values of its handle type to
travel, and a list of rules that depends on the registry alone. A tracker finds under a name the rules
for that name, in the order in which they came.
-/

namespace CommandStream

namespace OverrideTracker

/-- The tracker with rules one behind another. -/
def addRules (t : OverrideTracker) (rules : List Rule) : OverrideTracker :=
  rules.foldl addRule t

/-- The tracker with a resource kind, whose values travel as handles. -/
def own (t : OverrideTracker) (kind : ResourceKind) : OverrideTracker :=
  ((t.addKind kind).setRead kind.handleType (.handle kind)).setWrite kind.handleType (.handle kind)

variable (t : OverrideTracker) (kind : ResourceKind) (rules : List Rule)

theorem addRules_append (others : List Rule) : t.addRules (rules ++ others) = (t.addRules rules).addRules others :=
  List.foldl_append

/-- Registering changes nothing but the rules. -/
theorem addRules_eq : t.addRules rules = { t with rules := (t.addRules rules).rules } := by
  induction rules generalizing t with
  | nil => rfl
  | cons rule rest ih => exact ih (t.addRule rule)

@[simp] theorem reads_addRules : (t.addRules rules).reads = t.reads := by
  rw [addRules_eq]

@[simp] theorem writes_addRules : (t.addRules rules).writes = t.writes := by
  rw [addRules_eq]

@[simp] theorem kinds_addRules : (t.addRules rules).kinds = t.kinds := by
  rw [addRules_eq]

@[simp] theorem applied_addRules : (t.addRules rules).applied = t.applied := by
  rw [addRules_eq]

theorem setRead_eq (type : String) (transfer : Transfer) :
    ∃ log, t.setRead type transfer = { t with reads := Keyed.put t.reads type transfer, log } := by
  unfold setRead
  dsimp only
  split <;> exact ⟨_, rfl⟩

theorem setWrite_eq (type : String) (transfer : Transfer) :
    ∃ log, t.setWrite type transfer = { t with writes := Keyed.put t.writes type transfer, log } := by
  unfold setWrite
  dsimp only
  split <;> exact ⟨_, rfl⟩

theorem own_eq : ∃ log, t.own kind =
    { t with
      reads := Keyed.put t.reads kind.handleType (.handle kind)
      writes := Keyed.put t.writes kind.handleType (.handle kind)
      kinds := if t.kinds.contains kind then t.kinds else t.kinds ++ [kind]
      log } := by
  obtain ⟨_, read⟩ := (t.addKind kind).setRead_eq kind.handleType (.handle kind)
  obtain ⟨log, written⟩ := ((t.addKind kind).setRead kind.handleType (.handle kind)).setWrite_eq kind.handleType
    (.handle kind)
  refine ⟨log, ?_⟩
  rw [own, written, read]
  unfold addKind
  split <;> rfl

/-- A tracker whose rules are filed under their own names, with no name twice and none without rules. -/
structure Tidy (t : OverrideTracker) : Prop where
  nodup : (Keyed.keys t.rules).Nodup
  own : ∀ entry ∈ t.rules, entry.2 ≠ [] ∧ ∀ rule ∈ entry.2, rule.function = entry.1

variable {t}

theorem tidy_addRule (tidy : t.Tidy) (rule : Rule) : (t.addRule rule).Tidy := by
  constructor
  · simp only [addRule, fileUnder]
    rw [Keyed.keys_put]
    split
    · exact tidy.nodup
    · rename_i new
      refine List.nodup_append.mpr ⟨tidy.nodup, List.nodup_singleton _, ?_⟩
      rintro name member other last rfl
      exact new (List.mem_singleton.mp last ▸ member)
  · intro entry member
    rcases mem_put member with rfl | before
    · refine ⟨by simp, fun other member => ?_⟩
      rcases List.mem_append.mp member with before | last
      · cases found : Keyed.find? t.rules rule.function with
        | none => simp [found] at before
        | some rules =>
          rw [found] at before
          exact (tidy.own _ (mem_of_lookup found)).2 other before
      · rw [List.mem_singleton.mp last]
    · exact tidy.own entry before

theorem tidy_addRules (tidy : t.Tidy) : (t.addRules rules).Tidy := by
  induction rules generalizing t with
  | nil => exact tidy
  | cons rule rest ih => exact ih (tidy_addRule tidy rule)

theorem rulesOf_addRule (t : OverrideTracker) (rule : Rule) (name : String) :
    (t.addRule rule).rulesOf name = t.rulesOf name ++ [rule].filter fun rule => rule.function = name := by
  by_cases same : name = rule.function
  · subst same
    simp [rulesOf, addRule, fileUnder]
  · have apart : ¬ rule.function = name := fun e => same e.symm
    simp [rulesOf, addRule, fileUnder, Keyed.find?_put_of_ne _ _ same, apart]

/-- Rules are found under their names in order. -/
theorem rulesOf_addRules (t : OverrideTracker) (name : String) :
    (t.addRules rules).rulesOf name = t.rulesOf name ++ rules.filter fun rule => rule.function = name := by
  induction rules generalizing t with
  | nil => exact (List.append_nil _).symm
  | cons rule rest ih =>
    have step := ih (t.addRule rule)
    rw [rulesOf_addRule, List.append_assoc, ← List.filter_append] at step
    exact step

/-- Rules that are found under a name are rules for it. -/
theorem Tidy.function_eq (tidy : t.Tidy) {rule : Rule} {name : String} (found : rule ∈ t.rulesOf name) :
    rule.function = name := by
  unfold rulesOf at found
  cases held : Keyed.find? t.rules name with
  | none =>
    rw [held] at found
    cases found
  | some rules =>
    rw [held] at found
    exact (tidy.own _ (mem_of_lookup held)).2 rule found

/-- A name under which rules are filed is the name of one of them. -/
theorem Tidy.rulesOf_entry (tidy : t.Tidy) {entry : String × List Rule} (member : entry ∈ t.rules) :
    t.rulesOf entry.1 = entry.2 := by
  rw [rulesOf, Keyed.find?, lookup_of_mem tidy.nodup member]
  rfl

end OverrideTracker

/-- The rules that retype all arguments that carry an object of a kind. -/
def OverrideModule.retypeRules (m : OverrideModule) (kind : ResourceKind) (r : Registry) : List Rule :=
  ((Keyed.values r.functions).filter fun f => f.type.arguments.any (m.carries kind)).map fun f =>
    m.retypeRule kind f.name

/-- The rules that a step of a module with a resource kind registers. -/
def Registration.rules (m : OverrideModule) (kind : ResourceKind) (r : Registry) : Registration → List Rule
  | .rule only => [only]
  | .generate function name kept => [⟨function, .generate kind name kept⟩]
  | .create function => [⟨function, .create (some kind)⟩]
  | .delete function argument name => [⟨function, .delete kind argument name⟩]
  | .standard =>
    [⟨"glCreate" ++ kind.name ++ "s", .generate kind ("glCreate" ++ kind.name) 0⟩,
     ⟨"glGen" ++ kind.name ++ "s", .generate kind ("glGen" ++ kind.name) 0⟩,
     ⟨"glDelete" ++ kind.name ++ "s",
       .delete kind (m.argumentNames.headD "") (some ("glDelete" ++ kind.name))⟩] ++ m.retypeRules kind r
  | .retypeAll => m.retypeRules kind r
  | .read .. | .write .. => []
  | .retypeFirst function => [⟨function, .retype kind.handleType [] [0] none⟩]
  | .shaderSource =>
    [⟨OverrideModule.shaderSourceFunction,
      .custom (OverrideModule.singleTextEdits kind) none (some (.singleElement OverrideModule.shaderSourceFunction))⟩]

/-- A step that registers nothing but rules, and does not fail if there is a resource kind. -/
def Registration.Plain (m : OverrideModule) : Registration → Prop
  | .read .. | .write .. => False
  | .standard => m.argumentNames ≠ []
  | _ => True

namespace OverrideModule

/-- A module with a resource kind that registers nothing but rules. -/
def Plain (m : OverrideModule) : Prop :=
  (∃ kind, m.owner = .kind kind) ∧ ∀ step ∈ m.steps, step.Plain m

/-- The rules of a module for a registry. -/
def rules (m : OverrideModule) (r : Registry) : List Rule :=
  match m.owner.kind? with
  | some kind => m.steps.flatMap (Registration.rules m kind r)
  | none => []

/-- The tracker with what a module registers. -/
def registered (r : Registry) (t : OverrideTracker) (m : OverrideModule) : OverrideTracker :=
  match m.owner.kind? with
  | some kind => (t.own kind).addRules (m.rules r)
  | none => t

variable {m : OverrideModule} {r : Registry} {t : OverrideTracker} {kind : ResourceKind}

theorem retypeAll_eq (m : OverrideModule) (kind : ResourceKind) (r : Registry) (t : OverrideTracker) :
    m.retypeAll kind r t = t.addRules (m.retypeRules kind r) := by
  rw [retypeAll, OverrideTracker.addRules, retypeRules, List.foldl_map]

theorem take_ok (owner : m.owner = .kind kind) {step : Registration} (plain : step.Plain m) :
    m.take r t step = .ok (t.addRules (step.rules m kind r)) := by
  have withKind : ∀ next, m.withKind next = next kind := by
    intro next
    simp only [OverrideModule.withKind, owner, Ownership.kind?]
  cases step with
  | rule rule => rfl
  | generate function name kept => exact withKind _
  | create function =>
    simp only [take, owner, Ownership.kind?]
    rfl
  | delete function argument name => exact withKind _
  | standard =>
    simp only [take, withKind, standard]
    cases names : m.argumentNames with
    | nil => exact absurd names plain
    | cons argument rest =>
      simp only [retypeAll_eq, Registration.rules, names, List.headD_cons, OverrideTracker.addRules_append]
      rfl
  | retypeAll =>
    simp only [take, withKind, retypeAll_eq]
    rfl
  | read type patterns => exact plain.elim
  | write type patterns => exact plain.elim
  | retypeFirst function => exact withKind _
  | shaderSource => exact withKind _

/-- A plain module registers its rules. -/
theorem register_ok (plain : m.Plain) : m.register r t = .ok (registered r t m) := by
  obtain ⟨⟨kind, owner⟩, each⟩ := plain
  have steps : ∀ (steps : List Registration) (t : OverrideTracker), (∀ step ∈ steps, step.Plain m) →
      steps.foldlM (m.take r) t = .ok (t.addRules (steps.flatMap (Registration.rules m kind r))) := by
    intro steps
    induction steps with
    | nil => exact fun t _ => rfl
    | cons step rest ih =>
      intro t each
      rw [List.foldlM_cons, take_ok owner (each step List.mem_cons_self), List.flatMap_cons,
        OverrideTracker.addRules_append]
      exact ih _ fun other member => each other (List.mem_cons_of_mem _ member)
  have owned : m.addOwner t = .ok (t.own kind) := by
    simp only [addOwner, owner]
    rfl
  simp only [register, owned, registered, rules, owner, Ownership.kind?, bind, Except.bind]
  exact steps m.steps (t.own kind) each

theorem registerFrom_ok {modules : List OverrideModule} (plain : ∀ m ∈ modules, m.Plain) :
    modules.foldlM (fun t m => m.register r t) t = .ok (modules.foldl (registered r) t) := by
  induction modules generalizing t with
  | nil => rfl
  | cons m rest ih =>
    rw [List.foldlM_cons, register_ok (plain m List.mem_cons_self)]
    exact ih fun other member => plain other (List.mem_cons_of_mem _ member)

/-- The tracker with what some modules register. -/
def trackerOf (modules : List OverrideModule) (r : Registry) : OverrideTracker :=
  modules.foldl (registered r) .empty

/-- Plain modules register their rules one after another. -/
theorem registerAll_ok {modules : List OverrideModule} (plain : ∀ m ∈ modules, m.Plain) :
    registerAll r modules = .ok (trackerOf modules r) :=
  registerFrom_ok plain

theorem tidy_registered (tidy : t.Tidy) (m : OverrideModule) : (registered r t m).Tidy := by
  unfold registered
  split
  · rename_i kind _
    have owned : (t.own kind).Tidy := by
      obtain ⟨log, equal⟩ := t.own_eq kind
      rw [equal]
      exact ⟨tidy.nodup, tidy.own⟩
    exact OverrideTracker.tidy_addRules _ owned
  · exact tidy

theorem tidy_foldl_registered (tidy : t.Tidy) (modules : List OverrideModule) :
    (modules.foldl (registered r) t).Tidy := by
  induction modules generalizing t with
  | nil => exact tidy
  | cons m rest ih => exact ih (tidy_registered tidy m)

theorem tidy_trackerOf (modules : List OverrideModule) (r : Registry) : (trackerOf modules r).Tidy := by
  have nothing : OverrideTracker.empty.Tidy := by
    refine ⟨List.nodup_nil, ?_⟩
    intro entry member
    cases member
  exact tidy_foldl_registered nothing modules

theorem rulesOf_registered (r : Registry) (t : OverrideTracker) (m : OverrideModule) (name : String) :
    (registered r t m).rulesOf name = t.rulesOf name ++ (m.rules r).filter fun rule => rule.function = name := by
  unfold registered
  cases owner : m.owner.kind? with
  | none => simp [rules, owner]
  | some kind =>
    have same : (t.own kind).rulesOf name = t.rulesOf name := by
      obtain ⟨log, equal⟩ := t.own_eq kind
      rw [equal]
      rfl
    dsimp only
    rw [OverrideTracker.rulesOf_addRules, same]

/-- Under a name stand the rules of all modules for that name, in the order of the modules. -/
theorem rulesOf_foldl_registered (r : Registry) (t : OverrideTracker) (modules : List OverrideModule) (name : String) :
    (modules.foldl (registered r) t).rulesOf name =
      t.rulesOf name ++ (modules.flatMap (rules · r)).filter fun rule => rule.function = name := by
  induction modules generalizing t with
  | nil => simp
  | cons m rest ih =>
    rw [List.foldl_cons, ih, rulesOf_registered, List.append_assoc, List.flatMap_cons, List.filter_append]

theorem rulesOf_trackerOf (modules : List OverrideModule) (r : Registry) (name : String) :
    (trackerOf modules r).rulesOf name = (modules.flatMap (rules · r)).filter fun rule => rule.function = name :=
  rulesOf_foldl_registered r .empty modules name

/-- A rule that is filed is one of the modules, for the name under which it is filed. -/
theorem mem_trackerOf {modules : List OverrideModule} {entry : String × List Rule}
    (member : entry ∈ (trackerOf modules r).rules) {rule : Rule} (own : rule ∈ entry.2) :
    rule ∈ modules.flatMap (rules · r) ∧ rule.function = entry.1 := by
  rw [← (tidy_trackerOf modules r).rulesOf_entry member, rulesOf_trackerOf] at own
  obtain ⟨listed, named⟩ := List.mem_filter.mp own
  exact ⟨listed, of_decide_eq_true named⟩

/-! ## Kinds -/

/-- The kinds of some modules. -/
def kindsOf (modules : List OverrideModule) : List ResourceKind :=
  modules.filterMap fun m => m.owner.kind?

/-- How values of the handle types of some kinds travel. -/
def transfersOf (kinds : List ResourceKind) : Keyed Transfer :=
  kinds.map fun kind => (kind.handleType, .handle kind)

/-- A tracker with some kinds, whose values travel as handles. -/
structure Owning (kinds : List ResourceKind) (t : OverrideTracker) : Prop where
  owned : t.kinds = kinds
  reads : t.reads = transfersOf kinds
  writes : t.writes = transfersOf kinds
  fresh : t.applied = false

theorem owning_registered {kinds : List ResourceKind} (owning : Owning kinds t) (owner : m.owner.kind? = some kind)
    (new : kind.handleType ∉ kinds.map ResourceKind.handleType) (r : Registry) : Owning (kinds ++ [kind]) (registered r t m) := by
  have unlisted : ¬ kinds.contains kind = true :=
    fun member => new (List.mem_map_of_mem (List.contains_iff_mem.mp member))
  have fresh : kind.handleType ∉ Keyed.keys (transfersOf kinds) := by
    rw [transfersOf, Keyed.keys, List.map_map]
    exact new
  have transfers : Keyed.put (transfersOf kinds) kind.handleType (.handle kind) = transfersOf (kinds ++ [kind]) := by
    rw [put_of_fresh fresh, transfersOf, transfersOf, List.map_append]
    rfl
  obtain ⟨log, equal⟩ := t.own_eq kind
  simp only [registered, owner]
  constructor
  · rw [OverrideTracker.kinds_addRules, equal, owning.owned, if_neg unlisted]
  · rw [OverrideTracker.reads_addRules, equal, owning.reads, transfers]
  · rw [OverrideTracker.writes_addRules, equal, owning.writes, transfers]
  · rw [OverrideTracker.applied_addRules, equal]
    exact owning.fresh

/-- Modules of kinds with different handle types give the tracker just these kinds. -/
theorem owning_foldl_registered (r : Registry) {modules : List OverrideModule} {kinds : List ResourceKind}
    (owning : Owning kinds t) (distinct : ((kinds ++ kindsOf modules).map ResourceKind.handleType).Nodup) :
    Owning (kinds ++ kindsOf modules) (modules.foldl (registered r) t) := by
  induction modules generalizing t kinds with
  | nil => exact (List.append_nil kinds).symm ▸ owning
  | cons m rest ih =>
    cases owner : m.owner.kind? with
    | none =>
      have same : registered r t m = t := by simp only [registered, owner]
      have listed : kindsOf (m :: rest) = kindsOf rest := List.filterMap_cons_none owner
      rw [List.foldl_cons, same, listed]
      exact ih owning (listed ▸ distinct)
    | some kind =>
      have listed : kindsOf (m :: rest) = kind :: kindsOf rest := List.filterMap_cons_some owner
      rw [listed, List.append_cons] at distinct ⊢
      have new : kind.handleType ∉ kinds.map ResourceKind.handleType := by
        rw [List.map_append, List.map_append] at distinct
        intro member
        exact (List.nodup_append.mp (List.nodup_append.mp distinct).1).2.2 _ member _ List.mem_cons_self rfl
      exact ih (owning_registered owning owner new r) distinct

theorem owning_trackerOf (r : Registry) {modules : List OverrideModule}
    (distinct : ((kindsOf modules).map ResourceKind.handleType).Nodup) : Owning (kindsOf modules) (trackerOf modules r) := by
  have nothing : Owning [] .empty := ⟨rfl, rfl, rfl, rfl⟩
  exact owning_foldl_registered r nothing distinct

end OverrideModule

end CommandStream
