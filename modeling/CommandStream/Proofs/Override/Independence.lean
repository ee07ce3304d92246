import CommandStream.Proofs.Override.Commuting
import CommandStream.Proofs.Override.Feasible
import CommandStream.Proofs.Override.Registering
import CommandStream.Proofs.Registry.Parsed

/-!
# Modules in either order

Two modules with rules for different functions come to the same in either order, but for one case: a rule of one gives a
function a name that the registry has not, and the other has rules for that name. These find a function only if they
come behind that rule.
-/

namespace CommandStream

/-! ## Modules of basic rules -/

/-- An effect of the usual rules: arguments get other types, or objects of a kind are made or deleted. -/
def Effect.Basic : Effect → Prop
  | .retype .. => True
  | .generate _ name _ => name ≠ ""
  | .create kind => kind.isSome
  | .delete .. => True
  | .none => False
  | .custom .. => False

theorem Effect.Basic.proper {effect : Effect} (basic : effect.Basic) : effect.Proper := by
  cases effect with
  | none | custom => exact basic.elim
  | _ => exact basic

/-- The rule that a step registers as it is. -/
def Registration.given? : Registration → Option Rule
  | .rule only => some only
  | _ => none

namespace OverrideTracker

variable {t : OverrideTracker} {rules : List Rule} {r : Registry}

/-- A tracker that knows some rules, and no others. -/
structure Knows (t : OverrideTracker) (rules : List Rule) : Prop extends t.Tidy where
  under : ∀ name, t.rulesOf name = rules.filter fun rule => rule.function = name

theorem Knows.mem (knows : t.Knows rules) {entry : String × List Rule} (listed : entry ∈ t.rules) {rule : Rule}
    (among : rule ∈ entry.2) : rule ∈ rules ∧ rule.function = entry.1 := by
  rw [← knows.rulesOf_entry listed, knows.under] at among
  obtain ⟨known, named⟩ := List.mem_filter.mp among
  exact ⟨known, of_decide_eq_true named⟩

theorem Knows.mem_keys (knows : t.Knows rules) {name : String} (waits : name ∈ Keyed.keys t.rules) :
    ∃ rule ∈ rules, rule.function = name := by
  obtain ⟨entry, listed, rfl⟩ := List.mem_map.mp waits
  obtain ⟨rule, among⟩ := List.exists_mem_of_ne_nil _ (knows.own entry listed).1
  obtain ⟨known, named⟩ := knows.mem listed among
  exact ⟨rule, known, named⟩

theorem rules_addRule_behind {base more : Keyed (List Rule)} (behind : t.rules = base ++ more) {rule : Rule}
    (fresh : rule.function ∉ Keyed.keys base) : (t.addRule rule).rules = base ++ fileUnder more rule.function [rule] := by
  rw [addRule]
  dsimp only
  rw [fileUnder, behind, put_behind fresh, find?_behind fresh, fileUnder]

/-- Rules for other functions come behind those that a tracker has. -/
theorem rules_addRules_behind {base : Keyed (List Rule)} {u : OverrideTracker} (behind : t.rules = base ++ u.rules)
    (fresh : ∀ rule ∈ rules, rule.function ∉ Keyed.keys base) : (t.addRules rules).rules = base ++ (u.addRules rules).rules := by
  induction rules generalizing t u with
  | nil => exact behind
  | cons rule rest ih =>
    exact ih (rules_addRule_behind behind (fresh rule List.mem_cons_self)) fun other member =>
      fresh other (List.mem_cons_of_mem _ member)

end OverrideTracker

namespace OverrideModule

open OverrideTracker

variable {m a b : OverrideModule} {r : Registry} {t : OverrideTracker}

/-- The rules that a module registers, with a resource kind or without. -/
def contents (m : OverrideModule) (r : Registry) : List Rule :=
  match m.owner.kind? with
  | some _ => m.rules r
  | none => m.steps.filterMap Registration.given?

/-- A module that registers basic rules only. One without a resource kind registers them as they are. -/
structure Basic (m : OverrideModule) (r : Registry) : Prop where
  takes : m.Plain ∨ m.owner = .free ∧ ∀ step ∈ m.steps, ∃ rule, step = .rule rule
  basic : ∀ rule ∈ m.contents r, rule.effect.Basic

/-- The tracker with the resource kind of a module, if it has one. -/
def entered (m : OverrideModule) (t : OverrideTracker) : OverrideTracker :=
  match m.owner.kind? with
  | some kind => t.own kind
  | none => t

/-- The tracker with what two modules register, one behind the other. -/
def together (a b : OverrideModule) (r : Registry) : OverrideTracker :=
  (b.entered ((a.entered .empty).addRules (a.contents r))).addRules (b.contents r)

theorem entered_eq (m : OverrideModule) (t : OverrideTracker) :
    ∃ reads writes kinds log, m.entered t = { t with reads, writes, kinds, log } := by
  unfold entered
  split
  · obtain ⟨log, equal⟩ := t.own_eq _
    exact ⟨_, _, _, log, equal⟩
  · exact ⟨t.reads, t.writes, t.kinds, t.log, rfl⟩

@[simp] theorem rules_entered (m : OverrideModule) (t : OverrideTracker) : (m.entered t).rules = t.rules := by
  obtain ⟨_, _, _, _, equal⟩ := m.entered_eq t
  rw [equal]

@[simp] theorem applied_entered (m : OverrideModule) (t : OverrideTracker) : (m.entered t).applied = t.applied := by
  obtain ⟨_, _, _, _, equal⟩ := m.entered_eq t
  rw [equal]

theorem Basic.register_eq (basic : m.Basic r) (t : OverrideTracker) :
    m.register r t = .ok ((m.entered t).addRules (m.contents r)) := by
  rcases basic.takes with plain | ⟨free, each⟩
  · rw [register_ok plain]
    obtain ⟨⟨kind, owner⟩, -⟩ := plain
    simp only [registered, entered, contents, owner, Ownership.kind?]
  · have steps : ∀ (steps : List Registration) (t : OverrideTracker), (∀ step ∈ steps, ∃ rule, step = .rule rule) →
        steps.foldlM (m.take r) t = .ok (t.addRules (steps.filterMap Registration.given?)) := by
      intro steps
      induction steps with
      | nil => exact fun t _ => rfl
      | cons step rest ih =>
        intro t each
        obtain ⟨rule, rfl⟩ := each step List.mem_cons_self
        exact ih (t.addRule rule) fun other member => each other (List.mem_cons_of_mem _ member)
    have entered : m.addOwner t = .ok t := by rw [addOwner, free]
    rw [register, entered]
    simp only [OverrideModule.entered, contents, free, Ownership.kind?]
    exact steps m.steps t each

theorem registerAll_pair (ofA : a.Basic r) (ofB : b.Basic r) : registerAll r [a, b] = .ok (together a b r) := by
  rw [registerAll, List.foldlM_cons, ofA.register_eq, together]
  show [b].foldlM (fun t m => m.register r t) _ = _
  rw [List.foldlM_cons, ofB.register_eq]
  rfl

theorem knows_entered {rules : List Rule} (knows : t.Knows rules) (m : OverrideModule) : (m.entered t).Knows rules := by
  obtain ⟨reads, writes, kinds, log, equal⟩ := m.entered_eq t
  rw [equal]
  exact ⟨⟨knows.nodup, knows.own⟩, knows.under⟩

theorem knows_addRules {rules : List Rule} (knows : t.Knows rules) (others : List Rule) :
    (t.addRules others).Knows (rules ++ others) where
  toTidy := tidy_addRules others knows.toTidy
  under name := by rw [rulesOf_addRules, knows.under, List.filter_append]

theorem knows_empty : OverrideTracker.empty.Knows [] :=
  ⟨⟨List.nodup_nil, fun _ member => by cases member⟩, fun _ => rfl⟩

theorem knows_together (a b : OverrideModule) (r : Registry) : (together a b r).Knows (a.contents r ++ b.contents r) :=
  knows_addRules (knows_entered (knows_addRules (knows_entered knows_empty a) _) b) _

theorem rules_together (disjoint : ∀ rule ∈ a.contents r, ∀ other ∈ b.contents r, rule.function ≠ other.function) :
    (together a b r).rules = (OverrideTracker.empty.addRules (a.contents r)).rules ++
      (OverrideTracker.empty.addRules (b.contents r)).rules := by
  have knows : (OverrideTracker.empty.addRules (a.contents r)).Knows (a.contents r) := knows_addRules knows_empty _
  have first : ((a.entered .empty).addRules (a.contents r)).rules =
      [] ++ (OverrideTracker.empty.addRules (a.contents r)).rules := by
    refine rules_addRules_behind (rules_entered a .empty) fun _ _ member => ?_
    cases member
  rw [together]
  refine rules_addRules_behind (u := .empty) ?_ fun other listed waits => ?_
  · rw [rules_entered, first]
    exact (List.append_nil _).symm
  · obtain ⟨rule, known, named⟩ := knows.mem_keys waits
    exact disjoint rule known other listed named

theorem applied_together (a b : OverrideModule) (r : Registry) : (together a b r).applied = false := by
  rw [together, applied_addRules, applied_entered, applied_addRules, applied_entered]
  rfl

/-! ### Handle types -/

/-- Ways to travel with that of the handle type of a module. -/
def withOwn (m : OverrideModule) (transfers : Keyed Transfer) : Keyed Transfer :=
  match m.owner.kind? with
  | some kind => Keyed.put transfers kind.handleType (.handle kind)
  | none => transfers

/-- Modules that have not two kinds with one handle type. -/
def Consistent (a b : OverrideModule) : Prop :=
  ∀ kind ∈ a.owner.kind?, ∀ other ∈ b.owner.kind?, kind.handleType = other.handleType → kind = other

theorem transfers_entered (m : OverrideModule) (t : OverrideTracker) :
    (m.entered t).reads = m.withOwn t.reads ∧ (m.entered t).writes = m.withOwn t.writes := by
  unfold entered withOwn
  split
  · rename_i kind _
    obtain ⟨log, equal⟩ := t.own_eq kind
    rw [equal]
    exact ⟨rfl, rfl⟩
  · exact ⟨rfl, rfl⟩

theorem transfers_together (a b : OverrideModule) (r : Registry) :
    (together a b r).reads = b.withOwn (a.withOwn []) ∧ (together a b r).writes = b.withOwn (a.withOwn []) := by
  obtain ⟨reads, writes⟩ := transfers_entered a .empty
  obtain ⟨reads', writes'⟩ := transfers_entered b ((a.entered .empty).addRules (a.contents r))
  constructor
  · rw [together, reads_addRules, reads', reads_addRules, reads]
    rfl
  · rw [together, writes_addRules, writes', writes_addRules, writes]
    rfl

theorem find?_withOwn_comm (consistent : Consistent a b) (transfers : Keyed Transfer) (type : String) :
    Keyed.find? (a.withOwn (b.withOwn transfers)) type = Keyed.find? (b.withOwn (a.withOwn transfers)) type := by
  unfold withOwn
  cases first : a.owner.kind? with
  | none => rfl
  | some kind =>
    cases last : b.owner.kind? with
    | none => rfl
    | some other =>
      refine find?_put_comm transfers (fun same => ?_) type
      rw [consistent kind first other last same]

/-! ## Names for which rules wait -/

/-- Names that functions have, or that rules may come to give them. -/
inductive Reaches (rules : List Rule) (r : Registry) : String → Prop
  | held {name : String} (member : name ∈ Keyed.keys r.functions) : Reaches rules r name
  | given {rule : Rule} {target : String} (listed : rule ∈ rules) (reached : Reaches rules r rule.function)
      (given : target ∈ rule.effect.targets) : Reaches rules r target

/-- Rules that give functions no name for which others wait, unless the registry has it. -/
def Apart (rules others : List Rule) (r : Registry) : Prop :=
  ∀ other ∈ others, Reaches rules r other.function → other.function ∈ Keyed.keys r.functions

/-- Rules that give each function one name at most. Where rules wait for that name, a function has it already and keeps it. -/
structure Settled (rules : List Rule) (r : Registry) : Prop where
  single : ∀ name ∈ Keyed.keys r.functions, ∃ new, ∀ rule ∈ rules, rule.function = name →
    ∀ target ∈ rule.effect.targets, target = new
  separate : ∀ rule ∈ rules, rule.function ∈ Keyed.keys r.functions → ∀ target ∈ rule.effect.targets,
    target ≠ rule.function → ∀ other ∈ rules, other.function = target →
      target ∈ Keyed.keys r.functions ∧ other.effect.targets = []

theorem Reaches.mono {rules others : List Rule} (more : rules ⊆ others) {name : String} (reached : Reaches rules r name) :
    Reaches others r name := by
  induction reached with
  | held member => exact .held member
  | given listed _ target ih => exact .given (more listed) ih target

/-- Settled rules that are for a name that is reached are for a function of the registry. -/
theorem Settled.held {rules : List Rule} (settled : Settled rules r) {name : String} (reached : Reaches rules r name)
    {other : Rule} (listed : other ∈ rules) (named : other.function = name) : name ∈ Keyed.keys r.functions := by
  -- A rule that gives the name waits itself for the name that it is for, which is reached earlier.
  induction reached generalizing other with
  | held member => exact member
  | @given rule target known _ given ih =>
    have held := ih known rfl
    by_cases same : target = rule.function
    · exact same ▸ held
    · exact (settled.separate rule known held target given same other listed named).1

theorem Settled.of_subset {rules others : List Rule} (settled : Settled rules r) (fewer : others ⊆ rules) : Settled others r where
  single name member := by
    obtain ⟨new, only⟩ := settled.single name member
    exact ⟨new, fun rule listed => only rule (fewer listed)⟩
  separate rule listed held target given other waiting waits :=
    settled.separate rule (fewer listed) held target given other waiting (fewer waits)

theorem Settled.apart {rules all others : List Rule} (settled : Settled all r) (known : rules ⊆ all) (wait : others ⊆ all) :
    Apart rules others r :=
  fun _ listed reached => settled.held (reached.mono known) (wait listed) rfl

/-! ## Both orders -/

/-- Trackers and registries that two modules leave alike. -/
structure Agree (a b : OverrideModule) (r : Registry) (x y : OverrideTracker × Registry) : Prop where
  functions : y.2.functions = x.2.functions
  rules : ∀ name, y.1.rulesOf name = x.1.rulesOf name
  reads : Consistent a b → ∀ type, Keyed.find? y.1.reads type = Keyed.find? x.1.reads type
  writes : Consistent a b → ∀ type, Keyed.find? y.1.writes type = Keyed.find? x.1.writes type
  /-- Rules are found only if they are for a name that a function had, or came to have by rules of the same module. -/
  heeded : ∀ name, ∀ rule ∈ x.1.rulesOf name,
    rule ∈ a.contents r ∧ Reaches (a.contents r) r rule.function ∨ rule ∈ b.contents r ∧ Reaches (b.contents r) r rule.function

theorem runs_of_apply {rules : List Rule} (filed : r.Filed) (knows : t.Knows rules) (basic : ∀ rule ∈ rules, rule.effect.Basic)
    (applied : (t.apply r).answer = .ok ()) : ∃ x, Runs ⟨r.freeze, [], t.log⟩ t.rules x ∧
      (t.apply r).state = ({ t with rules := x.filed, applied := true, log := x.log }, x.registry) := by
  obtain ⟨x, ran, -, whole⟩ := apply_done applied
  have filing : ∀ entry ∈ t.rules, ∀ rule ∈ entry.2, rule.effect.Filing :=
    fun entry listed rule among => (basic rule (knows.mem listed among).1).proper.filing
  have runs := runs_of_ok (x := ⟨r.freeze, [], t.log⟩) filed.freeze filing (congrArg Outcome.answer ran)
  rw [ran] at runs
  exact ⟨x, runs, congrArg Outcome.state whole⟩

section Pair

variable (filed : r.Filed) (ofA : a.Basic r) (ofB : b.Basic r)
  (disjoint : ∀ rule ∈ a.contents r, ∀ other ∈ b.contents r, rule.function ≠ other.function)
include ofA ofB

theorem basic_together : ∀ rule ∈ a.contents r ++ b.contents r, rule.effect.Basic := by
  intro rule member
  rcases List.mem_append.mp member with first | last
  · exact ofA.basic rule first
  · exact ofB.basic rule last

include filed disjoint

/-- Applications in both orders agree if they succeed. -/
theorem agree_of_apart (apart : Apart (a.contents r) (b.contents r) r) (apart' : Apart (b.contents r) (a.contents r) r)
    (applied : ((together a b r).apply r).answer = .ok ()) (applied' : ((together b a r).apply r).answer = .ok ()) :
    Agree a b r ((together a b r).apply r).state ((together b a r).apply r).state := by
  obtain ⟨y, runs, state⟩ := runs_of_apply filed (knows_together a b r) (basic_together ofA ofB) applied
  obtain ⟨y', runs', state'⟩ := runs_of_apply filed (knows_together b a r) (basic_together ofB ofA) applied'
  rw [rules_together disjoint] at runs
  rw [rules_together fun other listed rule known same => disjoint rule known other listed same.symm] at runs'
  obtain ⟨x, first, last⟩ := runs_append runs
  obtain ⟨x', first', last'⟩ := runs_append runs'
  have knows : ∀ m : OverrideModule, (OverrideTracker.empty.addRules (m.contents r)).Knows (m.contents r) :=
    fun m => knows_addRules knows_empty _
  have closed : ∀ m : OverrideModule, ∀ entry ∈ (OverrideTracker.empty.addRules (m.contents r)).rules,
      Closed (Reaches (m.contents r) r) entry := by
    intro m entry listed reached rule among target given
    obtain ⟨known, named⟩ := (knows m).mem listed among
    exact .given known (named ▸ reached) given
  have names := first.named filed.freeze (closed a) fun _ member => .held member
  have names' := first'.named filed.freeze (closed b) fun _ member => .held member
  obtain ⟨functions, lookups⟩ := commute filed.freeze first last first' last'
    (fun name waits waits' => by
      obtain ⟨rule, known, rfl⟩ := (knows a).mem_keys waits
      obtain ⟨other, known', named⟩ := (knows b).mem_keys waits'
      exact disjoint rule known other known' named.symm)
    (fun name member waits => by
      obtain ⟨other, known, rfl⟩ := (knows b).mem_keys waits
      exact apart other known (names _ member))
    (fun name member waits => by
      obtain ⟨other, known, rfl⟩ := (knows a).mem_keys waits
      exact apart' other known (names' _ member))
  rw [state, state']
  obtain ⟨reads, writes⟩ := transfers_together a b r
  obtain ⟨reads', writes'⟩ := transfers_together b a r
  exact {
    functions
    rules := fun name => (lookups name).2
    reads := by
      intro consistent type
      show Keyed.find? (together b a r).reads type = Keyed.find? (together a b r).reads type
      rw [reads, reads', find?_withOwn_comm consistent]
    writes := by
      intro consistent type
      show Keyed.find? (together b a r).writes type = Keyed.find? (together a b r).writes type
      rw [writes, writes', find?_withOwn_comm consistent]
    heeded := by
      intro name rule found
      have found : rule ∈ rulesIn y.filed name := found
      have heard : ∀ (m : OverrideModule) log z, Runs ⟨r.freeze, [], log⟩ (OverrideTracker.empty.addRules (m.contents r)).rules z →
          rule ∈ rulesIn z.filed name → rule ∈ m.contents r ∧ Reaches (m.contents r) r rule.function := by
        intro m log z runs found
        rcases runs.mem_rulesIn filed.freeze (closed m) (fun _ member => .held member) found with
          nothing | ⟨entry, listed, among, reached⟩
        · cases nothing
        · obtain ⟨known, named⟩ := (knows m).mem listed among
          exact ⟨known, named ▸ reached⟩
      rw [(lookups name).1, List.mem_append] at found
      exact found.imp (heard a _ x first) (heard b _ x' first') }

end Pair

theorem workable_of_settled (filed : r.Filed) (indexed : r.Indexed) {rules : List Rule} (knows : t.Knows rules)
    (basic : ∀ rule ∈ rules, rule.effect.Basic) (settled : Settled rules r) : Workable t.rules r where
  filed
  indexed
  nodup := knows.nodup
  filing entry listed rule among := (basic rule (knows.mem listed among).1).proper.filing
  proper entry listed rule among := (basic rule (knows.mem listed among).1).proper
  single entry listed held := by
    obtain ⟨new, only⟩ := settled.single entry.1 held
    exact ⟨new, fun rule among => only rule (knows.mem listed among).1 (knows.mem listed among).2⟩
  separate entry listed held rule among target given other waits := by
    obtain ⟨known, named⟩ := knows.mem listed among
    have separate := settled.separate rule known (named ▸ held) target given (named ▸ other)
    obtain ⟨waiting, known', named'⟩ := knows.mem_keys waits
    refine ⟨(separate waiting known' named').1, fun other among' => ?_⟩
    have found : other ∈ t.rulesOf target := among'
    rw [knows.under] at found
    obtain ⟨known'', named''⟩ := List.mem_filter.mp found
    exact (separate other known'' (of_decide_eq_true named'')).2

/-- Rules for different functions stand under each name in the same way, in both orders of the modules. -/
theorem rulesOf_together_comm (disjoint : ∀ rule ∈ a.contents r, ∀ other ∈ b.contents r, rule.function ≠ other.function)
    (name : String) : (together b a r).rulesOf name = (together a b r).rulesOf name := by
  rw [(knows_together b a r).under, (knows_together a b r).under, List.filter_append, List.filter_append]
  by_cases first : ∃ rule ∈ a.contents r, rule.function = name
  · obtain ⟨rule, known, rfl⟩ := first
    have nothing : (b.contents r).filter (fun other => other.function = rule.function) = [] := by
      rw [List.filter_eq_nil_iff]
      exact fun other listed same => disjoint rule known other listed (of_decide_eq_true same).symm
    rw [nothing, List.append_nil, List.nil_append]
  · have nothing : (a.contents r).filter (fun rule => rule.function = name) = [] := by
      rw [List.filter_eq_nil_iff]
      exact fun rule known same => first ⟨rule, known, of_decide_eq_true same⟩
    rw [nothing, List.append_nil, List.nil_append]

end OverrideModule

namespace OverrideTracker

/-- Trackers with the same rules under each name apply to the same registries. -/
theorem applies_alike {t t' : OverrideTracker} {r : Registry} (workable : Workable t.rules r) (workable' : Workable t'.rules r)
    (fresh : t.applied = false) (fresh' : t'.applied = false) (same : ∀ name, t'.rulesOf name = t.rulesOf name) :
    ((t.apply r).answer = .ok () ∧ (t'.apply r).answer = .ok ()) ∨
    ∃ e e', (t.apply r).answer = .error e ∧ e.unfit = true ∧ (t'.apply r).answer = .error e' ∧ e'.unfit = true := by
  have shapes : reshaped? t'.rules r = reshaped? t.rules r := by
    funext entry
    have under : rulesIn t'.rules entry.1 = rulesIn t.rules entry.1 := same entry.1
    rw [reshaped?, reshaped?, under]
  have lists : reshaped t'.rules r = reshaped t.rules r := by rw [reshaped, reshaped, shapes]
  have compatible : Compatible t'.rules r ↔ Compatible t.rules r := by
    constructor
    · exact fun compatible => ⟨shapes ▸ compatible.suits, lists ▸ compatible.distinct⟩
    · exact fun compatible => ⟨shapes.symm ▸ compatible.suits, lists.symm ▸ compatible.distinct⟩
  rcases apply_cases workable fresh with ⟨applied, suits, sound, -⟩ | ⟨e, failed, unfit, clash⟩ <;>
    rcases apply_cases workable' fresh' with ⟨applied', suits', sound', -⟩ | ⟨e', failed', unfit', clash'⟩
  · exact .inl ⟨applied, applied'⟩
  · exact absurd ⟨compatible.mpr suits, lists.symm ▸ sound⟩ clash'
  · exact absurd ⟨compatible.mp suits', lists ▸ sound'⟩ clash
  · exact .inr ⟨e, e', failed, unfit, failed', unfit'⟩

end OverrideTracker

namespace OverrideModule

variable {a b : OverrideModule} {r : Registry}

/-- Two modules with basic rules for different functions come to the same in either order, if neither gives a function a
name that the registry has not and for which the other has rules: applications that both succeed leave the same functions
and lookups. Where each function is given one name at most and rules wait for none of these, both succeed, or nothing can be
emitted in either order. -/
theorem agree_in_either_order (filed : r.Filed) (indexed : r.Indexed) (ofA : a.Basic r) (ofB : b.Basic r)
    (disjoint : ∀ rule ∈ a.contents r, ∀ other ∈ b.contents r, rule.function ≠ other.function) :
    ∃ t t', registerAll r [a, b] = .ok t ∧ registerAll r [b, a] = .ok t' ∧
      (Apart (a.contents r) (b.contents r) r → Apart (b.contents r) (a.contents r) r → (t.apply r).answer = .ok () →
        (t'.apply r).answer = .ok () → Agree a b r (t.apply r).state (t'.apply r).state) ∧
      (Settled (a.contents r ++ b.contents r) r →
        ((t.apply r).answer = .ok () ∧ (t'.apply r).answer = .ok () ∧ Agree a b r (t.apply r).state (t'.apply r).state) ∨
        ∃ e e', (t.apply r).answer = .error e ∧ e.unfit = true ∧ (t'.apply r).answer = .error e' ∧ e'.unfit = true) := by
  refine ⟨together a b r, together b a r, registerAll_pair ofA ofB, registerAll_pair ofB ofA, ?_, ?_⟩
  · exact agree_of_apart filed ofA ofB disjoint
  · intro settled
    have workable := workable_of_settled filed indexed (knows_together a b r) (basic_together ofA ofB) settled
    have settled' : Settled (b.contents r ++ a.contents r) r :=
      settled.of_subset fun rule member => List.mem_append.mpr (List.mem_append.mp member).symm
    have workable' := workable_of_settled filed indexed (knows_together b a r) (basic_together ofB ofA) settled'
    rcases OverrideTracker.applies_alike workable workable' (applied_together a b r) (applied_together b a r)
      (rulesOf_together_comm disjoint) with ⟨applied, applied'⟩ | refused
    · have first : a.contents r ⊆ a.contents r ++ b.contents r := List.subset_append_left _ _
      have last : b.contents r ⊆ a.contents r ++ b.contents r := List.subset_append_right _ _
      exact .inl ⟨applied, applied', agree_of_apart filed ofA ofB disjoint (settled.apart first last)
        (settled.apart last first) applied applied'⟩
    · exact .inr refused

end OverrideModule

/-! ## A header -/

namespace FooHeader

open OverrideModule

/-- A header with a function that makes objects for a target. -/
def lines : List String :=
  ["typedef void (APIENTRYP PFNGLGENFOOSPROC)(GLenum target, GLsizei n, GLuint *foos);",
   "GLAPI PFNGLGENFOOSPROC glad_glGenFoos;"]

def generateType : FunctionType :=
  ⟨"PFNGLGENFOOSPROC", "void", false, [⟨"GLenum", "target", false⟩, ⟨"GLsizei", "n", false⟩, ⟨"GLuint *", "foos", false⟩]⟩

def registry : Registry where
  start := "gl"
  defines := []
  types := [("PFNGLGENFOOSPROC", generateType)]
  functions := [("glGenFoos", ⟨"glGenFoos", "GenFoos", "public", generateType⟩)]
  enums := []
  frozen := true
  shortNames := [("GenFoos", "glGenFoos")]

theorem parsed : (Build.readRegistry [] "gl" lines none).answer = .ok registry := by
  have read : (Build.readRegistry [] "gl" lines none).answer.toOption = some registry := by decide +kernel
  exact ok_of_toOption read

/-- Objects are made one at a time, by a function of another name. -/
def foo : OverrideModule := ⟨.kind ⟨"Foo", "GLuint", 6⟩, ["foo"], [.generate "glGenFoos" "glGenFoo" 1]⟩

/-- The function of that name, which the header has not, gets another type of target. -/
def target : OverrideModule := ⟨.free, [], [.rule ⟨"glGenFoo", .retype "FooTarget" [] [0] none⟩]⟩

/-- A function that the header has not gets a handle. -/
def bind : OverrideModule := ⟨.free, [], [.rule ⟨"glBindFoo", .retype "FooHandle" ["foo"] [] (some "GLuint")⟩]⟩

theorem basic_foo : foo.Basic registry where
  takes := by
    refine .inl ⟨⟨_, rfl⟩, fun step member => ?_⟩
    rw [List.mem_singleton.mp member]
    trivial
  basic := by
    intro rule member
    rw [List.mem_singleton.mp member]
    exact (by decide : "glGenFoo" ≠ "")

theorem basic_free {only : Rule} (basic : only.effect.Basic) : (⟨.free, [], [.rule only]⟩ : OverrideModule).Basic registry where
  takes := .inr ⟨rfl, fun _ member => ⟨only, List.mem_singleton.mp member⟩⟩
  basic := by
    intro rule member
    rw [List.mem_singleton.mp member]
    exact basic

theorem applied_absent : ((together foo bind registry).apply registry).answer = .ok () := by
  decide +kernel

/-- A rule for a function that the header has not is ignored in both orders. -/
theorem absent_ignored : ∃ t t', registerAll registry [foo, bind] = .ok t ∧ registerAll registry [bind, foo] = .ok t' ∧
    (t.apply registry).answer = .ok () ∧ (t'.apply registry).answer = .ok () ∧
    Agree foo bind registry (t.apply registry).state (t'.apply registry).state ∧
    ∀ name, ∀ rule ∈ (t'.apply registry).state.1.rulesOf name, rule.function ≠ "glBindFoo" := by
  have basic_bind : bind.Basic registry := basic_free trivial
  have disjoint : ∀ rule ∈ foo.contents registry, ∀ other ∈ bind.contents registry, rule.function ≠ other.function := by
    intro rule member other member'
    rw [List.mem_singleton.mp member, List.mem_singleton.mp member']
    decide
  have settled : Settled (foo.contents registry ++ bind.contents registry) registry := by
    have targets : ∀ rule ∈ foo.contents registry ++ bind.contents registry,
        ∀ target ∈ rule.effect.targets, target = "glGenFoo" := by
      decide
    have waiting : ∀ rule ∈ foo.contents registry ++ bind.contents registry, rule.function ≠ "glGenFoo" := by
      decide
    exact {
      single := fun _ _ => ⟨"glGenFoo", fun rule listed _ => targets rule listed⟩
      separate := fun rule listed _ target given _ other listed' named =>
        absurd (named.trans (targets rule listed target given)) (waiting other listed') }
  obtain ⟨t, t', registered, registered', -, applies⟩ := agree_in_either_order (Build.filed_readRegistry parsed)
    (Build.indexed_readRegistry parsed) basic_foo basic_bind disjoint
  have same := registered.symm.trans (registerAll_pair basic_foo basic_bind)
  cases same
  rcases applies settled with ⟨applied, applied', agree⟩ | ⟨e, -, failed, -⟩
  · refine ⟨_, t', registered, registered', applied, applied', agree, fun name rule found named => ?_⟩
    rw [agree.rules] at found
    have absent : ∀ rules : List Rule, (∀ rule ∈ rules, "glBindFoo" ∉ rule.effect.targets) →
        ¬ Reaches rules registry "glBindFoo" := by
      intro rules none reached
      cases reached with
      | held member => exact absurd member (by decide)
      | given listed _ given => exact none _ listed given
    rcases agree.heeded name rule found with ⟨-, reached⟩ | ⟨-, reached⟩
    · exact absent _ (by decide) (named ▸ reached)
    · exact absent _ (by decide) (named ▸ reached)
  · rw [applied_absent] at failed
    cases failed

/-- Rules for different functions do not come to the same in either order: the rule for the new name finds the function only
behind the rule that gives the name. -/
theorem order_matters : foo.Basic registry ∧ target.Basic registry ∧
    (∀ rule ∈ foo.contents registry, ∀ other ∈ target.contents registry, rule.function ≠ other.function) ∧
    ∃ t t', registerAll registry [foo, target] = .ok t ∧ registerAll registry [target, foo] = .ok t' ∧
      (t.apply registry).answer = .ok () ∧ (t'.apply registry).answer = .ok () ∧
      (t.apply registry).state.2.functions ≠ (t'.apply registry).state.2.functions ∧
      ((t.apply registry).state.1.rulesOf "glGenFoo").length = 2 ∧ ((t'.apply registry).state.1.rulesOf "glGenFoo").length = 1 := by
  have basic_target : target.Basic registry := basic_free trivial
  have disjoint : ∀ rule ∈ foo.contents registry, ∀ other ∈ target.contents registry, rule.function ≠ other.function := by
    intro rule member other member'
    rw [List.mem_singleton.mp member, List.mem_singleton.mp member']
    decide
  refine ⟨basic_foo, basic_target, disjoint, together foo target registry, together target foo registry,
    registerAll_pair basic_foo basic_target, registerAll_pair basic_target basic_foo, ?_⟩
  decide +kernel

end FooHeader

end CommandStream
