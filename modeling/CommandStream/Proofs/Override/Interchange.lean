import CommandStream.Proofs.Override.Feasible
import CommandStream.Proofs.Override.Table

/-!
# The built-in modules in another order

The built-in rules for a function make the same of it in every order, but for marks of arguments that are then never
looked at. So with the modules in another order the overrides apply to the same registries, and leave alike functions.
-/

namespace CommandStream
open OverrideModule

/-! ## Functions alike -/

/-- What follows the table for a function is alike. -/
theorem Function.FollowsTable.alike {f : Function} {start : String} {one other : Option Function}
    (first : f.FollowsTable start one) (second : f.FollowsTable start other) :
    one.map Function.unmarked = other.map Function.unmarked := by
  cases first with
  | exactly named =>
    cases second with
    | exactly => rfl
    | text same => exact absurd same named
    | refused same => exact absurd same named
  | text named four same =>
    cases second with
    | exactly different => exact absurd named different
    | text _ _ same' => exact congrArg some (same.trans same'.symm)
    | refused _ unfit => exact absurd four unfit
  | refused named unfit =>
    cases second with
    | exactly different => exact absurd named different
    | text _ four => exact absurd four unfit
    | refused => rfl

namespace Registry

/-- Whether arguments can be emitted does not depend on their marks. -/
theorem argumentFault?_unmarked (name : String) (seen : List String) (arguments : List Argument) :
    (argumentFault? name seen (arguments.map fun a => { a with isEnum := false })).isSome =
      (argumentFault? name seen arguments).isSome := by
  induction arguments generalizing seen with
  | nil => rfl
  | cons a rest ih =>
    have same : wellFormed { a with isEnum := false } = wellFormed a := rfl
    rw [List.map_cons, argumentFault?, argumentFault?, same]
    split
    · rfl
    split
    · rfl
    · exact ih (a.name :: seen)

/-- Whether functions can be emitted does not depend on the marks of their arguments. -/
theorem fault?_unmarked (seen : Keyed String) (functions : List Function) :
    (fault? seen ((functions.map Function.unmarked).map fun g => (g.name, g))).isSome =
      (fault? seen (functions.map fun g => (g.name, g))).isSome := by
  induction functions generalizing seen with
  | nil => rfl
  | cons g rest ih =>
    have arguments := argumentFault?_unmarked g.name [] g.type.arguments
    show (fault? seen ((g.name, g.unmarked) :: (rest.map Function.unmarked).map fun g => (g.name, g))).isSome =
      (fault? seen ((g.name, g) :: rest.map fun g => (g.name, g))).isSome
    have own : ¬ g.name ≠ g.name := fun other => other rfl
    have short : g.unmarked.shortName = g.shortName := rfl
    have returns : g.unmarked.type.returnType = g.type.returnType := rfl
    rw [fault?, fault?, if_neg own, if_neg (show ¬ g.unmarked.name ≠ g.name from own), short, returns]
    split
    · rfl
    split
    · rfl
    cases malformed : argumentFault? g.name [] g.type.arguments with
    | none =>
      rw [malformed, Option.isSome_none, Option.isSome_eq_false_iff, Option.isNone_iff_eq_none] at arguments
      rw [show argumentFault? g.name [] g.unmarked.type.arguments = none from arguments]
      exact ih _
    | some fault =>
      rw [malformed] at arguments
      obtain ⟨fault', malformed'⟩ := Option.isSome_iff_exists.mp arguments
      rw [show argumentFault? g.name [] g.unmarked.type.arguments = some fault' from malformed']
      rfl

theorem fault?_eq_none_of_alike {functions others : List Function}
    (alike : functions.map Function.unmarked = others.map Function.unmarked) :
    fault? [] (functions.map fun g => (g.name, g)) = none ↔ fault? [] (others.map fun g => (g.name, g)) = none := by
  rw [← Option.not_isSome_iff_eq_none, ← Option.not_isSome_iff_eq_none, ← fault?_unmarked [] functions,
    ← fault?_unmarked [] others, alike]

end Registry

/-! ## Rules that can be applied in any order -/

/-- No built-in rule fails unless nothing can be emitted. -/
theorem proper_of_builtIn {r : Registry} {rule : Rule} (member : rule ∈ builtInRules r) : rule.effect.Proper := by
  rcases mem_builtInRules member with principal | retyping | rfl
  · obtain ⟨change, -, makes⟩ := makes_of_special rule (List.mem_append_left _ principal)
    cases makes with
    | generated effect type named new => exact effect ▸ named
    | returning effect type => exact effect ▸ rfl
    | deleting effect type special new => exact effect ▸ trivial
    | singleText same => exact same ▸ ⟨glKind "Shader" 3, rfl⟩
    | bound effect special => exact effect ▸ trivial
  · obtain ⟨f, -, type, names, rfl⟩ := effect_of_retyping retyping
    trivial
  · trivial

/-- The built-in rules for one function give one name at most. -/
theorem single_of_builtIn {r : Registry} {rules : List Rule} {key : String}
    (own : ∀ rule ∈ rules, rule ∈ builtInRules r ∧ rule.function = key) :
    ∃ name, ∀ rule ∈ rules, ∀ target ∈ rule.effect.targets, target = name := by
  have one : ∀ p ∈ principals, ∀ name ∈ p.effect.targets, ∀ target ∈ p.effect.targets, target = name := by decide
  by_cases renames : ∃ rule ∈ rules, ∃ name, name ∈ rule.effect.targets
  · obtain ⟨p, member, name, given⟩ := renames
    refine ⟨name, fun rule among target given' => ?_⟩
    have principal := principal_of_target (own p member).1 given
    obtain rfl : rule = p := List.inj_on_of_nodup_map nodup_principals (principal_of_target (own rule among).1 given') principal
      ((own rule among).2.trans (own p member).2.symm)
    exact one rule principal name given target given'
  · exact ⟨"", fun rule among target given => absurd ⟨rule, among, target, given⟩ renames⟩

section Shuffled

open OverrideTracker

variable {modules others : List OverrideModule} {r : Registry} (perm : modules.Perm builtIns) (filed : r.Filed)
include perm filed

theorem workable_of_perm (indexed : r.Indexed) : Workable (trackerOf modules r).rules r := by
  have own : ∀ entry ∈ (trackerOf modules r).rules, ∀ rule ∈ entry.2, rule ∈ builtInRules r ∧ rule.function = entry.1 := by
    intro entry member rule among
    obtain ⟨listed, named⟩ := mem_trackerOf member among
    exact ⟨(rules_of_perm perm r).mem_iff.mp listed, named⟩
  exact {
    toOrderly := orderly_of_perm perm filed
    indexed
    proper := fun entry member rule among => proper_of_builtIn (own entry member rule among).1
    single := fun entry member _ => single_of_builtIn (own entry member) }

theorem followsTable_of_reshaped? {entry : String × Function} (member : entry ∈ r.functions) :
    entry.2.FollowsTable r.start (reshaped? (trackerOf modules r).rules r entry) := by
  have listed : entry.2 ∈ Keyed.values r.functions := List.mem_map_of_mem member
  rw [reshaped?, filed.named entry member]
  exact followsTable_of_perm listed (rulesOf_of_perm perm entry.2.name) r.start

variable (perm' : others.Perm builtIns)
include perm'

theorem reshaped?_alike {entry : String × Function} (member : entry ∈ r.functions) :
    (reshaped? (trackerOf modules r).rules r entry).map Function.unmarked =
      (reshaped? (trackerOf others r).rules r entry).map Function.unmarked :=
  (followsTable_of_reshaped? perm filed member).alike (followsTable_of_reshaped? perm' filed member)

/-- Functions come out alike. -/
theorem reshaped_alike : (reshaped (trackerOf modules r).rules r).map Function.unmarked =
    (reshaped (trackerOf others r).rules r).map Function.unmarked := by
  rw [reshaped, reshaped, List.map_filterMap, List.map_filterMap]
  exact List.filterMap_congr fun entry member => reshaped?_alike perm filed perm' member

/-- Rules are compatible in every order or in none. -/
theorem compatible_of_perm (compatible : Compatible (trackerOf modules r).rules r) :
    Compatible (trackerOf others r).rules r := by
  constructor
  · intro entry member
    have suits := compatible.suits entry member
    rw [← Option.isSome_map (f := Function.unmarked)] at suits ⊢
    rw [← reshaped?_alike perm filed perm' member]
    exact suits
  · have names : ∀ functions : List Function, functions.map Function.name = (functions.map Function.unmarked).map Function.name :=
      fun functions => by rw [List.map_map]; rfl
    rw [names, ← reshaped_alike perm filed perm', ← names]
    exact compatible.distinct

/-- Where the overrides apply with the modules in one order, they apply in every other. -/
theorem applies_of_perm (indexed : r.Indexed) (applied : ((trackerOf modules r).apply r).answer = .ok ()) :
    ((trackerOf others r).apply r).answer = .ok () := by
  rcases apply_cases (workable_of_perm perm filed indexed) (owning_of_perm perm r).fresh with
    ⟨-, compatible, sound, -⟩ | ⟨e, failed, -⟩
  · rcases apply_cases (workable_of_perm perm' filed indexed) (owning_of_perm perm' r).fresh with ⟨ok, -⟩ | ⟨-, -, -, unfit⟩
    · exact ok
    · refine absurd ⟨compatible_of_perm perm filed perm' compatible, ?_⟩ unfit
      exact (Registry.fault?_eq_none_of_alike (reshaped_alike perm filed perm')).mp sound
  · rw [applied] at failed
    cases failed

end Shuffled

/-- Where the overrides do not apply, nothing can be emitted. -/
theorem unfit_of_perm {modules : List OverrideModule} {r : Registry} (perm : modules.Perm builtIns) (filed : r.Filed)
    (indexed : r.Indexed) {e : OverrideError} (failed : ((trackerOf modules r).apply r).answer = .error e) :
    e.unfit = true := by
  rcases OverrideTracker.apply_cases (workable_of_perm perm filed indexed) (owning_of_perm perm r).fresh with
    ⟨applied, -⟩ | ⟨e', failed', unfit, -⟩
  · rw [failed] at applied
    cases applied
  · rw [failed] at failed'
    cases failed'
    exact unfit

end CommandStream
