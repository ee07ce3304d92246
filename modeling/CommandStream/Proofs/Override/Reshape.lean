import CommandStream.Override.Rule
import CommandStream.Proofs.Registry.Filed

/-!
# What rules make of a function

The effect of a rule on a registry is that of a partial function on the function at one place. The
registry decides only whether a new name is free; everything else depends on the function alone.
-/

namespace CommandStream
open Registry

/-- A function after an edit that succeeds on it. -/
def Edit.reshape? (e : Edit) (start : String) (f : Function) : Option Function :=
  match e with
  | .returnType type => some { f with type := { f.type with returnType := type } }
  | .rename name => f.renamed? start name
  | .assignName name => (shortName? name start).map fun short => { f with name, shortName := short }
  | .access label => some { f with access := label }
  | .removeArgument index => (f.removeArgument index).toOption
  | .addArgument type name => some (f.withArguments (f.type.arguments ++ [{ type, name, isEnum := false }]))
  | .argumentType index type => (f.changeArgument index fun a => { a with type }).toOption
  | .argumentName index name => (f.changeArgument index fun a => { a with name }).toOption
  | .argumentEnum index isEnum => (f.changeArgument index fun a => { a with isEnum }).toOption
  | .expectArguments count => if f.type.arguments.length = count then some f else none

/-- An edit that keeps functions under their own names. -/
def Edit.Filing : Edit → Prop
  | .assignName _ => False
  | _ => True

namespace Effect

/-- A function after an effect that succeeds on it. -/
def reshape? (effect : Effect) (start : String) (f : Function) : Option Function :=
  match effect with
  | .none => some f
  | .retype type names indices native =>
    some (f.withArguments (retypeFrom type (selects names indices native) 0 f.type.arguments))
  | .generate kind name kept =>
    (f.renamed? start name).map fun g => returningHandle kind (g.withArguments (keepFirst kept g.type.arguments))
  | .create kind => kind.map fun kind => returningHandle kind f
  | .delete kind argument name =>
    (match name with
      | some name => if name.isEmpty then some f else f.renamed? start name
      | Option.none => some f).map fun g : Function =>
        g.withArguments [{ type := kind.handleType, name := argument, isEnum := false }]
  | .custom edits _ _ => edits.foldlM (fun f e => e.reshape? start f) f

/-- An effect that keeps functions under their own names. -/
def Filing : Effect → Prop
  | .custom edits _ _ => ∀ e ∈ edits, e.Filing
  | _ => True

end Effect

/-- The renamings of an effect, or all edits of one that is made of edits. -/
def Effect.edits : Effect → List Edit
  | .generate _ name _ => [.rename name]
  | .delete _ _ (some name) => if name.isEmpty then [] else [.rename name]
  | .custom edits _ _ => edits
  | _ => []

/-- A function after rules that all succeed on it. -/
def Function.reshapeAll? (start : String) (rules : List Rule) (f : Function) : Option Function :=
  rules.foldlM (fun f rule => rule.effect.reshape? start f) f

/-! ## Reshaping the function at a place -/

theorem name_of_changeArgument {f g : Function} {index : Int} {change : Argument → Argument}
    (changed : f.changeArgument index change = .ok g) : g.name = f.name := by
  unfold Function.changeArgument at changed
  split at changed
  · cases changed
    rfl
  · cases changed

theorem name_of_removeArgument {f g : Function} {index : Int} (removed : f.removeArgument index = .ok g) :
    g.name = f.name := by
  unfold Function.removeArgument at removed
  split at removed
  · cases removed
    rfl
  · cases removed

/-- What is known of a registry with a function at a place, and of a registry to which reshaping that function leads. It is
known of all changes that keep the name, and of those new names that are permitted. -/
structure Reshaping (place : Nat) (permits : Edit → Prop) (holds : Registry → Function → Prop)
    (leads : Registry → Registry → Function → Prop) : Prop where
  functionAt : ∀ {r f}, holds r f → r.functionAt? place = some f
  self : ∀ {r f}, holds r f → leads r r f
  start : ∀ {r r' g}, leads r r' g → r'.start = r.start
  next : ∀ {r r' f g}, leads r r' g → holds r f → holds r' g
  trans : ∀ {r r' r'' g h}, leads r r' g → leads r' r'' h → leads r r'' h
  modifyAt : ∀ {r f} (change : Function → Function), holds r f → (change f).name = f.name →
    leads r (r.modifyAt place change) (change f)
  rename : ∀ {r f name}, permits (.rename name) → holds r f → (r.rename place name).answer = .ok () →
    ∃ g, f.renamed? r.start name = some g ∧ leads r (r.rename place name).state g
  assignName : ∀ {r f name}, permits (.assignName name) → holds r f → (r.assignName place name).answer = .ok () →
    ∃ g, (Edit.assignName name).reshape? r.start f = some g ∧ leads r (r.assignName place name).state g

namespace Reshaping

variable {place : Nat} {permits : Edit → Prop} {holds : Registry → Function → Prop}
  {leads : Registry → Registry → Function → Prop} (reshaping : Reshaping place permits holds leads)
  {r : Registry} {f : Function}
include reshaping

/-- Steps that each reshape the function reshape it as a chain. -/
theorem runAll {ε β : Type} {step : Registry → β → Outcome Registry ε Unit} (shape? : String → Function → β → Option Function)
    {items : List β} (each : ∀ item ∈ items, ∀ r f, holds r f → (step r item).answer = .ok () →
      ∃ g, shape? r.start f item = some g ∧ leads r (step r item).state g)
    (known : holds r f) (ran : (Outcome.runAll step r items).answer = .ok ()) :
    ∃ g, items.foldlM (shape? r.start) f = some g ∧ leads r (Outcome.runAll step r items).state g := by
  induction items generalizing r f with
  | nil => exact ⟨f, rfl, reshaping.self known⟩
  | cons item rest ih =>
    obtain ⟨r₁, _, first, chain⟩ := Outcome.andThen_ok ran
    obtain ⟨g, reshaped, led⟩ := each item List.mem_cons_self r f known (congrArg Outcome.answer first)
    have state : (step r item).state = r₁ := congrArg Outcome.state first
    rw [state] at led
    rw [Outcome.runAll, chain] at ran ⊢
    obtain ⟨h, others, last⟩ := ih (fun item member => each item (List.mem_cons_of_mem _ member)) (reshaping.next led known) ran
    refine ⟨h, ?_, reshaping.trans led last⟩
    rw [reshaping.start led] at others
    rw [List.foldlM_cons, reshaped]
    exact others

theorem tryModifyAt (known : holds r f) {change : Function → Except EditError Function}
    (same : ∀ g, change f = .ok g → g.name = f.name) (changed : (r.tryModifyAt place change).answer = .ok ()) :
    ∃ g, (change f).toOption = some g ∧ leads r (r.tryModifyAt place change).state g := by
  unfold Registry.tryModifyAt at changed ⊢
  rw [reshaping.functionAt known] at changed ⊢
  cases made : change f with
  | error e =>
    simp only [Option.map_some, made] at changed
    cases changed
  | ok g =>
    simp only [Option.map_some, made]
    exact ⟨g, rfl, reshaping.modifyAt (fun _ => g) known (same g made)⟩

/-- An edit that succeeds. -/
theorem edit (known : holds r f) {e : Edit} (permitted : permits e) (edited : (r.edit place e).answer = .ok ()) :
    ∃ g, e.reshape? r.start f = some g ∧ leads r (r.edit place e).state g := by
  cases e with
  | returnType type =>
    exact ⟨_, rfl, reshaping.modifyAt (fun f => { f with type := { f.type with returnType := type } }) known rfl⟩
  | rename name => exact reshaping.rename permitted known (Outcome.within_ok edited)
  | assignName name => exact reshaping.assignName permitted known (Outcome.within_ok edited)
  | access label => exact ⟨_, rfl, reshaping.modifyAt (fun f => { f with access := label }) known rfl⟩
  | removeArgument index => exact reshaping.tryModifyAt known (fun g => name_of_removeArgument) edited
  | addArgument type name =>
    exact ⟨_, rfl, reshaping.modifyAt
      (fun f => f.withArguments (f.type.arguments ++ [(⟨type, name, false⟩ : Argument)])) known rfl⟩
  | argumentType index type => exact reshaping.tryModifyAt known (fun g => name_of_changeArgument) edited
  | argumentName index name => exact reshaping.tryModifyAt known (fun g => name_of_changeArgument) edited
  | argumentEnum index isEnum => exact reshaping.tryModifyAt known (fun g => name_of_changeArgument) edited
  | expectArguments count =>
    have same : ∀ g, (if f.type.arguments.length = count then .ok f else .error (EditError.unexpectedSignature f)) =
        Except.ok g → g.name = f.name := by
      intro g kept
      split at kept
      · cases kept
        rfl
      · cases kept
    obtain ⟨g, kept, led⟩ := reshaping.tryModifyAt known same edited
    refine ⟨g, ?_, led⟩
    rw [← kept, Edit.reshape?]
    split <;> rfl

theorem renamed (known : holds r f) {name : String} (permitted : permits (.rename name))
    (ran : (Effect.renamed r place name).answer = .ok ()) :
    ∃ g, f.renamed? r.start name = some g ∧ leads r (Effect.renamed r place name).state g :=
  reshaping.rename permitted known (Outcome.within_ok ran)

/-- An effect that succeeds. -/
theorem mutate (known : holds r f) {effect : Effect} (permitted : ∀ e ∈ effect.edits, permits e)
    (mutated : (effect.mutate r place).answer = .ok ()) :
    ∃ g, effect.reshape? r.start f = some g ∧ leads r (effect.mutate r place).state g := by
  cases effect with
  | none => exact ⟨f, rfl, reshaping.self known⟩
  | retype type names indices native =>
    exact ⟨_, rfl, reshaping.modifyAt (fun f =>
      f.withArguments (Effect.retypeFrom type (Effect.selects names indices native) 0 f.type.arguments)) known rfl⟩
  | generate kind name kept =>
    obtain ⟨r₁, _, first, chain⟩ := Outcome.andThen_ok mutated
    obtain ⟨g, moved, led⟩ := reshaping.renamed known (permitted _ List.mem_cons_self) (congrArg Outcome.answer first)
    rw [first] at led
    have known₁ := reshaping.next led known
    have cut := reshaping.modifyAt (fun f => f.withArguments (Effect.keepFirst kept f.type.arguments)) known₁ rfl
    have returning := reshaping.modifyAt (Effect.returningHandle kind) (reshaping.next cut known₁) rfl
    rw [Effect.mutate, chain]
    refine ⟨_, ?_, reshaping.trans (reshaping.trans led cut) returning⟩
    rw [Effect.reshape?, moved]
    rfl
  | create kind =>
    cases kind with
    | none => cases mutated
    | some kind => exact ⟨_, rfl, reshaping.modifyAt (Effect.returningHandle kind) known rfl⟩
  | delete kind argument name =>
    obtain ⟨r₁, _, first, chain⟩ := Outcome.andThen_ok mutated
    have moved : ∃ g, (match name with
        | some name => if name.isEmpty then some f else f.renamed? r.start name
        | Option.none => some f) = some g ∧ leads r r₁ g := by
      cases name with
      | none =>
        cases first
        exact ⟨f, rfl, reshaping.self known⟩
      | some name =>
        dsimp only [Effect.edits] at permitted first ⊢
        by_cases empty : name.isEmpty = true
        · rw [if_pos empty] at first ⊢
          cases first
          exact ⟨f, rfl, reshaping.self known⟩
        · rw [if_neg empty] at permitted first ⊢
          obtain ⟨g, moved, led⟩ := reshaping.renamed known (permitted _ List.mem_cons_self) (congrArg Outcome.answer first)
          rw [first] at led
          exact ⟨g, moved, led⟩
    obtain ⟨g, moved, led⟩ := moved
    have cut := reshaping.modifyAt (fun f => f.withArguments [{ type := kind.handleType, name := argument, isEnum := false }])
      (reshaping.next led known) rfl
    have whole : (Effect.delete kind argument name).mutate r place = _ := chain
    rw [whole]
    refine ⟨_, ?_, reshaping.trans led cut⟩
    simp only [Effect.reshape?]
    rw [moved]
    rfl
  | custom edits write read =>
    have edited : (r.editAll place edits).answer = .ok () := Outcome.within_ok mutated
    exact reshaping.runAll (fun start f (e : Edit) => e.reshape? start f)
      (fun e member r f known => reshaping.edit known (permitted e member)) known edited

/-- Rules that all succeed. -/
theorem mutateAll (known : holds r f) {rules : List Rule} (permitted : ∀ rule ∈ rules, ∀ e ∈ rule.effect.edits, permits e)
    (ran : (Outcome.runAll (fun r (rule : Rule) => rule.effect.mutate r place) r rules).answer = .ok ()) :
    ∃ g, f.reshapeAll? r.start rules = some g ∧
      leads r (Outcome.runAll (fun r (rule : Rule) => rule.effect.mutate r place) r rules).state g :=
  reshaping.runAll (fun start f (rule : Rule) => rule.effect.reshape? start f)
    (fun rule member _ _ known => reshaping.mutate known (permitted rule member)) known ran

end Reshaping

/-! ## Functions under their own names -/

/-- A registry with functions under their own names stays such a registry, and only the function at the place changes. -/
theorem reshaping_filed (place : Nat) : Reshaping place Edit.Filing
    (fun r f => r.Filed ∧ ∃ key, r.functions[place]? = some (key, f)) (fun r r' g => Replaced r r' place g) where
  functionAt known := functionAt?_eq known.2.choose_spec
  self known := replaced_self known.1 known.2.choose_spec
  start led := led.start
  next led known := ⟨led.filed, _, led.stands known.2.choose_spec⟩
  trans first last := first.trans last
  modifyAt change known same := replaced_modifyAt known.1 known.2.choose_spec change same
  rename _ known ran := rename_ok known.1 known.2.choose_spec ran
  assignName permitted := permitted.elim

theorem Effect.Filing.edits {effect : Effect} (filing : effect.Filing) : ∀ e ∈ effect.edits, e.Filing := by
  cases effect with
  | none => exact fun _ member => absurd member List.not_mem_nil
  | retype => exact fun _ member => absurd member List.not_mem_nil
  | create => exact fun _ member => absurd member List.not_mem_nil
  | generate =>
    intro e member
    rw [List.mem_singleton.mp member]
    trivial
  | delete kind argument name =>
    cases name with
    | none => exact fun _ member => absurd member List.not_mem_nil
    | some name =>
      intro e member
      rw [Effect.edits] at member
      split at member
      · cases member
      · rw [List.mem_singleton.mp member]
        trivial
  | custom edits write read => exact filing

variable {r : Registry} {place : Nat} {key : String} {f : Function} (filed : r.Filed)
  (stands : r.functions[place]? = some (key, f))
include filed stands

theorem Registry.edit_ok {e : Edit} (filing : e.Filing) (edited : (r.edit place e).answer = .ok ()) :
    ∃ g, e.reshape? r.start f = some g ∧ Replaced r (r.edit place e).state place g :=
  (reshaping_filed place).edit ⟨filed, key, stands⟩ filing edited

theorem Effect.mutate_ok {effect : Effect} (filing : effect.Filing) (mutated : (effect.mutate r place).answer = .ok ()) :
    ∃ g, effect.reshape? r.start f = some g ∧ Replaced r (effect.mutate r place).state place g :=
  (reshaping_filed place).mutate ⟨filed, key, stands⟩ filing.edits mutated

theorem Registry.mutateAll_ok {rules : List Rule} (filing : ∀ rule ∈ rules, rule.effect.Filing)
    (ran : (Outcome.runAll (fun r (rule : Rule) => rule.effect.mutate r place) r rules).answer = .ok ()) :
    ∃ g, f.reshapeAll? r.start rules = some g ∧
      Replaced r (Outcome.runAll (fun r (rule : Rule) => rule.effect.mutate r place) r rules).state place g :=
  (reshaping_filed place).mutateAll ⟨filed, key, stands⟩ (fun rule member => (filing rule member).edits) ran

end CommandStream
