import CommandStream.Proofs.Override.Registering
import CommandStream.Proofs.Override.Untouched

/-!
# Objects of registered kinds

A module registers its own kind before its rules, and its rules make objects of that kind. A kind is never taken back,
and applying the overrides files the rules anew without adding any, so an emitter has a table for whatever its commands
make.
-/

namespace CommandStream

/-- A rule that makes objects of some kinds only, if any. -/
def Rule.MakesAmong (kinds : List ResourceKind) (rule : Rule) : Prop :=
  ∀ kind ∈ rule.creates?, kind ∈ kinds

theorem Rule.MakesAmong.mono {kinds others : List ResourceKind} {rule : Rule} (makes : rule.MakesAmong kinds)
    (more : kinds ⊆ others) : rule.MakesAmong others :=
  fun kind creates => more (makes kind creates)

theorem Rule.MakesAmong.nothing {kinds : List ResourceKind} {rule : Rule} (none_made : rule.creates? = none) :
    rule.MakesAmong kinds := by
  intro kind creates
  rw [none_made] at creates
  cases creates

/-- An emitter whose rules make objects of the kinds of its overrides only, so that there is a table for each. -/
def Emitter.ObjectsKnown (e : Emitter) : Prop :=
  ∀ f ∈ e.functions, ∀ rule ∈ e.overrides.rulesOf f.name, rule.MakesAmong e.overrides.kinds

/-- A module whose own rules make objects of its own kind only, as those do that are registered for it. -/
def OverrideModule.MakesOwn (m : OverrideModule) : Prop :=
  ∀ rule, .rule rule ∈ m.steps → rule.MakesAmong m.owner.kind?.toList

namespace OverrideTracker

/-- All rules that are filed make objects of some kinds only. -/
def MakeAmong (kinds : List ResourceKind) (filed : Keyed (List Rule)) : Prop :=
  ∀ entry ∈ filed, ∀ rule ∈ entry.2, rule.MakesAmong kinds

variable {kinds : List ResourceKind} {filed : Keyed (List Rule)} {t t' : OverrideTracker} {r : Registry}

theorem MakeAmong.rulesIn (among : MakeAmong kinds filed) {name : String} {rule : Rule}
    (member : rule ∈ rulesIn filed name) : rule.MakesAmong kinds := by
  unfold OverrideTracker.rulesIn at member
  cases found : Keyed.find? filed name with
  | none => simp [found] at member
  | some rules =>
    rw [found] at member
    exact among _ (mem_of_lookup found) rule member

theorem MakeAmong.fileUnder (among : MakeAmong kinds filed) (name : String) {rules : List Rule}
    (each : ∀ rule ∈ rules, rule.MakesAmong kinds) : MakeAmong kinds (fileUnder filed name rules) := by
  intro entry member rule listed
  rcases mem_put member with rfl | before
  · rcases List.mem_append.mp listed with before | new
    · exact among.rulesIn before
    · exact each rule new
  · exact among entry before rule listed

/-! ## Applying -/

/-- Where the rules of an entry are applied, they are all that is filed. -/
theorem MakeAmong.applyRules {x : Application} {entry : String × List Rule} (among : MakeAmong kinds x.filed)
    (each : ∀ rule ∈ entry.2, rule.MakesAmong kinds) : MakeAmong kinds (x.applyRules entry).state.filed := by
  unfold Application.applyRules
  split
  · exact among
  · rename_i place _
    generalize Outcome.runAll (fun r (rule : Rule) => rule.effect.mutate r place) x.registry entry.2 = mutated
    obtain ⟨registry, _, rfl⟩ | ⟨registry, e, rfl⟩ := mutated.done_or_failed
    · cases named : registry.functionAt? place with
      | none =>
        simp only [Outcome.within, Outcome.andThen, Outcome.done, Except.mapError, named]
        exact among
      | some f =>
        simp only [Outcome.within, Outcome.andThen, Outcome.done, Except.mapError, named]
        exact among.fileUnder f.name each
    · exact among

theorem MakeAmong.runAll {entries : Keyed (List Rule)} (each : MakeAmong kinds entries) {x : Application}
    (among : MakeAmong kinds x.filed) : MakeAmong kinds (Outcome.runAll Application.applyRules x entries).state.filed := by
  induction entries generalizing x with
  | nil => exact among
  | cons entry rest ih =>
    have first := among.applyRules (each entry List.mem_cons_self)
    rw [Outcome.runAll]
    obtain ⟨y, _, done⟩ | ⟨y, e, failed⟩ := (x.applyRules entry).done_or_failed
    · rw [done] at first ⊢
      exact ih (fun other member => each other (List.mem_cons_of_mem _ member)) first
    · rw [failed] at first ⊢
      exact first

/-- Applying overrides adds no rule and takes back no kind. -/
theorem MakeAmong.apply (among : MakeAmong t.kinds t.rules) (applied : (t.apply r).answer = .ok ()) :
    MakeAmong (t.apply r).state.1.kinds (t.apply r).state.1.rules := by
  obtain ⟨x, ran, -, whole⟩ := apply_done applied
  have nothing : MakeAmong t.kinds [] := fun entry member => nomatch member
  have filed := among.runAll (x := ⟨r.freeze, [], t.log⟩) nothing
  rw [ran] at filed
  rw [whole]
  exact filed

/-! ## Registering -/

theorem MakeAmong.mono {others : List ResourceKind} (among : MakeAmong kinds filed) (more : kinds ⊆ others) :
    MakeAmong others filed :=
  fun entry member rule listed => (among entry member rule listed).mono more

theorem MakeAmong.addRules (among : MakeAmong kinds t.rules) {rules : List Rule}
    (each : ∀ rule ∈ rules, rule.MakesAmong kinds) : MakeAmong kinds (t.addRules rules).rules := by
  induction rules generalizing t with
  | nil => exact among
  | cons rule rest ih =>
    have first : MakeAmong kinds (t.addRule rule).rules := by
      refine among.fileUnder rule.function fun other member => ?_
      rw [List.mem_singleton.mp member]
      exact each rule List.mem_cons_self
    exact ih first fun other member => each other (List.mem_cons_of_mem _ member)

end OverrideTracker

namespace OverrideModule

variable {m : OverrideModule} {modules : List OverrideModule} {r : Registry} {t t' : OverrideTracker}

theorem withKind_ok {next : ResourceKind → Except OverrideError OverrideTracker} (taken : m.withKind next = .ok t) :
    ∃ kind, m.owner.kind? = some kind ∧ next kind = .ok t := by
  unfold withKind at taken
  split at taken
  · rename_i kind owner
    exact ⟨kind, owner, taken⟩
  · cases taken

/-- A retyped argument is no new object. -/
theorem makesAmong_retypeRules (m : OverrideModule) (kind : ResourceKind) (r : Registry) (kinds : List ResourceKind) :
    ∀ rule ∈ m.retypeRules kind r, rule.MakesAmong kinds := by
  intro rule member made creates
  obtain ⟨f, -, rfl⟩ := List.mem_map.mp member
  cases creates

theorem makesAmong_generate {kind : ResourceKind} (owner : m.owner.kind? = some kind) (function name : String)
    (kept : Int) : Rule.MakesAmong m.owner.kind?.toList ⟨function, .generate kind name kept⟩ := by
  intro made creates
  rw [owner]
  exact Option.mem_toList.mpr creates

theorem standard_ok {kind : ResourceKind} (owner : m.owner.kind? = some kind) (taken : m.standard kind r t = .ok t') :
    ∃ rules, t' = t.addRules rules ∧ ∀ rule ∈ rules, rule.MakesAmong m.owner.kind?.toList := by
  unfold standard at taken
  split at taken
  · cases taken
  · rename_i argument _ _
    cases taken
    refine ⟨⟨"glCreate" ++ kind.name ++ "s", .generate kind ("glCreate" ++ kind.name) 0⟩ ::
      ⟨"glGen" ++ kind.name ++ "s", .generate kind ("glGen" ++ kind.name) 0⟩ ::
      ⟨"glDelete" ++ kind.name ++ "s", .delete kind argument (some ("glDelete" ++ kind.name))⟩ ::
      m.retypeRules kind r, m.retypeAll_eq kind r _, ?_⟩
    rw [List.forall_mem_cons, List.forall_mem_cons, List.forall_mem_cons]
    exact ⟨makesAmong_generate owner _ _ _, makesAmong_generate owner _ _ _, .nothing rfl,
      m.makesAmong_retypeRules kind r _⟩

/-- A step registers rules that make objects of the kind of the module only, or no rule at all. -/
theorem take_cases (own : m.MakesOwn) {step : Registration} (listed : step ∈ m.steps)
    (taken : m.take r t step = .ok t') :
    (∃ rules, t' = t.addRules rules ∧ ∀ rule ∈ rules, rule.MakesAmong m.owner.kind?.toList) ∨
      (t'.rules = t.rules ∧ t'.kinds = t.kinds) := by
  have single : ∀ {rule : Rule}, t' = t.addRule rule → rule.MakesAmong m.owner.kind?.toList →
      ∃ rules, t' = t.addRules rules ∧ ∀ rule ∈ rules, rule.MakesAmong m.owner.kind?.toList := by
    rintro rule rfl makes
    exact ⟨[rule], rfl, List.forall_mem_singleton.mpr makes⟩
  cases step with
  | rule only =>
    cases taken
    exact .inl (single rfl (own only listed))
  | generate function name kept =>
    obtain ⟨kind, owner, taken⟩ := withKind_ok taken
    cases taken
    exact .inl (single rfl (makesAmong_generate owner function name kept))
  | create function =>
    cases taken
    exact .inl (single rfl fun _ creates => Option.mem_toList.mpr creates)
  | delete function argument name =>
    obtain ⟨kind, -, taken⟩ := withKind_ok taken
    cases taken
    exact .inl (single rfl (.nothing rfl))
  | standard =>
    obtain ⟨kind, owner, taken⟩ := withKind_ok taken
    exact .inl (standard_ok owner taken)
  | retypeAll =>
    obtain ⟨kind, -, taken⟩ := withKind_ok taken
    cases taken
    exact .inl ⟨_, m.retypeAll_eq kind r t, m.makesAmong_retypeRules kind r _⟩
  | read type patterns =>
    cases taken
    obtain ⟨log, same⟩ := t.setRead_eq type (.lines patterns)
    right
    rw [same]
    exact ⟨rfl, rfl⟩
  | write type patterns =>
    cases taken
    obtain ⟨log, same⟩ := t.setWrite_eq type (.lines patterns)
    right
    rw [same]
    exact ⟨rfl, rfl⟩
  | retypeFirst function =>
    obtain ⟨kind, -, taken⟩ := withKind_ok taken
    cases taken
    exact .inl (single rfl (.nothing rfl))
  | shaderSource =>
    obtain ⟨kind, -, taken⟩ := withKind_ok taken
    cases taken
    exact .inl (single rfl (.nothing rfl))

/-- A tracker whose rules make objects of its own kinds only. -/
def Covered (t : OverrideTracker) : Prop :=
  OverrideTracker.MakeAmong t.kinds t.rules

theorem covered_take (own : m.MakesOwn) {step : Registration} (listed : step ∈ m.steps) (covered : Covered t)
    (known : m.owner.kind?.toList ⊆ t.kinds) (taken : m.take r t step = .ok t') :
    Covered t' ∧ m.owner.kind?.toList ⊆ t'.kinds := by
  unfold Covered at covered ⊢
  obtain ⟨rules, rfl, makes⟩ | ⟨rules, kinds⟩ := take_cases own listed taken
  · rw [OverrideTracker.kinds_addRules]
    exact ⟨covered.addRules fun rule member => (makes rule member).mono known, known⟩
  · rw [rules, kinds]
    exact ⟨covered, known⟩

theorem covered_addOwner (covered : Covered t) (added : m.addOwner t = .ok t') :
    Covered t' ∧ m.owner.kind?.toList ⊆ t'.kinds := by
  unfold addOwner at added
  split at added
  · rename_i owner
    cases added
    rw [owner]
    exact ⟨covered, List.nil_subset _⟩
  · cases added
  · rename_i kind owner
    have owned : t.own kind = t' := Except.ok.inj added
    obtain ⟨log, same⟩ := t.own_eq kind
    subst owned
    rw [owner, same]
    split
    · rename_i listed
      exact ⟨covered, List.cons_subset.mpr ⟨List.contains_iff_mem.mp listed, List.nil_subset _⟩⟩
    · exact ⟨covered.mono (List.subset_append_left _ _), List.subset_append_right _ _⟩

theorem covered_register (own : m.MakesOwn) (covered : Covered t) (registered : m.register r t = .ok t') :
    Covered t' := by
  obtain ⟨start, added, taken⟩ := bind_ok registered
  have whole := foldlM_keeps (fun step member s s' (kept : Covered s ∧ m.owner.kind?.toList ⊆ s.kinds) =>
    covered_take own member kept.1 kept.2) (covered_addOwner covered added) taken
  exact whole.1

/-- Modules whose rules make objects of their own kinds leave a tracker that knows all kinds of objects it makes. -/
theorem covered_registerAll (own : ∀ m ∈ modules, m.MakesOwn) (registered : registerAll r modules = .ok t) :
    Covered t := by
  have nothing : Covered .empty := fun entry member => nomatch member
  exact foldlM_keeps (fun m member _ _ covered => covered_register (own m member) covered) nothing registered

/-- Every emitter that is built with such modules has a table for whatever its commands make. -/
theorem objectsKnown_of_build {log : Log} {space : String} {e : Emitter} (own : ∀ m ∈ modules, m.MakesOwn)
    (built : (Build.emitter log r modules space).answer = .ok e) : e.ObjectsKnown := by
  obtain ⟨t, registered, applied, registry, overrides⟩ := Build.tracker_of_emitter built
  intro f member rule listed
  rw [Emitter.functions, registry] at member
  rw [overrides] at listed ⊢
  exact (OverrideTracker.MakeAmong.apply (covered_registerAll own registered) applied).rulesIn listed

/-- The built-in modules register nothing but for their own kinds. -/
theorem makesOwn_builtIns : ∀ m ∈ builtIns, m.MakesOwn := by
  intro m member rule listed
  simp only [builtIns, List.mem_cons, List.not_mem_nil, or_false] at member
  rcases member with rfl | rfl | rfl | rfl | rfl | rfl <;>
    simp [buffer, framebuffer, program, shader, texture, vertexArray, builtIn] at listed

end OverrideModule

end CommandStream
