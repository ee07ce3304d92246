import CommandStream.Override.Tracker
import CommandStream.Proofs.Override.Reshape

/-!
# Applying overrides

Every function of a registry is reshaped by exactly the rules that were registered under its name, in
their order, and the tracker finds these rules under its new name. Rules may give new names as long as
no rules wait under these; a name under which rules wait without renaming anything does no harm either,
since a function that has the name keeps it.
-/

namespace CommandStream
open Registry

/-- The names that an edit may give. -/
def Edit.target? : Edit → Option String
  | .rename name => some name
  | .assignName name => some name
  | _ => none

/-- The names that an effect may give. -/
def Effect.targets : Effect → List String
  | .generate _ name _ => [name]
  | .delete _ _ (some name) => [name]
  | .custom edits _ _ => edits.filterMap Edit.target?
  | _ => []

/-! ## Names -/

theorem Edit.name_of_reshape? {e : Edit} {start : String} {f g : Function} (reshaped : e.reshape? start f = some g) :
    g.name = f.name ∨ some g.name = e.target? := by
  cases e with
  | returnType type =>
    cases reshaped
    exact .inl rfl
  | rename name => exact .inr (congrArg some (Function.name_of_renamed? reshaped))
  | assignName name =>
    obtain ⟨short, -, rfl⟩ := Option.map_eq_some_iff.mp reshaped
    exact .inr rfl
  | access label =>
    cases reshaped
    exact .inl rfl
  | removeArgument index => exact .inl (name_of_removeArgument (ok_of_toOption reshaped))
  | addArgument type name =>
    cases reshaped
    exact .inl rfl
  | argumentType index type => exact .inl (name_of_changeArgument (ok_of_toOption reshaped))
  | argumentName index name => exact .inl (name_of_changeArgument (ok_of_toOption reshaped))
  | argumentEnum index isEnum => exact .inl (name_of_changeArgument (ok_of_toOption reshaped))
  | expectArguments count =>
    simp only [reshape?] at reshaped
    split at reshaped
    · cases reshaped
      exact .inl rfl
    · cases reshaped

/-- A chain of steps gives the name it began with or one that a step may give. -/
theorem name_of_foldlM {α : Type} {step : Function → α → Option Function} {targets : α → List String}
    (each : ∀ item f g, step f item = some g → g.name = f.name ∨ g.name ∈ targets item) {items : List α} {f g : Function}
    (reached : items.foldlM step f = some g) : g.name = f.name ∨ ∃ item ∈ items, g.name ∈ targets item := by
  induction items generalizing f with
  | nil =>
    cases reached
    exact .inl rfl
  | cons item rest ih =>
    rw [List.foldlM_cons] at reached
    obtain ⟨h, first, reached⟩ := Option.bind_eq_some_iff.mp reached
    rcases ih reached with same | ⟨other, member, given⟩
    · rcases each item f h first with kept | given
      · exact .inl (same.trans kept)
      · exact .inr ⟨item, List.mem_cons_self, same ▸ given⟩
    · exact .inr ⟨other, List.mem_cons_of_mem _ member, given⟩

theorem Effect.name_of_reshape? {effect : Effect} {start : String} {f g : Function}
    (reshaped : effect.reshape? start f = some g) : g.name = f.name ∨ g.name ∈ effect.targets := by
  cases effect with
  | none =>
    cases reshaped
    exact .inl rfl
  | retype type names indices native =>
    cases reshaped
    exact .inl rfl
  | generate kind name kept =>
    obtain ⟨h, moved, rfl⟩ := Option.map_eq_some_iff.mp reshaped
    have named : h.name = name := Function.name_of_renamed? moved
    exact .inr (List.mem_singleton.mpr named)
  | create kind =>
    obtain ⟨kind, -, rfl⟩ := Option.map_eq_some_iff.mp reshaped
    exact .inl rfl
  | delete kind argument name =>
    obtain ⟨h, moved, rfl⟩ := Option.map_eq_some_iff.mp reshaped
    cases name with
    | none =>
      cases moved
      exact .inl rfl
    | some name =>
      dsimp only at moved
      split at moved
      · cases moved
        exact .inl rfl
      · have named : h.name = name := Function.name_of_renamed? moved
        exact .inr (List.mem_singleton.mpr named)
  | custom edits write read =>
    have each : ∀ (e : Edit) f g, e.reshape? start f = some g → g.name = f.name ∨ g.name ∈ e.target?.toList := by
      intro e f g edited
      rcases Edit.name_of_reshape? edited with same | given
      · exact .inl same
      · rw [← given]
        exact .inr (List.mem_singleton.mpr rfl)
    have chain : edits.foldlM (fun f (e : Edit) => e.reshape? start f) f = some g := reshaped
    rcases name_of_foldlM (fun e f g => each e f g) chain with same | ⟨e, member, given⟩
    · exact .inl same
    · exact .inr (List.mem_filterMap.mpr ⟨e, member, Option.mem_toList.mp given⟩)

theorem name_of_reshapeAll? {start : String} {rules : List Rule} {f g : Function}
    (reshaped : f.reshapeAll? start rules = some g) : g.name = f.name ∨ ∃ rule ∈ rules, g.name ∈ rule.effect.targets := by
  have each : ∀ (rule : Rule) f g, rule.effect.reshape? start f = some g →
      g.name = f.name ∨ g.name ∈ rule.effect.targets := fun _ _ _ => Effect.name_of_reshape?
  exact name_of_foldlM each reshaped

/-! ## Application -/

namespace OverrideTracker

/-- The rules filed under a name. -/
def rulesIn (filed : Keyed (List Rule)) (name : String) : List Rule :=
  (Keyed.find? filed name).getD []

namespace Application

/-- What an entry of rules comes to where it applies: a report that no function has the name, or a function reshaped in its
place, with the rules filed under its new name. -/
inductive Applies (x : Application) (entry : String × List Rule) : Application → Prop
  | absent (missing : entry.1 ∉ Keyed.keys x.registry.functions) (log : Log) : Applies x entry { x with log }
  | present {place : Nat} {f h : Function} {r : Registry} (now : x.registry.functions[place]? = some (entry.1, f))
      (reshaped : f.reshapeAll? x.registry.start entry.2 = some h) (replaced : Replaced x.registry r place h) :
      Applies x entry { x with registry := r, filed := fileUnder x.filed h.name entry.2 }

/-- Rules that apply mutate the function that has their name, if there is one, and are filed under the name that it has then. -/
theorem applyRules_ok {x : Application} {entry : String × List Rule} (applied : (x.applyRules entry).answer = .ok ()) :
    (x.registry.placeOf? entry.1 = none ∧ ∃ log, (x.applyRules entry).state = { x with log }) ∨
    ∃ place r, x.registry.placeOf? entry.1 = some place ∧
      Outcome.runAll (fun r (rule : Rule) => rule.effect.mutate r place) x.registry entry.2 = .done r () ∧
      ∀ g ∈ r.functionAt? place,
        (x.applyRules entry).state = { x with registry := r, filed := fileUnder x.filed g.name entry.2 } := by
  unfold applyRules at applied ⊢
  cases found : x.registry.placeOf? entry.1 with
  | none => exact .inl ⟨rfl, _, rfl⟩
  | some place =>
    simp only [found] at applied ⊢
    obtain ⟨r, _, ran⟩ | ⟨r, e, ran⟩ :=
      (Outcome.runAll (fun r (rule : Rule) => rule.effect.mutate r place) x.registry entry.2).done_or_failed
    · refine .inr ⟨place, r, rfl, ran, fun g stands => ?_⟩
      simp only [ran, Outcome.within, Outcome.done, Except.mapError, Outcome.andThen, Option.mem_def.mp stands]
    · rw [ran] at applied
      cases applied

theorem applies_of_ok {x : Application} {entry : String × List Rule} (filed : x.registry.Filed)
    (filing : ∀ rule ∈ entry.2, rule.effect.Filing) (applied : (x.applyRules entry).answer = .ok ()) :
    x.Applies entry (x.applyRules entry).state := by
  obtain ⟨missing, log, state⟩ | ⟨place, r, found, ran, state⟩ := applyRules_ok applied
  · rw [state]
    exact .absent (placeOf?_eq_none.mp missing) log
  · obtain ⟨f, now⟩ := filed.placeOf?_eq_some.mp found
    obtain ⟨h, reshaped, replaced⟩ := mutateAll_ok filed now filing (congrArg Outcome.answer ran)
    rw [ran, Outcome.state_done] at replaced
    rw [state h (functionAt?_eq (replaced.stands now))]
    exact .present now reshaped replaced

/-- What holds before all rules and is kept by every entry of rules that applies holds behind all of them. -/
theorem runAll_induction {all : Keyed (List Rule)} {P : Keyed (List Rule) → Application → Prop}
    (step : ∀ {done rest entry x}, all = done ++ entry :: rest → P done x → (x.applyRules entry).answer = .ok () →
      P (done ++ [entry]) (x.applyRules entry).state)
    {x : Application} (first : P [] x) (ran : (Outcome.runAll applyRules x all).answer = .ok ()) :
    P all (Outcome.runAll applyRules x all).state := by
  have from_ : ∀ {rest done x}, all = done ++ rest → P done x → (Outcome.runAll applyRules x rest).answer = .ok () →
      P all (Outcome.runAll applyRules x rest).state := by
    intro rest
    induction rest with
    | nil =>
      intro done x split holds _
      rw [List.append_nil] at split
      exact split ▸ holds
    | cons entry rest ih =>
      intro done x split holds ran
      obtain ⟨next, _, one, chain⟩ := Outcome.andThen_ok ran
      have stepped := step split holds (congrArg Outcome.answer one)
      rw [one] at stepped
      rw [Outcome.runAll, chain] at ran ⊢
      refine ih ?_ stepped ran
      rw [split, List.append_assoc]
      rfl
  exact from_ (List.nil_append all).symm first ran

end Application

/-- Rules and a registry to which they can be applied in order. -/
structure Orderly (rules : Keyed (List Rule)) (r : Registry) : Prop where
  filed : r.Filed
  nodup : (Keyed.keys rules).Nodup
  filing : ∀ entry ∈ rules, ∀ rule ∈ entry.2, rule.effect.Filing
  /-- Where rules wait under a new name, they leave the name to a function that has it already. -/
  separate : ∀ entry ∈ rules, entry.1 ∈ Keyed.keys r.functions → ∀ rule ∈ entry.2, ∀ target ∈ rule.effect.targets,
    target ≠ entry.1 → target ∈ Keyed.keys rules →
      target ∈ Keyed.keys r.functions ∧ ∀ other ∈ rulesIn rules target, other.effect.targets = []

/-- A registry on which some of all rules have been applied. -/
structure Reached (all done : Keyed (List Rule)) (r : Registry) (x : Application) : Prop where
  others : ∃ functions shortNames, x.registry = { r with functions, shortNames }
  filed : x.registry.Filed
  length : x.registry.functions.length = r.functions.length
  each : ∀ (place : Nat) key f, r.functions[place]? = some (key, f) →
    ∃ g, f.reshapeAll? r.start (rulesIn done key) = some g ∧ x.registry.functions[place]? = some (g.name, g) ∧
      (g.name = key ∨ g.name ∉ Keyed.keys all) ∧
      ∀ rules, Keyed.find? done key = some rules → Keyed.find? x.filed g.name = some rules
  only : ∀ name, (Keyed.find? x.filed name).isSome →
    ∃ (place : Nat) (key : String) (f g : Function), r.functions[place]? = some (key, f) ∧
      x.registry.functions[place]? = some (name, g) ∧ (Keyed.find? done key).isSome

variable {all done rest : Keyed (List Rule)} {r : Registry} {x : Application} {entry : String × List Rule}

namespace Reached

theorem start (reached : Reached all done r x) : x.registry.start = r.start := by
  obtain ⟨_, _, others⟩ := reached.others
  rw [others]

/-- A function whose name no applied rules wait for is what it was. -/
theorem untouched (reached : Reached all done r x) (filed : r.Filed) {place : Nat} {key : String} {f : Function}
    (stands : r.functions[place]? = some (key, f)) (fresh : key ∉ Keyed.keys done) :
    x.registry.functions[place]? = some (key, f) := by
  obtain ⟨g, reshaped, now, -⟩ := reached.each place key f stands
  rw [rulesIn, find?_eq_none_iff.mpr fresh] at reshaped
  cases reshaped
  rw [filed.name_eq stands] at now
  exact now

/-- The function that has a name under which rules wait is the one that had it before. -/
theorem original (reached : Reached all done r x) (filed : r.Filed) (waits : entry.1 ∈ Keyed.keys all)
    (fresh : entry.1 ∉ Keyed.keys done) {place : Nat} {f : Function}
    (stands : x.registry.functions[place]? = some (entry.1, f)) : r.functions[place]? = some (entry.1, f) := by
  have bound : place < r.functions.length := by
    rw [← reached.length]
    exact (List.getElem?_eq_some_iff.mp stands).1
  obtain ⟨⟨key, f₀⟩, before⟩ : ∃ e, r.functions[place]? = some e := ⟨_, List.getElem?_eq_getElem bound⟩
  obtain ⟨g, -, now, own, -⟩ := reached.each place key f₀ before
  rw [stands] at now
  have named : entry.1 = g.name := congrArg Prod.fst (Option.some.inj now)
  rcases own with same | new
  · have key_eq : key = entry.1 := same.symm.trans named.symm
    subst key_eq
    have unchanged := reached.untouched filed before fresh
    rw [stands] at unchanged
    cases unchanged
    exact before
  · exact absurd (named ▸ waits) new

/-- Rules for a name that no function has do nothing. -/
theorem absent (reached : Reached all done r x) (filed : r.Filed) (fresh : entry.1 ∉ Keyed.keys done)
    (missing : entry.1 ∉ Keyed.keys x.registry.functions) (log : Log) :
    Reached all (done ++ [entry]) r { x with log } := by
  have apart : ∀ {place : Nat} {key f}, r.functions[place]? = some (key, f) → key ≠ entry.1 := by
    rintro place key f stands rfl
    have now := reached.untouched filed stands fresh
    exact missing (mem_keys now)
  refine ⟨reached.others, reached.filed, reached.length, ?_, ?_⟩
  · intro place key f stands
    have same : Keyed.find? (done ++ [entry]) key = Keyed.find? done key := by
      rw [find?_snoc fresh, if_neg (apart stands)]
    rw [rulesIn, same]
    exact reached.each place key f stands
  · intro name present
    obtain ⟨place, key, f, g, stands, now, applied⟩ := reached.only name present
    refine ⟨place, key, f, g, stands, now, ?_⟩
    rw [find?_snoc fresh, if_neg (apart stands)]
    exact applied

/-- A function that takes a new name does not take one under which rules wait. -/
theorem keeps_apart (reached : Reached all done r x) (orderly : Orderly all r) (split : all = done ++ entry :: rest)
    {place : Nat} {f h : Function} (stands : r.functions[place]? = some (entry.1, f))
    (reshaped : f.reshapeAll? r.start entry.2 = some h) {r' : Registry} (replaced : Replaced x.registry r' place h)
    (now : x.registry.functions[place]? = some (entry.1, f)) : h.name = entry.1 ∨ h.name ∉ Keyed.keys all := by
  by_cases own : h.name = entry.1
  · exact .inl own
  by_cases waits : h.name ∈ Keyed.keys all
  · left
    rcases name_of_reshapeAll? reshaped with same | ⟨rule, member, target⟩
    · exact same.trans (orderly.filed.name_eq stands)
    have listed : entry ∈ all := by
      rw [split]
      exact List.mem_append_right _ List.mem_cons_self
    have held : entry.1 ∈ Keyed.keys r.functions := mem_keys stands
    obtain ⟨present, keeping⟩ := orderly.separate entry listed held rule member h.name target own waits
    obtain ⟨j, f', at_⟩ := mem_keys_iff.mp present
    obtain ⟨g, kept, there, -⟩ := reached.each j h.name f' at_
    have same : g.name = h.name := by
      rcases name_of_reshapeAll? kept with same | ⟨other, among, target⟩
      · exact same.trans (orderly.filed.name_eq at_)
      · have among : other ∈ rulesIn all h.name := by
          cases found : Keyed.find? done h.name with
          | none => simp [rulesIn, found] at among
          | some rules =>
            have whole : Keyed.find? all h.name = some rules := by
              have found : done.lookup h.name = some rules := found
              rw [split, Keyed.find?, List.lookup_append, found, Option.some_or]
            rw [rulesIn, found] at among
            rw [rulesIn, whole]
            exact among
        rw [keeping other among] at target
        cases target
    rw [same] at there
    by_cases here : place = j
    · subst here
      rw [there] at now
      exact congrArg Prod.fst (Option.some.inj now)
    · have later : r'.functions[j]? = some (h.name, g) := (replaced.elsewhere here).trans there
      exact absurd (replaced.filed.place_unique (replaced.stands now) later) here
  · exact .inr waits

/-- Nothing was filed under the name that a function takes: it would belong to another function. -/
theorem free (reached : Reached all done r x) (fresh : entry.1 ∉ Keyed.keys done) {place : Nat} {f h : Function}
    (stands : r.functions[place]? = some (entry.1, f)) (now : x.registry.functions[place]? = some (entry.1, f))
    {r' : Registry} (replaced : Replaced x.registry r' place h) : Keyed.find? x.filed h.name = none := by
  cases found : Keyed.find? x.filed h.name with
  | none => rfl
  | some rules =>
    obtain ⟨j, key, f', g, before, there, applied⟩ := reached.only h.name (by rw [found]; rfl)
    by_cases here : place = j
    · subst here
      rw [stands] at before
      cases before
      exact absurd (isSome_find?_iff.mp applied) fresh
    · have later : r'.functions[j]? = some (h.name, g) := (replaced.elsewhere here).trans there
      exact absurd (replaced.filed.place_unique (replaced.stands now) later) here

/-- Rules for the function that has their name reshape it and are filed under its new name. -/
theorem present (reached : Reached all done r x) (orderly : Orderly all r) (split : all = done ++ entry :: rest)
    (fresh : entry.1 ∉ Keyed.keys done) {place : Nat} {f h : Function}
    (stands : r.functions[place]? = some (entry.1, f)) (now : x.registry.functions[place]? = some (entry.1, f))
    (reshaped : f.reshapeAll? r.start entry.2 = some h) {r' : Registry} (replaced : Replaced x.registry r' place h) :
    Reached all (done ++ [entry]) r { x with registry := r', filed := fileUnder x.filed h.name entry.2 } := by
  have later : r'.functions[place]? = some (h.name, h) := replaced.stands now
  have free := reached.free fresh stands now replaced
  refine ⟨?_, replaced.filed, ?_, ?_, ?_⟩
  · obtain ⟨functions, _, others⟩ := reached.others
    obtain ⟨shortNames, last⟩ := replaced.others
    refine ⟨r'.functions, shortNames, ?_⟩
    rw [others] at last
    exact last
  · rw [← reached.length, replaced.functions, List.length_set]
  · intro j key f' before
    by_cases here : place = j
    · subst here
      rw [stands] at before
      cases before
      refine ⟨h, ?_, later, reached.keeps_apart orderly split stands reshaped replaced now, ?_⟩
      · rw [rulesIn, find?_snoc fresh, if_pos rfl]
        exact reshaped
      · intro rules applied
        rw [find?_snoc fresh, if_pos rfl] at applied
        cases applied
        simp [fileUnder, free]
    · have apart : key ≠ entry.1 := by
        rintro rfl
        exact here (orderly.filed.place_unique stands before)
      obtain ⟨g, kept, there, own, filedUnder⟩ := reached.each j key f' before
      have same : Keyed.find? (done ++ [entry]) key = Keyed.find? done key := by rw [find?_snoc fresh, if_neg apart]
      have other : g.name ≠ h.name := by
        intro equal
        rw [equal] at there
        exact here (replaced.filed.place_unique later ((replaced.elsewhere here).trans there))
      refine ⟨g, ?_, (replaced.elsewhere here).trans there, own, ?_⟩
      · rw [rulesIn, same]
        exact kept
      · intro rules applied
        rw [same] at applied
        rw [fileUnder, Keyed.find?_put_of_ne _ _ other]
        exact filedUnder rules applied
  · intro name present
    by_cases new : name = h.name
    · subst new
      refine ⟨place, entry.1, f, h, stands, later, ?_⟩
      rw [find?_snoc fresh, if_pos rfl]
      rfl
    · rw [fileUnder, Keyed.find?_put_of_ne _ _ new] at present
      obtain ⟨j, key, f', g, before, there, applied⟩ := reached.only name present
      have apart : key ≠ entry.1 := by
        rintro rfl
        exact fresh (isSome_find?_iff.mp applied)
      have here : place ≠ j := by
        rintro rfl
        rw [stands] at before
        cases before
        exact apart rfl
      refine ⟨j, key, f', g, before, (replaced.elsewhere here).trans there, ?_⟩
      rw [find?_snoc fresh, if_neg apart]
      exact applied

/-- One entry of rules applied. -/
theorem step (reached : Reached all done r x) (orderly : Orderly all r) (split : all = done ++ entry :: rest)
    (applied : (x.applyRules entry).answer = .ok ()) : Reached all (done ++ [entry]) r (x.applyRules entry).state := by
  obtain ⟨listed, fresh⟩ := cut_keyed orderly.nodup split
  have applies := Application.applies_of_ok reached.filed (orderly.filing entry listed) applied
  generalize (x.applyRules entry).state = y at applies
  cases applies with
  | absent missing log => exact reached.absent orderly.filed fresh missing log
  | present now reshaped replaced =>
    have stands := reached.original orderly.filed (List.mem_map_of_mem listed) fresh now
    rw [reached.start] at reshaped
    exact reached.present orderly split fresh stands now reshaped replaced

/-- All rules applied. -/
theorem run (orderly : Orderly all r) (reached : Reached all [] r x)
    (ran : (Outcome.runAll Application.applyRules x all).answer = .ok ()) :
    Reached all all r (Outcome.runAll Application.applyRules x all).state :=
  Application.runAll_induction (P := fun done x => Reached all done r x)
    (fun split reached applied => reached.step orderly split applied) reached ran

end Reached

theorem reached_nothing (filed : r.Filed) (log : Log) : Reached all [] r ⟨r, [], log⟩ := by
  refine ⟨⟨r.functions, r.shortNames, rfl⟩, filed, rfl, ?_, ?_⟩
  · intro place key f stands
    have named := filed.name_eq stands
    refine ⟨f, rfl, named ▸ stands, .inl named, ?_⟩
    intro rules applied
    cases applied
  · intro name present
    cases present

/-- What applying overrides to a registry comes to. -/
structure Applied (t : OverrideTracker) (r : Registry) (t' : OverrideTracker) (r' : Registry) : Prop where
  others : ∃ functions shortNames, r' = { r.freeze with functions, shortNames }
  filed : r'.Filed
  length : r'.functions.length = r.functions.length
  /-- Each function is reshaped by the rules that were registered under its name, and these are found under its new name. -/
  each : ∀ (place : Nat) key f, r.functions[place]? = some (key, f) →
    ∃ g, f.reshapeAll? r.start (t.rulesOf key) = some g ∧ r'.functions[place]? = some (g.name, g) ∧
      t'.rulesOf g.name = t.rulesOf key
  tracker : ∃ rules log, t' = { t with rules, applied := true, log }

/-- Overrides are applied without error if every entry of rules applies and leaves a registry that can be emitted. -/
theorem apply_done {t : OverrideTracker} (applied : (t.apply r).answer = .ok ()) : ∃ x,
    Outcome.runAll Application.applyRules ⟨r.freeze, [], t.log⟩ t.rules = .done x () ∧ x.registry.validate = .ok () ∧
      t.apply r = .done ({ t with rules := x.filed, applied := true, log := x.log }, x.registry) () := by
  unfold apply at applied ⊢
  by_cases before : t.applied = true
  · rw [if_pos before] at applied
    cases applied
  rw [if_neg before] at applied ⊢
  dsimp only at applied ⊢
  generalize Outcome.runAll Application.applyRules ⟨r.freeze, [], t.log⟩ t.rules = run at applied
  obtain ⟨x, _, rfl⟩ | ⟨x, e, rfl⟩ := run.done_or_failed
  · refine ⟨x, rfl, ?_⟩
    dsimp only [Outcome.answer_done, Outcome.state_done] at applied ⊢
    cases sound : x.registry.validate with
    | ok _ => exact ⟨rfl, rfl⟩
    | error e =>
      rw [sound] at applied
      cases applied
  · cases applied

/-- Overrides that are applied without error. -/
theorem apply_ok {t : OverrideTracker} (orderly : Orderly t.rules r) (applied : (t.apply r).answer = .ok ()) :
    Applied t r (t.apply r).state.1 (t.apply r).state.2 := by
  have frozen : Orderly t.rules r.freeze := ⟨orderly.filed.freeze, orderly.nodup, orderly.filing, orderly.separate⟩
  obtain ⟨x, ran, -, whole⟩ := apply_done applied
  have reached := Reached.run frozen (reached_nothing frozen.filed t.log) (congrArg Outcome.answer ran)
  rw [ran, Outcome.state_done] at reached
  rw [whole]
  refine ⟨reached.others, reached.filed, reached.length, ?_, ⟨x.filed, x.log, rfl⟩⟩
  intro place key f stands
  obtain ⟨g, reshaped, now, -, filedUnder⟩ := reached.each place key f stands
  refine ⟨g, reshaped, now, ?_⟩
  show rulesIn x.filed g.name = rulesIn t.rules key
  cases found : Keyed.find? t.rules key with
  | some rules => rw [rulesIn, filedUnder rules found, rulesIn, found]
  | none =>
    have free : Keyed.find? x.filed g.name = none := by
      cases other : Keyed.find? x.filed g.name with
      | none => rfl
      | some rules =>
        obtain ⟨j, key', f', g', there, later, waiting⟩ := reached.only g.name (by rw [other]; rfl)
        obtain rfl := reached.filed.place_unique now later
        have same : some (key, f) = some (key', f') := stands.symm.trans there
        cases same
        rw [found] at waiting
        cases waiting
    rw [rulesIn, free, rulesIn, found]

/-- Overrides that are applied without error leave a registry that can be emitted. -/
theorem sound_of_apply {t : OverrideTracker} (applied : (t.apply r).answer = .ok ()) :
    fault? [] (t.apply r).state.2.functions = none :=
  fault?_of_validate (validate_of_apply applied)

end OverrideTracker

end CommandStream
