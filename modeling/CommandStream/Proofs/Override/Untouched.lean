import CommandStream.Emission.Build
import CommandStream.Proofs.Override.Application

/-!
# What overrides leave alone

Overrides change functions and, where they rename, the index of short names. Whether an effect succeeds or fails, it leaves
the defines, the function types and the enum groups of a registry as they were, and so does whatever is made of effects, up
to the emitter that is built from a registry with any modules.
-/

namespace CommandStream

namespace Registry

variable {r r' r'' : Registry}

/-- A registry with other functions and another index of short names, and with nothing else changed. -/
def Reworked (r r' : Registry) : Prop := ∃ functions shortNames, r' = { r with functions, shortNames }

namespace Reworked

theorem refl (r : Registry) : r.Reworked r := ⟨_, _, rfl⟩

theorem trans (first : r.Reworked r') (last : r'.Reworked r'') : r.Reworked r'' := by
  obtain ⟨_, _, rfl⟩ := first
  obtain ⟨_, _, rfl⟩ := last
  exact ⟨_, _, rfl⟩

theorem enums (reworked : r.Reworked r') : r'.enums = r.enums := by
  obtain ⟨_, _, rfl⟩ := reworked
  rfl

end Reworked

theorem reworked_modifyAt (r : Registry) (place : Nat) (change : Function → Function) : r.Reworked (r.modifyAt place change) :=
  ⟨_, _, rfl⟩

theorem reworked_assignName (r : Registry) (place : Nat) (name : String) : r.Reworked (r.assignName place name).state := by
  unfold assignName
  split <;> exact ⟨_, _, rfl⟩

theorem reworked_rename (r : Registry) (place : Nat) (new : String) : r.Reworked (r.rename place new).state := by
  cases at_ : r.functionAt? place with
  | none =>
    rw [rename, at_]
    exact .refl r
  | some f =>
    have ends := renaming_rename at_ new
    generalize r.rename place new = outcome at ends
    cases ends with
    | own | taken => exact .refl r
    | lost | unnamed | named => exact ⟨_, _, rfl⟩

theorem reworked_tryModifyAt (r : Registry) (place : Nat) (change : Function → Except EditError Function) :
    r.Reworked (r.tryModifyAt place change).state := by
  unfold tryModifyAt
  split
  · exact ⟨_, _, rfl⟩
  · exact .refl r
  · exact .refl r

theorem reworked_edit (r : Registry) (place : Nat) (e : Edit) : r.Reworked (r.edit place e).state := by
  cases e with
  | returnType type => exact r.reworked_modifyAt place fun f => { f with type := { f.type with returnType := type } }
  | rename name => exact r.reworked_rename place name
  | assignName name => exact r.reworked_assignName place name
  | access label => exact r.reworked_modifyAt place fun f => { f with access := label }
  | addArgument type name =>
    exact r.reworked_modifyAt place fun f => f.withArguments (f.type.arguments ++ [(⟨type, name, false⟩ : Argument)])
  | removeArgument | argumentType | argumentName | argumentEnum | expectArguments => exact r.reworked_tryModifyAt place _

end Registry

open Registry

/-- What each of some operations keeps, a chain of them keeps, also where it fails. -/
theorem Outcome.runAll_keeps {σ ε α : Type} {run : σ → α → Outcome σ ε Unit} {P : σ → Prop}
    (each : ∀ s item, P s → P (run s item).state) {s : σ} (start : P s) (items : List α) : P (runAll run s items).state := by
  induction items generalizing s with
  | nil => exact start
  | cons item rest ih =>
    have kept := each s item start
    obtain ⟨next, _, one⟩ | ⟨next, e, one⟩ := (run s item).done_or_failed
    · rw [one] at kept
      rw [runAll, one]
      exact ih kept
    · rw [one] at kept
      rw [runAll, one]
      exact kept

theorem Registry.reworked_editAll (r : Registry) (place : Nat) (edits : List Edit) : r.Reworked (r.editAll place edits).state :=
  Outcome.runAll_keeps (fun s e kept => kept.trans (s.reworked_edit place e)) (.refl r) edits

/-- An effect changes nothing but functions and their short names. -/
theorem Effect.reworked_mutate (effect : Effect) (r : Registry) (place : Nat) : r.Reworked (effect.mutate r place).state := by
  have following {o : Outcome Registry OverrideError Unit} (first : r.Reworked o.state) (change : Registry → Registry)
      (last : ∀ s : Registry, s.Reworked (change s)) :
      r.Reworked (o.andThen fun s _ => .done (change s) ()).state := by
    obtain ⟨s, _, rfl⟩ | ⟨s, e, rfl⟩ := o.done_or_failed
    · exact first.trans (last s)
    · exact first
  cases effect with
  | none => exact .refl r
  | retype type names indices native => exact ⟨_, _, rfl⟩
  | generate kind name kept =>
    exact following (r.reworked_rename place name) _ fun s =>
      (s.reworked_modifyAt place fun f => f.withArguments (keepFirst kept f.type.arguments)).trans (reworked_modifyAt _ place _)
  | create kind =>
    cases kind with
    | none => exact .refl r
    | some kind => exact r.reworked_modifyAt place _
  | delete kind argument name =>
    refine following ?_ _ fun s => s.reworked_modifyAt place fun f =>
      f.withArguments [{ type := kind.handleType, name := argument, isEnum := false }]
    cases name with
    | none => exact .refl r
    | some name =>
      dsimp only
      split
      · exact .refl r
      · exact r.reworked_rename place name
  | custom edits write read => exact r.reworked_editAll place edits

namespace OverrideTracker

theorem Application.reworked_applyRules (x : Application) (entry : String × List Rule) :
    x.registry.Reworked (x.applyRules entry).state.registry := by
  unfold applyRules
  cases x.registry.placeOf? entry.1 with
  | none => exact .refl _
  | some place =>
    have kept : x.registry.Reworked
        (Outcome.runAll (fun r (rule : Rule) => rule.effect.mutate r place) x.registry entry.2).state :=
      Outcome.runAll_keeps (fun s rule kept => kept.trans (rule.effect.reworked_mutate s place)) (.refl _) entry.2
    dsimp only
    generalize Outcome.runAll (fun r (rule : Rule) => rule.effect.mutate r place) x.registry entry.2 = mutated at kept
    obtain ⟨s, _, rfl⟩ | ⟨s, e, rfl⟩ := mutated.done_or_failed
    · dsimp only [Outcome.within, Outcome.andThen, Outcome.done]
      cases s.functionAt? place <;> exact kept
    · exact kept

/-- The registry to which overrides have been applied. -/
theorem reworked_apply {t : OverrideTracker} {r : Registry} (applied : (t.apply r).answer = .ok ()) :
    r.freeze.Reworked (t.apply r).state.2 := by
  obtain ⟨x, ran, -, whole⟩ := apply_done applied
  have kept := Outcome.runAll_keeps (P := fun x : Application => r.freeze.Reworked x.registry)
    (fun x entry kept => kept.trans (x.reworked_applyRules entry)) (s := ⟨r.freeze, [], t.log⟩) (.refl _) t.rules
  rw [ran] at kept
  rw [whole]
  exact kept

end OverrideTracker

/-- An emitter that is built has the registry and the overrides that applying the registered ones leaves. -/
theorem Build.tracker_of_emitter {log : Log} {r : Registry} {modules : List OverrideModule} {space : String} {e : Emitter}
    (built : (emitter log r modules space).answer = .ok e) : ∃ t, OverrideModule.registerAll r modules = .ok t ∧
      (t.apply r).answer = .ok () ∧ e.registry = (t.apply r).state.2 ∧ e.overrides = (t.apply r).state.1 := by
  unfold emitter at built
  cases registered : OverrideModule.registerAll r modules with
  | error cause =>
    rw [registered] at built
    cases built
  | ok t =>
    simp only [registered] at built
    cases applied : (t.apply r).answer with
    | error cause =>
      rw [answer_overridden_error log space applied] at built
      cases built
    | ok _ =>
      rw [answer_overridden_ok log space applied] at built
      obtain ⟨width, -, made⟩ := bind_ok (ok_of_mapError built)
      cases made
      exact ⟨t, rfl, applied, rfl, rfl⟩

/-- The registry of an emitter, whatever the modules that override it. -/
theorem Build.reworked_emitter {log : Log} {r : Registry} {modules : List OverrideModule} {space : String} {e : Emitter}
    (built : (emitter log r modules space).answer = .ok e) : r.freeze.Reworked e.registry := by
  obtain ⟨t, -, applied, registry, -⟩ := tracker_of_emitter built
  exact registry ▸ OverrideTracker.reworked_apply applied

end CommandStream
