import CommandStream.Emission.Build
import CommandStream.Proofs.Override.BuiltIn
import CommandStream.Proofs.Registry.Parsed
import CommandStream.Queue.Command

/-!
# Functions after the built-in overrides

A function of an emitter with the built-in overrides has rules that only retype, or one other rule among
such rules. What that rule makes of the arguments, the rules around it leave: a handle is retyped no more.
-/

namespace CommandStream
open OverrideModule

/-- What a rule leaves of the arguments of its function. -/
def Rule.Leaves (p : Rule) (f : Function) : Prop :=
  match p.effect with
  | .delete kind argument _ => f.type.arguments = [⟨kind.handleType, argument, false⟩]
  | .custom .. => f.type.arguments.length = 3
  | _ => True

/-- A function that the built-in rules have reshaped. -/
inductive Function.Overridden (f : Function) : List Rule → Prop where
  | plain {rules : List Rule} (each : ∀ rule ∈ rules, rule.retypes = true) : Overridden f rules
  | principal {before after : List Rule} {p : Rule} (listed : p ∈ principals) (leaves : p.Leaves f)
      (first : ∀ rule ∈ before, rule.retypes = true) (last : ∀ rule ∈ after, rule.retypes = true) :
      Overridden f (before ++ p :: after)

/-! ## Retyping -/

theorem effect_of_retypes {rule : Rule} (retypes : rule.retypes = true) :
    ∃ type names indices native, rule.effect = .retype type names indices native := by
  unfold Rule.retypes at retypes
  split at retypes
  · rename_i type names indices native effect
    exact ⟨type, names, indices, native, effect⟩
  · cases retypes

theorem length_retypeFrom (type : String) (select : Nat → Argument → Bool) (index : Nat) (arguments : List Argument) :
    (Effect.retypeFrom type select index arguments).length = arguments.length := by
  induction arguments generalizing index with
  | nil => rfl
  | cons a rest ih => simp only [Effect.retypeFrom, List.length_cons, ih]

/-- Rules that retype leave the number of arguments. -/
theorem length_of_retyping {start : String} {rules : List Rule} (each : ∀ rule ∈ rules, rule.retypes = true)
    {f g : Function} (reshaped : f.reshapeAll? start rules = some g) :
    g.type.arguments.length = f.type.arguments.length := by
  induction rules generalizing f with
  | nil =>
    cases reshaped
    rfl
  | cons rule rest ih =>
    rw [Function.reshapeAll?, List.foldlM_cons] at reshaped
    obtain ⟨h, first, reshaped⟩ := Option.bind_eq_some_iff.mp reshaped
    obtain ⟨type, names, indices, native, effect⟩ := effect_of_retypes (each rule List.mem_cons_self)
    rw [effect] at first
    cases first
    have others := ih (fun other member => each other (List.mem_cons_of_mem _ member)) reshaped
    exact others.trans (length_retypeFrom _ _ _ _)

/-- Rules that look for plain native names leave a lone handle. -/
theorem handle_of_retyping {start : String} {rules : List Rule}
    (each : ∀ rule ∈ rules, ∃ name type names, rule = ⟨name, .retype type names [] (some "GLuint")⟩) {f g : Function}
    {a : Argument} (handle : a.type ≠ "GLuint") (lone : f.type.arguments = [a])
    (reshaped : f.reshapeAll? start rules = some g) : g.type.arguments = [a] := by
  induction rules generalizing f with
  | nil =>
    cases reshaped
    exact lone
  | cons rule rest ih =>
    rw [Function.reshapeAll?, List.foldlM_cons] at reshaped
    obtain ⟨h, first, reshaped⟩ := Option.bind_eq_some_iff.mp reshaped
    obtain ⟨name, type, names, rfl⟩ := each rule List.mem_cons_self
    cases first
    refine ih (fun other member => each other (List.mem_cons_of_mem _ member)) ?_ reshaped
    have kept : Effect.selects names [] (some "GLuint") 0 a = false := by
      have other : (a.type == "GLuint") = false := beq_eq_false_iff_ne.mpr handle
      have named : "GLuint".isEmpty = false := rfl
      simp only [Effect.selects, other, named, Bool.or_self, Bool.false_and]
    show Effect.retypeFrom type _ 0 f.type.arguments = [a]
    simp only [lone, Effect.retypeFrom, kept, Bool.false_eq_true, if_false]

/-! ## Principal rules -/

theorem lt_of_position? {length i : Nat} {index : Int} (found : position? length index = some i) : i < length := by
  unfold position? at found
  generalize (if index < 0 then index + length else index) = place at found
  dsimp only at found
  split at found
  · have equal := Option.some.inj found
    omega
  · cases found

theorem length_of_changeArgument {f g : Function} {index : Int} {change : Argument → Argument}
    (made : f.changeArgument index change = .ok g) : g.type.arguments.length = f.type.arguments.length := by
  unfold Function.changeArgument at made
  split at made
  · cases made
    exact List.length_modify _ _ _
  · cases made

theorem length_of_removeArgument {f g : Function} {index : Int} (made : f.removeArgument index = .ok g) :
    g.type.arguments.length + 1 = f.type.arguments.length := by
  unfold Function.removeArgument at made
  split at made
  · rename_i i at_
    cases made
    have bound : i < f.type.arguments.length := lt_of_position? at_
    show (f.type.arguments.eraseIdx i).length + 1 = _
    rw [List.length_eraseIdx_of_lt bound]
    omega
  · cases made

/-- One shader text takes three arguments. -/
theorem length_of_shaderText {start : String} {f g : Function}
    (reshaped : shaderTextRule.effect.reshape? start f = some g) : g.type.arguments.length = 3 := by
  have reshaped : (singleTextEdits (glKind "Shader" 3)).foldlM (fun f (e : Edit) => e.reshape? start f) f = some g :=
    reshaped
  simp only [singleTextEdits, List.foldlM_cons, List.foldlM_nil] at reshaped
  obtain ⟨f₁, expected, reshaped⟩ := Option.bind_eq_some_iff.mp reshaped
  obtain ⟨f₂, handle, reshaped⟩ := Option.bind_eq_some_iff.mp reshaped
  obtain ⟨f₃, count, reshaped⟩ := Option.bind_eq_some_iff.mp reshaped
  obtain ⟨f₄, text, reshaped⟩ := Option.bind_eq_some_iff.mp reshaped
  obtain ⟨f₅, length, reshaped⟩ := Option.bind_eq_some_iff.mp reshaped
  cases reshaped
  have four : f₁.type.arguments.length = 4 := by
    simp only [Edit.reshape?] at expected
    split at expected
    · cases expected
      assumption
    · cases expected
  have third := length_of_removeArgument (ok_of_toOption count)
  rw [length_of_changeArgument (ok_of_toOption handle), four] at third
  rw [length_of_changeArgument (ok_of_toOption length), length_of_changeArgument (ok_of_toOption text)]
  omega

theorem retypes_of_principal {p : Rule} (listed : p ∈ principals) : p.retypes = false := by
  rcases principal_cases p listed with ⟨_, _, _, effect⟩ | ⟨_, effect⟩ | ⟨_, _, _, effect, -⟩ | rfl
  · simp only [Rule.retypes, effect]
  · simp only [Rule.retypes, effect]
  · simp only [Rule.retypes, effect]
  · rfl

/-- A built-in rule that retypes, for a function other than the one bound by position, looks for plain native names. -/
theorem native_of_retypes {r : Registry} {rule : Rule} (member : rule ∈ builtInRules r) (retypes : rule.retypes = true)
    (other : rule.function ≠ "glBindVertexArray") :
    ∃ name type names, rule = ⟨name, .retype type names [] (some "GLuint")⟩ := by
  rcases mem_builtInRules member with principal | retyping | rfl
  · rw [retypes_of_principal principal] at retypes
    cases retypes
  · obtain ⟨f, -, type, names, equal⟩ := effect_of_retyping retyping
    exact ⟨f.name, type, names, equal⟩
  · exact absurd rfl other

/-- What a principal rule makes of the arguments outlasts the rules behind it. -/
theorem leaves_of_reshapeAll? {start : String} {p : Rule} (listed : p ∈ principals) {before after : List Rule}
    (last : ∀ rule ∈ after, rule.retypes = true)
    (native : p.function ≠ "glBindVertexArray" →
      ∀ rule ∈ after, ∃ name type names, rule = ⟨name, .retype type names [] (some "GLuint")⟩)
    {f g : Function} (reshaped : f.reshapeAll? start (before ++ p :: after) = some g) : p.Leaves g := by
  rw [Function.reshapeAll?, List.foldlM_append] at reshaped
  obtain ⟨f₁, -, behind⟩ := Option.bind_eq_some_iff.mp reshaped
  rw [List.foldlM_cons] at behind
  obtain ⟨f₂, here, rest⟩ := Option.bind_eq_some_iff.mp behind
  rcases principal_cases p listed with ⟨_, _, _, effect⟩ | ⟨_, effect⟩ | ⟨kind, argument, name, effect, handle, other⟩ | rfl
  · simp only [Rule.Leaves, effect]
  · simp only [Rule.Leaves, effect]
  · simp only [Rule.Leaves, effect]
    rw [effect] at here
    obtain ⟨h, -, rfl⟩ := Option.map_eq_some_iff.mp here
    exact handle_of_retyping (native other) (a := ⟨kind.handleType, argument, false⟩) handle rfl rest
  · show g.type.arguments.length = 3
    rw [length_of_retyping last rest, length_of_shaderText here]

/-! ## Kinds -/

theorem creates?_of_retypes {rule : Rule} (retypes : rule.retypes = true) : rule.creates? = none := by
  obtain ⟨_, _, _, _, effect⟩ := effect_of_retypes retypes
  simp only [Rule.creates?, effect]

theorem destroys?_of_retypes {rule : Rule} (retypes : rule.retypes = true) : rule.destroys? = none := by
  obtain ⟨_, _, _, _, effect⟩ := effect_of_retypes retypes
  simp only [Rule.destroys?, effect]

/-- A rule that deletes makes nothing. -/
theorem creates?_of_deletes {rule : Rule} (deletes : rule.destroys?.isSome) : rule.creates? = none := by
  unfold Rule.destroys? at deletes
  unfold Rule.creates?
  split at deletes
  · rename_i effect
    rw [effect]
  · cases deletes

/-- A rule that deletes leaves a single argument. -/
theorem single_of_deletes {rule : Rule} {f : Function} (leaves : rule.Leaves f) (deletes : rule.destroys?.isSome) :
    f.type.arguments.length = 1 := by
  unfold Rule.destroys? at deletes
  split at deletes
  · rename_i effect
    simp only [Rule.Leaves, effect] at leaves
    rw [leaves]
    rfl
  · cases deletes

section LastKind

variable {select : Rule → Option ResourceKind} (quiet : ∀ rule : Rule, rule.retypes = true → select rule = none)
include quiet

/-- Rules that retype name no kind. -/
theorem lastKind_plain {rules : List Rule} (each : ∀ rule ∈ rules, rule.retypes = true) :
    Command.lastKind select rules = none := by
  have nothing : rules.filterMap select = [] := List.filterMap_eq_nil_iff.mpr fun rule member => quiet rule (each rule member)
  rw [Command.lastKind, nothing]
  rfl

/-- A rule among rules that retype names the kind. -/
theorem lastKind_principal {before after : List Rule} {p : Rule} (first : ∀ rule ∈ before, rule.retypes = true)
    (last : ∀ rule ∈ after, rule.retypes = true) : Command.lastKind select (before ++ p :: after) = select p := by
  have front : before.filterMap select = [] := List.filterMap_eq_nil_iff.mpr fun rule member => quiet rule (first rule member)
  have behind : after.filterMap select = [] := List.filterMap_eq_nil_iff.mpr fun rule member => quiet rule (last rule member)
  rw [Command.lastKind, List.filterMap_append, List.filterMap_cons, front, behind]
  cases select p <;> rfl

end LastKind

/-- A function makes and deletes objects as its principal rule says. -/
theorem Function.Overridden.kinds {f : Function} {rules : List Rule} (overridden : f.Overridden rules) :
    (Command.lastKind Rule.creates? rules = none ∧ Command.lastKind Rule.destroys? rules = none) ∨
    ∃ p ∈ principals, p.Leaves f ∧ Command.lastKind Rule.creates? rules = p.creates? ∧
      Command.lastKind Rule.destroys? rules = p.destroys? := by
  cases overridden with
  | plain each =>
    exact .inl ⟨lastKind_plain (fun _ => creates?_of_retypes) each, lastKind_plain (fun _ => destroys?_of_retypes) each⟩
  | principal listed leaves first last =>
    exact .inr ⟨_, listed, leaves, lastKind_principal (fun _ => creates?_of_retypes) first last,
      lastKind_principal (fun _ => destroys?_of_retypes) first last⟩

/-! ## Emitters -/

variable {log : Log} {r : Registry} {modules : List OverrideModule} {space : String} {e : Emitter}

/-- The emitter of a registry with the overrides of plain modules. -/
theorem answer_emitter (plain : ∀ m ∈ modules, m.Plain) (log : Log) (r : Registry) (space : String) :
    (Build.emitter log r modules space).answer = (Build.overridden log r (trackerOf modules r) space).answer := by
  rw [Build.emitter, registerAll_ok plain]

section Applied

variable (plain : ∀ m ∈ modules, m.Plain) (applied : ((trackerOf modules r).apply r).answer = .ok ())
include plain applied

/-- It is made if the overrides apply and the number of commands is not too great. -/
theorem emitter_of_applied {width : IdWidth}
    (chosen : idWidthFor ((trackerOf modules r).apply r).state.2.functions.length = .ok width) (log : Log) (space : String) :
    (Build.emitter log r modules space).answer =
      .ok ⟨((trackerOf modules r).apply r).state.2, ((trackerOf modules r).apply r).state.1, space, width,
        Registry.unambiguous_of_validate (OverrideTracker.validate_of_apply applied)⟩ := by
  rw [answer_emitter plain, Build.answer_overridden_ok log space applied, Emitter.ofRegistry, chosen]
  rfl

theorem emitter_of_excess {e : EmissionError}
    (excess : idWidthFor ((trackerOf modules r).apply r).state.2.functions.length = .error e) (log : Log) (space : String) :
    (Build.emitter log r modules space).answer = .error (.emission e) := by
  rw [answer_emitter plain, Build.answer_overridden_ok log space applied, Emitter.ofRegistry, excess]
  rfl

end Applied

theorem emitter_ok (plain : ∀ m ∈ modules, m.Plain) (built : (Build.emitter log r modules space).answer = .ok e) :
    ((trackerOf modules r).apply r).answer = .ok () ∧ e.overrides = ((trackerOf modules r).apply r).state.1 ∧
      e.registry = ((trackerOf modules r).apply r).state.2 ∧ e.space = space ∧
      idWidthFor e.functions.length = .ok e.idWidth := by
  rw [answer_emitter plain] at built
  cases applied : ((trackerOf modules r).apply r).answer with
  | error cause =>
    rw [Build.answer_overridden_error log space applied] at built
    cases built
  | ok _ =>
    rw [Build.answer_overridden_ok log space applied] at built
    obtain ⟨width, chosen, made⟩ := bind_ok (ok_of_mapError built)
    cases made
    refine ⟨rfl, rfl, rfl, rfl, ?_⟩
    rw [Emitter.functions, Keyed.values, List.length_map]
    exact chosen

theorem applied_of_emitter (filed : r.Filed) (built : (Build.emitter log r builtIns space).answer = .ok e) :
    OverrideTracker.Applied (builtInTracker r) r e.overrides e.registry := by
  obtain ⟨applied, overrides, registry, -⟩ := emitter_ok plain_builtIns built
  rw [overrides, registry]
  exact builtIn_applied filed applied

/-- Every function of an emitter with the built-in overrides is one of the registry, reshaped by the rules that were registered
for it: they only retype, or one is principal and leaves its arguments. -/
theorem original_of_emitter (filed : r.Filed) (built : (Build.emitter log r builtIns space).answer = .ok e) {k : Nat}
    {f : Function} (stands : e.functions[k]? = some f) : ∃ key original, r.functions[k]? = some (key, original) ∧
      original.reshapeAll? r.start (e.overrides.rulesOf f.name) = some f ∧
      ((∀ rule ∈ e.overrides.rulesOf f.name, rule.retypes = true) ∨
        ∃ before p after, e.overrides.rulesOf f.name = before ++ p :: after ∧ p ∈ principals ∧ p.function = key ∧ p.Leaves f ∧
          (∀ rule ∈ before, rule.retypes = true) ∧ ∀ rule ∈ after, rule.retypes = true) := by
  have applied := applied_of_emitter filed built
  rw [Emitter.functions, Keyed.values, List.getElem?_map] at stands
  obtain ⟨⟨name, g⟩, now, same⟩ := Option.map_eq_some_iff.mp stands
  dsimp only at same
  subst same
  have bound : k < r.functions.length := by
    rw [← applied.length]
    exact (List.getElem?_eq_some_iff.mp now).1
  obtain ⟨⟨key, f₀⟩, before⟩ : ∃ entry, r.functions[k]? = some entry := ⟨_, List.getElem?_eq_getElem bound⟩
  obtain ⟨h, reshaped, there, under⟩ := applied.each k key f₀ before
  rw [now] at there
  cases there
  rw [under]
  refine ⟨key, f₀, before, reshaped, ?_⟩
  rcases rulesOf_shape r key with each | ⟨first, p, last, split, listed, named, front, behind⟩
  · exact .inl each
  · rw [split] at reshaped ⊢
    refine .inr ⟨first, p, last, rfl, listed, named, leaves_of_reshapeAll? listed behind ?_ reshaped, front, behind⟩
    intro other rule member
    have own : rule ∈ (builtInTracker r).rulesOf key := by
      rw [split]
      exact List.mem_append_right _ (List.mem_cons_of_mem _ member)
    rw [rulesOf_builtInTracker] at own
    obtain ⟨own, same⟩ := List.mem_filter.mp own
    refine native_of_retypes own (behind rule member) ?_
    rw [of_decide_eq_true same, ← named]
    exact other

theorem overridden_of_emitter (filed : r.Filed) (built : (Build.emitter log r builtIns space).answer = .ok e) {k : Nat}
    {f : Function} (stands : e.functions[k]? = some f) : f.Overridden (e.overrides.rulesOf f.name) := by
  obtain ⟨key, original, -, -, each | ⟨before, p, after, split, listed, -, leaves, first, last⟩⟩ :=
    original_of_emitter filed built stands
  · exact .plain each
  · rw [split]
    exact .principal listed leaves first last

end CommandStream
