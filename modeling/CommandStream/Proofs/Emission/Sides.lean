import CommandStream.Proofs.Emission.Ids
import CommandStream.Proofs.Override.Signature

/-!
# The two sides of a command

With the built-in overrides, at most one rule of a function provides statements. So the producer of a command writes the
arguments and then hands out a handle or returns a default value, and the consumer reads them and makes one native call, or
makes an object, or deletes one. Whatever is proved of the statements of a function is proved of these.
-/

namespace CommandStream

namespace Emitter

open OverrideModule

variable {e : Emitter} {f : Function}

/-! ## Rules together -/

section Combined

variable {side : Rule → Except EmissionError (Option (List Statement))} {rules before after : List Rule} {p : Rule}

theorem mapM_quiet (quiet : ∀ rule ∈ rules, side rule = .ok none) : rules.mapM side = .ok (rules.map fun _ => none) := by
  induction rules with
  | nil => rfl
  | cons rule rest ih =>
    rw [List.mapM_cons, quiet rule List.mem_cons_self, ih fun other member => quiet other (List.mem_cons_of_mem _ member)]
    rfl

theorem filterMap_quiet (rules : List Rule) : (rules.map fun _ => (none : Option (List Statement))).filterMap id = [] := by
  rw [List.filterMap_map]
  exact List.filterMap_eq_nil_iff.mpr fun _ _ => rfl

/-- Rules that provide nothing. -/
theorem combined_quiet (quiet : ∀ rule ∈ rules, side rule = .ok none) : combined rules side = .ok none := by
  rw [combined, mapM_quiet quiet]
  simp only [bind, Except.bind, filterMap_quiet]
  rfl

/-- A rule among rules that provide nothing, whether it fails or not. -/
theorem combined_single (first : ∀ rule ∈ before, side rule = .ok none) (last : ∀ rule ∈ after, side rule = .ok none) :
    combined (before ++ p :: after) side = side p := by
  cases provided : side p with
  | error e =>
    rw [combined, List.mapM_append, mapM_quiet first, List.mapM_cons, provided]
    rfl
  | ok part =>
    have all : (before ++ p :: after).mapM side =
        .ok ((before.map fun _ => none) ++ part :: after.map fun _ => none) := by
      rw [List.mapM_append, List.mapM_cons, mapM_quiet first, provided, mapM_quiet last]
      rfl
    rw [combined, all]
    simp only [bind, Except.bind, List.filterMap_append, List.filterMap_cons, filterMap_quiet]
    cases part with
    | none => rfl
    | some statements =>
      simp only [id_eq, List.nil_append, List.isEmpty_cons, Bool.false_eq_true, if_false, List.flatten_cons, List.flatten_nil,
        List.append_nil]

section Retyping

variable (quiet : ∀ rule : Rule, rule.retypes = true → side rule = .ok none)
include quiet

/-- Rules that retype provide nothing together. -/
theorem combined_plain (each : ∀ rule ∈ rules, rule.retypes = true) : combined rules side = .ok none :=
  combined_quiet fun rule member => quiet rule (each rule member)

/-- A rule among rules that retype provides what it provides alone. -/
theorem combined_around (first : ∀ rule ∈ before, rule.retypes = true) (last : ∀ rule ∈ after, rule.retypes = true) :
    combined (before ++ p :: after) side = side p :=
  combined_single (fun rule member => quiet rule (first rule member)) fun rule member => quiet rule (last rule member)

end Retyping

end Combined

theorem producedBy_of_retypes {rule : Rule} (retypes : rule.retypes = true) : e.producedBy f rule = .ok none := by
  obtain ⟨_, _, _, _, effect⟩ := effect_of_retypes retypes
  simp only [producedBy, effect]

theorem consumedBy_of_retypes {rule : Rule} (retypes : rule.retypes = true) : e.consumedBy f rule = .ok none := by
  obtain ⟨_, _, _, _, effect⟩ := effect_of_retypes retypes
  simp only [consumedBy, effect]

/-- The producer writes the command, and does what the rules provide, or writes the arguments and returns a default value. -/
theorem writeStatements_of {custom : Option (List Statement)}
    (provided : combined (e.overrides.rulesOf f.name) (e.producedBy f) = .ok custom) : e.writeStatements f =
      .ok (.writeCommand f.shortName :: custom.getD (e.defaultWrites f ++ unprovidedResult f)) := by
  rw [writeStatements, provided]
  rfl

/-- The consumer does what the rules provide, or reads the arguments and calls the function by its name. -/
theorem readStatements_of {custom : Option (List Statement)}
    (provided : combined (e.overrides.rulesOf f.name) (e.consumedBy f) = .ok custom) :
    e.readStatements f = .ok (custom.getD (e.defaultReads f ++ [.check ⟨f.name, passedAll f, false⟩])) := by
  rw [readStatements, provided]
  rfl

/-! ## Principal rules -/

/-- What the producer of a function does behind its id, with the kind of which the command makes an object. -/
def produced (e : Emitter) (f : Function) : Option ResourceKind → List Statement
  | some kind => e.handOut f kind
  | none => e.defaultWrites f ++ unprovidedResult f

/-- A native call of a function with arguments in which a dot can only come from the name of an argument. -/
structure Calls (f : Function) (function : String) (call : NativeCall) : Prop where
  native : call.function = function
  undotted : ∀ text ∈ call.arguments, '.' ∈ text.toList → ∃ a ∈ f.type.arguments, '.' ∈ a.name.toList

/-- What the consumer of a function does, with the kinds that its rules make and delete. It calls a native function. -/
inductive Consumed (e : Emitter) (f : Function) (function : String) :
    Option ResourceKind → Option ResourceKind → List Statement → Prop
  | makes {kind : ResourceKind} {call : NativeCall} (native : Calls f function call) :
      Consumed e f function (some kind) none (e.makeObject f kind call)
  /-- The handle that is read is the one argument of the function. -/
  | deletes {kind : ResourceKind} {argument : String} {call : NativeCall} (native : Calls f function call)
      (single : call.makesObject = false) (lone : f.type.arguments = [⟨kind.handleType, argument, false⟩]) :
      Consumed e f function none (some kind) (deleteObject kind call)
  | calls {call : NativeCall} (native : Calls f function call) (single : call.makesObject = false) :
      Consumed e f function none none (e.defaultReads f ++ [.check call])

theorem undotted_passedAll (f : Function) :
    ∀ text ∈ passedAll f, '.' ∈ text.toList → ∃ a ∈ f.type.arguments, '.' ∈ a.name.toList := by
  intro text member dot
  obtain ⟨a, listed, rfl⟩ := List.mem_map.mp member
  refine ⟨a, listed, ?_⟩
  unfold passed at dot
  split at dot
  · simpa [String.toList_append] using dot
  · exact dot

section Principal

variable {p : Rule} (listed : p ∈ principals)
include listed

/-- A principal rule has the producer hand out what it makes, and otherwise leaves the producer alone. -/
theorem producedBy_of_principal (e : Emitter) (f : Function) : ∃ part, e.producedBy f p = .ok part ∧
    part.getD (e.defaultWrites f ++ unprovidedResult f) = e.produced f p.creates? := by
  rcases principal_cases p listed with ⟨kind, name, kept, effect⟩ | ⟨kind, effect⟩ | ⟨kind, argument, name, effect, -⟩ | rfl
  · exact ⟨some (e.handOut f kind), by simp only [producedBy, effect], by simp only [Rule.creates?, effect]; rfl⟩
  · refine ⟨some (e.handOut f kind), ?_, by simp only [Rule.creates?, effect]; rfl⟩
    simp only [producedBy, effect]
    rfl
  · exact ⟨none, by simp only [producedBy, effect], by simp only [Rule.creates?, effect]; rfl⟩
  · exact ⟨none, rfl, rfl⟩

/-- A principal rule has the consumer call the function for which it was registered. -/
theorem consumedBy_of_principal (e : Emitter) (leaves : p.Leaves f) : ∃ statements, e.consumedBy f p = .ok (some statements) ∧
    e.Consumed f p.function p.creates? p.destroys? statements := by
  rcases principal_cases p listed with ⟨kind, name, kept, effect⟩ | ⟨kind, effect⟩ | ⟨kind, argument, name, effect, -⟩ | rfl
  · refine ⟨e.makeObject f kind ⟨p.function, passedAll f ++ ["1", "&object"], false⟩, by simp only [consumedBy, effect], ?_⟩
    simp only [Rule.creates?, Rule.destroys?, effect]
    refine .makes ⟨rfl, fun text member => ?_⟩
    rcases List.mem_append.mp member with passed | fixed
    · exact undotted_passedAll f text passed
    · intro dot
      simp only [List.mem_cons, List.not_mem_nil, or_false] at fixed
      rcases fixed with rfl | rfl <;> exact absurd dot (by decide)
  · refine ⟨e.makeObject f kind ⟨p.function, passedAll f, true⟩, by simp only [consumedBy, effect]; rfl, ?_⟩
    simp only [Rule.creates?, Rule.destroys?, effect]
    exact .makes ⟨rfl, undotted_passedAll f⟩
  · refine ⟨deleteObject kind ⟨p.function, if deletesSeveral name then ["1", "&object"] else ["object"], false⟩,
      by simp only [consumedBy, effect], ?_⟩
    simp only [Rule.Leaves, effect] at leaves
    simp only [Rule.creates?, Rule.destroys?, effect]
    refine .deletes ⟨rfl, fun text member dot => ?_⟩ rfl leaves
    dsimp only at member
    split at member
    all_goals
      simp only [List.mem_cons, List.not_mem_nil, or_false] at member
      rcases member with rfl | rfl <;> exact absurd dot (by decide)
  · have three : f.type.arguments.length = 3 := leaves
    obtain ⟨a, b, c, arguments⟩ := List.length_eq_three.mp three
    have native : Calls f "glShaderSource" ⟨"glShaderSource", [a.name, "1", "&" ++ b.name, "&" ++ c.name], false⟩ := by
      refine ⟨rfl, fun text member dot => ?_⟩
      rw [arguments]
      simp only [List.mem_cons, List.not_mem_nil, or_false] at member
      rcases member with rfl | rfl | rfl | rfl
      · exact ⟨a, List.mem_cons_self, dot⟩
      · exact absurd dot (by decide)
      · exact ⟨b, by simp, by simpa [String.toList_append] using dot⟩
      · exact ⟨c, by simp, by simpa [String.toList_append] using dot⟩
    exact ⟨_, by simp only [consumedBy, shaderTextRule, arguments], .calls native rfl⟩

end Principal

/-! ## The type of the result -/

section Result

variable {start : String} {g : Function} {rules before after : List Rule} {p : Rule} {kind : ResourceKind}

theorem returnType_of_retyping (each : ∀ rule ∈ rules, rule.retypes = true) (reshaped : f.reshapeAll? start rules = some g) :
    g.type.returnType = f.type.returnType := by
  induction rules generalizing f with
  | nil =>
    cases reshaped
    rfl
  | cons rule rest ih =>
    rw [Function.reshapeAll?, List.foldlM_cons] at reshaped
    obtain ⟨h, first, reshaped⟩ := Option.bind_eq_some_iff.mp reshaped
    obtain ⟨type, names, indices, native, effect⟩ := effect_of_retypes (each rule List.mem_cons_self)
    rw [effect] at first
    cases first
    have others := ih (fun other member => each other (List.mem_cons_of_mem _ member)) reshaped
    exact others

/-- A rule that makes objects has its function return a handle of their kind. -/
theorem returnType_of_creates (creates : p.creates? = some kind) (reshaped : p.effect.reshape? start f = some g) :
    g.type.returnType = kind.handleType := by
  unfold Rule.creates? at creates
  split at creates
  · rename_i effect
    cases creates
    rw [effect] at reshaped
    obtain ⟨h, -, rfl⟩ := Option.map_eq_some_iff.mp reshaped
    rfl
  · rename_i effect
    subst creates
    rw [effect] at reshaped
    cases reshaped
    rfl
  · cases creates

/-- The handle outlasts the rules behind such a rule. -/
theorem returnType_around (last : ∀ rule ∈ after, rule.retypes = true) (creates : p.creates? = some kind)
    (reshaped : f.reshapeAll? start (before ++ p :: after) = some g) : g.type.returnType = kind.handleType := by
  rw [Function.reshapeAll?, List.foldlM_append] at reshaped
  obtain ⟨f₁, -, behind⟩ := Option.bind_eq_some_iff.mp reshaped
  rw [List.foldlM_cons] at behind
  obtain ⟨f₂, here, rest⟩ := Option.bind_eq_some_iff.mp behind
  exact (returnType_of_retyping last rest).trans (returnType_of_creates creates here)

end Result

/-! ## Functions of an emitter -/

theorem targets_of_retypes {rule : Rule} (retypes : rule.retypes = true) : rule.effect.targets = [] := by
  obtain ⟨_, _, _, _, effect⟩ := effect_of_retypes retypes
  rw [effect]
  rfl

/-- Functions keep their names under rules that give none. -/
theorem name_of_targets {start : String} {rules : List Rule} {g : Function}
    (none_given : ∀ rule ∈ rules, rule.effect.targets = []) (reshaped : f.reshapeAll? start rules = some g) : g.name = f.name := by
  rcases name_of_reshapeAll? reshaped with same | ⟨rule, member, given⟩
  · exact same
  · rw [none_given rule member] at given
    cases given

theorem kinds_of_principal : ∀ p ∈ principals, ∀ kind ∈ p.creates?.toList ++ p.destroys?.toList, kind ∈ builtInKinds := by
  decide

/-- What both sides of a function come to: they make and delete objects of some kinds, and call a native function. -/
structure Sides (e : Emitter) (f : Function) (function : String) (made deleted : Option ResourceKind) : Prop where
  writes : e.writeStatements f = .ok (.writeCommand f.shortName :: e.produced f made)
  reads : ∃ statements, e.readStatements f = .ok statements ∧ e.Consumed f function made deleted statements
  /-- What is made is returned. -/
  returned : ∀ kind ∈ made, f.type.returnType = kind.handleType
  builtIn : ∀ kind ∈ made.toList ++ deleted.toList, kind ∈ builtInKinds

section Built

variable {log : Log} {space : String} {r : Registry} (filed : r.Filed)
  (built : (Build.emitter log r builtIns space).answer = .ok e)
include filed built

/-- The sides of a function of an emitter with the built-in overrides. The native function is the one that the registry had at
its place, by the name there. -/
theorem sides_of_emitter {k : Nat} (stands : e.functions[k]? = some f) : ∃ key original,
    r.functions[k]? = some (key, original) ∧ original.name = key ∧
      e.Sides f key (Command.lastKind Rule.creates? (e.overrides.rulesOf f.name))
        (Command.lastKind Rule.destroys? (e.overrides.rulesOf f.name)) := by
  obtain ⟨key, original, before, reshaped, shape⟩ := original_of_emitter filed built stands
  have named := filed.name_eq before
  refine ⟨key, original, before, named, ?_⟩
  rcases shape with each | ⟨first, p, last, split, listed, registered, leaves, front, behind⟩
  · have own : f.name = key := (name_of_targets (fun rule member => targets_of_retypes (each rule member)) reshaped).trans named
    rw [lastKind_plain (fun _ => creates?_of_retypes) each, lastKind_plain (fun _ => destroys?_of_retypes) each]
    exact {
      writes := writeStatements_of (combined_plain (fun _ => producedBy_of_retypes) each)
      reads := ⟨_, readStatements_of (combined_plain (fun _ => consumedBy_of_retypes) each),
        .calls ⟨own, undotted_passedAll f⟩ rfl⟩
      returned := fun _ none_ => by cases none_
      builtIn := fun _ none_ => by cases none_ }
  · obtain ⟨part, provided, produced⟩ := producedBy_of_principal listed e f
    obtain ⟨statements, done, consumed⟩ := consumedBy_of_principal listed e leaves
    rw [split] at reshaped
    have together {side : Rule → Except EmissionError (Option (List Statement))} (quiet : ∀ rule : Rule, rule.retypes = true →
        side rule = .ok none) : combined (e.overrides.rulesOf f.name) side = side p := by
      rw [split]
      exact combined_around quiet front behind
    have written := writeStatements_of ((together fun _ => producedBy_of_retypes).trans provided)
    have read := readStatements_of ((together fun _ => consumedBy_of_retypes).trans done)
    rw [produced] at written
    rw [split, lastKind_principal (fun _ => creates?_of_retypes) front behind,
      lastKind_principal (fun _ => destroys?_of_retypes) front behind]
    exact {
      writes := written
      reads := ⟨statements, read, registered ▸ consumed⟩
      returned := fun kind creates => returnType_around behind creates reshaped
      builtIn := kinds_of_principal p listed }

end Built

end Emitter

end CommandStream
