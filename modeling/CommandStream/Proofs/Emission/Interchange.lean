import Mathlib.Data.List.Forall2
import CommandStream.Proofs.Emission.Numbering
import CommandStream.Proofs.Override.Interchange

/-!
# Artifacts in another order of the modules

The built-in modules come to the same artifacts in every order, but for the order of the resource kinds: functions come
out alike, at most one rule of a function has statements, and the marks that may differ are never looked at.
-/

namespace CommandStream
open OverrideModule

theorem mapM_of_forall₂ {α β γ ε : Type} {f : α → Except ε γ} {g : β → Except ε γ} {items : List α} {others : List β}
    (same : List.Forall₂ (fun a b => g b = f a) items others) : others.mapM g = items.mapM f := by
  induction same with
  | nil => rfl
  | cons head _ ih => rw [List.mapM_cons, List.mapM_cons, head, ih]

theorem map_of_forall₂ {α β γ : Type} {f : α → γ} {g : β → γ} {items : List α} {others : List β}
    (same : List.Forall₂ (fun a b => g b = f a) items others) : others.map g = items.map f := by
  induction same with
  | nil => rfl
  | cons head _ ih => rw [List.map_cons, List.map_cons, head, ih]

namespace Emitter

variable {e e' : Emitter} {g g' : Function} {wanted : List Rule}

/-- Emitters whose values travel alike. -/
structure Travels (e e' : Emitter) : Prop where
  reads : ∀ type, Keyed.find? e'.overrides.reads type = Keyed.find? e.overrides.reads type
  writes : ∀ type, Keyed.find? e'.overrides.writes type = Keyed.find? e.overrides.writes type

/-- A function of one emitter and its like of another: the same rules have statements for both, and they are the same up
to marks, which only the rule for shader text may leave different. -/
structure Twins (wanted : List Rule) (e e' : Emitter) (g g' : Function) : Prop where
  few : wanted.length ≤ 1
  rules : ((e.overrides.rulesOf g.name).filter fun rule => !rule.retypes).Perm wanted
  rules' : ((e'.overrides.rulesOf g'.name).filter fun rule => !rule.retypes).Perm wanted
  alike : g'.unmarked = g.unmarked
  marks : g' = g ∨ wanted = [shaderTextRule] ∧ g.type.arguments.length = 3

/-! ## Statements -/

section Statements

theorem defaultWrites_unmarked (e : Emitter) (g : Function) : e.defaultWrites g.unmarked = e.defaultWrites g := by
  show (g.type.arguments.map fun a => { a with isEnum := false }).flatMap (e.writesOf g.unmarked) = _
  rw [List.flatMap_map]
  rfl

theorem declaration_unmarked (g : Function) (qualified : Bool) : declaration g.unmarked qualified = declaration g qualified := by
  have parameters : g.unmarked.type.parameters = g.type.parameters := by
    show ", ".intercalate ((g.type.arguments.map fun a => { a with isEnum := false }).map Argument.toC) = _
    rw [List.map_map]
    rfl
  rw [declaration, declaration, parameters]
  rfl

theorem defaultReads_unmarked (e : Emitter) (g : Function) : e.defaultReads g.unmarked = e.defaultReads g := by
  show (g.type.arguments.map fun a => { a with isEnum := false }).flatMap (e.readsOf g.unmarked) = _
  rw [List.flatMap_map]
  rfl

variable (travels : e.Travels e')
include travels

theorem defaultWrites_alike (alike : g'.unmarked = g.unmarked) : e'.defaultWrites g' = e.defaultWrites g := by
  have same : e'.writesOf g.unmarked = e.writesOf g.unmarked := by
    funext a
    rw [writesOf, writesOf, travels.writes]
  rw [← defaultWrites_unmarked e' g', ← defaultWrites_unmarked e g, alike, defaultWrites, same]
  rfl

theorem defaultReads_alike (alike : g'.unmarked = g.unmarked) : e'.defaultReads g' = e.defaultReads g := by
  have same : e'.readsOf g.unmarked = e.readsOf g.unmarked := by
    funext a
    rw [readsOf, readsOf, travels.reads]
  rw [← defaultReads_unmarked e' g', ← defaultReads_unmarked e g, alike, defaultReads, same]
  rfl

theorem producedBy_alike (alike : g'.unmarked = g.unmarked) (rule : Rule) : e'.producedBy g' rule = e.producedBy g rule := by
  unfold producedBy handOut
  rw [defaultWrites_alike travels alike]

theorem consumedBy_alike (g : Function) (rule : Rule) : e'.consumedBy g rule = e.consumedBy g rule := by
  unfold consumedBy makeObject
  rw [defaultReads_alike travels rfl]

end Statements

section Combined

variable {side side' : Rule → Except EmissionError (Option (List Statement))} {rules rules' : List Rule}

/-- Rules of which one at most does more than retype come to what that one provides. -/
theorem combined_of_special (quiet : ∀ rule : Rule, rule.retypes = true → side rule = .ok none)
    (special : (rules.filter fun rule => !rule.retypes).Perm wanted) (few : wanted.length ≤ 1) :
    combined rules side = match wanted with
      | [] => .ok none
      | p :: _ => side p := by
  rcases split_at_special special few with ⟨rfl, each⟩ | ⟨before, p, after, rfl, rfl, first, last⟩
  · exact combined_plain quiet each
  · exact combined_around quiet first last

/-- The rules of twins come to the same if the one that does more than retype does. -/
theorem combined_same (quiet : ∀ rule : Rule, rule.retypes = true → side rule = .ok none)
    (quiet' : ∀ rule : Rule, rule.retypes = true → side' rule = .ok none)
    (special : (rules.filter fun rule => !rule.retypes).Perm wanted)
    (special' : (rules'.filter fun rule => !rule.retypes).Perm wanted) (few : wanted.length ≤ 1)
    (same : ∀ p ∈ wanted, side' p = side p) : combined rules' side' = combined rules side := by
  rw [combined_of_special quiet special few, combined_of_special quiet' special' few]
  cases wanted with
  | nil => rfl
  | cons p rest => exact same p List.mem_cons_self

end Combined

namespace Twins

variable (twins : Twins wanted e e' g g') (travels : e.Travels e')
include twins

theorem shortName : g'.shortName = g.shortName := by
  have same : g'.unmarked.shortName = g.unmarked.shortName := congrArg Function.shortName twins.alike
  exact same

theorem declaration (qualified : Bool) : Emitter.declaration g' qualified = Emitter.declaration g qualified := by
  rw [← declaration_unmarked g', ← declaration_unmarked g, twins.alike]

include travels

/-- Twins have the same statements in the producer. -/
theorem writeStatements : e'.writeStatements g' = e.writeStatements g := by
  have result : unprovidedResult g'.unmarked = unprovidedResult g.unmarked := congrArg unprovidedResult twins.alike
  have result : unprovidedResult g' = unprovidedResult g := result
  have provided : combined (e'.overrides.rulesOf g'.name) (e'.producedBy g') =
      combined (e.overrides.rulesOf g.name) (e.producedBy g) :=
    combined_same (fun _ => producedBy_of_retypes) (fun _ => producedBy_of_retypes) twins.rules twins.rules' twins.few
      fun p _ => producedBy_alike travels twins.alike p
  rw [Emitter.writeStatements, Emitter.writeStatements, provided, defaultWrites_alike travels twins.alike, result,
    twins.shortName]

/-- Twins have the same statements in the consumer: where their marks may differ, the rule for shader text passes its
arguments on without casting them. -/
theorem readStatements : e'.readStatements g' = e.readStatements g := by
  rcases twins.marks with rfl | ⟨rfl, three⟩
  · have provided : combined (e'.overrides.rulesOf g'.name) (e'.consumedBy g') =
        combined (e.overrides.rulesOf g'.name) (e.consumedBy g') :=
      combined_same (fun _ => consumedBy_of_retypes) (fun _ => consumedBy_of_retypes) twins.rules twins.rules' twins.few
        fun p _ => consumedBy_alike travels g' p
    rw [Emitter.readStatements, Emitter.readStatements, provided, defaultReads_alike travels rfl]
  · obtain ⟨a, b, c, arguments⟩ := List.length_eq_three.mp three
    have names : g'.type.arguments.map Argument.name = [a.name, b.name, c.name] := by
      have same := congrArg (fun h : Function => h.type.arguments.map Argument.name) twins.alike
      simp only [Function.unmarked, Function.withArguments, FunctionType.withArguments, List.map_map, arguments] at same
      exact same
    obtain ⟨a', b', c', arguments'⟩ := List.length_eq_three.mp ((List.length_map _).symm.trans (congrArg List.length names))
    rw [arguments'] at names
    injection names with first names
    injection names with second names
    injection names with third
    have one : e.consumedBy g shaderTextRule = .ok (some (e.defaultReads g ++
        [.check ⟨"glShaderSource", [a.name, "1", "&" ++ b.name, "&" ++ c.name], false⟩])) := by
      simp only [consumedBy, shaderTextRule, arguments]
    have other : e'.consumedBy g' shaderTextRule = .ok (some (e'.defaultReads g' ++
        [.check ⟨"glShaderSource", [a'.name, "1", "&" ++ b'.name, "&" ++ c'.name], false⟩])) := by
      simp only [consumedBy, shaderTextRule, arguments']
    rw [Emitter.readStatements, Emitter.readStatements, combined_of_special (fun _ => consumedBy_of_retypes) twins.rules twins.few,
      combined_of_special (fun _ => consumedBy_of_retypes) twins.rules' twins.few]
    dsimp only
    rw [one, other, first, second, third, defaultReads_alike travels twins.alike]
    rfl

end Twins

/-! ## Artifacts -/

/-- Emitters of which every function has its twin. -/
structure Peers (e e' : Emitter) : Prop where
  space : e'.space = e.space
  idWidth : e'.idWidth = e.idWidth
  enums : e'.registry.enums = e.registry.enums
  travels : e.Travels e'
  twins : List.Forall₂ (fun g g' => ∃ wanted, Twins wanted e e' g g') e.functions e'.functions

theorem memberLines_unmarked (current : String) (functions : List Function) :
    (labelled current (functions.map Function.unmarked)).flatMap memberLines =
      (labelled current functions).flatMap memberLines := by
  induction functions generalizing current with
  | nil => rfl
  | cons g rest ih =>
    have access : g.unmarked.access = g.access := rfl
    have line : ∀ label, memberLines (label, g.unmarked) = memberLines (label, g) := by
      intro label
      rw [memberLines, memberLines, declaration_unmarked]
    rw [List.map_cons, labelled, labelled, access]
    split <;> rw [List.flatMap_cons, List.flatMap_cons, line, ih]

namespace Peers

variable (peers : e.Peers e')
include peers

theorem functions_alike : e'.functions.map Function.unmarked = e.functions.map Function.unmarked := by
  refine map_of_forall₂ (peers.twins.imp fun g g' paired => ?_)
  obtain ⟨wanted, twins⟩ := paired
  exact twins.alike

theorem shortNames_alike : e'.functions.map Function.shortName = e.functions.map Function.shortName := by
  have same := congrArg (List.map Function.shortName) peers.functions_alike
  rw [List.map_map, List.map_map] at same
  exact same

theorem enumerators_alike : e'.enumerators = e.enumerators := by
  have lines : ∀ e : Emitter,
      e.enumerators = (e.functions.map Function.shortName).map fun short => "            " ++ short ++ "," := by
    intro e
    rw [List.map_map]
    rfl
  rw [lines, lines, peers.shortNames_alike]

theorem producerLines_alike : e'.producerLines = e.producerLines := by
  have methods : e'.functions.mapM e'.methodLines = e.functions.mapM e.methodLines := by
    refine mapM_of_forall₂ (peers.twins.imp fun g g' paired => ?_)
    obtain ⟨wanted, twins⟩ := paired
    rw [methodLines, methodLines, twins.writeStatements peers.travels, twins.declaration]
  rw [producerLines, producerLines, methods, peers.space]

theorem consumerLines_alike : e'.consumerLines = e.consumerLines := by
  have cases_ : e'.functions.mapM e'.caseLines = e.functions.mapM e.caseLines := by
    refine mapM_of_forall₂ (peers.twins.imp fun g g' paired => ?_)
    obtain ⟨wanted, twins⟩ := paired
    rw [caseLines, caseLines, twins.readStatements peers.travels, twins.shortName]
  rw [consumerLines, consumerLines, cases_, peers.space]

/-- Peers have the same artifacts but for the resource kinds. -/
theorem lines_alike {a : Artifact} (other : a ≠ .resourceTables) : a.lines e' = a.lines e := by
  cases a with
  | commandIds =>
    show Except.ok e'.commandIdLines = .ok e.commandIdLines
    rw [commandIdLines, commandIdLines, peers.enumerators_alike, peers.space, peers.idWidth]
  | enumTypes =>
    show Except.ok e'.enumTypeLines = .ok e.enumTypeLines
    rw [enumTypeLines, enumTypeLines, enumGroups, enumGroups, peers.enums, peers.space]
  | transferBuffer => exact congrArg (fun space => Except.ok (Support.transferBuffer space)) peers.space
  | slotTables => exact congrArg (fun space => Except.ok (Support.slotTables space)) peers.space
  | resourceTables => exact absurd rfl other
  | errorCheck => exact congrArg (fun space => Except.ok (Support.errorCheck space)) peers.space
  | commandClass =>
    show Except.ok e'.commandClassLines = .ok e.commandClassLines
    rw [commandClassLines, commandClassLines, ← memberLines_unmarked _ e'.functions, ← memberLines_unmarked _ e.functions,
      peers.functions_alike, peers.space]
  | producer => exact peers.producerLines_alike
  | consumer => exact peers.consumerLines_alike

theorem commandIds_alike : e'.commandIds = e.commandIds := by
  have folded : ∀ e : Emitter, e.commandIds =
      (e.functions.map Function.shortName).foldl (fun ids short => Keyed.put ids short ids.length) [] := by
    intro e
    rw [List.foldl_map]
    rfl
  rw [folded, folded, peers.shortNames_alike]

end Peers

/-! ## Orders of the modules -/

section Orders

variable {log log' : Log} {r : Registry} {modules others : List OverrideModule} {space : String}
  (perm : modules.Perm builtIns) (filed : r.Filed)

section Built

variable (built : (Build.emitter log r modules space).answer = .ok e)
include perm filed built

/-- The kinds are those of the modules, and values of their handle types travel as handles. -/
theorem kinds_of_order : e.overrides.kinds = kindsOf modules ∧ e.overrides.reads = transfersOf (kindsOf modules) ∧
    e.overrides.writes = transfersOf (kindsOf modules) := by
  obtain ⟨applied, overrides, -⟩ := emitter_ok (plain_of_perm perm) built
  obtain ⟨rules, log, tracker⟩ := (OverrideTracker.apply_ok (orderly_of_perm perm filed) applied).tracker
  have owning := owning_of_perm perm r
  rw [overrides, tracker]
  exact ⟨owning.owned, owning.reads, owning.writes⟩

theorem enums_of_order : e.registry.enums = r.enums := by
  obtain ⟨applied, -, registry, -⟩ := emitter_ok (plain_of_perm perm) built
  obtain ⟨functions, shortNames, same⟩ := (OverrideTracker.apply_ok (orderly_of_perm perm filed) applied).others
  rw [registry, same]
  rfl

end Built

/-- Handle types of the built-in kinds travel in the same way in every order. -/
theorem transfers_of_perm {kinds others : List ResourceKind} (perm : kinds.Perm builtInKinds)
    (perm' : others.Perm builtInKinds) (type : String) :
    Keyed.find? (transfersOf others) type = Keyed.find? (transfersOf kinds) type := by
  refine find?_of_perm ((perm'.trans perm.symm).map _) ?_ type
  rw [Keyed.keys, List.map_map]
  exact (perm'.map ResourceKind.handleType).nodup_iff.mpr nodup_handleType

section Both

variable (built : (Build.emitter log r modules space).answer = .ok e) (perm' : others.Perm builtIns)
  (built' : (Build.emitter log' r others space).answer = .ok e')
include perm filed built perm' built'

theorem twins_of_perm {k : Nat} {key : String} {f : Function} (stands : r.functions[k]? = some (key, f)) : ∃ g g',
    e.functions[k]? = some g ∧ e'.functions[k]? = some g' ∧ ∃ wanted, Twins wanted e e' g g' := by
  obtain ⟨g, follows, now, under⟩ := followsTable_of_emitter perm filed built stands
  obtain ⟨g', follows', now', under'⟩ := followsTable_of_emitter perm' filed built' stands
  refine ⟨g, g', now, now', principals.filter fun rule => rule.function = key, ?_⟩
  exact {
    few := filter_key nodup_principals key
    rules := under ▸ filter_rulesOf_of_perm perm r key
    rules' := under' ▸ filter_rulesOf_of_perm perm' r key
    alike := Option.some.inj (follows'.alike follows)
    marks := by
      -- Only shader text leaves marks of the arguments that depend on the order, and takes three arguments then.
      have own : f.name = key := filed.name_eq stands
      by_cases text : f.name = "glShaderSource"
      · have only : (principals.filter fun rule => rule.function = "glShaderSource") = [shaderTextRule] := rfl
        exact .inr ⟨own ▸ text ▸ only, follows.length_of_text text⟩
      · have exactly : ∀ {g : Function}, f.FollowsTable r.start (some g) → g = f.overridden r.start := by
          rintro g (_ | ⟨named⟩)
          · rfl
          · exact absurd named text
        exact .inl ((exactly follows').trans (exactly follows).symm) }

/-- The built-in modules in two orders come to emitters of which every function has its twin. -/
theorem peers_of_perm : Peers e e' := by
  obtain ⟨-, reads, writes⟩ := kinds_of_order perm filed built
  obtain ⟨-, reads', writes'⟩ := kinds_of_order perm' filed built'
  have length := length_of_emitter perm filed built
  have length' := length_of_emitter perm' filed built'
  obtain ⟨-, -, -, named, width⟩ := emitter_ok (plain_of_perm perm) built
  obtain ⟨-, -, -, named', width'⟩ := emitter_ok (plain_of_perm perm') built'
  exact {
    space := named'.trans named.symm
    idWidth := by
      rw [length', ← length, width] at width'
      exact (Except.ok.inj width').symm
    enums := (enums_of_order perm' filed built').trans (enums_of_order perm filed built).symm
    travels := {
      reads := by
        rw [reads, reads']
        exact transfers_of_perm (kindsOf_of_perm perm) (kindsOf_of_perm perm')
      writes := by
        rw [writes, writes']
        exact transfers_of_perm (kindsOf_of_perm perm) (kindsOf_of_perm perm') }
    twins := by
      refine List.forall₂_iff_get.mpr ⟨length.trans length'.symm, fun k bound bound' => ?_⟩
      have bound'' : k < r.functions.length := length ▸ bound
      obtain ⟨g, g', now, now', twins⟩ := twins_of_perm perm filed built perm' built' (List.getElem?_eq_getElem bound'')
      rw [List.get_eq_getElem, List.get_eq_getElem, (List.getElem?_eq_some_iff.mp now).2, (List.getElem?_eq_some_iff.mp now').2]
      exact twins }

end Both

include perm filed

omit perm filed in
/-- Too many commands are a reason for which nothing can be emitted. -/
theorem unfit_of_idWidthFor {count : Int} {cause : EmissionError} (excess : idWidthFor count = .error cause) :
    cause.unfit = true := by
  unfold idWidthFor at excess
  split at excess <;> cases excess
  rfl

/-- The built-in modules come to an emitter, or nothing can be emitted. -/
theorem emitter_cases (indexed : r.Indexed) (log : Log) (space : String) :
    (∃ e, (Build.emitter log r modules space).answer = .ok e) ∨
    ∃ cause, (Build.emitter log r modules space).answer = .error cause ∧ cause.unfit = true := by
  have plain := plain_of_perm perm
  cases applied : ((trackerOf modules r).apply r).answer with
  | error cause =>
    rw [answer_emitter plain, Build.answer_overridden_error log space applied]
    exact .inr ⟨_, rfl, unfit_of_perm perm filed indexed applied⟩
  | ok _ =>
    cases chosen : idWidthFor ((trackerOf modules r).apply r).state.2.functions.length with
    | ok width => exact .inl ⟨_, emitter_of_applied plain applied chosen log space⟩
    | error cause => exact .inr ⟨_, emitter_of_excess plain applied chosen log space, unfit_of_idWidthFor chosen⟩

/-- What can be emitted with the built-in modules in one order can be with any other. -/
theorem exists_emitter_of_perm (indexed : r.Indexed) (built : (Build.emitter log r modules space).answer = .ok e)
    (perm' : others.Perm builtIns) (log' : Log) : ∃ e', (Build.emitter log' r others space).answer = .ok e' := by
  obtain ⟨applied, -, -, -, width⟩ := emitter_ok (plain_of_perm perm) built
  have applied' := applies_of_perm perm filed perm' indexed applied
  have length := (OverrideTracker.apply_ok (orderly_of_perm perm' filed) applied').length
  rw [length_of_emitter perm filed built, ← length] at width
  exact ⟨_, emitter_of_applied (plain_of_perm perm') applied' width log' space⟩

end Orders

/-- Emitters that come to the same, but for the order of the resource kinds. -/
structure Alike (e e' : Emitter) : Prop where
  functions : e'.functions.map Function.unmarked = e.functions.map Function.unmarked
  commandIds : e'.commandIds = e.commandIds
  idWidth : e'.idWidth = e.idWidth
  texts : ∀ a : Artifact, a ≠ .resourceTables → ∃ text, a.text e = .ok text ∧ a.text e' = .ok text
  kinds : e'.overrides.kinds.Perm e.overrides.kinds
  /-- The text for the resource kinds is that of the other emitter with its kinds in their order. -/
  resources : ∃ text, Artifact.resourceTables.text e' = .ok text ∧
    Artifact.resourceTables.text { e with overrides := { e.overrides with kinds := e'.overrides.kinds } } = .ok text

/-- Every artifact of an emitter with the built-in overrides can be rendered. -/
theorem exists_text {log : Log} {r : Registry} {space : String} (filed : r.Filed)
    (built : (Build.emitter log r builtIns space).answer = .ok e) (a : Artifact) : ∃ text, a.text e = .ok text := by
  have statements := statements_of_emitter built filed
  have rendered : ∃ lines, a.lines e = .ok lines := by
    cases a with
    | producer =>
      obtain ⟨lines, made, -⟩ := producerLines_ok fun f member => (statements f member).1
      exact ⟨lines, made⟩
    | consumer =>
      obtain ⟨lines, made, -⟩ := consumerLines_ok fun f member => (statements f member).2
      exact ⟨lines, made⟩
    | _ => exact ⟨_, rfl⟩
  obtain ⟨lines, made⟩ := rendered
  rw [Artifact.text, made]
  exact ⟨_, rfl⟩

section Read

variable {log log' : Log} {start space : String} {lines : List String}
  {description : Option (Except Markup.DocumentError Markup.Element)} {r : Registry} {modules : List OverrideModule}

/-- The order of the built-in modules does not matter. With every order of them nothing can be emitted for a registry
that is read, or emitters of it come to the same functions, ids and texts, but for the order of the resource kinds. -/
theorem same_in_any_order (parsed : (Build.readRegistry log start lines description).answer = .ok r)
    (perm : modules.Perm builtIns) (log' : Log) (space : String) :
    (∃ e e', (Build.emitter log r builtIns space).answer = .ok e ∧ (Build.emitter log' r modules space).answer = .ok e' ∧
      e.Alike e') ∨
    ∃ cause cause', (Build.emitter log r builtIns space).answer = .error cause ∧ cause.unfit = true ∧
      (Build.emitter log' r modules space).answer = .error cause' ∧ cause'.unfit = true := by
  have filed := Build.filed_readRegistry parsed
  have indexed := Build.indexed_readRegistry parsed
  rcases emitter_cases (.refl builtIns) filed indexed log space with ⟨e, built⟩ | ⟨cause, failed, unfit⟩
  · obtain ⟨e', built'⟩ := exists_emitter_of_perm (.refl builtIns) filed indexed built perm log'
    have peers := peers_of_perm (.refl builtIns) filed built perm built'
    refine .inl ⟨e, e', built, built', ?_⟩
    exact {
      functions := peers.functions_alike
      commandIds := peers.commandIds_alike
      idWidth := peers.idWidth
      texts := by
        intro a other
        obtain ⟨text, rendered⟩ := exists_text filed built a
        refine ⟨text, rendered, ?_⟩
        rw [Artifact.text, peers.lines_alike other]
        exact rendered
      kinds := by
        rw [(kinds_of_order (.refl builtIns) filed built).1, (kinds_of_order perm filed built').1]
        exact perm.filterMap _
      resources := by
        refine ⟨_, rfl, ?_⟩
        show Except.ok (Artifact.textOf _) = _
        rw [resourceLines, resourceLines, peers.space] }
  · rcases emitter_cases perm filed indexed log' space with ⟨e', built'⟩ | ⟨cause', failed', unfit'⟩
    · obtain ⟨e, built⟩ := exists_emitter_of_perm perm filed indexed built' (.refl builtIns) log
      rw [failed] at built
      cases built
    · exact .inr ⟨cause, cause', failed, unfit, failed', unfit'⟩

end Read

end Emitter

namespace AttachHeader

/-- The header has an emitter with the modules in their order and one with the modules in reverse, and these are alike. -/
theorem same_in_reverse : ∃ e e', (Build.emitter [] registry builtIns "gl").answer = .ok e ∧
    (Build.emitter [] registry builtIns.reverse "gl").answer = .ok e' ∧ e.Alike e' := by
  rcases Emitter.same_in_any_order parsed (List.reverse_perm builtIns) [] "gl" with built | ⟨cause, cause', failed, -⟩
  · exact built
  · obtain ⟨e, built⟩ := exists_emitter
    rw [built] at failed
    cases failed

end AttachHeader

end CommandStream
