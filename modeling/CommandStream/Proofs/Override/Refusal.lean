import CommandStream.Override.Module
import CommandStream.Proofs.Override.Application
import CommandStream.Proofs.Registry.Indexed

/-!
# When rules are refused

Rules that give a function one new name at most make of it what they should, unless they do not suit the function or
another one has the new name; where they fail, nothing can be emitted. Until the function is renamed the index of short
names is left alone, and then it loses no short name but that of the function.
-/

namespace CommandStream
open Registry

/-- An effect that fails only if nothing can be emitted. -/
def Effect.Proper : Effect → Prop
  | .generate _ name _ => name ≠ ""
  | .create kind => kind.isSome
  | .custom edits _ _ => ∃ kind, edits = OverrideModule.singleTextEdits kind
  | _ => True

theorem Effect.Proper.filing {effect : Effect} (proper : effect.Proper) : effect.Filing := by
  cases effect with
  | custom edits write read =>
    obtain ⟨kind, rfl⟩ := proper
    intro e member
    simp only [OverrideModule.singleTextEdits, List.mem_cons, List.not_mem_nil, or_false] at member
    rcases member with rfl | rfl | rfl | rfl | rfl <;> trivial
  | _ => trivial

/-! ## One function -/

namespace Registry

/-- What becomes of a function that may get one new name: it keeps its own and the index is left alone, or it gets the
new one, which is free, and the index loses its short name only. -/
inductive Renames (new : String) (r r' : Registry) (f g : Function) : Prop
  | kept (name : g.name = f.name) (shortName : g.shortName = f.shortName) (index : r'.shortNames = r.shortNames)
  | moved (name : g.name = new) (free : new ∉ Keyed.keys r.functions)
      (index : ∀ short ∈ Keyed.keys r.shortNames, short ≠ f.shortName → short ∈ Keyed.keys r'.shortNames)

/-- An operation on a function that may get one new name: it makes of the function what it should, or fails since
there is nothing it could make, or since another function has the new name. -/
inductive Turns {ε : Type} (unfit : ε → Bool) (new : String) (r : Registry) (place : Nat) (f : Function)
    (shaped : Option Function) (o : Outcome Registry ε Unit) : Prop
  | done {g : Function} (shape : shaped = some g) (answer : o.answer = .ok ()) (replaced : Replaced r o.state place g)
      (renames : Renames new r o.state f g)
  | unshaped {e : ε} (shape : shaped = none) (answer : o.answer = .error e) (unfit : unfit e = true)
  | taken {e : ε} (other : f.name ≠ new) (held : new ∈ Keyed.keys r.functions)
      (named : ∀ g, shaped = some g → g.name = new) (answer : o.answer = .error e) (unfit : unfit e = true)

variable {ε : Type} {unfit : ε → Bool} {r : Registry} {place : Nat} {key new : String} {f g : Function}

theorem keys_of_replaced {r' : Registry} (stands : r.functions[place]? = some (key, f)) (replaced : Replaced r r' place g)
    (same : g.name = key) : Keyed.keys r'.functions = Keyed.keys r.functions := by
  obtain ⟨bound, read⟩ := List.getElem?_eq_some_iff.mp (keys_getElem? stands)
  have set : Keyed.keys r'.functions = (Keyed.keys r.functions).set place g.name := by
    rw [replaced.functions, Keyed.keys, List.map_set, Keyed.keys]
  rw [set, same, ← read, List.set_getElem_self]

/-- A change that keeps both names. -/
theorem turns_change (filed : r.Filed) (stands : r.functions[place]? = some (key, f)) (change : Function → Function)
    (name : (change f).name = f.name) (short : (change f).shortName = f.shortName) :
    Turns unfit new r place f (some (change f)) (.done (r.modifyAt place change) ()) :=
  .done rfl rfl (replaced_modifyAt filed stands change name) (.kept name short rfl)

/-- A change that keeps both names, behind an operation. -/
theorem Turns.change {shaped : Option Function} {o : Outcome Registry ε Unit} (turns : Turns unfit new r place f shaped o)
    (stands : r.functions[place]? = some (key, f)) (change : Function → Function) (name : ∀ g, (change g).name = g.name)
    (short : ∀ g, (change g).shortName = g.shortName) :
    Turns unfit new r place f (shaped.map change) (o.andThen fun r _ => .done (r.modifyAt place change) ()) := by
  cases turns with
  | @done g shape answer replaced renames =>
    have next := replaced_modifyAt replaced.filed (replaced.stands stands) change (name g)
    have chain : (o.andThen fun r _ => .done (r.modifyAt place change) ()) = .done (o.state.modifyAt place change) () := by
      rw [Outcome.andThen, answer]
    rw [chain, shape]
    refine .done rfl rfl (replaced.trans next) ?_
    cases renames with
    | kept own same index => exact .kept ((name g).trans own) ((short g).trans same) index
    | moved own free index => exact .moved ((name g).trans own) free index
  | unshaped shape answer unfit =>
    rw [shape]
    exact .unshaped rfl (Outcome.answer_andThen_of_error answer) unfit
  | taken other held named answer unfit =>
    refine .taken other held ?_ (Outcome.answer_andThen_of_error answer) unfit
    intro h made
    obtain ⟨g, shape, rfl⟩ := Option.map_eq_some_iff.mp made
    exact (name g).trans (named g shape)

/-- Another operation behind one that makes `g` of `f`. -/
theorem Turns.next {shaped : Option Function} {o : Outcome Registry ε Unit} {step : Registry → Outcome Registry ε Unit}
    (stands : r.functions[place]? = some (key, f)) (filed : r.Filed) (answer : o.answer = .ok ())
    (replaced : Replaced r o.state place g) (renames : Renames new r o.state f g)
    (later : Turns unfit new o.state place g shaped (step o.state)) :
    Turns unfit new r place f shaped (o.andThen fun r _ => step r) := by
  have chain : (o.andThen fun r _ => step r) = step o.state := by rw [Outcome.andThen, answer]
  rw [chain]
  have own := filed.name_eq stands
  cases later with
  | done shape answer replaced' renames' =>
    refine .done shape answer (replaced.trans replaced') ?_
    cases renames with
    | kept name short index =>
      have keys := keys_of_replaced stands replaced (name.trans own)
      cases renames' with
      | kept name' short' index' => exact .kept (name'.trans name) (short'.trans short) (index'.trans index)
      | moved name' free index' => exact .moved name' (keys ▸ free) (short ▸ index ▸ index')
    | moved name free index =>
      cases renames' with
      | kept name' short' index' => exact .moved (name'.trans name) free (index' ▸ index)
      | moved name' free' index' =>
        -- The function has the new name already.
        have present := mem_keys (replaced.stands stands)
        exact absurd (name ▸ present) free'
  | unshaped shape answer unfit => exact .unshaped shape answer unfit
  | taken other held named answer unfit =>
    cases renames with
    | kept name short index =>
      have keys := keys_of_replaced stands replaced (name.trans own)
      exact .taken (name ▸ other) (keys ▸ held) named answer unfit
    | moved name free index => exact absurd name other

/-- A renaming. -/
theorem turns_rename (filed : r.Filed) (stands : r.functions[place]? = some (key, f)) (named : new ≠ "")
    (ready : f.name = new ∨ f.shortName ∈ Keyed.keys r.shortNames) :
    Turns OverrideError.unfit new r place f (f.renamed? r.start new) (Effect.renamed r place new) := by
  have own := filed.name_eq stands
  by_cases same : new = f.name
  · have idle : r.rename place new = .done r () := by
      rw [rename, functionAt?_eq stands]
      exact if_pos same
    have shape : f.renamed? r.start new = some f := if_pos same
    rw [Effect.renamed, idle, shape]
    exact .done rfl rfl (replaced_self filed stands) (.kept rfl rfl rfl)
  have indexed := ready.resolve_left fun equal => same equal.symm
  rcases rename_cases filed stands named indexed (own ▸ same) with ⟨free, answer, index⟩ | ⟨held, answer⟩
  · obtain ⟨g, shape, replaced⟩ := rename_ok filed stands answer
    refine .done shape ?_ replaced (.moved (Function.name_of_renamed? shape) free index)
    rw [Effect.renamed, Outcome.within, answer]
    rfl
  · refine .taken (e := .edit (.registry (.nameTaken key new))) (fun equal => same equal.symm) held
      (fun g shape => Function.name_of_renamed? shape) ?_ rfl
    rw [Effect.renamed, Outcome.within, answer]
    rfl

/-- A renaming where there is a new name. -/
theorem turns_renameTo (filed : r.Filed) (stands : r.functions[place]? = some (key, f))
    (ready : f.name = new ∨ f.shortName ∈ Keyed.keys r.shortNames) (name : Option String) :
    (∀ target ∈ name, target = new) → Turns OverrideError.unfit new r place f
      (match name with
        | some name => if name.isEmpty then some f else f.renamed? r.start name
        | none => some f)
      (match name with
        | some name => if name.isEmpty then .done r () else Effect.renamed r place name
        | none => .done r ()) := by
  intro only
  have idle : Turns OverrideError.unfit new r place f (some f) (.done r ()) :=
    .done rfl rfl (replaced_self filed stands) (.kept rfl rfl rfl)
  cases name with
  | none => exact idle
  | some name =>
    obtain rfl : name = new := only name rfl
    dsimp only
    by_cases empty : name.isEmpty = true
    · rw [if_pos empty, if_pos empty]
      exact idle
    · rw [if_neg empty, if_neg empty]
      exact turns_rename filed stands (fun nothing => empty (by rw [nothing]; rfl)) ready

/-! ## One shader text -/

/-- An edit of arguments succeeds where the function has them, and leaves names and index alone. -/
theorem edit_kept (stands : r.functions[place]? = some (key, f)) {e : Edit} (silent : e.target? = none)
    (shape : e.reshape? r.start f = some g) :
    (r.edit place e).answer = .ok () ∧ g.shortName = f.shortName ∧ (r.edit place e).state.shortNames = r.shortNames := by
  have tried : ∀ change : Function → Except EditError Function, (change f).toOption = some g →
      (∀ h, change f = .ok h → h.shortName = f.shortName) → (r.tryModifyAt place change).answer = .ok () ∧
        g.shortName = f.shortName ∧ (r.tryModifyAt place change).state.shortNames = r.shortNames := by
    intro change made short
    have made := ok_of_toOption made
    simp only [tryModifyAt, functionAt?_eq stands, Option.map_some, made]
    exact ⟨rfl, short g made, rfl⟩
  have changed : ∀ index (change : Argument → Argument) h, f.changeArgument index change = .ok h → h.shortName = f.shortName := by
    intro index change h made
    unfold Function.changeArgument at made
    split at made <;> cases made
    rfl
  cases e with
  | rename name => cases silent
  | assignName name => cases silent
  | returnType type => cases shape; exact ⟨rfl, rfl, rfl⟩
  | access label => cases shape; exact ⟨rfl, rfl, rfl⟩
  | addArgument type name => cases shape; exact ⟨rfl, rfl, rfl⟩
  | argumentType index type => exact tried _ shape (changed _ _)
  | argumentName index name => exact tried _ shape (changed _ _)
  | argumentEnum index isEnum => exact tried _ shape (changed _ _)
  | removeArgument index =>
    refine tried _ shape fun h made => ?_
    unfold Function.removeArgument at made
    split at made <;> cases made
    rfl
  | expectArguments count =>
    simp only [Edit.reshape?] at shape
    split at shape
    · rename_i many
      cases shape
      exact tried _ (by rw [if_pos many]; rfl) (by rw [if_pos many]; rintro h ⟨⟩; rfl)
    · cases shape

/-- Edits of arguments one after another. -/
theorem editAll_kept (filed : r.Filed) (stands : r.functions[place]? = some (key, f)) {edits : List Edit}
    (silent : ∀ e ∈ edits, e.target? = none) (shape : edits.foldlM (fun f e => e.reshape? r.start f) f = some g) :
    (r.editAll place edits).answer = .ok () ∧ g.shortName = f.shortName ∧
      (r.editAll place edits).state.shortNames = r.shortNames := by
  induction edits generalizing r key f with
  | nil =>
    cases shape
    exact ⟨rfl, rfl, rfl⟩
  | cons e rest ih =>
    rw [List.foldlM_cons] at shape
    obtain ⟨h, first, shape⟩ := Option.bind_eq_some_iff.mp shape
    have quiet := silent e List.mem_cons_self
    obtain ⟨answer, short, index⟩ := edit_kept stands quiet first
    have filing : e.Filing := by
      cases e with
      | assignName name => cases quiet
      | _ => trivial
    obtain ⟨h', same, replaced⟩ := edit_ok filed stands filing answer
    rw [first] at same
    cases same
    have chain : r.editAll place (e :: rest) = (r.edit place e).state.editAll place rest := by
      rw [editAll, Outcome.runAll, Outcome.andThen, answer]
      rfl
    rw [← replaced.start] at shape
    obtain ⟨answer', short', index'⟩ :=
      ih replaced.filed (replaced.stands stands) (fun e member => silent e (List.mem_cons_of_mem _ member)) shape
    rw [chain]
    exact ⟨answer', short'.trans short, index'.trans index⟩

end Registry

namespace OverrideModule

variable (start : String) {f : Function} (kind : ResourceKind)

/-- Four arguments are reduced to three, of which the first is a handle. -/
theorem reshape_singleTextEdits {a b c d : Argument} (four : f.type.arguments = [a, b, c, d]) :
    (singleTextEdits kind).foldlM (fun f (e : Edit) => e.reshape? start f) f = some (f.withArguments
      [{ a with type := kind.handleType }, { c with type := "const GLchar *" }, { d with type := "GLint" }]) := by
  obtain ⟨name, short, access, typedefName, returnType, returnsEnum, arguments⟩ := f
  dsimp only at four
  subst four
  rfl

theorem reshape_singleTextEdits_of_ne (other : f.type.arguments.length ≠ 4) :
    (singleTextEdits kind).foldlM (fun f (e : Edit) => e.reshape? start f) f = none := by
  simp only [singleTextEdits, List.foldlM_cons, Edit.reshape?, if_neg other]
  rfl

end OverrideModule

namespace Registry

variable {r : Registry} {place : Nat} {key new : String} {f : Function}

theorem turns_singleText (filed : r.Filed) (stands : r.functions[place]? = some (key, f)) (kind : ResourceKind)
    {effect : Effect} {write : Option Script} {read : Option Consumption}
    (custom : effect = .custom (OverrideModule.singleTextEdits kind) write read) :
    Turns OverrideError.unfit new r place f (effect.reshape? r.start f) (effect.mutate r place) := by
  subst custom
  by_cases four : f.type.arguments.length = 4
  · obtain ⟨a, b, c, d, arguments⟩ := List.length_eq_four.mp four
    have shape := OverrideModule.reshape_singleTextEdits r.start kind arguments
    have silent : ∀ e ∈ OverrideModule.singleTextEdits kind, e.target? = none := by
      intro e member
      simp only [OverrideModule.singleTextEdits, List.mem_cons, List.not_mem_nil, or_false] at member
      rcases member with rfl | rfl | rfl | rfl | rfl <;> rfl
    obtain ⟨answer, short, index⟩ := editAll_kept filed stands silent shape
    have ran : ((Effect.custom (OverrideModule.singleTextEdits kind) write read).mutate r place).answer = .ok () := by
      rw [Effect.mutate, Outcome.within, answer]
      rfl
    have proper : (Effect.custom (OverrideModule.singleTextEdits kind) write read).Proper := ⟨kind, rfl⟩
    obtain ⟨g, shape', replaced⟩ := Effect.mutate_ok filed stands proper.filing ran
    have same : some g = some (f.withArguments _) := shape'.symm.trans shape
    cases same
    exact .done shape' ran replaced (.kept rfl short index)
  · have failed : (r.editAll place (OverrideModule.singleTextEdits kind)).answer = .error (.unexpectedSignature f) := by
      refine Outcome.answer_andThen_of_error ?_
      simp only [edit, tryModifyAt, functionAt?_eq stands, Option.map_some, if_neg four]
      rfl
    refine .unshaped (OverrideModule.reshape_singleTextEdits_of_ne r.start kind four) ?_ (e := .edit (.unexpectedSignature f)) rfl
    rw [Effect.mutate, Outcome.within, failed]
    rfl

/-! ## Rules -/

/-- An effect that gives one new name at most. -/
theorem turns_mutate (filed : r.Filed) (stands : r.functions[place]? = some (key, f)) {effect : Effect}
    (proper : effect.Proper) (only : ∀ target ∈ effect.targets, target = new)
    (ready : f.name = new ∨ f.shortName ∈ Keyed.keys r.shortNames) :
    Turns OverrideError.unfit new r place f (effect.reshape? r.start f) (effect.mutate r place) := by
  cases effect with
  | none => exact .done rfl rfl (replaced_self filed stands) (.kept rfl rfl rfl)
  | retype type names indices native =>
    exact turns_change filed stands (fun f =>
      f.withArguments (Effect.retypeFrom type (Effect.selects names indices native) 0 f.type.arguments)) rfl rfl
  | generate kind name kept =>
    obtain rfl : name = new := only name (List.mem_singleton.mpr rfl)
    have turns := (turns_rename filed stands proper ready).change stands
      (fun g => Effect.returningHandle kind (g.withArguments (Effect.keepFirst kept g.type.arguments))) (fun _ => rfl)
      (fun _ => rfl)
    have fused : (Effect.generate kind name kept).mutate r place = (Effect.renamed r place name).andThen fun r _ =>
        .done (r.modifyAt place fun g =>
          Effect.returningHandle kind (g.withArguments (Effect.keepFirst kept g.type.arguments))) () := by
      simp only [Effect.mutate, modifyAt, List.modify_modify_eq, Function.comp_def]
    rw [fused]
    exact turns
  | create kind =>
    obtain ⟨kind, rfl⟩ := Option.isSome_iff_exists.mp proper
    exact turns_change filed stands (Effect.returningHandle kind) rfl rfl
  | delete kind argument name =>
    have moved := turns_renameTo filed stands ready name fun target given => by
      subst given
      exact only target (List.mem_singleton.mpr rfl)
    exact moved.change stands
      (fun g => g.withArguments [{ type := kind.handleType, name := argument, isEnum := false }]) (fun _ => rfl) (fun _ => rfl)
  | custom edits write read =>
    obtain ⟨kind, rfl⟩ := proper
    exact turns_singleText filed stands kind rfl

/-- Rules that give one new name at most between them. -/
theorem turns_mutateAll (filed : r.Filed) (stands : r.functions[place]? = some (key, f)) {rules : List Rule}
    (proper : ∀ rule ∈ rules, rule.effect.Proper) (only : ∀ rule ∈ rules, ∀ target ∈ rule.effect.targets, target = new)
    (ready : f.name = new ∨ f.shortName ∈ Keyed.keys r.shortNames) :
    Turns OverrideError.unfit new r place f (f.reshapeAll? r.start rules)
      (Outcome.runAll (fun r (rule : Rule) => rule.effect.mutate r place) r rules) := by
  induction rules generalizing r key f with
  | nil => exact .done rfl rfl (replaced_self filed stands) (.kept rfl rfl rfl)
  | cons rule rest ih =>
    have others : ∀ other ∈ rest, ∀ target ∈ other.effect.targets, target = new :=
      fun other member => only other (List.mem_cons_of_mem _ member)
    rw [Function.reshapeAll?, List.foldlM_cons]
    cases turns_mutate filed stands (proper rule List.mem_cons_self) (only rule List.mem_cons_self) ready with
    | @done g shape answer replaced renames =>
      have ready' : g.name = new ∨ g.shortName ∈ Keyed.keys (rule.effect.mutate r place).state.shortNames := by
        cases renames with
        | kept name short index =>
          rw [name, short, index]
          exact ready
        | moved name free index => exact .inl name
      have later := ih replaced.filed (replaced.stands stands) (fun other member => proper other (List.mem_cons_of_mem _ member))
        others ready'
      rw [replaced.start] at later
      rw [shape]
      show Turns _ _ _ _ _ _ ((rule.effect.mutate r place).andThen fun r _ =>
        Outcome.runAll (fun r (rule : Rule) => rule.effect.mutate r place) r rest)
      exact Turns.next stands filed answer replaced renames later
    | unshaped shape answer unfit =>
      rw [shape]
      exact .unshaped rfl (Outcome.answer_andThen_of_error answer) unfit
    | taken other held named answer unfit =>
      refine .taken other held ?_ (Outcome.answer_andThen_of_error answer) unfit
      intro h made
      obtain ⟨g, shape, behind⟩ := Option.bind_eq_some_iff.mp made
      rcases name_of_reshapeAll? behind with same | ⟨rule, member, target⟩
      · exact same.trans (named g shape)
      · exact others rule member _ target

end Registry

end CommandStream
