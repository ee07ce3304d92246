import CommandStream.Proofs.Override.BuiltIn
import CommandStream.Proofs.Override.Refusal
import CommandStream.Proofs.Registry.Parsed

/-!
# The table of built-in overrides

What the built-in overrides make of a function can be looked up. Eighteen functions have a change of their own; in all
others, and in what these changes keep, the plain native names of objects become handles. It does not matter in which
order the rules for a function came.
-/

namespace CommandStream
open OverrideModule

/-! ## The table -/

/-- The handle types of the arguments that name objects. -/
def handleTypes : Keyed String :=
  [("buffer", "BufferHandle"), ("framebuffer", "FramebufferHandle"), ("program", "ShaderProgramHandle"),
   ("shader", "ShaderHandle"), ("texture", "TextureHandle"), ("vaobj", "VertexArrayHandle")]

/-- An argument, as a handle if it is the plain native name of an object. -/
def Argument.asHandle (a : Argument) : Argument :=
  match Keyed.find? handleTypes a.name with
  | some handle => if a.type = "GLuint" then { type := handle, name := a.name, isEnum := false } else a
  | none => a

/-- A change of a function that the built-in overrides name. -/
inductive Change where
  /-- It returns a handle under a new name; so many arguments are kept. -/
  | generated (name handle : String) (kept : Nat)
  | returning (handle : String)
  /-- It takes one handle, under a new name if there is one. -/
  | deleting (name : Option String) (handle argument : String)
  /-- It takes one text instead of several. -/
  | singleText
  /-- Its first argument is a handle, whatever that argument is called. -/
  | bound (handle : String)

/-- The functions that have a change of their own. -/
def changes : Keyed Change :=
  [("glGenBuffers", .generated "glGenBuffer" "BufferHandle" 0),
   ("glCreateBuffers", .generated "glCreateBuffer" "BufferHandle" 0),
   ("glDeleteBuffers", .deleting (some "glDeleteBuffer") "BufferHandle" "buffer"),
   ("glGenFramebuffers", .generated "glGenFramebuffer" "FramebufferHandle" 0),
   ("glCreateFramebuffers", .generated "glCreateFramebuffer" "FramebufferHandle" 0),
   ("glDeleteFramebuffers", .deleting (some "glDeleteFramebuffer") "FramebufferHandle" "framebuffer"),
   ("glGenVertexArrays", .generated "glGenVertexArray" "VertexArrayHandle" 0),
   ("glCreateVertexArrays", .generated "glCreateVertexArray" "VertexArrayHandle" 0),
   ("glDeleteVertexArrays", .deleting (some "glDeleteVertexArray") "VertexArrayHandle" "vaobj"),
   ("glGenTextures", .generated "glGenTexture" "TextureHandle" 0),
   ("glCreateTextures", .generated "glCreateTexture" "TextureHandle" 1),
   ("glDeleteTextures", .deleting (some "glDeleteTexture") "TextureHandle" "texture"),
   ("glCreateProgram", .returning "ShaderProgramHandle"),
   ("glDeleteProgram", .deleting none "ShaderProgramHandle" "program"),
   ("glCreateShader", .returning "ShaderHandle"),
   ("glDeleteShader", .deleting none "ShaderHandle" "shader"),
   ("glShaderSource", .singleText),
   ("glBindVertexArray", .bound "VertexArrayHandle")]

namespace Function

/-- A function under another name, with the short name of that. -/
def underName (f : Function) (start name : String) : Function :=
  { f with name, shortName := (shortName? name start).getD "" }

/-- A function that returns a value of a handle type. -/
def handingOut (f : Function) (handle : String) : Function :=
  { f with type := { f.type with returnType := handle, returnsEnum := false } }

/-- A function after a change; all other arguments that it keeps become handles if they can. -/
def changed (f : Function) (start : String) : Change → Function
  | .generated name handle kept =>
    ((f.underName start name).withArguments ((f.type.arguments.take kept).map Argument.asHandle)).handingOut handle
  | .returning handle => (f.withArguments (f.type.arguments.map Argument.asHandle)).handingOut handle
  | .deleting name handle argument =>
    (match name with
      | some name => f.underName start name
      | none => f).withArguments [{ type := handle, name := argument, isEnum := false }]
  | .singleText =>
    match f.type.arguments with
    | [a, _, c, d] =>
      f.withArguments [{ a with type := "ShaderHandle" }, { c with type := "const GLchar *" }, { d with type := "GLint" }]
    | _ => f
  | .bound handle =>
    match f.type.arguments with
    | [] => f
    | a :: rest => f.withArguments ({ type := handle, name := a.name, isEnum := false } :: rest.map Argument.asHandle)

/-- A function as the built-in overrides leave it. -/
def overridden (f : Function) (start : String) : Function :=
  match Keyed.find? changes f.name with
  | some change => f.changed start change
  | none => f.withArguments (f.type.arguments.map Argument.asHandle)

/-- A function with no argument marked as an enum. -/
def unmarked (f : Function) : Function :=
  f.withArguments (f.type.arguments.map fun a => { a with isEnum := false })

/-- What rules make of a function follows the table. The rule for shader text refuses a function that has not four
arguments, and lets their marks be what they are when it comes. -/
inductive FollowsTable (f : Function) (start : String) : Option Function → Prop
  | exactly (other : f.name ≠ "glShaderSource") : FollowsTable f start (some (f.overridden start))
  | text {g : Function} (named : f.name = "glShaderSource") (four : f.type.arguments.length = 4)
      (same : g.unmarked = (f.overridden start).unmarked) : FollowsTable f start (some g)
  | refused (named : f.name = "glShaderSource") (unfit : f.type.arguments.length ≠ 4) : FollowsTable f start none

end Function

theorem Function.FollowsTable.of_eq {f g : Function} {start : String} (other : f.name ≠ "glShaderSource")
    (same : g = f.overridden start) : f.FollowsTable start (some g) :=
  same ▸ .exactly other

/-- No change touches the access label. -/
theorem Function.access_changed (f : Function) (start : String) (change : Change) :
    (f.changed start change).access = f.access := by
  cases change with
  | generated name handle kept => rfl
  | returning handle => rfl
  | deleting name handle argument => cases name <;> rfl
  | singleText =>
    simp only [changed]
    split <;> rfl
  | bound handle =>
    simp only [changed]
    split <;> rfl

theorem Function.access_overridden (f : Function) (start : String) : (f.overridden start).access = f.access := by
  unfold overridden
  split
  · exact f.access_changed start _
  · rfl

theorem Function.FollowsTable.access {f g : Function} {start : String} (follows : f.FollowsTable start (some g)) :
    g.access = f.access := by
  cases follows with
  | exactly other => exact f.access_overridden start
  | text named four same =>
    have unmarked : g.unmarked.access = (f.overridden start).unmarked.access := congrArg Function.access same
    exact unmarked.trans (f.access_overridden start)

/-- One shader text takes three arguments. -/
theorem Function.FollowsTable.length_of_text {f g : Function} {start : String} (follows : f.FollowsTable start (some g))
    (named : f.name = "glShaderSource") : g.type.arguments.length = 3 := by
  cases follows with
  | exactly other => exact absurd named other
  | text _ four same =>
    obtain ⟨a, b, c, d, arguments⟩ := List.length_eq_four.mp four
    have text : Keyed.find? changes f.name = some .singleText := by
      rw [named]
      rfl
    have lengths := congrArg (fun h : Function => h.type.arguments.length) same
    rw [overridden, text] at lengths
    simp only [unmarked, changed, arguments, withArguments, FunctionType.withArguments, List.length_map] at lengths
    exact lengths

/-! ## Handles by name -/

theorem handle_ne_native : ∀ entry ∈ handleTypes, entry.2 ≠ "GLuint" := by
  decide

theorem nodup_handleTypes : (Keyed.keys handleTypes).Nodup := by
  decide

theorem asHandle_of_ne {a : Argument} (other : a.type ≠ "GLuint") : a.asHandle = a := by
  unfold Argument.asHandle
  split
  · rw [if_neg other]
  · rfl

theorem name_asHandle (a : Argument) : a.asHandle.name = a.name := by
  unfold Argument.asHandle
  split
  · split <;> rfl
  · rfl

theorem asHandle_asHandle (a : Argument) : a.asHandle.asHandle = a.asHandle := by
  by_cases native : a.type = "GLuint"
  · cases found : Keyed.find? handleTypes a.name with
    | none =>
      have same : a.asHandle = a := by rw [Argument.asHandle, found]
      rw [same, same]
    | some handle =>
      refine asHandle_of_ne ?_
      rw [Argument.asHandle, found]
      dsimp only
      rw [if_pos native]
      exact handle_ne_native _ (mem_of_lookup found)
  · rw [asHandle_of_ne native, asHandle_of_ne native]

/-- A rule that makes handles of the plain native names of one kind. -/
def Rule.Typing (rule : Rule) : Prop :=
  ∃ entry ∈ handleTypes, rule.effect = .retype entry.2 [entry.1] [] (some "GLuint")

/-- The argument names for which a rule looks. -/
def Rule.looksFor (rule : Rule) : List String :=
  match rule.effect with
  | .retype _ names _ _ => names
  | _ => []

/-- An argument, as a handle if it can be one and a rule looks for its name. -/
def handled (rules : List Rule) (a : Argument) : Argument :=
  if a.name ∈ rules.flatMap Rule.looksFor then a.asHandle else a

variable {start : String} {f : Function} {rules before after : List Rule} {rule p : Rule}

theorem handled_of_ne {a : Argument} (other : a.type ≠ "GLuint") : handled rules a = a := by
  unfold handled
  split
  · exact asHandle_of_ne other
  · rfl

theorem name_handled (rules : List Rule) (a : Argument) : (handled rules a).name = a.name := by
  unfold handled
  split
  · exact name_asHandle a
  · rfl

/-- Rules behind others make handles of what those left. -/
theorem handled_handled (a : Argument) : handled after (handled before a) = handled (before ++ after) a := by
  unfold handled
  rw [List.flatMap_append]
  by_cases first : a.name ∈ before.flatMap Rule.looksFor
  · rw [if_pos first, if_pos (List.mem_append_left _ first), asHandle_asHandle, ite_self]
  · rw [if_neg first]
    by_cases last : a.name ∈ after.flatMap Rule.looksFor
    · rw [if_pos last, if_pos (List.mem_append_right _ last)]
    · rw [if_neg last, if_neg fun member => (List.mem_append.mp member).elim first last]

theorem retypeFrom_of_names (type : String) (names : List String) (native : Option String) (index : Nat)
    (arguments : List Argument) : Effect.retypeFrom type (Effect.selects names [] native) index arguments =
      arguments.map fun a => if Effect.selects names [] native 0 a then { a with type, isEnum := false } else a := by
  induction arguments generalizing index with
  | nil => rfl
  | cons a rest ih =>
    rw [Effect.retypeFrom, ih, List.map_cons]
    rfl

/-- A rule for the first position leaves all others. -/
theorem retypeFrom_first (type : String) (a : Argument) (rest : List Argument) :
    Effect.retypeFrom type (Effect.selects [] [0] none) 0 (a :: rest) = { a with type, isEnum := false } :: rest := by
  have behind : ∀ index, Effect.retypeFrom type (Effect.selects [] [0] none) (index + 1) rest = rest := by
    induction rest with
    | nil => exact fun _ => rfl
    | cons b rest ih =>
      intro index
      have kept : Effect.selects [] [0] none (index + 1) b = false := by
        simp [Effect.selects]
        omega
      rw [Effect.retypeFrom, kept, ih]
      rfl
  rw [Effect.retypeFrom, behind]
  rfl

theorem Rule.Typing.reshape (typing : rule.Typing) (start : String) (f : Function) :
    rule.effect.reshape? start f = some (f.withArguments (f.type.arguments.map (handled [rule]))) := by
  obtain ⟨⟨name, handle⟩, listed, effect⟩ := typing
  have found : Keyed.find? handleTypes name = some handle := lookup_of_mem nodup_handleTypes listed
  have looks : [rule].flatMap Rule.looksFor = [name] := by simp [Rule.looksFor, effect]
  have native : "GLuint".isEmpty = false := rfl
  rw [effect, Effect.reshape?, retypeFrom_of_names]
  congr 3
  funext a
  simp only [handled, looks, List.mem_singleton]
  by_cases named : a.name = name
  · subst named
    rw [if_pos rfl, Argument.asHandle, found]
    by_cases type : a.type = "GLuint" <;> simp [Effect.selects, type, native]
  · simp [Effect.selects, named]

theorem reshapeAll_typing (each : ∀ rule ∈ rules, rule.Typing) (start : String) (f : Function) :
    f.reshapeAll? start rules = some (f.withArguments (f.type.arguments.map (handled rules))) := by
  induction rules generalizing f with
  | nil =>
    have same : f.type.arguments.map (handled []) = f.type.arguments := List.map_id _
    rw [same]
    rfl
  | cons rule rest ih =>
    have others := ih fun other member => each other (List.mem_cons_of_mem _ member)
    rw [Function.reshapeAll?, List.foldlM_cons, (each rule List.mem_cons_self).reshape]
    refine (others _).trans ?_
    show some (f.withArguments ((f.type.arguments.map (handled [rule])).map (handled rest))) = _
    rw [List.map_map]
    congr 3
    funext a
    exact handled_handled a

/-- A rule among rules that look for plain native names. -/
theorem reshapeAll_around (first : ∀ rule ∈ before, rule.Typing) (last : ∀ rule ∈ after, rule.Typing) :
    f.reshapeAll? start (before ++ p :: after) =
      (p.effect.reshape? start (f.withArguments (f.type.arguments.map (handled before)))).map fun g =>
        g.withArguments (g.type.arguments.map (handled after)) := by
  have front := reshapeAll_typing first start f
  rw [Function.reshapeAll?] at front
  rw [Function.reshapeAll?, List.foldlM_append, front, Option.bind_eq_bind, Option.bind_some, List.foldlM_cons,
    Option.bind_eq_bind]
  cases p.effect.reshape? start (f.withArguments (f.type.arguments.map (handled before))) with
  | none => rfl
  | some g => exact reshapeAll_typing last start g

/-! ## Changes -/

/-- A rule makes a change of the function that it names. -/
inductive Rule.Makes (p : Rule) : Change → Prop
  | generated {kind : ResourceKind} {name handle : String} {kept : Nat} (effect : p.effect = .generate kind name kept)
      (type : kind.handleType = handle) (named : name ≠ "") (new : name ≠ p.function) : Makes p (.generated name handle kept)
  | returning {kind : ResourceKind} {handle : String} (effect : p.effect = .create (some kind))
      (type : kind.handleType = handle) : Makes p (.returning handle)
  | deleting {kind : ResourceKind} {handle argument : String} {name : Option String}
      (effect : p.effect = .delete kind argument name) (type : kind.handleType = handle) (special : handle ≠ "GLuint")
      (new : ∀ target ∈ name, target ≠ "" ∧ target ≠ p.function) : Makes p (.deleting name handle argument)
  | singleText (rule : p = shaderTextRule) : Makes p .singleText
  | bound {handle : String} (effect : p.effect = .retype handle [] [0] none) (special : handle ≠ "GLuint") :
      Makes p (.bound handle)

/-- The built-in rules that do not look for plain native names. -/
def specials : List Rule :=
  principals ++ [bindRule]

theorem nodup_specials : (specials.map Rule.function).Nodup := by
  decide

theorem special_of_change : ∀ key ∈ Keyed.keys changes, key ∈ specials.map Rule.function := by
  decide

/-- Every such rule makes the change of its function in the table. -/
theorem makes_of_special : ∀ p ∈ specials, ∃ change, Keyed.find? changes p.function = some change ∧ p.Makes change := by
  intro p member
  simp only [specials, principals, List.cons_append, List.nil_append, List.mem_cons, List.not_mem_nil, or_false] at member
  rcases member with rfl | rfl | rfl | rfl | rfl | rfl | rfl | rfl | rfl | rfl | rfl | rfl | rfl | rfl | rfl | rfl | rfl | rfl
  all_goals first
    | exact ⟨_, rfl, .generated rfl rfl (by decide) (by decide)⟩
    | exact ⟨_, rfl, .returning rfl rfl⟩
    | exact ⟨_, rfl, .deleting rfl rfl (by decide) (by decide)⟩
    | exact ⟨_, rfl, .singleText rfl⟩
    | exact ⟨_, rfl, .bound rfl (by decide)⟩

theorem renamed?_of_ne (start : String) (f : Function) {name : String} (named : name ≠ "") (new : name ≠ f.name) :
    f.renamed? start name = some (f.underName start name) := by
  obtain ⟨short, found⟩ := Option.isSome_iff_exists.mp (isSome_shortName? named start)
  rw [Function.renamed?, if_neg new, Function.underName, found]
  rfl

section Special

variable {change : Change} (found : Keyed.find? changes f.name = some change) (named : p.function = f.name)
  (first : ∀ rule ∈ before, rule.Typing) (last : ∀ rule ∈ after, rule.Typing)
  (complete : ∀ a ∈ f.type.arguments, handled (before ++ after) a = a.asHandle)
include found named first last complete

/-- The rules around a rule with a change of its own leave that change, and make handles of the arguments it keeps. -/
theorem followsTable_around (makes : p.Makes change) : f.FollowsTable start (f.reshapeAll? start (before ++ p :: after)) := by
  have text : Keyed.find? changes "glShaderSource" = some .singleText := rfl
  have other : (∀ same : change = .singleText, False) → f.name ≠ "glShaderSource" := by
    intro apart same
    rw [same, text] at found
    exact apart (Option.some.inj found).symm
  have whole : f.overridden start = f.changed start change := by rw [Function.overridden, found]
  have handles : ∀ arguments : List Argument, arguments ⊆ f.type.arguments →
      (arguments.map (handled before)).map (handled after) = arguments.map Argument.asHandle := by
    intro arguments among
    rw [List.map_map]
    exact List.map_congr_left fun a member => (handled_handled a).trans (complete a (among member))
  rw [reshapeAll_around first last]
  cases makes with
  | @generated kind name handle kept effect type filled new =>
    subst type
    have moved := renamed?_of_ne start (f.withArguments (f.type.arguments.map (handled before))) filled (named ▸ new)
    have cut : Effect.keepFirst kept (f.type.arguments.map (handled before)) =
        (f.type.arguments.take kept).map (handled before) := by
      rw [Effect.keepFirst, if_neg (by omega), Int.toNat_natCast, List.map_take]
    rw [effect, Effect.reshape?, moved]
    refine .of_eq (other fun same => by cases same) ?_
    show ((f.underName start name).withArguments ((Effect.keepFirst kept (f.type.arguments.map (handled before))).map
      (handled after))).handingOut kind.handleType = _
    rw [cut, handles _ (List.take_subset _ _), whole]
    rfl
  | @returning kind handle effect type =>
    subst type
    rw [effect]
    refine .of_eq (other fun same => by cases same) ?_
    show (f.withArguments ((f.type.arguments.map (handled before)).map (handled after))).handingOut kind.handleType = _
    rw [handles _ (List.Subset.refl _), whole]
    rfl
  | @deleting kind handle argument name effect type special new =>
    subst type
    have left : [(⟨kind.handleType, argument, false⟩ : Argument)].map (handled after) = [⟨kind.handleType, argument, false⟩] := by
      rw [List.map_singleton, handled_of_ne special]
    rw [effect]
    cases name with
    | none =>
      refine .of_eq (other fun same => by cases same) ?_
      show f.withArguments ([(⟨kind.handleType, argument, false⟩ : Argument)].map (handled after)) = _
      rw [left, whole]
      rfl
    | some name =>
      obtain ⟨filled, new⟩ := new name rfl
      have moved := renamed?_of_ne start (f.withArguments (f.type.arguments.map (handled before))) filled (named ▸ new)
      have some_ : ¬ name.isEmpty = true := by simpa using filled
      rw [Effect.reshape?, if_neg some_, moved]
      refine .of_eq (other fun same => by cases same) ?_
      show (f.underName start name).withArguments ([(⟨kind.handleType, argument, false⟩ : Argument)].map (handled after)) = _
      rw [left, whole]
      rfl
  | singleText rule =>
    subst rule
    have own : f.name = "glShaderSource" := named.symm
    by_cases four : f.type.arguments.length = 4
    · obtain ⟨a, b, c, d, arguments⟩ := List.length_eq_four.mp four
      have four' : (f.withArguments (f.type.arguments.map (handled before))).type.arguments = _ :=
        congrArg (List.map (handled before)) arguments
      have shape : shaderTextRule.effect.reshape? start _ = _ := reshape_singleTextEdits start (glKind "Shader" 3) four'
      rw [shape]
      refine .text own four ?_
      have kept : ∀ type name isEnum, type ≠ "GLuint" →
          handled after ⟨type, name, isEnum⟩ = ⟨type, name, isEnum⟩ := fun _ _ _ special => handled_of_ne special
      rw [whole, Function.changed, arguments]
      show f.withArguments (([(⟨"ShaderHandle", (handled before a).name, (handled before a).isEnum⟩ : Argument),
        ⟨"const GLchar *", (handled before c).name, (handled before c).isEnum⟩,
        ⟨"GLint", (handled before d).name, (handled before d).isEnum⟩].map (handled after)).map
          fun a => { a with isEnum := false }) = _
      simp only [List.map_cons, List.map_nil, kept "ShaderHandle" _ _ (by decide), kept "const GLchar *" _ _ (by decide),
        kept "GLint" _ _ (by decide), name_handled]
      rfl
    · have refused : shaderTextRule.effect.reshape? start (f.withArguments (f.type.arguments.map (handled before))) = none :=
        reshape_singleTextEdits_of_ne start _ fun many => four ((List.length_map _).symm.trans many)
      rw [refused]
      exact .refused own four
  | @bound handle effect special =>
    rw [effect]
    refine .of_eq (other fun same => by cases same) ?_
    rw [whole, Function.changed]
    cases arguments : f.type.arguments with
    | nil =>
      show f.withArguments [] = f
      rw [← arguments]
      rfl
    | cons a rest =>
      show f.withArguments ((Effect.retypeFrom handle (Effect.selects [] [0] none) 0
        (handled before a :: rest.map (handled before))).map (handled after)) = _
      have behind := handles rest (arguments ▸ List.subset_cons_self a rest)
      rw [retypeFrom_first, List.map_cons, handled_of_ne special, behind, name_handled]

end Special

/-! ## The rules of a function -/

/-- Whether a rule looks for plain native names. -/
def Rule.byName (rule : Rule) : Bool :=
  match rule.effect with
  | .retype _ _ _ native => native.isSome
  | _ => false

/-- Every built-in module has a kind of its own, with the argument name and the handle type in the table. -/
theorem naming_of_builtIn : ∀ m ∈ builtIns, ∃ entry ∈ handleTypes, ∃ kind, m.owner = .kind kind ∧ m.argumentNames = [entry.1] ∧
    kind.handleType = entry.2 ∧ kind.nativeType = "GLuint" := by
  intro m member
  simp only [builtIns, List.mem_cons, List.not_mem_nil, or_false] at member
  rcases member with rfl | rfl | rfl | rfl | rfl | rfl
  · exact ⟨("buffer", "BufferHandle"), by decide, _, rfl, rfl, rfl, rfl⟩
  · exact ⟨("framebuffer", "FramebufferHandle"), by decide, _, rfl, rfl, rfl, rfl⟩
  · exact ⟨("program", "ShaderProgramHandle"), by decide, _, rfl, rfl, rfl, rfl⟩
  · exact ⟨("shader", "ShaderHandle"), by decide, _, rfl, rfl, rfl, rfl⟩
  · exact ⟨("texture", "TextureHandle"), by decide, _, rfl, rfl, rfl, rfl⟩
  · exact ⟨("vaobj", "VertexArrayHandle"), by decide, _, rfl, rfl, rfl, rfl⟩

theorem handleTypes_eq : handleTypes = builtIns.map fun m =>
    (m.argumentNames.headD "", (m.owner.kind?.map ResourceKind.handleType).getD "") := by
  decide

/-- Every built-in module makes handles of all arguments that it knows. -/
theorem retypeRules_subset (r : Registry) {m : OverrideModule} (listed : m ∈ builtIns) {kind : ResourceKind}
    (owner : m.owner = .kind kind) : m.retypeRules kind r ⊆ builtInRules r := by
  have steps : .standard ∈ m.steps ∨ .retypeAll ∈ m.steps := by
    simp only [builtIns, List.mem_cons, List.not_mem_nil, or_false] at listed
    rcases listed with rfl | rfl | rfl | rfl | rfl | rfl <;>
      simp [buffer, framebuffer, program, shader, texture, vertexArray, builtIn]
  intro rule own
  refine List.mem_flatMap.mpr ⟨m, listed, ?_⟩
  simp only [rules, owner, Ownership.kind?, List.mem_flatMap]
  rcases steps with standard | all
  · exact ⟨_, standard, List.mem_append_right _ own⟩
  · exact ⟨_, all, own⟩

theorem filter_special (r : Registry) : (builtInRules r).filter (fun rule => !rule.byName) = specials := by
  have quiet : ∀ (m : OverrideModule) kind, (m.retypeRules kind r).filter (fun rule => !rule.byName) = [] := by
    intro m kind
    rw [List.filter_eq_nil_iff]
    intro rule member
    obtain ⟨f, -, rfl⟩ := List.mem_map.mp member
    simp [retypeRule, Rule.byName]
  rw [builtInRules_eq]
  simp only [List.filter_append, quiet, List.nil_append]
  rfl

/-- The built-in rules that look for plain native names follow the table. -/
theorem typing_of_byName {r : Registry} (member : rule ∈ builtInRules r) (byName : rule.byName = true) : rule.Typing := by
  have loud : ∀ p ∈ specials, p.byName = false := by decide
  rcases mem_builtInRules member with principal | ⟨m, listed, kind, owner, own⟩ | rfl
  · rw [loud rule (List.mem_append_left _ principal)] at byName
    cases byName
  · obtain ⟨entry, known, kind', owner', names, handle, native⟩ := naming_of_builtIn m listed
    rw [owner] at owner'
    cases owner'
    obtain ⟨f, -, rfl⟩ := List.mem_map.mp own
    exact ⟨entry, known, by rw [retypeRule, names, handle, native]⟩
  · cases byName

section Function

variable {r : Registry} (listed : f ∈ Keyed.values r.functions)
  (perm : rules.Perm ((builtInRules r).filter fun rule => rule.function = f.name))
include listed perm

/-- Every plain native name among the arguments of a function has a rule. -/
theorem handled_of_listed {a : Argument} (member : a ∈ f.type.arguments) : handled rules a = a.asHandle := by
  unfold handled
  split
  · rfl
  rename_i absent
  by_cases native : a.type = "GLuint"
  · cases found : Keyed.find? handleTypes a.name with
    | none => rw [Argument.asHandle, found]
    | some handle =>
      have known := mem_of_lookup found
      rw [handleTypes_eq] at known
      obtain ⟨m, builtIn, same⟩ := List.mem_map.mp known
      obtain ⟨entry, -, kind, owner, names, -, type⟩ := naming_of_builtIn m builtIn
      have named : entry.1 = a.name := by simpa [names] using congrArg Prod.fst same
      rw [named] at names
      have carries : m.carries kind a = true := by simp [carries, names, type, native]
      have rule : m.retypeRule kind f.name ∈ m.retypeRules kind r :=
        List.mem_map.mpr ⟨f, List.mem_filter.mpr ⟨listed, List.any_eq_true.mpr ⟨a, member, carries⟩⟩, rfl⟩
      have among : m.retypeRule kind f.name ∈ rules :=
        perm.mem_iff.mpr (List.mem_filter.mpr ⟨retypeRules_subset r builtIn owner rule, decide_eq_true rfl⟩)
      refine absurd (List.mem_flatMap.mpr ⟨_, among, ?_⟩) absent
      show a.name ∈ m.argumentNames
      rw [names]
      exact List.mem_singleton.mpr rfl
  · exact (asHandle_of_ne native).symm

/-- The built-in rules for a function make of it what the table says, in whatever order they come. -/
theorem followsTable_of_perm (start : String) : f.FollowsTable start (f.reshapeAll? start rules) := by
  have typing : ∀ {part : List Rule}, part ⊆ rules → (∀ rule ∈ part, rule.byName = true) → ∀ rule ∈ part, rule.Typing :=
    fun among each rule member =>
      typing_of_byName (List.mem_filter.mp (perm.mem_iff.mp (among member))).1 (each rule member)
  have special : (rules.filter fun rule => !rule.byName).Perm (specials.filter fun rule => rule.function = f.name) := by
    rw [← filter_special r, List.filter_filter]
    refine (perm.filter _).trans (.of_eq ?_)
    rw [List.filter_filter]
    simp only [Bool.and_comm]
  rcases split_at_special special (filter_key nodup_specials f.name) with
    ⟨nothing, each⟩ | ⟨before, p, after, split, only, first, last⟩
  · have unlisted : f.name ∉ Keyed.keys changes := by
      intro member
      obtain ⟨p, listed, named⟩ := List.mem_map.mp (special_of_change _ member)
      have some_ : p ∈ specials.filter fun rule => rule.function = f.name :=
        List.mem_filter.mpr ⟨listed, decide_eq_true named⟩
      rw [nothing] at some_
      cases some_
    rw [reshapeAll_typing (typing (List.Subset.refl _) each)]
    refine .of_eq (fun same => unlisted (same ▸ by decide)) ?_
    rw [Function.overridden, find?_eq_none_iff.mpr unlisted, List.map_congr_left fun a => handled_of_listed listed perm]
  · have among : p ∈ specials.filter fun rule => rule.function = f.name := only ▸ List.mem_singleton.mpr rfl
    obtain ⟨member, named⟩ := List.mem_filter.mp among
    have named : p.function = f.name := of_decide_eq_true named
    obtain ⟨change, found, makes⟩ := makes_of_special p member
    have quiet : Rule.looksFor p = [] := by
      have quiet : ∀ p ∈ specials, p.looksFor = [] := by decide
      exact quiet p member
    subst split
    refine followsTable_around (named ▸ found) named (typing (List.subset_append_left _ _) first)
      (typing (fun rule member => List.mem_append_right _ (List.mem_cons_of_mem _ member)) last) ?_ makes
    intro a member
    rw [← handled_of_listed listed perm member]
    simp only [handled, List.flatMap_append, List.flatMap_cons, quiet, List.nil_append]

end Function

/-! ## Registries that are read -/

section Applied

variable {modules : List OverrideModule} {r : Registry} (perm : modules.Perm builtIns) (filed : r.Filed)
  (applied : ((trackerOf modules r).apply r).answer = .ok ())
include perm filed applied

/-- The built-in overrides, applied in any order, leave every function in its place as the table says, under its name. -/
theorem followsTable_of_applied {k : Nat} {key : String} (stands : r.functions[k]? = some (key, f)) : ∃ g,
    f.FollowsTable r.start (some g) ∧ ((trackerOf modules r).apply r).state.2.functions[k]? = some (g.name, g) ∧
      ((trackerOf modules r).apply r).state.1.rulesOf g.name = (trackerOf modules r).rulesOf key := by
  obtain rfl := filed.name_eq stands
  have listed : f ∈ Keyed.values r.functions := List.mem_map_of_mem (List.mem_of_getElem? stands)
  obtain ⟨g, reshaped, now, under⟩ := (OverrideTracker.apply_ok (orderly_of_perm perm filed) applied).each k _ f stands
  refine ⟨g, ?_, now, under⟩
  rw [← reshaped]
  exact followsTable_of_perm listed (rulesOf_of_perm perm f.name) r.start

end Applied

section Read

variable {log : Log} {lines : List String} {description : Option (Except Markup.DocumentError Markup.Element)}
  {r : Registry} {t : OverrideTracker}

/-- The built-in overrides, applied to a registry that has been read, leave its functions in their order, each as the
table says and under its name. -/
theorem overridden_as_listed (parsed : (Build.readRegistry log start lines description).answer = .ok r)
    (registered : registerAll r builtIns = .ok t) (applied : (t.apply r).answer = .ok ()) :
    (t.apply r).state.2.functions.length = r.functions.length ∧
    ∀ (k : Nat) (f : Function), (Keyed.values r.functions)[k]? = some f → ∃ g,
      (t.apply r).state.2.functions[k]? = some (g.name, g) ∧
      g.unmarked = (f.overridden start).unmarked ∧ (f.name ≠ "glShaderSource" → g = f.overridden start) ∧
      (f.name = "glShaderSource" → f.type.arguments.length = 4) := by
  have filed := Build.filed_readRegistry parsed
  rw [registerAll_builtIns] at registered
  cases registered
  refine ⟨(builtIn_applied filed applied).length, ?_⟩
  intro k f at_
  rw [Keyed.values, List.getElem?_map] at at_
  obtain ⟨⟨key, f'⟩, stands, same⟩ := Option.map_eq_some_iff.mp at_
  obtain rfl : f' = f := same
  obtain ⟨g, follows, now, -⟩ := followsTable_of_applied (.refl builtIns) filed applied stands
  refine ⟨g, now, ?_⟩
  rw [Build.start_readRegistry parsed] at follows
  cases follows with
  | exactly other => exact ⟨rfl, fun _ => rfl, fun named => absurd named other⟩
  | text named four same => exact ⟨same, fun other => absurd named other, fun _ => four⟩

end Read

/-! ## A header -/

namespace AttachHeader

/-- A header with a function that makes buffers and one that names a program and a shader. -/
def lines : List String :=
  ["typedef void (APIENTRYP PFNGLGENBUFFERSPROC)(GLsizei n, GLuint *buffers);",
   "GLAPI PFNGLGENBUFFERSPROC glad_glGenBuffers;",
   "typedef void (APIENTRYP PFNGLATTACHSHADERPROC)(GLuint program, GLuint shader);",
   "GLAPI PFNGLATTACHSHADERPROC glad_glAttachShader;"]

def generateType : FunctionType :=
  ⟨"PFNGLGENBUFFERSPROC", "void", false, [⟨"GLsizei", "n", false⟩, ⟨"GLuint *", "buffers", false⟩]⟩

def attachType : FunctionType :=
  ⟨"PFNGLATTACHSHADERPROC", "void", false, [⟨"GLuint", "program", false⟩, ⟨"GLuint", "shader", false⟩]⟩

def registry : Registry where
  start := "gl"
  defines := []
  types := [("PFNGLGENBUFFERSPROC", generateType), ("PFNGLATTACHSHADERPROC", attachType)]
  functions :=
    [("glGenBuffers", ⟨"glGenBuffers", "GenBuffers", "public", generateType⟩),
     ("glAttachShader", ⟨"glAttachShader", "AttachShader", "public", attachType⟩)]
  enums := []
  frozen := true
  shortNames := [("GenBuffers", "glGenBuffers"), ("AttachShader", "glAttachShader")]

theorem parsed : (Build.readRegistry [] "gl" lines none).answer = .ok registry := by
  have read : (Build.readRegistry [] "gl" lines none).answer.toOption = some registry := by decide +kernel
  exact ok_of_toOption read

theorem applied : ((builtInTracker registry).apply registry).answer = .ok () := by
  decide +kernel

/-- A buffer is made one at a time, and the attached objects are handles. -/
theorem buffer_made_and_handles_attached :
    ((builtInTracker registry).apply registry).state.2.functions =
      [("glGenBuffer", ⟨"glGenBuffer", "GenBuffer", "public", ⟨"PFNGLGENBUFFERSPROC", "BufferHandle", false, []⟩⟩),
       ("glAttachShader", ⟨"glAttachShader", "AttachShader", "public", ⟨"PFNGLATTACHSHADERPROC", "void", false,
         [⟨"ShaderProgramHandle", "program", false⟩, ⟨"ShaderHandle", "shader", false⟩]⟩⟩)] := by
  obtain ⟨two, each⟩ := overridden_as_listed parsed (registerAll_builtIns registry) applied
  obtain ⟨generate, first, -, exact_, -⟩ := each 0 _ rfl
  obtain ⟨attach, second, -, exact', -⟩ := each 1 _ rfl
  rw [exact_ (by decide)] at first
  rw [exact' (by decide)] at second
  generalize ((builtInTracker registry).apply registry).state.2.functions = functions at two first second
  have two : functions.length = 2 := two
  obtain ⟨a, b, rfl⟩ := List.length_eq_two.mp two
  cases first
  cases second
  rfl

end AttachHeader

end CommandStream
