import CommandStream.Proofs.Override.Application
import CommandStream.Proofs.Override.Registering

/-!
# The built-in overrides

The built-in modules have one principal rule for each of seventeen functions; all others only retype
arguments of functions that the registry has. So they can be applied to every registry in order, and a
function has at most one rule that does more than retype.
-/

namespace CommandStream

/-- Whether a rule only retypes arguments. -/
def Rule.retypes (rule : Rule) : Bool :=
  match rule.effect with
  | .retype .. => true
  | _ => false

namespace OverrideModule

/-- A built-in kind. -/
def glKind (name : String) (serial : Nat) : ResourceKind := ⟨name, "GLuint", serial⟩

/-- The rules of the built-in modules that do more than retype. -/
def principals : List Rule :=
  [⟨"glCreateBuffers", .generate (glKind "Buffer" 0) "glCreateBuffer" 0⟩,
   ⟨"glGenBuffers", .generate (glKind "Buffer" 0) "glGenBuffer" 0⟩,
   ⟨"glDeleteBuffers", .delete (glKind "Buffer" 0) "buffer" (some "glDeleteBuffer")⟩,
   ⟨"glCreateFramebuffers", .generate (glKind "Framebuffer" 1) "glCreateFramebuffer" 0⟩,
   ⟨"glGenFramebuffers", .generate (glKind "Framebuffer" 1) "glGenFramebuffer" 0⟩,
   ⟨"glDeleteFramebuffers", .delete (glKind "Framebuffer" 1) "framebuffer" (some "glDeleteFramebuffer")⟩,
   ⟨"glCreateProgram", .create (some (glKind "ShaderProgram" 2))⟩,
   ⟨"glDeleteProgram", .delete (glKind "ShaderProgram" 2) "program" none⟩,
   ⟨"glCreateShader", .create (some (glKind "Shader" 3))⟩,
   ⟨"glDeleteShader", .delete (glKind "Shader" 3) "shader" none⟩,
   ⟨"glShaderSource", .custom (singleTextEdits (glKind "Shader" 3)) none (some (.singleElement "glShaderSource"))⟩,
   ⟨"glCreateTextures", .generate (glKind "Texture" 4) "glCreateTexture" 1⟩,
   ⟨"glGenTextures", .generate (glKind "Texture" 4) "glGenTexture" 0⟩,
   ⟨"glDeleteTextures", .delete (glKind "Texture" 4) "texture" (some "glDeleteTexture")⟩,
   ⟨"glCreateVertexArrays", .generate (glKind "VertexArray" 5) "glCreateVertexArray" 0⟩,
   ⟨"glGenVertexArrays", .generate (glKind "VertexArray" 5) "glGenVertexArray" 0⟩,
   ⟨"glDeleteVertexArrays", .delete (glKind "VertexArray" 5) "vaobj" (some "glDeleteVertexArray")⟩]

/-- The rule for the one function whose argument is not known by its name. -/
def bindRule : Rule := ⟨"glBindVertexArray", .retype "VertexArrayHandle" [] [0] none⟩

/-- The rules of the built-in modules for a registry. -/
def builtInRules (r : Registry) : List Rule :=
  builtIns.flatMap (rules · r)

theorem plain_builtIns : ∀ m ∈ builtIns, m.Plain := by
  intro m member
  simp only [builtIns, List.mem_cons, List.not_mem_nil, or_false] at member
  rcases member with rfl | rfl | rfl | rfl | rfl | rfl
  all_goals
    refine ⟨⟨_, rfl⟩, ?_⟩
    intro step member
    simp only [buffer, framebuffer, program, shader, texture, vertexArray, builtIn, List.mem_cons, List.not_mem_nil,
      or_false] at member
  · subst member
    exact List.cons_ne_nil _ _
  · subst member
    exact List.cons_ne_nil _ _
  · rcases member with rfl | rfl | rfl <;> trivial
  · rcases member with rfl | rfl | rfl | rfl <;> trivial
  · rcases member with rfl | rfl | rfl | rfl <;> trivial
  · rcases member with rfl | rfl
    · exact List.cons_ne_nil _ _
    · trivial

theorem builtInRules_eq (r : Registry) : builtInRules r =
    principals.take 3 ++ (buffer.retypeRules (glKind "Buffer" 0) r ++
      ((principals.drop 3).take 3 ++ (framebuffer.retypeRules (glKind "Framebuffer" 1) r ++
        ((principals.drop 6).take 2 ++ (program.retypeRules (glKind "ShaderProgram" 2) r ++
          ((principals.drop 8).take 3 ++ (shader.retypeRules (glKind "Shader" 3) r ++
            ((principals.drop 11).take 3 ++ (texture.retypeRules (glKind "Texture" 4) r ++
              (principals.drop 14 ++ (vertexArray.retypeRules (glKind "VertexArray" 5) r ++ [bindRule]))))))))))) := by
  simp only [builtInRules, builtIns, rules, buffer, framebuffer, program, shader, texture, vertexArray, builtIn,
    Ownership.kind?, Registration.rules, List.flatMap_cons, List.flatMap_nil, List.append_nil, List.append_assoc]
  rfl

/-- A rule that a module registers for an argument of one of its names. -/
def Retyping (r : Registry) (rule : Rule) : Prop :=
  ∃ m ∈ builtIns, ∃ kind, m.owner = .kind kind ∧ rule ∈ m.retypeRules kind r

/-- Every built-in rule is a principal one or retypes arguments. -/
theorem mem_builtInRules {r : Registry} {rule : Rule} (member : rule ∈ builtInRules r) :
    rule ∈ principals ∨ Retyping r rule ∨ rule = bindRule := by
  have retyping : ∀ m ∈ builtIns, ∀ kind, m.owner = .kind kind → rule ∈ m.retypeRules kind r → Retyping r rule :=
    fun m listed kind owner member => ⟨m, listed, kind, owner, member⟩
  have taken : ∀ i j, rule ∈ (principals.drop i).take j → rule ∈ principals :=
    fun i j member => List.mem_of_mem_drop (List.mem_of_mem_take member)
  rw [builtInRules_eq] at member
  simp only [List.mem_append, List.mem_singleton] at member
  rcases member with h | h | h | h | h | h | h | h | h | h | h | h | h
  · exact .inl (List.mem_of_mem_take h)
  · exact .inr (.inl (retyping buffer (by simp [builtIns]) _ rfl h))
  · exact .inl (taken _ _ h)
  · exact .inr (.inl (retyping framebuffer (by simp [builtIns]) _ rfl h))
  · exact .inl (taken _ _ h)
  · exact .inr (.inl (retyping program (by simp [builtIns]) _ rfl h))
  · exact .inl (taken _ _ h)
  · exact .inr (.inl (retyping shader (by simp [builtIns]) _ rfl h))
  · exact .inl (taken _ _ h)
  · exact .inr (.inl (retyping texture (by simp [builtIns]) _ rfl h))
  · exact .inl (List.mem_of_mem_drop h)
  · exact .inr (.inl (retyping vertexArray (by simp [builtIns]) _ rfl h))
  · exact .inr (.inr h)

theorem filter_retypeRules (m : OverrideModule) (kind : ResourceKind) (r : Registry) :
    (m.retypeRules kind r).filter (fun rule => !rule.retypes) = [] := by
  rw [List.filter_eq_nil_iff]
  intro rule member
  obtain ⟨f, -, rfl⟩ := List.mem_map.mp member
  simp [retypeRule, Rule.retypes]

/-- The built-in rules that do more than retype are the principal ones, for every registry. -/
theorem filter_builtInRules (r : Registry) : (builtInRules r).filter (fun rule => !rule.retypes) = principals := by
  rw [builtInRules_eq]
  simp only [List.filter_append, filter_retypeRules, List.nil_append]
  rfl

/-! ## Names -/

theorem nodup_principals : (principals.map Rule.function).Nodup := by
  decide

/-- No principal rule gives a name for which there is a rule in the modules themselves. -/
theorem targets_principals : ∀ rule ∈ principals, ∀ target ∈ rule.effect.targets,
    target ∉ "glBindVertexArray" :: principals.map Rule.function := by
  decide

/-- The rule for shader text. -/
def shaderTextRule : Rule :=
  ⟨"glShaderSource", .custom (singleTextEdits (glKind "Shader" 3)) none (some (.singleElement "glShaderSource"))⟩

/-- What a principal rule can be. -/
theorem principal_cases : ∀ rule ∈ principals,
    (∃ kind name kept, rule.effect = .generate kind name kept) ∨ (∃ kind, rule.effect = .create (some kind)) ∨
    (∃ kind argument name, rule.effect = .delete kind argument name ∧ kind.handleType ≠ "GLuint" ∧
      rule.function ≠ "glBindVertexArray") ∨ rule = shaderTextRule := by
  intro rule member
  simp only [principals, List.mem_cons, List.not_mem_nil, or_false] at member
  rcases member with rfl | rfl | rfl | rfl | rfl | rfl | rfl | rfl | rfl | rfl | rfl | rfl | rfl | rfl | rfl | rfl | rfl
  all_goals first
    | exact .inl ⟨_, _, _, rfl⟩
    | exact .inr (.inl ⟨_, rfl⟩)
    | exact .inr (.inr (.inl ⟨_, _, _, rfl, by decide, by decide⟩))
    | exact .inr (.inr (.inr rfl))

/-- A retyping rule belongs to a function of the registry and looks at plain native names only. -/
theorem effect_of_retyping {r : Registry} {rule : Rule} (retyping : Retyping r rule) :
    ∃ f ∈ Keyed.values r.functions, ∃ type names, rule = ⟨f.name, .retype type names [] (some "GLuint")⟩ := by
  obtain ⟨m, listed, kind, owner, member⟩ := retyping
  have native : kind.nativeType = "GLuint" := by
    simp only [builtIns, List.mem_cons, List.not_mem_nil, or_false] at listed
    rcases listed with rfl | rfl | rfl | rfl | rfl | rfl <;> cases owner <;> rfl
  obtain ⟨f, found, rfl⟩ := List.mem_map.mp member
  exact ⟨f, (List.mem_filter.mp found).1, kind.handleType, m.argumentNames, by rw [retypeRule, native]⟩

theorem filing_builtInRules {r : Registry} : ∀ rule ∈ builtInRules r, rule.effect.Filing := by
  intro rule member
  rcases mem_builtInRules member with principal | retyping | rfl
  · rcases principal_cases rule principal with ⟨_, _, _, effect⟩ | ⟨_, effect⟩ | ⟨_, _, _, effect, -⟩ | rfl
    · rw [effect]
      trivial
    · rw [effect]
      trivial
    · rw [effect]
      trivial
    · intro e member
      simp only [singleTextEdits, List.mem_cons, List.not_mem_nil, or_false] at member
      rcases member with rfl | rfl | rfl | rfl | rfl <;> trivial
  · obtain ⟨_, -, _, _, rfl⟩ := effect_of_retyping retyping
    trivial
  · trivial

/-! ## The tracker -/

/-- The tracker with the overrides of the built-in modules. -/
def builtInTracker (r : Registry) : OverrideTracker :=
  builtIns.foldl (registered r) .empty

theorem registerAll_builtIns (r : Registry) : registerAll r builtIns = .ok (builtInTracker r) :=
  registerAll_ok plain_builtIns

theorem rulesOf_builtInTracker (r : Registry) (name : String) :
    (builtInTracker r).rulesOf name = (builtInRules r).filter fun rule => rule.function = name :=
  rulesOf_trackerOf builtIns r name

/-- The built-in kinds. -/
def builtInKinds : List ResourceKind :=
  [glKind "Buffer" 0, glKind "Framebuffer" 1, glKind "ShaderProgram" 2, glKind "Shader" 3, glKind "Texture" 4,
   glKind "VertexArray" 5]

theorem nodup_handleType : ((kindsOf builtIns).map ResourceKind.handleType).Nodup := by
  decide

theorem kinds_builtInTracker (r : Registry) : (builtInTracker r).kinds = builtInKinds :=
  (owning_trackerOf r nodup_handleType).owned

theorem nodup_builtInKinds : (builtInKinds.map ResourceKind.name).Nodup := by
  decide

theorem kind_of_principal : ∀ p ∈ principals, ∀ kind ∈ p.creates?, kind ∈ builtInKinds := by
  decide

/-- A rule with new names is a principal one. -/
theorem principal_of_target {r : Registry} {rule : Rule} (member : rule ∈ builtInRules r) {target : String}
    (given : target ∈ rule.effect.targets) : rule ∈ principals := by
  rcases mem_builtInRules member with principal | retyping | rfl
  · exact principal
  · obtain ⟨_, -, _, _, rfl⟩ := effect_of_retyping retyping
    cases given
  · cases given

section Shuffled

variable {modules : List OverrideModule} {r : Registry}

theorem plain_of_perm (perm : modules.Perm builtIns) : ∀ m ∈ modules, m.Plain :=
  fun m member => plain_builtIns m (perm.mem_iff.mp member)

theorem rules_of_perm (perm : modules.Perm builtIns) (r : Registry) :
    (modules.flatMap (rules · r)).Perm (builtInRules r) :=
  perm.flatMap_right _

theorem kindsOf_of_perm (perm : modules.Perm builtIns) : (kindsOf modules).Perm builtInKinds :=
  perm.filterMap _

theorem owning_of_perm (perm : modules.Perm builtIns) (r : Registry) : Owning (kindsOf modules) (trackerOf modules r) :=
  owning_trackerOf r (((kindsOf_of_perm perm).map _).nodup_iff.mpr nodup_handleType)

/-- Under each name stand the same rules, whatever the order of the modules. -/
theorem rulesOf_of_perm (perm : modules.Perm builtIns) (name : String) :
    ((trackerOf modules r).rulesOf name).Perm ((builtInRules r).filter fun rule => rule.function = name) := by
  rw [rulesOf_trackerOf]
  exact (rules_of_perm perm r).filter _

/-- The built-in overrides can be applied in order to every registry with functions under their names. -/
theorem orderly_of_perm (perm : modules.Perm builtIns) (filed : r.Filed) :
    OverrideTracker.Orderly (trackerOf modules r).rules r := by
  have tidy := tidy_trackerOf modules r
  have listed : ∀ entry ∈ (trackerOf modules r).rules, ∀ rule ∈ entry.2, rule ∈ builtInRules r :=
    fun entry member rule own => (rules_of_perm perm r).mem_iff.mp (mem_trackerOf member own).1
  refine ⟨filed, tidy.nodup, fun entry member rule own => filing_builtInRules rule (listed entry member rule own), ?_⟩
  intro entry member _ rule own target given _ waits
  have new := targets_principals rule (principal_of_target (listed entry member rule own) given) target given
  simp only [List.mem_cons, not_or] at new
  -- A rule that waits under a new name only retypes, for a function of the registry.
  have waiting : ∀ other ∈ (trackerOf modules r).rulesOf target, Retyping r other := by
    intro other member
    obtain ⟨listed, named⟩ := List.mem_filter.mp ((rulesOf_of_perm perm target).mem_iff.mp member)
    have named : other.function = target := of_decide_eq_true named
    rcases mem_builtInRules listed with principal | retyping | rfl
    · exact absurd (List.mem_map.mpr ⟨other, principal, named⟩) new.2
    · exact retyping
    · exact absurd named.symm new.1
  constructor
  · obtain ⟨under, filed', rfl⟩ := List.mem_map.mp waits
    obtain ⟨other, among⟩ := List.exists_mem_of_ne_nil _ (tidy.own under filed').1
    have named := (tidy.own under filed').2 other among
    rw [← tidy.rulesOf_entry filed'] at among
    obtain ⟨f, function, _, _, rfl⟩ := effect_of_retyping (waiting other among)
    obtain ⟨entry, held, rfl⟩ := List.mem_map.mp function
    rw [← named]
    exact List.mem_map.mpr ⟨entry, held, filed.named entry held⟩
  · intro other member
    obtain ⟨_, -, _, _, rfl⟩ := effect_of_retyping (waiting other member)
    rfl

end Shuffled

theorem builtIn_applied {r : Registry} (filed : r.Filed) (applied : ((builtInTracker r).apply r).answer = .ok ()) :
    OverrideTracker.Applied (builtInTracker r) r ((builtInTracker r).apply r).state.1 ((builtInTracker r).apply r).state.2 :=
  OverrideTracker.apply_ok (orderly_of_perm (.refl builtIns) filed) applied

/-! ## The rules of one function -/

/-- Items with distinct keys: at most one has a given key. -/
theorem filter_key {α : Type} {items : List α} {key : α → String} (distinct : (items.map key).Nodup) (name : String) :
    (items.filter fun item => key item = name).length ≤ 1 := by
  induction items with
  | nil => exact Nat.zero_le 1
  | cons item rest ih =>
    obtain ⟨outside, distinct⟩ := List.nodup_cons.mp distinct
    by_cases same : key item = name
    · have others : rest.filter (fun item => key item = name) = [] := by
        rw [List.filter_eq_nil_iff]
        intro other member equal
        exact outside (List.mem_map.mpr ⟨other, member, (of_decide_eq_true equal).trans same.symm⟩)
      rw [List.filter_cons_of_pos (by simpa using same), others]
      exact Nat.le_refl 1
    · rw [List.filter_cons_of_neg (by simpa using same)]
      exact ih distinct

/-- Items of which one at most is special stand around that one. -/
theorem split_at_special {α : Type} {usual : α → Bool} {items wanted : List α}
    (special : (items.filter fun item => !usual item).Perm wanted) (few : wanted.length ≤ 1) :
    (wanted = [] ∧ ∀ item ∈ items, usual item = true) ∨
    ∃ before p after, items = before ++ p :: after ∧ wanted = [p] ∧ (∀ item ∈ before, usual item = true) ∧
      ∀ item ∈ after, usual item = true := by
  cases found : items.filter fun item => !usual item with
  | nil =>
    rw [found] at special
    refine .inl ⟨special.symm.eq_nil, fun item member => ?_⟩
    simpa using List.filter_eq_nil_iff.mp found item member
  | cons p rest =>
    rw [found] at special
    rw [← special.length_eq, List.length_cons] at few
    obtain rfl : rest = [] := List.length_eq_zero_iff.mp (by omega)
    obtain ⟨before, after, split, first, -, last⟩ := List.filter_eq_cons_iff.mp found
    refine .inr ⟨before, p, after, split, special.symm.eq_singleton, ?_, ?_⟩
    · intro item member
      simpa using first item member
    · intro item member
      simpa using List.filter_eq_nil_iff.mp last item member

/-- The rules of a function that do more than retype. -/
theorem filter_rulesOf_of_perm {modules : List OverrideModule} (perm : modules.Perm builtIns) (r : Registry) (name : String) :
    (((trackerOf modules r).rulesOf name).filter fun rule => !rule.retypes).Perm
      (principals.filter fun rule => rule.function = name) := by
  refine ((rulesOf_of_perm perm name).filter _).trans (.of_eq ?_)
  rw [List.filter_filter, ← filter_builtInRules r, List.filter_filter]
  simp only [Bool.and_comm]

/-- The rules of a function: one that is principal among others that retype, or only such. -/
theorem rulesOf_shape (r : Registry) (name : String) :
    (∀ rule ∈ (builtInTracker r).rulesOf name, rule.retypes = true) ∨
    ∃ before p after, (builtInTracker r).rulesOf name = before ++ p :: after ∧ p ∈ principals ∧ p.function = name ∧
      (∀ rule ∈ before, rule.retypes = true) ∧ ∀ rule ∈ after, rule.retypes = true := by
  have special := filter_rulesOf_of_perm (.refl builtIns) r name
  rcases split_at_special special (filter_key nodup_principals name) with ⟨-, each⟩ | ⟨before, p, after, split, only, first, last⟩
  · exact .inl each
  · have principal : p ∈ principals.filter fun rule => rule.function = name := only ▸ List.mem_singleton.mpr rfl
    obtain ⟨listed, named⟩ := List.mem_filter.mp principal
    exact .inr ⟨before, p, after, split, listed, of_decide_eq_true named, first, last⟩

end OverrideModule

end CommandStream
