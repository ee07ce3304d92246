import CommandStream.Proofs.Description.Resolution

/-!
# Where commands stand

Groups are gathered before the first command is looked at, and a group is resolved to what the description and the header
say of it, whichever command asks for it first. So a command does the same to its function wherever it stands, as long as
the commands of one function stay in their order, and only the order in which groups are resolved tells where it stood.
-/

namespace CommandStream
open Description Markup

/-- Items that are made into nothing may be left out. -/
theorem flatMap_filter {α β : Type} {f : α → List β} {p : α → Bool} {items : List α}
    (silent : ∀ item ∈ items, p item = false → f item = []) : (items.filter p).flatMap f = items.flatMap f := by
  induction items with
  | nil => rfl
  | cons item rest ih =>
    have others := ih fun other member => silent other (List.mem_cons_of_mem _ member)
    cases heard : p item with
    | true => rw [List.filter_cons_of_pos heard, List.flatMap_cons, List.flatMap_cons, others]
    | false =>
      rw [List.filter_cons_of_neg (by rw [heard]; exact Bool.false_ne_true), List.flatMap_cons,
        silent item List.mem_cons_self heard, others, List.nil_append]

theorem perm_eraseDups {items others : List String} (perm : items.Perm others) : items.eraseDups.Perm others.eraseDups := by
  rw [List.perm_ext_iff_of_nodup (nodup_eraseDups items) (nodup_eraseDups others)]
  intro item
  rw [List.mem_eraseDups, List.mem_eraseDups, perm.mem_iff]

/-- Whether a child of the root says something of groups. -/
def Description.Membership.isSection (e : Element) : Bool :=
  e.tag == "groups" || e.tag == "enums"

namespace Refinement

/-- The name that a command has, if it is well formed. -/
def named? (command : Element) : Option String :=
  (prototype? command).map Prod.fst

/-- Descriptions that differ in where their commands stand. What they say of groups stands in the same order, and the
commands of each function among themselves; nothing else is asked of the order in which commands stand. -/
structure Rearranged (root root' : Element) : Prop where
  sections : root'.children.filter Membership.isSection = root.children.filter Membership.isSection
  commands : (commandsOf root).Perm (commandsOf root')
  ordered : ∀ function, ((commandsOf root').filter fun command => named? command = some function) =
    (commandsOf root).filter fun command => named? command = some function

variable {root root' : Element} {x : Refinement} {r : Registry}

/-- Commands with names of their own may stand in any order. -/
theorem Rearranged.of_distinct (sections : root'.children.filter Membership.isSection = root.children.filter Membership.isSection)
    (perm : (commandsOf root).Perm (commandsOf root')) (distinct : ((commandsOf root).filterMap named?).Nodup) :
    Rearranged root root' := by
  refine ⟨sections, perm, fun function => ?_⟩
  have same := perm.filter fun command => named? command = some function
  have apart := (List.pairwise_filterMap.mp distinct).filter fun command => named? command = some function
  have asked : ∀ command ∈ (commandsOf root).filter fun command => named? command = some function,
      named? command = some function := fun command member => of_decide_eq_true (List.mem_filter.mp member).2
  -- One command at most has the name, and a list of one item has one order.
  match own : (commandsOf root).filter fun command => named? command = some function with
  | [] =>
    rw [own] at same
    exact List.nil_perm.mp same
  | [command] =>
    rw [own] at same
    exact List.singleton_perm.mp same |>.symm
  | command :: other :: rest =>
    rw [own] at apart asked
    have first := asked command List.mem_cons_self
    have second := asked other (List.mem_cons_of_mem _ List.mem_cons_self)
    exact absurd rfl ((List.pairwise_cons.mp apart).1 other List.mem_cons_self function first function second)

/-! ## Groups and items -/

theorem Rearranged.membership (rearranged : Rearranged root root') : Membership.ofRoot root' = Membership.ofRoot root := by
  have sections : ∀ root : Element,
      Membership.ofRoot root = (root.children.filter Membership.isSection).foldl Membership.addSection [] := by
    intro root
    rw [List.foldl_filter]
    unfold Membership.ofRoot
    congr 1
    funext m e
    by_cases groups : e.tag = "groups"
    · simp [Membership.isSection, groups]
    · by_cases enums : e.tag = "enums"
      · simp [Membership.isSection, enums]
      · simp [Membership.isSection, Membership.addSection, groups, enums]
  rw [sections, sections, rearranged.sections]

theorem Rearranged.items (rearranged : Rearranged root root') (function : String) :
    Retyping.ofRoot root' function = Retyping.ofRoot root function := by
  have own : ∀ root : Element, Retyping.ofRoot root function =
      ((commandsOf root).filter fun command => named? command = some function).flatMap (Retyping.ofCommand function) := by
    intro root
    refine (flatMap_filter fun command _ other => ?_).symm
    have other : named? command ≠ some function := of_decide_eq_false other
    unfold Retyping.ofCommand
    cases described : prototype? command with
    | none => rfl
    | some named =>
      have apart : named.1 ≠ function := by
        rintro rfl
        rw [named?, described] at other
        exact other rfl
      exact if_neg apart
  rw [own, own, rearranged.ordered]

/-! ## Counts -/

/-- Whether a command is one for a function of a registry. -/
def describes (r : Registry) (command : Element) : Bool :=
  match named? command with
  | some name => Keyed.hasKey r.functions name
  | none => false

/-- What happens to groups and types counts nothing. -/
structure Uncounted (x x' : Refinement) : Prop where
  found : x'.found = x.found
  skipped : x'.skipped = x.skipped

theorem uncounted_resolve (x : Refinement) (group : String) : Uncounted x (x.resolve group).2 := by
  unfold resolve
  split
  · exact ⟨rfl, rfl⟩
  split
  · exact ⟨rfl, rfl⟩
  split <;> exact ⟨rfl, rfl⟩

theorem uncounted_refineResult (x : Refinement) (place : Nat) (prototype : Element) :
    Uncounted x (x.refineResult place prototype) := by
  unfold refineResult
  split
  · exact ⟨rfl, rfl⟩
  · rename_i name _
    have resolved := x.uncounted_resolve name
    split
    · rename_i equal
      rwa [equal] at resolved
    · rename_i equal
      rw [equal] at resolved
      exact ⟨resolved.found, resolved.skipped⟩

theorem uncounted_refineParameter (x : Refinement) (place : Nat) (parameter : Element) :
    Uncounted x (x.refineParameter place parameter) := by
  unfold refineParameter
  split
  · rename_i name _ _ _
    have resolved := x.uncounted_resolve name
    split
    · rename_i equal
      rwa [equal] at resolved
    · rename_i equal
      rw [equal] at resolved
      split
      · exact resolved
      split
      · exact resolved
      · exact ⟨resolved.found, resolved.skipped⟩
  · exact ⟨rfl, rfl⟩

theorem uncounted_parameters (x : Refinement) (place : Nat) (parameters : List Element) :
    Uncounted x (parameters.foldl (fun x parameter => x.refineParameter place parameter) x) := by
  induction parameters generalizing x with
  | nil => exact ⟨rfl, rfl⟩
  | cons parameter rest ih =>
    have first := x.uncounted_refineParameter place parameter
    have others := ih (x.refineParameter place parameter)
    exact ⟨others.found.trans first.found, others.skipped.trans first.skipped⟩

/-- A command is counted as found if it is one for a function of the registry, and as skipped if it is malformed. -/
theorem counts_refineCommand (keys : Keyed.keys x.registry.functions = Keyed.keys r.functions) (command : Element) :
    (x.refineCommand command).found = x.found + (if describes r command then 1 else 0) ∧
    (x.refineCommand command).skipped = x.skipped + (if (named? command).isNone then 1 else 0) := by
  unfold refineCommand
  cases described : prototype? command with
  | none => simp [report, describes, named?, described]
  | some named =>
    obtain ⟨name, prototype⟩ := named
    have name_eq : named? command = some name := by rw [named?, described]; rfl
    have known : describes r command = true ↔ name ∈ Keyed.keys r.functions := by
      simp only [describes, name_eq, Keyed.hasKey_iff]
    simp only [name_eq, Option.isNone_some]
    cases found : x.registry.placeOf? name with
    | none =>
      have foreign := Registry.placeOf?_eq_none.mp found
      rw [keys] at foreign
      simp only [if_neg fun own => foreign (known.mp own)]
      exact ⟨rfl, rfl⟩
    | some place =>
      have own : name ∈ Keyed.keys r.functions := by
        rw [← keys]
        by_contra absent
        rw [Registry.placeOf?_eq_none.mpr absent] at found
        cases found
      have returned := uncounted_refineResult { x with found := x.found + 1 } place prototype
      have rest := uncounted_parameters (refineResult { x with found := x.found + 1 } place prototype) place
        (command.childrenNamed "param")
      rw [if_pos (known.mpr own)]
      exact ⟨rest.found.trans returned.found, rest.skipped.trans returned.skipped⟩

theorem counts_run (keys : Keyed.keys x.registry.functions = Keyed.keys r.functions) (commands : List Element) :
    (commands.foldl refineCommand x).found = x.found + commands.countP (describes r) ∧
    (commands.foldl refineCommand x).skipped = x.skipped + commands.countP fun command => (named? command).isNone := by
  induction commands generalizing x with
  | nil => exact ⟨rfl, rfl⟩
  | cons command rest ih =>
    have kept : Registry.KeptByTyping fun r' => Keyed.keys r'.functions = Keyed.keys r.functions :=
      ⟨fun _ _ same => same, fun r' place _ same => (r'.keys_modifyAt place _).trans same⟩
    obtain ⟨found, skipped⟩ := ih (keeps_refineCommand kept keys command)
    obtain ⟨foundOne, skippedOne⟩ := counts_refineCommand keys command
    rw [List.foldl_cons, found, skipped, foundOne, skippedOne, List.countP_cons, List.countP_cons]
    omega

/-- The commands for functions of the registry are counted as found, and the malformed ones as skipped. -/
theorem counts_ofRoot (r : Registry) (root : Element) :
    (ofRoot r root).found = (commandsOf root).countP (describes r) ∧
    (ofRoot r root).skipped = (commandsOf root).countP fun command => (named? command).isNone := by
  obtain ⟨found, skipped⟩ := counts_run (x := start r (Membership.ofRoot root) (membershipLog root)) rfl (commandsOf root)
  have same : ∀ x : Refinement, x.summarized.found = x.found ∧ x.summarized.skipped = x.skipped := by
    intro x
    unfold summarized
    dsimp only
    split <;> exact ⟨rfl, rfl⟩
  rw [ofRoot, (same _).1, (same _).2, found, skipped]
  exact ⟨Nat.zero_add _, Nat.zero_add _⟩

/-! ## Both orders -/

/-- **A description says the same wherever its commands stand.** Two descriptions that differ only in where their commands
stand make the same functions of a header, resolve the same groups with the same members in the same order, find and skip
as many commands, and leave everything else of the registry as it was. The groups alone may be resolved in another order. -/
theorem same_wherever_commands_stand (start : String) (lines : List String) (rearranged : Rearranged root root') :
    let r := (Header.Extraction.ofLines (.empty start) lines).state.registry
    let x := ofRoot r root
    let x' := ofRoot r root'
    x'.registry.functions = x.registry.functions ∧
    x.registry.enums.Perm x'.registry.enums ∧
    (∀ group, Keyed.find? x'.registry.enums group = Keyed.find? x.registry.enums group) ∧
    x'.found = x.found ∧ x'.skipped = x.skipped ∧
    x'.registry = { x.registry with enums := x'.registry.enums } := by
  intro r x x'
  have filed : r.Filed := Header.Extraction.filed_ofLines (Registry.filed_empty start) lines
  have unrefined : r.enums = [] := Header.Extraction.enums_ofLines (.empty start) lines
  have functions : x'.registry.functions = x.registry.functions := by
    simp only [x, x', (refines_ofRoot filed unrefined _).1, rearranged.membership, rearranged.items]
  have enums : x.registry.enums.Perm x'.registry.enums := by
    simp only [x, x', Resolved.ofRoot unrefined, rearranged.membership]
    exact (perm_eraseDups ((rearranged.commands.flatMap_right _).filter _)).map _
  have distinct : (Keyed.keys x.registry.enums).Nodup := by
    simp only [x, Resolved.ofRoot unrefined, Keyed.keys, List.map_map, Function.comp_def, List.map_id_fun', id_eq]
    exact nodup_eraseDups _
  obtain ⟨found, skipped⟩ := counts_ofRoot r root
  obtain ⟨found', skipped'⟩ := counts_ofRoot r root'
  refine ⟨functions, enums, fun group => ?_, ?_, ?_, ?_⟩
  · exact find?_of_perm enums.symm (enums.map Prod.fst |>.nodup_iff.mp distinct) group
  · rw [found', found, rearranged.commands.countP_eq]
  · rw [skipped', skipped, rearranged.commands.countP_eq]
  · rw [rest_ofRoot r root', rest_ofRoot r root, functions]

end Refinement

/-! ## Two commands swapped -/

namespace SwappedCommands
open Description Membership Element

/-- A header with two functions of one enum each. -/
def lines : List String :=
  ["typedef void (APIENTRYP PFNGLENABLEPROC)(GLenum cap);",
   "GLAPI PFNGLENABLEPROC glad_glEnable;",
   "typedef void (APIENTRYP PFNGLBINDTEXTUREPROC)(GLenum target, GLuint texture);",
   "GLAPI PFNGLBINDTEXTUREPROC glad_glBindTexture;"]

def enableType : FunctionType := ⟨"PFNGLENABLEPROC", "void", false, [⟨"GLenum", "cap", false⟩]⟩

def bindTextureType : FunctionType :=
  ⟨"PFNGLBINDTEXTUREPROC", "void", false, [⟨"GLenum", "target", false⟩, ⟨"GLuint", "texture", false⟩]⟩

def registry : Registry :=
  { Registry.empty "gl" with
    types := [("PFNGLENABLEPROC", enableType), ("PFNGLBINDTEXTUREPROC", bindTextureType)]
    functions := [("glEnable", ⟨"glEnable", "Enable", "public", enableType⟩),
      ("glBindTexture", ⟨"glBindTexture", "BindTexture", "public", bindTextureType⟩)]
    shortNames := [("Enable", "glEnable"), ("BindTexture", "glBindTexture")] }

def groups : Element :=
  .mk "groups" [] ""
    [.mk "group" [("name", "EnableCap")] "" [], .mk "group" [("name", "TextureTarget")] "" []]

/-- A command with an enum of a group as its first parameter. -/
def command (function parameter group : String) : Element :=
  .mk "command" [] ""
    [.mk "proto" [] "void " [.mk "name" [] function []],
     .mk "param" [("group", group)] "" [.mk "ptype" [] "GLenum" [], .mk "name" [] parameter []]]

def enable : Element := command "glEnable" "cap" "EnableCap"

def bindTexture : Element := command "glBindTexture" "target" "TextureTarget"

def root : Element :=
  .mk "registry" [] "" [groups, .mk "commands" [] "" [enable, bindTexture]]

/-- The commands in the other order, in sections of their own, and in front of the groups. -/
def moved : Element :=
  .mk "registry" [] "" [.mk "commands" [] "" [bindTexture], .mk "commands" [] "" [enable], groups]

/-- Both orders give both functions their types and find both commands. The groups stand in the order in which they were
asked for. -/
theorem moved_refines_alike :
    let r := (Header.Extraction.ofLines (.empty "gl") lines).state.registry
    let x := Refinement.ofRoot r root
    let x' := Refinement.ofRoot r moved
    Refinement.Rearranged root moved ∧ x'.registry.functions = x.registry.functions ∧ x'.found = x.found ∧ x.found = 2 ∧
      Keyed.keys x.registry.enums = ["EnableCap", "TextureTarget"] ∧
      Keyed.keys x'.registry.enums = ["TextureTarget", "EnableCap"] := by
  have sections : moved.children.filter isSection = root.children.filter isSection := by
    simp [root, moved, groups, isSection, children, tag]
  have perm : (Refinement.commandsOf root).Perm (Refinement.commandsOf moved) := .swap bindTexture enable []
  have rearranged : Refinement.Rearranged root moved := .of_distinct sections perm (by decide +kernel)
  have read : (Header.Extraction.ofLines (.empty "gl") lines).state.registry = registry := by decide +kernel
  obtain ⟨functions, -, -, found, -⟩ := Refinement.same_wherever_commands_stand "gl" lines rearranged
  rw [read] at functions found ⊢
  exact ⟨rearranged, functions, found, by decide +kernel, by decide +kernel, by decide +kernel⟩

end SwappedCommands

end CommandStream
