import Mathlib.Data.List.Induction
import CommandStream.Proofs.Registry.Parsed

/-!
# What a description says of functions

A command of a description says for one function, item by item, of which group its result or an argument is. Items
with groups that have no description are of no account; the others give the result or the first argument of the name
the class of the group. So every function is retyped by its own commands alone, in document order, and the classes of
a refined registry are those of the groups that were asked for and are described.
-/

namespace CommandStream
open Description Markup

/-- An item of a command: the group of the result, or of the argument of a name. -/
inductive Retyping where
  | result (group : String)
  | argument (name group : String)

namespace Retyping

/-- The group that an item asks for. -/
def group : Retyping → String
  | result group => group
  | argument _ group => group

/-- The item of a prototype. -/
def ofPrototype (prototype : Element) : List Retyping :=
  match Refinement.enumGroup? prototype with
  | some group => [result group]
  | none => []

/-- The item of a parameter. -/
def ofParameter (parameter : Element) : List Retyping :=
  match Refinement.enumGroup? parameter, parameter.child? "name" with
  | some group, some name => [argument name.text group]
  | _, _ => []

/-- The items of a command for a function. -/
def ofCommand (function : String) (command : Element) : List Retyping :=
  match Refinement.prototype? command with
  | some (name, prototype) =>
    if name = function then ofPrototype prototype ++ (command.childrenNamed "param").flatMap ofParameter else []
  | none => []

/-- The items of a description for a function, in document order. -/
def ofRoot (root : Element) (function : String) : List Retyping :=
  (Refinement.commandsOf root).flatMap (ofCommand function)

/-- The items whose groups are described. -/
def described (m : Membership) (items : List Retyping) : List Retyping :=
  items.filter fun item => Keyed.hasKey m item.group

/-- The group that items last give to the argument of a name. -/
def lastGroup? (items : List Retyping) (name : String) : Option String :=
  (items.filterMap fun item =>
    match item with
    | argument other group => if other = name then some group else none
    | result _ => none).getLast?

end Retyping

/-- An argument with the class of a group, if there is one. -/
def Argument.inGroup (a : Argument) : Option String → Argument
  | some group => { a with type := groupTypeName group, isEnum := true }
  | none => a

/-- A function type with the class that an item asks for. -/
def FunctionType.retyped (t : FunctionType) : Retyping → FunctionType
  | .result group => { t with returnType := groupTypeName group, returnsEnum := true }
  | .argument name group =>
    match t.findArgument? name with
    | some i => { t with arguments := t.arguments.modify i fun a => a.inGroup (some group) }
    | none => t

/-- A function with the classes that items ask for, one after another. -/
def Function.retyped (f : Function) (items : List Retyping) : Function :=
  { f with type := items.foldl FunctionType.retyped f.type }

/-! ## Arguments -/

namespace FunctionType

variable {t : FunctionType} {items : List Retyping} {a : Argument} {i : Nat}

theorem names_retyped (t : FunctionType) (item : Retyping) :
    (t.retyped item).arguments.map Argument.name = t.arguments.map Argument.name := by
  unfold retyped
  split
  · rfl
  · split
    · rename_i i _
      apply List.ext_getElem?
      intro j
      rw [List.getElem?_map, List.getElem?_map, List.getElem?_modify]
      split
      · cases t.arguments[j]? <;> rfl
      · rw [id_map']
    · rfl

theorem findArgument?_eq (t : FunctionType) (name : String) :
    t.findArgument? name = (t.arguments.map Argument.name).findIdx? (· == name) := by
  rw [findArgument?, List.findIdx?_map]
  rfl

/-- Items find arguments by their names, which stay. -/
theorem findArgument?_retyped (t : FunctionType) (items : List Retyping) (name : String) :
    (items.foldl retyped t).findArgument? name = t.findArgument? name := by
  induction items generalizing t with
  | nil => rfl
  | cons item rest ih =>
    rw [List.foldl_cons, ih, findArgument?_eq, findArgument?_eq, names_retyped]

/-- The group that items give to an argument: only the first one of its name gets one. -/
def groupFor? (t : FunctionType) (items : List Retyping) (i : Nat) (a : Argument) : Option String :=
  if t.findArgument? a.name = some i then Retyping.lastGroup? items a.name else none

theorem name_of_findArgument? {name : String} (found : t.findArgument? name = some i)
    (stands : t.arguments[i]? = some a) : a.name = name := by
  obtain ⟨bound, same, -⟩ := List.findIdx?_eq_some_iff_getElem.mp found
  obtain ⟨_, read⟩ := List.getElem?_eq_some_iff.mp stands
  rw [read] at same
  exact beq_iff_eq.mp same

theorem groupFor?_result (group : String) : t.groupFor? (items ++ [.result group]) i a = t.groupFor? items i a := by
  simp only [groupFor?, Retyping.lastGroup?, List.filterMap_append, List.filterMap_cons_none, List.filterMap_nil,
    List.append_nil]

theorem groupFor?_argument (name group : String) :
    t.groupFor? (items ++ [.argument name group]) i a =
      if t.findArgument? a.name = some i ∧ name = a.name then some group else t.groupFor? items i a := by
  unfold groupFor?
  by_cases first : t.findArgument? a.name = some i
  · by_cases same : name = a.name
    · simp [first, same, Retyping.lastGroup?]
    · simp [first, same, Retyping.lastGroup?]
  · simp [first]

/-- Behind items, an argument is of the group that was last given to it. -/
theorem argument_retyped (stands : t.arguments[i]? = some a) :
    (items.foldl retyped t).arguments[i]? = some (a.inGroup (t.groupFor? items i a)) := by
  -- From the last item backwards, since a later group replaces an earlier one.
  induction items using List.reverseRecOn with
  | nil =>
    have none_given : t.groupFor? [] i a = none := by simp [groupFor?, Retyping.lastGroup?]
    rw [none_given]
    exact stands
  | append_singleton items item ih =>
    rw [List.foldl_append, List.foldl_cons, List.foldl_nil]
    cases item with
    | result group =>
      rw [groupFor?_result]
      exact ih
    | argument name group =>
      rw [groupFor?_argument, retyped, findArgument?_retyped]
      cases found : t.findArgument? name with
      | none =>
        have other : ¬ (t.findArgument? a.name = some i ∧ name = a.name) := by
          rintro ⟨first, rfl⟩
          rw [found] at first
          cases first
        rw [if_neg other]
        exact ih
      | some j =>
        simp only [List.getElem?_modify, ih]
        by_cases same : j = i
        · subst same
          have own := name_of_findArgument? found stands
          rw [if_pos ⟨own ▸ found, own.symm⟩]
          cases t.groupFor? items j a <;> simp [Argument.inGroup]
        · have other : ¬ (t.findArgument? a.name = some i ∧ name = a.name) := by
            rintro ⟨first, rfl⟩
            rw [found] at first
            exact same (Option.some.inj first)
          rw [if_neg other]
          simp [same]

end FunctionType

theorem Function.retyped_append (f : Function) (items others : List Retyping) :
    f.retyped (items ++ others) = (f.retyped items).retyped others := by
  simp only [retyped, List.foldl_append]

namespace Refinement

variable {m : Membership} {x x' x'' : Refinement} {place : Nat} {items others : List Retyping}

/-! ## Groups -/

/-- A refinement under way: its groups are described and have the names of their classes, and no group is given up
that is described. -/
structure Sound (m : Membership) (x : Refinement) : Prop where
  membership : x.membership = m
  classes : ∀ entry ∈ x.registry.enums, entry.2.name = groupTypeName entry.1 ∧ Keyed.hasKey m entry.1 = true
  unresolved : ∀ group ∈ x.unresolved, Keyed.hasKey m group = false

theorem name_groupOf (r : Registry) (group : String) (symbols : List String) :
    (groupOf r group symbols).name = groupTypeName group := by
  have kept : ∀ (symbols : List String) (found : EnumGroup) (key : String → String),
      (symbols.foldl (fun found symbol => found.add (key symbol) symbol) found).name = found.name := by
    intro symbols
    induction symbols with
    | nil => exact fun _ _ => rfl
    | cons symbol rest ih =>
      intro found key
      have first : (found.add (key symbol) symbol).name = found.name := by
        unfold EnumGroup.add
        split <;> rfl
      rw [List.foldl_cons, ih, first]
  exact kept _ _ _

/-- A group without description leaves the registry as it is. -/
theorem Sound.resolve_undescribed (sound : x.Sound m) {group : String} (undescribed : Keyed.hasKey m group = false) :
    ∃ next, x.resolve group = (none, next) ∧ next.registry = x.registry ∧ next.Sound m := by
  have absent : Keyed.find? x.registry.enums group = none := by
    rw [find?_eq_none_iff]
    intro member
    obtain ⟨entry, listed, rfl⟩ := List.mem_map.mp member
    have described := (sound.classes entry listed).2
    rw [undescribed] at described
    cases described
  have unknown : Keyed.find? x.membership group = none := by
    have none_found := Keyed.isSome_find? m group
    rw [undescribed] at none_found
    rw [sound.membership]
    exact Option.not_isSome_iff_eq_none.mp (by rw [none_found]; exact Bool.false_ne_true)
  unfold resolve
  rw [absent]
  dsimp only
  split
  · exact ⟨x, rfl, rfl, sound⟩
  · rw [unknown]
    refine ⟨_, rfl, rfl, sound.membership, sound.classes, ?_⟩
    intro other member
    rcases List.mem_append.mp member with before | last
    · exact sound.unresolved other before
    · rw [List.mem_singleton.mp last]
      exact undescribed

/-- A described group is not given up. -/
theorem Sound.not_given_up (sound : x.Sound m) {group : String} (described : Keyed.hasKey m group = true) :
    x.unresolved.contains group = false := by
  cases given_up : x.unresolved.contains group with
  | false => rfl
  | true =>
    have undescribed := sound.unresolved group (List.contains_iff_mem.mp given_up)
    rw [described] at undescribed
    cases undescribed

/-- A described group is there once it was asked for, and its class has its name. -/
theorem Sound.resolve_described (sound : x.Sound m) {group : String} (described : Keyed.hasKey m group = true) :
    ∃ found next, x.resolve group = (some found, next) ∧ found.name = groupTypeName group ∧
      next.registry.functions = x.registry.functions ∧
      (∀ other, other ∈ Keyed.keys next.registry.enums ↔ other ∈ Keyed.keys x.registry.enums ∨ other = group) ∧
      next.Sound m := by
  unfold resolve
  cases present : Keyed.find? x.registry.enums group with
  | some found =>
    have listed := mem_of_lookup present
    refine ⟨found, x, rfl, (sound.classes _ listed).1, rfl, ?_, sound⟩
    intro other
    refine ⟨.inl, ?_⟩
    rintro (before | rfl)
    · exact before
    · exact List.mem_map_of_mem listed
  | none =>
    obtain ⟨symbols, known⟩ := Option.isSome_iff_exists.mp ((Keyed.isSome_find? m group).trans described)
    have members : Keyed.find? x.membership group = some symbols := sound.membership ▸ known
    dsimp only
    rw [sound.not_given_up described, members]
    refine ⟨_, _, rfl, name_groupOf _ _ _, rfl, ?_, sound.membership, ?_, sound.unresolved⟩
    · intro other
      simp [Keyed.keys]
    · intro entry member
      rcases List.mem_append.mp member with before | last
      · exact sound.classes entry before
      · rw [List.mem_singleton.mp last]
        exact ⟨name_groupOf _ _ _, described⟩

/-! ## Items -/

/-- A refinement behind items for the function at a place. -/
structure Follows (m : Membership) (place : Nat) (items : List Retyping) (x x' : Refinement) : Prop where
  sound : x'.Sound m
  functions : x'.registry.functions =
    x.registry.functions.modify place fun entry => (entry.1, entry.2.retyped (Retyping.described m items))
  asked : ∀ group, group ∈ Keyed.keys x'.registry.enums ↔
    group ∈ Keyed.keys x.registry.enums ∨ Keyed.hasKey m group = true ∧ ∃ item ∈ items, item.group = group

theorem Follows.nothing (sound : x.Sound m) (place : Nat) : Follows m place [] x x := by
  refine ⟨sound, ?_, fun group => ?_⟩
  · exact (List.modify_id place x.registry.functions).symm
  · simp

theorem Follows.trans (first : Follows m place items x x') (second : Follows m place others x' x'') :
    Follows m place (items ++ others) x x'' := by
  refine ⟨second.sound, ?_, fun group => ?_⟩
  · rw [second.functions, first.functions, List.modify_modify_eq]
    simp only [Function.comp_def, Retyping.described, List.filter_append, Function.retyped_append]
  · rw [second.asked, first.asked]
    simp only [List.mem_append, or_and_right, exists_or, and_or_left, or_assoc]

theorem Sound.of_registry (sound : x.Sound m) (same : x'.membership = x.membership)
    (enums : x'.registry.enums = x.registry.enums) (unresolved : x'.unresolved = x.unresolved) : x'.Sound m where
  membership := same.trans sound.membership
  classes := enums ▸ sound.classes
  unresolved := unresolved ▸ sound.unresolved

/-- An item without description leaves the registry as it is. -/
theorem Follows.undescribed (item : Retyping) (sound' : x'.Sound m) (place : Nat)
    (undescribed : Keyed.hasKey m item.group = false) (registry : x'.registry = x.registry) :
    Follows m place [item] x x' := by
  have nothing : Retyping.described m [item] = [] := by simp [Retyping.described, undescribed]
  refine ⟨sound', ?_, fun group => ?_⟩
  · rw [registry, nothing]
    exact (List.modify_id place x.registry.functions).symm
  · rw [registry]
    refine ⟨.inl, ?_⟩
    rintro (before | ⟨known, other, single, rfl⟩)
    · exact before
    · rw [List.mem_singleton.mp single, undescribed] at known
      cases known

/-- A described item retypes the function when its group is there. -/
theorem Follows.described (item : Retyping) (sound' : x'.Sound m) (described : Keyed.hasKey m item.group = true)
    (asked : ∀ other, other ∈ Keyed.keys x'.registry.enums ↔ other ∈ Keyed.keys x.registry.enums ∨ other = item.group)
    (functions : x'.registry.functions = x.registry.functions.modify place
      fun entry => (entry.1, entry.2.retyped [item])) : Follows m place [item] x x' := by
  have whole : Retyping.described m [item] = [item] := by simp [Retyping.described, described]
  refine ⟨sound', ?_, fun group => ?_⟩
  · rw [whole, functions]
  · rw [asked]
    refine or_congr_right ⟨?_, ?_⟩
    · rintro rfl
      exact ⟨described, item, List.mem_singleton_self item, rfl⟩
    · rintro ⟨-, other, single, rfl⟩
      rw [List.mem_singleton.mp single]

theorem Follows.refineResult (sound : x.Sound m) (place : Nat) (prototype : Element) :
    Follows m place (Retyping.ofPrototype prototype) x (x.refineResult place prototype) := by
  unfold Refinement.refineResult Retyping.ofPrototype
  cases enumGroup? prototype with
  | none => exact .nothing sound place
  | some name =>
    cases described : Keyed.hasKey m name with
    | false =>
      obtain ⟨next, resolved, registry, sound'⟩ := sound.resolve_undescribed described
      simp only [resolved]
      exact .undescribed (.result name) sound' place described registry
    | true =>
      obtain ⟨found, next, resolved, named, functions, asked, sound'⟩ := sound.resolve_described described
      simp only [resolved]
      refine .described (.result name) (sound'.of_registry rfl rfl rfl) described asked ?_
      simp only [Registry.modifyAt, functions, withResult, named]
      rfl

theorem Follows.refineParameter (sound : x.Sound m) (place : Nat) (parameter : Element) :
    Follows m place (Retyping.ofParameter parameter) x (x.refineParameter place parameter) := by
  unfold Refinement.refineParameter Retyping.ofParameter
  cases enumGroup? parameter with
  | none => exact .nothing sound place
  | some name =>
    cases parameter.child? "name" with
    | none => exact .nothing sound place
    | some nameElement =>
      cases described : Keyed.hasKey m name with
      | false =>
        obtain ⟨next, resolved, registry, sound'⟩ := sound.resolve_undescribed described
        simp only [resolved]
        exact .undescribed (.argument nameElement.text name) sound' place described registry
      | true =>
        obtain ⟨found, next, resolved, named, functions, asked, sound'⟩ := sound.resolve_described described
        simp only [resolved]
        cases stands : next.registry.functions[place]? with
        | none =>
          have absent : next.registry.functionAt? place = none := by
            rw [Registry.functionAt?, stands]
            rfl
          rw [absent]
          refine .described (.argument nameElement.text name) sound' described asked ?_
          rw [functions, List.modify_eq_self (functions ▸ List.getElem?_eq_none_iff.mp stands)]
        | some entry =>
          rw [Registry.functionAt?_eq stands]
          rw [functions] at stands
          -- At a place that is taken, changing an entry is setting it.
          have retyped := Registry.modify_eq_set stands fun entry : String × Function =>
            (entry.1, entry.2.retyped [.argument nameElement.text name])
          dsimp only
          cases first : entry.2.type.findArgument? nameElement.text with
          | none =>
            refine .described (.argument nameElement.text name) sound' described asked ?_
            have same : entry.2.retyped [.argument nameElement.text name] = entry.2 := by
              simp only [Function.retyped, FunctionType.retyped, first, List.foldl_cons, List.foldl_nil]
            obtain ⟨bound, read⟩ := List.getElem?_eq_some_iff.mp stands
            rw [retyped, same, functions, ← read, List.set_getElem_self]
          | some i =>
            refine .described (.argument nameElement.text name) (sound'.of_registry rfl rfl rfl) described asked ?_
            rw [retyped]
            simp only [Registry.modifyAt, report, functions]
            rw [Registry.modify_eq_set stands]
            simp only [Function.retyped, FunctionType.retyped, first, List.foldl_cons, List.foldl_nil, withGroup, named]
            rfl

theorem Follows.parameters (sound : x.Sound m) (place : Nat) (parameters : List Element) :
    Follows m place (parameters.flatMap Retyping.ofParameter) x
      (parameters.foldl (fun x parameter => x.refineParameter place parameter) x) := by
  induction parameters generalizing x with
  | nil => exact .nothing sound place
  | cons parameter rest ih =>
    have first := Follows.refineParameter sound place parameter
    rw [List.flatMap_cons]
    exact first.trans (ih first.sound)

/-! ## Commands -/

/-- A refinement behind commands: each function is retyped by its own. -/
structure Refines (m : Membership) (commands : List Element) (x x' : Refinement) : Prop where
  sound : x'.Sound m
  functions : x'.registry.functions = x.registry.functions.map fun entry =>
    (entry.1, entry.2.retyped (Retyping.described m (commands.flatMap (Retyping.ofCommand entry.1))))
  asked : ∀ group, group ∈ Keyed.keys x'.registry.enums ↔ group ∈ Keyed.keys x.registry.enums ∨
    Keyed.hasKey m group = true ∧ ∃ function ∈ Keyed.keys x.registry.functions,
      ∃ item ∈ commands.flatMap (Retyping.ofCommand function), item.group = group

theorem Refines.nothing (sound : x.Sound m) : Refines m [] x x := by
  refine ⟨sound, ?_, fun group => ?_⟩
  · exact (List.map_id x.registry.functions).symm
  · simp

theorem Refines.trans {commands more : List Element} (first : Refines m commands x x') (second : Refines m more x' x'') :
    Refines m (commands ++ more) x x'' := by
  have keys : Keyed.keys x'.registry.functions = Keyed.keys x.registry.functions := by
    rw [first.functions, Keyed.keys, List.map_map]
    rfl
  refine ⟨second.sound, ?_, fun group => ?_⟩
  · rw [second.functions, first.functions, List.map_map]
    simp only [Function.comp_def, List.flatMap_append, Retyping.described, List.filter_append, Function.retyped_append]
  · rw [second.asked, first.asked, keys]
    simp only [List.flatMap_append, List.mem_append, or_and_right, exists_or, and_or_left, or_assoc]

/-- A refinement that does nothing to functions, and asks for nothing. -/
theorem Refines.silent {command : Element} (sound : x'.Sound m) (registry : x'.registry = x.registry)
    (silent : ∀ function ∈ Keyed.keys x.registry.functions, Retyping.ofCommand function command = []) :
    Refines m [command] x x' := by
  refine ⟨sound, ?_, fun group => ?_⟩
  · rw [registry]
    conv => lhs; rw [← List.map_id x.registry.functions]
    apply List.map_congr_left
    intro entry member
    rw [List.flatMap_singleton, silent entry.1 (List.mem_map_of_mem member)]
    rfl
  · rw [registry]
    refine ⟨.inl, ?_⟩
    rintro (before | ⟨-, function, member, item, said, -⟩)
    · exact before
    · rw [List.flatMap_singleton, silent function member] at said
      cases said

/-- A command retypes the function of its name. -/
theorem Refines.command (filed : x.registry.Filed) (sound : x.Sound m) (command : Element) :
    Refines m [command] x (x.refineCommand command) := by
  unfold refineCommand
  cases described : prototype? command with
  | none =>
    refine .silent (sound.of_registry rfl rfl rfl) rfl fun function _ => ?_
    rw [Retyping.ofCommand, described]
  | some named =>
    obtain ⟨name, prototype⟩ := named
    dsimp only
    have items : ∀ function, Retyping.ofCommand function command = if name = function then
        Retyping.ofPrototype prototype ++ (command.childrenNamed "param").flatMap Retyping.ofParameter else [] := by
      intro function
      rw [Retyping.ofCommand, described]
    cases found : x.registry.placeOf? name with
    | none =>
      refine .silent sound rfl fun function member => ?_
      rw [items, if_neg]
      rintro rfl
      exact Registry.placeOf?_eq_none.mp found member
    | some place =>
      obtain ⟨f, stands⟩ := filed.placeOf?_eq_some.mp found
      have counted : Sound m { x with found := x.found + 1 } := sound.of_registry rfl rfl rfl
      have result := Follows.refineResult counted place prototype
      have follows := result.trans (Follows.parameters result.sound place (command.childrenNamed "param"))
      have own : Retyping.ofCommand name command =
          Retyping.ofPrototype prototype ++ (command.childrenNamed "param").flatMap Retyping.ofParameter := by
        rw [items, if_pos rfl]
      refine ⟨follows.sound, ?_, fun group => ?_⟩
      · rw [follows.functions, filed.modify_eq_map stands]
        apply List.map_congr_left
        intro entry _
        rw [List.flatMap_singleton]
        by_cases same : entry.1 = name
        · rw [if_pos same, same, own]
        · rw [if_neg same, items, if_neg (Ne.symm same)]
          rfl
      · rw [follows.asked]
        refine or_congr_right (and_congr_right fun _ => ⟨?_, ?_⟩)
        · rintro ⟨item, said, asked⟩
          refine ⟨name, List.mem_map_of_mem (List.mem_of_getElem? stands), item, ?_, asked⟩
          rw [List.flatMap_singleton, own]
          exact said
        · rintro ⟨function, -, item, said, asked⟩
          rw [List.flatMap_singleton, items] at said
          split at said
          · exact ⟨item, said, asked⟩
          · cases said

theorem Refines.run (filed : x.registry.Filed) (sound : x.Sound m) (commands : List Element) :
    Refines m commands x (commands.foldl refineCommand x) := by
  induction commands generalizing x with
  | nil => exact .nothing sound
  | cons command rest ih =>
    have first := Refines.command filed sound command
    exact first.trans (ih (keeps_refineCommand Registry.filed_kept filed command) first.sound)

theorem Sound.start {r : Registry} (unrefined : r.enums = []) (m : Membership) (log : Log) :
    Sound m (Refinement.start r m log) := by
  refine ⟨rfl, ?_, ?_⟩
  · intro entry member
    rw [Refinement.start, unrefined] at member
    cases member
  · intro group given_up
    cases given_up

theorem registry_ofRoot (r : Registry) (root : Element) : (ofRoot r root).registry =
    ((commandsOf root).foldl refineCommand (start r (Membership.ofRoot root) (membershipLog root))).registry := by
  unfold ofRoot summarized
  dsimp only
  split <;> rfl

/-- **What a description does to a registry.** Each function gets the classes that the described items of its commands
ask for, one after another, and the groups are the described ones that items for functions of the registry ask for. -/
theorem refines_ofRoot {r : Registry} (filed : r.Filed) (unrefined : r.enums = []) (root : Element) :
    (ofRoot r root).registry.functions = r.functions.map (fun entry =>
      (entry.1, entry.2.retyped (Retyping.described (Membership.ofRoot root) (Retyping.ofRoot root entry.1)))) ∧
    (∀ entry ∈ (ofRoot r root).registry.enums, entry.2.name = groupTypeName entry.1) ∧
    ∀ group, group ∈ Keyed.keys (ofRoot r root).registry.enums ↔
      Keyed.hasKey (Membership.ofRoot root) group = true ∧
        ∃ function ∈ Keyed.keys r.functions, ∃ item ∈ Retyping.ofRoot root function, item.group = group := by
  have refines := Refines.run filed (.start unrefined (Membership.ofRoot root) (membershipLog root)) (commandsOf root)
  rw [registry_ofRoot]
  refine ⟨refines.functions, fun entry member => (refines.sound.classes entry member).1, fun group => ?_⟩
  have none_before : Keyed.keys r.enums = [] := by rw [unrefined]; rfl
  refine (refines.asked group).trans ⟨?_, .inr⟩
  rintro (before | asked)
  · rw [start, none_before] at before
    cases before
  · exact asked

end Refinement

end CommandStream
