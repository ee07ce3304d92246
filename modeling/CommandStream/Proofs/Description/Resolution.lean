import CommandStream.Proofs.Description.Mentions
import CommandStream.Proofs.Description.Provenance

/-!
# What a description makes of a registry

A refined registry is the one of the header but for the types of its functions and its groups. An argument or a result
has the class of the last described group that a command of its function gives to it. The groups are the described ones
among those that commands of the functions refer to, in the order in which they are first referred to, and a group
has the members that the header defines, each under the key of its name unless an earlier one has that key.
-/

namespace CommandStream
open Description Markup

/-- The key of a symbol of the interface. -/
def Registry.keyOf (r : Registry) (symbol : String) : String :=
  Description.keyOf (dropFirst symbol r.defineStart.length)

/-- The group that items last give to the result. -/
def Retyping.lastResult? (items : List Retyping) : Option String :=
  (items.filterMap fun item =>
    match item with
    | result group => some group
    | argument .. => none).getLast?

/-- The groups that a command refers to, if it is one for a function of the registry. -/
def Refinement.references (r : Registry) (command : Element) : List String :=
  match prototype? command with
  | some (name, prototype) =>
    if name ∈ Keyed.keys r.functions then
      (Retyping.ofPrototype prototype ++ (command.childrenNamed "param").flatMap Retyping.ofParameter).map Retyping.group
    else []
  | none => []

/-! ## Results -/

namespace FunctionType

theorem typedefName_retyped (t : FunctionType) (items : List Retyping) :
    (items.foldl retyped t).typedefName = t.typedefName := by
  induction items generalizing t with
  | nil => rfl
  | cons item rest ih =>
    rw [List.foldl_cons, ih]
    cases item with
    | result group => rfl
    | argument name group =>
      unfold retyped
      dsimp only
      split <;> rfl

/-- Behind items, the result is of the group that was last given to it. -/
theorem result_retyped (t : FunctionType) (items : List Retyping) :
    ((items.foldl retyped t).returnType, (items.foldl retyped t).returnsEnum) =
      match Retyping.lastResult? items with
      | some group => (groupTypeName group, true)
      | none => (t.returnType, t.returnsEnum) := by
  -- from the last item backwards, since a later group replaces an earlier one
  induction items using List.reverseRecOn with
  | nil => rfl
  | append_singleton items item ih =>
    rw [List.foldl_append, List.foldl_cons, List.foldl_nil]
    cases item with
    | result group =>
      have last : Retyping.lastResult? (items ++ [.result group]) = some group := by simp [Retyping.lastResult?]
      rw [last]
      rfl
    | argument name group =>
      have last : Retyping.lastResult? (items ++ [.argument name group]) = Retyping.lastResult? items := by
        simp [Retyping.lastResult?]
      rw [last, ← ih]
      unfold retyped
      dsimp only
      split <;> rfl

end FunctionType

/-! ## The class of a group -/

namespace EnumGroup

theorem keys_add (group : EnumGroup) (key symbol : String) : Keyed.keys (group.add key symbol).values =
    if key ∈ Keyed.keys group.values then Keyed.keys group.values else Keyed.keys group.values ++ [key] := by
  unfold add
  split
  · rename_i taken
    rw [if_pos ((Keyed.hasKey_iff _ _).mp taken)]
  · rename_i free
    rw [if_neg fun member => free ((Keyed.hasKey_iff _ _).mpr member), Keyed.keys, List.map_append]
    rfl

theorem find?_add (group : EnumGroup) (own symbol key : String) : Keyed.find? (group.add own symbol).values key =
    (Keyed.find? group.values key).or (if own = key then some symbol else none) := by
  unfold add
  split
  · rename_i taken
    -- a symbol whose key is taken is not found, whether or not the key is asked for
    by_cases asked : own = key
    · rw [asked, ← Keyed.isSome_find?] at taken
      obtain ⟨first, found⟩ := Option.isSome_iff_exists.mp taken
      rw [found, Option.some_or]
    · rw [if_neg asked, Option.or_none]
  · rename_i free
    have fresh : own ∉ Keyed.keys group.values := fun member => free ((Keyed.hasKey_iff _ _).mpr member)
    rw [find?_snoc fresh]
    by_cases asked : own = key
    · rw [if_pos asked.symm, if_pos asked, ← asked, find?_eq_none_iff.mpr fresh, Option.none_or]
    · rw [if_neg fun same => asked same.symm, if_neg asked, Option.or_none]

end EnumGroup

namespace Refinement

variable {m : Membership} {r : Registry} {asked : List String} {x x' : Refinement}

theorem groupOf_snoc (r : Registry) (group : String) (symbols : List String) (symbol : String) :
    groupOf r group (symbols ++ [symbol]) =
      if symbol ∈ r.defines then (groupOf r group symbols).add (r.keyOf symbol) symbol else groupOf r group symbols := by
  unfold groupOf
  by_cases defined : symbol ∈ r.defines
  · rw [if_pos defined]
    simp [List.filter_append, defined, Registry.keyOf]
  · rw [if_neg defined]
    simp [List.filter_append, defined]

/-- The keys of a class are those of the defined symbols, in their order and without repeats. -/
theorem keys_groupOf (r : Registry) (group : String) (symbols : List String) :
    Keyed.keys (groupOf r group symbols).values =
      ((symbols.filter fun symbol => symbol ∈ r.defines).map r.keyOf).eraseDups := by
  induction symbols using List.reverseRecOn with
  | nil => rfl
  | append_singleton symbols symbol ih =>
    rw [groupOf_snoc, List.filter_append]
    by_cases defined : symbol ∈ r.defines
    · have kept : [symbol].filter (fun symbol => symbol ∈ r.defines) = [symbol] := by simp [defined]
      simp only [if_pos defined, kept, List.map_append, List.map_cons, List.map_nil, EnumGroup.keys_add, ih, eraseDups_snoc,
        List.mem_eraseDups]
    · have dropped : [symbol].filter (fun symbol => symbol ∈ r.defines) = [] := by simp [defined]
      rw [if_neg defined, dropped, List.append_nil, ih]

/-- Under a key stands the first defined symbol that has it. -/
theorem find?_groupOf (r : Registry) (group : String) (symbols : List String) (key : String) :
    Keyed.find? (groupOf r group symbols).values key =
      (symbols.filter fun symbol => symbol ∈ r.defines).find? fun symbol => r.keyOf symbol = key := by
  induction symbols using List.reverseRecOn with
  | nil => rfl
  | append_singleton symbols symbol ih =>
    rw [groupOf_snoc, List.filter_append, List.find?_append, ← ih]
    by_cases defined : symbol ∈ r.defines
    · have kept : [symbol].filter (fun symbol => symbol ∈ r.defines) = [symbol] := by simp [defined]
      simp only [if_pos defined, kept, EnumGroup.find?_add, List.find?_singleton, decide_eq_true_eq]
    · have dropped : [symbol].filter (fun symbol => symbol ∈ r.defines) = [] := by simp [defined]
      rw [if_neg defined, dropped, List.find?_nil, Option.or_none]

/-! ## Groups in the order of reference -/

/-- A refinement behind references to groups: the described ones among them are resolved, each once. -/
structure Resolved (m : Membership) (r : Registry) (asked : List String) (x : Refinement) : Prop where
  sound : x.Sound m
  defines : x.registry.defines = r.defines
  start : x.registry.start = r.start
  functions : Keyed.keys x.registry.functions = Keyed.keys r.functions
  enums : x.registry.enums =
    (asked.filter fun group => Keyed.hasKey m group).eraseDups.map fun group => (group, groupOf r group (m.members group))

namespace Resolved

theorem keys_enums (resolved : x.Resolved m r asked) :
    Keyed.keys x.registry.enums = (asked.filter fun group => Keyed.hasKey m group).eraseDups := by
  rw [resolved.enums, Keyed.keys, List.map_map]
  exact List.map_id _

/-- A group that is referred to is resolved if it is described and was not referred to before. -/
theorem resolve (resolved : x.Resolved m r asked) (group : String) : (x.resolve group).2.Resolved m r (asked ++ [group]) := by
  cases described : Keyed.hasKey m group with
  | false =>
    obtain ⟨next, undescribed, same, sound⟩ := resolved.sound.resolve_undescribed described
    have dropped : [group].filter (fun group => Keyed.hasKey m group) = [] := by simp [described]
    rw [undescribed]
    refine ⟨sound, ?_, ?_, ?_, ?_⟩ <;> dsimp only <;> rw [same]
    · exact resolved.defines
    · exact resolved.start
    · exact resolved.functions
    · rw [List.filter_append, dropped, List.append_nil]
      exact resolved.enums
  | true =>
    have kept : [group].filter (fun group => Keyed.hasKey m group) = [group] := by simp [described]
    have grown : (asked ++ [group]).filter (fun group => Keyed.hasKey m group) =
        (asked.filter fun group => Keyed.hasKey m group) ++ [group] := by rw [List.filter_append, kept]
    obtain ⟨_, next, resolves, -, -, -, sound⟩ := resolved.sound.resolve_described described
    have sound : (x.resolve group).2.Sound m := by rwa [resolves]
    unfold Refinement.resolve at sound ⊢
    cases present : Keyed.find? x.registry.enums group with
    | some found =>
      have before : group ∈ asked.filter fun group => Keyed.hasKey m group := by
        rw [← List.mem_eraseDups, ← resolved.keys_enums]
        exact isSome_find?_iff.mp (Option.isSome_of_eq_some present)
      refine ⟨resolved.sound, resolved.defines, resolved.start, resolved.functions, ?_⟩
      rw [grown, eraseDups_snoc, if_pos before]
      exact resolved.enums
    | none =>
      have fresh : group ∉ asked.filter fun group => Keyed.hasKey m group := by
        rw [← List.mem_eraseDups, ← resolved.keys_enums]
        exact find?_eq_none_iff.mp present
      obtain ⟨symbols, known⟩ := Option.isSome_iff_exists.mp ((Keyed.isSome_find? m group).trans described)
      have members : m.members group = symbols := by
        rw [Membership.members, known]
        rfl
      have own : groupOf x.registry group symbols = groupOf r group symbols := by
        simp only [groupOf, Registry.defineStart, resolved.defines, resolved.start]
      rw [present] at sound
      dsimp only at sound ⊢
      rw [resolved.sound.not_given_up described, resolved.sound.membership, known] at sound ⊢
      refine ⟨sound, resolved.defines, resolved.start, resolved.functions, ?_⟩
      rw [grown, eraseDups_snoc, if_neg fresh, List.map_append, ← resolved.enums, List.map_cons, List.map_nil, members]
      exact congrArg (fun class_ => x.registry.enums ++ [(group, class_)]) own

/-- What is reported and counted is of no account. -/
theorem of_registry (resolved : x.Resolved m r asked) (membership : x'.membership = x.membership)
    (unresolved : x'.unresolved = x.unresolved) (registry : x'.registry = x.registry) : x'.Resolved m r asked := by
  have sound : x'.Sound m := resolved.sound.of_registry membership (congrArg Registry.enums registry) unresolved
  refine ⟨sound, ?_, ?_, ?_, ?_⟩ <;> rw [registry]
  · exact resolved.defines
  · exact resolved.start
  · exact resolved.functions
  · exact resolved.enums

/-- A change of a function leaves the groups as they are. -/
theorem modified (resolved : x.Resolved m r asked) (place : Nat) (change : Function → Function) :
    Resolved m r asked { x with registry := x.registry.modifyAt place change } :=
  ⟨resolved.sound.of_registry rfl rfl rfl, resolved.defines, resolved.start,
    (x.registry.keys_modifyAt place change).trans resolved.functions, resolved.enums⟩

theorem refineResult (resolved : x.Resolved m r asked) (place : Nat) (prototype : Element) :
    (x.refineResult place prototype).Resolved m r (asked ++ (Retyping.ofPrototype prototype).map Retyping.group) := by
  unfold Refinement.refineResult Retyping.ofPrototype
  cases enumGroup? prototype with
  | none => rwa [List.map_nil, List.append_nil]
  | some name =>
    have next := resolved.resolve name
    dsimp only
    split
    · rename_i equal
      rw [equal] at next
      exact next
    · rename_i group behind equal
      rw [equal] at next
      exact next.modified place _

theorem refineParameter (resolved : x.Resolved m r asked) (place : Nat) (parameter : Element) :
    (x.refineParameter place parameter).Resolved m r (asked ++ (Retyping.ofParameter parameter).map Retyping.group) := by
  unfold Refinement.refineParameter Retyping.ofParameter
  cases enumGroup? parameter with
  | none => rwa [List.map_nil, List.append_nil]
  | some name =>
    cases parameter.child? "name" with
    | none => rwa [List.map_nil, List.append_nil]
    | some nameElement =>
      have next := resolved.resolve name
      dsimp only
      split
      · rename_i equal
        rw [equal] at next
        exact next
      · rename_i group behind equal
        rw [equal] at next
        split
        · exact next
        split
        · exact next
        · have reported : ∀ severity message, (behind.report severity message).Resolved m r _ :=
            fun _ _ => next.of_registry rfl rfl rfl
          exact (reported _ _).modified place _

theorem parameters (resolved : x.Resolved m r asked) (place : Nat) (parameters : List Element) :
    (parameters.foldl (fun x parameter => x.refineParameter place parameter) x).Resolved m r
      (asked ++ (parameters.flatMap Retyping.ofParameter).map Retyping.group) := by
  induction parameters generalizing x asked with
  | nil => rwa [List.flatMap_nil, List.map_nil, List.append_nil]
  | cons parameter rest ih =>
    have next := ih (resolved.refineParameter place parameter)
    rwa [List.append_assoc, ← List.map_append, ← List.flatMap_cons] at next

theorem command (resolved : x.Resolved m r asked) (command : Element) :
    (x.refineCommand command).Resolved m r (asked ++ references r command) := by
  unfold refineCommand references
  cases described : prototype? command with
  | none =>
    rw [List.append_nil]
    exact resolved.of_registry rfl rfl rfl
  | some named =>
    obtain ⟨name, prototype⟩ := named
    dsimp only
    cases found : x.registry.placeOf? name with
    | none =>
      have foreign : name ∉ Keyed.keys r.functions := resolved.functions ▸ Registry.placeOf?_eq_none.mp found
      rw [if_neg foreign, List.append_nil]
      exact resolved
    | some place =>
      have own : name ∈ Keyed.keys r.functions := by
        rw [← resolved.functions]
        by_contra absent
        rw [Registry.placeOf?_eq_none.mpr absent] at found
        cases found
      have counted : Resolved m r asked { x with found := x.found + 1 } := resolved.of_registry rfl rfl rfl
      have last := (counted.refineResult place prototype).parameters place (command.childrenNamed "param")
      rwa [if_pos own, List.map_append, ← List.append_assoc]

theorem run (resolved : x.Resolved m r asked) (commands : List Element) :
    (commands.foldl refineCommand x).Resolved m r (asked ++ commands.flatMap (references r)) := by
  induction commands generalizing x asked with
  | nil => rwa [List.flatMap_nil, List.append_nil]
  | cons command rest ih =>
    have next := ih (resolved.command command)
    rwa [List.append_assoc, ← List.flatMap_cons] at next

/-- The groups of a refined registry are those that its commands refer to. -/
theorem ofRoot (unrefined : r.enums = []) (root : Element) : (Refinement.ofRoot r root).registry.enums =
    ((((commandsOf root).flatMap (references r)).filter fun group => Keyed.hasKey (Membership.ofRoot root) group).eraseDups).map
      fun group => (group, groupOf r group ((Membership.ofRoot root).members group)) := by
  have first : Resolved (Membership.ofRoot root) r []
      (Refinement.start r (Membership.ofRoot root) (membershipLog root)) :=
    ⟨.start unrefined _ _, rfl, rfl, rfl, unrefined⟩
  rw [registry_ofRoot]
  exact (first.run (commandsOf root)).enums

end Resolved

/-! ## A whole description -/

theorem described_ofRoot (root : Element) (items : List Retyping) : Retyping.described (Membership.ofRoot root) items =
    items.filter fun item => item.group ∈ Mention.groups (Mention.ofRoot root) := by
  refine List.filter_congr fun item _ => ?_
  rw [Bool.eq_iff_iff, decide_eq_true_eq]
  exact (Membership.holds_ofRoot root).hasKey item.group

/-- A description changes nothing of a registry but its functions and its groups. -/
theorem rest_ofRoot (r : Registry) (root : Element) : (Refinement.ofRoot r root).registry =
    { r with functions := (Refinement.ofRoot r root).registry.functions, enums := (Refinement.ofRoot r root).registry.enums } := by
  have kept : Registry.KeptByTyping fun s => s = { r with functions := s.functions, enums := s.enums } :=
    ⟨fun _ enums same => congrArg (fun s : Registry => { s with enums }) same,
      fun _ place change same =>
        congrArg (fun s : Registry => s.modifyAt place fun f => { f with type := change f.type }) same⟩
  exact keeps_ofRoot kept rfl root

/-- **What a description makes of a header.** Nothing but the types of functions and the groups is changed. A function
keeps its place and its names; its result, and each argument that is the first of its name, has the class of the last
described group that a command of the function gives to it, and what is given none is as before. The groups are the
described ones that commands of functions refer to, in the order of first reference, each once; the class of a group
has its members in the order of their mentions, as far as the header defines them, each under its key unless an
earlier one has that key. -/
theorem description_exact (start : String) (lines : List String) (root : Element) :
    let r := (Header.Extraction.ofLines (.empty start) lines).state.registry
    let r' := (Refinement.ofRoot r root).registry
    let described := Mention.groups (Mention.ofRoot root)
    let items := fun function => (Retyping.ofRoot root function).filter fun item => item.group ∈ described
    r' = { r with functions := r'.functions, enums := r'.enums } ∧
    Keyed.keys r'.functions = Keyed.keys r.functions ∧
    (∀ place f, r.functionAt? place = some f → ∃ type, r'.functionAt? place = some { f with type } ∧
      type.typedefName = f.type.typedefName ∧
      (type.returnType, type.returnsEnum) = (match Retyping.lastResult? (items f.name) with
        | some group => (groupTypeName group, true)
        | none => (f.type.returnType, f.type.returnsEnum)) ∧
      type.arguments.length = f.type.arguments.length ∧
      ∀ i a, f.type.arguments[i]? = some a → type.arguments[i]? =
        some (match if f.type.findArgument? a.name = some i then Retyping.lastGroup? (items f.name) a.name else none with
          | some group => { a with type := groupTypeName group, isEnum := true }
          | none => a)) ∧
    Keyed.keys r'.enums = (((commandsOf root).flatMap (references r)).filter fun group => group ∈ described).eraseDups ∧
    (Keyed.keys r'.enums).Nodup ∧
    ∀ group class_, (group, class_) ∈ r'.enums →
      let symbols := (Mention.members (Mention.ofRoot root) group).filter fun symbol => symbol ∈ r.defines
      class_.name = groupTypeName group ∧ Keyed.keys class_.values = (symbols.map r.keyOf).eraseDups ∧
      (Keyed.keys class_.values).Nodup ∧
      ∀ key, Keyed.find? class_.values key = symbols.find? fun symbol => r.keyOf symbol = key := by
  intro r r' described items
  have filed : r.Filed := Header.Extraction.filed_ofLines (Registry.filed_empty start) lines
  have unrefined : r.enums = [] := Header.Extraction.enums_ofLines (.empty start) lines
  obtain ⟨functions, -, -⟩ := refines_ofRoot filed unrefined root
  simp only [described_ofRoot] at functions
  have holds := Membership.holds_ofRoot root
  have enums : r'.enums = ((((commandsOf root).flatMap (references r)).filter fun group => group ∈ described).eraseDups).map
      fun group => (group, groupOf r group (Mention.members (Mention.ofRoot root) group)) := by
    have same : ∀ group, Keyed.hasKey (Membership.ofRoot root) group = decide (group ∈ described) := by
      intro group
      rw [Bool.eq_iff_iff, decide_eq_true_eq]
      exact holds.hasKey group
    simp only [r', Resolved.ofRoot unrefined root, same, holds.members]
  have keys : Keyed.keys r'.enums =
      (((commandsOf root).flatMap (references r)).filter fun group => group ∈ described).eraseDups := by
    rw [enums, Keyed.keys, List.map_map]
    exact List.map_id _
  refine ⟨rest_ofRoot r root, ?_, ?_, keys, keys ▸ nodup_eraseDups _, ?_⟩
  · simp only [r', functions, Keyed.keys, List.map_map, Function.comp_def]
  · intro place f stands
    obtain ⟨⟨key, g⟩, at_, rfl⟩ := Option.map_eq_some_iff.mp stands
    refine ⟨(items g.name).foldl FunctionType.retyped g.type, ?_, FunctionType.typedefName_retyped _ _,
      FunctionType.result_retyped _ _, ?_, ?_⟩
    · rw [Registry.functionAt?, functions, List.getElem?_map, at_, ← filed.name_eq at_]
      rfl
    · have names := congrArg List.length (FunctionType.names_foldl_retyped g.type (items g.name))
      rwa [List.length_map, List.length_map] at names
    · exact fun i a argument => FunctionType.argument_retyped argument
  · intro group class_ member symbols
    rw [enums] at member
    obtain ⟨_, -, same⟩ := List.mem_map.mp member
    cases same
    refine ⟨name_groupOf _ _ _, keys_groupOf _ _ _, ?_, find?_groupOf _ _ _⟩
    rw [keys_groupOf]
    exact nodup_eraseDups _

end Refinement

end CommandStream
