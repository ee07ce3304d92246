import CommandStream.Proofs.Description.Marshalling

/-!
# Where the types of a registry come from

Functions are given other types in passes, and what holds of the types that each pass brings in is carried from one to the
next. A type of a function in a registry that is read is the one that the header declares for it, or the class of a group that
the description gives to it. That class is among those of the registry.
-/

namespace CommandStream
open Description Markup

/-! ## Passes -/

/-- A function with the types of another one, for its result and for the arguments in the same places under the same names, but
for types of which something holds. -/
structure Function.TypesFrom (new : String → Prop) (f f' : Function) : Prop where
  result : f'.type.returnType = f.type.returnType ∨ new f'.type.returnType
  argument : ∀ (i : Nat) (a' : Argument), f'.type.arguments[i]? = some a' →
    (∃ a, f.type.arguments[i]? = some a ∧ a'.name = a.name ∧ a'.type = a.type) ∨ new a'.type

namespace Function.TypesFrom

variable {new newer : String → Prop} {f g h : Function}

theorem refl (new : String → Prop) (f : Function) : f.TypesFrom new f :=
  ⟨.inl rfl, fun _ a stands => .inl ⟨a, stands, rfl, rfl⟩⟩

theorem imp (types : f.TypesFrom new g) (all : ∀ type, new type → newer type) : f.TypesFrom newer g :=
  ⟨types.result.imp_right (all _), fun i a stands => (types.argument i a stands).imp_right (all _)⟩

/-- One pass behind another. -/
theorem trans (first : f.TypesFrom new g) (last : g.TypesFrom new h) : f.TypesFrom new h := by
  constructor
  · rcases last.result with same | here
    · rw [same]
      exact first.result
    · exact .inr here
  · intro i a'' stands
    rcases last.argument i a'' stands with ⟨a', between, name, type⟩ | here
    · rw [name, type]
      exact first.argument i a' between
    · exact .inr here

end Function.TypesFrom

/-! ## Items -/

theorem Retyping.mem_of_lastGroup? {items : List Retyping} {name group : String} (last : lastGroup? items name = some group) :
    ∃ item ∈ items, item.group = group := by
  obtain ⟨item, member, said⟩ := List.mem_filterMap.mp (List.mem_of_getLast? last)
  refine ⟨item, member, ?_⟩
  cases item with
  | result _ => cases said
  | argument other group =>
    dsimp only at said
    split at said
    · cases said
      rfl
    · cases said

namespace FunctionType

theorem names_foldl_retyped (t : FunctionType) (items : List Retyping) :
    (items.foldl retyped t).arguments.map Argument.name = t.arguments.map Argument.name := by
  induction items generalizing t with
  | nil => rfl
  | cons item rest ih => rw [List.foldl_cons, ih, names_retyped]

/-- Behind items, an argument has its own type or the class of the group of one of them. -/
theorem argument_of_items {t : FunctionType} {items : List Retyping} {i : Nat} {a' : Argument}
    (stands : (items.foldl retyped t).arguments[i]? = some a') : ∃ a, t.arguments[i]? = some a ∧ a'.name = a.name ∧
      (a'.type = a.type ∨ ∃ item ∈ items, groupTypeName item.group = a'.type) := by
  have named : (t.arguments.map Argument.name)[i]? = some a'.name := by
    rw [← names_foldl_retyped t items, List.getElem?_map, stands]
    rfl
  rw [List.getElem?_map] at named
  obtain ⟨a, before, same⟩ := Option.map_eq_some_iff.mp named
  refine ⟨a, before, same.symm, ?_⟩
  have now : (items.foldl retyped t).arguments[i]? = some (a.inGroup (t.groupFor? items i a)) := argument_retyped before
  rw [stands] at now
  obtain rfl := Option.some.inj now
  cases given : t.groupFor? items i a with
  | none => exact .inl rfl
  | some group =>
    unfold groupFor? at given
    split at given
    · obtain ⟨item, member, rfl⟩ := Retyping.mem_of_lastGroup? given
      exact .inr ⟨item, member, rfl⟩
    · cases given

/-- Behind items, a result has its own type or the class of the group of one of them. -/
theorem result_of_items (t : FunctionType) (items : List Retyping) : (items.foldl retyped t).returnType = t.returnType ∨
    ∃ item ∈ items, groupTypeName item.group = (items.foldl retyped t).returnType := by
  induction items generalizing t with
  | nil => exact .inl rfl
  | cons item rest ih =>
    rw [List.foldl_cons]
    rcases ih (t.retyped item) with same | ⟨other, member, class_⟩
    · rw [same]
      cases item with
      | result group => exact .inr ⟨.result group, List.mem_cons_self, rfl⟩
      | argument name group =>
        left
        unfold retyped
        dsimp only
        split <;> rfl
    · exact .inr ⟨other, List.mem_cons_of_mem _ member, class_⟩

end FunctionType

/-! ## Registries -/

variable {log : Log} {start : String} {lines : List String}
  {description : Option (Except Markup.DocumentError Markup.Element)} {r : Registry}

/-- The functions of a registry that is read are those of its header, in their places and under their names, with types of
the header or classes of the registry. -/
theorem Build.typesFrom_readRegistry (read : (readRegistry log start lines description).answer = .ok r) {k : Nat} {key : String}
    {f' : Function} (stands : r.functions[k]? = some (key, f')) :
    ∃ f, (Header.Extraction.ofLines (.empty start) lines).state.registry.functions[k]? = some (key, f) ∧
      f.TypesFrom (· ∈ r.enumTypes) f' := by
  have filed := Header.Extraction.filed_ofLines (Registry.filed_empty start) lines
  have unrefined : _ = [] := Header.Extraction.enums_ofLines (.empty start) lines
  rcases readRegistry_ok read with rfl | ⟨root, -, rfl⟩
  · exact ⟨f', stands, Function.TypesFrom.refl _ f'⟩
  · have classes := Refinement.mem_enumTypes_ofRoot_iff filed unrefined root
    obtain ⟨functions, -⟩ := Refinement.refines_ofRoot filed unrefined root
    generalize (Header.Extraction.ofLines (.empty start) lines).state.registry = header at *
    have stands : (Refinement.ofRoot header root).registry.functions[k]? = some (key, f') := stands
    rw [functions, List.getElem?_map] at stands
    obtain ⟨⟨key', f⟩, before, same⟩ := Option.map_eq_some_iff.mp stands
    cases same
    have known : ∀ item ∈ Retyping.described (Membership.ofRoot root) (Retyping.ofRoot root key'),
        groupTypeName item.group ∈ (Refinement.ofRoot header root).registry.freeze.enumTypes :=
      fun item member => (classes _).mpr ⟨key', List.mem_map_of_mem (List.mem_of_getElem? before), item, member, rfl⟩
    refine ⟨f, before, ?_, ?_⟩
    · refine (FunctionType.result_of_items f.type _).imp_right ?_
      rintro ⟨item, member, class_⟩
      exact class_ ▸ known item member
    · intro i a' argument
      obtain ⟨a, at_, name, same | ⟨item, member, class_⟩⟩ := FunctionType.argument_of_items argument
      · exact .inl ⟨a, at_, name, same⟩
      · exact .inr (class_ ▸ known item member)

end CommandStream
