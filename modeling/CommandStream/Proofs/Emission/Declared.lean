import CommandStream.Proofs.Description.Provenance
import CommandStream.Proofs.Emission.NativeCalls
import CommandStream.Proofs.Emission.Printed
import Mathlib.Data.List.Count

/-!
# The declarations of types

The types of the functions of an emitter come from the header, from the classes of the description and from the built-in
overrides. Each that is not of the header is declared once: a class among the enum classes, a handle type among the resource
kinds, where its kind has its table. Only one text of a shader has types of the interface instead.
-/

namespace CommandStream
open OverrideModule

/-! ## Types of the built-in overrides -/

/-- The types of one text of a shader and of its length. -/
def textTypes : List String :=
  ["const GLchar *", "GLint"]

/-- The types that a change gives to arguments and results. -/
def Change.types : Change → List String
  | .generated _ handle _ => [handle]
  | .returning handle => [handle]
  | .deleting _ handle _ => [handle]
  | .singleText => "ShaderHandle" :: textTypes
  | .bound handle => [handle]

/-- The types that the built-in overrides give to the arguments and the result of a function. -/
def overrideTypes (name : String) : List String :=
  Keyed.values handleTypes ++ if name = "glShaderSource" then textTypes else []

theorem types_of_changes : ∀ entry ∈ changes, ∀ type ∈ entry.2.types, type ∈ overrideTypes entry.1 := by
  decide

theorem type_asHandle (a : Argument) : a.asHandle.type = a.type ∨ a.asHandle.type ∈ Keyed.values handleTypes := by
  unfold Argument.asHandle
  split
  · rename_i handle found
    split
    · exact .inr (List.mem_map_of_mem (mem_of_lookup found))
    · exact .inl rfl
  · exact .inl rfl

namespace Function

variable {f g : Function} {new : String → Prop}

/-- Arguments as handles have their own types or handle types. -/
theorem argument_asHandle (handles : ∀ type ∈ Keyed.values handleTypes, new type) {arguments : List Argument} {i : Nat}
    {a' : Argument} (stands : (arguments.map Argument.asHandle)[i]? = some a') :
    (∃ a, arguments[i]? = some a ∧ a'.name = a.name ∧ a'.type = a.type) ∨ new a'.type := by
  rw [List.getElem?_map] at stands
  obtain ⟨a, before, rfl⟩ := Option.map_eq_some_iff.mp stands
  rcases type_asHandle a with same | handle
  · exact .inl ⟨a, before, name_asHandle a, same⟩
  · exact .inr (handles _ handle)

/-- A change leaves types, makes handle types, or gives its own. -/
theorem typesFrom_changed (handles : ∀ type ∈ Keyed.values handleTypes, new type) (f : Function) (start : String) {change : Change}
    (given : ∀ type ∈ change.types, new type) : f.TypesFrom new (f.changed start change) := by
  cases change with
  | generated name handle kept =>
    refine ⟨.inr (given handle (List.mem_singleton.mpr rfl)), fun i a' stands => ?_⟩
    have stands : ((f.type.arguments.take kept).map Argument.asHandle)[i]? = some a' := stands
    refine (argument_asHandle handles stands).imp_left ?_
    rintro ⟨a, before, same⟩
    rw [List.getElem?_take] at before
    split at before
    · exact ⟨a, before, same⟩
    · cases before
  | returning handle =>
    exact ⟨.inr (given handle (List.mem_singleton.mpr rfl)), fun i a' stands => argument_asHandle handles stands⟩
  | deleting name handle argument =>
    refine ⟨.inl (by cases name <;> rfl), fun i a' stands => .inr ?_⟩
    have stands : ([⟨handle, argument, false⟩] : List Argument)[i]? = some a' := by cases name <;> exact stands
    rw [List.mem_singleton.mp (List.mem_of_getElem? stands)]
    exact given handle (List.mem_singleton.mpr rfl)
  | singleText =>
    simp only [changed]
    split
    · refine ⟨.inl rfl, fun i a' stands => .inr (given _ ?_)⟩
      have member := List.mem_of_getElem? stands
      simp only [withArguments, FunctionType.withArguments, List.mem_cons, List.not_mem_nil, or_false] at member
      rcases member with rfl | rfl | rfl <;> simp [Change.types, textTypes]
    · exact .refl new f
  | bound handle =>
    simp only [changed]
    split
    · exact .refl new f
    · rename_i a rest arguments
      refine ⟨.inl rfl, fun i a' stands => ?_⟩
      rw [arguments]
      cases i with
      | zero =>
        cases stands
        exact .inr (given handle (List.mem_singleton.mpr rfl))
      | succ i => exact argument_asHandle handles stands

/-- The types of a function after the built-in overrides, as the table says. -/
theorem typesFrom_overridden (f : Function) (start : String) :
    f.TypesFrom (· ∈ overrideTypes f.name) (f.overridden start) := by
  have handles : ∀ type ∈ Keyed.values handleTypes, type ∈ overrideTypes f.name := fun _ member => List.mem_append_left _ member
  unfold overridden
  split
  · rename_i change found
    exact f.typesFrom_changed handles start (types_of_changes _ (mem_of_lookup found))
  · exact ⟨.inl rfl, fun i a' stands => argument_asHandle handles stands⟩

/-- Marks of arguments do not matter for types. -/
theorem TypesFrom.of_unmarked {h : Function} (types : f.TypesFrom new h) (same : g.unmarked = h.unmarked) : f.TypesFrom new g := by
  constructor
  · have results : g.unmarked.type.returnType = h.unmarked.type.returnType := congrArg (fun k : Function => k.type.returnType) same
    exact results ▸ types.result
  · intro i a stands
    have at_ : (h.type.arguments.map fun b : Argument => { b with isEnum := false })[i]? = some { a with isEnum := false } := by
      have arguments : g.unmarked.type.arguments = h.unmarked.type.arguments := congrArg (fun k : Function => k.type.arguments) same
      refine (congrArg (·[i]?) arguments).symm.trans ?_
      show (g.type.arguments.map _)[i]? = _
      rw [List.getElem?_map, stands]
      rfl
    rw [List.getElem?_map] at at_
    obtain ⟨b, stands, equal⟩ := Option.map_eq_some_iff.mp at_
    obtain ⟨type, name, -⟩ := Argument.mk.inj equal
    have from_ := types.argument i b stands
    rwa [name, type] at from_

theorem FollowsTable.typesFrom {start : String} (follows : f.FollowsTable start (some g)) :
    f.TypesFrom (· ∈ overrideTypes f.name) g := by
  cases follows with
  | exactly other => exact f.typesFrom_overridden start
  | text named four same => exact (f.typesFrom_overridden start).of_unmarked same

/-- The function for shader text keeps its name. -/
theorem FollowsTable.name_of_text {start : String} (follows : f.FollowsTable start (some g)) (named : f.name = "glShaderSource") :
    g.name = "glShaderSource" := by
  cases follows with
  | exactly other => exact absurd named other
  | text _ four same =>
    have text : Keyed.find? changes f.name = some .singleText := by
      rw [named]
      rfl
    have names : g.unmarked.name = (f.overridden start).unmarked.name := congrArg Function.name same
    refine names.trans ?_
    show (f.overridden start).name = _
    rw [overridden, text]
    simp only [changed]
    split <;> exact named

end Function

/-! ## Emitted declarations -/

/-- The line that begins the enum class of a name. -/
def classLine (name : String) : String :=
  "    enum class " ++ name ++ " : GLenum"

/-- The line that declares the handle type of a kind. -/
def typedefLine (kind : ResourceKind) : String :=
  "    typedef resource_handle<" ++ kind.tag ++ "> " ++ kind.handleType ++ ";"

/-- The line that declares the table of a kind, a member of the resources. -/
def memberLine (kind : ResourceKind) : String :=
  "        slot_map<" ++ kind.nativeType ++ ", " ++ kind.tag ++ "> " ++ kind.tableName ++ ";"

/-- Lines that begin with a text. -/
def linesWith (start : String) (lines : List String) : List String :=
  lines.filter fun line => beginsWith line start

theorem linesWith_append (start : String) (lines others : List String) :
    linesWith start (lines ++ others) = linesWith start lines ++ linesWith start others :=
  List.filter_append lines others

theorem linesWith_none {start : String} {lines : List String} (each : ∀ line ∈ lines, beginsWith line start = false) :
    linesWith start lines = [] :=
  List.filter_eq_nil_iff.mpr fun line member begins => by
    rw [each line member] at begins
    cases begins

/-- What is indented begins no line that is not. -/
theorem linesWith_unindented {start : String} (indented : beginsWith start "    " = true) {lines : List String}
    (each : ∀ line ∈ lines, beginsWith line "    " = false) : linesWith start lines = [] := by
  refine linesWith_none fun line member => ?_
  rw [Bool.eq_false_iff]
  intro begins
  have whole := (List.isPrefixOf_iff_prefix.mp indented).trans (List.isPrefixOf_iff_prefix.mp begins)
  have far : beginsWith line "    " = true := List.isPrefixOf_iff_prefix.mpr whole
  rw [each line member] at far
  cases far

/-- Blocks of lines for items, of which each has one line that begins with a text. -/
theorem linesWith_flatMap {α : Type} {start : String} {block : α → List String} {line : α → String}
    (each : ∀ item, linesWith start (block item) = [line item]) (items : List α) :
    linesWith start (items.flatMap block) = items.map line := by
  rw [linesWith, List.filter_flatMap, List.map_eq_flatMap]
  exact congrArg (fun block => items.flatMap block) (funext each)

/-- A line is counted among those that begin as it does. -/
theorem count_linesWith {start line : String} (begins : beginsWith line start = true) (lines : List String) :
    (linesWith start lines).count line = lines.count line :=
  List.count_filter begins

theorem tells_classLine (name : String) : Tells (classLine name) "    enum" true := by
  have tells : Tells "    enum class " "    enum" true := ⟨by decide, by decide⟩
  exact (tells.append name).append " : GLenum"

theorem tells_typedefLine (kind : ResourceKind) : Tells (typedefLine kind) "    type" true := by
  have tells : Tells "    typedef resource_handle<" "    type" true := ⟨by decide, by decide⟩
  exact (((tells.append kind.tag).append "> ").append kind.handleType).append ";"

theorem classLine_injective : Function.Injective classLine :=
  fun _ _ same => (String.append_right_inj _).mp ((String.append_left_inj _).mp same)

namespace Emitter

variable {e : Emitter}

/-- Groups without repeated names have each name once, but for those seen before. -/
theorem count_distinctGroups (seen : List String) (groups : List EnumGroup) (name : String) :
    ((distinctGroups seen groups).map EnumGroup.name).count name =
      if name ∈ groups.map EnumGroup.name ∧ name ∉ seen then 1 else 0 := by
  induction groups generalizing seen with
  | nil => rfl
  | cons group rest ih =>
    rw [distinctGroups, List.map_cons]
    by_cases before : group.name ∈ seen
    · rw [if_pos (List.contains_iff_mem.mpr before), ih]
      refine if_congr ⟨fun ⟨member, fresh⟩ => ⟨List.mem_cons_of_mem _ member, fresh⟩, fun ⟨member, fresh⟩ => ⟨?_, fresh⟩⟩ rfl rfl
      exact (List.mem_cons.mp member).resolve_left fun same => fresh (same ▸ before)
    · rw [if_neg fun among => before (List.contains_iff_mem.mp among), List.map_cons, List.count_cons, ih]
      by_cases same : group.name = name
      · subst same
        simp [before]
      · have apart : ¬ name = group.name := fun h => same h.symm
        simp [same, apart]

/-- The line that opens a namespace. -/
theorem tells_namespace (space : String) : Tells ("namespace " ++ space) "    " false := by
  have tells : Tells "namespace " "    " false := ⟨by decide, by decide⟩
  exact tells.append space

theorem tells_memberLine (kind : ResourceKind) {start : String} {answer : Bool}
    (tells : Tells "        slot_map<" start answer) : Tells (memberLine kind) start answer :=
  (((((tells.append kind.nativeType).append ", ").append kind.tag).append "> ").append kind.tableName).append ";"

/-- The lines that begin enum classes are those of the groups. -/
theorem linesWith_enumTypeLines (e : Emitter) :
    linesWith "    enum" e.enumTypeLines = e.enumGroups.map fun group => classLine group.name := by
  have front : linesWith "    enum" ["#pragma once", "", "#include <glad/glad.h>", "", "namespace " ++ e.space, "\x7b"] = [] := by
    refine linesWith_unindented (by decide) fun line member => ?_
    simp only [List.mem_cons, List.not_mem_nil, or_false] at member
    rcases member with rfl | rfl | rfl | rfl | rfl | rfl
    all_goals first
      | rfl
      | exact (tells_namespace e.space).begins
  have block : ∀ group, linesWith "    enum" (enumClass group) = [classLine group.name] := by
    intro group
    have keys : linesWith "    enum" (keyLines group) = [] := by
      refine linesWith_none fun line member => ?_
      obtain ⟨entry, -, rfl⟩ := List.mem_map.mp member
      have tells : Tells "        " "    enum" false := ⟨by decide, by decide⟩
      exact ((((tells.append entry.1).append " = ").append entry.2).append ",").begins
    have first : linesWith "    enum" [classLine group.name, "    \x7b"] = [classLine group.name] :=
      List.filter_cons_of_pos (tells_classLine group.name).begins
    show linesWith _ ([classLine group.name, "    \x7b"] ++ keyLines group ++ ["    \x7d;", ""]) = _
    rw [linesWith_append, linesWith_append, first, keys]
    rfl
  rw [enumTypeLines, linesWith_append, linesWith_append, front, linesWith_flatMap block, List.nil_append]
  exact List.append_nil _

/-- An enum class of the registry is emitted once, also if several groups have its name. -/
theorem count_classLine {name : String} (known : name ∈ e.registry.enumTypes) : e.enumTypeLines.count (classLine name) = 1 := by
  have names : e.enumGroups.map (fun group => classLine group.name) = (e.enumGroups.map EnumGroup.name).map classLine := by
    rw [List.map_map]
    rfl
  rw [← count_linesWith (tells_classLine name).begins, linesWith_enumTypeLines, names,
    List.count_map_of_injective _ _ classLine_injective, enumGroups, count_distinctGroups, if_pos ⟨known, List.not_mem_nil⟩]

/-- The lines in front of the resource kinds are not indented. -/
theorem linesWith_resourceFront {start : String} (indented : beginsWith start "    " = true) (space : String) :
    linesWith start ["#pragma once", "", "#include <glad/glad.h>", "", "#include \"slot_map.hpp\"", "",
      "namespace " ++ space, "\x7b"] = [] := by
  refine linesWith_unindented indented fun line member => ?_
  simp only [List.mem_cons, List.not_mem_nil, or_false] at member
  rcases member with rfl | rfl | rfl | rfl | rfl | rfl | rfl | rfl
  all_goals first
    | rfl
    | exact (tells_namespace space).begins

/-- The declarations of handle types are those of the kinds. -/
theorem linesWith_typedefs (e : Emitter) : linesWith "    type" e.resourceLines = e.overrides.kinds.map typedefLine := by
  have block : ∀ kind, linesWith "    type" (handleTypeLines kind) = [typedefLine kind] := by
    intro kind
    have tag : beginsWith ("    struct " ++ kind.tag ++ ";") "    type" = false := by
      have tells : Tells "    struct " "    type" false := ⟨by decide, by decide⟩
      exact ((tells.append kind.tag).append ";").begins
    have others : linesWith "    type" ["    struct " ++ kind.tag ++ ";"] = [] :=
      linesWith_none fun line member => List.mem_singleton.mp member ▸ tag
    have own : linesWith "    type" [typedefLine kind, ""] = [typedefLine kind] :=
      List.filter_cons_of_pos (tells_typedefLine kind).begins
    show linesWith _ (["    struct " ++ kind.tag ++ ";"] ++ [typedefLine kind, ""]) = _
    rw [linesWith_append, others, own, List.nil_append]
  have tables : linesWith "    type" (e.overrides.kinds.map tableLine) = [] := by
    refine linesWith_none fun line member => ?_
    obtain ⟨kind, -, rfl⟩ := List.mem_map.mp member
    exact (tells_memberLine kind ⟨by decide, by decide⟩).begins
  have middle : linesWith "    type" ["    struct ResourceManager", "    \x7b"] = [] := by rfl
  have behind : linesWith "    type" ["    \x7d;", "\x7d"] = [] := by rfl
  have front : linesWith "    type" _ = [] := linesWith_resourceFront (by decide) e.space
  simp only [resourceLines, linesWith_append, front, linesWith_flatMap block, tables, middle,
    behind, List.nil_append, List.append_nil]

/-- The tables are those of the kinds. -/
theorem linesWith_tables (e : Emitter) : linesWith "        " e.resourceLines = e.overrides.kinds.map memberLine := by
  have types : linesWith "        " (e.overrides.kinds.flatMap handleTypeLines) = [] := by
    refine linesWith_none fun line member => ?_
    obtain ⟨kind, -, member⟩ := List.mem_flatMap.mp member
    simp only [handleTypeLines, List.mem_cons, List.not_mem_nil, or_false] at member
    have tag : Tells "    struct " "        " false := ⟨by decide, by decide⟩
    have typedef : Tells "    typedef resource_handle<" "        " false := ⟨by decide, by decide⟩
    rcases member with rfl | rfl | rfl
    · exact ((tag.append kind.tag).append ";").begins
    · exact ((((typedef.append kind.tag).append "> ").append kind.handleType).append ";").begins
    · rfl
  have tables : linesWith "        " (e.overrides.kinds.map tableLine) = e.overrides.kinds.map memberLine := by
    refine List.filter_eq_self.mpr fun line member => ?_
    obtain ⟨kind, -, rfl⟩ := List.mem_map.mp member
    exact (tells_memberLine kind ⟨by decide, by decide⟩).begins
  have middle : linesWith "        " ["    struct ResourceManager", "    \x7b"] = [] := by rfl
  have behind : linesWith "        " ["    \x7d;", "\x7d"] = [] := by rfl
  have front : linesWith "        " _ = [] := linesWith_resourceFront (by decide) e.space
  simp only [resourceLines, linesWith_append, front, types, tables, middle, behind,
    List.nil_append, List.append_nil]

theorem nodup_typedefLine : (builtInKinds.map typedefLine).Nodup := by
  decide

theorem nodup_memberLine : (builtInKinds.map memberLine).Nodup := by
  decide

theorem nodup_tableName : (builtInKinds.map ResourceKind.tableName).Nodup := by
  decide

theorem kind_of_handleTypes : ∀ type ∈ Keyed.values handleTypes, ∃ kind ∈ builtInKinds, kind.handleType = type := by
  decide

/-- The handle type of a kind is declared once, and so is its table, a member with a name of its own. -/
structure DeclaresKind (e : Emitter) (kind : ResourceKind) : Prop where
  alone : ∀ other ∈ e.overrides.kinds, other.handleType = kind.handleType ∨ other.tableName = kind.tableName → other = kind
  emitted : ∃ lines, Artifact.resourceTables.lines e = .ok lines ∧ lines.count (typedefLine kind) = 1 ∧
    lines.count (memberLine kind) = 1

/-- Where an emitter declares a type: as a class of enums, or as the handle type of a kind. -/
inductive Declares (e : Emitter) (type : String) : Prop
  | enumClass {lines : List String} (emitted : Artifact.enumTypes.lines e = .ok lines) (once : lines.count (classLine type) = 1)
  | handle {kind : ResourceKind} (listed : kind ∈ e.overrides.kinds) (named : kind.handleType = type) (kept : e.DeclaresKind kind)

theorem declares_class {type : String} (known : type ∈ e.registry.enumTypes) : e.Declares type :=
  .enumClass rfl (count_classLine known)

/-- The built-in kinds are declared. -/
theorem declares_kind (kinds : e.overrides.kinds = builtInKinds) {kind : ResourceKind} (listed : kind ∈ builtInKinds) :
    e.DeclaresKind kind := by
  have typedef : e.resourceLines.count (typedefLine kind) = 1 := by
    rw [← count_linesWith (tells_typedefLine kind).begins, linesWith_typedefs, kinds]
    exact List.count_eq_one_of_mem nodup_typedefLine (List.mem_map_of_mem listed)
  have table : e.resourceLines.count (memberLine kind) = 1 := by
    have indented : Tells (memberLine kind) "        " true := tells_memberLine kind ⟨by decide, by decide⟩
    rw [← count_linesWith indented.begins, linesWith_tables, kinds]
    exact List.count_eq_one_of_mem nodup_memberLine (List.mem_map_of_mem listed)
  refine ⟨fun other among same => ?_, _, rfl, typedef, table⟩
  have among : other ∈ builtInKinds := kinds ▸ among
  rcases same with handle | name
  · exact List.inj_on_of_nodup_map nodup_handleType among listed handle
  · exact List.inj_on_of_nodup_map nodup_tableName among listed name

/-- The handle types that the built-in overrides bring in are declared. -/
theorem declares_handle (kinds : e.overrides.kinds = builtInKinds) {type : String} (handle : type ∈ Keyed.values handleTypes) :
    e.Declares type := by
  obtain ⟨kind, listed, named⟩ := kind_of_handleTypes type handle
  exact .handle (kinds ▸ listed) named (declares_kind kinds listed)

variable {log log' : Log} {start space : String} {lines : List String}
  {description : Option (Except Markup.DocumentError Markup.Element)} {r : Registry}

/-- **Types are declared once.** Every function of an emitter that is built from sources with the built-in overrides has the types
that the header declares for the function at its place, and types that the emitter declares: classes, once among the enum
types, and handle types, once among the resource kinds. Only the text of a shader and its length have types of the interface
that the header declares elsewhere. The lines of the producer and of the consumer name the tables of the kinds whose handles
they have, and all these tables are declared. -/
theorem types_declared_once (parsed : (Build.readRegistry log start lines description).answer = .ok r)
    (built : (Build.emitter log' r builtIns space).answer = .ok e) {k : Nat} {f : Function} (stands : e.functions[k]? = some f) :
    ∃ key declared writes reads,
      (Header.Extraction.ofLines (.empty start) lines).state.registry.functions[k]? = some (key, declared) ∧
      declared.TypesFrom (fun type => e.Declares type ∨ f.name = "glShaderSource" ∧ type ∈ textTypes) f ∧
      e.writeStatements f = .ok writes ∧ e.readStatements f = .ok reads ∧
      e.Prints f key (Command.lastKind Rule.creates? (e.overrides.rulesOf f.name))
        (Command.lastKind Rule.destroys? (e.overrides.rulesOf f.name)) writes reads ∧
      ∀ kind ∈ e.overrides.kinds, e.DeclaresKind kind := by
  have filed := Build.filed_readRegistry parsed
  obtain ⟨key, original, writes, reads, before, -, produced, consumed, prints⟩ := prints_of_emitter built filed stands
  obtain ⟨g, follows, now, -⟩ := followsTable_of_emitter (.refl builtIns) filed built before
  rw [stands] at now
  cases now
  obtain ⟨declared, header, classes⟩ := Build.typesFrom_readRegistry parsed before
  have kinds : e.overrides.kinds = builtInKinds := (kinds_of_order (.refl builtIns) filed built).1
  have known : e.registry.enumTypes = r.enumTypes := by
    rw [Registry.enumTypes, enums_of_order (.refl builtIns) filed built]
    rfl
  refine ⟨key, declared, writes, reads, header, ?_, produced, consumed, prints,
    fun kind listed => declares_kind kinds (kinds ▸ listed)⟩
  refine (classes.imp fun type class_ => ?_).trans (follows.typesFrom.imp fun type given => ?_)
  · exact .inl (declares_class (known ▸ class_))
  · rcases List.mem_append.mp given with handle | text
    · exact .inl (declares_handle kinds handle)
    · split at text
      · rename_i own
        exact .inr ⟨follows.name_of_text own, text⟩
      · cases text

end Emitter

/-! ## A header and a description -/

namespace TextureTarget

/-- A header with the function that makes textures, and with a target for them. -/
def lines : List String :=
  ["#define GL_TEXTURE_2D 0x0DE1",
   "typedef void (APIENTRYP PFNGLCREATETEXTURESPROC)(GLenum target, GLsizei n, GLuint *textures);",
   "GLAPI PFNGLCREATETEXTURESPROC glad_glCreateTextures;"]

/-- A description that gives a group to the target. -/
def root : Markup.Element :=
  .mk "registry" [] ""
    [.mk "groups" [] "" [.mk "group" [("name", "TextureTarget")] "" [.mk "enum" [("name", "GL_TEXTURE_2D")] "" []]],
     .mk "commands" [] ""
       [.mk "command" [] ""
         [.mk "proto" [] "void " [.mk "name" [] "glCreateTextures" []],
          .mk "param" [("group", "TextureTarget")] "" [.mk "ptype" [] "GLenum" [], .mk "name" [] "target" []],
          .mk "param" [] "" [.mk "ptype" [] "GLsizei" [], .mk "name" [] "n" []],
          .mk "param" [] "" [.mk "ptype" [] "GLuint" [], .mk "name" [] "textures" []]]]]

def createType (target : Argument) : FunctionType :=
  ⟨"PFNGLCREATETEXTURESPROC", "void", false, [target, ⟨"GLsizei", "n", false⟩, ⟨"GLuint *", "textures", false⟩]⟩

def native : Argument := ⟨"GLenum", "target", false⟩

def described : Argument := ⟨"TextureTarget", "target", true⟩

/-- The function as the header declares it, or with the group of its target. -/
def createTextures (target : Argument) : Function :=
  ⟨"glCreateTextures", "CreateTextures", "public", createType target⟩

/-- The function that makes one texture. -/
def createTexture : Function :=
  ⟨"glCreateTexture", "CreateTexture", "public", ⟨"PFNGLCREATETEXTURESPROC", "TextureHandle", false, [described]⟩⟩

/-- The registry of the header. -/
def header : Registry where
  start := "gl"
  defines := ["GL_TEXTURE_2D"]
  types := [("PFNGLCREATETEXTURESPROC", createType native)]
  functions := [("glCreateTextures", createTextures native)]
  enums := []
  frozen := false
  shortNames := [("CreateTextures", "glCreateTextures")]

def registry : Registry :=
  { header with
    functions := [("glCreateTextures", createTextures described)]
    enums := [("TextureTarget", ⟨"TextureTarget", [("Texture2D", "GL_TEXTURE_2D")]⟩)]
    frozen := true }

/-- The kind of textures, the fifth of the built-in kinds. -/
def texture : ResourceKind := ⟨"Texture", "GLuint", 4⟩

theorem exists_emitter : ∃ e, (Build.emitter [] registry builtIns "gl").answer = .ok e ∧
    e.functions = [createTexture] ∧
    Command.lastKind Rule.creates? (e.overrides.rulesOf createTexture.name) = some texture := by
  have applied : ((trackerOf builtIns registry).apply registry).answer = .ok () := by decide +kernel
  have single : ((trackerOf builtIns registry).apply registry).state.2.functions = [("glCreateTexture", createTexture)] ∧
      Command.lastKind Rule.creates? (((trackerOf builtIns registry).apply registry).state.1.rulesOf createTexture.name) =
        some texture := by
    decide +kernel
  refine ⟨_, emitter_of_applied plain_builtIns applied (by rw [single.1]; rfl) [] "gl", ?_, ?_⟩
  · rw [Emitter.functions, single.1]
    rfl
  · dsimp only
    exact single.2

/-- The lines of the producer. -/
def producerTexts : List String :=
  ["write_command(CommandId::CreateTexture);", "m_Buffer.write<TextureTarget>(target);",
   "auto handle = m_Resources.Textures.create(0);", "m_Buffer.write<TextureHandle>(handle);", "return handle;"]

theorem texture_printed : typedefLine texture = "    typedef resource_handle<TextureTag> TextureHandle;" ∧
    memberLine texture = "        slot_map<GLuint, TextureTag> Textures;" ∧
    createTexture.producerTexts (some texture) = producerTexts := by
  decide

/-- The target of a texture is a class of the description, and its handle is that of a kind with a table, which the producer
names. -/
theorem target_and_texture_declared : ∃ e writes resources, (Build.emitter [] registry builtIns "gl").answer = .ok e ∧
    e.functions[0]? = some createTexture ∧ e.Declares "TextureTarget" ∧ e.Declares "TextureHandle" ∧
    e.writeStatements createTexture = .ok writes ∧
    writes.map Statement.text = producerTexts ∧
    Artifact.resourceTables.lines e = .ok resources ∧
    resources.count "    typedef resource_handle<TextureTag> TextureHandle;" = 1 ∧
    resources.count "        slot_map<GLuint, TextureTag> Textures;" = 1 := by
  have read : (Header.Extraction.ofLines (.empty "gl") lines).answer.toOption = some () ∧
      (Header.Extraction.ofLines (.empty "gl") lines).state.registry = header := by
    decide +kernel
  have refined : (Refinement.ofRoot header root).registry.freeze = registry := by decide
  have parsed : (Build.readRegistry [] "gl" lines (some (.ok root))).answer = .ok registry := by
    rw [Build.readRegistry_described (ok_of_toOption read.1), read.2, refined]
  obtain ⟨e, built, single, made⟩ := exists_emitter
  have stands : e.functions[0]? = some createTexture := by rw [single]; rfl
  obtain ⟨key, declared, writes, reads, first, types, produced, -, prints, kept⟩ :=
    Emitter.types_declared_once parsed built stands
  rw [read.2] at first
  cases first
  rw [made] at prints
  obtain ⟨-, resources, emitted, typedef, member⟩ := kept texture (prints.known texture List.mem_cons_self)
  rw [texture_printed.1] at typedef
  rw [texture_printed.2.1] at member
  refine ⟨e, writes, resources, built, stands, ?_, ?_, produced, prints.producer.trans texture_printed.2.2, emitted, typedef,
    member⟩
  · rcases types.argument 0 described rfl with ⟨a, at_, -, type⟩ | declares | ⟨text, -⟩
    · cases at_
      exact absurd type (by decide)
    · exact declares
    · exact absurd text (by decide)
  · rcases types.result with type | declares | ⟨text, -⟩
    · exact absurd type (by decide)
    · exact declares
    · exact absurd text (by decide)

end TextureTarget

end CommandStream
