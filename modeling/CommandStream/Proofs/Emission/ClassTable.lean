import CommandStream.Program.Tables
import CommandStream.Proofs.Description.Resolution
import CommandStream.Proofs.Emission.Declared
import CommandStream.Proofs.Override.Untouched

/-!
# The table of enum classes and the emitted classes

Several groups can have one class. The table collects the groups of each class and shows the values of the first; the emitter
goes through the groups and passes over those whose class it has had. Both come to the same classes with the same values,
since each takes the first group of a class, in whatever order the classes then stand.
-/

namespace CommandStream
open Description

/-! ## The groups of a registry that is read -/

/-- Groups of which each is there once, in the class that its name has. -/
structure EnumTable.Classified (enums : Keyed EnumGroup) : Prop where
  distinct : (Keyed.keys enums).Nodup
  class_eq : ∀ entry ∈ enums, entry.2.name = groupTypeName entry.1

/-- Every registry that is read has its groups in their classes. -/
theorem Build.classified_readRegistry {log : Log} {start : String} {lines : List String}
    {description : Option (Except Markup.DocumentError Markup.Element)} {r : Registry}
    (read : (readRegistry log start lines description).answer = .ok r) : EnumTable.Classified r.enums := by
  have unrefined : _ = [] := Header.Extraction.enums_ofLines (.empty start) lines
  rcases readRegistry_ok read with rfl | ⟨root, -, rfl⟩
  · dsimp only [Registry.freeze]
    rw [unrefined]
    exact ⟨List.nodup_nil, fun entry member => absurd member List.not_mem_nil⟩
  · have enums := Refinement.Resolved.ofRoot unrefined root
    dsimp only [Registry.freeze]
    rw [enums]
    refine ⟨?_, fun entry member => ?_⟩
    · rw [Keyed.keys, List.map_map]
      exact (List.map_id _).symm ▸ nodup_eraseDups _
    · obtain ⟨group, -, rfl⟩ := List.mem_map.mp member
      exact Refinement.name_groupOf _ _ _

namespace EnumTable

variable {enums : Keyed EnumGroup}

/-! ## What the table collects -/

theorem groupsByType_snoc (enums : Keyed EnumGroup) (name : String) (group : EnumGroup) :
    groupsByType (enums ++ [(name, group)]) =
      Keyed.put (groupsByType enums) group.name ((Keyed.find? (groupsByType enums) group.name).getD [] ++ [name]) := by
  rw [groupsByType, List.foldl_append]
  rfl

/-- The classes in the order of their first groups. -/
theorem keys_groupsByType (enums : Keyed EnumGroup) :
    Keyed.keys (groupsByType enums) = ((Keyed.values enums).map EnumGroup.name).eraseDups := by
  -- from the last group backwards, since the table puts each behind those it has
  induction enums using List.reverseRecOn with
  | nil => rfl
  | append_singleton enums entry ih =>
    obtain ⟨name, group⟩ := entry
    simp only [groupsByType_snoc, Keyed.keys_put, ih, Keyed.values, List.map_append, List.map_cons, List.map_nil, eraseDups_snoc,
      List.mem_eraseDups]

/-- The groups of a class in their order. -/
theorem groups_groupsByType (enums : Keyed EnumGroup) (type : String) :
    (Keyed.find? (groupsByType enums) type).getD [] = Keyed.keys (enums.filter fun entry => entry.2.name = type) := by
  induction enums using List.reverseRecOn with
  | nil => rfl
  | append_singleton enums entry ih =>
    obtain ⟨name, group⟩ := entry
    rw [groupsByType_snoc, List.filter_append]
    by_cases own : group.name = type
    · subst own
      have kept : [(name, group)].filter (fun entry => entry.2.name = group.name) = [(name, group)] :=
        List.filter_cons_of_pos (decide_eq_true rfl)
      rw [Keyed.find?_put_self, Option.getD_some, ih, kept, Keyed.keys, Keyed.keys, List.map_append]
      rfl
    · have dropped : [(name, group)].filter (fun entry => entry.2.name = type) = [] :=
        List.filter_cons_of_neg fun same => own (of_decide_eq_true same)
      rw [Keyed.find?_put_of_ne _ _ fun same => own same.symm, ih, dropped, List.append_nil]

theorem perm_sorted (names : List String) : (sorted names).Perm names :=
  List.mergeSort_perm _ _

/-- Names that are distinct stand in strict order once they are sorted. -/
theorem pairwise_sorted {names : List String} (distinct : names.Nodup) : (sorted names).Pairwise (· < ·) :=
  pairwise_mergeSort_lt id (by rwa [List.map_id])

/-! ## Blocks of the table -/

/-- A class in the table. -/
structure Block where
  type : String
  /-- The groups that have this class. -/
  groups : List String
  values : Keyed String

/-- The lines of a class in the table: its name, with its groups unless there is just the one of this name, and its keys with
their symbols in the column behind. -/
def Block.lines (b : Block) : List String :=
  (if b.groups = [b.type] then b.type else b.type ++ " (" ++ ", ".intercalate b.groups ++ ")") ::
    b.values.map fun (key, symbol) =>
      let front := "      " ++ key ++ " = "
      front ++ String.ofList (List.replicate (40 - front.length) ' ') ++ symbol

/-- The lines of a class in the emitted file: its keys with their symbols, in braces. -/
def emittedLines (group : EnumGroup) : List String :=
  [classLine group.name, "    \x7b"] ++ (group.values.map fun (key, symbol) => "        " ++ key ++ " = " ++ symbol ++ ",") ++
    ["    \x7d;", ""]

/-- The class of a name with its groups and the values of the first. -/
def block (enums : Keyed EnumGroup) (type : String) : Block :=
  let groups := Keyed.keys (enums.filter fun entry => entry.2.name = type)
  ⟨type, groups, ((groups.head?.bind (Keyed.find? enums)).map EnumGroup.values).getD []⟩

/-- All classes in the table. -/
def blocks (enums : Keyed EnumGroup) : List Block :=
  (sorted (Keyed.keys (groupsByType enums))).map (block enums)

theorem lines_eq (enums : Keyed EnumGroup) : lines enums = (blocks enums).flatMap Block.lines := by
  rw [lines, blocks, List.flatMap_map]
  refine congrArg (fun block => List.flatMap block _) (funext fun type => ?_)
  rw [groups_groupsByType, typeLines, Block.lines, block]
  dsimp only
  generalize (Keyed.keys _).head?.bind (Keyed.find? enums) = first
  cases first <;> rfl

theorem types_blocks (enums : Keyed EnumGroup) :
    (blocks enums).map Block.type = sorted (Keyed.keys (groupsByType enums)) := by
  rw [blocks, List.map_map]
  exact List.map_id _

theorem nodup_types (enums : Keyed EnumGroup) : (Keyed.keys (groupsByType enums)).Nodup := by
  rw [keys_groupsByType]
  exact nodup_eraseDups _

/-- The values of a class are those of the first group that has it. -/
theorem values_block (classified : Classified enums) (type : String) :
    (block enums type).values = (((Keyed.values enums).find? fun group => group.name = type).map EnumGroup.values).getD [] := by
  have first : (Keyed.keys (enums.filter fun entry => entry.2.name = type)).head? =
      (List.find? (fun entry => entry.2.name = type) enums).map Prod.fst := by
    rw [Keyed.keys, List.head?_map, List.head?_filter]
  rw [block, first, Keyed.values, List.find?_map]
  dsimp only [Function.comp_def]
  cases found : List.find? (fun entry => entry.2.name = type) enums with
  | none => rfl
  | some entry =>
    have held : Keyed.find? enums entry.1 = some entry.2 := lookup_of_mem classified.distinct (List.mem_of_find?_eq_some found)
    simp [held]

/-- The groups of a class are those whose names have it. -/
theorem groups_block (classified : Classified enums) (type : String) :
    (block enums type).groups = (Keyed.keys enums).filter fun group => groupTypeName group = type := by
  rw [block, Keyed.keys, Keyed.keys, List.filter_map]
  refine congrArg (List.map Prod.fst) (List.filter_congr fun entry member => ?_)
  rw [classified.class_eq entry member]
  rfl

theorem mem_types_iff (classified : Classified enums) {type : String} :
    type ∈ (blocks enums).map Block.type ↔ ∃ group ∈ Keyed.keys enums, groupTypeName group = type := by
  rw [types_blocks, (perm_sorted _).mem_iff, keys_groupsByType, List.mem_eraseDups, Keyed.values, List.map_map]
  constructor
  · intro member
    obtain ⟨entry, listed, rfl⟩ := List.mem_map.mp member
    exact ⟨entry.1, List.mem_map_of_mem listed, (classified.class_eq entry listed).symm⟩
  · rintro ⟨group, member, rfl⟩
    obtain ⟨entry, listed, rfl⟩ := List.mem_map.mp member
    exact List.mem_map.mpr ⟨entry, listed, classified.class_eq entry listed⟩

end EnumTable

/-! ## What the emitter passes over -/

namespace Emitter

theorem nodup_distinctGroups (groups : List EnumGroup) : ((distinctGroups [] groups).map EnumGroup.name).Nodup := by
  refine List.nodup_iff_count_le_one.mpr fun name => ?_
  rw [count_distinctGroups]
  split <;> decide

theorem mem_names_distinctGroups {groups : List EnumGroup} {name : String} :
    name ∈ (distinctGroups [] groups).map EnumGroup.name ↔ name ∈ groups.map EnumGroup.name := by
  rw [← List.count_pos_iff, count_distinctGroups]
  split
  · rename_i among
    exact ⟨fun _ => among.1, fun _ => Nat.one_pos⟩
  · rename_i outside
    exact ⟨fun none => absurd none (Nat.lt_irrefl 0), fun member => absurd ⟨member, List.not_mem_nil⟩ outside⟩

/-- A group that is not passed over is the first of its name. -/
theorem first_of_mem_distinctGroups {seen : List String} {groups : List EnumGroup} {group : EnumGroup}
    (kept : group ∈ distinctGroups seen groups) :
    group.name ∉ seen ∧ groups.find? (fun other => other.name = group.name) = some group := by
  induction groups generalizing seen with
  | nil => cases kept
  | cons first rest ih =>
    rw [distinctGroups] at kept
    split at kept
    · rename_i before
      obtain ⟨fresh, found⟩ := ih kept
      have apart : ¬ first.name = group.name := fun same => fresh (same ▸ List.contains_iff_mem.mp before)
      exact ⟨fresh, by rw [List.find?_cons_of_neg (by simpa using apart), found]⟩
    · rename_i new
      rcases List.mem_cons.mp kept with rfl | later
      · exact ⟨fun before => new (List.contains_iff_mem.mpr before), List.find?_cons_of_pos (decide_eq_true rfl)⟩
      · obtain ⟨fresh, found⟩ := ih later
        obtain ⟨apart, fresh⟩ := List.ne_and_not_mem_of_not_mem_cons fresh
        exact ⟨fresh, by rw [List.find?_cons_of_neg (by simpa using Ne.symm apart), found]⟩

end Emitter

/-! ## Both together -/

namespace EnumTable

/-- The classes in the table are those that are not passed over, with the same values. -/
theorem perm_blocks {enums : Keyed EnumGroup} (classified : Classified enums) :
    ((blocks enums).map fun b => (b.type, b.values)).Perm
      ((Emitter.distinctGroups [] (Keyed.values enums)).map fun group => (group.name, group.values)) := by
  have names : (sorted (Keyed.keys (groupsByType enums))).Perm
      ((Emitter.distinctGroups [] (Keyed.values enums)).map EnumGroup.name) := by
    -- neither has a name twice, so it is enough that they have the same names
    refine (perm_sorted _).trans ?_
    rw [List.perm_ext_iff_of_nodup (nodup_types enums) (Emitter.nodup_distinctGroups _)]
    intro name
    rw [keys_groupsByType, List.mem_eraseDups, Emitter.mem_names_distinctGroups]
  have same := names.map fun type => (type, (block enums type).values)
  rw [List.map_map] at same
  rw [blocks, List.map_map]
  -- the block of a name has the values of the first group that has it, and so has the group that is kept
  refine same.trans (.of_eq (List.map_congr_left fun group kept => ?_))
  obtain ⟨-, first⟩ := Emitter.first_of_mem_distinctGroups kept
  dsimp only [Function.comp_apply]
  rw [values_block classified, first]
  rfl

variable {log : Log} {start : String} {lines : List String}
  {description : Option (Except Markup.DocumentError Markup.Element)} {r : Registry}

/-- **The table shows what is emitted.** For every registry that is read, the table has the classes of the groups of the
registry, each once and in alphabetical order, and behind each the groups whose names have it, in their order, unless there
is just the one of the same name. Whatever emitter is built from the registry, with overrides or without, declares just
these classes, each once, and prints the keys and symbols of the table in the same order. -/
theorem shows_emitted_classes (parsed : (Build.readRegistry log start lines description).answer = .ok r) :
    ∃ blocks : List Block, ∃ classes : List EnumGroup,
      Table.enums.lines r = .ok (blocks.flatMap Block.lines) ∧
      (blocks.map Block.type).Pairwise (· < ·) ∧
      (∀ type, type ∈ blocks.map Block.type ↔ ∃ group ∈ Keyed.keys r.enums, groupTypeName group = type) ∧
      (∀ b ∈ blocks, b.groups = (Keyed.keys r.enums).filter fun group => groupTypeName group = b.type) ∧
      (classes.map EnumGroup.name).Nodup ∧
      (blocks.map fun b => (b.type, b.values)).Perm (classes.map fun group => (group.name, group.values)) ∧
      ∀ {log' : Log} {modules : List OverrideModule} {space : String} {e : Emitter},
        (Build.emitter log' r modules space).answer = .ok e →
        ∃ emitted, Artifact.enumTypes.lines e = .ok emitted ∧
          emitted = ["#pragma once", "", "#include <glad/glad.h>", "", "namespace " ++ e.space, "\x7b"] ++
            classes.flatMap emittedLines ++ ["\x7d"] ∧
          linesWith "    enum" emitted = classes.map fun group => classLine group.name := by
  have classified := Build.classified_readRegistry parsed
  refine ⟨blocks r.enums, Emitter.distinctGroups [] (Keyed.values r.enums), ?_, ?_, ?_, ?_, Emitter.nodup_distinctGroups _,
    perm_blocks classified, ?_⟩
  · exact congrArg Except.ok (lines_eq r.enums)
  · rw [types_blocks]
    exact pairwise_sorted (nodup_types r.enums)
  · exact fun type => mem_types_iff classified
  · intro b member
    obtain ⟨type, -, rfl⟩ := List.mem_map.mp member
    exact groups_block classified type
  · intro log' modules space e built
    have groups : e.enumGroups = Emitter.distinctGroups [] (Keyed.values r.enums) := by
      rw [Emitter.enumGroups, (Build.reworked_emitter built).enums]
      rfl
    refine ⟨e.enumTypeLines, rfl, ?_, ?_⟩
    · rw [Emitter.enumTypeLines, groups]
      rfl
    · rw [Emitter.linesWith_enumTypeLines, groups]

end EnumTable

/-! ## Two groups of one class -/

namespace SharedClass
open OverrideModule

/-- A header with a function that has three plain enums. -/
def lines : List String :=
  ["#define GL_BLEND 0x0BE2", "#define GL_VENDOR 0x1F00", "#define GL_VERSION 0x1F02",
   "typedef void (APIENTRYP PFNGLQUERYPROC)(GLenum first, GLenum cap, GLenum second);",
   "GLAPI PFNGLQUERYPROC glad_glQuery;"]

def group (name : String) (symbols : List String) : Markup.Element :=
  .mk "group" [("name", name)] "" (symbols.map fun symbol => .mk "enum" [("name", symbol)] "" [])

def parameter (name group : String) : Markup.Element :=
  .mk "param" [("group", group)] "" [.mk "ptype" [] "GLenum" [], .mk "name" [] name []]

/-- A description that gives three groups to them. The class of the first group has the name of the last one. -/
def root : Markup.Element :=
  .mk "registry" [] ""
    [.mk "groups" [] ""
       [group "String" ["GL_VERSION", "GL_VENDOR"], group "StringName" ["GL_VENDOR"], group "EnableCap" ["GL_BLEND"]],
     .mk "commands" [] ""
       [.mk "command" [] ""
          [.mk "proto" [] "void " [.mk "name" [] "glQuery" []], parameter "first" "String", parameter "cap" "EnableCap",
           parameter "second" "StringName"]]]

def queryType (first cap second : String) (isEnum : Bool) : FunctionType :=
  ⟨"PFNGLQUERYPROC", "void", false, [⟨first, "first", isEnum⟩, ⟨cap, "cap", isEnum⟩, ⟨second, "second", isEnum⟩]⟩

/-- The type that the header declares. -/
def native : FunctionType :=
  queryType "GLenum" "GLenum" "GLenum" false

/-- The registry of the header. -/
def header : Registry where
  start := "gl"
  defines := ["GL_BLEND", "GL_VENDOR", "GL_VERSION"]
  types := [("PFNGLQUERYPROC", native)]
  functions := [("glQuery", ⟨"glQuery", "Query", "public", native⟩)]
  enums := []
  frozen := false
  shortNames := [("Query", "glQuery")]

def registry : Registry :=
  { header with
    functions := [("glQuery", ⟨"glQuery", "Query", "public", queryType "StringName" "EnableCap" "StringName" true⟩)]
    enums :=
      [("String", ⟨"StringName", [("Version", "GL_VERSION"), ("Vendor", "GL_VENDOR")]⟩),
       ("EnableCap", ⟨"EnableCap", [("Blend", "GL_BLEND")]⟩), ("StringName", ⟨"StringName", [("Vendor", "GL_VENDOR")]⟩)]
    frozen := true }

theorem parsed : (Build.readRegistry [] "gl" lines (some (.ok root))).answer = .ok registry := by
  have read : (Header.Extraction.ofLines (.empty "gl") lines).answer.toOption = some () ∧
      (Header.Extraction.ofLines (.empty "gl") lines).state.registry = header := by
    decide +kernel
  have refined : (Refinement.ofRoot header root).registry.freeze = registry := by decide
  rw [Build.readRegistry_described (ok_of_toOption read.1), read.2, refined]

def emitter : Emitter :=
  ⟨((trackerOf builtIns registry).apply registry).state.2, ((trackerOf builtIns registry).apply registry).state.1, "gl", .byte,
    by decide +kernel⟩

theorem built : (Build.emitter [] registry builtIns "gl").answer = .ok emitter := by
  have applied : ((trackerOf builtIns registry).apply registry).answer.toOption = some () ∧
      ((trackerOf builtIns registry).apply registry).state.2.functions.length = 1 := by
    decide +kernel
  exact emitter_of_applied plain_builtIns (ok_of_toOption applied.1) (by rw [applied.2]; rfl) [] "gl"

/-- The emitted file. -/
def emittedTypes : List String :=
  ["#pragma once", "", "#include <glad/glad.h>", "", "namespace gl", "\x7b",
   "    enum class StringName : GLenum", "    \x7b", "        Version = GL_VERSION,", "        Vendor = GL_VENDOR,", "    \x7d;",
   "", "    enum class EnableCap : GLenum", "    \x7b", "        Blend = GL_BLEND,", "    \x7d;", "", "\x7d"]

/-- The table has two classes for the three groups, and these are emitted. -/
theorem two_classes_shown : (Build.readRegistry [] "gl" lines (some (.ok root))).answer = .ok registry ∧
    (Build.emitter [] registry builtIns "gl").answer = .ok emitter ∧
    Keyed.keys registry.enums = ["String", "EnableCap", "StringName"] ∧
    Table.enums.lines registry = .ok
      ["EnableCap", "      Blend =                           GL_BLEND", "StringName (String, StringName)",
       "      Version =                         GL_VERSION", "      Vendor =                          GL_VENDOR"] ∧
    Artifact.enumTypes.lines emitter = .ok emittedTypes ∧
    ∃ blocks : List EnumTable.Block, Table.enums.lines registry = .ok (blocks.flatMap EnumTable.Block.lines) ∧
      (∀ type, type ∈ blocks.map EnumTable.Block.type ↔ type = "EnableCap" ∨ type = "StringName") ∧
      (linesWith "    enum" emittedTypes).Perm (blocks.map fun b => classLine b.type) := by
  obtain ⟨blocks, classes, table, -, types, -, -, perm, emits⟩ := EnumTable.shows_emitted_classes parsed
  obtain ⟨emitted, made, -, declared⟩ := emits built
  have order : EnumTable.sorted (Keyed.keys (EnumTable.groupsByType registry.enums)) = ["EnableCap", "StringName"] := by
    have collected : Keyed.keys (EnumTable.groupsByType registry.enums) = ["StringName", "EnableCap"] := by decide
    rw [collected]
    simp [EnumTable.sorted, List.mergeSort]
  have shown : Table.enums.lines registry = .ok
      ["EnableCap", "      Blend =                           GL_BLEND", "StringName (String, StringName)",
       "      Version =                         GL_VERSION", "      Vendor =                          GL_VENDOR"] := by
    refine congrArg Except.ok ?_
    rw [EnumTable.lines, order]
    decide
  have keys : Keyed.keys registry.enums = ["String", "EnableCap", "StringName"] := rfl
  have both (type : String) : type ∈ blocks.map EnumTable.Block.type ↔ type = "EnableCap" ∨ type = "StringName" := by
    have names : groupTypeName "String" = "StringName" ∧ groupTypeName "EnableCap" = "EnableCap" ∧
        groupTypeName "StringName" = "StringName" := by
      decide
    rw [types, keys]
    simp only [List.mem_cons, List.not_mem_nil, or_false, exists_eq_or_imp, exists_eq_left, names, eq_comm (b := type)]
    tauto
  have own : Artifact.enumTypes.lines emitter = .ok emittedTypes := congrArg Except.ok (by decide +kernel)
  obtain rfl : emittedTypes = emitted := Except.ok.inj (own.symm.trans made)
  have named := (perm.map fun entry => classLine entry.1).symm
  rw [List.map_map, List.map_map] at named
  exact ⟨parsed, built, keys, shown, own, blocks, table, both, by rw [declared]; exact named⟩

end SharedClass

end CommandStream
