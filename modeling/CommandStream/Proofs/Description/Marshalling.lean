import CommandStream.Proofs.Description.Retyping
import CommandStream.Queue.Command

/-!
# Refined arguments on the wire

A refinement looks at the type element and the group of a parameter, not at the type that the header declares. So an
argument keeps its wire type if it is a plain enum whose class travels as an enum, or if no described group is given to
it and no class has the name of its type. A pointer to enums with a group becomes an enum.
-/

namespace CommandStream
open Description Markup

/-! ## Wire types beside classes -/

/-- A type whose wire type is not that of a class: classes are not looked at, or the type is a class and travelled as an
enum already. -/
def Unshadowed (classes : List String) (type : String) : Prop :=
  trimmed type ∈ classes → finishesWith (trimmed type) "*" = true ∨ finishesWith (trimmed type) "Handle" = true ∨
    ∀ t, wireTypeFor type [] = .ok t → t = .enum

theorem unshadowed_iff (classes : List String) (type : String) :
    Unshadowed classes type ↔ ∀ t, wireTypeFor type [] = .ok t → wireTypeFor type classes = .ok t := by
  unfold Unshadowed
  by_cases pointer : finishesWith (trimmed type) "*" = true
  · simp [wireTypeFor, pointer]
  by_cases handle : finishesWith (trimmed type) "Handle" = true
  · simp [wireTypeFor, pointer, handle]
  by_cases listed : trimmed type ∈ classes
  · have enum : wireTypeFor type classes = .ok .enum := by simp [wireTypeFor, pointer, handle, listed]
    rw [enum]
    simp [listed, pointer, handle, eq_comm]
  · have same : wireTypeFor type classes = wireTypeFor type [] := by simp [wireTypeFor, pointer, handle, listed]
    simp [listed, same]

/-- Arguments that stay in their places: with their types, unless these are the plain enum type, and with their wire
types, if they have one. -/
def Registry.MarshalsAs (r r' : Registry) : Prop :=
  ∀ (place : Nat) (f : Function) (i : Nat) (a : Argument), r.functionAt? place = some f → f.type.arguments[i]? = some a →
    ∃ (f' : Function) (a' : Argument), r'.functionAt? place = some f' ∧ f'.type.arguments[i]? = some a' ∧
      (a.type ≠ Refinement.enumType → a'.type = a.type) ∧
      ∀ t, wireTypeFor a.type r.enumTypes = .ok t → wireTypeFor a'.type r'.enumTypes = .ok t

/-- What it takes for an argument to travel on as it did, given a group or none in a registry with some classes. -/
def Argument.TravelsOn (a : Argument) (classes : List String) : Option String → Prop
  | some group =>
    if a.type = Refinement.enumType then wireTypeFor (groupTypeName group) classes = .ok .enum
    else groupTypeName group = a.type ∧ Unshadowed classes a.type
  | none => Unshadowed classes a.type

theorem Argument.travelsOn_iff (a : Argument) (classes : List String) (group : Option String) :
    a.TravelsOn classes group ↔ (a.type ≠ Refinement.enumType → (a.inGroup group).type = a.type) ∧
      ∀ t, wireTypeFor a.type [] = .ok t → wireTypeFor (a.inGroup group).type classes = .ok t := by
  cases group with
  | none =>
    have same : a.inGroup none = a := rfl
    rw [TravelsOn, unshadowed_iff, same]
    exact ⟨fun kept => ⟨fun _ => rfl, kept⟩, And.right⟩
  | some group =>
    have class_ : (a.inGroup (some group)).type = groupTypeName group := rfl
    rw [TravelsOn, class_]
    by_cases plain : a.type = Refinement.enumType
    · have before : wireTypeFor Refinement.enumType [] = .ok .enum := rfl
      rw [if_pos plain, plain, before]
      constructor
      · intro travels
        refine ⟨fun other => absurd rfl other, ?_⟩
        rintro t ⟨⟩
        exact travels
      · rintro ⟨-, kept⟩
        exact kept _ rfl
    · rw [if_neg plain, unshadowed_iff]
      constructor
      · rintro ⟨same, kept⟩
        rw [same]
        exact ⟨fun _ => rfl, kept⟩
      · rintro ⟨same, kept⟩
        rw [same plain] at kept ⊢
        exact ⟨rfl, kept⟩

namespace Refinement

/-- The classes of a refined registry. -/
theorem mem_enumTypes_iff {r : Registry} (named : ∀ entry ∈ r.enums, entry.2.name = groupTypeName entry.1) (name : String) :
    name ∈ r.enumTypes ↔ ∃ group ∈ Keyed.keys r.enums, groupTypeName group = name := by
  have classes : r.enumTypes = (Keyed.keys r.enums).map groupTypeName := by
    rw [Registry.enumTypes, Keyed.values, Keyed.keys, List.map_map, List.map_map]
    exact List.map_congr_left named
  rw [classes, List.mem_map]

section Unrefined

variable {r : Registry} (filed : r.Filed) (unrefined : r.enums = []) (root : Element)
include filed unrefined

/-- The classes of a refined header are those of the described groups that are asked for. -/
theorem mem_enumTypes_ofRoot_iff (name : String) : name ∈ (ofRoot r root).registry.enumTypes ↔
    ∃ function ∈ Keyed.keys r.functions, ∃ item ∈ Retyping.described (Membership.ofRoot root) (Retyping.ofRoot root function),
      groupTypeName item.group = name := by
  obtain ⟨-, named, asked⟩ := refines_ofRoot filed unrefined root
  rw [mem_enumTypes_iff named]
  constructor
  · rintro ⟨group, resolved, rfl⟩
    obtain ⟨known, function, member, item, said, rfl⟩ := (asked group).mp resolved
    exact ⟨function, member, item, List.mem_filter.mpr ⟨said, known⟩, rfl⟩
  · rintro ⟨function, member, item, described, rfl⟩
    obtain ⟨said, known⟩ := List.mem_filter.mp described
    exact ⟨item.group, (asked item.group).mpr ⟨known, function, member, item, said, rfl⟩, rfl⟩

/-- The argument of a refined header at a place. -/
theorem argument_ofRoot {place i : Nat} {f : Function} {a : Argument} (stands : r.functionAt? place = some f)
    (argument : f.type.arguments[i]? = some a) :
    ∃ f', (ofRoot r root).registry.functionAt? place = some f' ∧ f'.type.arguments[i]? = some (a.inGroup
      (f.type.groupFor? (Retyping.described (Membership.ofRoot root) (Retyping.ofRoot root f.name)) i a)) := by
  obtain ⟨functions, -⟩ := refines_ofRoot filed unrefined root
  obtain ⟨⟨key, g⟩, at_, rfl⟩ := Option.map_eq_some_iff.mp stands
  refine ⟨g.retyped (Retyping.described (Membership.ofRoot root) (Retyping.ofRoot root g.name)), ?_,
    FunctionType.argument_retyped argument⟩
  rw [Registry.functionAt?, functions, List.getElem?_map, at_, filed.name_eq at_]
  rfl

theorem marshalsAs_ofRoot_iff : r.MarshalsAs (ofRoot r root).registry ↔
    ∀ (place : Nat) (f : Function) (i : Nat) (a : Argument), r.functionAt? place = some f →
      f.type.arguments[i]? = some a → a.TravelsOn (ofRoot r root).registry.enumTypes
        (f.type.groupFor? (Retyping.described (Membership.ofRoot root) (Retyping.ofRoot root f.name)) i a) := by
  have none_before : r.enumTypes = [] := by
    rw [Registry.enumTypes, unrefined]
    rfl
  constructor
  · intro marshals place f i a stands argument
    obtain ⟨f', a', stands', argument', kept⟩ := marshals place f i a stands argument
    obtain ⟨g, at_, refined⟩ := argument_ofRoot filed unrefined root stands argument
    rw [stands'] at at_
    cases at_
    rw [argument'] at refined
    cases refined
    rw [none_before] at kept
    exact (a.travelsOn_iff _ _).mpr kept
  · intro travel place f i a stands argument
    obtain ⟨f', stands', argument'⟩ := argument_ofRoot filed unrefined root stands argument
    refine ⟨f', _, stands', argument', ?_⟩
    rw [none_before]
    exact (a.travelsOn_iff _ _).mp (travel place f i a stands argument)

end Unrefined

/-- **When a description preserves marshalling.** The classes of a refined header are those of the described groups that
are asked for. Marshalling is preserved exactly if each argument that is given a group is a plain enum whose class travels
as an enum, or has the name of the class as its type already, and if no other argument has the type of a class that it did
not travel as before. -/
theorem marshals_iff (start : String) (lines : List String) (root : Element) :
    let r := (Header.Extraction.ofLines (.empty start) lines).state.registry
    let items := fun function => Retyping.described (Membership.ofRoot root) (Retyping.ofRoot root function)
    let classes := (ofRoot r root).registry.enumTypes
    (∀ name, name ∈ classes ↔
      ∃ function ∈ Keyed.keys r.functions, ∃ item ∈ items function, groupTypeName item.group = name) ∧
    (r.MarshalsAs (ofRoot r root).registry ↔
      ∀ (place : Nat) (f : Function) (i : Nat) (a : Argument), r.functionAt? place = some f →
        f.type.arguments[i]? = some a → a.TravelsOn classes (f.type.groupFor? (items f.name) i a)) := by
  intro r items classes
  have filed : r.Filed := Header.Extraction.filed_ofLines (Registry.filed_empty start) lines
  have unrefined : r.enums = [] := Header.Extraction.enums_ofLines (.empty start) lines
  exact ⟨mem_enumTypes_ofRoot_iff filed unrefined root, marshalsAs_ofRoot_iff filed unrefined root⟩

end Refinement

/-! ## A pointer with a group -/

namespace EnumPointer

/-- A header with a function that takes the address of enums. -/
def lines : List String :=
  ["typedef void (APIENTRYP PFNGLDRAWBUFFERSPROC)(GLsizei n, const GLenum *bufs);",
   "GLAPI PFNGLDRAWBUFFERSPROC glad_glDrawBuffers;"]

/-- A description that gives a group to the enums behind the address, as `const <ptype>GLenum</ptype> *<name>bufs</name>`. -/
def root : Element :=
  .mk "registry" [] ""
    [.mk "groups" [] "" [.mk "group" [("name", "DrawBufferMode")] "" []],
     .mk "commands" [] ""
       [.mk "command" [] ""
         [.mk "proto" [] "void " [.mk "name" [] "glDrawBuffers" []],
          .mk "param" [] "" [.mk "ptype" [] "GLsizei" [], .mk "name" [] "n" []],
          .mk "param" [("group", "DrawBufferMode"), ("len", "n")] "const "
            [.mk "ptype" [] "GLenum" [], .mk "name" [] "bufs" []]]]]

def count : Argument := ⟨"GLsizei", "n", false⟩

def before : Argument := ⟨"const GLenum *", "bufs", false⟩

def after : Argument := ⟨"DrawBufferMode", "bufs", true⟩

def type (argument : Argument) : FunctionType := ⟨"PFNGLDRAWBUFFERSPROC", "void", false, [count, argument]⟩

def function (argument : Argument) : Function := ⟨"glDrawBuffers", "DrawBuffers", "public", type argument⟩

def registry : Registry :=
  { Registry.empty "gl" with
    types := [("PFNGLDRAWBUFFERSPROC", type before)]
    functions := [("glDrawBuffers", function before)]
    shortNames := [("DrawBuffers", "glDrawBuffers")] }

/-- The address loses its type, and travels as an enum. -/
theorem address_becomes_enum :
    let r := (Header.Extraction.ofLines (.empty "gl") lines).state.registry
    let r' := (Refinement.ofRoot r root).registry
    ¬ r.MarshalsAs r' ∧ r.functionAt? 0 = some (function before) ∧ r'.functionAt? 0 = some (function after) ∧
      wireTypeFor before.type r.enumTypes = .ok .pointer ∧ wireTypeFor after.type r'.enumTypes = .ok .enum := by
  have read : (Header.Extraction.ofLines (.empty "gl") lines).state.registry = registry := by decide +kernel
  have refined : (Refinement.ofRoot registry root).registry.functionAt? 0 = some (function after) := by decide +kernel
  rw [read]
  refine ⟨?_, rfl, refined, rfl, rfl⟩
  intro marshals
  obtain ⟨f', a', stands, argument, kept, -⟩ := marshals 0 (function before) 1 before rfl rfl
  rw [refined] at stands
  cases stands
  cases argument
  exact absurd (kept (by decide)) (by decide)

end EnumPointer

end CommandStream
