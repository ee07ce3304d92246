import CommandStream.Description.Membership
import CommandStream.Proofs.Lookup
import Mathlib.Data.List.Induction

/-!
# What a description says of groups

A description mentions a group where it lists it, with or without symbols, and where it attributes a symbol to it. A
group is described if it is mentioned, and its members are the symbols it is mentioned with, each where it is first
mentioned. The index of groups is built from the mentions in document order and holds exactly this.
-/

namespace CommandStream

/-- A list with one more item, without repeats. -/
theorem eraseDups_snoc (items : List String) (item : String) :
    (items ++ [item]).eraseDups = if item ∈ items then items.eraseDups else items.eraseDups ++ [item] := by
  rw [List.eraseDups_append]
  by_cases listed : item ∈ items
  · simp [listed, List.removeAll]
  · simp [listed, List.removeAll, List.eraseDups_cons]

theorem nodup_eraseDups (items : List String) : items.eraseDups.Nodup := by
  induction items using List.reverseRecOn with
  | nil => exact List.nodup_nil
  | append_singleton items item ih =>
    rw [eraseDups_snoc]
    split
    · exact ih
    · rename_i absent
      refine List.nodup_append.mpr ⟨ih, List.nodup_singleton item, ?_⟩
      rintro other member _ last rfl
      exact absent (List.mem_singleton.mp last ▸ List.mem_eraseDups.mp member)

namespace Description
open Markup

/-- A group where a description mentions it, with the symbol that is said to be a member if there is one. -/
abbrev Mention := String × Option String

namespace Mention

/-- The mentions by an element that lists a group. -/
def ofGroup (e : Element) : List Mention :=
  match Membership.groupName? e with
  | some group => (group, none) ::
    ((e.childrenNamed "enum").filterMap fun child => child.attribute? "name").map fun symbol => (group, some symbol)
  | none => []

/-- The mentions by a symbol that is attributed to groups. -/
def ofEnum (e : Element) : List Mention :=
  match e.attribute? "group", e.attribute? "name" with
  | some attribution, some symbol => (Membership.groupsOf attribution).map fun group => (group, some symbol)
  | _, _ => []

/-- The mentions in a child of the root. -/
def ofSection (e : Element) : List Mention :=
  if e.tag = "groups" then (e.childrenNamed "group").flatMap ofGroup
  else if e.tag = "enums" then (e.childrenNamed "enum").flatMap ofEnum
  else []

/-- The mentions in a description, in document order. -/
def ofRoot (root : Element) : List Mention :=
  root.children.flatMap ofSection

/-- The groups that are mentioned. -/
def groups (mentions : List Mention) : List String := mentions.map Prod.fst

/-- The symbols that a group is mentioned with, in order and without repeats. -/
def members (mentions : List Mention) (group : String) : List String :=
  (mentions.filterMap fun mention => if mention.1 = group then mention.2 else none).eraseDups

variable {mentions : List Mention} {group symbol : String}

theorem mem_groups_snoc {mention : Mention} {other : String} :
    other ∈ groups (mentions ++ [mention]) ↔ other ∈ groups mentions ∨ other = mention.1 := by
  simp [groups]

theorem members_of_not_mem (absent : group ∉ groups mentions) : members mentions group = [] := by
  have nothing : (mentions.filterMap fun mention => if mention.1 = group then mention.2 else none) = [] := by
    rw [List.filterMap_eq_nil_iff]
    intro mention member
    have apart : mention.1 ≠ group := by
      rintro rfl
      exact absent (List.mem_map_of_mem member)
    rw [if_neg apart]
  rw [members, nothing, List.eraseDups_nil]

theorem members_bare (mentions : List Mention) (group other : String) :
    members (mentions ++ [(group, none)]) other = members mentions other := by
  simp [members]

theorem members_symbol (mentions : List Mention) (group symbol other : String) :
    members (mentions ++ [(group, some symbol)]) other =
      if other = group then
        if symbol ∈ members mentions group then members mentions group else members mentions group ++ [symbol]
      else members mentions other := by
  by_cases same : other = group
  · subst same
    simp only [members, List.filterMap_append, List.filterMap_cons, List.filterMap_nil, if_true, eraseDups_snoc,
      List.mem_eraseDups]
  · have apart : ¬ group = other := fun equal => same equal.symm
    simp [members, same, apart]

end Mention

namespace Membership

variable {m : Membership} {mentions : List Mention} {group symbol : String}

/-- An index that holds the mentioned groups with their members. -/
def Holds (m : Membership) (mentions : List Mention) : Prop :=
  ∀ group, Keyed.find? m group =
    if group ∈ Mention.groups mentions then some (Mention.members mentions group) else none

theorem Holds.members (holds : m.Holds mentions) (group : String) : m.members group = Mention.members mentions group := by
  rw [Membership.members, holds]
  split
  · rfl
  · rename_i absent
    rw [Mention.members_of_not_mem absent]
    rfl

theorem Holds.hasKey (holds : m.Holds mentions) (group : String) :
    Keyed.hasKey m group = true ↔ group ∈ Mention.groups mentions := by
  rw [← Keyed.isSome_find?, holds]
  split
  · rename_i mentioned
    exact iff_of_true rfl mentioned
  · rename_i absent
    exact iff_of_false (by rw [Option.isSome_none]; exact Bool.false_ne_true) absent

theorem find?_addGroup (m : Membership) (group other : String) :
    Keyed.find? (m.addGroup group) other = if other = group then some (m.members group) else Keyed.find? m other := by
  unfold addGroup
  split
  · rename_i present
    rw [← Keyed.isSome_find?] at present
    obtain ⟨symbols, found⟩ := Option.isSome_iff_exists.mp present
    split
    · rename_i same
      rw [same, Membership.members, found]
      rfl
    · rfl
  · rename_i absent
    have fresh : group ∉ Keyed.keys m := fun member => absent ((Keyed.hasKey_iff _ _).mpr member)
    have nothing : m.members group = [] := by
      rw [Membership.members, find?_eq_none_iff.mpr fresh]
      rfl
    rw [find?_snoc fresh, nothing]

theorem Holds.addGroup (holds : m.Holds mentions) (group : String) :
    (m.addGroup group).Holds (mentions ++ [(group, none)]) := by
  intro other
  rw [find?_addGroup, Mention.members_bare, holds.members, holds]
  by_cases same : other = group
  · rw [if_pos same, if_pos (Mention.mem_groups_snoc.mpr (.inr same)), same]
  · have kept : other ∈ Mention.groups (mentions ++ [(group, none)]) ↔ other ∈ Mention.groups mentions :=
      Mention.mem_groups_snoc.trans (or_iff_left same)
    simp only [kept, if_neg same]

theorem Holds.addMember (holds : m.Holds mentions) (group symbol : String) :
    (m.addMember group symbol).Holds (mentions ++ [(group, some symbol)]) := by
  have own : (m.addGroup group).members group = m.members group := by
    rw [Membership.members, find?_addGroup, if_pos rfl]
    rfl
  intro other
  rw [Mention.members_symbol, ← holds.members]
  unfold Membership.addMember
  dsimp only
  rw [own]
  by_cases same : other = group
  · subst same
    have mentioned : other ∈ Mention.groups (mentions ++ [(other, some symbol)]) :=
      Mention.mem_groups_snoc.mpr (.inr rfl)
    rw [if_pos mentioned, if_pos rfl]
    by_cases listed : symbol ∈ m.members other
    · rw [if_pos (List.contains_iff_mem.mpr listed), if_pos listed, find?_addGroup, if_pos rfl]
    · rw [if_neg fun present => listed (List.contains_iff_mem.mp present), if_neg listed, Keyed.find?_put_self]
  · have elsewhere : ∀ symbols, Keyed.find? (Keyed.put (m.addGroup group) group symbols) other = Keyed.find? m other := by
      intro symbols
      rw [Keyed.find?_put_of_ne _ _ same, find?_addGroup, if_neg same]
    have kept : other ∈ Mention.groups (mentions ++ [(group, some symbol)]) ↔ other ∈ Mention.groups mentions :=
      Mention.mem_groups_snoc.trans (or_iff_left same)
    simp only [kept, if_neg same]
    split
    · rw [find?_addGroup, if_neg same, holds]
    · rw [elsewhere, holds]

/-- What every item adds to an index, a list of items adds. -/
theorem Holds.foldl {α : Type} {add : Membership → α → Membership} {mentionsOf : α → List Mention}
    (step : ∀ m mentions item, Holds m mentions → Holds (add m item) (mentions ++ mentionsOf item))
    (holds : m.Holds mentions) (items : List α) :
    Holds (items.foldl add m) (mentions ++ items.flatMap mentionsOf) := by
  induction items generalizing m mentions with
  | nil => rwa [List.flatMap_nil, List.append_nil]
  | cons item rest ih =>
    have next := ih (step m mentions item holds)
    rwa [List.append_assoc, ← List.flatMap_cons] at next

theorem Holds.addListed (holds : m.Holds mentions) {group : String} {e : Element} (named : groupName? e = some group) :
    (m.addListed group e).Holds (mentions ++ Mention.ofGroup e) := by
  have listed (symbols : List String) : Holds (symbols.foldl (fun m symbol => m.addMember group symbol) (m.addGroup group))
      (mentions ++ [(group, none)] ++ symbols.flatMap fun symbol => [(group, some symbol)]) :=
    (holds.addGroup group).foldl (fun _ _ symbol holds => holds.addMember group symbol) symbols
  simp only [List.append_assoc, ← List.map_eq_flatMap, List.singleton_append] at listed
  rw [Mention.ofGroup, named]
  exact listed _

theorem Holds.addGroups (holds : m.Holds mentions) (e : Element) :
    (m.addGroups e).Holds (mentions ++ (e.childrenNamed "group").flatMap Mention.ofGroup) := by
  refine holds.foldl (fun m mentions child holds => ?_) _
  cases named : groupName? child with
  | none =>
    rw [Mention.ofGroup, named, List.append_nil]
    exact holds
  | some group => exact holds.addListed named

theorem Holds.addAttributed (holds : m.Holds mentions) (e : Element) :
    (m.addAttributed e).Holds (mentions ++ (e.childrenNamed "enum").flatMap Mention.ofEnum) := by
  refine holds.foldl (fun m mentions child holds => ?_) _
  cases attributed : child.attribute? "group" with
  | none =>
    simp only [Mention.ofEnum, attributed, List.append_nil]
    exact holds
  | some attribution =>
    cases named : child.attribute? "name" with
    | none =>
      simp only [Mention.ofEnum, attributed, named, List.append_nil]
      exact holds
    | some symbol =>
      simp only [Mention.ofEnum, attributed, named, List.map_eq_flatMap]
      exact holds.foldl (fun _ _ group holds => holds.addMember group symbol) (groupsOf attribution)

theorem Holds.addSection (holds : m.Holds mentions) (e : Element) :
    (m.addSection e).Holds (mentions ++ Mention.ofSection e) := by
  unfold Membership.addSection Mention.ofSection
  split
  · exact holds.addGroups e
  split
  · exact holds.addAttributed e
  · rwa [List.append_nil]

/-- The index of a description holds what the description mentions. -/
theorem holds_ofRoot (root : Element) : (ofRoot root).Holds (Mention.ofRoot root) := by
  have nothing : Holds [] [] := fun _ => rfl
  exact nothing.foldl (fun _ _ e holds => holds.addSection e) root.children

end Membership

end Description

end CommandStream
