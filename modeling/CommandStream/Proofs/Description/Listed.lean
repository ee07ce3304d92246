import CommandStream.Proofs.Description.Rearranged
import Mathlib.Data.List.Pairwise

/-!
# Listed and attributed symbols

A group has symbols that a list of groups gives it, and symbols that are attributed to it in lists of symbols. The index
gathers both in one pass and in document order, so the listed ones come first only as long as no attributed symbol stands
in front of the lists: it overtakes every symbol that is listed behind it. Of two symbols with one key the one that is
mentioned first wins, wherever it is mentioned.
-/

namespace CommandStream
open Markup

/-! ## Lists without repeats -/

theorem eraseDups_filter (p : String → Bool) (items : List String) : (items.filter p).eraseDups = items.eraseDups.filter p := by
  induction items using List.reverseRecOn with
  | nil => rfl
  | append_singleton items item ih =>
    rw [List.filter_append, eraseDups_snoc]
    cases kept : p item with
    | false =>
      have dropped : [item].filter p = [] := by simp [kept]
      rw [dropped, List.append_nil, ih]
      split
      · rfl
      · rw [List.filter_append, dropped, List.append_nil]
    | true =>
      have stays : [item].filter p = [item] := by simp [kept]
      have listed : item ∈ items.filter p ↔ item ∈ items := by simp [kept]
      rw [stays, eraseDups_snoc, ih]
      simp only [listed]
      split
      · rfl
      · rw [List.filter_append, stays]

/-- What is found first among items is found first among them without repeats. -/
theorem find?_eraseDups (p : String → Bool) (items : List String) : items.eraseDups.find? p = items.find? p := by
  induction items using List.reverseRecOn with
  | nil => rfl
  | append_singleton items item ih =>
    rw [eraseDups_snoc, List.find?_append]
    split
    · rename_i member
      rw [ih]
      cases found : items.find? p with
      | some first => rfl
      | none =>
        have missed : [item].find? p = none :=
          List.find?_eq_none.mpr fun other own => List.mem_singleton.mp own ▸ List.find?_eq_none.mp found item member
        rw [missed, Option.or_none]
    · rw [List.find?_append, ih]

/-- Without repeats, items stand in the order in which they first come. -/
theorem pairwise_eraseDups (items : List String) : items.eraseDups.Pairwise fun a b => items.idxOf a < items.idxOf b := by
  induction items using List.reverseRecOn with
  | nil => exact .nil
  | append_singleton items item ih =>
    have kept : items.eraseDups.Pairwise fun a b => (items ++ [item]).idxOf a < (items ++ [item]).idxOf b := by
      refine ih.imp_of_mem fun {a b} first second before => ?_
      rw [List.mem_eraseDups] at first second
      rwa [List.idxOf_append_of_mem first, List.idxOf_append_of_mem second]
    rw [eraseDups_snoc]
    split
    · exact kept
    · rename_i new
      refine List.pairwise_append.mpr ⟨kept, List.pairwise_singleton _ _, fun a first b own => ?_⟩
      rw [List.mem_eraseDups] at first
      rw [List.mem_singleton.mp own, List.idxOf_append_of_mem first, List.idxOf_append_of_notMem new]
      exact Nat.lt_of_lt_of_le (List.idxOf_lt_length_iff.mpr first) (Nat.le_add_right _ _)

/-- Items by the order of two lists of the same items: without repeats the lists are the same if no two items change places. -/
theorem eraseDups_eq_iff {items others : List String} (same : ∀ item, item ∈ items ↔ item ∈ others) :
    items.eraseDups = others.eraseDups ↔ ∀ a b, b ∈ items → items.idxOf a < items.idxOf b → others.idxOf a < others.idxOf b := by
  constructor
  · intro equal a b second before
    have first : a ∈ items := List.idxOf_lt_length_iff.mp (Nat.lt_of_lt_of_le before List.idxOf_le_length)
    have both : items.eraseDups.Pairwise fun a b => (items.idxOf a < items.idxOf b → others.idxOf a < others.idxOf b) ∧
        (items.idxOf b < items.idxOf a → others.idxOf b < others.idxOf a) := by
      have own := pairwise_eraseDups items
      have other := pairwise_eraseDups others
      rw [← equal] at other
      exact (List.pairwise_and_iff.mpr ⟨own, other⟩).imp fun ⟨here, there⟩ =>
        ⟨fun _ => there, fun against => absurd against (Nat.lt_asymm here)⟩
    have : Std.Symm fun a b => (items.idxOf a < items.idxOf b → others.idxOf a < others.idxOf b) ∧
        (items.idxOf b < items.idxOf a → others.idxOf b < others.idxOf a) := ⟨fun _ _ both => both.symm⟩
    have apart : a ≠ b := by
      rintro rfl
      exact Nat.lt_irrefl _ before
    exact (both.forall (List.mem_eraseDups.mpr first) (List.mem_eraseDups.mpr second) apart).1 before
  · intro ordered
    have perm : items.eraseDups.Perm others.eraseDups := by
      rw [List.perm_ext_iff_of_nodup (nodup_eraseDups _) (nodup_eraseDups _)]
      intro item
      rw [List.mem_eraseDups, List.mem_eraseDups, same]
    refine perm.eq_of_pairwise (fun a b _ _ before behind => absurd behind (Nat.lt_asymm before)) ?_ (pairwise_eraseDups others)
    exact (pairwise_eraseDups items).imp_of_mem fun {a b} _ second before => ordered a b (List.mem_eraseDups.mp second) before

/-- The items that are new behind others, without repeats. -/
def newBehind (front items : List String) : List String := (items.removeAll front).eraseDups

theorem eraseDups_behind (front items : List String) : (front ++ items).eraseDups = front.eraseDups ++ newBehind front items :=
  List.eraseDups_append

theorem newBehind_congr {front front' : List String} (same : ∀ item, item ∈ front ↔ item ∈ front') (items : List String) :
    newBehind front items = newBehind front' items := by
  have kept : items.removeAll front = items.removeAll front' := List.filter_congr fun item _ => by simp [same]
  rw [newBehind, newBehind, kept]

theorem newBehind_append (front first second : List String) : newBehind front (first ++ second) =
    newBehind front first ++ (newBehind front second).filter fun item => item ∉ newBehind front first := by
  have split : (first ++ second).removeAll front = first.removeAll front ++ second.removeAll front := List.filter_append ..
  have later : (second.removeAll front).removeAll (first.removeAll front) =
      (second.removeAll front).filter fun item => item ∉ newBehind front first :=
    List.filter_congr fun item _ => by simp [newBehind]
  rw [newBehind, split, List.eraseDups_append, later, eraseDups_filter]
  rfl

/-- If a list without repeats begins another, joining them in either order adds nothing. -/
theorem append_new_of_begins {first second : List String} (begins : first <+: second) (distinct : second.Nodup) :
    (first ++ second.filter fun item => item ∉ first) = second ++ first.filter fun item => item ∉ second := by
  obtain ⟨rest, rfl⟩ := begins
  obtain ⟨-, -, apart⟩ := List.nodup_append.mp distinct
  have own : (first.filter fun item => item ∉ first) = [] := by simp
  have others : (rest.filter fun item => item ∉ first) = rest :=
    List.filter_eq_self.mpr fun item member => decide_eq_true fun shared => apart item shared item member rfl
  have nothing : (first.filter fun item => item ∉ first ++ rest) = [] :=
    List.filter_eq_nil_iff.mpr fun item member => by simp [member]
  rw [List.filter_append, own, others, nothing, List.nil_append, List.append_nil]

/-- Items of two lists in both orders come to the same exactly if the new ones of one list begin those of the other. -/
theorem newBehind_swap_iff (front first second : List String) :
    newBehind front (first ++ second) = newBehind front (second ++ first) ↔
      newBehind front first <+: newBehind front second ∨ newBehind front second <+: newBehind front first := by
  rw [newBehind_append, newBehind_append]
  constructor
  · intro equal
    have begins := List.prefix_append (newBehind front first) ((newBehind front second).filter fun item =>
      item ∉ newBehind front first)
    rw [equal] at begins
    exact List.prefix_or_prefix_of_prefix begins (List.prefix_append _ _)
  · rintro (begins | begins)
    · exact append_new_of_begins begins (nodup_eraseDups _)
    · exact (append_new_of_begins begins (nodup_eraseDups _)).symm

/-- The order of two items behind the same others. -/
theorem idxOf_behind {front items others : List String} {a b : String}
    (later : items.idxOf a < items.idxOf b → others.idxOf a < others.idxOf b)
    (before : (front ++ items).idxOf a < (front ++ items).idxOf b) : (front ++ others).idxOf a < (front ++ others).idxOf b := by
  rw [List.idxOf_append, List.idxOf_append] at before ⊢
  by_cases second : b ∈ front
  · have bound := List.idxOf_lt_length_iff.mpr second
    rw [if_pos second] at before ⊢
    by_cases first : a ∈ front
    · rwa [if_pos first] at before ⊢
    · rw [if_neg first] at before
      omega
  · rw [if_neg second] at before ⊢
    by_cases first : a ∈ front
    · have bound := List.idxOf_lt_length_iff.mpr first
      rw [if_pos first]
      omega
    · rw [if_neg first] at before ⊢
      exact Nat.add_lt_add_right (later (Nat.lt_of_add_lt_add_right before)) _

namespace Description.Mention

/-! ## Symbols of a group -/

/-- The symbols that a child of the root says to be in a group. -/
def symbolsIn (group : String) (e : Element) : List String :=
  (ofSection e).filterMap fun mention => if mention.1 = group then mention.2 else none

/-- The symbols that some children of the root say to be in a group, in document order. -/
def said (group : String) (children : List Element) : List String := children.flatMap (symbolsIn group)

/-- The symbols that a description says to be in a group. -/
def mentioned (group : String) (root : Element) : List String := said group root.children

/-- The symbols that lists of groups give a group. -/
def listed (group : String) (root : Element) : List String := said group (root.childrenNamed "groups")

/-- The symbols that are attributed to a group. -/
def attributed (group : String) (root : Element) : List String := said group (root.childrenNamed "enums")

/-- A symbol that is mentioned before a listed one is, without being listed before it. -/
structure Overtakes (group : String) (root : Element) (symbol other : String) : Prop where
  listed : other ∈ listed group root
  unlisted : ¬ (Mention.listed group root).idxOf symbol < (Mention.listed group root).idxOf other
  before : (mentioned group root).idxOf symbol < (mentioned group root).idxOf other

variable {group symbol : String} {root : Element} {children : List Element}

theorem members_eq (group : String) (root : Element) :
    Membership.members (Membership.ofRoot root) group = (mentioned group root).eraseDups := by
  rw [(Membership.holds_ofRoot root).members, members, ofRoot, List.filterMap_flatMap]
  rfl

/-- Only lists of groups and of symbols say something of a group. -/
theorem tag_of_mem_symbolsIn {e : Element} (inside : symbol ∈ symbolsIn group e) : e.tag = "groups" ∨ e.tag = "enums" := by
  by_contra other
  obtain ⟨groups, enums⟩ := not_or.mp other
  rw [symbolsIn, ofSection, if_neg groups, if_neg enums] at inside
  cases inside

theorem said_cons (group : String) (e : Element) (children : List Element) :
    said group (e :: children) = symbolsIn group e ++ said group children := List.flatMap_cons

theorem mem_mentioned_iff : symbol ∈ mentioned group root ↔ symbol ∈ listed group root ++ attributed group root := by
  rw [List.mem_append]
  constructor
  · intro member
    obtain ⟨e, child, inside⟩ := List.mem_flatMap.mp member
    exact (tag_of_mem_symbolsIn inside).imp
      (fun tag => List.mem_flatMap.mpr ⟨e, List.mem_filter.mpr ⟨child, beq_iff_eq.mpr tag⟩, inside⟩)
      (fun tag => List.mem_flatMap.mpr ⟨e, List.mem_filter.mpr ⟨child, beq_iff_eq.mpr tag⟩, inside⟩)
  · rintro (member | member) <;>
    · obtain ⟨e, child, inside⟩ := List.mem_flatMap.mp member
      exact List.mem_flatMap.mpr ⟨e, (List.mem_filter.mp child).1, inside⟩

/-- Two symbols that no list gives a group are attributed to it in the order in which they are mentioned. -/
theorem idxOf_attributed {a b : String} (first : a ∉ said group (children.filter fun e => e.tag == "groups"))
    (second : b ∉ said group (children.filter fun e => e.tag == "groups"))
    (before : (said group children).idxOf a < (said group children).idxOf b) :
    (said group (children.filter fun e => e.tag == "enums")).idxOf a <
      (said group (children.filter fun e => e.tag == "enums")).idxOf b := by
  induction children with
  | nil => exact before
  | cons e rest ih =>
    rw [said_cons] at before
    by_cases enums : e.tag = "enums"
    · have apart : ¬ e.tag == "groups" := by rw [enums]; decide
      simp only [List.filter_cons, if_neg apart] at first second
      simp only [List.filter_cons, if_pos (beq_iff_eq.mpr enums), said_cons]
      exact idxOf_behind (ih first second) before
    · -- nothing is attributed here, and neither of both symbols is listed
      have silent : a ∉ symbolsIn group e ∧ b ∉ symbolsIn group e ∧ a ∉ said group (rest.filter fun e => e.tag == "groups") ∧
          b ∉ said group (rest.filter fun e => e.tag == "groups") := by
        by_cases groups : e.tag = "groups"
        · simp only [List.filter_cons, if_pos (beq_iff_eq.mpr groups), said_cons, List.mem_append, not_or] at first second
          exact ⟨first.1, second.1, first.2, second.2⟩
        · have nothing : ∀ symbol, symbol ∉ symbolsIn group e := fun symbol inside =>
            (tag_of_mem_symbolsIn inside).elim groups enums
          simp only [List.filter_cons, if_neg fun equal => groups (beq_iff_eq.mp equal)] at first second
          exact ⟨nothing a, nothing b, first, second⟩
      rw [List.idxOf_append_of_notMem silent.1, List.idxOf_append_of_notMem silent.2.1] at before
      simp only [List.filter_cons, if_neg fun equal => enums (beq_iff_eq.mp equal)]
      exact ih silent.2.2.1 silent.2.2.2 (Nat.lt_of_add_lt_add_left before)

/-- The members of a group are the listed ones and behind them the ones that are only attributed to it, exactly if no symbol
overtakes a listed one. -/
theorem listed_first_iff (group : String) (root : Element) :
    (mentioned group root).eraseDups = (listed group root ++ attributed group root).eraseDups ↔
      ¬ ∃ symbol other, Overtakes group root symbol other := by
  rw [eraseDups_eq_iff fun symbol => mem_mentioned_iff]
  constructor
  · rintro ordered ⟨symbol, other, inside, unlisted, before⟩
    have behind := ordered symbol other (mem_mentioned_iff.mpr (List.mem_append_left _ inside)) before
    have own : symbol ∈ listed group root := by
      by_contra absent
      have bound := List.idxOf_lt_length_iff.mpr inside
      rw [List.idxOf_append_of_notMem absent, List.idxOf_append_of_mem inside] at behind
      omega
    rw [List.idxOf_append_of_mem own, List.idxOf_append_of_mem inside] at behind
    exact unlisted behind
  · intro overtaken symbol other known before
    by_cases inside : other ∈ listed group root
    · -- then the first one is listed in front of the other
      have order : (listed group root).idxOf symbol < (listed group root).idxOf other := by
        by_contra behind
        exact overtaken ⟨symbol, other, inside, behind, before⟩
      have own : symbol ∈ listed group root :=
        List.idxOf_lt_length_iff.mp (Nat.lt_trans order (List.idxOf_lt_length_iff.mpr inside))
      rwa [List.idxOf_append_of_mem own, List.idxOf_append_of_mem inside]
    · by_cases own : symbol ∈ listed group root
      · have bound := List.idxOf_lt_length_iff.mpr own
        rw [List.idxOf_append_of_mem own, List.idxOf_append_of_notMem inside]
        omega
      · rw [List.idxOf_append_of_notMem own, List.idxOf_append_of_notMem inside]
        exact Nat.add_lt_add_left (idxOf_attributed own inside before) _

/-- If all lists of groups stand in front of the lists of symbols, the listed symbols come first. -/
theorem mentioned_of_ordered (ordered : root.children.filter Membership.isSection =
    root.childrenNamed "groups" ++ root.childrenNamed "enums") (group : String) :
    mentioned group root = listed group root ++ attributed group root := by
  have sections : said group (root.children.filter Membership.isSection) = said group root.children := by
    refine flatMap_filter fun e _ other => List.eq_nil_iff_forall_not_mem.mpr fun symbol inside => ?_
    rw [Membership.isSection, Bool.or_eq_false_iff, beq_eq_false_iff_ne, beq_eq_false_iff_ne] at other
    exact (tag_of_mem_symbolsIn inside).elim other.1 other.2
  rw [mentioned, ← sections, ordered]
  exact List.flatMap_append

/-- The symbol that is first mentioned with a group among those that the header defines with a key. -/
def first? (r : Registry) (key group : String) (children : List Element) : Option String :=
  (said group children).find? fun symbol => symbol ∈ r.defines ∧ r.keyOf symbol = key

theorem first?_append (r : Registry) (key group : String) (children others : List Element) :
    first? r key group (children ++ others) = (first? r key group children).or (first? r key group others) := by
  rw [first?, said, List.flatMap_append, List.find?_append]
  rfl

end Description.Mention

namespace Refinement
open Description Mention

variable {r : Registry} {root root' : Element} {front back : List Element} {symbols groups : Element}

/-- Under a key the class of a group has the first of its symbols with the key. -/
theorem find?_class (r : Registry) (key group : String) (root : Element) :
    Keyed.find? (groupOf r group ((Membership.ofRoot root).members group)).values key = first? r key group root.children := by
  rw [find?_groupOf, members_eq, ← eraseDups_filter, find?_eraseDups, List.find?_filter]
  simp only [first?, mentioned, decide_eq_true_eq]

/-- Two descriptions that differ in a list of groups that stands behind a list of symbols in one and in front of it in the other. -/
structure Exchanged (root root' : Element) (front : List Element) (symbols groups : Element) (back : List Element) : Prop where
  attributes : symbols.tag = "enums"
  lists : groups.tag = "groups"
  before : root.children = front ++ symbols :: groups :: back
  after : root'.children = front ++ groups :: symbols :: back

namespace Exchanged

variable (exchanged : Exchanged root root' front symbols groups back)
include exchanged

theorem commands : commandsOf root' = commandsOf root := by
  have both : root'.childrenNamed "commands" = root.childrenNamed "commands" := by
    simp [Element.childrenNamed, exchanged.before, exchanged.after, exchanged.attributes, exchanged.lists]
  rw [commandsOf, commandsOf, both]

theorem described (group : String) :
    Keyed.hasKey (Membership.ofRoot root') group = Keyed.hasKey (Membership.ofRoot root) group := by
  have perm : root'.children.Perm root.children := by
    rw [exchanged.before, exchanged.after]
    exact (List.Perm.swap _ _ _).append_left front
  have mentions : (Mention.ofRoot root').Perm (Mention.ofRoot root) := perm.flatMap_right _
  rw [Bool.eq_iff_iff, (Membership.holds_ofRoot root').hasKey, (Membership.holds_ofRoot root).hasKey]
  exact (mentions.map Prod.fst).mem_iff

theorem keys_enums (unrefined : r.enums = []) :
    Keyed.keys (ofRoot r root').registry.enums = Keyed.keys (ofRoot r root).registry.enums := by
  simp only [Resolved.ofRoot unrefined, exchanged.commands, exchanged.described, Keyed.keys, List.map_map, Function.comp_def]

theorem members_iff (group : String) : (mentioned group root').eraseDups = (mentioned group root).eraseDups ↔
    newBehind (said group front) (symbolsIn group symbols) <+: newBehind (said group front) (symbolsIn group groups) ∨
      newBehind (said group front) (symbolsIn group groups) <+: newBehind (said group front) (symbolsIn group symbols) := by
  have cut (first second : Element) : (said group (front ++ first :: second :: back)).eraseDups =
      (said group front).eraseDups ++ newBehind (said group front) (symbolsIn group first ++ symbolsIn group second) ++
        newBehind (said group front ++ (symbolsIn group first ++ symbolsIn group second)) (said group back) := by
    rw [← eraseDups_behind, ← eraseDups_behind]
    simp only [said, List.flatMap_append, List.flatMap_cons, List.append_assoc]
  have last : newBehind (said group front ++ (symbolsIn group groups ++ symbolsIn group symbols)) (said group back) =
      newBehind (said group front ++ (symbolsIn group symbols ++ symbolsIn group groups)) (said group back) :=
    newBehind_congr (fun symbol => (List.perm_append_comm.append_left _).mem_iff) _
  rw [mentioned, mentioned, exchanged.before, exchanged.after, cut, cut, last, List.append_left_inj, List.append_right_inj,
    newBehind_swap_iff]
  exact or_comm

theorem first?_iff (r : Registry) (key group : String) :
    first? r key group root'.children = first? r key group root.children ↔
      (first? r key group front).isSome ∨ first? r key group [symbols] = none ∨ first? r key group [groups] = none ∨
        first? r key group [symbols] = first? r key group [groups] := by
  have cut (first second : Element) : first? r key group (front ++ first :: second :: back) =
      (first? r key group front).or ((first? r key group [first]).or ((first? r key group [second]).or
        (first? r key group back))) := by
    rw [← first?_append, ← first?_append, ← first?_append]
    rfl
  rw [exchanged.before, exchanged.after, cut, cut]
  cases first? r key group front <;> cases first? r key group [symbols] <;> cases first? r key group [groups] <;>
    simp [eq_comm]

end Exchanged

/-- The groups of a refined registry, each with the class that its members make. -/
theorem class_of_find? {class_ : EnumGroup} {group : String} (unrefined : r.enums = [])
    (found : Keyed.find? (ofRoot r root).registry.enums group = some class_) :
    class_ = groupOf r group ((Membership.ofRoot root).members group) := by
  have member := mem_of_lookup found
  rw [Resolved.ofRoot unrefined] at member
  obtain ⟨_, -, same⟩ := List.mem_map.mp member
  cases same
  rfl

/-- **Listed symbols come first unless they are overtaken.** The members of a group are the symbols that are said to be in it,
in document order and without repeats, wherever lists of groups and lists of symbols stand: the same symbols as the listed
ones and the attributed ones together. The listed ones come first and the others behind them exactly if no symbol that is
mentioned before a listed one fails to be listed before it, and so if all lists of groups stand in front of the lists of
symbols. In the class of a resolved group a key stands for the symbol with this key that is mentioned first. A list of
groups moved past the list of symbols in front of it keeps the members of a group exactly if the symbols that one of both
says anew begin those that the other says anew; it keeps the symbol of a key exactly if the key has one further in front,
or one of both lists has none for it, or both have the same. -/
theorem listed_first_unless_overtaken (start : String) (lines : List String) (root : Element) :
    let r := (Header.Extraction.ofLines (.empty start) lines).state.registry
    let members := fun root => (Membership.ofRoot root).members
    let classes := fun root => (ofRoot r root).registry.enums
    (∀ group, members root group = (mentioned group root).eraseDups ∧
      (members root group).Perm (listed group root ++ attributed group root).eraseDups ∧
      (members root group = (listed group root ++ attributed group root).eraseDups ↔
        ¬ ∃ symbol other, Overtakes group root symbol other)) ∧
    (root.children.filter Membership.isSection = root.childrenNamed "groups" ++ root.childrenNamed "enums" →
      ∀ group, members root group = (listed group root ++ attributed group root).eraseDups) ∧
    (∀ group class_, Keyed.find? (classes root) group = some class_ →
      ∀ key, Keyed.find? class_.values key = first? r key group root.children) ∧
    ∀ root' front symbols groups back, Exchanged root root' front symbols groups back →
      Keyed.keys (classes root') = Keyed.keys (classes root) ∧
      ∀ group, (members root' group = members root group ↔
          newBehind (said group front) (symbolsIn group symbols) <+: newBehind (said group front) (symbolsIn group groups) ∨
          newBehind (said group front) (symbolsIn group groups) <+: newBehind (said group front) (symbolsIn group symbols)) ∧
        ∀ class_ class_', Keyed.find? (classes root) group = some class_ → Keyed.find? (classes root') group = some class_' →
          class_'.name = class_.name ∧ (members root' group = members root group → class_' = class_) ∧
          ∀ key, (Keyed.find? class_'.values key = Keyed.find? class_.values key ↔
            (first? r key group front).isSome ∨ first? r key group [symbols] = none ∨ first? r key group [groups] = none ∨
              first? r key group [symbols] = first? r key group [groups]) := by
  intro r members classes
  have unrefined : r.enums = [] := Header.Extraction.enums_ofLines (.empty start) lines
  refine ⟨fun group => ⟨members_eq group root, ?_, ?_⟩, fun ordered group => ?_, fun group class_ found key => ?_, ?_⟩
  · simp only [members, members_eq]
    rw [List.perm_ext_iff_of_nodup (nodup_eraseDups _) (nodup_eraseDups _)]
    intro symbol
    rw [List.mem_eraseDups, List.mem_eraseDups, mem_mentioned_iff]
  · simp only [members, members_eq]
    exact listed_first_iff group root
  · simp only [members, members_eq]
    rw [mentioned_of_ordered ordered]
  · rw [class_of_find? unrefined found]
    exact find?_class r key group root
  · intro root' front symbols groups back exchanged
    refine ⟨exchanged.keys_enums unrefined, fun group => ⟨?_, fun class_ class_' found found' => ?_⟩⟩
    · simp only [members, members_eq]
      exact exchanged.members_iff group
    · rw [class_of_find? unrefined found, class_of_find? unrefined found']
      refine ⟨by rw [name_groupOf, name_groupOf], fun same => congrArg (groupOf r group) same, fun key => ?_⟩
      rw [find?_class, find?_class]
      exact exchanged.first?_iff r key group

end Refinement

/-! ## A symbol attributed in front of a list -/

namespace AttributedFirst
open Description Mention

/-- A header with two symbols of one key. -/
def lines : List String := ["#define GL_FOO_BAR 1", "#define GL_FOO__BAR 2"]

/-- The one symbol, attributed to a group. -/
def symbols : Element := .mk "enums" [] "" [.mk "enum" [("name", "GL_FOO__BAR"), ("group", "G")] "" []]

/-- The group with the other symbol. -/
def groups : Element := .mk "groups" [] "" [.mk "group" [("name", "G")] "" [.mk "enum" [("name", "GL_FOO_BAR")] "" []]]

def root : Element := .mk "registry" [] "" [symbols, groups]

/-- The description with the list of groups in front. -/
def moved : Element := .mk "registry" [] "" [groups, symbols]

/-- The attributed symbol overtakes the listed one and wins the key; with the list of groups moved past it, it is the other way. -/
theorem attributed_symbol_wins :
    let r := (Header.Extraction.ofLines (.empty "gl") lines).state.registry
    listed "G" root = ["GL_FOO_BAR"] ∧ attributed "G" root = ["GL_FOO__BAR"] ∧
    (Membership.ofRoot root).members "G" = ["GL_FOO__BAR", "GL_FOO_BAR"] ∧
    (Membership.ofRoot moved).members "G" = ["GL_FOO_BAR", "GL_FOO__BAR"] ∧
    ((Refinement.ofRoot r root).resolve "G").1 = some ⟨"G", [("FooBar", "GL_FOO__BAR")]⟩ ∧
    ((Refinement.ofRoot r moved).resolve "G").1 = some ⟨"G", [("FooBar", "GL_FOO_BAR")]⟩ := by
  decide +kernel

end AttributedFirst

end CommandStream
