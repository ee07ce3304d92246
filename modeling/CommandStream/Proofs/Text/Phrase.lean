import CommandStream.Text.Edit
import Mathlib.Data.List.Count

/-!
# Phrases in a text

What a text begins with, what it ends with and what it mentions can be told from a part of it that is long enough, or from
the characters that it lacks.
-/

namespace CommandStream

/-- Whether a text mentions a phrase. -/
def mentions (phrase text : String) : Bool :=
  Text.occursIn phrase.toList text.toList

/-- A text is long enough to tell whether it begins with another one. -/
structure Tells (text start : String) (answer : Bool) : Prop where
  long : start.length ≤ text.length
  begins : beginsWith text start = answer

/-- It tells so also with more behind it. -/
theorem Tells.append {text start : String} {answer : Bool} (tells : Tells text start answer) (rest : String) :
    Tells (text ++ rest) start answer := by
  constructor
  · rw [String.length_append]
    exact Nat.le_add_right_of_le tells.long
  · have bound : start.toList.length ≤ text.toList.length := tells.long
    rw [← tells.begins, beginsWith, beginsWith, String.toList_append, Bool.eq_iff_iff, List.isPrefixOf_iff_prefix,
      List.isPrefixOf_iff_prefix]
    exact ⟨fun whole => List.prefix_of_prefix_length_le whole (List.prefix_append _ _) bound,
      fun part => part.trans (List.prefix_append _ _)⟩

/-- A text is long enough to tell whether it ends with another one. -/
structure Closes (text ending : String) (answer : Bool) : Prop where
  long : ending.length ≤ text.length
  ends : finishesWith text ending = answer

/-- It tells so also with more in front of it. -/
theorem Closes.prepend {text ending : String} {answer : Bool} (closes : Closes text ending answer) (front : String) :
    Closes (front ++ text) ending answer := by
  constructor
  · rw [String.length_append]
    exact Nat.le_add_left_of_le closes.long
  · have bound : ending.toList.length ≤ text.toList.length := closes.long
    rw [← closes.ends, finishesWith, finishesWith, String.toList_append, Bool.eq_iff_iff, List.isSuffixOf_iff_suffix,
      List.isSuffixOf_iff_suffix]
    exact ⟨fun whole => List.suffix_of_suffix_length_le whole (List.suffix_append _ _) bound,
      fun part => part.trans (List.suffix_append _ _)⟩

namespace Text

theorem occursIn_iff {pattern cs : List Char} : occursIn pattern cs = true ↔ pattern <:+: cs := by
  induction cs with
  | nil => rw [occursIn, List.isEmpty_iff, List.infix_nil]
  | cons c rest ih => rw [occursIn, Bool.or_eq_true, List.isPrefixOf_iff_prefix, ih, List.infix_cons_iff]

end Text

theorem mentions_of_append (front phrase behind : String) : mentions phrase (front ++ phrase ++ behind) = true := by
  rw [mentions, Text.occursIn_iff, String.toList_append, String.toList_append]
  exact ⟨_, _, rfl⟩

/-- A text that lacks a character of a phrase does not mention it. -/
theorem mentions_of_lacking {phrase text : String} {c : Char} (part : c ∈ phrase.toList) (lacking : c ∉ text.toList) :
    mentions phrase text = false := by
  rw [mentions, Bool.eq_false_iff]
  exact fun occurs => lacking ((Text.occursIn_iff.mp occurs).subset part)

/-- A text is cut in one way at a character behind equally many of its kind. -/
theorem eq_of_count {c : Char} {first first' last last' : List Char} (same : first ++ c :: last = first' ++ c :: last')
    (counts : first.count c = first'.count c) : first = first' ∧ last = last' := by
  -- what one first part has more than the other would begin with the character
  have nothing : ∀ {front behind more : List Char}, c :: behind = more ++ c :: front → more.count c = 0 → more = [] := by
    intro front behind more split without
    cases more with
    | nil => rfl
    | cons d more =>
      cases split
      rw [List.count_cons_self] at without
      omega
  rcases List.append_eq_append_iff.mp same with ⟨more, rfl, behind⟩ | ⟨more, rfl, behind⟩
  · rw [List.count_append] at counts
    obtain rfl := nothing behind (by omega)
    exact ⟨(List.append_nil _).symm, (List.cons_inj_right c).mp behind⟩
  · rw [List.count_append] at counts
    obtain rfl := nothing behind (by omega)
    exact ⟨List.append_nil _, ((List.cons_inj_right c).mp behind).symm⟩

/-- A character of joined texts is one of theirs or one of those between them. -/
theorem mem_toList_intercalate {c : Char} {separator : String} {texts : List String}
    (member : c ∈ (separator.intercalate texts).toList) : c ∈ separator.toList ∨ ∃ text ∈ texts, c ∈ text.toList := by
  rw [String.toList_intercalate] at member
  induction texts with
  | nil => cases member
  | cons text rest ih =>
    cases rest with
    | nil => exact .inr ⟨text, List.mem_cons_self, by simpa using member⟩
    | cons next rest =>
      rw [List.map_cons, List.map_cons, List.intercalate_cons_cons] at member
      rcases List.mem_append.mp member with here | later
      · exact (List.mem_append.mp here).symm.imp_right fun inside => ⟨text, List.mem_cons_self, inside⟩
      · exact (ih later).imp_right fun ⟨other, among, inside⟩ => ⟨other, List.mem_cons_of_mem _ among, inside⟩

end CommandStream
