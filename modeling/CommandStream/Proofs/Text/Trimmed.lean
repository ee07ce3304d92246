import CommandStream.Text.Edit
import Mathlib.Data.List.DropRight

/-!
# Trimmed texts

A text is trimmed when it begins and ends with no blank. Trimming gives such a text, and takes away
whatever blanks are put around one. Words are trimmed, as no word character is a blank.
-/

namespace CommandStream.Text

/-! ## Blanks and word characters -/

/-- Whether no range of a list meets a range of another. -/
def apart (ranges others : List (Nat × Nat)) : Bool :=
  ranges.all fun range => others.all fun other => decide (range.2 < other.1) || decide (other.2 < range.1)

theorem not_inRanges_of_apart {ranges others : List (Nat × Nat)} (separate : apart ranges others = true) {code : Nat}
    (inside : Category.inRanges ranges code = true) : Category.inRanges others code = false := by
  obtain ⟨range, member, low, high⟩ := Category.inRanges_iff.mp inside
  rw [Bool.eq_false_iff]
  intro both
  obtain ⟨other, listed, low', high'⟩ := Category.inRanges_iff.mp both
  have around := List.all_eq_true.mp (List.all_eq_true.mp separate range member) other listed
  rw [Bool.or_eq_true, decide_eq_true_eq, decide_eq_true_eq] at around
  omega

theorem not_isWord_of_isBlank {c : Char} (blank : isBlank c = true) : isWord c = false := by
  have outside : ∀ ranges, apart Category.blank ranges = true → Category.inRanges ranges c.toNat = false :=
    fun _ separate => not_inRanges_of_apart separate blank
  have line : (c == '_') = false := by
    rw [beq_eq_false_iff_ne]
    rintro rfl
    exact absurd blank (by decide)
  rw [isWord, isAlphanumeric, line, outside _ (by decide +kernel), outside _ (by decide +kernel),
    outside _ (by decide +kernel), outside _ (by decide +kernel)]
  rfl

theorem not_isBlank_of_isWord {c : Char} (word : isWord c = true) : isBlank c = false := by
  rw [Bool.eq_false_iff]
  intro blank
  rw [not_isWord_of_isBlank blank] at word
  cases word

theorem blank_space : ∀ c ∈ [' '], isBlank c = true :=
  List.forall_mem_singleton.mpr (by decide)

/-! ## Trimming -/

/-- A text that neither begins nor ends with a blank. -/
structure Trimmed (cs : List Char) : Prop where
  head : ∀ c ∈ cs.head?, isBlank c = false
  last : ∀ c ∈ cs.getLast?, isBlank c = false

theorem Trimmed.of_words {cs : List Char} (word : ∀ c ∈ cs, isWord c = true) : Trimmed cs :=
  ⟨fun c first => not_isBlank_of_isWord (word c (List.mem_of_mem_head? first)),
    fun c last => not_isBlank_of_isWord (word c (List.mem_of_getLast? last))⟩

theorem dropWhile_of_head {p : Char → Bool} {cs : List Char} (head : ∀ c ∈ cs.head?, p c = false) :
    cs.dropWhile p = cs := by
  cases cs with
  | nil => rfl
  | cons c rest => exact List.dropWhile_cons_of_neg (by rw [head c rfl]; exact Bool.false_ne_true)

theorem head_dropWhile {p : Char → Bool} {cs : List Char} {c : Char} (first : c ∈ (cs.dropWhile p).head?) :
    p c = false := by
  have stops := List.head?_dropWhile_not p cs
  rw [first] at stops
  exact stops

theorem trimmed_trim (cs : List Char) : Trimmed (trim cs) := by
  constructor
  · intro c first
    obtain ⟨tail, split⟩ := List.rdropWhile_prefix isBlank (cs.dropWhile isBlank)
    refine @head_dropWhile isBlank cs c ?_
    rw [← split, List.head?_append]
    exact congrArg (·.or tail.head?) first
  · intro c last
    rw [trim, trimEnd, List.getLast?_reverse] at last
    exact head_dropWhile last

/-- Every character of a trimmed text stands in the text. -/
theorem mem_of_mem_trim {cs : List Char} {c : Char} (member : c ∈ trim cs) : c ∈ cs :=
  (List.dropWhile_suffix isBlank).subset ((List.rdropWhile_prefix isBlank _).subset member)

/-- Trimming takes away the blanks around a trimmed text. -/
theorem Trimmed.trim_padded {cs : List Char} (trimmed : Trimmed cs) {lead tail : List Char}
    (before : ∀ c ∈ lead, isBlank c = true) (behind : ∀ c ∈ tail, isBlank c = true) : trim (lead ++ cs ++ tail) = cs := by
  have ends : trimEnd (cs ++ tail) = cs := by
    have backwards : ∀ c ∈ tail.reverse, isBlank c = true := fun c member => behind c (List.mem_reverse.mp member)
    have stops : cs.reverse.dropWhile isBlank = cs.reverse :=
      dropWhile_of_head (List.head?_reverse ▸ trimmed.last)
    rw [trimEnd, List.reverse_append, List.dropWhile_append_of_pos backwards, stops, List.reverse_reverse]
  rw [trim, List.append_assoc, List.dropWhile_append_of_pos before]
  cases cs with
  | nil =>
    rw [List.nil_append, List.dropWhile_eq_nil_iff.mpr behind]
    rfl
  | cons c rest =>
    have stops : (c :: rest ++ tail).dropWhile isBlank = c :: rest ++ tail := dropWhile_of_head trimmed.head
    rwa [stops]

theorem Trimmed.trim_behind {cs : List Char} (trimmed : Trimmed cs) {tail : List Char}
    (behind : ∀ c ∈ tail, isBlank c = true) : trim (cs ++ tail) = cs :=
  trimmed.trim_padded (List.forall_mem_nil _) behind

theorem Trimmed.trim_before {cs : List Char} (trimmed : Trimmed cs) {lead : List Char}
    (before : ∀ c ∈ lead, isBlank c = true) : trim (lead ++ cs) = cs := by
  have padded := trimmed.trim_padded before (List.forall_mem_nil _)
  rwa [List.append_nil] at padded

theorem Trimmed.trim_self {cs : List Char} (trimmed : Trimmed cs) : trim cs = cs :=
  trimmed.trim_before (List.forall_mem_nil _)

/-- Two texts side by side have the ends of the outer ones. -/
theorem Trimmed.append {first middle last : List Char} (left : Trimmed first) (right : Trimmed last) (some_first : first ≠ [])
    (some_last : last ≠ []) : Trimmed (first ++ middle ++ last) := by
  constructor
  · intro c head
    cases first with
    | nil => exact absurd rfl some_first
    | cons => exact left.head c head
  · intro c end_
    rw [List.getLast?_append] at end_
    cases ends : last.getLast? with
    | none => exact absurd (List.getLast?_eq_none_iff.mp ends) some_last
    | some d =>
      rw [ends] at end_
      exact right.last c (ends.trans end_)

/-! ## Pieces -/

theorem pieces_cons_self (separator : Char) (rest : List Char) :
    pieces separator (separator :: rest) = [] :: pieces separator rest := by
  rw [pieces, if_pos rfl]

theorem pieces_cons_of_ne {separator c : Char} (apart : c ≠ separator) (rest : List Char) :
    pieces separator (c :: rest) = (pieces separator rest).modifyHead (c :: ·) := by
  rw [pieces, if_neg apart]
  cases cut : pieces separator rest with
  | nil => exact absurd cut (pieces_ne_nil separator rest)
  | cons piece others => rfl

theorem pieces_of_not_mem {separator : Char} {cs : List Char} (absent : separator ∉ cs) : pieces separator cs = [cs] := by
  induction cs with
  | nil => rfl
  | cons c rest ih =>
    rw [List.mem_cons, not_or] at absent
    rw [pieces_cons_of_ne fun same => absent.1 same.symm, ih absent.2, List.modifyHead_cons]

/-- A separator cuts a text into what stands on either side of it. -/
theorem pieces_append_cons (separator : Char) (cs rest : List Char) :
    pieces separator (cs ++ separator :: rest) = pieces separator cs ++ pieces separator rest := by
  induction cs with
  | nil => exact pieces_cons_self separator rest
  | cons c cs ih =>
    rw [List.cons_append]
    by_cases same : c = separator
    · rw [same, pieces_cons_self, pieces_cons_self, ih, List.cons_append]
    · rw [pieces_cons_of_ne same, pieces_cons_of_ne same, ih]
      cases cut : pieces separator cs with
      | nil => exact absurd cut (pieces_ne_nil separator cs)
      | cons piece others => rfl

/-- A piece without the separator, and the pieces behind it. -/
theorem pieces_append {separator : Char} {piece : List Char} (absent : separator ∉ piece) (rest : List Char) :
    pieces separator (piece ++ separator :: rest) = piece :: pieces separator rest := by
  rw [pieces_append_cons, pieces_of_not_mem absent, List.singleton_append]

/-- The pieces together are the text without its separators. -/
theorem flatten_pieces (separator : Char) (cs : List Char) :
    (pieces separator cs).flatten = cs.filter fun c => c != separator := by
  induction cs with
  | nil => rfl
  | cons c rest ih =>
    by_cases same : c = separator
    · rw [same, pieces_cons_self, List.flatten_cons, List.nil_append, ih, List.filter_cons_of_neg (by simp)]
    · rw [pieces_cons_of_ne same, List.filter_cons_of_pos (by simp [same]), ← ih]
      cases cut : pieces separator rest with
      | nil => exact absurd cut (pieces_ne_nil separator rest)
      | cons piece others => rfl

/-- A piece has no separator, and nothing that the text does not have. -/
theorem pieces_spec {separator : Char} {cs piece : List Char} (member : piece ∈ pieces separator cs) :
    ∀ c ∈ piece, c ≠ separator ∧ c ∈ cs := by
  induction cs generalizing piece with
  | nil =>
    cases List.mem_singleton.mp member
    exact fun _ inside => nomatch inside
  | cons d rest ih =>
    have wider : ∀ {other}, other ∈ pieces separator rest → ∀ c ∈ other, c ≠ separator ∧ c ∈ d :: rest :=
      fun listed c inside => (ih listed c inside).imp id (List.mem_cons_of_mem d)
    unfold pieces at member
    split at member
    · rcases List.mem_cons.mp member with rfl | listed
      · exact fun _ inside => nomatch inside
      · exact wider listed
    · rename_i apart
      split at member
      · rename_i none_
        exact absurd none_ (pieces_ne_nil separator rest)
      · rename_i first others cut
        rcases List.mem_cons.mp member with rfl | listed
        · intro c inside
          rcases List.mem_cons.mp inside with rfl | inside
          · exact ⟨apart, List.mem_cons_self⟩
          · exact wider (cut ▸ List.mem_cons_self) c inside
        · exact wider (cut ▸ List.mem_cons_of_mem _ listed)

end CommandStream.Text
