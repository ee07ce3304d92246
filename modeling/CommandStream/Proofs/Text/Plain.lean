import CommandStream.Text.CaseMap
import CommandStream.Text.Class

/-!
# Plain characters

Letters, digits and low lines in ASCII, as the names of emitted code are made of. Among them the classes and the case
mappings of all characters are those of ASCII.
-/

namespace CommandStream.Text

/-- Letters, digits and low lines. -/
def isPlain (c : Char) : Bool :=
  c.isAlphanum || c == '_'

/-- Identifiers of emitted code: plain characters, at least one and no digit first. -/
def isPlainIdentifier (s : String) : Bool :=
  match s.toList with
  | [] => false
  | c :: rest => !c.isDigit && (c :: rest).all isPlain

theorem forall_ascii {P : Char → Prop} (each : ∀ n < 128, P (Char.ofNat n)) {c : Char} (ascii : c.toNat < 128) : P c := by
  have own := each c.toNat ascii
  rwa [Char.ofNat_toNat] at own

/-- The ranges of a category that begin behind ASCII do not matter for its characters. -/
theorem inRanges_ascii {code : Nat} (ascii : code < 128) (ranges : List (Nat × Nat)) :
    Category.inRanges ranges code = Category.inRanges (ranges.filter fun range => range.1 < 128) code := by
  rw [Bool.eq_iff_iff, Category.inRanges_iff, Category.inRanges_iff]
  constructor
  · rintro ⟨range, listed, low, high⟩
    exact ⟨range, List.mem_filter.mpr ⟨listed, decide_eq_true (Nat.lt_of_le_of_lt low ascii)⟩, low, high⟩
  · rintro ⟨range, listed, within⟩
    exact ⟨range, (List.mem_filter.mp listed).1, within⟩

theorem decimal_ascii : (Category.decimal.filter fun range => range.1 < 128) = [(0x30, 0x39)] := by
  decide +kernel

/-- A word in ASCII is plain. -/
theorem isPlain_of_isWord {c : Char} (ascii : c.toNat < 128) (word : isWord c = true) : isPlain c = true := by
  have letter : (Category.letter.filter fun range => range.1 < 128) = [(0x41, 0x5A), (0x61, 0x7A)] := by decide +kernel
  have letterNumber : (Category.letterNumber.filter fun range => range.1 < 128) = [] := by decide +kernel
  have otherNumber : (Category.otherNumber.filter fun range => range.1 < 128) = [] := by decide +kernel
  rw [isWord, isAlphanumeric, inRanges_ascii ascii, inRanges_ascii ascii Category.letter,
    inRanges_ascii ascii Category.letterNumber, inRanges_ascii ascii Category.otherNumber, decimal_ascii, letter, letterNumber,
    otherNumber] at word
  exact forall_ascii (P := fun c => (c == '_' || (Category.inRanges [(0x30, 0x39)] c.toNat ||
    Category.inRanges [(0x41, 0x5A), (0x61, 0x7A)] c.toNat || Category.inRanges [] c.toNat ||
    Category.inRanges [] c.toNat)) = true → isPlain c = true) (by decide +kernel) ascii word

theorem ascii_of_isPlain {c : Char} (plain : isPlain c = true) : c.toNat < 128 := by
  unfold isPlain at plain
  rw [Bool.or_eq_true, beq_iff_eq] at plain
  rcases plain with word | rfl
  · have classes : (c.isUpper = true ∨ c.isLower = true) ∨ c.isDigit = true := by
      rw [← Bool.or_eq_true, ← Bool.or_eq_true]
      exact word
    -- The last character of each class is in ASCII.
    rcases classes with (upper | lower) | digit
    · have last : c.val ≤ 'Z'.val := (of_decide_eq_true upper).2
      exact Nat.lt_of_le_of_lt (UInt32.le_iff_toNat_le.mp last) (by decide)
    · have last : c.val ≤ 'z'.val := of_decide_eq_true (Bool.and_eq_true_iff.mp lower).2
      exact Nat.lt_of_le_of_lt (UInt32.le_iff_toNat_le.mp last) (by decide)
    · have last : c.val ≤ '9'.val := of_decide_eq_true (Bool.and_eq_true_iff.mp digit).2
      exact Nat.lt_of_le_of_lt (UInt32.le_iff_toNat_le.mp last) (by decide)
  · decide

theorem capitalForm_of_isPlain {c : Char} (plain : isPlain c = true) : capitalForm c = [c.toUpper] :=
  if_pos (ascii_of_isPlain plain)

/-- A capital form is plain, a digit if the character is one, and `C` for two characters only. -/
theorem toUpper_of_isPlain {c : Char} (plain : isPlain c = true) :
    isPlain c.toUpper = true ∧ c.toUpper.isDigit = c.isDigit ∧ (c.toUpper = 'C' ↔ c = 'C' ∨ c = 'c') :=
  forall_ascii (P := fun c => isPlain c = true → isPlain c.toUpper = true ∧ c.toUpper.isDigit = c.isDigit ∧
    (c.toUpper = 'C' ↔ c = 'C' ∨ c = 'c')) (by decide +kernel) (ascii_of_isPlain plain) plain

theorem smallForm_of_isPlain {c : Char} (plain : isPlain c = true) : smallForm c = [c.toLower] :=
  if_pos (ascii_of_isPlain plain)

/-- The digits among plain characters are the ten of ASCII. -/
theorem isDigit_of_isPlain {c : Char} (plain : isPlain c = true) : isDigit c = c.isDigit := by
  have ascii := ascii_of_isPlain plain
  have digitForm : (Category.digitForm.filter fun range => range.1 < 128) = [] := by decide +kernel
  rw [isDigit, inRanges_ascii ascii, inRanges_ascii ascii Category.digitForm, decimal_ascii, digitForm]
  exact forall_ascii (P := fun c => (Category.inRanges [(0x30, 0x39)] c.toNat || Category.inRanges [] c.toNat) = c.isDigit)
    (by decide +kernel) ascii

/-! ## Letters up to their case -/

/-- The small form of a character tells its class. -/
theorem classes_toLower (c : Char) : c.toLower.isAlphanum = c.isAlphanum ∧ c.toLower.isDigit = c.isDigit := by
  by_cases ascii : c.toNat < 128
  · exact forall_ascii (P := fun c => c.toLower.isAlphanum = c.isAlphanum ∧ c.toLower.isDigit = c.isDigit)
      (by decide +kernel) ascii
  · have same : c.toLower = c := by
      refine dif_neg fun upper => ascii ?_
      exact Nat.lt_of_le_of_lt (UInt32.le_iff_toNat_le.mp upper.2) (by decide)
    rw [same]
    exact ⟨rfl, rfl⟩

/-- Both forms of a plain character have its small form. -/
theorem toLower_forms {c : Char} (plain : isPlain c = true) : c.toUpper.toLower = c.toLower ∧ c.toLower.toLower = c.toLower :=
  forall_ascii (P := fun c => c.toUpper.toLower = c.toLower ∧ c.toLower.toLower = c.toLower) (by decide +kernel)
    (ascii_of_isPlain plain)

end CommandStream.Text
