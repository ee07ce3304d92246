import CommandStream.Proofs.Wire.Exchange
import CommandStream.Proofs.Wire.Layout
import CommandStream.Proofs.Wire.Leftover
import CommandStream.Proofs.Wire.Single
import Mathlib.Data.List.Forall2
import Mathlib.Order.Bounds.Basic

/-!
# Letters and layout

The letters of a format that describes a record are the fields of the record, one for one: the scan passes over nothing but
white space, and the digits in front of a letter are its repeat count. So the letters tell how many values are packed and
unpacked and how the record is aligned, and the size that follows keeps every field of records that lie one behind the other
at a multiple of its own alignment.
-/

namespace CommandStream

/-! ## Counts -/

theorem Numeral.digit?_of_isDigit {c : Char} (digit : c.isDigit = true) : digit? c = some (c.toNat - '0'.toNat) := by
  have first : Text.Category.decimal = (0x30, 0x39) :: Text.Category.decimal.tail := rfl
  have range := Char.isDigit_iff_toNat.mp digit
  have low : '0'.toNat = 0x30 := rfl
  have high : '9'.toNat = 0x39 := rfl
  have inside : (decide (0x30 ≤ c.toNat) && decide (c.toNat ≤ 0x39)) = true := by
    rw [Bool.and_eq_true, decide_eq_true_eq, decide_eq_true_eq]
    omega
  rw [digit?, first]
  simp only [List.find?_cons, inside, Option.map_some, low, Option.some.injEq]
  omega

namespace Wire

/-- The number that digits write. -/
def decimal (digits : List Char) : Nat :=
  digits.foldl (fun n c => n * 10 + (c.toNat - '0'.toNat)) 0

/-- The repeat count behind some digits, if there are any. -/
def countOf (digits : List Char) : Option Nat :=
  if digits.isEmpty then none else some (decimal digits)

theorem countOf_snoc (digits : List Char) (c : Char) :
    countOf (digits ++ [c]) = some ((countOf digits).getD 0 * 10 + (c.toNat - '0'.toNat)) := by
  cases digits with
  | nil => rfl
  | cons first rest => simp [countOf, decimal]

theorem digits?_of_isDigit {digits : List Char} (all : ∀ c ∈ digits, c.isDigit = true) :
    Numeral.digits? true digits = some (digits.map fun c => c.toNat - '0'.toNat) := by
  induction digits with
  | nil => rfl
  | cons c rest ih =>
    rw [Numeral.digits?, Numeral.digit?_of_isDigit (all c List.mem_cons_self)]
    simp only [ih fun other h => all other (List.mem_cons_of_mem _ h)]
    rfl

/-- Digits are read unless they are too many. -/
theorem magnitude?_of_isDigit {digits : List Char} (all : ∀ c ∈ digits, c.isDigit = true) (given : digits ≠ []) :
    Numeral.magnitude? digits = if digits.length ≤ Numeral.digitLimit then some (decimal digits) else none := by
  have read : Numeral.digits? false digits = some (digits.map fun c => c.toNat - '0'.toNat) := by
    cases digits with
    | nil => exact absurd rfl given
    | cons c rest =>
      rw [← digits?_of_isDigit all, Numeral.digits?, Numeral.digits?, Numeral.digit?_of_isDigit (all c List.mem_cons_self)]
  have number : Numeral.ofDigits (digits.map fun c => c.toNat - '0'.toNat) = decimal digits := by
    rw [Numeral.ofDigits, List.foldl_map, decimal]
    simp only [Nat.mul_comm 10]
  simp only [Numeral.magnitude?, read, Option.bind_eq_bind, Option.bind_some, List.length_map, number]

/-! ## One letter -/

/-- Everything that a letter of a format can be. -/
theorem Field.ofLetter?_cases {letter : Char} {count : Nat} {field : Field} (found : ofLetter? letter count = some field) :
    (letter = 'x' ∧ field = .padding count) ∨ (letter = 's' ∧ field = .string count) ∨
    (letter = 'p' ∧ field = .counted count) ∨
    ∃ kind : Scalar, (letter ≠ 'x' ∧ letter ≠ 's' ∧ letter ≠ 'p') ∧
      ((letter.isAlpha || letter == '?') = true ∧ letter.isDigit = false ∧ isGap letter = false) ∧
      field = .scalars kind count ∧ kind.size ∈ [1, 2, 4, 8] ∧ ofLetter? letter 1 = some (.scalars kind 1) := by
  unfold ofLetter? at found
  split at found
  · exact .inl ⟨rfl, (Option.some.inj found).symm⟩
  -- All letters of elements are alike.
  all_goals try exact .inr (.inr (.inr ⟨_, by decide, by decide, (Option.some.inj found).symm, by decide, rfl⟩))
  · exact .inr (.inl ⟨rfl, (Option.some.inj found).symm⟩)
  · exact .inr (.inr (.inl ⟨rfl, (Option.some.inj found).symm⟩))
  · cases found

theorem Field.isAlpha_of_ofLetter? {letter : Char} {count : Nat} {field : Field}
    (found : ofLetter? letter count = some field) : (letter.isAlpha || letter == '?') = true := by
  obtain ⟨rfl, -⟩ | ⟨rfl, -⟩ | ⟨rfl, -⟩ | ⟨kind, -, ⟨alpha, -⟩, -⟩ := Field.ofLetter?_cases found
  · rfl
  · rfl
  · rfl
  · exact alpha

theorem alignment_pos : ∀ a ∈ [1, 2, 4, 8], 1 ≤ a := by
  decide

/-- The greater of two alignments is a multiple of the other. -/
theorem dvd_of_alignment_le : ∀ a ∈ [1, 2, 4, 8], ∀ b ∈ [1, 2, 4, 8], a ≤ b → a ∣ b := by
  decide

theorem Field.alignment_of_ofLetter? {letter : Char} {count : Nat} {field : Field}
    (found : ofLetter? letter count = some field) : field.alignment ∈ [1, 2, 4, 8] := by
  obtain ⟨-, rfl⟩ | ⟨-, rfl⟩ | ⟨-, rfl⟩ | ⟨kind, -, -, rfl, sized, -⟩ := Field.ofLetter?_cases found
  · exact List.mem_cons_self
  · exact List.mem_cons_self
  · exact List.mem_cons_self
  · exact sized

/-- White space stands below the letters. -/
theorem not_alpha_of_isGap {c : Char} (blank : isGap c = true) : (c.isAlpha || c == '?') = false := by
  have low : c.toNat < 33 := by
    rw [isGap, Bool.or_eq_true, beq_iff_eq, Bool.and_eq_true, decide_eq_true_eq, decide_eq_true_eq] at blank
    obtain rfl | ⟨-, high⟩ := blank
    · decide
    · omega
  have below : ∀ n < 33, ((Char.ofNat n).isAlpha || Char.ofNat n == '?') = false := by decide
  rw [← below c.toNat low, Char.ofNat_toNat]

/-! ## The letters of a format are its fields -/

/-- An item of a field: its digits are the repeat count, one if there are none. -/
structure Item.Describes (item : Item) (field : Field) : Prop where
  digits : ∀ c ∈ item.digits, c.isDigit = true
  letter : Field.ofLetter? item.letter ((countOf item.digits).getD 1) = some field

/-- The scan finds the fields of a format in their order, and nothing else. -/
theorem describes_itemsFrom {digits chars : List Char} {fields : List Field} (all : ∀ c ∈ digits, c.isDigit = true)
    (parsed : fieldsFrom (countOf digits) chars = some fields) :
    List.Forall₂ Item.Describes (itemsFrom digits chars) fields := by
  induction chars generalizing digits fields with
  | nil =>
    rw [fieldsFrom] at parsed
    split at parsed
    · cases parsed
      exact .nil
    · cases parsed
  | cons c rest ih =>
    rw [fieldsFrom] at parsed
    split at parsed
    case isTrue digit =>
      rw [itemsFrom, if_pos digit]
      rw [← countOf_snoc] at parsed
      refine ih (fun other member => ?_) parsed
      rcases List.mem_append.mp member with before | last
      · exact all other before
      · rwa [List.mem_singleton.mp last]
    case isFalse other =>
      split at parsed
      case isTrue blank =>
        -- White space is passed over only where no count is pending, so no digits are lost.
        obtain ⟨blank, -⟩ := Bool.and_eq_true_iff.mp blank
        rw [itemsFrom, if_neg other, not_alpha_of_isGap blank, if_neg Bool.false_ne_true]
        exact ih (fun _ member => nomatch member) parsed
      case isFalse =>
        obtain ⟨field, found, parsed⟩ := Option.bind_eq_some_iff.mp parsed
        obtain ⟨others, more, parsed⟩ := Option.bind_eq_some_iff.mp parsed
        cases parsed
        rw [itemsFrom, if_neg other, if_pos (Field.isAlpha_of_ofLetter? found)]
        exact .cons ⟨all, found⟩ (ih (fun _ member => nomatch member) more)

theorem describes_itemsOf {format : String} {fields : List Field} (parsed : parseFormat format = .ok fields) :
    List.Forall₂ Item.Describes (itemsOf format) fields := by
  unfold parseFormat at parsed
  split at parsed
  · cases parsed
  · split at parsed
    · cases parsed
    · rename_i found
      split at parsed
      · cases parsed
        exact describes_itemsFrom (fun _ member => nomatch member) found
      · cases parsed

/-- Every field of a format has its letter. -/
theorem exists_describes {format : String} {fields : List Field} (parsed : parseFormat format = .ok fields) {field : Field}
    (member : field ∈ fields) : ∃ item ∈ itemsOf format, item.Describes field := by
  have described := describes_itemsOf parsed
  obtain ⟨i, bound, rfl⟩ := List.mem_iff_getElem.mp member
  have within : i < (itemsOf format).length := described.length_eq ▸ bound
  exact ⟨(itemsOf format)[i], List.getElem_mem within, (List.forall₂_iff_get.mp described).2 i within bound⟩

/-! ## How many values the letters tell -/

/-- An item whose repeat count is not looked at or has no more digits than are read. -/
def Item.Readable (item : Item) : Prop :=
  item.letter ∈ ['s', 'p', 'x'] ∨ item.digits.length ≤ Numeral.digitLimit

instance (item : Item) : Decidable item.Readable :=
  inferInstanceAs (Decidable (_ ∨ _))

theorem Item.Describes.count? {item : Item} {field : Field} (of : item.Describes field) :
    item.count? = if item.digits.length ≤ Numeral.digitLimit then some ((countOf item.digits).getD 1) else none := by
  unfold Item.count? countOf
  by_cases bare : item.digits = []
  · rw [bare]
    rfl
  · have given : item.digits.isEmpty = false := List.isEmpty_eq_false_iff.mpr bare
    simp only [given, Bool.false_eq_true, if_false, magnitude?_of_isDigit of.digits bare, Option.getD_some]

/-- A letter tells how many values its field takes, unless its count is needed and too long. -/
theorem Item.Describes.valueCount? {item : Item} {field : Field} (of : item.Describes field) :
    item.valueCount? = if item.Readable then some field.valueCount else none := by
  unfold Item.valueCount? Item.Readable
  obtain ⟨letter, rfl⟩ | ⟨letter, rfl⟩ | ⟨letter, rfl⟩ | ⟨kind, ⟨notX, notS, notP⟩, -, rfl, -⟩ := Field.ofLetter?_cases of.letter
  · simp [letter, Field.valueCount]
  · simp [letter, Field.valueCount]
  · simp [letter, Field.valueCount]
  · simp [notX, notS, notP, of.count?, Field.valueCount]

theorem mapM_valueCount? {items : List Item} {fields : List Field} (all : List.Forall₂ Item.Describes items fields) :
    (items.mapM Item.valueCount?).map total =
      if ∀ item ∈ items, item.Readable then some (recordValueCount fields) else none := by
  induction all with
  | nil => rfl
  | @cons item field items fields of _ ih =>
    have step : ((item :: items).mapM Item.valueCount?).map total =
        item.valueCount?.bind fun own => ((items.mapM Item.valueCount?).map total).map (own + ·) := by
      rw [List.mapM_cons]
      cases item.valueCount? with
      | none => rfl
      | some own => cases items.mapM Item.valueCount? <;> rfl
    simp only [step, ih, of.valueCount?, List.forall_mem_cons, recordValueCount_cons]
    by_cases readable : item.Readable
    · simp only [readable, if_true, true_and, Option.bind_some]
      split <;> rfl
    · simp only [readable, if_false, false_and, Option.bind_none]

/-- The letters of a format tell how many values its record takes. -/
theorem announcedCount?_eq {format : String} {fields : List Field} (parsed : parseFormat format = .ok fields) :
    announcedCount? format =
      if ∀ item ∈ itemsOf format, item.Readable then some (recordValueCount fields) else none :=
  mapM_valueCount? (describes_itemsOf parsed)

/-! ## How the letters align a record -/

/-- A record of one element is as large as the element. -/
theorem recordSize_element (kind : Scalar) : recordSize [.scalars kind 1] = kind.size := by
  simp [recordSize, Field.endFrom, Field.alignment, Field.size, gap]

/-- A letter tells the alignment of its field, unless the field needs none. -/
theorem Item.Describes.elementSize? {item : Item} {field : Field} (of : item.Describes field) :
    (item.elementSize? = none ∧ field.alignment = 1) ∨ item.elementSize? = some field.alignment := by
  unfold Item.elementSize?
  obtain ⟨letter, rfl⟩ | ⟨letter, rfl⟩ | ⟨letter, rfl⟩ | ⟨kind, ⟨notX, notS, notP⟩, ⟨-, digit, blank⟩, rfl, -, one⟩ :=
    Field.ofLetter?_cases of.letter
  · exact .inl ⟨if_pos (.inr (.inr letter)), rfl⟩
  · exact .inl ⟨if_pos (.inl letter), rfl⟩
  · exact .inl ⟨if_pos (.inr (.inl letter)), rfl⟩
  · have own : fieldsFrom none [item.letter] = some [.scalars kind 1] := by
      simp only [fieldsFrom, digit, blank, Bool.false_and, Bool.false_eq_true, if_false, Option.getD_none, one]
      rfl
    refine .inr ?_
    rw [if_neg (by tauto), own, Option.map_some, recordSize_element]
    rfl

theorem foldl_elementSize? {items : List Item} {fields : List Field} (all : List.Forall₂ Item.Describes items fields)
    {most : Nat} (positive : 1 ≤ most) :
    (items.filterMap Item.elementSize?).foldl max most = (fields.map Field.alignment).foldl max most := by
  induction all generalizing most with
  | nil => rfl
  | @cons item field items fields of _ ih =>
    rw [List.map_cons, List.foldl_cons]
    obtain ⟨unaligned, one⟩ | aligned := of.elementSize?
    · rw [List.filterMap_cons_none unaligned, one, Nat.max_eq_left positive]
      exact ih positive
    · rw [List.filterMap_cons_some aligned, List.foldl_cons]
      exact ih (Nat.le_trans positive (Nat.le_max_left _ _))

theorem greatestElement_eq {items : List Item} {fields : List Field} (all : List.Forall₂ Item.Describes items fields) :
    greatestElement items = (fields.map Field.alignment).foldl max 1 := by
  unfold greatestElement
  induction all with
  | nil => rfl
  | @cons item field items fields of rest ih =>
    rw [List.map_cons, List.foldl_cons]
    obtain ⟨unaligned, one⟩ | aligned := of.elementSize?
    · rw [List.filterMap_cons_none unaligned, one, Nat.max_self]
      exact ih
    · have positive := alignment_pos _ (Field.alignment_of_ofLetter? of.letter)
      rw [List.filterMap_cons_some aligned, Nat.max_eq_right positive]
      exact foldl_elementSize? rest positive

/-- The letters of a format tell how its record is aligned. -/
theorem announcedAlignment_eq {format : String} {fields : List Field} (parsed : parseFormat format = .ok fields) :
    announcedAlignment format = (fields.map Field.alignment).foldl max 1 :=
  greatestElement_eq (describes_itemsOf parsed)

/-! ## Alignments -/

theorem alignment_mem {format : String} {fields : List Field} (parsed : parseFormat format = .ok fields) :
    ∀ field ∈ fields, field.alignment ∈ [1, 2, 4, 8] := by
  intro field member
  obtain ⟨item, -, of⟩ := exists_describes parsed member
  exact Field.alignment_of_ofLetter? of.letter

theorem alignment_pos_of_parsed {format : String} {fields : List Field} (parsed : parseFormat format = .ok fields) :
    ∀ field ∈ fields, 1 ≤ field.alignment :=
  fun field member => alignment_pos _ (alignment_mem parsed field member)

end Wire

namespace WireType
open Wire

/-- The alignment of a type is the greatest of its fields, one if there are none. -/
theorem isGreatest_alignment (t : WireType) : IsGreatest (insert 1 {a | ∃ field ∈ t.fields, field.alignment = a}) t.alignment := by
  have greatest : t.alignment ∈ 1 :: t.fields.map Field.alignment ∧ ∀ a ∈ 1 :: t.fields.map Field.alignment, a ≤ t.alignment :=
    List.max?_eq_some_iff.mp List.max?_cons'
  have members : ∀ a, a ∈ 1 :: t.fields.map Field.alignment ↔ a ∈ insert 1 {a | ∃ field ∈ t.fields, field.alignment = a} := by
    intro a
    rw [List.mem_cons, List.mem_map, Set.mem_insert_iff, Set.mem_ofPred_eq]
  exact ⟨(members _).mp greatest.1, fun a member => greatest.2 a ((members a).mpr member)⟩

/-- The size of a type is the least multiple of its alignment that has room for its record. -/
theorem isLeast_size (t : WireType) : IsLeast {n | recordSize t.fields ≤ n ∧ t.alignment ∣ n} t.size := by
  refine ⟨⟨recordSize_le_size t, dvd_add_gap _ t.alignment_pos⟩, fun n ⟨room, aligned⟩ => ?_⟩
  have near := gap_lt (recordSize t.fields) t.alignment_pos
  have ends : t.size = recordSize t.fields + gap (recordSize t.fields) t.alignment := rfl
  have own : t.alignment ∣ t.size := dvd_add_gap _ t.alignment_pos
  -- A smaller multiple would be smaller by the alignment at least.
  by_contra below
  have apart := Nat.le_of_dvd (by omega) (Nat.dvd_sub own aligned)
  omega

/-- In a row of values that begins at a multiple of the alignment of their type, every element of every field of a value lies
at a multiple of its own alignment, which is its size. -/
theorem aligned_in_row {t : WireType} {format : String} (parsed : parseFormat format = .ok t.fields) {start : Nat}
    (aligned : t.alignment ∣ start) (k : Nat) {entry : Nat × Field} (member : entry ∈ layout 0 t.fields) (j : Nat) :
    entry.2.alignment ∣ start + k * t.size + entry.1 + entry.2.alignment * j := by
  have sized := alignment_mem parsed
  obtain ⟨listed, own⟩ := aligned_of_mem_layout member (alignment_pos_of_parsed parsed)
  have greatest := t.isGreatest_alignment
  have most : t.alignment ∈ [1, 2, 4, 8] := by
    obtain one | ⟨field, among, most⟩ := greatest.1
    · rw [one]
      exact List.mem_cons_self
    · exact most ▸ sized field among
  have below : entry.2.alignment ≤ t.alignment := greatest.2 (.inr ⟨entry.2, listed, rfl⟩)
  have divides := dvd_of_alignment_le _ (sized _ listed) _ most below
  have start := Nat.dvd_add aligned (Nat.dvd_mul_left_of_dvd t.isLeast_size.1.2 k)
  exact Nat.dvd_add (Nat.dvd_add (Nat.dvd_trans divides start) own) (Nat.dvd_mul_right _ j)

end WireType

/-! ## Records that are packed -/

namespace Wire

/-- Values that every field takes. -/
def Field.blank : Field → List Value
  | .padding _ => []
  | .scalars kind count =>
    List.replicate count <|
      match kind with
      | .integer _ _ | .pointer => .int 0
      | .truth => .truth false
      | .byte => .bytes [0]
      | .half | .single | .double => .float 0
  | .string _ | .counted _ => [.bytes []]

theorem Field.length_blank (field : Field) : field.blank.length = field.valueCount := by
  cases field with
  | padding count => rfl
  | scalars kind count => exact List.length_replicate
  | string length => rfl
  | counted length => rfl

theorem packScalars_replicate {kind : Scalar} {v : Value} {data : List UInt8} (packed : packScalar kind v = .ok data)
    (count : Nat) : ∃ data, packScalars kind (List.replicate count v) = .ok data := by
  induction count with
  | zero => exact ⟨[], rfl⟩
  | succ count ih =>
    obtain ⟨others, more⟩ := ih
    rw [List.replicate_succ, packScalars, packed, more]
    exact ⟨_, rfl⟩

theorem Field.packField_blank (field : Field) : ∃ data, packField field field.blank = .ok data := by
  cases field with
  | padding count => exact ⟨_, rfl⟩
  | scalars kind count =>
    cases kind with
    | integer signed size =>
      have zero : (integerRange signed size).1 ≤ 0 ∧ 0 ≤ (integerRange signed size).2 := by
        have := Nat.two_pow_pos (8 * size - 1)
        have := Nat.two_pow_pos (8 * size)
        cases signed <;> simp only [integerRange, Bool.false_eq_true, if_false, if_true] <;> omega
      exact packScalars_replicate (packScalar_integer zero.1 zero.2) count
    | pointer => exact packScalars_replicate (packScalar_pointer (n := 0) (by decide) (by decide)) count
    | truth => exact packScalars_replicate rfl count
    | byte => exact packScalars_replicate rfl count
    | half => exact packScalars_replicate rfl count
    | single => exact packScalars_replicate rfl count
    | double => exact packScalars_replicate rfl count
  | string length => exact ⟨_, rfl⟩
  | counted length => cases length <;> exact ⟨_, rfl⟩

theorem packFields_blank (offset : Nat) (fields : List Field) :
    ∃ data, packFields offset fields (fields.flatMap Field.blank) = .ok data := by
  induction fields generalizing offset with
  | nil => exact ⟨[], rfl⟩
  | cons field rest ih =>
    obtain ⟨data, own⟩ := field.packField_blank
    obtain ⟨others, more⟩ := ih (field.endFrom offset)
    rw [List.flatMap_cons, packFields, List.take_left' field.length_blank, List.drop_left' field.length_blank, own, more]
    exact ⟨_, rfl⟩

/-- The values that are packed as a record are as many as its fields take. -/
theorem packed_count_iff (fields : List Field) (n : Nat) :
    (∃ values data, values.length = n ∧ packRecord fields values = .ok data) ↔ n = recordValueCount fields := by
  constructor
  · rintro ⟨values, data, rfl, packed⟩
    unfold packRecord at packed
    split at packed
    · assumption
    · cases packed
  · rintro rfl
    have count : (fields.flatMap Field.blank).length = recordValueCount fields := by
      induction fields with
      | nil => rfl
      | cons field rest ih => rw [List.flatMap_cons, List.length_append, ih, field.length_blank, recordValueCount_cons]
    obtain ⟨data, packed⟩ := packFields_blank 0 fields
    have whole : packRecord fields (fields.flatMap Field.blank) =
        .ok ((strayCounts 0 fields (fields.flatMap Field.blank)).foldl (fun data offset => data.set offset 255) data) := by
      rw [packRecord, if_pos count, packed]
      rfl
    exact ⟨_, _, count, whole⟩

end Wire

namespace WireType
open Wire

/-- **The letters of a format tell the layout of its record.** Of a format that describes fields, a type is made exactly if no
count that is needed has too many digits. Then the letters announce as many values as are packed and unpacked, and the greatest
alignment of the fields. The size is the least multiple of that alignment with room for the record, a packed value has just that
size, and in a row of values from an aligned offset on, where nothing lies between the values, each field is unpacked from the
bytes at its place in the layout, where each of its elements lies at a multiple of its own alignment. -/
theorem letters_tell_layout {format : String} {fields : List Field} (parsed : parseFormat format = .ok fields) (name : String) :
    if ∀ item ∈ itemsOf format, item.Readable then
      ∃ t, ofFormat name format = .ok t ∧ t.fields = fields ∧
        (announcedCount? format = some t.fieldCount ∧
          (∀ n, (∃ values data, values.length = n ∧ packRecord fields values = .ok data) ↔ n = t.fieldCount) ∧
          ∀ data offset values, unpackRecord fields data offset = .ok values → values.length = t.fieldCount) ∧
        (announcedAlignment format = t.alignment ∧
          IsGreatest (insert 1 {a | ∃ field ∈ fields, field.alignment = a}) t.alignment) ∧
        (IsLeast {n | recordSize fields ≤ n ∧ t.alignment ∣ n} t.size ∧
          ∀ v data, t.pack v = .ok data → data.length = t.size) ∧
        ∀ start k, t.alignment ∣ start →
          gap (start + k * t.size) t.alignment = 0 ∧
          (∀ entry ∈ layout 0 fields, ∀ j, entry.2.alignment ∣ start + k * t.size + entry.1 + entry.2.alignment * j) ∧
          ∀ data : List UInt8, start + k * t.size + recordSize fields ≤ data.length →
            unpackRecord fields data (start + k * t.size : Nat) = List.flatten <$>
              (layout 0 fields).mapM fun entry => unpackField entry.2 (data.drop (start + k * t.size + entry.1))
    else ofFormat name format = .error .countTooLong := by
  have count := announcedCount?_eq parsed
  split
  case isTrue readable =>
    rw [if_pos readable] at count
    let t : WireType := { name, format, fields, presentation := .plain }
    have made : ofFormat name format = .ok t := by
      simp only [ofFormat, parsed, count]
      rfl
    refine ⟨t, made, rfl, ⟨count, packed_count_iff fields, fun data offset values => length_unpackRecord⟩,
      ⟨announcedAlignment_eq parsed, t.isGreatest_alignment⟩, ⟨t.isLeast_size, fun v data => length_pack⟩, ?_⟩
    intro start k aligned
    refine ⟨?_, fun entry => aligned_in_row parsed aligned k, ?_⟩
    · exact (gap_eq_zero_iff _ t.alignment_pos).mpr (Nat.dvd_add aligned (Nat.dvd_mul_left_of_dvd t.isLeast_size.1.2 k))
    · intro data enough
      rw [unpackRecord_of_enough enough]
      exact unpackFields_eq_layout (start + k * t.size)
  case isFalse unreadable =>
    rw [if_neg unreadable] at count
    simp only [ofFormat, parsed, count]
    rfl

end WireType

namespace SpacedFormat
open Wire

/-- A format with white space, byte strings, blank bytes and a field without elements. -/
def format : String := " 2s\t3xB 2H0Q"

def fields : List Field := [.string 2, .padding 3, .scalars (.integer false 1) 1, .scalars (.integer false 2) 2,
  .scalars (.integer false 8) 0]

/-- The second of two values begins behind sixteen bytes, and its second word lies eight bytes further on. -/
theorem laid_out : parseFormat format = .ok fields ∧ ∃ t, WireType.ofFormat "record" format = .ok t ∧ t.fieldCount = 4 ∧
    t.alignment = 8 ∧ t.size = 16 ∧ 2 ∣ 8 + 1 * t.size + 6 + 2 * 1 := by
  have parsed : parseFormat format = .ok fields := by rfl
  have told := WireType.letters_tell_layout parsed "record"
  rw [if_pos (by decide)] at told
  obtain ⟨t, made, described, -, -, -, rows⟩ := told
  have alignment : t.alignment = 8 := by
    rw [WireType.alignment, described]
    rfl
  have size : t.size = 16 := by
    rw [WireType.size, described, alignment]
    rfl
  refine ⟨parsed, t, made, ?_, alignment, size, ?_⟩
  · rw [WireType.fieldCount, described]
    rfl
  · have start : t.alignment ∣ 8 := ⟨1, by omega⟩
    exact (rows 8 1 start).2.1 (6, .scalars (.integer false 2) 2) (by decide) 1

end SpacedFormat

namespace LongCount
open Wire

/-- The repeat count one behind so many zeros, and a byte. -/
def format (zeros : Nat) : String := String.ofList (List.replicate zeros '0' ++ ['1', 'B'])

theorem fieldsFrom_zeros (zeros : Nat) (chars : List Char) :
    fieldsFrom (some 0) (List.replicate zeros '0' ++ chars) = fieldsFrom (some 0) chars := by
  induction zeros with
  | zero => rfl
  | succ zeros ih => exact ih

theorem itemsFrom_zeros (digits : List Char) (zeros : Nat) (chars : List Char) :
    itemsFrom digits (List.replicate zeros '0' ++ chars) = itemsFrom (digits ++ List.replicate zeros '0') chars := by
  induction zeros generalizing digits with
  | zero => rw [List.replicate_zero, List.nil_append, List.append_nil]
  | succ zeros ih =>
    have next : itemsFrom digits ('0' :: (List.replicate zeros '0' ++ chars)) =
        itemsFrom (digits ++ ['0']) (List.replicate zeros '0' ++ chars) := rfl
    rw [List.replicate_succ, List.cons_append, next, ih, List.append_assoc, List.singleton_append]

theorem parseFormat_format (zeros : Nat) : parseFormat (format (zeros + 1)) = .ok [.scalars (.integer false 1) 1] := by
  have ascii : ((format (zeros + 1)).toList.any fun c => c.toNat ≥ 128) = false := by
    simp [format]
  have found : fieldsFrom none (format (zeros + 1)).toList = some [.scalars (.integer false 1) 1] := by
    rw [format, String.toList_ofList]
    exact fieldsFrom_zeros zeros ['1', 'B']
  rw [parseFormat, ascii, found]
  rfl

theorem itemsOf_format (zeros : Nat) : itemsOf (format zeros) = [⟨List.replicate zeros '0' ++ ['1'], 'B'⟩] := by
  rw [itemsOf, format, String.toList_ofList, itemsFrom_zeros]
  rfl

/-- A count with too many zeros in front describes one byte, and no type is made of it. -/
theorem described_and_not_made : parseFormat (format 4300) = .ok [.scalars (.integer false 1) 1] ∧
    WireType.ofFormat "custom" (format 4300) = .error .countTooLong ∧
    ¬ ∀ format fields, parseFormat format = .ok fields → ∃ t, WireType.ofFormat "custom" format = .ok t := by
  have parsed := parseFormat_format 4299
  have unreadable : ¬ ∀ item ∈ itemsOf (format 4300), item.Readable := by
    rw [itemsOf_format]
    intro readable
    obtain letter | short := readable _ List.mem_cons_self
    · exact absurd letter (by decide)
    · rw [List.length_append, List.length_replicate] at short
      exact absurd short (by decide)
  have refused : WireType.ofFormat "custom" (format 4300) = .error .countTooLong := by
    have count := announcedCount?_eq parsed
    rw [if_neg unreadable] at count
    simp only [WireType.ofFormat, parsed, count]
    rfl
  refine ⟨parsed, refused, fun always => ?_⟩
  obtain ⟨t, made⟩ := always _ _ parsed
  rw [refused] at made
  cases made

end LongCount

end CommandStream
