import CommandStream.Proofs.Wire.Letters

/-!
# Values behind a transfer

A record takes its values one by one, each by a member: an element of a field, or a byte string. A value that its member takes
comes out settled, and one refused value keeps the whole record from being packed. Floats and byte strings behind a count are
left aside here.
-/

namespace CommandStream.Wire

/-! ## Elements -/

/-- Whether an element takes a value: an integer in its range, any value for its truth, or one byte. -/
def Scalar.Takes : Scalar → Value → Prop
  | .integer true size, v => ∃ n, v.int? = some n ∧ -2 ^ (8 * size - 1) ≤ n ∧ n < 2 ^ (8 * size - 1)
  | .integer false size, v => ∃ n, v.int? = some n ∧ 0 ≤ n ∧ n < 2 ^ (8 * size)
  | .pointer, v => ∃ n, v.int? = some n ∧ -2 ^ 63 ≤ n ∧ n < 2 ^ 64
  | .truth, _ => True
  | .byte, v => ∃ b, v = .bytes [b]
  | .half, _ | .single, _ | .double, _ => False

/-- A value as it comes out of an element that takes it: truths as integers, addresses without sign, any value as its truth. -/
def Scalar.settled : Scalar → Value → Value
  | .integer _ _, v => (v.int?.map .int).getD v
  | .pointer, v => (v.int?.map fun n => .int (n % 2 ^ 64)).getD v
  | .truth, v => .truth v.isTrue
  | _, v => v

/-- Whether the values of an element are kept without rounding. -/
def Scalar.Exact : Scalar → Prop
  | .half | .single | .double => False
  | _ => True

theorem integerWithin_eq_ok {low high n : Int} {v : Value} :
    integerWithin low high v = .ok n ↔ v.int? = some n ∧ low ≤ n ∧ n ≤ high := by
  unfold integerWithin
  cases v.int? with
  | none => simp
  | some own =>
    simp only [Option.some.injEq]
    split
    · rename_i inside
      rw [Except.ok.injEq]
      constructor
      · rintro rfl
        exact ⟨rfl, inside⟩
      · exact fun ⟨same, _⟩ => same
    · rename_i outside
      constructor
      · intro never
        cases never
      · rintro ⟨rfl, inside⟩
        exact absurd inside outside

theorem takes_integer_iff {signed : Bool} {size : Nat} {v : Value} : (Scalar.integer signed size).Takes v ↔
    ∃ n, v.int? = some n ∧ (integerRange signed size).1 ≤ n ∧ n ≤ (integerRange signed size).2 := by
  have power (width : Nat) : ((2 ^ width : Nat) : Int) = 2 ^ width := by
    rw [Int.natCast_pow]
    rfl
  cases signed <;> simp only [Scalar.Takes, integerRange, Bool.false_eq_true, if_true, if_false, power, Int.le_sub_one_iff]

/-- What is packed as an integer is one between the bounds, in two's complement. -/
theorem packInteger_of_within {low high : Int} {size : Nat} {v : Value} {data : List UInt8} :
    (integerWithin low high v >>= fun n => .ok (packInteger size n)) = .ok data ↔
      ∃ n, v.int? = some n ∧ (low ≤ n ∧ n ≤ high) ∧ packInteger size n = data := by
  constructor
  · intro packed
    obtain ⟨n, within, packed⟩ := bind_ok packed
    obtain ⟨own, inside⟩ := integerWithin_eq_ok.mp within
    exact ⟨n, own, inside, Except.ok.inj packed⟩
  · rintro ⟨n, own, inside, rfl⟩
    rw [integerWithin_eq_ok.mpr ⟨own, inside⟩]
    rfl

theorem exists_packInteger_iff {low high : Int} {size : Nat} {v : Value} :
    (∃ data, (integerWithin low high v >>= fun n => .ok (packInteger size n)) = .ok data) ↔
      ∃ n, v.int? = some n ∧ low ≤ n ∧ n ≤ high := by
  constructor
  · rintro ⟨data, packed⟩
    obtain ⟨n, own, inside, -⟩ := packInteger_of_within.mp packed
    exact ⟨n, own, inside⟩
  · rintro ⟨n, own, inside⟩
    exact ⟨_, packInteger_of_within.mpr ⟨n, own, inside, rfl⟩⟩

/-- An element packs just the values that it takes. -/
theorem exists_packScalar_iff {kind : Scalar} (exact : kind.Exact) (v : Value) :
    (∃ data, packScalar kind v = .ok data) ↔ kind.Takes v := by
  cases kind with
  | integer signed size =>
    rw [takes_integer_iff]
    exact exists_packInteger_iff
  | pointer =>
    have bounds (n : Int) : (-2 ^ 63 ≤ n ∧ n < 2 ^ 64) ↔ (integerRange true 8).1 ≤ n ∧ n ≤ (integerRange false 8).2 := by
      simp only [integerRange, Bool.false_eq_true, if_true, if_false]
      omega
    simp only [Scalar.Takes, bounds]
    exact exists_packInteger_iff
  | truth => exact ⟨fun _ => trivial, fun _ => ⟨_, rfl⟩⟩
  | byte =>
    simp only [packScalar, Scalar.Takes]
    constructor
    · rintro ⟨data, packed⟩
      split at packed
      · exact ⟨_, rfl⟩
      · cases packed
    · rintro ⟨b, rfl⟩
      exact ⟨_, rfl⟩
  | half => cases exact
  | single => cases exact
  | double => cases exact

/-- A value comes out of its element settled. -/
theorem unpackScalar_packScalar {kind : Scalar} (exact : kind.Exact) (sized : 1 ≤ kind.size) {v : Value} {data : List UInt8}
    (packed : packScalar kind v = .ok data) : unpackScalar kind data = kind.settled v := by
  cases kind with
  | integer signed size =>
    obtain ⟨n, own, ⟨low, high⟩, rfl⟩ := packInteger_of_within.mp packed
    have word : unpackInteger signed (packInteger size n) = n := unpackInteger_packInteger sized low high
    rw [unpackScalar, word, Scalar.settled, own]
    rfl
  | pointer =>
    obtain ⟨n, own, -, rfl⟩ := packInteger_of_within.mp packed
    have word : unpackInteger false (packInteger 8 n) = n % 2 ^ 64 := ofLittleEndian_packInteger 8 n
    rw [unpackScalar, word, Scalar.settled, own]
    rfl
  | truth =>
    cases packed
    rw [Scalar.settled, unpackScalar]
    cases v.isTrue <;> rfl
  | byte =>
    simp only [packScalar] at packed
    split at packed
    · cases packed
      rfl
    · cases packed
  | half => cases exact
  | single => cases exact
  | double => cases exact

/-! ## Members -/

/-- What takes one value of a record. -/
inductive Member where
  | element (kind : Scalar)
  | string (length : Nat)

/-- Whether a member takes a value. -/
def Member.Takes : Member → Value → Prop
  | element kind, v => kind.Takes v
  | string _, v => ∃ data, v = .bytes data

/-- A value as it comes out of a member that takes it; a byte string is cut or filled with zeros. -/
def Member.settled : Member → Value → Value
  | element kind, v => kind.settled v
  | string length, .bytes data => .bytes (fitted length data)
  | string _, v => v

/-- The members of a field; blank bytes have none. -/
def Field.members : Field → List Member
  | .padding _ => []
  | .scalars kind count => List.replicate count (.element kind)
  | .string length | .counted length => [.string length]

/-- The members of a record, in the order of their values. -/
def members (fields : List Field) : List Member :=
  fields.flatMap Field.members

/-- Whether a field keeps its values exactly and has no count of its own. -/
def Field.Exact : Field → Prop
  | .scalars kind _ => kind.Exact
  | .counted _ => False
  | _ => True

theorem Field.length_members (field : Field) : field.members.length = field.valueCount := by
  cases field with
  | padding count => rfl
  | scalars kind count => exact List.length_replicate
  | string length => rfl
  | counted length => rfl

/-- Elements are packed if each takes its value. -/
theorem exists_packScalars_iff {kind : Scalar} (exact : kind.Exact) (values : List Value) :
    (∃ data, packScalars kind values = .ok data) ↔
      List.Forall₂ Member.Takes (List.replicate values.length (.element kind)) values := by
  induction values with
  | nil => exact ⟨fun _ => .nil, fun _ => ⟨[], rfl⟩⟩
  | cons v rest ih =>
    rw [List.length_cons, List.replicate_succ, List.forall₂_cons, ← ih]
    show _ ↔ kind.Takes v ∧ _
    rw [← exists_packScalar_iff exact]
    constructor
    · rintro ⟨data, packed⟩
      obtain ⟨first, one, packed⟩ := bind_ok packed
      obtain ⟨others, more, -⟩ := bind_ok packed
      exact ⟨⟨first, one⟩, ⟨others, more⟩⟩
    · rintro ⟨⟨first, one⟩, ⟨others, more⟩⟩
      rw [packScalars, one, more]
      exact ⟨_, rfl⟩

theorem unpackScalars_packScalars {kind : Scalar} (exact : kind.Exact) (sized : 1 ≤ kind.size) {values : List Value}
    {data : List UInt8} (packed : packScalars kind values = .ok data) :
    unpackScalars kind values.length data =
      List.zipWith Member.settled (List.replicate values.length (.element kind)) values := by
  induction values generalizing data with
  | nil => rfl
  | cons v rest ih =>
    obtain ⟨first, one, packed⟩ := bind_ok packed
    obtain ⟨others, more, packed⟩ := bind_ok packed
    cases packed
    have size := length_packScalar one
    rw [List.length_cons, List.replicate_succ, List.zipWith_cons_cons, unpackScalars, List.take_left' size,
      List.drop_left' size, unpackScalar_packScalar exact sized one, ih more]
    rfl

/-- A field packs just the values that its members take. -/
theorem exists_packField_iff {field : Field} (exact : field.Exact) {values : List Value}
    (count : values.length = field.valueCount) :
    (∃ data, packField field values = .ok data) ↔ List.Forall₂ Member.Takes field.members values := by
  cases field with
  | padding n =>
    obtain rfl := List.length_eq_zero_iff.mp count
    exact ⟨fun _ => .nil, fun _ => ⟨_, rfl⟩⟩
  | scalars kind n =>
    obtain rfl : values.length = n := count
    exact exists_packScalars_iff exact values
  | string length =>
    obtain ⟨v, rfl⟩ := List.length_eq_one_iff.mp count
    simp only [packField, Field.members, List.forall₂_cons, List.forall₂_nil_left_iff, and_true, Member.Takes]
    constructor
    · rintro ⟨data, packed⟩
      split at packed
      · rename_i given
        exact ⟨_, List.singleton_inj.mp given⟩
      · cases packed
    · rintro ⟨data, rfl⟩
      exact ⟨_, rfl⟩
  | counted length => cases exact

/-- Values come out of their field settled. -/
theorem unpackField_packField {field : Field} (exact : field.Exact) (sized : 1 ≤ field.alignment) {values : List Value}
    (count : values.length = field.valueCount) {data : List UInt8} (packed : packField field values = .ok data) :
    unpackField field data = .ok (List.zipWith Member.settled field.members values) := by
  cases field with
  | padding n => rfl
  | scalars kind n =>
    obtain rfl : values.length = n := count
    exact congrArg _ (unpackScalars_packScalars exact sized packed)
  | string length =>
    obtain ⟨v, rfl⟩ := List.length_eq_one_iff.mp count
    simp only [packField] at packed
    split at packed
    · rename_i given
      cases packed
      rw [List.singleton_inj.mp given, unpackField, List.take_of_length_le (Nat.le_of_eq (length_fitted _ _))]
      rfl
    · cases packed
  | counted length => cases exact

/-! ## Records -/

theorem forall₂_append_iff {first rest : List Member} {values : List Value} {n : Nat} (count : first.length = n) :
    List.Forall₂ Member.Takes (first ++ rest) values ↔
      List.Forall₂ Member.Takes first (values.take n) ∧ List.Forall₂ Member.Takes rest (values.drop n) := by
  constructor
  · intro taken
    have own := List.forall₂_take n taken
    have others := List.forall₂_drop n taken
    rw [List.take_left' count] at own
    rw [List.drop_left' count] at others
    exact ⟨own, others⟩
  · rintro ⟨own, others⟩
    have both : List.Forall₂ Member.Takes (first ++ rest) (values.take n ++ values.drop n) := List.rel_append own others
    rwa [List.take_append_drop] at both

/-- The values of a record are those of its first field and those of the others. -/
theorem length_take_drop {field : Field} {rest : List Field} {values : List Value}
    (count : values.length = recordValueCount (field :: rest)) :
    (values.take field.valueCount).length = field.valueCount ∧
      (values.drop field.valueCount).length = recordValueCount rest := by
  rw [recordValueCount_cons] at count
  rw [List.length_take, List.length_drop]
  omega

section Records
variable {fields : List Field} (exact : ∀ field ∈ fields, field.Exact) {values : List Value}
  (count : values.length = recordValueCount fields)
include exact count

/-- Fields pack just the values that their members take. -/
theorem exists_packFields_iff (offset : Nat) :
    (∃ data, packFields offset fields values = .ok data) ↔ List.Forall₂ Member.Takes (members fields) values := by
  induction fields generalizing offset values with
  | nil =>
    obtain rfl := List.length_eq_zero_iff.mp count
    exact ⟨fun _ => .nil, fun _ => ⟨[], rfl⟩⟩
  | cons field rest ih =>
    obtain ⟨own, others⟩ := length_take_drop count
    rw [members, List.flatMap_cons, forall₂_append_iff field.length_members,
      ← exists_packField_iff (exact field List.mem_cons_self) own]
    show _ ↔ _ ∧ List.Forall₂ Member.Takes (members rest) _
    rw [← ih (fun other listed => exact other (List.mem_cons_of_mem _ listed)) others (field.endFrom offset)]
    constructor
    · rintro ⟨data, packed⟩
      obtain ⟨first, one, packed⟩ := bind_ok packed
      obtain ⟨later, more, -⟩ := bind_ok packed
      exact ⟨⟨first, one⟩, ⟨later, more⟩⟩
    · rintro ⟨⟨first, one⟩, ⟨later, more⟩⟩
      rw [packFields, one, more]
      exact ⟨_, rfl⟩

/-- Values come out of their fields settled. -/
theorem unpackFields_packFields (sized : ∀ field ∈ fields, 1 ≤ field.alignment) {offset : Nat} {data : List UInt8}
    (packed : packFields offset fields values = .ok data) :
    unpackFields offset fields data = .ok (List.zipWith Member.settled (members fields) values) := by
  induction fields generalizing offset values data with
  | nil => rfl
  | cons field rest ih =>
    obtain ⟨own, others⟩ := length_take_drop count
    obtain ⟨first, one, packed⟩ := bind_ok packed
    obtain ⟨later, more, packed⟩ := bind_ok packed
    cases packed
    have size := length_packField own one
    -- The field is read behind its gap, from its own bytes alone.
    have inner : (zeros (gap offset field.alignment) ++ first ++ later).drop (gap offset field.alignment) = first ++ later := by
      rw [List.append_assoc]
      exact List.drop_left' (length_zeros _)
    have read := unpackField_packField (exact field List.mem_cons_self) (sized field List.mem_cons_self) own one
    rw [← unpackField_append (Nat.le_of_eq size.symm) later] at read
    have behind := ih (fun other listed => exact other (List.mem_cons_of_mem _ listed)) others
      (fun other listed => sized other (List.mem_cons_of_mem _ listed)) more
    have split : List.zipWith Member.settled (members (field :: rest)) values =
        List.zipWith Member.settled field.members (values.take field.valueCount) ++
          List.zipWith Member.settled (members rest) (values.drop field.valueCount) := by
      rw [← List.zipWith_append (field.length_members.trans own.symm), List.take_append_drop]
      rfl
    simp only [unpackFields, inner, read, List.drop_left' size, behind, split]
    rfl

end Records

/-- Only counted strings without room leave their counts elsewhere. -/
theorem strayCounts_of_exact {fields : List Field} (exact : ∀ field ∈ fields, field.Exact) (offset : Nat)
    (values : List Value) : strayCounts offset fields values = [] := by
  induction fields generalizing offset values with
  | nil => rfl
  | cons field rest ih =>
    have roomy : ¬ (field = .counted 0 ∧ startsBlank offset rest (values.drop field.valueCount) = true) := by
      rintro ⟨rfl, -⟩
      exact exact _ List.mem_cons_self
    rw [strayCounts, if_neg roomy]
    exact ih (fun other listed => exact other (List.mem_cons_of_mem _ listed)) _ _

theorem packRecord_of_exact {fields : List Field} (exact : ∀ field ∈ fields, field.Exact) {values : List Value}
    (count : values.length = recordValueCount fields) : packRecord fields values = packFields 0 fields values := by
  rw [packRecord, if_pos count, strayCounts_of_exact exact]
  cases packFields 0 fields values <;> rfl

end CommandStream.Wire

namespace CommandStream.WireType
open Wire

variable {t : WireType} {values : List Value}

theorem gathered_of_several (several : t.fieldCount ≠ 1) (values : List Value) : t.gathered values = .tuple values := by
  unfold gathered
  split
  · exact absurd (by assumption) several
  · rfl

/-- Values given as one value are found again. -/
theorem membersOf_gathered (count : values.length = t.fieldCount) : t.membersOf (t.gathered values) = .ok values := by
  unfold membersOf
  by_cases one : t.fieldCount = 1
  · obtain ⟨v, rfl⟩ := List.length_eq_one_iff.mp (count.trans one)
    simp only [gathered, one, if_true]
  · rw [if_neg one, gathered_of_several one]
    rfl

theorem pack_gathered (plain : t.presentation = .plain) (count : values.length = t.fieldCount) :
    t.pack (t.gathered values) = (packRecord t.fields values).map fun data => data ++ zeros (t.size - data.length) := by
  have members := membersOf_gathered count
  rw [pack_eq, recorded, plain]
  simp only [Presentation.toWire, bind, Except.bind, members]
  cases packRecord t.fields values <;> rfl

/-- The fields of a type of a format are those that the format describes. -/
theorem parseFormat_of_ofFormat {name format : String} (made : ofFormat name format = .ok t) :
    parseFormat format = .ok t.fields ∧ t.presentation = .plain := by
  obtain ⟨fields, parsed, made⟩ := bind_ok made
  split at made
  · cases made
    exact ⟨parsed, rfl⟩
  · cases made

/-- A record of exact fields packs just the values that its members take, and they come out settled. -/
theorem settled_of_pack (plain : t.presentation = .plain) (sized : ∀ field ∈ t.fields, 1 ≤ field.alignment)
    (exact : ∀ field ∈ t.fields, field.Exact) (count : values.length = t.fieldCount) :
    ((∃ data, t.pack (t.gathered values) = .ok data) ↔ List.Forall₂ Member.Takes (members t.fields) values) ∧
      ∀ data, t.pack (t.gathered values) = .ok data →
        t.unpackFrom data 0 = .ok (t.gathered (List.zipWith Member.settled (members t.fields) values)) := by
  rw [← exists_packFields_iff exact count 0, pack_gathered plain count, packRecord_of_exact exact count]
  cases packed : packFields 0 t.fields values with
  | error e =>
    refine ⟨⟨fun ⟨data, never⟩ => ?_, fun ⟨data, never⟩ => ?_⟩, fun data never => ?_⟩
    all_goals cases never
  | ok record =>
    refine ⟨⟨fun _ => ⟨record, rfl⟩, fun _ => ⟨_, rfl⟩⟩, fun data whole => ?_⟩
    cases whole
    have size : recordSize t.fields = 0 + record.length := (length_packFields count packed).symm
    have read := unpackFields_packFields exact count sized packed
    rw [← unpackFields_append (Nat.le_of_eq size) (zeros (t.size - record.length))] at read
    have enough : 0 + recordSize t.fields ≤ (record ++ zeros (t.size - record.length)).length := by
      rw [List.length_append]
      omega
    have found : unpackRecord t.fields (record ++ zeros (t.size - record.length)) (0 : Nat) =
        .ok (List.zipWith Member.settled (members t.fields) values) := by
      rw [unpackRecord_of_enough enough, List.drop_zero]
      exact read
    rw [unpackFrom_eq]
    show unpackRecord t.fields _ ((0 : Nat) : Int) >>= _ = _
    rw [found]
    show t.presented _ = _
    rw [presented, plain]
    rfl

end CommandStream.WireType

namespace CommandStream.Slot
open Wire

/-- The halves of a packed handle make up the integer again. -/
theorem join_split (n : Int) : join (split n).1 (split n).2 = n := by
  have low : 0 ≤ n % halfRange := Int.emod_nonneg n (by decide)
  have high : n % halfRange < halfRange := Int.emod_lt_of_pos n (by decide)
  obtain ⟨index, own⟩ := Int.eq_ofNat_of_zero_le low
  have below : index < halfRange := by omega
  rw [split, own, join_eq_add _ below, ← own]
  exact Int.ediv_mul_add_emod n halfRange

end CommandStream.Slot

namespace CommandStream.WireType
open Wire

/-- The letters of integers, truths, bytes, byte strings, addresses and blank bytes. -/
def exactLetters : List Char := "bBhHiIlLqQnN?csPx".toList

theorem exact_of_letter {letter : Char} {count : Nat} {field : Field} (found : Field.ofLetter? letter count = some field)
    (listed : letter ∈ exactLetters) : field.Exact := by
  unfold Field.ofLetter? at found
  split at found
  all_goals first | cases found; exact trivial | exact absurd listed (by decide) | cases found

theorem exact_of_letters {format : String} {fields : List Field} (parsed : parseFormat format = .ok fields)
    (listed : ∀ item ∈ itemsOf format, item.letter ∈ exactLetters) : ∀ field ∈ fields, field.Exact := by
  intro field member
  obtain ⟨item, among, of⟩ := exists_describes parsed member
  exact exact_of_letter of.letter (listed item among)

/-! ## Addresses and handles -/

theorem pack_pointer (v : Value) :
    ((∃ data, pointer.pack v = .ok data) ↔ ∃ n, v.int? = some n ∧ -2 ^ 63 ≤ n ∧ n < 2 ^ 64) ∧
      ∀ data n, v.int? = some n → pointer.pack v = .ok data → pointer.unpackFrom data 0 = .ok (.int (n % 2 ^ 64)) := by
  have exact : ∀ field ∈ pointer.fields, field.Exact := by
    intro field member
    rw [List.mem_singleton.mp member]
    trivial
  obtain ⟨taken, settled⟩ := @settled_of_pack pointer [v] rfl (by decide) exact rfl
  constructor
  · refine taken.trans ?_
    show List.Forall₂ Member.Takes [.element .pointer] [v] ↔ _
    rw [List.forall₂_cons]
    exact and_iff_left .nil
  · intro data n own packed
    rw [settled data packed]
    show Except.ok (Scalar.settled .pointer v) = _
    rw [Scalar.settled, own]
    rfl

/-- A handle with an index of 32 bits is packed exactly if its generation has 32 bits too. -/
theorem pack_handle {generation index : Value} {g i : Int} (owns : generation.int? = some g) (names : index.int? = some i)
    (low : 0 ≤ i) (high : i < 2 ^ 32) :
    ((∃ data, handle.pack (.handle generation index) = .ok data) ↔ 0 ≤ g ∧ g < 2 ^ 32) ∧
      ∀ data, handle.pack (.handle generation index) = .ok data →
        handle.unpackFrom data 0 = .ok (.handle (.int g) (.int i)) := by
  have recorded : handle.recorded (.handle generation index) = .ok (.int (Slot.join g i)) := by
    simp only [WireType.recorded, handle, Presentation.toWire, Slot.pack, owns, names]
  have word : handle.pack (.handle generation index) = packScalar (.integer false 8) (.int (Slot.join g i)) := by
    rw [single_handle.pack_eq, recorded]
    rfl
  obtain ⟨half, rfl⟩ := Int.eq_ofNat_of_zero_le low
  have below : half < Slot.halfRange := by
    simp only [Slot.halfRange]
    omega
  have joined := Slot.join_eq_add g below
  have exact : (Scalar.integer false 8).Exact := trivial
  constructor
  · rw [word, exists_packScalar_iff exact]
    simp only [Scalar.Takes, Value.int?, Option.some.injEq, exists_eq_left', joined, Slot.halfRange]
    omega
  · intro data packed
    have read := unpackScalar_packScalar exact (by decide) (word.symm.trans packed)
    rw [single_handle.unpackFrom_eq (length_pack packed), read]
    show Slot.unpack (.int (Slot.join g half)) = _
    simp only [Slot.unpack, Value.int?, Slot.split_join g below]

/-- **Values arrive settled.** A record of exact letters packs a list of values exactly if each is taken by its member, and
then unpacks them with truths in integers as 0 and 1, truths of any value, and byte strings cut or filled. An address is packed
between `-2 ^ 63` and `2 ^ 64` and arrives without sign; a handle with an index of 32 bits is packed exactly if its generation
has 32 bits, and arrives as it was; and every integer is the packed form of the handle that it unpacks to. -/
theorem values_arrive_settled :
    (∀ (name format : String) (t : WireType) (values : List Value), ofFormat name format = .ok t →
      (∀ item ∈ itemsOf format, item.letter ∈ exactLetters) → values.length = t.fieldCount →
      ((∃ data, t.pack (t.gathered values) = .ok data) ↔ List.Forall₂ Member.Takes (members t.fields) values) ∧
      ∀ data, t.pack (t.gathered values) = .ok data →
        t.unpackFrom data 0 = .ok (t.gathered (List.zipWith Member.settled (members t.fields) values))) ∧
    (∀ v : Value, ((∃ data, pointer.pack v = .ok data) ↔ ∃ n, v.int? = some n ∧ -2 ^ 63 ≤ n ∧ n < 2 ^ 64) ∧
      ∀ data n, v.int? = some n → pointer.pack v = .ok data → pointer.unpackFrom data 0 = .ok (.int (n % 2 ^ 64))) ∧
    (∀ (generation index : Value) (g i : Int), generation.int? = some g → index.int? = some i → 0 ≤ i → i < 2 ^ 32 →
      ((∃ data, handle.pack (.handle generation index) = .ok data) ↔ 0 ≤ g ∧ g < 2 ^ 32) ∧
      ∀ data, handle.pack (.handle generation index) = .ok data →
        handle.unpackFrom data 0 = .ok (.handle (.int g) (.int i))) ∧
    ∀ n : Int, Slot.unpack (.int n) >>= Slot.pack = .ok (.int n) := by
  refine ⟨fun name format t values made listed count => ?_, pack_pointer,
    fun generation index g i owns names low high => pack_handle owns names low high, fun n => ?_⟩
  · obtain ⟨parsed, plain⟩ := parseFormat_of_ofFormat made
    exact settled_of_pack plain (alignment_pos_of_parsed parsed) (exact_of_letters parsed listed) count
  · show Slot.pack (.handle (.int (Slot.split n).1) (.int (Slot.split n).2)) = _
    simp only [Slot.pack, Value.int?, Slot.join_split]

end CommandStream.WireType

namespace CommandStream.MixedRecord
open Wire

/-- A record with a byte, a blank byte, a truth, a byte string and a word, and a gap in front of the word. -/
def record : WireType where
  name := "record"
  format := "Bx?3sq"
  fields := [.scalars (.integer false 1) 1, .padding 1, .scalars .truth 1, .string 3, .scalars (.integer true 8) 1]
  presentation := .plain

/-- A truth arrives as an integer, a text as a truth, and bytes filled up; a word stays what it was. -/
theorem arrives : ∃ data, record.pack (.tuple [.truth true, .text "x", .bytes [7], .int (-2)]) = .ok data ∧
    record.unpackFrom data 0 = .ok (.tuple [.int 1, .truth true, .bytes [7, 0, 0], .int (-2)]) := by
  obtain ⟨codec, -⟩ := WireType.values_arrive_settled
  obtain ⟨taken, settled⟩ := codec "record" "Bx?3sq" record [.truth true, .text "x", .bytes [7], .int (-2)] rfl (by decide) rfl
  have each : List.Forall₂ Member.Takes (members record.fields) [.truth true, .text "x", .bytes [7], .int (-2)] :=
    .cons ⟨1, rfl, by decide, by decide⟩ <| .cons trivial <| .cons ⟨[7], rfl⟩ <| .cons ⟨-2, rfl, by decide, by decide⟩ .nil
  obtain ⟨data, packed⟩ := taken.mpr each
  exact ⟨data, packed, settled data packed⟩

end CommandStream.MixedRecord
