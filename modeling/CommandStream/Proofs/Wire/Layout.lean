import CommandStream.Proofs.Wire.Record

/-!
# Where the fields of a record lie

A record is unpacked field by field, each at its offset in the layout. With all its bytes at hand it has the values that
its fields take, and there is one reason for which they are not given: a counted string without room for its count.
-/

namespace CommandStream.Wire

/-- The fields that follow an offset, each with the offset at which it lies. -/
def layout (offset : Nat) : List Field → List (Nat × Field)
  | [] => []
  | field :: rest => (offset + gap offset field.alignment, field) :: layout (field.endFrom offset) rest

variable {fields : List Field} {field : Field} {offset : Nat} {data : List UInt8} {values : List Value}

/-- The offset of a field is a multiple of its alignment. -/
theorem aligned_of_mem_layout {entry : Nat × Field} (member : entry ∈ layout offset fields)
    (sized : ∀ field ∈ fields, 0 < field.alignment) : entry.2 ∈ fields ∧ entry.2.alignment ∣ entry.1 := by
  induction fields generalizing offset with
  | nil => cases member
  | cons field rest ih =>
    rcases List.mem_cons.mp member with rfl | later
    · exact ⟨List.mem_cons_self, dvd_add_gap offset (sized field List.mem_cons_self)⟩
    · obtain ⟨listed, aligned⟩ := ih later fun other h => sized other (List.mem_cons_of_mem _ h)
      exact ⟨List.mem_cons_of_mem _ listed, aligned⟩

/-- Every field is unpacked from the bytes at its offset. -/
theorem unpackFields_eq_layout (start : Nat) : unpackFields offset fields (data.drop (start + offset)) =
    List.flatten <$> (layout offset fields).mapM fun entry => unpackField entry.2 (data.drop (start + entry.1)) := by
  induction fields generalizing offset with
  | nil => rfl
  | cons field rest ih =>
    have own : (data.drop (start + offset)).drop (gap offset field.alignment) =
        data.drop (start + (offset + gap offset field.alignment)) := by
      rw [List.drop_drop, Nat.add_assoc]
    have behind : (data.drop (start + (offset + gap offset field.alignment))).drop field.size =
        data.drop (start + field.endFrom offset) := by
      rw [List.drop_drop, Field.endFrom, Nat.add_assoc]
    simp only [unpackFields, layout, List.mapM_cons, own, behind, ih]
    cases unpackField field (data.drop (start + (offset + gap offset field.alignment))) with
    | error e => rfl
    | ok first =>
      cases (layout (field.endFrom offset) rest).mapM fun entry => unpackField entry.2 (data.drop (start + entry.1)) with
      | error e => rfl
      | ok others => rfl

/-! ## How many values -/

@[simp] theorem length_unpackScalars (kind : Scalar) (count : Nat) (data : List UInt8) :
    (unpackScalars kind count data).length = count := by
  induction count generalizing data with
  | zero => rfl
  | succ count ih => rw [unpackScalars, List.length_cons, ih]

theorem length_unpackField (unpacked : unpackField field data = .ok values) : values.length = field.valueCount := by
  cases field with
  | padding count =>
    cases unpacked
    rfl
  | scalars kind count =>
    cases unpacked
    exact length_unpackScalars kind count data
  | string length =>
    cases unpacked
    rfl
  | counted length =>
    simp only [unpackField] at unpacked
    split at unpacked
    · cases unpacked
      rfl
    · cases unpacked

theorem recordValueCount_cons (field : Field) (rest : List Field) :
    recordValueCount (field :: rest) = field.valueCount + recordValueCount rest := rfl

theorem length_unpackFields (unpacked : unpackFields offset fields data = .ok values) :
    values.length = recordValueCount fields := by
  induction fields generalizing offset data values with
  | nil =>
    cases unpacked
    rfl
  | cons field rest ih =>
    obtain ⟨first, one, unpacked⟩ := bind_ok unpacked
    obtain ⟨others, more, unpacked⟩ := bind_ok unpacked
    cases unpacked
    rw [List.length_append, length_unpackField one, ih more, recordValueCount_cons]

theorem length_unpackRecord {place : Int} (unpacked : unpackRecord fields data place = .ok values) :
    values.length = recordValueCount fields := by
  unfold unpackRecord at unpacked
  split at unpacked
  · cases unpacked
  · exact length_unpackFields unpacked

/-! ## When there are any -/

theorem unpackField_without_room (data : List UInt8) : unpackField (.counted 0) data = .error .noRoomForCount := rfl

theorem exists_unpackField (enough : field.size ≤ data.length) (roomy : field ≠ .counted 0) :
    ∃ values, unpackField field data = .ok values := by
  cases field with
  | padding count => exact ⟨_, rfl⟩
  | scalars kind count => exact ⟨_, rfl⟩
  | string length => exact ⟨_, rfl⟩
  | counted length =>
    cases length with
    | zero => exact absurd rfl roomy
    | succ room =>
      cases data with
      | nil => simp [Field.size] at enough
      | cons count rest => exact ⟨_, rfl⟩

/-- Fields with all their bytes at hand are unpacked, unless a count among them has no room. -/
theorem unpackFields_of_enough (enough : fields.foldl Field.endFrom offset ≤ offset + data.length) :
    if .counted 0 ∈ fields then unpackFields offset fields data = .error .noRoomForCount
    else ∃ values, unpackFields offset fields data = .ok values := by
  induction fields generalizing offset data with
  | nil => exact ⟨[], rfl⟩
  | cons field rest ih =>
    have bound := Nat.le_trans (le_foldl_endFrom rest (field.endFrom offset)) enough
    have ends : field.endFrom offset = offset + gap offset field.alignment + field.size := rfl
    have own : field.size ≤ (data.drop (gap offset field.alignment)).length := by
      rw [List.length_drop]
      omega
    have others := @ih (field.endFrom offset) ((data.drop (gap offset field.alignment)).drop field.size) <| by
      rw [List.length_drop, List.length_drop]
      rw [List.foldl_cons] at enough
      omega
    by_cases roomless : field = .counted 0
    · subst roomless
      rw [if_pos List.mem_cons_self]
      simp only [unpackFields, unpackField_without_room]
      rfl
    · obtain ⟨first, one⟩ := exists_unpackField own roomless
      have apart : ¬ Field.counted 0 = field := fun same => roomless same.symm
      simp only [List.mem_cons, apart, false_or, unpackFields, one]
      split at others
      · rename_i present
        rw [if_pos present, others]
        rfl
      · rename_i absent
        obtain ⟨more, rest⟩ := others
        rw [if_neg absent, rest]
        exact ⟨_, rfl⟩

/-- The bytes of a record are found where all of them lie. -/
theorem place?_of_enough {needed size : Nat} (enough : offset + needed ≤ size) : place? size needed offset = some offset := by
  have low : ¬ ((offset : Int) < 0) := by omega
  have high : ¬ ((offset : Int) + needed > size) := by omega
  rw [place?, if_neg low, if_neg high, Int.toNat_natCast]

theorem unpackRecord_of_enough (enough : offset + recordSize fields ≤ data.length) :
    unpackRecord fields data offset = unpackFields 0 fields (data.drop offset) := by
  rw [unpackRecord, place?_of_enough enough]

end CommandStream.Wire
