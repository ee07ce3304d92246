import CommandStream.Proofs.Failure
import CommandStream.Wire.Type

/-!
# Records among other bytes

A packed value is as long as its type says, and unpacking it looks at its own bytes only: what lies
before and behind them is of no account. Both hold of every format.
-/

namespace CommandStream.Wire

/-! ## Lengths -/

@[simp] theorem length_zeros (count : Nat) : (zeros count).length = count := by
  simp [zeros]

@[simp] theorem length_packInteger (size : Nat) (n : Int) : (packInteger size n).length = size := by
  simp [packInteger]

theorem length_packScalar {kind : Scalar} {v : Value} {data : List UInt8} (packed : packScalar kind v = .ok data) :
    data.length = kind.size := by
  cases kind with
  | integer signed size =>
    obtain ⟨n, -, rest⟩ := bind_ok packed
    cases rest
    exact length_packInteger size n
  | pointer =>
    obtain ⟨n, -, rest⟩ := bind_ok packed
    cases rest
    exact length_packInteger 8 n
  | truth =>
    cases packed
    rfl
  | byte =>
    simp only [packScalar] at packed
    split at packed
    · cases packed
      rfl
    · cases packed
  | half =>
    obtain ⟨bits, -, rest⟩ := bind_ok packed
    split at rest
    · cases rest
      exact length_littleEndian 2 _
    · cases rest
  | single =>
    obtain ⟨bits, -, rest⟩ := bind_ok packed
    cases rest
    exact length_littleEndian 4 _
  | double =>
    obtain ⟨bits, -, rest⟩ := bind_ok packed
    cases rest
    exact length_littleEndian 8 _

theorem length_packScalars {kind : Scalar} {values : List Value} {data : List UInt8}
    (packed : packScalars kind values = .ok data) : data.length = kind.size * values.length := by
  induction values generalizing data with
  | nil =>
    cases packed
    rfl
  | cons v rest ih =>
    obtain ⟨first, one, packed⟩ := bind_ok packed
    obtain ⟨others, more, packed⟩ := bind_ok packed
    cases packed
    rw [List.length_append, length_packScalar one, ih more, List.length_cons, Nat.mul_succ, Nat.add_comm]

theorem length_packField {field : Field} {values : List Value} {data : List UInt8}
    (count : values.length = field.valueCount) (packed : packField field values = .ok data) :
    data.length = field.size := by
  cases field with
  | padding n =>
    cases packed
    exact length_zeros n
  | scalars kind n =>
    rw [length_packScalars packed, count]
    rfl
  | string n =>
    simp only [packField] at packed
    split at packed
    · cases packed
      exact length_fitted n _
    · cases packed
  | counted n =>
    simp only [packField] at packed
    split at packed
    · split at packed
      · cases packed
        rfl
      · cases packed
        simp [Field.size]
    · cases packed

theorem le_endFrom (field : Field) (offset : Nat) : offset ≤ field.endFrom offset := by
  unfold Field.endFrom
  omega

theorem le_foldl_endFrom (fields : List Field) (offset : Nat) : offset ≤ fields.foldl Field.endFrom offset := by
  induction fields generalizing offset with
  | nil => exact Nat.le_refl offset
  | cons field rest ih => exact Nat.le_trans (le_endFrom field offset) (ih _)

theorem length_packFields {fields : List Field} {offset : Nat} {values : List Value} {data : List UInt8}
    (count : values.length = recordValueCount fields) (packed : packFields offset fields values = .ok data) :
    offset + data.length = fields.foldl Field.endFrom offset := by
  induction fields generalizing offset values data with
  | nil =>
    cases packed
    rfl
  | cons field rest ih =>
    obtain ⟨own, one, packed⟩ := bind_ok packed
    obtain ⟨others, more, packed⟩ := bind_ok packed
    cases packed
    have total : values.length = field.valueCount + recordValueCount rest := by
      simpa [recordValueCount] using count
    have first := length_packField (by rw [List.length_take]; omega) one
    have tail := ih (by rw [List.length_drop]; omega) more
    rw [List.foldl_cons, ← tail]
    simp only [List.length_append, length_zeros, first, Field.endFrom]
    omega

theorem length_foldl_set (places : List Nat) (b : UInt8) (data : List UInt8) :
    (places.foldl (fun data offset => data.set offset b) data).length = data.length := by
  induction places generalizing data with
  | nil => rfl
  | cons place rest ih => rw [List.foldl_cons, ih, List.length_set]

theorem length_packRecord {fields : List Field} {values : List Value} {data : List UInt8}
    (packed : packRecord fields values = .ok data) : data.length = recordSize fields := by
  unfold packRecord at packed
  split at packed
  · rename_i count
    obtain ⟨plain, one, packed⟩ := bind_ok packed
    cases packed
    rw [length_foldl_set]
    simpa [recordSize] using length_packFields count one
  · cases packed

/-! ## Locality -/

theorem unpackScalars_append (kind : Scalar) {count : Nat} {data : List UInt8}
    (enough : kind.size * count ≤ data.length) (after : List UInt8) :
    unpackScalars kind count (data ++ after) = unpackScalars kind count data := by
  induction count generalizing data with
  | zero => rfl
  | succ count ih =>
    have room : kind.size * count + kind.size ≤ data.length := enough
    have first : kind.size ≤ data.length := by omega
    simp only [unpackScalars, List.take_append_of_le_length first, List.drop_append_of_le_length first]
    rw [ih (by rw [List.length_drop]; omega)]

theorem unpackField_append {field : Field} {data : List UInt8} (enough : field.size ≤ data.length)
    (after : List UInt8) : unpackField field (data ++ after) = unpackField field data := by
  cases field with
  | padding n => rfl
  | scalars kind n => simp only [unpackField, unpackScalars_append kind enough after]
  | string n => simp only [unpackField, List.take_append_of_le_length (show n ≤ data.length from enough)]
  | counted n =>
    cases n with
    | zero => rfl
    | succ room =>
      cases data with
      | nil => simp [Field.size] at enough
      | cons count rest =>
        have short : min count.toNat room ≤ rest.length := by
          have : room + 1 ≤ rest.length + 1 := enough
          omega
        simp only [unpackField, List.cons_append, List.take_append_of_le_length short]

theorem unpackFields_append {fields : List Field} {offset : Nat} {data : List UInt8}
    (enough : fields.foldl Field.endFrom offset ≤ offset + data.length) (after : List UInt8) :
    unpackFields offset fields (data ++ after) = unpackFields offset fields data := by
  induction fields generalizing offset data with
  | nil => rfl
  | cons field rest ih =>
    have bound := Nat.le_trans (le_foldl_endFrom rest (field.endFrom offset)) enough
    have ends : field.endFrom offset = offset + gap offset field.alignment + field.size := rfl
    have skip : gap offset field.alignment ≤ data.length := by omega
    have own : field.size ≤ (data.drop (gap offset field.alignment)).length := by
      rw [List.length_drop]
      omega
    have rest_enough : rest.foldl Field.endFrom (field.endFrom offset) ≤ field.endFrom offset +
        ((data.drop (gap offset field.alignment)).drop field.size).length := by
      rw [List.length_drop, List.length_drop]
      rw [List.foldl_cons] at enough
      omega
    simp only [unpackFields, List.drop_append_of_le_length skip, List.drop_append_of_le_length own]
    rw [unpackField_append own, ih rest_enough]

/-- A record is unpacked the same wherever it lies. -/
theorem unpackRecord_embedded {fields : List Field} {data : List UInt8} (enough : recordSize fields ≤ data.length)
    (before after : List UInt8) :
    unpackRecord fields (before ++ data ++ after) before.length = unpackRecord fields data 0 := by
  have inside : place? (before ++ data ++ after).length (recordSize fields) before.length = some before.length := by
    have low : ¬ ((before.length : Int) < 0) := by omega
    have high : ¬ ((before.length : Int) + recordSize fields > ((before ++ data ++ after).length : Nat)) := by
      simp only [List.length_append]
      omega
    unfold place?
    rw [if_neg low, if_neg high, Int.toNat_natCast]
  have start : place? data.length (recordSize fields) 0 = some 0 := by
    have high : ¬ ((recordSize fields : Int) > data.length) := by omega
    simp [place?, high]
  have whole : recordSize fields ≤ 0 + data.length := by omega
  simp only [unpackRecord, inside, start, List.drop_zero]
  rw [List.append_assoc, List.drop_left, unpackFields_append whole after]

end CommandStream.Wire

namespace CommandStream.WireType
open Wire

variable {t : WireType}

theorem recordSize_le_size (t : WireType) : recordSize t.fields ≤ t.size :=
  Nat.le_add_right _ _

/-- A value as its record holds it. -/
def recorded (t : WireType) (v : Value) : Except CodecError Value :=
  t.presentation.toWire v

/-- A value as it is presented, from what its record holds. -/
def presented (t : WireType) (v : Value) : Except CodecError Value :=
  t.presentation.fromWire v

theorem pack_eq (t : WireType) (v : Value) :
    t.pack v = (do
      let plain ← t.recorded v
      let members ← t.membersOf plain
      let data ← packRecord t.fields members
      .ok (data ++ zeros (t.size - data.length))) := rfl

/-- The values of a record as one value: the value itself if there is one, a tuple of them if not. -/
def gathered (t : WireType) (members : List Value) : Value :=
  match t.fieldCount, members with
  | 1, [member] => member
  | _, _ => .tuple members

theorem unpackFrom_eq (t : WireType) (data : List UInt8) (offset : Int) :
    t.unpackFrom data offset = unpackRecord t.fields data offset >>= fun members => t.presented (t.gathered members) := rfl

/-- A packed value has the size of its type. -/
theorem length_pack {v : Value} {data : List UInt8} (packed : t.pack v = .ok data) : data.length = t.size := by
  rw [pack_eq] at packed
  obtain ⟨plain, -, packed⟩ := bind_ok packed
  obtain ⟨members, -, packed⟩ := bind_ok packed
  obtain ⟨record, one, packed⟩ := bind_ok packed
  cases packed
  have := recordSize_le_size t
  rw [List.length_append, length_zeros, length_packRecord one]
  omega

/-- A value is unpacked the same wherever its bytes lie. -/
theorem unpackFrom_embedded {data : List UInt8} (whole : data.length = t.size) (before after : List UInt8) :
    t.unpackFrom (before ++ data ++ after) before.length = t.unpackFrom data 0 := by
  have enough : recordSize t.fields ≤ data.length := whole ▸ recordSize_le_size t
  simp only [unpackFrom, unpackRecord_embedded enough]

/-- A value as it arrives behind a transfer. -/
def delivered (t : WireType) (v : Value) : Except CodecError Value := do
  t.unpackFrom (← t.pack v) 0

end CommandStream.WireType
