import CommandStream.Proofs.Lookup
import CommandStream.Proofs.Wire.Record

/-!
# Types of one element

Every C type that travels does so as one element, handles as an unsigned word. What is packed of such
a type is always unpacked: integers that fit as they were, handles with 32-bit fields too.
-/

namespace CommandStream.Wire

theorem ofLittleEndian_packInteger (size : Nat) (n : Int) :
    (ofLittleEndian (packInteger size n) : Int) = n % (2 ^ (8 * size) : Nat) := by
  have power : 256 ^ size = 2 ^ (8 * size) := by rw [show 256 = 2 ^ 8 from rfl, Nat.pow_mul]
  have positive : 0 < 2 ^ (8 * size) := Nat.two_pow_pos _
  have nonneg : 0 ≤ n % (2 ^ (8 * size) : Nat) := Int.emod_nonneg n (by omega)
  have below : n % (2 ^ (8 * size) : Nat) < (2 ^ (8 * size) : Nat) := Int.emod_lt_of_pos n (by omega)
  rw [packInteger, ofLittleEndian_littleEndian, power, Nat.mod_eq_of_lt (by omega)]
  omega

/-- An integer in the range of a field comes out of its bytes as it went in. -/
theorem unpackInteger_packInteger {signed : Bool} {size : Nat} (sized : 1 ≤ size) {n : Int}
    (low : (integerRange signed size).1 ≤ n) (high : n ≤ (integerRange signed size).2) :
    unpackInteger signed (packInteger size n) = n := by
  have read := ofLittleEndian_packInteger size n
  have half : 2 ^ (8 * size) = 2 * 2 ^ (8 * size - 1) := by
    rw [← Nat.pow_succ', show (8 * size - 1).succ = 8 * size by omega]
  simp only [unpackInteger, length_packInteger]
  cases signed with
  | false =>
    simp only [integerRange, Bool.false_eq_true, if_false] at low high
    rw [Int.emod_eq_of_lt low (by omega)] at read
    simpa using read
  | true =>
    simp only [integerRange, if_true] at low high
    by_cases negative : n < 0
    · have wrapped : n % (2 ^ (8 * size) : Nat) = n + (2 ^ (8 * size) : Nat) := by
        rw [← Int.add_emod_right, Int.emod_eq_of_lt (by omega) (by omega)]
      rw [wrapped] at read
      have upper : 2 ^ (8 * size - 1) ≤ ofLittleEndian (packInteger size n) := by omega
      simp only [Bool.true_and, upper, decide_true, if_true, read]
      omega
    · rw [Int.emod_eq_of_lt (by omega) (by omega)] at read
      have lower : ¬ 2 ^ (8 * size - 1) ≤ ofLittleEndian (packInteger size n) := by omega
      simp only [Bool.true_and, lower, decide_false, Bool.false_eq_true, if_false, read]

theorem packScalar_integer {signed : Bool} {size : Nat} {n : Int} (low : (integerRange signed size).1 ≤ n)
    (high : n ≤ (integerRange signed size).2) :
    packScalar (.integer signed size) (.int n) = .ok (packInteger size n) := by
  simp only [packScalar, integerWithin, Value.int?, if_pos (And.intro low high)]
  rfl

theorem packScalar_pointer {n : Int} (low : (integerRange true 8).1 ≤ n) (high : n ≤ (integerRange false 8).2) :
    packScalar .pointer (.int n) = .ok (packInteger 8 n) := by
  simp only [packScalar, integerWithin, Value.int?, if_pos (And.intro low high)]
  rfl

end CommandStream.Wire

namespace CommandStream.Slot
open Wire

theorem join_low (g : Nat) {i : Nat} (index : i < halfRange) : (integerRange false 8).1 ≤ join g i := by
  rw [join_eq_add g index]
  simp only [integerRange, halfRange, Bool.false_eq_true, if_false]
  omega

theorem join_high {g i : Nat} (generation : g < halfRange) (index : i < halfRange) :
    join g i ≤ (integerRange false 8).2 := by
  rw [join_eq_add g index]
  simp only [integerRange, halfRange, Bool.false_eq_true, if_false] at generation index ⊢
  omega

end CommandStream.Slot

namespace CommandStream.WireType
open Wire

/-- A type whose record is one element, without hooks of its own; handles travel as unsigned words. -/
structure Single (t : WireType) (kind : Scalar) : Prop where
  fields : t.fields = [.scalars kind 1]
  sized : 1 ≤ kind.size
  handle : t.presentation = .handle → kind = .integer false 8
  hookless : ∀ toWire fromWire, t.presentation ≠ .hooks toWire fromWire

variable {t : WireType} {kind : Scalar}

theorem single_scalar (name format : String) (sized : 1 ≤ kind.size) : (scalar name format kind).Single kind :=
  ⟨rfl, sized, (fun h => nomatch h), fun _ _ h => nomatch h⟩

theorem single_handle : handle.Single (.integer false 8) :=
  ⟨rfl, by decide, fun _ => rfl, fun _ _ h => nomatch h⟩

theorem Single.plain_or_handle (s : t.Single kind) : t.presentation = .plain ∨ t.presentation = .handle := by
  cases presented : t.presentation with
  | plain => exact .inl rfl
  | handle => exact .inr rfl
  | hooks toWire fromWire => exact absurd presented (s.hookless toWire fromWire)

/-- A type of plain unsigned integers, as command ids are. -/
def CarriesIds (t : WireType) : Prop :=
  ∃ size, t.Single (.integer false size) ∧ t.presentation = .plain

theorem carriesIds (width : IdWidth) : width.wireType.CarriesIds := by
  cases width <;> exact ⟨_, single_scalar _ _ (by decide), rfl⟩

theorem Single.size_pos (s : t.Single kind) : 1 ≤ t.size := by
  have := s.sized
  have room := recordSize_le_size t
  have record : recordSize t.fields = gap 0 kind.size + kind.size := by
    simp [s.fields, recordSize, Field.endFrom, Field.alignment, Field.size]
  omega

theorem Single.gap_size (s : t.Single kind) : t.size = kind.size := by
  have := s.sized
  have alignment : t.alignment = kind.size := by
    simp only [WireType.alignment, s.fields, List.map_cons, List.map_nil, List.foldl_cons, List.foldl_nil]
    exact Nat.max_eq_right this
  have record : recordSize t.fields = kind.size := by
    simp [s.fields, recordSize, Field.endFrom, Field.alignment, Field.size, gap]
  simp [WireType.size, alignment, record, gap]

theorem Single.fieldCount (s : t.Single kind) : t.fieldCount = 1 := by
  simp [WireType.fieldCount, s.fields, recordValueCount, Field.valueCount]

theorem Single.packRecord (s : t.Single kind) (v : Value) : Wire.packRecord t.fields [v] = packScalar kind v := by
  rw [s.fields]
  cases packed : packScalar kind v <;>
    simp [Wire.packRecord, recordValueCount, Field.valueCount, packFields, packField, packScalars, packed, strayCounts,
      gap, zeros, bind, Except.bind]

/-- A single value is packed as its element. -/
theorem Single.pack_eq (s : t.Single kind) (v : Value) : t.pack v = t.recorded v >>= packScalar kind := by
  rw [WireType.pack_eq]
  cases t.recorded v with
  | error e => rfl
  | ok plain =>
    have members : t.membersOf plain = .ok [plain] := by simp [membersOf, s.fieldCount]
    simp only [bind, Except.bind, members, s.packRecord]
    cases packed : packScalar kind plain with
    | error e => rfl
    | ok data => simp [s.gap_size, length_packScalar packed, zeros]

/-- A single value is unpacked from its bytes alone. -/
theorem Single.unpackFrom_eq (s : t.Single kind) {data : List UInt8} (whole : data.length = t.size) :
    t.unpackFrom data 0 = t.presented (unpackScalar kind data) := by
  have size : data.length = kind.size := by rw [whole, s.gap_size]
  have members : unpackRecord t.fields data 0 = .ok [unpackScalar kind data] := by
    have place : place? data.length (recordSize t.fields) 0 = some 0 := by
      have record : recordSize t.fields = kind.size := by
        simp [s.fields, recordSize, Field.endFrom, Field.alignment, Field.size, gap]
      simp [place?, record, size]
    rw [unpackRecord, place, s.fields]
    simp [unpackFields, unpackField, unpackScalars, gap, Field.alignment, ← size, bind, Except.bind]
  unfold unpackFrom presented
  rw [members, s.fieldCount]
  rfl

/-- A plain value that is packed is unpacked as well. -/
theorem Single.delivered_plain (s : t.Single kind) (plain : t.presentation = .plain) (v : Value) :
    t.delivered v = unpackScalar kind <$> packScalar kind v := by
  have packed : t.pack v = packScalar kind v := by
    rw [s.pack_eq, recorded, plain]
    rfl
  unfold delivered
  rw [packed]
  cases bytes : packScalar kind v with
  | error e => rfl
  | ok data =>
    have read := s.unpackFrom_eq (length_pack (packed.trans bytes))
    show t.unpackFrom data 0 = .ok (unpackScalar kind data)
    rw [read, presented, plain]
    rfl

/-- The integers that a type holds. -/
def bounds? (t : WireType) : Option (Int × Int) :=
  match t.presentation, t.fields with
  | .plain, [.scalars (.integer signed size) 1] => some (integerRange signed size)
  | .plain, [.scalars .pointer 1] => some (integerRange false 8)
  | _, _ => none

/-- An integer that a type holds arrives as it was. -/
theorem Single.delivered_int (s : t.Single kind) {range : Int × Int} {n : Int} (bounds : t.bounds? = some range)
    (above : range.1 ≤ n) (below : n ≤ range.2) : t.delivered (.int n) = .ok (.int n) := by
  unfold bounds? at bounds
  rw [s.fields] at bounds
  split at bounds
  · rename_i signed size plain element
    simp only [List.cons.injEq, Field.scalars.injEq, and_true] at element
    subst element
    have sized : 1 ≤ size := s.sized
    rw [← Option.some.inj bounds] at above below
    rw [s.delivered_plain plain, packScalar_integer above below]
    simp only [Functor.map, Except.map, unpackScalar, unpackInteger_packInteger sized above below]
  · rename_i plain element
    simp only [List.cons.injEq, Field.scalars.injEq, and_true] at element
    subst element
    rw [← Option.some.inj bounds] at above below
    have low : (integerRange true 8).1 ≤ n := Int.le_trans (by decide) above
    rw [s.delivered_plain plain, packScalar_pointer low below]
    simp only [Functor.map, Except.map, unpackScalar, unpackInteger_packInteger (show 1 ≤ 8 by decide) above below]
  · cases bounds

/-- An id that arrives is the id that was sent. -/
theorem CarriesIds.delivered (ids : t.CarriesIds) {n : Int} {w : Value} (arrives : t.delivered (.int n) = .ok w) :
    w = .int n := by
  obtain ⟨size, s, plain⟩ := ids
  by_cases inside : (integerRange false size).1 ≤ n ∧ n ≤ (integerRange false size).2
  · have bounds : t.bounds? = some (integerRange false size) := by
      simp only [bounds?, plain, s.fields]
    rw [s.delivered_int bounds inside.1 inside.2] at arrives
    cases arrives
    rfl
  · rw [s.delivered_plain plain] at arrives
    simp only [packScalar, integerWithin, Value.int?, if_neg inside] at arrives
    cases arrives

theorem CarriesIds.size_pos (ids : t.CarriesIds) : 1 ≤ t.size := by
  obtain ⟨size, s, -⟩ := ids
  exact s.size_pos

/-! ## Handles -/

theorem Single.unpackScalar_of_handle (s : t.Single kind) (isHandle : t.presentation = .handle) (data : List UInt8) :
    unpackScalar kind data = .int (unpackInteger false data) := by
  rw [s.handle isHandle]
  rfl

/-- What arrives as a handle is a pair of integers. -/
theorem Single.handle_of_delivered (s : t.Single kind) (isHandle : t.presentation = .handle) {v w : Value}
    (arrives : t.delivered v = .ok w) : ∃ g i : Int, w = .handle (.int g) (.int i) := by
  obtain ⟨data, packed, read⟩ := bind_ok arrives
  rw [s.unpackFrom_eq (length_pack packed), s.unpackScalar_of_handle isHandle, presented, isHandle] at read
  cases read
  exact ⟨_, _, rfl⟩

/-- What is packed is also unpacked. -/
theorem Single.delivered_of_pack (s : t.Single kind) {v : Value} {data : List UInt8} (packed : t.pack v = .ok data) :
    ∃ w, t.delivered v = .ok w := by
  have whole := length_pack packed
  unfold delivered
  rw [packed]
  show ∃ w, t.unpackFrom data 0 = .ok w
  rw [s.unpackFrom_eq whole]
  unfold presented
  rcases s.plain_or_handle with plain | isHandle
  · rw [plain]
    exact ⟨_, rfl⟩
  · rw [s.unpackScalar_of_handle isHandle, isHandle]
    exact ⟨_, rfl⟩

/-- A packed handle that fits its word arrives as the word says. -/
theorem Single.delivered_of_recorded (s : t.Single kind) (isHandle : t.presentation = .handle) {v : Value} {n : Int}
    (recorded : t.recorded v = .ok (.int n)) (low : (integerRange false 8).1 ≤ n)
    (high : n ≤ (integerRange false 8).2) : t.delivered v = Slot.unpack (.int n) := by
  have packed : t.pack v = .ok (packInteger 8 n) := by
    rw [s.pack_eq, recorded, s.handle isHandle]
    exact packScalar_integer low high
  have read := s.unpackFrom_eq (length_pack packed)
  rw [s.unpackScalar_of_handle isHandle, unpackInteger_packInteger (by decide) low high, presented, isHandle] at read
  unfold delivered
  rw [packed]
  exact read

/-- A handle with 32-bit fields arrives as it was. -/
theorem Single.delivered_handle (s : t.Single kind) (isHandle : t.presentation = .handle) {g i : Nat}
    (generation : g < Slot.halfRange) (index : i < Slot.halfRange) :
    t.delivered (.handle (.int g) (.int i)) = .ok (.handle (.int g) (.int i)) := by
  have recorded : t.recorded (.handle (.int g) (.int i)) = .ok (.int (Slot.join g i)) := by
    rw [WireType.recorded, isHandle]
    rfl
  have split := Slot.split_join g index
  rw [s.delivered_of_recorded isHandle recorded (Slot.join_low g index) (Slot.join_high generation index)]
  show Except.ok (Value.handle (.int (Slot.split (Slot.join g i)).1) (.int (Slot.split (Slot.join g i)).2)) = _
  rw [split]

end CommandStream.WireType

namespace CommandStream
open Wire

theorem single_of_plainType : ∀ entry ∈ WireType.ofPlainType,
    entry.2.presentation = .plain ∧ ∃ kind, entry.2.Single kind := by
  intro entry member
  simp only [WireType.ofPlainType, List.mem_cons, List.not_mem_nil, or_false] at member
  rcases member with rfl | rfl | rfl | rfl | rfl | rfl | rfl | rfl | rfl | rfl | rfl | rfl | rfl | rfl | rfl | rfl |
    rfl | rfl | rfl | rfl | rfl | rfl | rfl | rfl | rfl | rfl | rfl | rfl | rfl
  all_goals exact ⟨rfl, _, WireType.single_scalar _ _ (by decide)⟩

/-- Every C type that travels is a single element, and a handle only by its name. -/
theorem single_of_wireTypeFor {cType : String} {enumTypes : List String} {t : WireType}
    (found : wireTypeFor cType enumTypes = .ok t) :
    (∃ kind, t.Single kind) ∧ (t.presentation = .handle → finishesWith (trimmed cType) "Handle" = true) := by
  unfold wireTypeFor at found
  dsimp only at found
  split at found
  · cases found
    exact ⟨⟨_, WireType.single_scalar _ _ (by decide)⟩, fun h => nomatch h⟩
  split at found
  · rename_i named
    cases found
    exact ⟨⟨_, WireType.single_handle⟩, fun _ => named⟩
  split at found
  · cases found
    exact ⟨⟨_, WireType.single_scalar _ _ (by decide)⟩, fun h => nomatch h⟩
  split at found
  · rename_i entry
    cases found
    obtain ⟨plain, single⟩ := single_of_plainType _ (mem_of_lookup entry)
    exact ⟨single, fun h => nomatch plain.symm.trans h⟩
  · cases found

end CommandStream
