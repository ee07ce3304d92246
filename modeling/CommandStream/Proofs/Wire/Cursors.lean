import CommandStream.Proofs.Wire.Layout
import CommandStream.Proofs.Wire.Leftover

/-!
# Cursors in bounds

Whatever is written and read, whether or not it fits, a buffer has its read cursor in front of its write cursor and that in
front of the end of its bytes; the bytes stay until all of them are dropped. So the bound that reading looks at, the size of
a type with its filling in front of the write cursor, leaves enough bytes for the record in the data, and a read within it
fails only by the record itself: by a counted string that has no room for its count, or by a value that is not presented.
-/

namespace CommandStream
open Wire

/-- A use of a buffer: a call, or dropping all that it holds. -/
inductive BufferUse where
  | call (c : BufferCall)
  | reset

namespace WireType

variable {t : WireType}

/-- A type that presents whatever values its record gives. -/
def PresentsAll (t : WireType) : Prop :=
  ∀ data offset members, unpackRecord t.fields data offset = .ok members → ∃ v, t.presented (t.gathered members) = .ok v

theorem presentsAll_of_plain (plain : t.presentation = .plain) : t.PresentsAll := by
  intro data offset members _
  rw [presented, plain]
  exact ⟨_, rfl⟩

theorem presentsAll_handle : handle.PresentsAll := by
  intro data offset members unpacked
  unfold unpackRecord at unpacked
  split at unpacked
  · cases unpacked
  · cases unpacked
    exact ⟨_, rfl⟩

end WireType

namespace Buffer

variable {b : Buffer} {t : WireType}

/-- A buffer behind a use. -/
def use (b : Buffer) : BufferUse → Buffer
  | .call c => (b.perform c).state
  | .reset => empty

/-- A buffer behind some uses. -/
def used (b : Buffer) (uses : List BufferUse) : Buffer :=
  uses.foldl use b

theorem Bounded.used (bounded : b.Bounded) (uses : List BufferUse) : (b.used uses).Bounded := by
  induction uses generalizing b with
  | nil => exact bounded
  | cons first rest ih =>
    cases first with
    | call c => exact ih (bounded.perform c)
    | reset => exact ih bounded_empty

/-! ## Bytes that stay -/

/-- A buffer that has grown out of another. -/
structure Grown (b b' : Buffer) : Prop where
  data : b.data <+: b'.data
  writeCursor : b.writeCursor ≤ b'.writeCursor

theorem Grown.refl (b : Buffer) : Grown b b :=
  ⟨List.prefix_refl _, Nat.le_refl _⟩

theorem Grown.trans {b₁ b₂ b₃ : Buffer} (first : Grown b₁ b₂) (second : Grown b₂ b₃) : Grown b₁ b₃ :=
  ⟨first.data.trans second.data, Nat.le_trans first.writeCursor second.writeCursor⟩

/-- A call adds bytes behind those that are there, or none. -/
theorem Bounded.grown_perform (bounded : b.Bounded) (call : BufferCall) : Grown b (b.perform call).state := by
  cases call with
  | write t v =>
    cases packed : t.pack v with
    | ok own =>
      have inside := bounded.write_le
      rw [perform_write packed]
      refine ⟨?_, ?_⟩
      · rw [Outcome.state_done, gapped, List.append_assoc]
        exact List.prefix_append _ _
      · simp only [Outcome.state_done, gapped, List.length_append]
        omega
    | error e =>
      rw [perform_write_rejected packed]
      exact ⟨List.prefix_append _ _, Nat.le_refl _⟩
  | read t =>
    rw [Buffer.perform]
    split
    · rename_i v next done
      unfold Buffer.read at done
      dsimp only at done
      split at done
      · cases done
      · split at done
        · cases done
          exact ⟨List.prefix_refl _, Nat.le_refl _⟩
        · cases done
    · exact Grown.refl b

theorem Bounded.grown_after (bounded : b.Bounded) (calls : List BufferCall) : Grown b (b.after calls) := by
  induction calls generalizing b with
  | nil => exact Grown.refl b
  | cons first rest ih => exact (bounded.grown_perform first).trans (ih (bounded.perform first))

/-- The bytes in front of the write cursor are those that were there. -/
theorem Grown.take_eq {b' : Buffer} (grown : Grown b b') (bounded : b.Bounded) :
    b'.data.take b.writeCursor = b.data.take b.writeCursor := by
  obtain ⟨more, data⟩ := grown.data
  rw [← data, List.take_append_of_le_length bounded.write_le]

/-! ## Reading at the cursor -/

/-- A read past the write cursor is refused, and nothing happens. -/
theorem perform_read_outside (outside : b.writeCursor < b.readOffset t + t.size) :
    b.perform (.read t) = .failed b (.read (.underrun t.name (b.readOffset t) b.writeCursor)) := by
  simp only [perform, Buffer.read, if_pos outside]

/-- A read in front of the write cursor does with the record what its type does with it. -/
theorem perform_read_inside (inside : b.readOffset t + t.size ≤ b.writeCursor) :
    b.perform (.read t) =
      match t.unpackFrom b.data (b.readOffset t) with
      | .ok v => .done { b with readCursor := b.readOffset t + t.size } (some v)
      | .error e => .failed b (.read (.codec e)) := by
  have enough : ¬ b.readOffset t + t.size > b.writeCursor := Nat.not_lt.mpr inside
  cases unpacked : t.unpackFrom b.data (b.readOffset t) with
  | ok v => simp only [perform, Buffer.read, if_neg enough, unpacked]
  | error e => simp only [perform, Buffer.read, if_neg enough, unpacked]

theorem underrun_iff : (∃ type offset cursor, (b.perform (.read t)).answer = .error (.read (.underrun type offset cursor))) ↔
    b.writeCursor < b.readOffset t + t.size := by
  constructor
  · rintro ⟨type, offset, cursor, failed⟩
    by_contra inside
    rw [perform_read_inside (Nat.le_of_not_lt inside)] at failed
    split at failed
    · cases failed
    · cases failed
  · intro outside
    rw [perform_read_outside outside]
    exact ⟨_, _, _, rfl⟩

/-- The data hold the whole record of a read in front of the write cursor. -/
theorem Bounded.enough (bounded : b.Bounded) (inside : b.readOffset t + t.size ≤ b.writeCursor) :
    b.readOffset t + recordSize t.fields ≤ b.data.length := by
  have record := t.recordSize_le_size
  have written := bounded.write_le
  omega

/-- The record of a read in front of the write cursor is unpacked, unless a count in it has no room. -/
theorem Bounded.unpackRecord_inside (bounded : b.Bounded) (inside : b.readOffset t + t.size ≤ b.writeCursor) :
    if .counted 0 ∈ t.fields then unpackRecord t.fields b.data (b.readOffset t) = .error .noRoomForCount
    else ∃ members, unpackRecord t.fields b.data (b.readOffset t) = .ok members := by
  have enough := bounded.enough inside
  rw [unpackRecord_of_enough enough]
  refine unpackFields_of_enough ?_
  rw [List.length_drop, Nat.zero_add]
  exact Nat.le_sub_of_add_le' enough

/-- **Reading stays in bounds.** However a buffer has been written, read and reset, with types that need not match and values
that need not fit, its cursors are in order and its bytes reach to the write cursor; these bytes stay as they are and the
write cursor does not go back until the buffer is reset. A read reports an underrun exactly where the value would end past
the write cursor, and then changes nothing. Elsewhere the data hold the whole record: it is unpacked, and a type that
presents all its values is read and moves the cursor behind the value. Only a counted string without room for its count is
never unpacked; such a read changes nothing either. -/
theorem reads_stay_in_bounds (uses : List BufferUse) :
    let b := empty.used uses
    b.readCursor ≤ b.writeCursor ∧ b.writeCursor ≤ b.data.length ∧
    (∀ calls, b.writeCursor ≤ (b.after calls).writeCursor ∧
      (b.after calls).data.take b.writeCursor = b.data.take b.writeCursor) ∧
    ∀ t, let offset := b.readCursor + gap b.readCursor t.alignment
      ((∃ type place cursor, (b.perform (.read t)).answer = .error (.read (.underrun type place cursor))) ↔
        b.writeCursor < offset + t.size) ∧
      (b.writeCursor < offset + t.size →
        b.perform (.read t) = .failed b (.read (.underrun t.name offset b.writeCursor))) ∧
      (offset + t.size ≤ b.writeCursor →
        offset + recordSize t.fields ≤ b.data.length ∧
        (.counted 0 ∉ t.fields →
          (∃ members, unpackRecord t.fields b.data offset = .ok members) ∧
          (t.PresentsAll → ∃ v, b.perform (.read t) = .done { b with readCursor := offset + t.size } (some v))) ∧
        (.counted 0 ∈ t.fields → b.perform (.read t) = .failed b (.read (.codec .noRoomForCount)))) := by
  intro b
  have bounded : b.Bounded := bounded_empty.used uses
  refine ⟨bounded.read_le, bounded.write_le, ?_, ?_⟩
  · intro calls
    have grown := bounded.grown_after calls
    exact ⟨grown.writeCursor, grown.take_eq bounded⟩
  intro t offset
  refine ⟨underrun_iff, perform_read_outside, ?_⟩
  intro inside
  have unpacking := bounded.unpackRecord_inside inside
  refine ⟨bounded.enough inside, ?_, ?_⟩
  · intro roomy
    rw [if_neg roomy] at unpacking
    obtain ⟨members, unpacked⟩ := unpacking
    refine ⟨⟨members, unpacked⟩, ?_⟩
    intro presents
    obtain ⟨v, presented⟩ := presents _ _ members unpacked
    have read : t.unpackFrom b.data (b.readOffset t) = .ok v := by
      rw [WireType.unpackFrom_eq, unpacked]
      exact presented
    refine ⟨v, ?_⟩
    rw [perform_read_inside inside, read]
    rfl
  · intro roomless
    rw [if_pos roomless] at unpacking
    have refused : t.unpackFrom b.data (b.readOffset t) = .error .noRoomForCount := by
      rw [WireType.unpackFrom_eq, unpacking]
      rfl
    rw [perform_read_inside inside, refused]

end Buffer

/-! ## Reading what was not written so -/

namespace MismatchedRead

/-- A byte and a word, with a word between them that the type does not take. -/
def uses : List BufferUse :=
  [.call (.write IdWidth.byte.wireType (.int 7)), .call (.write IdWidth.word.wireType (.int (-1))),
    .call (.write IdWidth.word.wireType (.int 5))]

/-- The bytes of both are read as a handle, and a second handle would end past the write cursor. -/
theorem handle_read_across : ∃ v, (Buffer.empty.used uses).perform (.read .handle) =
      .done { Buffer.empty.used uses with readCursor := 8 } (some v) ∧
    (Buffer.empty.used (uses ++ [.call (.read .handle)])).perform (.read .handle) =
      .failed (Buffer.empty.used (uses ++ [.call (.read .handle)])) (.read (.underrun "handle" 8 11)) := by
  obtain ⟨-, -, -, first⟩ := Buffer.reads_stay_in_bounds uses
  obtain ⟨-, -, -, second⟩ := Buffer.reads_stay_in_bounds (uses ++ [.call (.read .handle)])
  obtain ⟨v, read⟩ := (((first .handle).2.2 (by decide)).2.1 (by decide)).2 WireType.presentsAll_handle
  exact ⟨v, read, (second .handle).2.1 (by decide)⟩

end MismatchedRead

namespace RoomlessCount

/-- A byte, and a counted string without room for its count. -/
def record : WireType :=
  { name := "record", format := "B0p", fields := [.scalars (.integer false 1) 1, .counted 0], presentation := .plain }

/-- The record is written, and then not read although all its bytes are there. -/
theorem written_and_not_read : WireType.ofFormat "record" "B0p" = .ok record ∧
    Buffer.empty.answers [.write record (.tuple [.int 7, .bytes []]), .read record] =
      [.ok none, .error (.read (.codec .noRoomForCount))] ∧
    ¬ ∀ (uses : List BufferUse) (t : WireType), t.presentation = .plain →
      (Buffer.empty.used uses).readOffset t + t.size ≤ (Buffer.empty.used uses).writeCursor →
      ∃ v, ((Buffer.empty.used uses).perform (.read t)).answer = .ok (some v) := by
  refine ⟨rfl, rfl, ?_⟩
  intro always
  obtain ⟨v, read⟩ := always [.call (.write record (.tuple [.int 7, .bytes []]))] record rfl (by decide)
  cases read

end RoomlessCount

end CommandStream
