import CommandStream.Proofs.Queue.Draining
import CommandStream.Proofs.Wire.Exchange

/-!
# What a failed write leaves

The gap in front of a value is filled before the value is packed. When packing fails, the filled bytes stay and the write
cursor does not move, so that the buffer has two ends. The next value is written behind the later one, and its type's gap
is counted from the earlier one. A failed write goes unnoticed exactly where there was no gap to fill.
-/

namespace CommandStream
open Wire

/-- The distance is nothing at the multiples of an alignment. -/
theorem Wire.gap_eq_zero_iff (offset : Nat) {alignment : Nat} (h : 0 < alignment) :
    gap offset alignment = 0 ↔ alignment ∣ offset := by
  constructor
  · intro nothing
    have leads := dvd_add_gap offset h
    rwa [nothing, Nat.add_zero] at leads
  · intro multiple
    rw [gap, Nat.mod_eq_zero_of_dvd multiple, Nat.sub_zero, Nat.mod_self]

/-- A use of a buffer. -/
inductive BufferCall where
  | write (t : WireType) (v : Value)
  | read (t : WireType)

/-- Reasons for which a use of a buffer fails. -/
inductive BufferError where
  | write (cause : CodecError)
  | read (cause : ReadError)

namespace Buffer

/-- A buffer used; reading answers with a value. -/
def perform (b : Buffer) : BufferCall → Outcome Buffer BufferError (Option Value)
  | .write t v => ((b.write t v).within id .write).andThen fun b _ => .done b none
  | .read t =>
    match b.read t with
    | .ok (v, next) => .done next (some v)
    | .error e => .failed b (.read e)

/-- What calls answer one after another, whether or not they fail. -/
def answers (b : Buffer) (calls : List BufferCall) : List (Except BufferError (Option Value)) :=
  (Outcome.runEach perform b calls).1

/-- The buffer behind calls. -/
def after (b : Buffer) (calls : List BufferCall) : Buffer :=
  (Outcome.runEach perform b calls).2

/-- A buffer with its cursors in order, and all bytes in front of them. -/
structure Bounded (b : Buffer) : Prop where
  read_le : b.readCursor ≤ b.writeCursor
  write_le : b.writeCursor ≤ b.data.length

variable {b : Buffer} {t u : WireType} {v w : Value} {own : List UInt8} {e : CodecError} {calls : List BufferCall}

theorem answers_cons (b : Buffer) (call : BufferCall) (calls : List BufferCall) :
    b.answers (call :: calls) = (b.perform call).answer :: (b.perform call).state.answers calls := rfl

theorem answers_snoc (b : Buffer) (calls : List BufferCall) (call : BufferCall) :
    b.answers (calls ++ [call]) = b.answers calls ++ [((b.after calls).perform call).answer] := by
  rw [answers, Outcome.runEach_snoc]
  rfl

theorem length_answers (b : Buffer) (calls : List BufferCall) : (b.answers calls).length = calls.length :=
  Outcome.length_runEach _ _ _

/-! ## One call -/

theorem perform_write (packed : t.pack v = .ok own) :
    b.perform (.write t v) = .done ⟨b.gapped t ++ own, (b.gapped t ++ own).length, b.readCursor⟩ none := by
  rw [perform, write_of_pack packed]
  rfl

theorem perform_write_rejected (rejected : t.pack v = .error e) :
    b.perform (.write t v) = .failed { b with data := b.gapped t } (.write e) := by
  simp only [perform, write, rejected]
  rfl

theorem length_gapped (b : Buffer) (t : WireType) : (b.gapped t).length = b.data.length + gap b.writeCursor t.alignment := by
  rw [gapped, List.length_append, length_zeros]

/-- Every call leaves the cursors in order. -/
theorem Bounded.perform (bounded : b.Bounded) (call : BufferCall) : (b.perform call).state.Bounded := by
  obtain ⟨read_le, write_le⟩ := bounded
  cases call with
  | write t v =>
    have longer := b.length_gapped t
    cases packed : t.pack v with
    | ok own =>
      rw [perform_write packed]
      refine ⟨?_, Nat.le_refl _⟩
      simp only [Outcome.state_done, List.length_append]
      omega
    | error e =>
      rw [perform_write_rejected packed]
      exact ⟨read_le, by simp only [Outcome.state_failed]; omega⟩
  | read t =>
    rw [Buffer.perform]
    split
    · rename_i value next done
      unfold Buffer.read at done
      dsimp only at done
      split at done
      · cases done
      · rename_i inside
        split at done
        · cases done
          exact ⟨Nat.le_of_not_lt inside, write_le⟩
        · cases done
    · exact ⟨read_le, write_le⟩

theorem Bounded.after (bounded : b.Bounded) (calls : List BufferCall) : (b.after calls).Bounded := by
  induction calls generalizing b with
  | nil => exact bounded
  | cons call rest ih => exact ih (bounded.perform call)

theorem bounded_empty : Buffer.empty.Bounded :=
  ⟨Nat.le_refl 0, Nat.le_refl 0⟩

/-! ## Reading byte by byte -/

/-- The type of a byte. -/
def byte : WireType := IdWidth.byte.wireType

/-- A byte in front of the write cursor is read, whatever it is. -/
theorem read_byte (bounded : b.Bounded) (inside : b.readCursor < b.writeCursor) :
    ∃ v, b.read byte = .ok (v, { b with readCursor := b.readCursor + 1 }) := by
  have single : byte.Single (.integer false 1) := WireType.single_scalar _ _ (by decide)
  have offset : b.readOffset byte = b.readCursor := by
    rw [readOffset, (gap_eq_zero_iff _ byte.alignment_pos).mpr (Nat.one_dvd _), Nat.add_zero]
  have size : byte.size = 1 := rfl
  have room : b.readCursor + byte.size ≤ b.data.length := by
    have := bounded.write_le
    omega
  obtain ⟨bytes, unpacked⟩ := single.unpackFrom_inside room
  obtain ⟨v, presented, -⟩ := single.presented_ok bytes
  have enough : ¬ b.readCursor + 1 > b.writeCursor := by omega
  refine ⟨v, ?_⟩
  simp only [Buffer.read, offset, size, if_neg enough, unpacked, presented]

theorem perform_read_byte_iff (bounded : b.Bounded) :
    (∃ v, (b.perform (.read byte)).answer = .ok v) ↔ b.readCursor < b.writeCursor := by
  constructor
  · rintro ⟨v, answer⟩
    by_contra outside
    have past : b.readOffset byte + byte.size > b.writeCursor := by
      have size : byte.size = 1 := rfl
      rw [readOffset, size]
      omega
    simp only [Buffer.perform, Buffer.read, if_pos past] at answer
    cases answer
  · intro inside
    obtain ⟨v, read⟩ := read_byte bounded inside
    exact ⟨some v, by simp only [Buffer.perform, read, Outcome.answer_done]⟩

/-- Behind reading some bytes the read cursor stands so much further on. -/
theorem after_bytes (bounded : b.Bounded) {count : Nat} (inside : b.readCursor + count ≤ b.writeCursor) :
    b.after (List.replicate count (.read byte)) = { b with readCursor := b.readCursor + count } := by
  induction count generalizing b with
  | zero => rfl
  | succ count ih =>
    obtain ⟨v, read⟩ := read_byte bounded (by omega)
    have next : (b.perform (.read byte)).state = { b with readCursor := b.readCursor + 1 } := by
      simp only [Buffer.perform, read, Outcome.state_done]
    have others := ih (next ▸ bounded.perform (.read byte)) (by show b.readCursor + 1 + count ≤ b.writeCursor; omega)
    have first : b.after (List.replicate (count + 1) (.read byte)) =
        (b.perform (.read byte)).state.after (List.replicate count (.read byte)) := rfl
    rw [first, next, others]
    simp only [Nat.add_assoc, Nat.add_comm 1 count]

/-- Buffers that answer alike have the same number of bytes to read. -/
theorem remaining_of_answers {b b' : Buffer} (bounded : b.Bounded) (bounded' : b'.Bounded)
    (alike : ∀ further, b'.answers further = b.answers further) :
    b'.writeCursor - b'.readCursor = b.writeCursor - b.readCursor := by
  have longer : ∀ {c d : Buffer}, c.Bounded → d.Bounded → (∀ further, c.answers further = d.answers further) →
      ¬ d.writeCursor - d.readCursor < c.writeCursor - c.readCursor := by
    intro c d first last alike less
    -- One byte more than the shorter one has is read from the longer one only.
    let count := d.writeCursor - d.readCursor
    have inside := first.read_le
    have inside' := last.read_le
    have answers := alike (List.replicate count (.read byte) ++ [.read byte])
    rw [answers_snoc, answers_snoc] at answers
    have same := (List.append_inj answers (by rw [length_answers, length_answers])).2
    obtain ⟨v, read⟩ := (perform_read_byte_iff (first.after (List.replicate count (.read byte)))).mpr <| by
      rw [after_bytes first (by omega)]
      show c.readCursor + count < c.writeCursor
      omega
    rw [List.cons.inj same |>.1] at read
    have more := (perform_read_byte_iff (last.after (List.replicate count (.read byte)))).mp ⟨v, read⟩
    rw [after_bytes last (by omega)] at more
    have more : d.readCursor + count < d.writeCursor := more
    omega
  have shorter := longer bounded bounded' fun further => (alike further).symm
  have := longer bounded' bounded alike
  omega

/-! ## A failed write -/

/-- The next value that is written moves the write cursor behind the bytes that a failed write left. -/
theorem writeCursor_behind_rejected (packed : u.pack w = .ok own) :
    (after { b with data := b.gapped t } [.write u w]).writeCursor =
      (b.after [.write u w]).writeCursor + gap b.writeCursor t.alignment := by
  have written : ∀ b : Buffer, b.after [.write u w] = ⟨b.gapped u ++ own, (b.gapped u ++ own).length, b.readCursor⟩ :=
    fun b => congrArg Outcome.state (perform_write packed)
  rw [written, written]
  simp only [List.length_append, length_gapped]
  omega

/-- A gap that a failed write filled shows in the number of bytes that can be read behind the next write. -/
theorem gap_eq_zero_of_unnoticed (bounded : b.Bounded)
    (alike : ∀ further, answers { b with data := b.gapped t } further = b.answers further) :
    gap b.writeCursor t.alignment = 0 := by
  have bounded' : Bounded { b with data := b.gapped t } := by
    have longer := b.length_gapped t
    have inside := bounded.write_le
    exact ⟨bounded.read_le, by show b.writeCursor ≤ (b.gapped t).length; omega⟩
  -- A byte is written to both, so that both write cursors stand at the end of the data.
  have packed : byte.pack (.int 0) = .ok [0] := rfl
  have remaining := remaining_of_answers (bounded.after [.write byte (.int 0)]) (bounded'.after [.write byte (.int 0)])
    fun further => by
      have answers := alike (.write byte (.int 0) :: further)
      rw [answers_cons, answers_cons] at answers
      exact (List.cons.inj answers).2
  have cursors := writeCursor_behind_rejected (b := b) (t := t) packed
  have readCursor : ∀ c : Buffer, (c.after [.write byte (.int 0)]).readCursor = c.readCursor :=
    fun c => congrArg (fun o : Outcome Buffer BufferError (Option Value) => o.state.readCursor) (perform_write packed)
  have ordered := (bounded.after [.write byte (.int 0)]).read_le
  rw [readCursor, readCursor] at remaining
  rw [readCursor] at ordered
  dsimp only at remaining
  omega

/-- **A failed write is unnoticed exactly where nothing lies between the write cursor and the place for the value.** Whatever
was done with a buffer before, a value that its type does not take is refused and leaves the gap in front of it in the
buffer. All further calls answer as if it had not been tried if and only if the gap is nothing; every value that is written
next ends by so much further behind. -/
theorem unnoticed_iff_aligned (calls : List BufferCall) (rejected : t.pack v = .error e) :
    let b := empty.after calls
    let b' := b.after [.write t v]
    b.answers [.write t v] = [.error (.write e)] ∧
    b' = { b with data := b.data ++ zeros (gap b.writeCursor t.alignment) } ∧
    ((∀ further, b'.answers further = b.answers further) ↔ t.alignment ∣ b.writeCursor) ∧
    ∀ u w own, u.pack w = .ok own →
      (b'.after [.write u w]).writeCursor = (b.after [.write u w]).writeCursor + gap b.writeCursor t.alignment := by
  intro b b'
  have refused := perform_write_rejected (b := b) rejected
  have left : b' = { b with data := b.gapped t } := congrArg Outcome.state refused
  have shifted : ∀ u w own, u.pack w = .ok own →
      (b'.after [.write u w]).writeCursor = (b.after [.write u w]).writeCursor + gap b.writeCursor t.alignment := by
    intro u w own packed
    rw [left]
    exact writeCursor_behind_rejected packed
  refine ⟨congrArg (fun o : Outcome Buffer BufferError (Option Value) => [o.answer]) refused, left, ?_, shifted⟩
  rw [← gap_eq_zero_iff _ t.alignment_pos]
  constructor
  · intro alike
    exact gap_eq_zero_of_unnoticed (bounded_empty.after calls) (left ▸ alike)
  · intro nothing further
    have unchanged : b.gapped t = b.data := by
      rw [gapped, nothing]
      exact List.append_nil _
    rw [left, unchanged]

end Buffer

/-! ## A number behind a byte -/

namespace RefusedNumber

def number : WireType := .scalar "GLuint" "I" (.integer false 4)

/-- A byte and a number are written and read, with a number between them that the type does not take. -/
theorem noticed_behind_byte : number.pack (.int (-1)) = .error .unsuitable ∧
    ¬ ∀ further, ((Buffer.empty.after [.write Buffer.byte (.int 7)]).after [.write number (.int (-1))]).answers further =
      (Buffer.empty.after [.write Buffer.byte (.int 7)]).answers further := by
  have rejected : number.pack (.int (-1)) = .error .unsuitable := rfl
  obtain ⟨-, -, unnoticed, -⟩ := Buffer.unnoticed_iff_aligned [.write Buffer.byte (.int 7)] rejected
  exact ⟨rejected, fun alike => absurd (unnoticed.mp alike) (by decide)⟩

/-- The number lies three bytes behind its place, and what is read there is another one. -/
theorem number_misplaced : number.pack (.int (-1)) = .error .unsuitable ∧
    Buffer.empty.answers [.write Buffer.byte (.int 7), .write number (.int 5), .read Buffer.byte, .read number] =
      [.ok none, .ok none, .ok (some (.int 7)), .ok (some (.int 5))] ∧
    Buffer.empty.answers [.write Buffer.byte (.int 7), .write number (.int (-1)), .write number (.int 5), .read Buffer.byte,
        .read number] =
      [.ok none, .error (.write .unsuitable), .ok none, .ok (some (.int 7)), .ok (some (.int 83886080))] ∧
    ¬ ∀ (calls : List BufferCall) (t : WireType) (v : Value) (e : CodecError), t.pack v = .error e → ∀ further,
      ((Buffer.empty.after calls).after [.write t v]).answers further = (Buffer.empty.after calls).answers further := by
  refine ⟨rfl, rfl, rfl, fun invisible => ?_⟩
  have alike := invisible [.write Buffer.byte (.int 7)] number (.int (-1)) .unsuitable rfl
    [.write number (.int 5), .read Buffer.byte, .read number]
  have last : some (Except.ok (some (Value.int 83886080))) = some (Except.ok (some (Value.int 5))) :=
    congrArg (fun answers : List (Except BufferError (Option Value)) => answers[2]?) alike
  cases last

end RefusedNumber

end CommandStream
