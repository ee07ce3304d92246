import CommandStream.Proofs.Wire.Record
import CommandStream.Wire.Buffer

/-!
# Reading what was written

Writer and reader find the gap in front of a value each from its own cursor. As long as values are read as
the types in which they were written, the read cursor follows the marks that the write cursor left: every
value comes out as packing and unpacking it alone would give it, whatever lies around it.
-/

namespace CommandStream
open Wire

theorem WireType.alignment_pos (t : WireType) : 0 < t.alignment := by
  have grows : ∀ (sizes : List Nat) (least : Nat), least ≤ sizes.foldl max least := by
    intro sizes
    induction sizes with
    | nil => exact fun least => Nat.le_refl least
    | cons size rest ih => exact fun least => Nat.le_trans (Nat.le_max_left least size) (ih _)
  exact grows _ 1

/-- A value that was written, and where the write cursor stood behind it. -/
structure Written where
  type : WireType
  value : Value
  mark : Nat

namespace Written

/-- Where the write cursor stood behind the first so many values. -/
def cursor (written : List Written) : Nat → Nat
  | 0 => 0
  | k + 1 => (written[k]?.map Written.mark).getD 0

/-- A value whose bytes end at its mark, behind nothing but zeros from an offset on. -/
structure LiesIn (w : Written) (data : List UInt8) (start : Nat) : Prop where
  bytes : ∃ before own after, data = before ++ zeros (gap start w.type.alignment) ++ own ++ after ∧
    before.length = start ∧ w.type.pack w.value = .ok own
  ends : w.mark = start + gap start w.type.alignment + w.type.size

variable {written : List Written} {w : Written} {data : List UInt8} {start : Nat}

theorem cursor_succ {k : Nat} (stands : written[k]? = some w) : cursor written (k + 1) = w.mark := by
  rw [cursor, stands]
  rfl

theorem stands_snoc {last : Written} {i : Nat} (stands : (written ++ [last])[i]? = some w) :
    (i < written.length ∧ written[i]? = some w) ∨ (i = written.length ∧ w = last) := by
  rw [List.getElem?_append] at stands
  split at stands
  · rename_i bound
    exact .inl ⟨bound, stands⟩
  · rename_i bound
    obtain ⟨single, rfl⟩ := List.getElem?_eq_some_iff.mp stands
    rw [List.length_singleton] at single
    refine .inr ⟨by omega, ?_⟩
    rw [List.getElem_singleton]

/-- Marks of earlier values stay. -/
theorem cursor_append {k : Nat} (bound : k ≤ written.length) (more : List Written) :
    cursor (written ++ more) k = cursor written k := by
  cases k with
  | zero => rfl
  | succ k => rw [cursor, cursor, List.getElem?_append_left bound]

theorem LiesIn.append (lies : w.LiesIn data start) (more : List UInt8) : w.LiesIn (data ++ more) start := by
  obtain ⟨before, own, after, rfl, length, packed⟩ := lies.bytes
  exact ⟨⟨before, own, after ++ more, by simp, length, packed⟩, lies.ends⟩

end Written

namespace Buffer

variable {b : Buffer} {t : WireType} {v : Value}

/-- A value is written when it is packed. -/
theorem write_of_pack {own : List UInt8} (packed : t.pack v = .ok own) :
    b.write t v = .done ⟨b.gapped t ++ own, (b.gapped t ++ own).length, b.readCursor⟩ () := by
  simp only [write, packed]

theorem pack_of_write {b' : Buffer} (written : b.write t v = .done b' ()) : ∃ own, t.pack v = .ok own := by
  cases packed : t.pack v with
  | ok own => exact ⟨own, rfl⟩
  | error e =>
    simp only [write, packed] at written
    cases written

/-- A value that lies at the read cursor is read as if it were alone. -/
theorem read_of_liesIn {w : Written} (lies : w.LiesIn b.data b.readCursor) (inside : w.mark ≤ b.writeCursor) :
    b.read w.type =
      match w.type.delivered w.value with
      | .ok v => .ok (v, { b with readCursor := w.mark })
      | .error e => .error (.codec e) := by
  obtain ⟨⟨before, own, after, data, length, packed⟩, ends⟩ := lies
  have offset : b.readOffset w.type = (before ++ zeros (gap b.readCursor w.type.alignment)).length := by
    rw [readOffset, List.length_append, length, length_zeros]
  have mark : b.readOffset w.type + w.type.size = w.mark := by rw [readOffset, ends]
  have whole := WireType.length_pack packed
  have value : w.type.unpackFrom b.data (b.readOffset w.type) = w.type.delivered w.value := by
    rw [data, offset, WireType.unpackFrom_embedded whole, WireType.delivered, packed]
    rfl
  have enough : ¬ w.mark > b.writeCursor := Nat.not_lt.mpr inside
  cases arrives : w.type.delivered w.value with
  | ok v => simp only [Buffer.read, mark, if_neg enough, value, arrives]
  | error e => simp only [Buffer.read, mark, if_neg enough, value, arrives]

end Buffer

/-- A buffer in use, from an empty one on, with the values written so far and the number of values read.
They are read in the order in which they were written, each as the type in which it was written. -/
inductive Exchange : List Written → Nat → Buffer → Prop
  | start : Exchange [] 0 .empty
  | write {written : List Written} {k : Nat} {b b' : Buffer} {t : WireType} {v : Value}
      (before : Exchange written k b) (done : b.write t v = .done b' ()) :
      Exchange (written ++ [⟨t, v, b'.writeCursor⟩]) k b'
  | read {written : List Written} {k : Nat} {b b' : Buffer} {w : Written} {v : Value}
      (before : Exchange written k b) (next : written[k]? = some w) (done : b.read w.type = .ok (v, b')) :
      Exchange written (k + 1) b'

namespace Exchange

open Written

variable {written : List Written} {k : Nat} {b : Buffer}

/-- Where everything lies in a buffer in use. -/
structure Placed (written : List Written) (k : Nat) (b : Buffer) : Prop where
  readCursor : b.readCursor = cursor written k
  read_le : k ≤ written.length
  writeCursor : b.writeCursor = cursor written written.length
  length : b.data.length = b.writeCursor
  lies : ∀ {i : Nat} {w : Written}, written[i]? = some w → w.LiesIn b.data (cursor written i)
  marks : ∀ {i : Nat} {w : Written}, written[i]? = some w → w.mark ≤ b.writeCursor

theorem Placed.write {b' : Buffer} {t : WireType} {v : Value} (placed : Placed written k b)
    (done : b.write t v = .done b' ()) : Placed (written ++ [⟨t, v, b'.writeCursor⟩]) k b' := by
  obtain ⟨own, packed⟩ := Buffer.pack_of_write done
  obtain rfl : b' = ⟨b.gapped t ++ own, (b.gapped t ++ own).length, b.readCursor⟩ :=
    congrArg Outcome.state (done.symm.trans (Buffer.write_of_pack packed))
  have gapped : b.gapped t = b.data ++ zeros (gap b.writeCursor t.alignment) := rfl
  have ends : (b.gapped t ++ own).length = b.writeCursor + gap b.writeCursor t.alignment + t.size := by
    rw [gapped, List.length_append, List.length_append, length_zeros, WireType.length_pack packed, placed.length]
  have lies : LiesIn ⟨t, v, (b.gapped t ++ own).length⟩ (b.gapped t ++ own) b.writeCursor :=
    ⟨⟨b.data, own, [], by rw [gapped, List.append_nil], placed.length, packed⟩, ends⟩
  have length : ∀ last : Written, (written ++ [last]).length = written.length + 1 := fun _ => List.length_append
  refine ⟨?_, ?_, ?_, rfl, ?_, ?_⟩
  · rw [cursor_append placed.read_le, ← placed.readCursor]
  · rw [length]
    exact Nat.le_succ_of_le placed.read_le
  · rw [length, cursor_succ List.getElem?_concat_length]
  · intro i w stands
    rcases stands_snoc stands with ⟨bound, before⟩ | ⟨rfl, rfl⟩
    · rw [cursor_append (Nat.le_of_lt bound), gapped, List.append_assoc]
      exact (placed.lies before).append _
    · rw [cursor_append (Nat.le_refl _), ← placed.writeCursor]
      exact lies
  · intro i w stands
    rcases stands_snoc stands with ⟨-, before⟩ | ⟨-, rfl⟩
    · have mark := placed.marks before
      show w.mark ≤ (b.gapped t ++ own).length
      omega
    · exact Nat.le_refl _

theorem Placed.read_next (placed : Placed written k b) {w : Written} (next : written[k]? = some w) :
    b.read w.type =
      match w.type.delivered w.value with
      | .ok v => .ok (v, { b with readCursor := w.mark })
      | .error e => .error (.codec e) :=
  Buffer.read_of_liesIn (placed.readCursor ▸ placed.lies next) (placed.marks next)

theorem Placed.read {b' : Buffer} {w : Written} {v : Value} (placed : Placed written k b) (next : written[k]? = some w)
    (done : b.read w.type = .ok (v, b')) : Placed written (k + 1) b' := by
  rw [placed.read_next next] at done
  split at done
  · cases done
    refine ⟨(cursor_succ next).symm, ?_, placed.writeCursor, placed.length, placed.lies, placed.marks⟩
    exact (List.getElem?_eq_some_iff.mp next).1
  · cases done

theorem placed (use : Exchange written k b) : Placed written k b := by
  induction use with
  | start => exact ⟨rfl, Nat.le_refl 0, rfl, rfl, by simp, by simp⟩
  | write _ done ih => exact ih.write done
  | read _ next done ih => exact ih.read next done

/-- What was written is read back. However writing and reading alternate, the read cursor stands where the
write cursor stood behind the last value that was read; every value lies at a multiple of its alignment, with
nothing but zeros between it and the one before; the next value comes out as it would alone, and leaves the
read cursor where the write cursor stood behind it; and nothing is left when everything has been read. -/
theorem reads_back (use : Exchange written k b) :
    b.readCursor = cursor written k ∧
    (∀ i w, written[i]? = some w → w.LiesIn b.data (cursor written i) ∧
      w.type.alignment ∣ cursor written i + gap (cursor written i) w.type.alignment) ∧
    (∀ w, written[k]? = some w → b.read w.type =
      match w.type.delivered w.value with
      | .ok v => .ok (v, { b with readCursor := w.mark })
      | .error e => .error (.codec e)) ∧
    (k = written.length → b.hasCommands = false) := by
  have placed := use.placed
  refine ⟨placed.readCursor, ?_, fun w next => placed.read_next next, ?_⟩
  · intro i w stands
    exact ⟨placed.lies stands, dvd_add_gap _ w.type.alignment_pos⟩
  · rintro rfl
    rw [Buffer.hasCommands, placed.readCursor, placed.writeCursor]
    exact decide_eq_false (Nat.lt_irrefl _)

end Exchange

/-! ## A record between a byte and a handle -/

namespace RecordExchange

def byte : WireType := .scalar "uint8_t" "B" (.integer false 1)

/-- A word and a byte, with three bytes behind them. -/
def record : WireType :=
  { name := "record", format := "IB", fields := [.scalars (.integer false 4) 1, .scalars (.integer false 1) 1],
    presentation := .plain }

def written : List Written :=
  [⟨byte, .int 7, 1⟩, ⟨record, .tuple [.int 3, .int 9], 12⟩, ⟨.handle, .handle (.int 5) (.int 2), 24⟩]

def buffer : Buffer where
  data := [7, 0, 0, 0, 3, 0, 0, 0, 9, 0, 0, 0, 0, 0, 0, 0, 2, 0, 0, 0, 5, 0, 0, 0]
  writeCursor := 24
  readCursor := 12

/-- The byte is read before the handle is written, and the record after. -/
theorem exchanged : Exchange written 2 buffer := by
  have byteWritten : Buffer.empty.write byte (.int 7) = .done ⟨[7], 1, 0⟩ () := rfl
  have recordWritten : Buffer.write ⟨[7], 1, 0⟩ record (.tuple [.int 3, .int 9]) =
      .done ⟨[7, 0, 0, 0, 3, 0, 0, 0, 9, 0, 0, 0], 12, 0⟩ () := rfl
  have handleWritten : Buffer.write ⟨[7, 0, 0, 0, 3, 0, 0, 0, 9, 0, 0, 0], 12, 1⟩ .handle (.handle (.int 5) (.int 2)) =
      .done { buffer with readCursor := 1 } () := rfl
  have byteRead := ((Exchange.start.write byteWritten).write recordWritten).read rfl rfl
  exact (byteRead.write handleWritten).read rfl rfl

/-- The handle comes next, behind the read cursor and four zeros, and nothing is left behind it. -/
theorem handle_behind_record : Exchange written 2 buffer ∧ buffer.readCursor = 12 ∧
    (⟨.handle, .handle (.int 5) (.int 2), 24⟩ : Written).LiesIn buffer.data 12 ∧
    buffer.read .handle = .ok (.handle (.int 5) (.int 2), { buffer with readCursor := 24 }) := by
  obtain ⟨cursor, lies, next, -⟩ := exchanged.reads_back
  exact ⟨exchanged, cursor, (lies 2 _ rfl).1, next _ rfl⟩

end RecordExchange

end CommandStream
