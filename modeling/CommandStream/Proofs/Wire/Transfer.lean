import CommandStream.Proofs.Wire.Record
import CommandStream.Wire.Buffer

/-!
# What a buffer carries

Between the cursors of a buffer lie the values that were written and not read yet, in order, each in
front of its gap. Writing adds a value behind the others and reading takes the first one off; a value
comes out as packing and unpacking it alone would give it. Where the read cursor stands behind some of
the values depends on their types alone.
-/

namespace CommandStream
open Wire

/-- Bytes that hold values one after another, from an offset on. -/
inductive Laid : Nat → List (WireType × Value) → List UInt8 → Prop
  | nil (start : Nat) : Laid start [] []
  | cons {start : Nat} {t : WireType} {v : Value} {own data : List UInt8} {rest : List (WireType × Value)} :
      own.length = t.size → t.unpackFrom own 0 = .ok v →
      Laid (start + gap start t.alignment + t.size) rest data →
      Laid start ((t, v) :: rest) (zeros (gap start t.alignment) ++ own ++ data)

/-- Where values end that lie one after another, from an offset on. -/
def extent (start : Nat) : List (WireType × Value) → Nat
  | [] => start
  | (t, _) :: rest => extent (start + gap start t.alignment + t.size) rest

theorem extent_append (start : Nat) (items others : List (WireType × Value)) :
    extent start (items ++ others) = extent (extent start items) others := by
  induction items generalizing start with
  | nil => rfl
  | cons item rest ih => exact ih _

theorem le_extent (start : Nat) (items : List (WireType × Value)) : start ≤ extent start items := by
  induction items generalizing start with
  | nil => exact Nat.le_refl start
  | cons item rest ih =>
    have others : start + gap start item.1.alignment + item.1.size ≤ extent start (item :: rest) := ih _
    omega

namespace Laid

theorem snoc {start : Nat} {items : List (WireType × Value)} {data own : List UInt8} {t : WireType} {v : Value}
    (laid : Laid start items data) (whole : own.length = t.size) (arrives : t.unpackFrom own 0 = .ok v) :
    Laid start (items ++ [(t, v)]) (data ++ (zeros (gap (start + data.length) t.alignment) ++ own)) := by
  induction laid with
  | nil start =>
    have last : Laid start [(t, v)] _ := .cons whole arrives (.nil _)
    simpa using last
  | @cons start u w first data rest size read _ ih =>
    have next := Laid.cons size read ih
    have ends : start + gap start u.alignment + u.size + data.length =
        start + (zeros (gap start u.alignment) ++ first ++ data).length := by
      simp only [List.length_append, length_zeros, size]
      omega
    rw [ends] at next
    simpa using next

theorem length_le {start : Nat} {items : List (WireType × Value)} {data : List UInt8}
    (laid : Laid start items data) (sized : ∀ item ∈ items, 1 ≤ item.1.size) : items.length ≤ data.length := by
  induction laid with
  | nil => exact Nat.le_refl 0
  | @cons start t v own data rest size _ _ ih =>
    have first : 1 ≤ t.size := sized (t, v) List.mem_cons_self
    have others := ih fun item h => sized item (List.mem_cons_of_mem _ h)
    simp only [List.length_cons, List.length_append, length_zeros]
    omega

end Laid

namespace Buffer

/-- A buffer with nothing behind its write cursor and some values in front of it. -/
def Carries (b : Buffer) (items : List (WireType × Value)) : Prop :=
  ∃ before data, b = ⟨before ++ data, (before ++ data).length, before.length⟩ ∧ Laid before.length items data

variable {b : Buffer} {items : List (WireType × Value)} {t : WireType} {v w : Value}

theorem carries_empty : empty.Carries [] :=
  ⟨[], [], rfl, .nil 0⟩

/-- A value written comes behind the others, as it will arrive. -/
theorem Carries.write (c : b.Carries items) (arrives : t.delivered v = .ok w) :
    ∃ b', b.write t v = .done b' () ∧ b'.Carries (items ++ [(t, w)]) := by
  obtain ⟨before, data, rfl, laid⟩ := c
  obtain ⟨own, packed, read⟩ := bind_ok arrives
  have longer := laid.snoc (WireType.length_pack packed) read
  refine ⟨_, by simp only [write, packed]; rfl, before, _, ?_, longer⟩
  simp [gapped]

/-- A buffer with the read cursor moved past some values. -/
def past (b : Buffer) (items : List (WireType × Value)) : Buffer :=
  { b with readCursor := extent b.readCursor items }

theorem past_past (b : Buffer) (items others : List (WireType × Value)) :
    (b.past items).past others = b.past (items ++ others) := by
  simp only [past, extent_append]

/-- The first value is read, and the others stay. -/
theorem Carries.read (c : b.Carries ((t, v) :: items)) :
    b.read t = .ok (v, b.past [(t, v)]) ∧ (b.past [(t, v)]).Carries items := by
  obtain ⟨before, data, rfl, laid⟩ := c
  cases laid with
  | @cons _ _ _ own data _ whole read laid =>
    let front := before ++ zeros (gap before.length t.alignment)
    have offset : before.length + gap before.length t.alignment = front.length := by simp [front]
    have bytes : before ++ (zeros (gap before.length t.alignment) ++ own ++ data) = front ++ own ++ data := by
      simp [front]
    have ends : front.length + t.size = (front ++ own).length := by simp [whole]
    have enough : ¬ (front ++ own).length > (front ++ own ++ data).length := by
      simp only [List.length_append]
      omega
    have value : t.unpackFrom (front ++ own ++ data) front.length = .ok v := by
      rw [WireType.unpackFrom_embedded whole, read]
    simp only [past, extent, bytes, offset, ends]
    refine ⟨?_, front ++ own, data, rfl, ?_⟩
    · simp only [Buffer.read, readOffset, offset, ends, if_neg enough, value]
    · rw [offset, ends] at laid
      exact laid

/-- Behind the values that were read, the others stay. -/
theorem Carries.past {others : List (WireType × Value)} (c : b.Carries (items ++ others)) :
    (b.past items).Carries others := by
  induction items generalizing b with
  | nil => exact c
  | cons item rest ih => exact ih c.read.2

/-- A buffer is drained when it carries nothing. -/
theorem Carries.hasCommands_nil (c : b.Carries []) : b.hasCommands = false := by
  obtain ⟨before, data, rfl, laid⟩ := c
  cases laid
  simp [hasCommands]

theorem Carries.hasCommands_cons (c : b.Carries ((t, v) :: items)) (sized : 1 ≤ t.size) : b.hasCommands = true := by
  obtain ⟨before, data, rfl, laid⟩ := c
  cases laid with
  | cons whole read laid =>
    simp only [hasCommands, List.length_append, length_zeros, whole, decide_eq_true_eq]
    omega

theorem Carries.length_le (c : b.Carries items) (sized : ∀ item ∈ items, 1 ≤ item.1.size) :
    items.length ≤ b.writeCursor - b.readCursor := by
  obtain ⟨before, data, rfl, laid⟩ := c
  have := laid.length_le sized
  simp only [List.length_append]
  omega

end Buffer

end CommandStream
