import CommandStream.Wire.Codec

/-!
# Packed handles

A handle travels as one integer, the generation above the low 32 bits of the index. The fields are
joined bit by bit, so an index beyond 32 bits or below zero spills into the generation.
-/

namespace CommandStream.Slot

/-- The bitwise union of two integers in two's complement. -/
def bitUnion (a b : Int) : Int :=
  match a, b with
  | .ofNat m, .ofNat n => .ofNat (m ||| n)
  | .ofNat m, .negSucc n => .negSucc (n - (n &&& m))
  | .negSucc m, .ofNat n => .negSucc (m - (m &&& n))
  | .negSucc m, .negSucc n => .negSucc (m &&& n)

/-- The number of values of a handle half. -/
def halfRange : Nat := 2 ^ 32

/-- The integer of a handle's fields. -/
def join (generation index : Int) : Int :=
  bitUnion (generation * halfRange) index

/-- The fields of a packed handle. -/
def split (n : Int) : Int × Int :=
  (n / halfRange, n % halfRange)

theorem and_eq_of_lt_half {m n : Nat} (ones : m % halfRange = halfRange - 1)
    (below : n < halfRange) : m &&& n = n := by
  have short : n &&& (2 ^ 32 - 1) = n := by
    rw [Nat.and_two_pow_sub_one_eq_mod]
    exact Nat.mod_eq_of_lt below
  have low : m &&& (2 ^ 32 - 1) = 2 ^ 32 - 1 := by
    rw [Nat.and_two_pow_sub_one_eq_mod]
    exact ones
  calc m &&& n = m &&& (n &&& (2 ^ 32 - 1)) := by rw [short]
    _ = (m &&& (2 ^ 32 - 1)) &&& n := by rw [Nat.and_comm n, Nat.and_assoc]
    _ = n := by rw [low, Nat.and_comm, short]

/-- An index of 32 bits stands below the generation. -/
theorem join_eq_add (generation : Int) {index : Nat} (below : index < halfRange) :
    join generation index = generation * halfRange + index := by
  cases generation with
  | ofNat g =>
    have union : g * halfRange ||| index = g * halfRange + index := by
      have := Nat.two_pow_add_eq_or_of_lt (i := 32) below g
      rw [Nat.mul_comm g, halfRange, ← this]
    show bitUnion (((g : Nat) : Int) * (halfRange : Int)) (index : Int) = _
    rw [← Int.natCast_mul]
    show ((g * halfRange ||| index : Nat) : Int) = _
    rw [union]
    simp
  | negSucc g =>
    have product : Int.negSucc g * (halfRange : Int) =
        Int.negSucc (g * halfRange + (halfRange - 1)) := by
      simp [halfRange]
      omega
    have ones : (g * halfRange + (halfRange - 1)) % halfRange = halfRange - 1 := by
      simp only [halfRange]
      omega
    unfold join
    rw [product]
    show Int.negSucc (g * halfRange + (halfRange - 1) -
      ((g * halfRange + (halfRange - 1)) &&& index)) = _
    rw [and_eq_of_lt_half ones below]
    simp only [halfRange] at below ⊢
    omega

/-- A handle with an index of 32 bits comes out of its packed form as it went in. -/
theorem split_join (generation : Int) {index : Nat} (below : index < halfRange) :
    split (join generation index) = (generation, (index : Int)) := by
  rw [join_eq_add generation below]
  simp only [split, halfRange] at below ⊢
  ext <;> simp <;> omega

/-- The packed form of a handle. -/
def pack (v : Value) : Except Wire.CodecError Value :=
  match v with
  | .handle generation index =>
    match generation.int?, index.int? with
    | some g, some i => .ok (.int (join g i))
    | _, _ => .error .notAnInteger
  | _ => .error .notAHandle

/-- The handle of a packed form. -/
def unpack (v : Value) : Except Wire.CodecError Value :=
  match v.int? with
  | none => .error .notAnInteger
  | some n => .ok (.handle (.int (split n).1) (.int (split n).2))

end CommandStream.Slot
