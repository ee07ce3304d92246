/-!
# Keyed lists

Lists of values under text keys, each key once, in the order in which the keys came.
-/

namespace CommandStream

/-- Values under keys, in order of arrival. -/
abbrev Keyed (α : Type) := List (String × α)

namespace Keyed

variable {α : Type}

/-- Whether a key is present. -/
def hasKey (entries : Keyed α) (key : String) : Bool :=
  entries.any fun entry => entry.1 == key

/-- The value under a key. -/
def find? (entries : Keyed α) (key : String) : Option α :=
  entries.lookup key

/-- The entries with a value put under a key: in its place if the key is present, last if not. -/
def put : Keyed α → String → α → Keyed α
  | [], key, value => [(key, value)]
  | entry :: rest, key, value =>
    if entry.1 = key then (key, value) :: rest else entry :: put rest key value

/-- The entries without a key. -/
def drop (entries : Keyed α) (key : String) : Keyed α :=
  entries.filter fun entry => entry.1 != key

/-- The keys. -/
def keys (entries : Keyed α) : List String :=
  entries.map Prod.fst

/-- The values. -/
def values (entries : Keyed α) : List α :=
  entries.map Prod.snd

theorem hasKey_iff (entries : Keyed α) (key : String) :
    hasKey entries key = true ↔ key ∈ keys entries := by
  simp [hasKey, keys, List.any_eq_true, List.mem_map]

/-- A value is found under the keys that are present. -/
theorem isSome_find? (entries : Keyed α) (key : String) :
    (find? entries key).isSome = hasKey entries key := by
  induction entries with
  | nil => rfl
  | cons entry rest ih =>
    obtain ⟨name, held⟩ := entry
    by_cases same : key = name
    · subst same
      simp [find?, hasKey]
    · have apart : ¬ name = key := fun h => same h.symm
      simp only [find?, hasKey, List.lookup_cons, List.any_cons, beq_eq_false_iff_ne.mpr same,
        beq_eq_false_iff_ne.mpr apart, Bool.false_or]
      exact ih

/-- What was put under a key is found there. -/
@[simp] theorem find?_put_self (entries : Keyed α) (key : String) (value : α) :
    find? (put entries key value) key = some value := by
  induction entries with
  | nil => simp [put, find?]
  | cons entry rest ih =>
    obtain ⟨name, held⟩ := entry
    by_cases h : name = key
    · simp [put, find?, h]
    · have other : (key == name) = false := by simpa using fun same => h same.symm
      simp only [put, if_neg h, find?, List.lookup_cons, other]
      exact ih

/-- The values under other keys stay. -/
theorem find?_put_of_ne (entries : Keyed α) {key other : String} (value : α) (h : other ≠ key) :
    find? (put entries key value) other = find? entries other := by
  induction entries with
  | nil => simp [put, find?, List.lookup_cons, List.lookup_nil, beq_eq_false_iff_ne.mpr h]
  | cons entry rest ih =>
    obtain ⟨name, held⟩ := entry
    by_cases same : name = key
    · subst same
      simp [put, find?, List.lookup_cons, beq_eq_false_iff_ne.mpr h]
    · simp only [put, if_neg same, find?, List.lookup_cons]
      split
      · rfl
      · exact ih

/-- A present key keeps its place, a new one comes last. -/
theorem keys_put (entries : Keyed α) (key : String) (value : α) :
    keys (put entries key value) =
      if key ∈ keys entries then keys entries else keys entries ++ [key] := by
  induction entries with
  | nil => simp [put, keys]
  | cons entry rest ih =>
    by_cases same : entry.1 = key
    · simp [put, same, keys]
    · have apart : key ≠ entry.1 := fun h => same h.symm
      have tail : keys (put rest key value) =
          if key ∈ keys rest then keys rest else keys rest ++ [key] := ih
      simp only [put, if_neg same]
      show entry.1 :: keys (put rest key value) = _
      rw [tail]
      show _ = if key ∈ entry.1 :: keys rest then entry.1 :: keys rest
        else entry.1 :: keys rest ++ [key]
      by_cases found : key ∈ keys rest
      · simp [found]
      · simp [found, apart]

end Keyed

section Presence

variable {α : Type} {entries : Keyed α} {key : String}

theorem isSome_find?_iff : (Keyed.find? entries key).isSome ↔ key ∈ Keyed.keys entries := by
  rw [Keyed.isSome_find?, Keyed.hasKey_iff]

theorem find?_eq_none_iff : Keyed.find? entries key = none ↔ key ∉ Keyed.keys entries := by
  rw [← isSome_find?_iff, Option.not_isSome_iff_eq_none]

end Presence

end CommandStream
