import CommandStream.Description.Key
import CommandStream.Proofs.Text.Plain
import CommandStream.Proofs.Text.Trimmed

/-!
# How keys spell symbols

A key has the letters and digits of its symbol, in their order and up to case, and an `E` in front where the first of
them is a digit. It is spelled segment by segment: a symbol that is put together from two, with a low line between them,
has the key that is put together from theirs, unless the second one would get an `E` of its own.
-/

namespace CommandStream.Description
open Text

/-- The letters and digits of a symbol. -/
def signs (symbol : String) : List Char :=
  symbol.toList.filter Char.isAlphanum

/-- Whether the first letter or digit of a symbol is a digit. -/
def digitLeads (symbol : String) : Bool :=
  (signs symbol).head?.any Char.isDigit

/-- Symbols with a key: plain characters, among them a letter or a digit. -/
structure Spellable (symbol : String) : Prop where
  plain : symbol.toList.all isPlain = true
  signed : signs symbol ≠ []

/-- The key of a symbol before an `E` may be put in front. -/
def spelled (symbol : String) : List Char :=
  (pieces '_' symbol.toList).flatMap segmentKey

/-! ## Segments -/

/-- Spelling changes nothing but case. -/
theorem lower_spell {cs : List Char} (plain : ∀ c ∈ cs, isPlain c = true) (capital : Bool) :
    (spell capital cs).map Char.toLower = cs.map Char.toLower := by
  induction cs generalizing capital with
  | nil => rfl
  | cons c rest ih =>
    obtain ⟨first, others⟩ := List.forall_mem_cons.mp plain
    obtain ⟨upper, lower⟩ := toLower_forms first
    rw [spell]
    split
    · rw [List.map_cons, List.map_cons, ih others]
    · rw [List.map_append, ih others, capitalForm_of_isPlain first, smallForm_of_isPlain first]
      cases capital with
      | true => exact congrArg (· :: _) upper
      | false => exact congrArg (· :: _) lower

theorem lower_segmentKey {segment : List Char} (plain : ∀ c ∈ segment, isPlain c = true) :
    (segmentKey segment).map Char.toLower = segment.map Char.toLower := by
  unfold segmentKey
  split
  · rfl
  · exact lower_spell plain true

/-! ## Whole symbols -/

section
variable {symbol other : String}

/-- What is not a letter or a digit in a symbol stands between its segments. -/
theorem signs_eq (plain : symbol.toList.all isPlain = true) : signs symbol = (pieces '_' symbol.toList).flatten := by
  rw [flatten_pieces]
  refine List.filter_congr fun c member => ?_
  have class_ : (c.isAlphanum || c == '_') = true := List.all_eq_true.mp plain c member
  by_cases line : c = '_'
  · rw [line]
    decide
  · rw [beq_eq_false_iff_ne.mpr line, Bool.or_false] at class_
    rw [class_, bne_iff_ne.mpr line]

/-- The segments of a key are the letters and digits of the symbol up to case. -/
theorem lower_spelled (plain : symbol.toList.all isPlain = true) :
    (spelled symbol).map Char.toLower = (signs symbol).map Char.toLower := by
  have each : ∀ segment ∈ pieces '_' symbol.toList,
      (segmentKey segment).map Char.toLower = segment.map Char.toLower := fun segment member =>
    lower_segmentKey fun c inside => List.all_eq_true.mp plain c (pieces_spec member c inside).2
  calc (spelled symbol).map Char.toLower
      = (pieces '_' symbol.toList).flatMap fun segment => (segmentKey segment).map Char.toLower := List.map_flatMap
    _ = (pieces '_' symbol.toList).flatMap fun segment => segment.map Char.toLower := List.flatMap_congr each
    _ = (signs symbol).map Char.toLower := by rw [signs_eq plain, List.map_flatten, List.flatMap]

theorem length_spelled (plain : symbol.toList.all isPlain = true) : (spelled symbol).length = (signs symbol).length := by
  have lengths := congrArg List.length (lower_spelled plain)
  rwa [List.length_map, List.length_map] at lengths

theorem isAlphanum_of_mem_spelled (plain : symbol.toList.all isPlain = true) {c : Char} (member : c ∈ spelled symbol) :
    c.isAlphanum = true := by
  have listed : c.toLower ∈ (signs symbol).map Char.toLower := lower_spelled plain ▸ List.mem_map_of_mem member
  obtain ⟨d, sign, same⟩ := List.mem_map.mp listed
  rw [← (classes_toLower c).1, ← same, (classes_toLower d).1]
  exact (List.mem_filter.mp sign).2

/-- The segments of a key begin with a digit if the letters and digits of the symbol do. -/
theorem digitLeads_eq (plain : symbol.toList.all isPlain = true) :
    digitLeads symbol = (spelled symbol).head?.any Char.isDigit := by
  have through : ∀ cs : List Char, cs.head?.any Char.isDigit = (cs.map Char.toLower).head?.any Char.isDigit := by
    intro cs
    cases cs with
    | nil => rfl
    | cons c rest => exact (classes_toLower c).2.symm
  rw [digitLeads, through, through (spelled symbol), lower_spelled plain]

theorem toList_keyOf (plain : symbol.toList.all isPlain = true) :
    (keyOf symbol).toList = (if digitLeads symbol then ['E'] else []) ++ spelled symbol := by
  rw [keyOf, String.toList_ofList, digitLeads_eq plain]
  change startWithLetter (spelled symbol) = _
  cases begins : spelled symbol with
  | nil => rfl
  | cons c rest =>
    have sign := isAlphanum_of_mem_spelled plain (begins ▸ List.mem_cons_self)
    have digit : isDigit c = c.isDigit := isDigit_of_isPlain (Bool.or_eq_true_iff.mpr (.inl sign))
    rw [startWithLetter, digit]
    cases leads : c.isDigit <;> simp [leads]

theorem Spellable.spelled_ne_nil (spellable : Spellable symbol) : spelled symbol ≠ [] := by
  intro nothing
  have lengths := length_spelled spellable.plain
  rw [nothing] at lengths
  exact spellable.signed (List.length_eq_zero_iff.mp lengths.symm)

/-! ## Two symbols with a low line between them -/

theorem toList_join (symbol other : String) : (symbol ++ "_" ++ other).toList = symbol.toList ++ '_' :: other.toList := by
  rw [String.toList_append, String.toList_append, List.append_assoc]
  rfl

/-- They have the segments of both. -/
theorem spelled_join (symbol other : String) : spelled (symbol ++ "_" ++ other) = spelled symbol ++ spelled other := by
  rw [spelled, toList_join, pieces_append_cons, List.flatMap_append]
  rfl

theorem plain_join (plain : symbol.toList.all isPlain = true) (plain' : other.toList.all isPlain = true) :
    (symbol ++ "_" ++ other).toList.all isPlain = true := by
  rw [toList_join, List.all_append, List.all_cons, plain, plain']
  rfl

theorem digitLeads_join (spellable : Spellable symbol) (plain : other.toList.all isPlain = true) :
    digitLeads (symbol ++ "_" ++ other) = digitLeads symbol := by
  rw [digitLeads_eq (plain_join spellable.plain plain), digitLeads_eq spellable.plain, spelled_join,
    List.head?_append_of_ne_nil _ spellable.spelled_ne_nil]

/-- A symbol that begins with a letter has a key without an `E` in front. -/
theorem not_digitLeads {c : Char} (begins : symbol.toList.head? = some c) (letter : c.isAlpha = true) :
    digitLeads symbol = false := by
  have sign : c.isAlphanum = true := by rw [Char.isAlphanum, letter, Bool.true_or]
  have plain : isPlain c = true := Bool.or_eq_true_iff.mpr (.inl sign)
  have digit : c.isDigit = false :=
    forall_ascii (P := fun c => c.isAlpha = true → c.isDigit = false) (by decide +kernel) (ascii_of_isPlain plain) letter
  obtain ⟨rest, split⟩ := List.head?_eq_some_iff.mp begins
  rw [digitLeads, signs, split, List.filter_cons_of_pos sign]
  exact digit

/-- **A key spells its symbol.** A symbol of plain characters, among them a letter or a digit, has a key of letters and
digits that does not begin with a digit. Its key is as long as the letters and digits of the symbol are many, and longer by
one if these begin with a digit, for the `E` that stands in front then; behind that it is they up to case. And where another
such symbol that begins with a letter is put behind it, with a low line between, its key is put behind its key. -/
theorem key_spells_symbol (spellable : Spellable symbol) :
    keyOf symbol ≠ "" ∧
    (∀ c ∈ (keyOf symbol).toList, c.isAlphanum = true) ∧
    (∀ c ∈ (keyOf symbol).toList.head?, c.isDigit = false) ∧
    (keyOf symbol).length = (signs symbol).length + (if digitLeads symbol then 1 else 0) ∧
    (∃ behind, (keyOf symbol).toList = (if digitLeads symbol then ['E'] else []) ++ behind ∧
      behind.map Char.toLower = (signs symbol).map Char.toLower) ∧
    ∀ other, Spellable other → (∃ c, other.toList.head? = some c ∧ c.isAlpha = true) →
      keyOf (symbol ++ "_" ++ other) = keyOf symbol ++ keyOf other := by
  have key := toList_keyOf spellable.plain
  have some_spelled := spellable.spelled_ne_nil
  refine ⟨?_, ?_, ?_, ?_, ⟨spelled symbol, key, lower_spelled spellable.plain⟩, ?_⟩
  · intro empty
    rw [empty] at key
    exact some_spelled (List.append_eq_nil_iff.mp key.symm).2
  · intro c member
    rw [key, List.mem_append] at member
    rcases member with front | behind
    · split at front
      · rw [List.mem_singleton.mp front]
        decide
      · cases front
    · exact isAlphanum_of_mem_spelled spellable.plain behind
  · intro c first
    rw [key] at first
    cases leads : digitLeads symbol with
    | true =>
      rw [leads, if_pos rfl, List.singleton_append, List.head?_cons] at first
      cases first
      decide
    | false =>
      rw [leads, if_neg Bool.false_ne_true, List.nil_append] at first
      rw [digitLeads_eq spellable.plain, first] at leads
      exact leads
  · rw [← String.length_toList, key, List.length_append, length_spelled spellable.plain]
    split <;> simp [Nat.add_comm]
  · rintro other spellable' ⟨c, begins, letter⟩
    have key' := toList_keyOf spellable'.plain
    rw [not_digitLeads begins letter, if_neg Bool.false_ne_true, List.nil_append] at key'
    apply String.toList_injective
    rw [String.toList_append, key, key', toList_keyOf (plain_join spellable.plain spellable'.plain),
      digitLeads_join spellable spellable'.plain, spelled_join, List.append_assoc]

end

/-! ## Two halves of a symbol -/

/-- A symbol that begins with a digit and has an empty segment, and an acronym behind it. -/
theorem halves_spelled : Spellable "2D_MULTISAMPLE__array" ∧ Spellable "S3TC_dxt1" ∧
    keyOf "2D_MULTISAMPLE__array" = "E2DMultisampleArray" ∧ keyOf "S3TC_dxt1" = "S3TCDxt1" ∧
    (keyOf "2D_MULTISAMPLE__array").length = (signs "2D_MULTISAMPLE__array").length + 1 ∧
    keyOf ("2D_MULTISAMPLE__array" ++ "_" ++ "S3TC_dxt1") = "E2DMultisampleArray" ++ "S3TCDxt1" := by
  have first : Spellable "2D_MULTISAMPLE__array" := ⟨by decide +kernel, by decide +kernel⟩
  have second : Spellable "S3TC_dxt1" := ⟨by decide +kernel, by decide +kernel⟩
  have keys : keyOf "2D_MULTISAMPLE__array" = "E2DMultisampleArray" ∧ keyOf "S3TC_dxt1" = "S3TCDxt1" := by decide +kernel
  have leads : digitLeads "2D_MULTISAMPLE__array" = true := by decide +kernel
  obtain ⟨-, -, -, length, -, join⟩ := key_spells_symbol first
  rw [leads, if_pos rfl] at length
  have joined := join "S3TC_dxt1" second ⟨'S', by decide +kernel, by decide⟩
  rw [keys.1, keys.2] at joined
  exact ⟨first, second, keys.1, keys.2, length, joined⟩

end CommandStream.Description
