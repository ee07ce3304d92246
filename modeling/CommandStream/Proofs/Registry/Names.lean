import CommandStream.Proofs.Header.Account
import CommandStream.Proofs.Header.RoundTrip
import CommandStream.Proofs.Registry.Renames

/-!
# Names of functions and arguments

A header names its functions by words, and the description leaves these names alone. A registry that has been checked has
distinct identifiers as the names of the arguments of a function. So what is printed around a name is never part of it.
-/

namespace CommandStream

/-! ## Identifiers -/

namespace Text

variable {s t : String}

/-- Characters that stand around names in printed statements. -/
def marks : List Char :=
  [' ', '(', '<', '.']

/-- A mark is no part of identifiers or words. -/
theorem foreign_of_mark {c : Char} (mark : c ∈ marks) :
    (startsIdentifier c || continuesIdentifier c) = false ∧ isWord c = false := by
  have foreign : (marks.all fun c => !(startsIdentifier c || continuesIdentifier c) && !isWord c) = true := by decide +kernel
  have own := List.all_eq_true.mp foreign c mark
  rwa [Bool.and_eq_true, Bool.not_eq_true', Bool.not_eq_true'] at own

/-- No mark stands in an identifier. -/
theorem mark_notMem (identifier : isIdentifier s = true) {c : Char} (mark : c ∈ marks) : c ∉ s.toList := by
  intro member
  obtain ⟨first, other⟩ := Bool.or_eq_false_iff.mp (foreign_of_mark mark).1
  unfold isIdentifier at identifier
  split at identifier
  · cases identifier
  · rename_i d rest letters
    obtain ⟨starts, continues⟩ := Bool.and_eq_true_iff.mp identifier
    rw [letters] at member
    rcases List.mem_cons.mp member with rfl | behind
    · rw [first] at starts
      cases starts
    · rw [List.all_eq_true.mp continues c behind] at other
      cases other

/-- The name of a local for a handle, alone or behind the name of an argument. -/
theorem isIdentifier_handle : isIdentifier "handle" = true ∧ "Handle".toList.all continuesIdentifier = true := by
  decide +kernel

/-- An identifier may be continued. -/
theorem isIdentifier_append (identifier : isIdentifier s = true) (continues : t.toList.all continuesIdentifier = true) :
    isIdentifier (s ++ t) = true := by
  unfold isIdentifier at identifier ⊢
  split at identifier
  · cases identifier
  · rename_i c rest letters
    obtain ⟨starts, others⟩ := Bool.and_eq_true_iff.mp identifier
    rw [String.toList_append, letters, List.cons_append]
    show (startsIdentifier c && (rest ++ t.toList).all continuesIdentifier) = true
    rw [starts, List.all_append, others, continues]
    rfl

end Text

/-! ## Names of arguments -/

/-- The names of the arguments of a function. -/
def Function.argumentNames (f : Function) : List String :=
  f.type.arguments.map Argument.name

namespace Registry

variable {r : Registry}

/-- Arguments without a fault are well-formed and have names of their own. -/
theorem sound_of_argumentFault? {name : String} {seen : List String} {arguments : List Argument}
    (sound : argumentFault? name seen arguments = none) :
    (arguments.map Argument.name).Nodup ∧ (∀ a ∈ arguments, a.name ∉ seen) ∧ ∀ a ∈ arguments, wellFormed a = true := by
  induction arguments generalizing seen with
  | nil => exact ⟨List.nodup_nil, List.forall_mem_nil _, List.forall_mem_nil _⟩
  | cons a rest ih =>
    unfold argumentFault? at sound
    split at sound
    · cases sound
    rename_i formed
    split at sound
    · cases sound
    rename_i fresh
    have fresh : a.name ∉ seen := fun held => fresh (List.elem_eq_true_of_mem held)
    obtain ⟨distinct, outside, others⟩ := ih sound
    refine ⟨List.nodup_cons.mpr ⟨fun member => ?_, distinct⟩, fun b member => ?_,
      List.forall_mem_cons.mpr ⟨by simpa using formed, others⟩⟩
    · obtain ⟨b, among, same⟩ := List.mem_map.mp member
      exact outside b among (same ▸ List.mem_cons_self)
    · rcases List.mem_cons.mp member with rfl | among
      · exact fresh
      · exact fun held => outside b among (List.mem_cons_of_mem _ held)

/-- The arguments of functions that can be emitted have distinct identifiers as names. -/
theorem argumentNames_of_sound (sound : fault? [] r.functions = none) : ∀ f ∈ Keyed.values r.functions,
    f.argumentNames.Nodup ∧ ∀ a ∈ f.type.arguments, Text.isIdentifier a.name = true := by
  intro f member
  obtain ⟨entry, listed, rfl⟩ := List.mem_map.mp member
  rw [fault?_of_named (named_of_fault? sound) (nodup_of_fault? sound).1 fun _ _ => List.not_mem_nil] at sound
  have own := List.findSome?_eq_none_iff.mp sound entry listed
  unfold signatureFault? at own
  split at own
  · cases own
  · obtain ⟨distinct, -, formed⟩ := sound_of_argumentFault? own
    refine ⟨distinct, fun a among => ?_⟩
    have each := formed a among
    rw [wellFormed, Bool.and_eq_true] at each
    exact each.2

end Registry

/-! ## Names of functions -/

namespace Header

theorem subset_of_afterBlanks? {cs rest : List Char} (cut : afterBlanks? cs = some rest) : rest ⊆ cs := by
  unfold afterBlanks? at cut
  split at cut
  · split at cut
    · cases cut
      exact fun c member => List.mem_cons_of_mem _ ((List.dropWhile_suffix _).subset member)
    · cases cut
  · cases cut

theorem subset_of_word? {cs word rest : List Char} (read : word? cs = some (word, rest)) : word ⊆ cs ∧ rest ⊆ cs := by
  unfold word? at read
  split at read
  · cases read
  · cases read
    exact ⟨(List.takeWhile_prefix _).subset, (List.dropWhile_suffix _).subset⟩

/-- The symbol of a line is a word of the line. -/
theorem SymbolDeclaration.symbol_of_line {line : List Char} {d : SymbolDeclaration} (declared : ofLine? line = some d) :
    d.symbol.toList ⊆ line ∧ ∀ c ∈ d.symbol.toList, Text.isWord c = true := by
  obtain ⟨behind, keyword, declared⟩ := Option.bind_eq_some_iff.mp declared
  obtain ⟨spaced, blanks, declared⟩ := Option.bind_eq_some_iff.mp declared
  obtain ⟨⟨type, rest⟩, typed, declared⟩ := Option.bind_eq_some_iff.mp declared
  obtain ⟨spaced', blanks', declared⟩ := Option.bind_eq_some_iff.mp declared
  obtain ⟨⟨symbol, tail⟩, named, declared⟩ := Option.bind_eq_some_iff.mp declared
  obtain ⟨_, -, declared⟩ := Option.bind_eq_some_iff.mp declared
  cases declared
  rw [String.toList_ofList]
  refine ⟨?_, (word?_some named).2⟩
  calc symbol ⊆ spaced' := (subset_of_word? named).1
    _ ⊆ rest := subset_of_afterBlanks? blanks'
    _ ⊆ spaced := (subset_of_word? typed).2
    _ ⊆ behind := subset_of_afterBlanks? blanks
    _ ⊆ line := Text.eq_append_of_afterPrefix? keyword ▸ List.subset_append_right _ _

/-- The name of a function of a header is a word of one of its lines. -/
theorem Extraction.word_of_function {start : String} {lines : List String}
    (returns : (ofLines (.empty start) lines).answer = .ok ()) :
    ∀ entry ∈ (ofLines (.empty start) lines).state.registry.functions,
      ∃ line ∈ lines, entry.2.name.toList ⊆ line.toList ∧ ∀ c ∈ entry.2.name.toList, Text.isWord c = true := by
  intro entry member
  rw [state_eq_upTo returns] at member
  obtain ⟨j, -, ⟨⟨line, at_, declared⟩, -⟩, -⟩ := takesFunction_of_mem returns (Nat.le_refl _) entry member
  obtain ⟨within, word⟩ := SymbolDeclaration.symbol_of_line declared
  have among : entry.2.name.toList ⊆ (symbolStart ++ entry.2.name).toList := by
    rw [String.toList_append]
    exact List.subset_append_right _ _
  exact ⟨line, List.mem_of_getElem? at_, fun c listed => within (among listed), fun c listed => word c (among listed)⟩

end Header

namespace Build

variable {log : Log} {start : String} {lines : List String}
  {description : Option (Except Markup.DocumentError Markup.Element)} {r : Registry}

/-- The header of a registry that is read has been read to its end. -/
theorem returns_of_readRegistry (parsed : (readRegistry log start lines description).answer = .ok r) :
    (Header.Extraction.ofLines (.empty start) lines).answer = .ok () := by
  obtain ⟨_, _, first, -⟩ := Outcome.andThen_ok parsed
  obtain ⟨_, _, header, -⟩ := Outcome.andThen_ok (congrArg Outcome.answer first)
  exact Outcome.within_ok (congrArg Outcome.answer header)

/-- Every function of a registry that is read has a word as its name. -/
theorem word_of_readRegistry (parsed : (readRegistry log start lines description).answer = .ok r) :
    ∀ entry ∈ r.functions, ∀ c ∈ entry.2.name.toList, Text.isWord c = true := by
  have declared : ∀ entry ∈ (Header.Extraction.ofLines (.empty start) lines).state.registry.functions,
      ∀ c ∈ entry.2.name.toList, Text.isWord c = true := by
    intro entry member
    obtain ⟨_, -, -, word⟩ := Header.Extraction.word_of_function (returns_of_readRegistry parsed) entry member
    exact word
  have kept : Registry.KeptByTyping fun r => ∀ entry ∈ r.functions, ∀ c ∈ entry.2.name.toList, Text.isWord c = true := by
    refine ⟨fun _ _ word => word, fun r place change word entry member => ?_⟩
    obtain ⟨before, listed, rfl | rfl⟩ := Registry.mem_modifyAt member
    · exact word _ listed
    · exact word before listed
  rcases readRegistry_ok parsed with rfl | ⟨root, -, rfl⟩
  · exact declared
  · exact Refinement.keeps_ofRoot kept declared root

end Build

end CommandStream
