import CommandStream.Proofs.Header.Lines
import CommandStream.Proofs.Text.Phrase
import CommandStream.Proofs.Text.Trimmed

/-!
# Declarations are read back

A function type that a line declares is written as a line again: its return type, its name and the declarations of
its arguments. What a reading takes from a line is declarable, and a declarable type is what its own line
declares. Texts are cut apart where no part of a declarable type has a character: at the parentheses, at the
commas, and behind the last character of an argument that belongs to no word.
-/

namespace CommandStream
open Text

/-- The line that declares a function type. -/
def FunctionType.declaration (t : FunctionType) : String :=
  "typedef " ++ t.returnType ++ " (APIENTRYP " ++ t.typedefName ++ ")(" ++ t.parameters ++ ");"

/-! ## Arguments -/

namespace Argument

/-- An argument that a declaration within a parameter list may have. -/
structure Declarable (a : Argument) : Prop where
  typed : a.type.toList ≠ []
  trimmed : Trimmed a.type.toList
  /-- The type ends before the next argument, and before the end of the list. -/
  bounded : ∀ c ∈ a.type.toList, c ≠ ',' ∧ c ≠ ')'
  named : a.name.toList ≠ []
  word : ∀ c ∈ a.name.toList, isWord c = true
  plain : a.isEnum = false

/-- A declaration is cut in front of its last word. -/
theorem splitFromEnd_append {word : List Char} (all : ∀ c ∈ word, isWord c = true) {c : Char} (stop : isWord c = false)
    (before name : List Char) :
    splitFromEnd name (word.reverse ++ c :: before) = some ((c :: before).reverse, word ++ name) := by
  -- the word is read from its end, so the induction takes its last character off
  induction word using List.reverseRecOn generalizing name with
  | nil => rw [List.reverse_nil, List.nil_append, splitFromEnd, stop, if_neg Bool.false_ne_true, List.nil_append]
  | append_singleton word d ih =>
    have last : isWord d = true := all d (List.mem_append_right _ List.mem_cons_self)
    rw [List.reverse_append, List.reverse_singleton, List.singleton_append, List.cons_append, splitFromEnd, if_pos last,
      ih (fun e member => all e (List.mem_append_left _ member)), List.append_assoc, List.singleton_append]

theorem splitFromEnd_some {name backwards before after : List Char}
    (cut : splitFromEnd name backwards = some (before, after)) :
    ∃ word, (∀ c ∈ word, isWord c = true) ∧ after = word ++ name ∧ backwards = word.reverse ++ before.reverse := by
  induction backwards generalizing name with
  | nil => cases cut
  | cons c rest ih =>
    unfold splitFromEnd at cut
    split at cut
    · rename_i part
      obtain ⟨word, all, rfl, rfl⟩ := ih cut
      refine ⟨word ++ [c], ?_, by rw [List.append_assoc, List.singleton_append], ?_⟩
      · intro d member
        rcases List.mem_append.mp member with earlier | last
        · exact all d earlier
        · exact List.mem_singleton.mp last ▸ part
      · rw [List.reverse_append, List.reverse_singleton, List.singleton_append, List.cons_append]
    · cases cut
      have nothing : ∀ c ∈ ([] : List Char), isWord c = true := fun _ member => nomatch member
      exact ⟨[], nothing, rfl, by rw [List.reverse_reverse]; rfl⟩

/-- What a piece of a parameter list declares. -/
theorem declarable_ofC? {declaration : String} {a : Argument}
    (bounded : ∀ c ∈ declaration.toList, c ≠ ',' ∧ c ≠ ')') (read : ofC? declaration = some a) : a.Declarable := by
  unfold ofC? at read
  split at read
  · cases read
  rename_i before after cut
  obtain ⟨word, all, rfl, backwards⟩ := splitFromEnd_some cut
  have whole : trim declaration.toList = before ++ word := by
    rw [← List.reverse_reverse (trim _), backwards, List.reverse_append, List.reverse_reverse, List.reverse_reverse]
  rw [List.append_nil] at read
  have bare : trim word = word := (Trimmed.of_words all).trim_self
  dsimp only at read
  split at read
  · cases read
  rename_i some_parts
  cases read
  rw [Bool.or_eq_true, not_or, List.isEmpty_iff, List.isEmpty_iff, bare] at some_parts
  constructor
  · rw [String.toList_ofList]
    exact some_parts.1
  · rw [String.toList_ofList]
    exact trimmed_trim before
  · intro c member
    rw [String.toList_ofList] at member
    refine bounded c (mem_of_mem_trim ?_)
    rw [whole]
    exact List.mem_append_left _ (mem_of_mem_trim member)
  · rw [String.toList_ofList, bare]
    exact some_parts.2
  · rw [String.toList_ofList, bare]
    exact all
  · rfl

/-- The declaration of an argument is its type and its name, with a space between them or not. -/
theorem toC_spaced (a : Argument) : ∃ space, (∀ c ∈ space, c = ' ') ∧
    a.toC.toList = a.type.toList ++ space ++ a.name.toList := by
  by_cases starred : finishesWith a.type "*" = true
  · refine ⟨[], List.forall_mem_nil _, ?_⟩
    rw [toC, if_pos starred, String.toList_append, List.append_nil]
  · refine ⟨[' '], fun c member => List.mem_singleton.mp member, ?_⟩
    rw [toC, if_neg starred, String.toList_append, String.toList_append]
    rfl

namespace Declarable

variable {a : Argument} (declarable : a.Declarable)
include declarable

/-- The declaration of an argument: the type, up to blanks behind it, ends with a character of no word. -/
theorem toList_toC : ∃ c before, isWord c = false ∧ trim (before ++ [c]) = a.type.toList ∧
    a.toC.toList = before ++ [c] ++ a.name.toList := by
  by_cases starred : finishesWith a.type "*" = true
  · obtain ⟨before, split⟩ := List.isSuffixOf_iff_suffix.mp starred
    refine ⟨'*', before, by decide +kernel, ?_, ?_⟩
    · rw [show before ++ ['*'] = a.type.toList from split]
      exact declarable.trimmed.trim_self
    · rw [toC, if_pos starred, String.toList_append, ← split]
      rfl
  · refine ⟨' ', a.type.toList, by decide +kernel, declarable.trimmed.trim_behind blank_space, ?_⟩
    rw [toC, if_neg starred, String.toList_append, String.toList_append]
    rfl

theorem toC_ne_nil : a.toC.toList ≠ [] := by
  obtain ⟨c, before, -, -, whole⟩ := declarable.toList_toC
  rw [whole]
  simp

theorem trimmed_toC : Trimmed a.toC.toList := by
  obtain ⟨space, -, whole⟩ := a.toC_spaced
  rw [whole]
  exact declarable.trimmed.append (.of_words declarable.word) declarable.typed declarable.named

theorem bounded_toC : ∀ c ∈ a.toC.toList, c ≠ ',' ∧ c ≠ ')' := by
  obtain ⟨space, spaces, whole⟩ := a.toC_spaced
  intro c member
  rw [whole] at member
  rcases List.mem_append.mp member with type | name
  · rcases List.mem_append.mp type with type | between
    · exact declarable.bounded c type
    · rw [spaces c between]
      decide
  · have word := declarable.word c name
    constructor <;> rintro rfl <;> exact absurd word (by decide +kernel)

/-- A declarable argument is read from its declaration, with blanks in front or not. -/
theorem ofC?_toC {lead : List Char} (blank : ∀ c ∈ lead, isBlank c = true) :
    ofC? (String.ofList (lead ++ a.toC.toList)) = some a := by
  obtain ⟨c, before, stop, type, whole⟩ := declarable.toList_toC
  have core : trim (lead ++ a.toC.toList) = before ++ [c] ++ a.name.toList :=
    (declarable.trimmed_toC.trim_before blank).trans whole
  have cut : splitFromEnd [] (before ++ [c] ++ a.name.toList).reverse = some (before ++ [c], a.name.toList) := by
    have read := splitFromEnd_append declarable.word stop before.reverse []
    rw [List.append_nil, List.reverse_cons, List.reverse_reverse] at read
    rw [List.reverse_append, List.reverse_append, List.reverse_singleton, List.singleton_append]
    exact read
  have bare : trim a.name.toList = a.name.toList := (Trimmed.of_words declarable.word).trim_self
  have some_parts : ¬ (a.type.toList.isEmpty || a.name.toList.isEmpty) = true := by
    rw [Bool.or_eq_true, not_or, List.isEmpty_iff, List.isEmpty_iff]
    exact ⟨declarable.typed, declarable.named⟩
  simp only [ofC?, String.toList_ofList, core, cut, type, bare]
  rw [if_neg some_parts, String.ofList_toList, String.ofList_toList, ← declarable.plain]

end Declarable

/-! ## Parameter lists -/

theorem mem_mapM_some {α β : Type} {f : α → Option β} {items : List α} {results : List β}
    (made : items.mapM f = some results) {result : β} (member : result ∈ results) :
    ∃ item ∈ items, f item = some result := by
  induction items generalizing results with
  | nil =>
    cases made
    cases member
  | cons item rest ih =>
    rw [List.mapM_cons] at made
    obtain ⟨first, one, made⟩ := Option.bind_eq_some_iff.mp made
    obtain ⟨others, more, made⟩ := Option.bind_eq_some_iff.mp made
    cases made
    rcases List.mem_cons.mp member with rfl | later
    · exact ⟨item, List.mem_cons_self, one⟩
    · obtain ⟨found, listed, same⟩ := ih more later
      exact ⟨found, List.mem_cons_of_mem _ listed, same⟩

theorem mapM_map_some {α β : Type} {f : β → Option α} {g : α → β} {items : List α}
    (each : ∀ item ∈ items, f (g item) = some item) : (items.map g).mapM f = some items := by
  induction items with
  | nil => rfl
  | cons item rest ih =>
    rw [List.map_cons, List.mapM_cons, each item List.mem_cons_self,
      ih fun other member => each other (List.mem_cons_of_mem _ member)]
    rfl

/-- What a parameter list declares. -/
theorem declarable_listOfC? {parameters : String} {arguments : List Argument} (closed : ')' ∉ parameters.toList)
    (read : listOfC? parameters = some arguments) : ∀ a ∈ arguments, a.Declarable := by
  intro a member
  unfold listOfC? at read
  dsimp only at read
  split at read
  · cases read
    cases member
  · obtain ⟨piece, listed, declared⟩ := mem_mapM_some read member
    refine declarable_ofC? (fun c inside => ?_) declared
    rw [String.toList_ofList] at inside
    obtain ⟨apart, within⟩ := pieces_spec listed c inside
    refine ⟨apart, ?_⟩
    rintro rfl
    exact closed (mem_of_mem_trim within)

end Argument

/-- Items with a separator and a space between them, cut at the separator. -/
theorem Text.pieces_spaced {separator : Char} {items : List (List Char)} (absent : ∀ item ∈ items, separator ∉ item)
    (spaced : separator ≠ ' ') {first : List Char} (bare : separator ∉ first) :
    pieces separator ([separator, ' '].intercalate (first :: items)) = first :: items.map (' ' :: ·) := by
  induction items generalizing first with
  | nil => rw [List.intercalate_singleton, pieces_of_not_mem bare, List.map_nil]
  | cons next rest ih =>
    have shifted : ' ' :: [separator, ' '].intercalate (next :: rest) =
        [separator, ' '].intercalate ((' ' :: next) :: rest) := by
      cases rest with
      | nil => rw [List.intercalate_singleton, List.intercalate_singleton]
      | cons => rw [List.intercalate_cons_cons, List.intercalate_cons_cons, List.cons_append, List.cons_append]
    have next_bare : separator ∉ ' ' :: next := by
      rw [List.mem_cons, not_or]
      exact ⟨spaced, absent next List.mem_cons_self⟩
    rw [List.intercalate_cons_cons, List.append_assoc, List.cons_append, List.singleton_append, pieces_append bare, shifted,
      ih (fun item member => absent item (List.mem_cons_of_mem _ member)) next_bare, List.map_cons]

/-- Trimmed items put together. -/
theorem Text.trimmed_intercalate {separator : List Char} {items : List (List Char)} {first : List Char}
    (trimmed : ∀ item ∈ first :: items, Trimmed item ∧ item ≠ []) :
    Trimmed (separator.intercalate (first :: items)) ∧ separator.intercalate (first :: items) ≠ [] := by
  induction items generalizing first with
  | nil =>
    rw [List.intercalate_singleton]
    exact trimmed first List.mem_cons_self
  | cons next rest ih =>
    obtain ⟨left, some_first⟩ := trimmed first List.mem_cons_self
    obtain ⟨right, some_rest⟩ := ih fun item member => trimmed item (List.mem_cons_of_mem _ member)
    rw [List.intercalate_cons_cons]
    exact ⟨left.append right some_first some_rest, by simp [some_first]⟩

/-! ## Function types -/

/-- A function type that a line may declare. -/
structure FunctionType.Declarable (t : FunctionType) : Prop where
  result : Trimmed t.returnType.toList
  /-- The return type ends before the declarator. -/
  opened : '(' ∉ t.returnType.toList
  named : t.typedefName.toList ≠ []
  word : ∀ c ∈ t.typedefName.toList, isWord c = true
  arguments : ∀ a ∈ t.arguments, a.Declarable
  plain : t.returnsEnum = false

namespace FunctionType.Declarable

variable {t : FunctionType} (declarable : t.Declarable)
include declarable

/-- The arguments of a declarable type are read from its parameter list. -/
theorem listOfC?_parameters : Argument.listOfC? t.parameters = some t.arguments := by
  have written : t.parameters.toList = [',', ' '].intercalate (t.arguments.map fun a => a.toC.toList) := by
    rw [FunctionType.parameters, FunctionType.parametersWith, String.toList_intercalate, List.map_map]
    rfl
  have arguments := declarable.arguments
  cases listed : t.arguments with
  | nil =>
    rw [listed] at written
    have nothing : trim t.parameters.toList = [] := by
      rw [written]
      rfl
    simp only [Argument.listOfC?, nothing]
    rfl
  | cons first rest =>
    rw [listed] at written arguments
    rw [List.map_cons] at written
    have some_first := arguments first List.mem_cons_self
    have others : ∀ a ∈ rest, a.Declarable := fun a member => arguments a (List.mem_cons_of_mem _ member)
    have sound : Trimmed t.parameters.toList ∧ t.parameters.toList ≠ [] := by
      rw [written]
      refine trimmed_intercalate fun item member => ?_
      rw [← List.map_cons (f := fun a : Argument => a.toC.toList)] at member
      obtain ⟨a, inside, rfl⟩ := List.mem_map.mp member
      exact ⟨(arguments a inside).trimmed_toC, (arguments a inside).toC_ne_nil⟩
    have cut : pieces ',' t.parameters.toList = first.toC.toList :: rest.map fun a => ' ' :: a.toC.toList := by
      rw [written, pieces_spaced ?_ (by decide) fun inside => (some_first.bounded_toC _ inside).1 rfl, List.map_map]
      · rfl
      · intro item member inside
        obtain ⟨a, listed, rfl⟩ := List.mem_map.mp member
        exact ((others a listed).bounded_toC _ inside).1 rfl
    -- the declaration of an argument has a character of no word, unlike `void`
    have unlike : ¬ (t.parameters.toList.isEmpty || String.ofList t.parameters.toList == "void") = true := by
      rw [Bool.or_eq_true, not_or, List.isEmpty_iff, beq_iff_eq, String.ofList_toList]
      refine ⟨sound.2, fun same => ?_⟩
      obtain ⟨c, before, stop, -, whole⟩ := some_first.toList_toC
      have inside : c ∈ t.parameters.toList := by
        have own : c ∈ first.toC.toList := by
          rw [whole]
          simp
        rw [written]
        cases rest with
        | nil => rwa [List.map_nil, List.intercalate_singleton]
        | cons =>
          rw [List.map_cons, List.intercalate_cons_cons, List.append_assoc]
          exact List.mem_append_left _ own
      have letters : "void".toList.all isWord = true := by decide
      rw [same] at inside
      rw [List.all_eq_true.mp letters c inside] at stop
      cases stop
    have leading : Argument.ofC? (String.ofList ([] ++ first.toC.toList)) = some first :=
      some_first.ofC?_toC (List.forall_mem_nil _)
    have following : (rest.map fun a => ' ' :: a.toC.toList).mapM (fun piece => Argument.ofC? (String.ofList piece)) =
        some rest := by
      refine Argument.mapM_map_some fun a member => ?_
      have spaced := (others a member).ofC?_toC blank_space
      exact spaced
    simp only [Argument.listOfC?, sound.1.trim_self]
    rw [if_neg unlike, cut, List.mapM_cons, ← List.nil_append first.toC.toList, leading, following]
    rfl

theorem closed_parameters : ')' ∉ t.parameters.toList := by
  intro member
  rcases mem_toList_intercalate member with separator | ⟨text, listed, inside⟩
  · exact absurd separator (by decide)
  · obtain ⟨a, among, rfl⟩ := List.mem_map.mp listed
    exact ((declarable.arguments a among).bounded_toC _ inside).2 rfl

end FunctionType.Declarable

namespace Header

/-! ## Cutting a line -/

theorem afterPrefix?_append (start rest : List Char) : afterPrefix? start (start ++ rest) = some rest := by
  induction start with
  | nil => rfl
  | cons c start ih => rw [List.cons_append, afterPrefix?, if_pos rfl, ih]

theorem afterText?_append {text : String} (solid : ∃ c ∈ text.toList.head?, isBlank c = false) (rest : List Char) :
    afterText? text (text.toList ++ rest) = some rest := by
  obtain ⟨c, first, solid⟩ := solid
  have stops : (text.toList ++ rest).dropWhile isBlank = text.toList ++ rest := by
    refine dropWhile_of_head fun d head => ?_
    rw [List.head?_append, first] at head
    cases head
    exact solid
  rw [afterText?, stops, afterPrefix?_append]

theorem afterBlanks?_space {rest : List Char} (solid : ∀ c ∈ rest.head?, isBlank c = false) :
    afterBlanks? (' ' :: rest) = some rest := by
  have space : isBlank ' ' = true := by decide
  rw [afterBlanks?, if_pos space, dropWhile_of_head solid]

theorem word?_append {word rest : List Char} (some_word : word ≠ []) (all : ∀ c ∈ word, isWord c = true)
    (stop : ∀ c ∈ rest.head?, isWord c = false) : word? (word ++ rest) = some (word, rest) := by
  have ends : rest.takeWhile isWord = [] := by
    cases rest with
    | nil => rfl
    | cons c rest => rw [List.takeWhile_cons_of_neg (by rw [stop c rfl]; exact Bool.false_ne_true)]
  rw [word?, List.takeWhile_append_of_pos all, ends, List.append_nil, List.dropWhile_append_of_pos all, dropWhile_of_head stop]
  cases word with
  | nil => exact absurd rfl some_word
  | cons => rfl

theorem word?_some {cs word rest : List Char} (read : word? cs = some (word, rest)) :
    word ≠ [] ∧ ∀ c ∈ word, isWord c = true := by
  unfold word? at read
  split at read
  · cases read
  · rename_i some_word
    cases read
    exact ⟨some_word, fun c member => List.mem_takeWhile_imp member⟩

theorem upTo?_append {stop : Char} {part : List Char} (absent : stop ∉ part) (rest : List Char) :
    upTo? stop (part ++ stop :: rest) = some (part, rest) := by
  have before : ∀ c ∈ part, (c != stop) = true := fun c member => bne_iff_ne.mpr fun same => absent (same ▸ member)
  rw [upTo?, List.dropWhile_append_of_pos before, List.takeWhile_append_of_pos before]
  simp

theorem upTo?_some {stop : Char} {cs part rest : List Char} (read : upTo? stop cs = some (part, rest)) : stop ∉ part := by
  unfold upTo? at read
  split at read
  · cases read
  · cases read
    intro member
    have other : (stop != stop) = true := List.mem_takeWhile_imp (p := fun c => c != stop) member
    exact absurd rfl (bne_iff_ne.mp other)

theorem returnType?_padded {result : List Char} (trimmed : Trimmed result) :
    returnType? (' ' :: (result ++ [' '])) = some (String.ofList result) := by
  have space : isBlank ' ' = true := by decide
  have bare : trim (result ++ [' ']) = result := trimmed.trim_behind blank_space
  cases result with
  | nil => rw [List.nil_append, returnType?, if_pos space, show trim [' '] = [] from bare]
  | cons c rest =>
    rw [List.cons_append] at bare ⊢
    rw [returnType?, if_pos space, bare]

theorem returnType?_some {between : List Char} {result : String} (read : returnType? between = some result) :
    Trimmed result.toList ∧ ∀ c ∈ result.toList, c ∈ between := by
  unfold returnType? at read
  split at read
  · split at read
    · cases read
      rw [String.toList_ofList]
      exact ⟨trimmed_trim _, fun c member => List.mem_cons_of_mem _ (mem_of_mem_trim member)⟩
    · cases read
  · cases read

end Header

namespace FunctionType
open Header

/-- A function type that a line declares is declarable. -/
theorem declarable_ofLine? {line : List Char} {t : FunctionType} (declared : ofLine? line = some t) : t.Declarable := by
  obtain ⟨d, shaped, declared⟩ := Option.bind_eq_some_iff.mp declared
  obtain ⟨arguments, listed, declared⟩ := Option.bind_eq_some_iff.mp declared
  cases declared
  obtain ⟨behind, -, shaped⟩ := Option.bind_eq_some_iff.mp shaped
  obtain ⟨⟨between, declarator⟩, opened, shaped⟩ := Option.bind_eq_some_iff.mp shaped
  obtain ⟨result, returned, shaped⟩ := Option.bind_eq_some_iff.mp shaped
  obtain ⟨marked, -, shaped⟩ := Option.bind_eq_some_iff.mp shaped
  obtain ⟨spaced, -, shaped⟩ := Option.bind_eq_some_iff.mp shaped
  obtain ⟨⟨name, closing⟩, named, shaped⟩ := Option.bind_eq_some_iff.mp shaped
  obtain ⟨opening, -, shaped⟩ := Option.bind_eq_some_iff.mp shaped
  obtain ⟨list, -, shaped⟩ := Option.bind_eq_some_iff.mp shaped
  obtain ⟨⟨parameters, tail⟩, closed, shaped⟩ := Option.bind_eq_some_iff.mp shaped
  obtain ⟨_, -, shaped⟩ := Option.bind_eq_some_iff.mp shaped
  cases shaped
  obtain ⟨trimmed, within⟩ := returnType?_some returned
  obtain ⟨some_name, word⟩ := word?_some named
  constructor
  · exact trimmed
  · exact fun member => upTo?_some opened (within _ member)
  · rwa [String.toList_ofList]
  · rwa [String.toList_ofList]
  · refine Argument.declarable_listOfC? ?_ listed
    rw [String.toList_ofList]
    exact upTo?_some closed
  · rfl

/-- The parts of a declaration. -/
theorem toList_declaration (t : FunctionType) : t.declaration.toList =
    "typedef".toList ++ ((' ' :: (t.returnType.toList ++ [' '])) ++ '(' :: ("APIENTRYP".toList ++
      (' ' :: (t.typedefName.toList ++ (")".toList ++ ("(".toList ++ (t.parameters.toList ++
        ')' :: (";".toList ++ [])))))))) := by
  simp [declaration, String.toList_append]

/-- A declarable function type is what its own line declares. -/
theorem Declarable.ofLine?_declaration {t : FunctionType} (declarable : t.Declarable) :
    ofLine? t.declaration.toList = some t := by
  have opened : '(' ∉ ' ' :: (t.returnType.toList ++ [' ']) := by
    have apart : '(' ≠ ' ' := by decide
    simp [apart, declarable.opened]
  have name_solid : ∀ c ∈ (t.typedefName.toList ++ (")".toList ++ ("(".toList ++ (t.parameters.toList ++
      ')' :: (";".toList ++ []))))).head?, isBlank c = false := by
    intro c head
    cases letters : t.typedefName.toList with
    | nil => exact absurd letters declarable.named
    | cons d rest =>
      rw [letters] at head
      cases head
      exact not_isBlank_of_isWord (declarable.word c (letters ▸ List.mem_cons_self))
  have name_ends : ∀ c ∈ (")".toList ++ ("(".toList ++ (t.parameters.toList ++ ')' :: (";".toList ++ [])))).head?,
      isWord c = false := by
    intro c head
    cases head
    decide +kernel
  have shaped : TypeDeclaration.ofLine? t.declaration.toList = some ⟨t.returnType, t.typedefName, t.parameters⟩ := by
    rw [toList_declaration, TypeDeclaration.ofLine?]
    refine Option.bind_eq_some_iff.mpr ⟨_, afterPrefix?_append _ _, ?_⟩
    refine Option.bind_eq_some_iff.mpr ⟨_, upTo?_append opened _, ?_⟩
    refine Option.bind_eq_some_iff.mpr ⟨_, returnType?_padded declarable.result, ?_⟩
    refine Option.bind_eq_some_iff.mpr ⟨_, afterText?_append ⟨'A', rfl, by decide⟩ _, ?_⟩
    refine Option.bind_eq_some_iff.mpr ⟨_, afterBlanks?_space name_solid, ?_⟩
    refine Option.bind_eq_some_iff.mpr ⟨_, word?_append declarable.named declarable.word name_ends, ?_⟩
    refine Option.bind_eq_some_iff.mpr ⟨_, afterText?_append ⟨')', rfl, by decide⟩ _, ?_⟩
    refine Option.bind_eq_some_iff.mpr ⟨_, afterText?_append ⟨'(', rfl, by decide⟩ _, ?_⟩
    refine Option.bind_eq_some_iff.mpr ⟨_, upTo?_append declarable.closed_parameters _, ?_⟩
    refine Option.bind_eq_some_iff.mpr ⟨_, afterText?_append ⟨';', rfl, by decide⟩ _, ?_⟩
    rw [String.ofList_toList, String.ofList_toList, String.ofList_toList]
  rw [ofLine?, shaped, Option.bind_eq_bind, Option.bind_some, declarable.listOfC?_parameters, Option.bind_eq_bind,
    Option.bind_some, ← declarable.plain]

theorem shape_declaration (t : FunctionType) : Shape.ofLine t.declaration.toList = .functionType := by
  rw [Shape.ofLine_eq_functionType, toList_declaration]
  refine ⟨List.prefix_append _ _, List.IsInfix.trans ?_ (List.suffix_append _ _).isInfix⟩
  -- the calling convention stands behind the opening parenthesis
  exact ⟨(' ' :: (t.returnType.toList ++ [' '])) ++ ['('], _, by rw [List.append_assoc, List.append_assoc]; rfl⟩

end FunctionType

namespace Header.Extraction

/-- **Declarations are read back.** A function type that is taken from a line, whatever the line, is taken again from the
line that declares it: by every reading that has no type of its name, with the same name, return type and arguments. -/
theorem declaration_read_back {x y : Extraction} {lineNumber : Nat} {line : List Char}
    (read : x.readType lineNumber line = .ok y) (taken : y.typeCount = x.typeCount + 1) :
    ∃ t : FunctionType, y.registry.types = x.registry.types ++ [(t.typedefName, t)] ∧
      ∀ (z : Extraction) (number : Nat), z.registry.frozen = false → t.typedefName ∉ Keyed.keys z.registry.types →
        let again : Extraction :=
          { z with
            registry := { z.registry with types := z.registry.types ++ [(t.typedefName, t)] }
            typeCount := z.typeCount + 1 }
        z.readType number t.declaration.toList = .ok again ∧ z.readLine number t.declaration.toList = .ok again := by
  obtain ⟨t, registry, declared, added, rfl⟩ | ⟨reason, rfl⟩ := readType_cases read
  · obtain ⟨-, rfl⟩ := Registry.addType_ok added
    refine ⟨t, rfl, ?_⟩
    intro z number mutable new again
    have reread : z.readType number t.declaration.toList = .ok again := by
      rw [z.readType_of_added number (FunctionType.declarable_ofLine? declared).ofLine?_declaration
        (Registry.addType_of_new mutable new)]
    refine ⟨reread, ?_⟩
    rw [readLine, t.shape_declaration]
    exact reread
  · exact absurd taken (Nat.ne_of_lt (Nat.lt_succ_self x.typeCount))

end Header.Extraction

/-! ## A line in loose style -/

namespace LooseDeclaration
open Header Extraction

/-- A pointer to a constant, one without a space before its name, and blanks wherever they may stand. -/
def line : String := "typedef  const GLubyte *( APIENTRYP\tPFNGLNAMEPROC )\t( GLenum name ,const void*data\t) ; // loose"

def type : FunctionType :=
  ⟨"PFNGLNAMEPROC", "const GLubyte *", false, [⟨"GLenum", "name", false⟩, ⟨"const void*", "data", false⟩]⟩

/-- The reading that has taken the type. -/
def taken : Extraction :=
  { start (.empty "gl") with
    registry := { Registry.empty "gl" with types := [("PFNGLNAMEPROC", type)] }
    typeCount := 1 }

theorem loose_line_read_back : (start (.empty "gl")).readType 1 line.toList = .ok taken ∧
    ∃ t : FunctionType, taken.registry.types = [(t.typedefName, t)] ∧
      t.declaration = "typedef const GLubyte * (APIENTRYP PFNGLNAMEPROC)(GLenum name, const void*data);" ∧
      (start (.empty "gl")).readLine 2 t.declaration.toList = .ok taken := by
  have declared : FunctionType.ofLine? line.toList = some type := by decide +kernel
  have read : (start (.empty "gl")).readType 1 line.toList = .ok taken := by
    rw [readType_of_added _ _ declared (Registry.addType_of_new rfl List.not_mem_nil)]
    rfl
  obtain ⟨t, types, again⟩ := declaration_read_back read rfl
  obtain ⟨-, rfl⟩ : "PFNGLNAMEPROC" = t.typedefName ∧ type = t := Prod.mk.inj (List.singleton_inj.mp types)
  refine ⟨read, type, rfl, by decide, ?_⟩
  exact (again (start (.empty "gl")) 2 rfl List.not_mem_nil).2

end LooseDeclaration

end CommandStream
