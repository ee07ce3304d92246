import CommandStream.Emission.Artifact
import CommandStream.Proofs.Text.Trimmed

/-!
# Access labels

The class of the commands is read as a compiler reads it: a label is in force from its line to the next label, and every
other line stands under the label in force. A label is printed in front of a declaration only where the access changes, so
that what is in force there is always the access of the function.
-/

namespace CommandStream
open Text

/-! ## Labels in force -/

/-- The label on a line of a class: what stands between the indentation and a colon at the end. -/
def labelOf? (line : String) : Option String :=
  match line.toList with
  | ' ' :: ' ' :: ' ' :: ' ' :: rest => if rest.getLast? = some ':' then some (String.ofList rest.dropLast) else none
  | _ => none

/-- The label in force behind some lines. -/
def labelBehind (current : String) (lines : List String) : String :=
  (lines.filterMap labelOf?).getLast?.getD current

/-- The lines that are neither labels nor empty, each with the label in force. -/
def underLabels (current : String) : List String → List (String × String)
  | [] => []
  | line :: rest =>
    match labelOf? line with
    | some label => underLabels label rest
    | none => if line = "" then underLabels current rest else (current, line) :: underLabels current rest

theorem labelOf?_label (label : String) : labelOf? ("    " ++ label ++ ":") = some label := by
  have whole : ("    " ++ label ++ ":").toList = ' ' :: ' ' :: ' ' :: ' ' :: (label.toList ++ [':']) := by
    simp [String.toList_append]
  rw [labelOf?, whole]
  simp

theorem labelOf?_statement (text : String) : labelOf? ("        " ++ text ++ ";") = none := by
  have whole : ("        " ++ text ++ ";").toList = ' ' :: ' ' :: ' ' :: ' ' :: ("    ".toList ++ text.toList ++ [';']) := by
    simp [String.toList_append]
  have last : ("    ".toList ++ text.toList ++ [';']).getLast? = some ';' := List.getLast?_concat
  rw [labelOf?, whole]
  simp only [last, Option.some.injEq, Char.reduceEq, if_false]

theorem labelOf?_namespace (space : String) : labelOf? ("namespace " ++ space) = none := by
  have whole : ("namespace " ++ space).toList = 'n' :: ("amespace ".toList ++ space.toList) := by
    simp [String.toList_append]
  unfold labelOf?
  rw [whole]
  rfl

theorem underLabels_append (current : String) (lines others : List String) :
    underLabels current (lines ++ others) = underLabels current lines ++ underLabels (labelBehind current lines) others := by
  induction lines generalizing current with
  | nil => rfl
  | cons line rest ih =>
    rw [List.cons_append, underLabels, underLabels]
    cases own : labelOf? line with
    | some label =>
      rw [labelBehind, List.filterMap_cons_some own, List.getLast?_cons, Option.getD_some]
      exact ih label
    | none =>
      rw [labelBehind, List.filterMap_cons_none own, ← labelBehind]
      dsimp only
      split
      · exact ih current
      · rw [ih, List.cons_append]

/-- A text that is made of unbroken lines has these lines. -/
theorem pieces_textOf {lines : List String} (unbroken : ∀ line ∈ lines, '\n' ∉ line.toList) :
    pieces '\n' (Artifact.textOf lines).toList = lines.map String.toList ++ [[]] := by
  induction lines with
  | nil => rfl
  | cons line rest ih =>
    have whole : (Artifact.textOf (line :: rest)).toList = line.toList ++ '\n' :: (Artifact.textOf rest).toList := by
      simp [Artifact.textOf, String.toList_append]
    rw [whole, pieces_append (unbroken line List.mem_cons_self),
      ih fun other member => unbroken other (List.mem_cons_of_mem _ member)]
    rfl

namespace Emitter

variable {e : Emitter} {functions : List Function}

/-- The line that declares the command of a function. -/
def declarationLine (f : Function) : String := "        " ++ declaration f false ++ ";"

theorem labelOf?_declarationLine (f : Function) : labelOf? (declarationLine f) = none := labelOf?_statement _

theorem declarationLine_ne_empty (f : Function) : declarationLine f ≠ "" := by
  intro empty
  have whole := congrArg String.toList empty
  simp [declarationLine, String.toList_append] at whole

/-- The declaration of a function stands under the label in force. -/
theorem underLabels_declaration (current : String) (f : Function) (rest : List String) :
    underLabels current (declarationLine f :: rest) = (current, declarationLine f) :: underLabels current rest := by
  rw [underLabels, labelOf?_declarationLine]
  exact if_neg (declarationLine_ne_empty f)

theorem labelLines_some {label : String} (tagged : label ≠ "") : labelLines (some label) = ["", "    " ++ label ++ ":"] :=
  if_neg fun empty => tagged (String.isEmpty_iff.mp empty)

/-- A printed label is in force at once. -/
theorem underLabels_label (current : String) {label : String} (tagged : label ≠ "") (rest : List String) :
    underLabels current (labelLines (some label) ++ rest) = underLabels label rest := by
  rw [labelLines_some tagged]
  show underLabels current (("    " ++ label ++ ":") :: rest) = _
  rw [underLabels, labelOf?_label]

/-- Every declaration of a run of functions stands under the access of its function. -/
theorem underLabels_labelled (tagged : ∀ f ∈ functions, f.access ≠ "") (current : String) :
    underLabels current ((labelled current functions).flatMap memberLines) =
      functions.map fun f => (f.access, declarationLine f) := by
  induction functions generalizing current with
  | nil => rfl
  | cons f rest ih =>
    have others := fun label => ih (fun g member => tagged g (List.mem_cons_of_mem _ member)) label
    rw [labelled, List.map_cons]
    split
    · rename_i same
      rw [List.flatMap_cons, memberLines, same]
      exact (underLabels_declaration current f _).trans (congrArg _ (others current))
    · rw [List.flatMap_cons, memberLines, List.append_assoc, underLabels_label _ (tagged f List.mem_cons_self)]
      exact (underLabels_declaration f.access f _).trans (congrArg _ (others f.access))

/-- No label that is printed for a run of functions is in force already. -/
theorem chain_labels (tagged : ∀ f ∈ functions, f.access ≠ "") (current : String) :
    (current :: ((labelled current functions).flatMap memberLines).filterMap labelOf?).IsChain (· ≠ ·) := by
  induction functions generalizing current with
  | nil => exact .singleton _
  | cons f rest ih =>
    have others := fun label => ih (fun g member => tagged g (List.mem_cons_of_mem _ member)) label
    have declared (lines : List String) : (declarationLine f :: lines).filterMap labelOf? = lines.filterMap labelOf? :=
      List.filterMap_cons_none (labelOf?_declarationLine f)
    rw [labelled]
    split
    · rw [List.flatMap_cons]
      show (current :: (declarationLine f :: _).filterMap labelOf?).IsChain _
      rw [declared]
      exact others current
    · rename_i changed
      rw [List.flatMap_cons, memberLines, labelLines_some (tagged f List.mem_cons_self)]
      show (current :: (("    " ++ f.access ++ ":") :: declarationLine f :: _).filterMap labelOf?).IsChain _
      rw [List.filterMap_cons_some (labelOf?_label f.access), declared]
      exact .cons_cons (fun same => changed same.symm) (others f.access)

/-! ## The class of the commands -/

/-- The same emitter for an interface without functions. -/
def bare (e : Emitter) : Emitter :=
  { e with
    registry := { e.registry with functions := [] }
    unambiguous := List.nodup_nil }

/-- The class without commands, in a namespace without name. -/
def frame : List String := commandClassLines ⟨.empty "", .empty, "", .byte, List.nodup_nil⟩

/-- The lines that are printed for the functions. -/
def members (e : Emitter) : List String := (labelled Function.publicAccess e.functions).flatMap memberLines

theorem commandClassLines_eq (e : Emitter) : e.commandClassLines =
    frame.take 10 ++ ["namespace " ++ e.space] ++ (frame.take 26).drop 11 ++ e.members ++ frame.drop 26 := rfl

theorem bare_eq (e : Emitter) : e.bare.commandClassLines =
    frame.take 10 ++ ["namespace " ++ e.space] ++ (frame.take 26).drop 11 ++ frame.drop 26 := rfl

/-- The labels that stand in every class. -/
theorem labels_frame : (frame.take 10).filterMap labelOf? = [] ∧
    ((frame.take 26).drop 11).filterMap labelOf? = ["public", "public", "public"] ∧
    (frame.drop 26).filterMap labelOf? = ["public", "private", "private"] := by
  decide +kernel

/-- The labels in front of the commands. -/
theorem labels_front (space : String) :
    (frame.take 10 ++ ["namespace " ++ space] ++ (frame.take 26).drop 11).filterMap labelOf? = ["public", "public", "public"] := by
  rw [List.filterMap_append, List.filterMap_append, labels_frame.1, labels_frame.2.1,
    List.filterMap_cons_none (labelOf?_namespace space)]
  rfl

/-- In front of the commands everything is public. -/
theorem labelBehind_front (space : String) :
    labelBehind "private" (frame.take 10 ++ ["namespace " ++ space] ++ (frame.take 26).drop 11) = Function.publicAccess := by
  rw [labelBehind, labels_front]
  rfl

/-- The labels of a class: those that stand in every class, and those for the functions between them. -/
theorem labels_commandClassLines (e : Emitter) : e.commandClassLines.filterMap labelOf? =
    ["public", "public", "public"] ++ e.members.filterMap labelOf? ++ ["public", "private", "private"] := by
  rw [commandClassLines_eq, List.filterMap_append, List.filterMap_append, labels_front, labels_frame.2.2]

/-- What stands behind the commands has labels of its own. -/
theorem underLabels_back (current : String) : underLabels current (frame.drop 26) = underLabels "public" (frame.drop 28) :=
  @underLabels_label current "public" (by decide) (frame.drop 28)

theorem mem_labelled {current : String} {entry : Option String × Function} (member : entry ∈ labelled current functions) :
    entry.2 ∈ functions ∧ (entry.1 = none ∨ entry.1 = some entry.2.access) := by
  induction functions generalizing current with
  | nil => cases member
  | cons f rest ih =>
    rw [labelled] at member
    split at member
    · rcases List.mem_cons.mp member with rfl | later
      · exact ⟨List.mem_cons_self, .inl rfl⟩
      · exact (ih later).imp_left (List.mem_cons_of_mem f)
    · rcases List.mem_cons.mp member with rfl | later
      · exact ⟨List.mem_cons_self, .inr rfl⟩
      · exact (ih later).imp_left (List.mem_cons_of_mem f)

/-- No line breaks if the name of the namespace, the access labels and the declarations have no line break. -/
theorem unbroken_commandClassLines (space : '\n' ∉ e.space.toList)
    (each : ∀ f ∈ e.functions, '\n' ∉ f.access.toList ∧ '\n' ∉ (declaration f false).toList) :
    ∀ line ∈ e.commandClassLines, '\n' ∉ line.toList := by
  have closed : ∀ line ∈ frame, '\n' ∉ line.toList := by decide +kernel
  intro line member
  rw [commandClassLines_eq] at member
  simp only [List.mem_append, List.mem_singleton, or_assoc] at member
  rcases member with front | rfl | front | printed | behind
  · exact closed line (List.mem_of_mem_take front)
  · simp [String.toList_append, space]
  · exact closed line (List.mem_of_mem_take (List.mem_of_mem_drop front))
  · obtain ⟨⟨label, f⟩, listed, inside⟩ := List.mem_flatMap.mp printed
    obtain ⟨known, labels⟩ := mem_labelled listed
    obtain ⟨access, declared⟩ := each f known
    rcases List.mem_append.mp inside with ahead | own
    · rcases labels with silent | changed
      · obtain rfl : label = none := silent
        cases ahead
      · obtain rfl : label = some f.access := changed
        rw [labelLines] at ahead
        split at ahead
        · cases ahead
        · rcases List.mem_cons.mp ahead with rfl | ahead
          · exact List.not_mem_nil
          · rw [List.mem_singleton.mp ahead]
            simp [String.toList_append, access]
    · rw [List.mem_singleton.mp own]
      simp [String.toList_append, declared]
  · exact closed line (List.mem_of_mem_drop behind)

/-- **The access labels of the class of the commands.** Read from its beginning, where everything is private, the class has
the declarations of all functions in their order, each once and under the access of its function, between the lines that it
has without functions, which stand under the labels that they have then. Of the labels between those that stand in every
class none is in force already where it is printed. The text that is emitted has just these lines, as far as nothing that is
printed into a line breaks it. -/
theorem declared_under_access (e : Emitter) (tagged : ∀ f ∈ e.functions, f.access ≠ "") :
    ∃ lines front labels back, Artifact.commandClass.lines e = .ok lines ∧
      underLabels "private" lines = front ++ (e.functions.map fun f => (f.access, declarationLine f)) ++ back ∧
      underLabels "private" e.bare.commandClassLines = front ++ back ∧
      lines.filterMap labelOf? = ["public", "public", "public"] ++ labels ++ ["public", "private", "private"] ∧
      ("public" :: labels).IsChain (· ≠ ·) ∧
      ('\n' ∉ e.space.toList → (∀ f ∈ e.functions, '\n' ∉ f.access.toList ∧ '\n' ∉ (declaration f false).toList) →
        ∃ text, Artifact.commandClass.text e = .ok text ∧
          (Text.pieces '\n' text.toList).map String.ofList = lines ++ [""]) := by
  have front := labelBehind_front e.space
  refine ⟨e.commandClassLines, underLabels "private" (frame.take 10 ++ ["namespace " ++ e.space] ++ (frame.take 26).drop 11), _,
    underLabels "public" (frame.drop 28), rfl, ?_, ?_, ?_, chain_labels tagged _, ?_⟩
  · rw [commandClassLines_eq, underLabels_append, underLabels_append, front, underLabels_back, members, underLabels_labelled tagged]
  · rw [bare_eq, underLabels_append, front, underLabels_back]
  · exact labels_commandClassLines e
  · intro space each
    refine ⟨_, rfl, ?_⟩
    rw [pieces_textOf (unbroken_commandClassLines space each), List.map_append, List.map_map]
    simp

end Emitter

/-! ## Access that changes -/

namespace MixedAccess
open Emitter

def function (shortName access : String) : Function :=
  ⟨"gl" ++ shortName, shortName, access, ⟨"PFNGLPROC", "void", false, []⟩⟩

/-- An interface whose first and last functions are public, with two private ones between them. -/
def emitter : Emitter where
  registry := { Registry.empty "gl" with
    functions := [("glFlush", function "Flush" "public"), ("glFinish", function "Finish" "private"),
      ("glWait", function "Wait" "private"), ("glEnd", function "End" "public")] }
  overrides := .empty
  space := "gl"
  idWidth := .byte
  unambiguous := by decide

/-- Two labels are printed, and each declaration stands under its own access. -/
theorem two_labels_printed : (∀ f ∈ emitter.functions, f.access ≠ "") ∧
    ∃ lines front back, Artifact.commandClass.lines emitter = .ok lines ∧
      underLabels "private" lines = front ++ [("public", "        void Flush();"), ("private", "        void Finish();"),
        ("private", "        void Wait();"), ("public", "        void End();")] ++ back ∧
      underLabels "private" emitter.bare.commandClassLines = front ++ back ∧
      lines.filterMap labelOf? = ["public", "public", "public", "private", "public", "public", "private", "private"] := by
  have tagged : ∀ f ∈ emitter.functions, f.access ≠ "" := by decide
  have declared : (emitter.functions.map fun f => (f.access, declarationLine f)) =
      [("public", "        void Flush();"), ("private", "        void Finish();"), ("private", "        void Wait();"),
        ("public", "        void End();")] := by
    decide +kernel
  obtain ⟨lines, front, _, back, made, under, frame, -⟩ := declared_under_access emitter tagged
  rw [declared] at under
  have same : lines = emitter.commandClassLines := (Except.ok.inj made).symm
  have printed : emitter.members.filterMap labelOf? = ["private", "public"] := by decide +kernel
  refine ⟨tagged, lines, front, back, made, under, frame, ?_⟩
  rw [same, labels_commandClassLines, printed]
  rfl

end MixedAccess

end CommandStream
