import CommandStream.Proofs.Description.Retyping
import CommandStream.Proofs.Header.Complaints

/-!
# Look-ups of a description

A description is a tree of any shape: elements lack children, attributes and texts, groups lack members, names are empty.
The refinement by it looks many things up and passes over what is missing. Here every such look-up is a demand, which fails
where nothing is there, behind the check that stands in front of it; places in the registry and in argument lists are
demanded as well. Both readings come to the same, so no demand fails: a description never stops a refinement.
-/

namespace CommandStream
namespace Description
open Markup

/-- What is not there where it is demanded. -/
inductive Absence where
  | attribute (tag name : String)
  | child (tag name : String)
  | group (name : String)
  | function (place : Nat)
  | argument (index : Nat)
  | firstCharacter

/-- A look-up that fails if nothing is there. -/
def demand {α : Type} (found : Option α) (absence : Absence) : Except Absence α :=
  match found with
  | some a => .ok a
  | none => .error absence

@[simp] theorem demand_some {α : Type} (a : α) (absence : Absence) : demand (some a) absence = .ok a := rfl

/-! ## Groups and keys -/

/-- A key that starts with a digit behind a letter, by its first character. -/
def readFirst (key : List Char) : Except Absence (List Char) :=
  if key.isEmpty then .ok key
  else do
    let first ← demand key.head? .firstCharacter
    return if Text.isDigit first then 'E' :: key else key

/-- The key of a symbol without prefix. -/
def readKey (symbol : String) : Except Absence String := do
  let key ← readFirst ((Text.pieces '_' symbol.toList).flatMap segmentKey)
  return String.ofList key

theorem readKey_eq (symbol : String) : readKey symbol = .ok (keyOf symbol) := by
  have first (key : List Char) : readFirst key = .ok (startWithLetter key) := by
    cases key with
    | nil => rfl
    | cons c rest =>
      simp only [readFirst, startWithLetter, List.isEmpty_cons, List.head?_cons, demand_some, Bool.false_eq_true, if_false]
      rfl
  rw [readKey, first]
  rfl

namespace Membership

/-- A group with the symbol that an element lists, if it has a name. -/
def readListed (group : String) (m : Membership) (e : Element) : Except Absence Membership :=
  if (e.attribute? "name").isSome then do
    let symbol ← demand (e.attribute? "name") (.attribute e.tag "name")
    return m.addMember group symbol
  else .ok m

/-- The groups with one that an element lists, if it has a name. -/
def readGroup (m : Membership) (e : Element) : Except Absence Membership :=
  match groupName? e with
  | some group => (e.childrenNamed "enum").foldlM (readListed group) (m.addGroup group)
  | none => .ok m

/-- The groups with a symbol that is attributed to some of them. -/
def readAttributed (m : Membership) (e : Element) : Except Absence Membership :=
  if (e.attribute? "group").isSome && (e.attribute? "name").isSome then do
    let attribution ← demand (e.attribute? "group") (.attribute e.tag "group")
    (groupsOf attribution).foldlM (fun m group => do
      let symbol ← demand (e.attribute? "name") (.attribute e.tag "name")
      return m.addMember group symbol) m
  else .ok m

/-- The groups with the content of a child of the root. -/
def readSection (m : Membership) (e : Element) : Except Absence Membership :=
  if e.tag = "groups" then (e.childrenNamed "group").foldlM readGroup m
  else if e.tag = "enums" then (e.childrenNamed "enum").foldlM readAttributed m
  else .ok m

/-- The groups of a description. -/
def readRoot (root : Element) : Except Absence Membership := root.children.foldlM readSection []

theorem readGroup_eq (m : Membership) (e : Element) : readGroup m e = .ok
    (match groupName? e with
    | some group => m.addListed group e
    | none => m) := by
  have listed (group : String) (children : List Element) (m : Membership) : children.foldlM (readListed group) m =
      .ok ((children.filterMap fun child => child.attribute? "name").foldl (fun m symbol => m.addMember group symbol) m) := by
    induction children generalizing m with
    | nil => rfl
    | cons child rest ih =>
      rw [List.foldlM_cons, List.filterMap_cons, readListed]
      cases named : child.attribute? "name" with
      | none => exact ih m
      | some symbol => exact ih (m.addMember group symbol)
  unfold readGroup
  cases groupName? e with
  | none => rfl
  | some group => exact listed group _ _

theorem readAttributed_eq (m : Membership) (e : Element) : readAttributed m e = .ok
    (match e.attribute? "group", e.attribute? "name" with
    | some attribution, some symbol => (groupsOf attribution).foldl (fun m group => m.addMember group symbol) m
    | _, _ => m) := by
  unfold readAttributed
  cases e.attribute? "group" with
  | none => rfl
  | some attribution =>
    cases e.attribute? "name" with
    | none => rfl
    | some symbol => exact List.foldlM_pure

theorem readSection_eq (m : Membership) (e : Element) : readSection m e = .ok (m.addSection e) := by
  unfold readSection addSection
  split
  · exact foldlM_eq_ok (P := fun _ => True) (fun m child _ => ⟨readGroup_eq m child, trivial⟩) trivial _
  split
  · exact foldlM_eq_ok (P := fun _ => True) (fun m child _ => ⟨readAttributed_eq m child, trivial⟩) trivial _
  · rfl

theorem readRoot_eq (root : Element) : readRoot root = .ok (ofRoot root) :=
  foldlM_eq_ok (P := fun _ => True) (fun m e _ => ⟨readSection_eq m e, trivial⟩) trivial _

end Membership

end Description

namespace Refinement
open Description Markup

/-! ## Commands -/

/-- A group resolved, if the description knows it. -/
def readResolved (x : Refinement) (group : String) : Except Absence (Option EnumGroup × Refinement) :=
  if Keyed.hasKey x.registry.enums group then do
    let found ← demand (Keyed.find? x.registry.enums group) (.group group)
    return (some found, x)
  else if x.unresolved.contains group then .ok (none, x)
  else if Keyed.hasKey x.membership group then do
    let symbols ← demand (Keyed.find? x.membership group) (.group group)
    let defined := symbols.filter fun symbol => x.registry.defines.contains symbol
    let found ← defined.foldlM (fun (found : EnumGroup) symbol => do
      let key ← readKey (dropFirst symbol x.registry.defineStart.length)
      return found.add key symbol) ⟨groupTypeName group, []⟩
    return (some found, { x with registry := { x.registry with enums := x.registry.enums ++ [(group, found)] } })
  else
    .ok (none, { x.report .debug ("group " ++ group ++ " is not described by the XML") with
      unresolved := x.unresolved ++ [group] })

/-- The group of an element whose type is a plain enum. -/
def readEnumGroup (e : Element) : Except Absence (Option String) :=
  if (e.child? "ptype").isSome then do
    let type ← demand (e.child? "ptype") (.child e.tag "ptype")
    if type.text = enumType ∧ (e.attribute? "group").isSome then
      let group ← demand (e.attribute? "group") (.attribute e.tag "group")
      return some group
    else return none
  else .ok none

/-- The refinement with the result of a function, by its prototype. -/
def readResult (x : Refinement) (place : Nat) (prototype : Element) : Except Absence Refinement := do
  match ← readEnumGroup prototype with
  | none => return x
  | some name =>
    match ← x.readResolved name with
    | (none, next) => return next
    | (some group, next) =>
      let f ← demand (next.registry.functionAt? place) (.function place)
      return { next with
        registry := next.registry.modifyAt place fun _ => { f with type := withResult f.type group } }

/-- The refinement with a parameter of a function. -/
def readParameter (place : Nat) (x : Refinement) (parameter : Element) : Except Absence Refinement := do
  match ← readEnumGroup parameter with
  | none => return x
  | some name =>
    if (parameter.child? "name").isSome then
      match ← x.readResolved name with
      | (none, next) => return next
      | (some group, next) =>
        let nameElement ← demand (parameter.child? "name") (.child parameter.tag "name")
        let f ← demand (next.registry.functionAt? place) (.function place)
        match f.type.findArgument? nameElement.text with
        | none => return next
        | some i =>
          let a ← demand f.type.arguments[i]? (.argument i)
          let refined := next.report .debug ("found enum " ++ group.name ++ " for " ++ f.shortName ++ "(" ++ a.name ++ ")")
          let type := { f.type with arguments := f.type.arguments.set i (withGroup a group) }
          return { refined with registry := refined.registry.modifyAt place fun _ => { f with type } }
    else return x

/-- The element with the name of the function that a command element describes. -/
def readName (command : Element) : Except Absence (Option Element) :=
  if (command.child? "proto").isSome then do
    let prototype ← demand (command.child? "proto") (.child command.tag "proto")
    return prototype.child? "name"
  else .ok none

/-- The refinement with a command that describes no function. -/
def malformed (x : Refinement) : Refinement :=
  { x.report .warning "skipping malformed <command>" with skipped := x.skipped + 1 }

/-- The refinement with a command. -/
def readCommand (x : Refinement) (command : Element) : Except Absence Refinement := do
  match ← readName command with
  | none => return x.malformed
  | some nameElement =>
    if nameElement.text.isEmpty then return x.malformed
    else
      match x.registry.placeOf? nameElement.text with
      | none => return x
      | some place =>
        let prototype ← demand (command.child? "proto") (.child command.tag "proto")
        let named ← { x with found := x.found + 1 }.readResult place prototype
        (command.childrenNamed "param").foldlM (readParameter place) named

/-- The refinement of a registry by a description, every look-up a demand. -/
def readRoot (registry : Registry) (root : Element) : Except Absence Refinement := do
  let membership ← Membership.readRoot root
  let read ← (commandsOf root).foldlM readCommand (start registry membership (membershipLog root))
  return read.summarized

variable {x : Refinement} {place : Nat}

theorem readResolved_eq (x : Refinement) (group : String) : x.readResolved group = .ok (x.resolve group) := by
  unfold readResolved resolve
  cases resolved : Keyed.find? x.registry.enums group with
  | some found =>
    rw [if_pos (by rw [← Keyed.isSome_find?, resolved]; rfl)]
    rfl
  | none =>
    rw [if_neg (by rw [← Keyed.isSome_find?, resolved]; exact Bool.false_ne_true)]
    dsimp only
    split
    · rfl
    cases described : Keyed.find? x.membership group with
    | none =>
      rw [if_neg (by rw [← Keyed.isSome_find?, described]; exact Bool.false_ne_true)]
    | some symbols =>
      rw [if_pos (by rw [← Keyed.isSome_find?, described]; rfl)]
      have gathered (symbols : List String) (empty : EnumGroup) : symbols.foldlM (fun (found : EnumGroup) symbol => do
          let key ← readKey (dropFirst symbol x.registry.defineStart.length)
          return found.add key symbol) empty = .ok (symbols.foldl (fun found symbol =>
            found.add (keyOf (dropFirst symbol x.registry.defineStart.length)) symbol) empty) :=
        foldlM_eq_ok (P := fun _ => True) (fun found symbol _ => ⟨by rw [readKey_eq]; rfl, trivial⟩) trivial _
      simp only [demand_some, bind, Except.bind] at gathered ⊢
      rw [gathered]
      rfl

theorem readEnumGroup_eq (e : Element) : readEnumGroup e = .ok (enumGroup? e) := by
  unfold readEnumGroup enumGroup?
  cases e.child? "ptype" with
  | none => rfl
  | some type =>
    simp only [Option.isSome_some, if_true, demand_some, bind, Except.bind]
    by_cases plain : type.text = enumType
    · cases e.attribute? "group" <;> simp [plain] <;> rfl
    · simp only [plain, false_and, if_false]
      rfl

/-- A place of the registry at which a function stands. -/
def Standing (place : Nat) (r : Registry) : Prop := place < r.functions.length

theorem standing_kept (place : Nat) : Registry.KeptByTyping (Standing place) where
  grouped _ _ standing := standing
  typed r other change standing := by
    rw [Standing, Registry.modifyAt, List.length_modify]
    exact standing

theorem exists_functionAt? {r : Registry} (standing : Standing place r) : ∃ f, r.functionAt? place = some f := by
  have inside : place < r.functions.length := standing
  refine ⟨r.functions[place].2, ?_⟩
  rw [Registry.functionAt?, List.getElem?_eq_getElem inside]
  rfl

/-- A function put in the place of one that it is made of. -/
theorem modifyAt_of_stands {r : Registry} {f g : Function} (stands : r.functionAt? place = some f) (change : Function → Function)
    (changed : change f = g) : r.modifyAt place (fun _ => g) = r.modifyAt place change := by
  obtain ⟨entry, found, rfl⟩ := Option.map_eq_some_iff.mp stands
  have same : (r.functions.modify place fun entry => (entry.1, g)) =
      r.functions.modify place fun entry => (entry.1, change entry.2) := by
    refine List.ext_getElem? fun j => ?_
    rw [List.getElem?_modify, List.getElem?_modify]
    split
    · rename_i equal
      rw [← equal, found, ← changed]
      rfl
    · rfl
  rw [Registry.modifyAt, Registry.modifyAt, same]

theorem readResult_eq (standing : Standing place x.registry) (prototype : Element) :
    x.readResult place prototype = .ok (x.refineResult place prototype) := by
  unfold readResult refineResult
  rw [readEnumGroup_eq]
  cases enumGroup? prototype with
  | none => rfl
  | some name =>
    have kept := keeps_resolve (standing_kept place) standing name
    simp only [bind, Except.bind, readResolved_eq]
    generalize x.resolve name = resolved at kept
    obtain ⟨_ | group, next⟩ := resolved
    · rfl
    · obtain ⟨f, stands⟩ := exists_functionAt? kept
      simp only [stands, demand_some]
      rw [modifyAt_of_stands stands (fun f => { f with type := withResult f.type group }) rfl]
      rfl

theorem readParameter_eq (standing : Standing place x.registry) (parameter : Element) :
    readParameter place x parameter = .ok (x.refineParameter place parameter) := by
  unfold readParameter refineParameter
  rw [readEnumGroup_eq]
  cases enumGroup? parameter with
  | none => rfl
  | some name =>
    cases parameter.child? "name" with
    | none => rfl
    | some nameElement =>
      have kept := keeps_resolve (standing_kept place) standing name
      simp only [bind, Except.bind, readResolved_eq, Option.isSome_some, if_true, demand_some]
      generalize x.resolve name = resolved at kept
      obtain ⟨_ | group, next⟩ := resolved
      · rfl
      obtain ⟨f, stands⟩ := exists_functionAt? kept
      simp only [stands, demand_some]
      cases found : f.type.findArgument? nameElement.text with
      | none => rfl
      | some i =>
        obtain ⟨bound, -⟩ := List.findIdx?_eq_some_iff_getElem.mp found
        have argument : f.type.arguments[i]? = some f.type.arguments[i] := List.getElem?_eq_getElem bound
        have set : f.type.arguments.set i (withGroup f.type.arguments[i] group) =
            f.type.arguments.modify i fun a => withGroup a group := by
          rw [List.modify_eq_set_getElem?, argument]
          rfl
        simp only [argument, demand_some, FunctionType.name_of_findArgument? found argument, set]
        rw [modifyAt_of_stands (r := (next.report _ _).registry) stands (fun f => { f with type := { f.type with
          arguments := f.type.arguments.modify i fun a => withGroup a group } }) rfl]
        rfl

theorem readCommand_eq (x : Refinement) (command : Element) : readCommand x command = .ok (x.refineCommand command) := by
  have read : readName command = .ok ((command.child? "proto").bind fun prototype => prototype.child? "name") := by
    unfold readName
    cases command.child? "proto" <;> rfl
  unfold readCommand refineCommand prototype?
  rw [read]
  cases proto : command.child? "proto" with
  | none => rfl
  | some prototype =>
    simp only [bind, Except.bind, Option.bind_some]
    cases prototype.child? "name" with
    | none => rfl
    | some nameElement =>
      dsimp only [Option.bind_some]
      split
      · rfl
      dsimp only
      cases found : x.registry.placeOf? nameElement.text with
      | none => rfl
      | some place =>
        have standing : Standing place x.registry := (List.findIdx?_eq_some_iff_getElem.mp found).1
        have kept := keeps_refineResult (x := { x with found := x.found + 1 }) (standing_kept place) standing place prototype
        simp only [demand_some, readResult_eq (x := { x with found := x.found + 1 }) standing]
        exact foldlM_eq_ok (P := fun x => Standing place x.registry) (fun x parameter standing =>
          ⟨readParameter_eq standing parameter, keeps_refineParameter (standing_kept place) standing place parameter⟩) kept _

theorem readRoot_eq (r : Registry) (root : Element) : readRoot r root = .ok (ofRoot r root) := by
  have commands := foldlM_eq_ok (P := fun _ => True) (fun x command _ => ⟨readCommand_eq x command, trivial⟩) trivial
    (s := start r (Membership.ofRoot root) (membershipLog root)) (commandsOf root)
  rw [readRoot, Membership.readRoot_eq]
  simp only [bind, Except.bind, commands]
  rfl

end Refinement

namespace Header.Extraction
open Markup

/-! ## Headers and descriptions of any shape -/

variable {start : String} {lines : List String}

/-- **A reading stops at nothing but a function without a name.** A header of any lines is read to its end unless the names
of the interface start with nothing and, behind a line that declares a function type, a symbol of that type is nothing but
the mark of the loader; there the reading stops. A header that is read to its end has one warning, in the order of the
lines, for each line that is complained about, and such a line is skipped: but for its warning and the count nothing
changes. From every other line that is to declare something a type or a function is taken. And whatever the header, no
look-up stops the refinement of its registry by a description of any shape. -/
theorem stops_at_nameless_only (start : String) (lines : List String) :
    let read := ofLines (.empty start) lines
    (read.answer = .ok () ↔ ¬ (start = "" ∧ NamesNothing lines)) ∧
    (start = "" ∧ NamesNothing lines → read.answer = .error (.registry .noShortName)) ∧
    (read.answer = .ok () → ∃ complaints, Reported start lines lines.length complaints ∧
      (∃ summary, read.state.log = complaints.map warningOf ++ [⟨.info, source, summary⟩]) ∧
      read.state.skipped = complaints.length ∧
      (∀ i line reason, lines[i]? = some line → (i + 1, reason) ∈ complaints →
        upTo start lines (i + 1) = (upTo start lines i).skip (i + 1) reason) ∧
      ∀ i line, lines[i]? = some line → Declares line →
        (∃ reason, (i + 1, reason) ∈ complaints) ∨ (∃ t, TakesType start lines i t) ∨ ∃ f, TakesFunction start lines i f) ∧
    ∀ root, Refinement.readRoot read.state.registry root = .ok (Refinement.ofRoot read.state.registry root) := by
  intro read
  refine ⟨returns_iff, fun stops => ?_, fun returns => ?_, Refinement.readRoot_eq _⟩
  · cases answer : read.answer with
    | ok _ => exact absurd stops (returns_iff.mp answer)
    | error e => rw [(stop_of_ofLines answer).1]
  have last : read.state = (upTo start lines lines.length).summarized := state_eq_upTo returns
  obtain ⟨complaints, reported⟩ := exists_reported returns (Nat.le_refl lines.length)
  refine ⟨complaints, reported, ?_, ?_, ?_, ?_⟩
  · rw [last, ← reported.log]
    exact ⟨_, rfl⟩
  · rw [last]
    exact reported.skipped
  · intro i line reason at_ listed
    obtain ⟨k, -, same, found, stands, complaint⟩ := (reported.listed _ _).mp listed
    cases Nat.succ.inj same
    have reads := readLine_of_readFrom (readFrom_of_ofLines returns).1 stands
    have skips := reads.symm.trans (readLine_of_complaint (open_upTo start lines i) complaint (1 + i))
    rw [Nat.add_comm 1 i] at skips
    exact Except.ok.inj skips
  · intro i line at_ declares
    have bound := (List.getElem?_eq_some_iff.mp at_).1
    refine (taken_of_declares returns at_ declares).imp_left fun ⟨reason, complaint⟩ => ⟨reason, ?_⟩
    exact (reported.listed _ _).mpr ⟨i, bound, rfl, line, at_, complaint⟩

end Header.Extraction

/-! ## A function without a name -/

namespace NamelessHeader

/-- A header with a function type and a symbol of that type that is the mark of the loader and nothing else. -/
def lines : List String := ["typedef void (APIENTRYP F)(void);", "GLAPI F glad_;"]

/-- The reading of the header stops at the symbol, and in an interface whose names start with some letters it goes on. -/
theorem reading_stops : (Header.Extraction.ofLines (.empty "") lines).answer = .error (.registry .noShortName) ∧
    (Header.Extraction.ofLines (.empty "gl") lines).answer = .ok () ∧
    (Header.Extraction.ofLines (.empty "gl") lines).state.skipped = 1 := by
  have computed : (Header.Extraction.ofLines (.empty "") lines).answer.toOption = none ∧
      (Header.Extraction.ofLines (.empty "gl") lines).answer.toOption = some () ∧
      (Header.Extraction.ofLines (.empty "gl") lines).state.skipped = 1 := by
    decide +kernel
  obtain ⟨stops, returns, skips⟩ := computed
  refine ⟨?_, ok_of_toOption returns, skips⟩
  cases answer : (Header.Extraction.ofLines (.empty "") lines).answer with
  | ok _ =>
    rw [answer] at stops
    cases stops
  | error e => rw [(Header.Extraction.stop_of_ofLines answer).1]

end NamelessHeader

end CommandStream
