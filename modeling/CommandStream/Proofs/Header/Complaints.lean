import CommandStream.Proofs.Header.Account
import CommandStream.Proofs.Override.Following
import CommandStream.Proofs.Registry.Indexed

/-!
# Complaints about a header

A line that is to declare something and cannot is complained about: it is malformed, or it clashes with an earlier
line, or its type is unknown. A reading skips such a line with one warning that says why, and goes on. The one thing
that stops it is a function without a name: a symbol that is nothing but the mark of the loader, of a type that is
declared by then. Such a symbol belongs to an interface only if the names of the interface start with nothing.
-/

namespace CommandStream

namespace Registry

variable {r r' : Registry}

/-- An open registry refuses a type only if its name is declared. -/
theorem addType_of_declared {type : FunctionType} (mutable : r.frozen = false)
    (declared : type.typedefName ∈ Keyed.keys r.types) :
    r.addType type = .error (.typeDeclared type.typedefName) := by
  rw [addType, mutable, if_neg Bool.false_ne_true, if_pos ((Keyed.hasKey_iff _ _).mpr declared)]

/-- An open registry refuses no define. -/
theorem exists_addDefine (mutable : r.frozen = false) (name : String) : ∃ r', r.addDefine name = .ok r' := by
  rw [addDefine, mutable, if_neg Bool.false_ne_true]
  split <;> exact ⟨_, rfl⟩

section AddFunction

variable {name typedefName short holder : String} (mutable : r.frozen = false)
include mutable

theorem addFunction_of_declared (declared : name ∈ Keyed.keys r.functions) :
    r.addFunction name typedefName = .error (.functionDeclared name) := by
  rw [addFunction, mutable, if_neg Bool.false_ne_true, if_pos ((Keyed.hasKey_iff _ _).mpr declared)]

variable (new : name ∉ Keyed.keys r.functions)
include new

theorem addFunction_of_unknown (unknown : typedefName ∉ Keyed.keys r.types) :
    r.addFunction name typedefName = .error (.unknownType typedefName) := by
  have absent : ¬ Keyed.hasKey r.functions name = true := fun present => new ((Keyed.hasKey_iff _ _).mp present)
  have missing : Keyed.find? r.types typedefName = none := find?_eq_none_iff.mpr unknown
  simp only [addFunction, findType, mutable, absent, missing, Bool.false_eq_true, if_false]
  rfl

variable (known : typedefName ∈ Keyed.keys r.types)
include known

/-- A function without a name is refused for a reason that is no complaint about the entry. -/
theorem addFunction_of_unnamed (unnamed : shortName? name r.start = none) :
    r.addFunction name typedefName = .error .noShortName := by
  have absent : ¬ Keyed.hasKey r.functions name = true := fun present => new ((Keyed.hasKey_iff _ _).mp present)
  obtain ⟨type, found⟩ := Option.isSome_iff_exists.mp (isSome_find?_iff.mpr known)
  simp only [addFunction, findType, mutable, absent, found, unnamed, Bool.false_eq_true, if_false, bind, Except.bind]

variable (named : shortName? name r.start = some short)
include named

theorem addFunction_of_taken (taken : Keyed.find? r.shortNames short = some holder) :
    r.addFunction name typedefName = .error (.shortNameTaken short name holder) := by
  have absent : ¬ Keyed.hasKey r.functions name = true := fun present => new ((Keyed.hasKey_iff _ _).mp present)
  obtain ⟨type, found⟩ := Option.isSome_iff_exists.mp (isSome_find?_iff.mpr known)
  simp only [addFunction, findType, mutable, absent, found, named, taken, Bool.false_eq_true, if_false, bind, Except.bind]

theorem exists_addFunction (free : Keyed.find? r.shortNames short = none) :
    ∃ f r', r.addFunction name typedefName = .ok (f, r') := by
  have absent : ¬ Keyed.hasKey r.functions name = true := fun present => new ((Keyed.hasKey_iff _ _).mp present)
  obtain ⟨type, found⟩ := Option.isSome_iff_exists.mp (isSome_find?_iff.mpr known)
  simp only [addFunction, findType, mutable, absent, found, named, free, Bool.false_eq_true, if_false, bind, Except.bind]
  exact ⟨_, _, rfl⟩

end AddFunction

/-- Only the empty name has no short name. -/
theorem shortName?_eq_none_iff {name start : String} : shortName? name start = none ↔ name = "" := by
  constructor
  · intro unnamed
    by_contra named
    have short := isSome_shortName? named start
    rw [unnamed] at short
    cases short
  · rintro rfl
    cases short : shortName? "" start with
    | none => rfl
    | some text => exact absurd rfl (ne_empty_of_shortName? short)

/-- New entries leave a registry open. -/
theorem Grows.frozen (grows : r.Grows r') : r'.frozen = r.frozen := by
  cases grows with
  | function added =>
    obtain ⟨_, _, -, -, rfl, rfl⟩ := addFunction_ok added
    rfl
  | beside defines types => rfl

end Registry

namespace Header
open Extraction

/-! ## Shapes of declarations -/

theorem infix_of_afterText? {text : String} {cs rest : List Char} (cut : afterText? text cs = some rest) :
    text.toList <:+: cs := by
  have behind := Text.eq_append_of_afterPrefix? cut
  have tail : cs.dropWhile Text.isBlank <:+ cs := List.dropWhile_suffix _
  exact List.IsInfix.trans ⟨[], rest, by rw [List.nil_append, behind]⟩ tail.isInfix

theorem suffix_of_upTo? {stop : Char} {cs part rest : List Char} (cut : upTo? stop cs = some (part, rest)) : rest <:+ cs := by
  unfold upTo? at cut
  split at cut
  · cases cut
  · rename_i found
    cases cut
    exact (List.suffix_cons _ _).trans (found ▸ List.dropWhile_suffix _)

/-- A line that declares a function type is read as one. -/
theorem TypeDeclaration.shape_of_line {line : List Char} {d : TypeDeclaration} (declared : ofLine? line = some d) :
    Shape.ofLine line = .functionType := by
  obtain ⟨behind, keyword, declared⟩ := Option.bind_eq_some_iff.mp declared
  obtain ⟨⟨between, declarator⟩, opened, declared⟩ := Option.bind_eq_some_iff.mp declared
  obtain ⟨returnType, -, declared⟩ := Option.bind_eq_some_iff.mp declared
  obtain ⟨marked, convention, -⟩ := Option.bind_eq_some_iff.mp declared
  have whole := Text.eq_append_of_afterPrefix? keyword
  rw [Shape.ofLine_eq_functionType]
  refine ⟨⟨behind, whole.symm⟩, (infix_of_afterText? convention).trans ?_⟩
  exact ((suffix_of_upTo? opened).trans (whole ▸ List.suffix_append _ _)).isInfix

/-- A line that declares a symbol is read as one. -/
theorem SymbolDeclaration.shape_of_line {line : List Char} {d : SymbolDeclaration} (declared : ofLine? line = some d) :
    Shape.ofLine line = .symbol := by
  obtain ⟨behind, keyword, -⟩ := Option.bind_eq_some_iff.mp declared
  rw [Text.eq_append_of_afterPrefix? keyword]
  rfl

/-! ## Complaints -/

/-- A line that declares a function of the interface, of a type with some name. -/
structure Binds (r : Registry) (line : List Char) (type name : String) : Prop where
  declared : SymbolDeclaration.ofLine? line = some ⟨type, symbolStart ++ name⟩
  ours : r.start.toList <+: name.toList

/-- Why a line is skipped by a reading with a registry so far. -/
inductive Complaint (r : Registry) (line : List Char) : String → Prop
  | malformedType : Shape.ofLine line = .functionType → TypeDeclaration.ofLine? line = none →
      Complaint r line ("malformed function type declaration: " ++ String.ofList (Text.trim line))
  | malformedArgument {d : TypeDeclaration} : TypeDeclaration.ofLine? line = some d →
      Argument.listOfC? d.parameters = none → Complaint r line ("unnamed or malformed argument in " ++ d.name)
  | typeDeclared {t : FunctionType} : FunctionType.ofLine? line = some t → t.typedefName ∈ Keyed.keys r.types →
      Complaint r line (RegistryError.typeDeclared t.typedefName).message
  | malformedSymbol : Shape.ofLine line = .symbol → SymbolDeclaration.ofLine? line = none →
      Complaint r line ("malformed symbol declaration: " ++ String.ofList (Text.trim line))
  | foreign {d : SymbolDeclaration} : SymbolDeclaration.ofLine? line = some d →
      beginsWith d.symbol (symbolStart ++ r.start) = false →
      Complaint r line ("failed to read function of type " ++ d.type ++ " - invalid name " ++ d.symbol)
  | functionDeclared {type name : String} : Binds r line type name → name ∈ Keyed.keys r.functions →
      Complaint r line (RegistryError.functionDeclared name).message
  | unknownType {type name : String} : Binds r line type name → name ∉ Keyed.keys r.functions →
      type ∉ Keyed.keys r.types → Complaint r line (RegistryError.unknownType type).message
  | shortNameTaken {type name short holder : String} : Binds r line type name → name ∉ Keyed.keys r.functions →
      type ∈ Keyed.keys r.types → shortName? name r.start = some short → Keyed.find? r.shortNames short = some holder →
      Complaint r line (RegistryError.shortNameTaken short name holder).message

/-- A line that declares a function without a name, of a type that is declared. -/
structure Unnamed (r : Registry) (line : List Char) : Prop where
  binds : ∃ type, Binds r line type "" ∧ type ∈ Keyed.keys r.types
  new : "" ∉ Keyed.keys r.functions

namespace Extraction

variable {x y : Extraction} {line : List Char} {type name : String}

theorem readSymbol_of_binds (x : Extraction) (lineNumber : Nat) (binds : Binds x.registry line type name) :
    x.readSymbol lineNumber line =
      match x.registry.addFunction name type with
      | .ok (_, registry) => .ok { x with registry, functionCount := x.functionCount + 1 }
      | .error e => x.refuse lineNumber e := by
  have ours : beginsWith (symbolStart ++ name) (symbolStart ++ x.registry.start) = true := by
    rw [beginsWith, List.isPrefixOf_iff_prefix, String.toList_append, String.toList_append, List.prefix_append_right_inj]
    exact binds.ours
  have rest : dropFirst (symbolStart ++ name) symbolStart.length = name := by
    rw [dropFirst, String.toList_append, ← String.length_toList, List.drop_left, String.ofList_toList]
  cases added : x.registry.addFunction name type <;> simp only [readSymbol, binds.declared, ours, rest, if_true, added]

/-- A line that is complained about is skipped with the complaint. -/
theorem readLine_of_complaint (mutable : x.registry.frozen = false) {reason : String}
    (complaint : Complaint x.registry line reason) (lineNumber : Nat) :
    x.readLine lineNumber line = .ok (x.skip lineNumber reason) := by
  have bound {type name : String} (binds : Binds x.registry line type name) :
      x.readLine lineNumber line = x.readSymbol lineNumber line := by
    rw [readLine, SymbolDeclaration.shape_of_line binds.declared]
  cases complaint with
  | malformedType shape undeclared => simp only [readLine, shape, readType, undeclared]
  | malformedArgument declared unlisted =>
    simp only [readLine, TypeDeclaration.shape_of_line declared, readType, declared, unlisted]
  | @typeDeclared t declared taken =>
    obtain ⟨d, shaped, -⟩ := Option.bind_eq_some_iff.mp declared
    rw [readLine, TypeDeclaration.shape_of_line shaped]
    exact x.readType_of_refused lineNumber declared (Registry.addType_of_declared mutable taken)
  | malformedSymbol shape undeclared => simp only [readLine, shape, readSymbol, undeclared]
  | foreign declared foreign =>
    simp only [readLine, SymbolDeclaration.shape_of_line declared, readSymbol, declared, foreign, Bool.false_eq_true, if_false]
  | functionDeclared binds taken =>
    rw [bound binds, x.readSymbol_of_binds lineNumber binds, Registry.addFunction_of_declared mutable taken]
    rfl
  | unknownType binds new unknown =>
    rw [bound binds, x.readSymbol_of_binds lineNumber binds, Registry.addFunction_of_unknown mutable new unknown]
    rfl
  | shortNameTaken binds new known named taken =>
    rw [bound binds, x.readSymbol_of_binds lineNumber binds, Registry.addFunction_of_taken mutable new known named taken]
    rfl

/-- At a function without a name, a reading stops. -/
theorem readLine_of_unnamed (mutable : x.registry.frozen = false) (unnamed : Unnamed x.registry line) (lineNumber : Nat) :
    x.readLine lineNumber line = .error .noShortName := by
  obtain ⟨⟨type, binds, known⟩, new⟩ := unnamed
  rw [readLine, SymbolDeclaration.shape_of_line binds.declared]
  show x.readSymbol lineNumber line = _
  rw [x.readSymbol_of_binds lineNumber binds, Registry.addFunction_of_unnamed mutable new known
    (Registry.shortName?_eq_none_iff.mpr rfl)]
  rfl

/-- A type line is complained about, or its type is taken. -/
theorem complaint_or_readType (mutable : x.registry.frozen = false) (lineNumber : Nat) (shape : Shape.ofLine line = .functionType) :
    (∃ reason, Complaint x.registry line reason) ∨
      ∃ y, x.readType lineNumber line = .ok y ∧ y.skipped = x.skipped ∧ y.log = x.log := by
  cases shaped : TypeDeclaration.ofLine? line with
  | none => exact .inl ⟨_, .malformedType shape shaped⟩
  | some d =>
    cases listed : Argument.listOfC? d.parameters with
    | none => exact .inl ⟨_, .malformedArgument shaped listed⟩
    | some arguments =>
      have declared : FunctionType.ofLine? line = some ⟨d.name, d.returnType, false, arguments⟩ := by
        simp only [FunctionType.ofLine?, shaped, listed, Option.bind_eq_bind, Option.bind_some]
      by_cases taken : d.name ∈ Keyed.keys x.registry.types
      · exact .inl ⟨_, .typeDeclared declared taken⟩
      · obtain ⟨r, added⟩ : ∃ r, x.registry.addType ⟨d.name, d.returnType, false, arguments⟩ = .ok r :=
          ⟨_, Registry.addType_of_new mutable taken⟩
        exact .inr ⟨{ x with registry := r, typeCount := x.typeCount + 1 }, x.readType_of_added lineNumber declared added, rfl, rfl⟩

/-- A symbol line is complained about, or its function is taken, or it has none. -/
theorem complaint_or_readSymbol (mutable : x.registry.frozen = false) (lineNumber : Nat) (shape : Shape.ofLine line = .symbol) :
    (∃ reason, Complaint x.registry line reason) ∨ Unnamed x.registry line ∨
      ∃ y, x.readSymbol lineNumber line = .ok y ∧ y.skipped = x.skipped ∧ y.log = x.log := by
  cases declared : SymbolDeclaration.ofLine? line with
  | none => exact .inl ⟨_, .malformedSymbol shape declared⟩
  | some d =>
    cases ours : beginsWith d.symbol (symbolStart ++ x.registry.start) with
    | false => exact .inl ⟨_, .foreign declared ours⟩
    | true =>
      obtain ⟨whole, start⟩ := symbol_of_ours ours
      have binds : Binds x.registry line d.type (dropFirst d.symbol symbolStart.length) := ⟨whole ▸ declared, start⟩
      by_cases taken : dropFirst d.symbol symbolStart.length ∈ Keyed.keys x.registry.functions
      · exact .inl ⟨_, .functionDeclared binds taken⟩
      by_cases known : d.type ∈ Keyed.keys x.registry.types
      · cases named : shortName? (dropFirst d.symbol symbolStart.length) x.registry.start with
        | none =>
          have empty := Registry.shortName?_eq_none_iff.mp named
          rw [empty] at binds taken
          exact .inr (.inl ⟨⟨d.type, binds, known⟩, taken⟩)
        | some short =>
          cases found : Keyed.find? x.registry.shortNames short with
          | some holder => exact .inl ⟨_, .shortNameTaken binds taken known named found⟩
          | none =>
            obtain ⟨f, r, added⟩ := Registry.exists_addFunction mutable taken known named found
            refine .inr (.inr ⟨{ x with registry := r, functionCount := x.functionCount + 1 }, ?_, rfl, rfl⟩)
            rw [x.readSymbol_of_binds lineNumber binds, added]
      · exact .inl ⟨_, .unknownType binds taken known⟩

/-- A define line is never complained about. -/
theorem exists_readDefine (mutable : x.registry.frozen = false) (line : List Char) :
    ∃ y, x.readDefine line = .ok y ∧ y.skipped = x.skipped ∧ y.log = x.log := by
  unfold readDefine
  cases defineOfLine? line with
  | none => exact ⟨x, rfl, rfl, rfl⟩
  | some name =>
    dsimp only
    split
    · obtain ⟨r, added⟩ := Registry.exists_addDefine mutable name
      exact ⟨{ x with registry := r }, by rw [added]; rfl, rfl, rfl⟩
    · exact ⟨x, rfl, rfl, rfl⟩

/-- Everything a line can do: it is complained about, it stops the reading, or nothing is reported. -/
theorem readLine_cases (mutable : x.registry.frozen = false) (lineNumber : Nat) (line : List Char) :
    (∃ reason, Complaint x.registry line reason) ∨ Unnamed x.registry line ∨
      ∃ y, x.readLine lineNumber line = .ok y ∧ y.skipped = x.skipped ∧ y.log = x.log := by
  unfold readLine
  cases shape : Shape.ofLine line with
  | functionType => exact (complaint_or_readType mutable lineNumber shape).imp_right .inr
  | symbol => exact complaint_or_readSymbol mutable lineNumber shape
  | define => exact .inr (.inr (exists_readDefine mutable line))
  | other => exact .inr (.inr ⟨x, rfl, rfl, rfl⟩)

/-- One line gives one complaint at most. -/
theorem complaint_unique {r : Registry} (mutable : r.frozen = false) {reason other : String} (complaint : Complaint r line reason)
    (again : Complaint r line other) : reason = other := by
  have first := readLine_of_complaint (x := start r) mutable complaint 0
  rw [readLine_of_complaint (x := start r) mutable again 0] at first
  simpa [skip, start] using first.symm

/-! ## Runs -/

variable {lineNumber : Nat} {lines : List String} {start : String}

/-- A reading never closes the registry. -/
theorem open_upTo (start : String) (lines : List String) (i : Nat) : (upTo start lines i).registry.frozen = false :=
  keeps_readFrom (P := fun r => r.frozen = false) (fun _ _ grows mutable => grows.frozen.trans mutable) rfl 1 _

/-- No function is added without a name. -/
theorem named_upTo (start : String) (lines : List String) (i : Nat) :
    "" ∉ Keyed.keys (upTo start lines i).registry.functions := by
  refine keeps_readFrom (P := fun r => "" ∉ Keyed.keys r.functions) (fun r r' grows named => ?_) List.not_mem_nil 1 _
  cases grows with
  | function added =>
    obtain ⟨short, type, -, -, -, given, -, rfl⟩ := Registry.addFunction_declared added
    rw [Keyed.keys, List.map_append, List.mem_append, List.map_singleton, List.mem_singleton]
    exact not_or.mpr ⟨named, fun same => ne_empty_of_shortName? given same.symm⟩
  | beside defines types => exact named

/-- A reading that stops has read all lines in front of the one where it stops. -/
theorem stop_of_readFrom {e : HeaderError} (stopped : (x.readFrom lineNumber lines).answer = .error e) :
    ∃ i line cause, lines[i]? = some line ∧ e = .registry cause ∧ (x.readFrom lineNumber (lines.take i)).answer = .ok () ∧
      (x.readFrom lineNumber (lines.take i)).state.readLine (lineNumber + i) line.toList = .error cause := by
  induction lines generalizing x lineNumber with
  | nil => cases stopped
  | cons line rest ih =>
    rw [readFrom] at stopped
    cases read : x.readLine lineNumber line.toList with
    | error cause =>
      rw [read] at stopped
      cases stopped
      exact ⟨0, line, cause, rfl, rfl, rfl, read⟩
    | ok next =>
      rw [read] at stopped
      obtain ⟨i, found, cause, at_, same, before, stop⟩ := ih stopped
      refine ⟨i + 1, found, cause, at_, same, ?_, ?_⟩
      · simpa only [List.take_succ_cons, readFrom, read] using before
      · rw [Nat.add_right_comm] at stop
        simpa only [List.take_succ_cons, readFrom, read, Nat.add_assoc] using stop

theorem answer_ofLines (r : Registry) (lines : List String) :
    (ofLines r lines).answer = ((Extraction.start r).readFrom 1 lines).answer := by
  unfold ofLines
  obtain ⟨y, _, done⟩ | ⟨y, e, failed⟩ := ((Extraction.start r).readFrom 1 lines).done_or_failed
  · rw [done]
    rfl
  · rw [failed]
    rfl

/-- A type that a line declares is known behind the line, whether it was taken from there or from an earlier line. -/
theorem known_behind (returns : (ofLines (.empty start) lines).answer = .ok ()) {i j : Nat} {line : String} {t : FunctionType}
    (at_ : lines[i]? = some line) (declared : FunctionType.ofLine? line.toList = some t) (behind : i < j)
    (bound : j ≤ lines.length) : t.typedefName ∈ Keyed.keys (upTo start lines j).registry.types := by
  refine upTo_induction returns (P := fun j => i < j → t.typedefName ∈ Keyed.keys (upTo start lines j).registry.types)
    nofun ?_ bound behind
  intro j other stands reads held behind
  have kept : t.typedefName ∈ Keyed.keys (upTo start lines j).registry.types →
      t.typedefName ∈ Keyed.keys (upTo start lines (j + 1)).registry.types := by
    intro before
    obtain ⟨t', -, -, -, types⟩ | ⟨-, types⟩ := reads.types
    · rw [types, Keyed.keys, List.map_append]
      exact List.mem_append_left _ before
    · rwa [types]
  rcases Nat.lt_succ_iff_lt_or_eq.mp behind with earlier | rfl
  · exact kept (held earlier)
  by_cases known : t.typedefName ∈ Keyed.keys (upTo start lines i).registry.types
  · exact kept known
  -- a new type is taken from the line
  rw [at_] at stands
  cases stands
  obtain ⟨d, shaped, -⟩ := Option.bind_eq_some_iff.mp declared
  have read := readLine_of_readFrom (readFrom_of_ofLines returns).1 at_
  have added := readType_of_added (upTo start lines i) (1 + i) declared
    (Registry.addType_of_new (open_upTo start lines i) known)
  rw [readLine, TypeDeclaration.shape_of_line shaped] at read
  have same : upTo start lines (i + 1) = _ := Except.ok.inj (read.symm.trans added)
  rw [same, Keyed.keys, List.map_append]
  exact List.mem_append_right _ List.mem_cons_self

/-- A header with a function without a name behind a line that declares its type. -/
def NamesNothing (lines : List String) : Prop :=
  ∃ (i j : Nat) (line other : String) (t : FunctionType), i < j ∧ lines[i]? = some line ∧
    FunctionType.ofLine? line.toList = some t ∧ lines[j]? = some other ∧
    SymbolDeclaration.ofLine? other.toList = some ⟨t.typedefName, symbolStart⟩

/-- A reading stops only at a function without a name, in an interface whose names start with nothing. -/
theorem stop_of_ofLines {e : HeaderError} (stopped : (ofLines (.empty start) lines).answer = .error e) :
    e = .registry .noShortName ∧ start = "" ∧ NamesNothing lines := by
  rw [answer_ofLines] at stopped
  obtain ⟨j, other, cause, at_, rfl, before, stop⟩ := stop_of_readFrom stopped
  have stop : (upTo start lines j).readLine (1 + j) other.toList = .error cause := stop
  -- the lines in front of it are a header that is read to its end
  have returns : (ofLines (.empty start) (lines.take j)).answer = .ok () := (answer_ofLines _ _).trans before
  have whole : upTo start (lines.take j) (lines.take j).length = upTo start lines j := by rw [upTo, List.take_length]; rfl
  have sound := sound_upTo returns (Nat.le_refl _)
  have taken := takesType_of_mem returns (Nat.le_refl _)
  rw [whole] at sound taken
  have mutable := open_upTo start lines j
  obtain ⟨reason, complaint⟩ | unnamed | ⟨y, read, -⟩ := readLine_cases mutable (1 + j) other.toList
  · rw [readLine_of_complaint mutable complaint] at stop
    cases stop
  · rw [readLine_of_unnamed mutable unnamed] at stop
    cases stop
    obtain ⟨type, ⟨declared, ours⟩, known⟩ := unnamed.binds
    rw [sound.started] at ours
    obtain ⟨⟨_, t⟩, listed, rfl⟩ := List.mem_map.mp known
    obtain ⟨i, below, takes⟩ := taken _ listed
    obtain ⟨line, stands, typed⟩ := takes.declared
    have inside : i < j := Nat.lt_of_lt_of_le below (List.length_take_le _ _)
    rw [List.getElem?_take_of_lt inside] at stands
    have named := sound.typesNamed _ listed
    rw [String.append_empty, named] at declared
    exact ⟨rfl, String.toList_eq_nil_iff.mp (List.prefix_nil.mp ours), i, j, line, other, t, inside, stands, typed, at_, declared⟩
  · rw [read] at stop
    cases stop

/-- A header is read to its end unless it has a function without a name. -/
theorem returns_iff : (ofLines (.empty start) lines).answer = .ok () ↔ ¬ (start = "" ∧ NamesNothing lines) := by
  constructor
  · rintro returns ⟨rfl, i, j, line, other, t, behind, at_, typed, stands, declared⟩
    have bound : j < lines.length := (List.getElem?_eq_some_iff.mp stands).1
    have known := known_behind returns at_ typed behind (Nat.le_of_lt bound)
    have started := (sound_upTo returns (Nat.le_of_lt bound)).started
    have binds : Binds (upTo "" lines j).registry other.toList t.typedefName "" :=
      ⟨by rw [String.append_empty]; exact declared, by rw [started]⟩
    have read := readLine_of_readFrom (readFrom_of_ofLines returns).1 stands
    have stop := readLine_of_unnamed (x := upTo "" lines j) (open_upTo "" lines j)
      ⟨⟨_, binds, known⟩, named_upTo "" lines j⟩ (1 + j)
    cases stop.symm.trans read
  · intro named
    cases answer : (ofLines (.empty start) lines).answer with
    | ok _ => rfl
    | error e => exact absurd (stop_of_ofLines answer).2 named

/-! ## What is reported -/

/-- The warning that a complaint about a line makes. -/
def warningOf (complaint : Nat × String) : LogEntry :=
  ⟨.warning, source, "line " ++ toString complaint.1 ++ ": " ++ complaint.2⟩

/-- The complaints about the first lines of a header, and what the reading of these lines has reported: one warning for
each, in the order of the lines. -/
structure Reported (start : String) (lines : List String) (count : Nat) (complaints : List (Nat × String)) : Prop where
  listed : ∀ number reason, (number, reason) ∈ complaints ↔ ∃ i < count, number = i + 1 ∧ ∃ line, lines[i]? = some line ∧
    Complaint (upTo start lines i).registry line.toList reason
  ordered : complaints.Pairwise fun earlier later => earlier.1 < later.1
  log : (upTo start lines count).log = complaints.map warningOf
  skipped : (upTo start lines count).skipped = complaints.length

namespace Reported

variable {i : Nat} {line : String} {complaints : List (Nat × String)}

/-- One more line, with a complaint about it. -/
theorem complained (reported : Reported start lines i complaints) (at_ : lines[i]? = some line) {reason : String}
    (complaint : Complaint (upTo start lines i).registry line.toList reason)
    (next : upTo start lines (i + 1) = (upTo start lines i).skip (i + 1) reason) :
    Reported start lines (i + 1) (complaints ++ [(i + 1, reason)]) := by
  have mutable := open_upTo start lines i
  refine ⟨fun number other => ?_, ?_, ?_, ?_⟩
  · rw [List.mem_append, List.mem_singleton, reported.listed]
    constructor
    · rintro (⟨k, below, rest⟩ | own)
      · exact ⟨k, Nat.lt_succ_of_lt below, rest⟩
      · cases own
        exact ⟨i, Nat.lt_succ_self i, rfl, line, at_, complaint⟩
    · rintro ⟨k, below, rfl, found, stands, own⟩
      rcases Nat.lt_succ_iff_lt_or_eq.mp below with before | rfl
      · exact .inl ⟨k, before, rfl, found, stands, own⟩
      · rw [at_] at stands
        cases stands
        rw [complaint_unique mutable own complaint]
        exact .inr rfl
  · refine List.pairwise_append.mpr ⟨reported.ordered, List.pairwise_singleton _ _, fun before member last own => ?_⟩
    obtain ⟨k, below, number, -⟩ := (reported.listed before.1 before.2).mp member
    rw [List.mem_singleton.mp own, number]
    exact Nat.succ_lt_succ below
  · rw [next, List.map_append, ← reported.log]
    rfl
  · rw [next, List.length_append, ← reported.skipped]
    rfl

/-- One more line, without a complaint. -/
theorem silent (reported : Reported start lines i complaints) (at_ : lines[i]? = some line)
    (quiet : ∀ reason, ¬ Complaint (upTo start lines i).registry line.toList reason)
    (skipped : (upTo start lines (i + 1)).skipped = (upTo start lines i).skipped)
    (log : (upTo start lines (i + 1)).log = (upTo start lines i).log) : Reported start lines (i + 1) complaints := by
  refine ⟨fun number other => ?_, reported.ordered, log.trans reported.log, skipped.trans reported.skipped⟩
  rw [reported.listed]
  constructor
  · rintro ⟨k, below, rest⟩
    exact ⟨k, Nat.lt_succ_of_lt below, rest⟩
  · rintro ⟨k, below, rfl, found, stands, own⟩
    rcases Nat.lt_succ_iff_lt_or_eq.mp below with before | rfl
    · exact ⟨k, before, rfl, found, stands, own⟩
    · rw [at_] at stands
      cases stands
      exact absurd own (quiet other)

end Reported

section Returning

variable (returns : (ofLines (.empty start) lines).answer = .ok ())
include returns

/-- From a line that is to declare something and is not complained about, a function type or a function is taken. -/
theorem taken_of_declares {i : Nat} {line : String} (at_ : lines[i]? = some line) (declares : Declares line) :
    (∃ reason, Complaint (upTo start lines i).registry line.toList reason) ∨ (∃ t, TakesType start lines i t) ∨
      ∃ f, TakesFunction start lines i f := by
  have bound : i < lines.length := (List.getElem?_eq_some_iff.mp at_).1
  have reads := reads_upTo returns at_
  have sound := sound_upTo returns (Nat.le_of_lt bound)
  have read := readLine_of_readFrom (readFrom_of_ofLines returns).1 at_
  have mutable := open_upTo start lines i
  obtain complaint | unnamed | ⟨y, quiet, unskipped, -⟩ := readLine_cases mutable (1 + i) line.toList
  · exact .inl complaint
  · cases (readLine_of_unnamed mutable unnamed (1 + i)).symm.trans read
  obtain rfl : y = upTo start lines (i + 1) := Except.ok.inj (quiet.symm.trans read)
  have counted := reads.accounted
  rw [if_pos declares, accounted, accounted, unskipped] at counted
  obtain ⟨t, declared, more, -⟩ | ⟨same, -⟩ := reads.types
  · exact .inr (.inl ⟨t, ⟨line, at_, declared⟩, more⟩)
  obtain ⟨f, typedefName, declared, more, typed, -⟩ | functions := reads.functions
  · have named : typedefName = f.type.typedefName := sound.typesNamed _ typed
    exact .inr (.inr ⟨f, ⟨line, at_, named ▸ declared⟩, more⟩)
  · -- then nothing was counted
    have before := sound.functionCount
    have behind := (sound_upTo returns (i := i + 1) bound).functionCount
    rw [functions, ← before] at behind
    omega

theorem exists_reported {i : Nat} (bound : i ≤ lines.length) : ∃ complaints, Reported start lines i complaints := by
  refine upTo_induction returns (P := fun i => ∃ complaints, Reported start lines i complaints) ?_ ?_ bound
  · exact ⟨[], fun number reason => ⟨nofun, fun ⟨_, below, _⟩ => absurd below (Nat.not_lt_zero _)⟩, .nil, rfl, rfl⟩
  intro i line at_ _ ⟨complaints, reported⟩
  have read := readLine_of_readFrom (readFrom_of_ofLines returns).1 at_
  have read : (upTo start lines i).readLine (1 + i) line.toList = .ok (upTo start lines (i + 1)) := read
  have mutable := open_upTo start lines i
  obtain ⟨reason, complaint⟩ | unnamed | ⟨y, quiet, unskipped, silent⟩ := readLine_cases mutable (1 + i) line.toList
  · have skips := (readLine_of_complaint mutable complaint (1 + i)).symm.trans read
    rw [Nat.add_comm 1 i] at skips
    exact ⟨_, reported.complained at_ complaint (Except.ok.inj skips).symm⟩
  · cases (readLine_of_unnamed mutable unnamed (1 + i)).symm.trans read
  · obtain rfl : y = upTo start lines (i + 1) := Except.ok.inj (quiet.symm.trans read)
    refine ⟨complaints, reported.silent at_ (fun reason own => ?_) unskipped silent⟩
    -- a line that is complained about is counted as skipped
    have skips := Except.ok.inj ((readLine_of_complaint mutable own (1 + i)).symm.trans read)
    rw [← skips] at unskipped
    exact absurd unskipped (Nat.succ_ne_self _)

end Returning

end Extraction

end Header

end CommandStream
