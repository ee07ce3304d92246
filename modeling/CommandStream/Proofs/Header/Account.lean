import CommandStream.Proofs.Header.Lines
import Mathlib.Data.List.Infix

/-!
# The account of a header

A reading that comes to its end has counted every line that declares something exactly once: as a function type, as
a function or as skipped. What it counted stands in the registry, every function with the type that the first line
taken for its type's name declares, and a skipped line has left no trace: without the skipped lines the registry is
the same. All of this is kept by one line and so by all of them.
-/

namespace CommandStream.Header

/-- A line that is to declare a function type or a function. -/
def Declares (line : String) : Prop :=
  "typedef".toList <+: line.toList ∧ "APIENTRYP".toList <:+: line.toList ∨ "GLAPI".toList <+: line.toList

instance : DecidablePred Declares := fun line =>
  inferInstanceAs (Decidable ("typedef".toList <+: line.toList ∧ "APIENTRYP".toList <:+: line.toList ∨
    "GLAPI".toList <+: line.toList))

theorem declares_iff {line : String} :
    Declares line ↔ Shape.ofLine line.toList = .functionType ∨ Shape.ofLine line.toList = .symbol := by
  rw [Declares, ← Shape.ofLine_eq_functionType]
  refine or_congr_right' fun other => ?_
  rw [← List.isPrefixOf_iff_prefix]
  unfold Shape.ofLine at other ⊢
  split
  · rename_i typed
    exact absurd (if_pos typed) other
  split
  · rename_i symbol
    exact iff_of_true symbol rfl
  · rename_i foreign
    refine iff_of_false foreign ?_
    split <;> exact nofun

namespace Extraction

/-- How many lines were counted, in whatever way. -/
def accounted (x : Extraction) : Nat := x.typeCount + x.functionCount + x.skipped

/-- The reading of so many lines of a header. -/
def upTo (start : String) (lines : List String) (count : Nat) : Extraction :=
  ((Extraction.start (.empty start)).readFrom 1 (lines.take count)).state

/-- A line from which a function type is taken. -/
structure TakesType (start : String) (lines : List String) (i : Nat) (t : FunctionType) : Prop where
  declared : ∃ line, lines[i]? = some line ∧ FunctionType.ofLine? line.toList = some t
  counted : (upTo start lines (i + 1)).typeCount = (upTo start lines i).typeCount + 1

/-- A line from which a function is taken. -/
structure TakesFunction (start : String) (lines : List String) (i : Nat) (f : Function) : Prop where
  declared : ∃ line, lines[i]? = some line ∧
    SymbolDeclaration.ofLine? line.toList = some ⟨f.type.typedefName, symbolStart ++ f.name⟩
  counted : (upTo start lines (i + 1)).functionCount = (upTo start lines i).functionCount + 1

/-- The lines that a reading does not skip. -/
def unskipped (x : Extraction) (lineNumber : Nat) : List String → List String
  | [] => []
  | line :: rest =>
    match x.readLine lineNumber line.toList with
    | .ok y =>
      if y.skipped = x.skipped then line :: y.unskipped (lineNumber + 1) rest else y.unskipped (lineNumber + 1) rest
    | .error _ => line :: rest

variable {x y z : Extraction} {start : String} {lines : List String}

/-! ## One line -/

/-- A line is counted once if it is to declare something, and else not at all. -/
theorem Reads.accounted {line : String} (reads : x.Reads line.toList y) :
    y.accounted = x.accounted + if Declares line then 1 else 0 := by
  have uncounted {shape : Shape} (same : Shape.ofLine line.toList = shape) (type : shape ≠ .functionType)
      (symbol : shape ≠ .symbol) : ¬ Declares line := by
    rw [declares_iff, same]
    exact fun declares => declares.elim type symbol
  cases reads with
  | type shape =>
    rw [if_pos (declares_iff.mpr (.inl shape))]
    show x.typeCount + 1 + x.functionCount + x.skipped = x.typeCount + x.functionCount + x.skipped + 1
    omega
  | function shape =>
    rw [if_pos (declares_iff.mpr (.inr shape))]
    show x.typeCount + (x.functionCount + 1) + x.skipped = x.typeCount + x.functionCount + x.skipped + 1
    omega
  | define shape =>
    rw [if_neg (uncounted shape nofun nofun)]
    rfl
  | foreign shape =>
    rw [if_neg (uncounted shape nofun nofun)]
    rfl
  | other shape =>
    rw [if_neg (uncounted shape nofun nofun)]
    rfl
  | skipped lineNumber reason shape =>
    rw [if_pos (declares_iff.mpr shape)]
    rfl

/-- The symbol of a function of the interface. -/
theorem symbol_of_ours {symbol start : String} (ours : beginsWith symbol (symbolStart ++ start) = true) :
    symbol = symbolStart ++ dropFirst symbol symbolStart.length ∧
      start.toList <+: (dropFirst symbol symbolStart.length).toList := by
  obtain ⟨rest, split⟩ := List.isPrefixOf_iff_prefix.mp ours
  rw [String.toList_append, List.append_assoc] at split
  have tail : symbol.toList.drop symbolStart.length = start.toList ++ rest := by
    rw [← split, ← String.length_toList, List.drop_left]
  constructor
  · apply String.toList_injective
    rw [String.toList_append, dropFirst, String.toList_ofList, tail, split]
  · rw [dropFirst, String.toList_ofList, tail]
    exact List.prefix_append _ _

/-- What is counted, and what holds of all that is counted. -/
structure Sound (start : String) (x : Extraction) : Prop where
  started : x.registry.start = start
  typeCount : x.typeCount = x.registry.types.length
  typesNamed : ∀ entry ∈ x.registry.types, entry.1 = entry.2.typedefName
  typesNodup : (Keyed.keys x.registry.types).Nodup
  functionCount : x.functionCount = x.registry.functions.length
  filed : x.registry.Filed
  ours : ∀ entry ∈ x.registry.functions, start.toList <+: entry.2.name.toList
  indexed : Keyed.keys x.registry.shortNames = x.registry.functions.map fun entry => entry.2.shortName
  shortsNodup : (Keyed.keys x.registry.shortNames).Nodup
  defines : ∀ name ∈ x.registry.defines, (Text.capitals start ++ "_").toList <+: name.toList

theorem sound_start (start : String) : Sound start (Extraction.start (.empty start)) :=
  ⟨rfl, rfl, fun _ member => absurd member List.not_mem_nil, List.nodup_nil, rfl, Registry.filed_empty start,
    fun _ member => absurd member List.not_mem_nil, rfl, List.nodup_nil, fun _ member => absurd member List.not_mem_nil⟩

theorem Sound.reads {line : List Char} (sound : Sound start x) (reads : x.Reads line y) : Sound start y := by
  cases reads with
  | @type t registry shape declared added =>
    obtain ⟨new, rfl⟩ := Registry.addType_ok added
    have named : ∀ entry ∈ x.registry.types ++ [(t.typedefName, t)], entry.1 = entry.2.typedefName := by
      intro entry member
      rcases List.mem_append.mp member with before | last
      · exact sound.typesNamed entry before
      · rw [List.mem_singleton.mp last]
    exact { sound with
      typeCount := by simp only [List.length_append, List.length_singleton, sound.typeCount]
      typesNamed := named
      typesNodup := nodup_keys_snoc sound.typesNodup new t
      filed := sound.filed.of_functions rfl }
  | @function d f registry shape declared symbol added =>
    have grown := sound.filed.addFunction added
    obtain ⟨short, type, new, fresh, found, named, same, rfl⟩ := Registry.addFunction_declared added
    have ours : ∀ entry ∈ x.registry.functions ++ [(dropFirst d.symbol symbolStart.length, f)],
        start.toList <+: entry.2.name.toList := by
      intro entry member
      rcases List.mem_append.mp member with before | last
      · exact sound.ours entry before
      · rw [List.mem_singleton.mp last, same, ← sound.started]
        exact (symbol_of_ours symbol).2
    have indexed : Keyed.keys (x.registry.shortNames ++ [(short, dropFirst d.symbol symbolStart.length)]) =
        (x.registry.functions ++ [(dropFirst d.symbol symbolStart.length, f)]).map fun entry => entry.2.shortName := by
      rw [Keyed.keys, List.map_append, List.map_append, ← sound.indexed, same]
      rfl
    exact { sound with
      functionCount := by simp only [List.length_append, List.length_singleton, sound.functionCount]
      filed := grown
      ours := ours
      indexed := indexed
      shortsNodup := nodup_keys_snoc sound.shortsNodup fresh _ }
  | @define name registry shape declared symbol added =>
    obtain rfl | rfl := Registry.addDefine_ok added
    · exact { sound with started := sound.started }
    · have defines : ∀ other ∈ x.registry.defines ++ [name], (Text.capitals start ++ "_").toList <+: other.toList := by
        intro other member
        rcases List.mem_append.mp member with before | last
        · exact sound.defines other before
        · rw [List.mem_singleton.mp last, ← sound.started]
          exact List.isPrefixOf_iff_prefix.mp symbol
      exact { sound with defines := defines, filed := sound.filed.of_functions rfl }
  | foreign => exact sound
  | other => exact sound
  | skipped => exact { sound with started := sound.started }

/-- A line adds a function type last if one is counted, and else none. -/
theorem Reads.types {line : List Char} (reads : x.Reads line y) :
    (∃ t, FunctionType.ofLine? line = some t ∧ y.typeCount = x.typeCount + 1 ∧
      t.typedefName ∉ Keyed.keys x.registry.types ∧ y.registry.types = x.registry.types ++ [(t.typedefName, t)]) ∨
    y.typeCount = x.typeCount ∧ y.registry.types = x.registry.types := by
  cases reads with
  | type shape declared added =>
    obtain ⟨new, rfl⟩ := Registry.addType_ok added
    exact .inl ⟨_, declared, rfl, new, rfl⟩
  | function shape declared ours added =>
    obtain ⟨_, _, -, -, -, -, -, rfl⟩ := Registry.addFunction_declared added
    exact .inr ⟨rfl, rfl⟩
  | define shape declared ours added => obtain rfl | rfl := Registry.addDefine_ok added <;> exact .inr ⟨rfl, rfl⟩
  | foreign => exact .inr ⟨rfl, rfl⟩
  | other => exact .inr ⟨rfl, rfl⟩
  | skipped => exact .inr ⟨rfl, rfl⟩

/-- A line adds a function last if one is counted, and else none. -/
theorem Reads.functions {line : List Char} (reads : x.Reads line y) :
    (∃ f typedefName, SymbolDeclaration.ofLine? line = some ⟨typedefName, symbolStart ++ f.name⟩ ∧
      y.functionCount = x.functionCount + 1 ∧ (typedefName, f.type) ∈ x.registry.types ∧
      y.registry.functions = x.registry.functions ++ [(f.name, f)]) ∨
    y.registry.functions = x.registry.functions := by
  cases reads with
  | type shape declared added =>
    obtain ⟨-, rfl⟩ := Registry.addType_ok added
    exact .inr rfl
  | @function d _ _ shape declared ours added =>
    obtain ⟨short, type, -, -, found, -, rfl, rfl⟩ := Registry.addFunction_declared added
    obtain ⟨whole, -⟩ := symbol_of_ours ours
    refine .inl ⟨⟨dropFirst d.symbol symbolStart.length, short, Function.publicAccess, type⟩, d.type, ?_, rfl,
      mem_of_lookup found, rfl⟩
    rw [declared]
    exact congrArg (fun symbol => some { d with symbol }) whole
  | define shape declared ours added => obtain rfl | rfl := Registry.addDefine_ok added <;> exact .inr rfl
  | foreign => exact .inr rfl
  | other => exact .inr rfl
  | skipped => exact .inr rfl

/-! ## Runs -/

/-- A reading that comes to its end has read every line. -/
theorem readLine_of_readFrom {lineNumber : Nat} (returns : (x.readFrom lineNumber lines).answer = .ok ()) {i : Nat}
    {line : String} (at_ : lines[i]? = some line) :
    (x.readFrom lineNumber (lines.take i)).state.readLine (lineNumber + i) line.toList =
      .ok (x.readFrom lineNumber (lines.take (i + 1))).state := by
  induction lines generalizing x lineNumber i with
  | nil => cases at_
  | cons first rest ih =>
    rw [readFrom] at returns
    cases read : x.readLine lineNumber first.toList with
    | error e =>
      rw [read] at returns
      cases returns
    | ok next =>
      rw [read] at returns
      cases i with
      | zero =>
        cases at_
        simp only [List.take_zero, List.take_succ_cons, readFrom, read, Nat.add_zero, Outcome.state_done]
      | succ i =>
        have later := ih returns at_
        rw [Nat.add_right_comm] at later
        simp only [List.take_succ_cons, readFrom, read]
        exact later

theorem readFrom_of_ofLines {r : Registry} (returns : (ofLines r lines).answer = .ok ()) :
    ((Extraction.start r).readFrom 1 lines).answer = .ok () ∧
      (ofLines r lines).state = ((Extraction.start r).readFrom 1 lines).state.summarized := by
  obtain ⟨y, _, read, -⟩ := Outcome.andThen_ok returns
  rw [ofLines, read]
  exact ⟨rfl, rfl⟩

section Returning

variable (returns : (ofLines (.empty start) lines).answer = .ok ())
include returns

theorem reads_upTo {i : Nat} {line : String} (at_ : lines[i]? = some line) :
    (upTo start lines i).Reads line.toList (upTo start lines (i + 1)) :=
  reads_readLine (readLine_of_readFrom (readFrom_of_ofLines returns).1 at_)

theorem state_eq_upTo : (ofLines (.empty start) lines).state = (upTo start lines lines.length).summarized := by
  rw [(readFrom_of_ofLines returns).2, upTo, List.take_length]

/-- What holds at first and is kept by every line holds behind any number of lines. -/
theorem upTo_induction {P : Nat → Prop} (first : P 0)
    (step : ∀ i line, lines[i]? = some line → (upTo start lines i).Reads line.toList (upTo start lines (i + 1)) →
      P i → P (i + 1)) {i : Nat} (bound : i ≤ lines.length) : P i := by
  induction i with
  | zero => exact first
  | succ i ih =>
    have at_ : lines[i]? = some lines[i] := List.getElem?_eq_getElem bound
    exact step i lines[i] at_ (reads_upTo returns at_) (ih (Nat.le_of_succ_le bound))

theorem sound_upTo {i : Nat} (bound : i ≤ lines.length) : Sound start (upTo start lines i) :=
  upTo_induction returns (P := fun i => Sound start (upTo start lines i)) (sound_start start)
    (fun _ _ _ reads sound => sound.reads reads) bound

theorem accounted_upTo {i : Nat} (bound : i ≤ lines.length) :
    (upTo start lines i).accounted = (lines.take i).countP fun line => decide (Declares line) := by
  refine upTo_induction returns (P := fun i => (upTo start lines i).accounted = (lines.take i).countP _) rfl ?_ bound
  intro i line at_ reads counted
  rw [reads.accounted, counted, List.take_add_one, at_, List.countP_append]
  by_cases declares : Declares line <;> simp [declares]

/-- The types in the registry are those that were taken. -/
theorem takesType_of_mem {i : Nat} (bound : i ≤ lines.length) :
    ∀ entry ∈ (upTo start lines i).registry.types, ∃ k < i, TakesType start lines k entry.2 := by
  refine upTo_induction returns
    (P := fun i => ∀ entry ∈ (upTo start lines i).registry.types, ∃ k < i, TakesType start lines k entry.2) ?_ ?_ bound
  · exact fun _ member => absurd member List.not_mem_nil
  intro i line at_ reads taken entry member
  have earlier : entry ∈ (upTo start lines i).registry.types → ∃ k < i + 1, TakesType start lines k entry.2 := by
    intro before
    obtain ⟨k, below, takes⟩ := taken entry before
    exact ⟨k, Nat.lt_succ_of_lt below, takes⟩
  obtain ⟨t, declared, counted, -, types⟩ | ⟨-, types⟩ := reads.types
  · rw [types] at member
    rcases List.mem_append.mp member with before | last
    · exact earlier before
    · rw [List.mem_singleton.mp last]
      exact ⟨i, Nat.lt_succ_self i, ⟨line, at_, declared⟩, counted⟩
  · exact earlier (types ▸ member)

/-- A function in the registry was taken from a line behind that of its type. -/
theorem takesFunction_of_mem {i : Nat} (bound : i ≤ lines.length) :
    ∀ entry ∈ (upTo start lines i).registry.functions,
      ∃ j < i, TakesFunction start lines j entry.2 ∧ ∃ k < j, TakesType start lines k entry.2.type := by
  refine upTo_induction returns (P := fun i => i ≤ lines.length → ∀ entry ∈ (upTo start lines i).registry.functions,
    ∃ j < i, TakesFunction start lines j entry.2 ∧ ∃ k < j, TakesType start lines k entry.2.type) ?_ ?_ bound bound
  · exact fun _ _ member => absurd member List.not_mem_nil
  intro i line at_ reads taken bound entry member
  have below : i ≤ lines.length := Nat.le_of_succ_le bound
  have earlier : entry ∈ (upTo start lines i).registry.functions →
      ∃ j < i + 1, TakesFunction start lines j entry.2 ∧ ∃ k < j, TakesType start lines k entry.2.type := by
    intro before
    obtain ⟨j, inside, takes⟩ := taken below entry before
    exact ⟨j, Nat.lt_succ_of_lt inside, takes⟩
  obtain ⟨f, typedefName, declared, counted, typed, functions⟩ | functions := reads.functions
  · rw [functions] at member
    rcases List.mem_append.mp member with before | last
    · exact earlier before
    · rw [List.mem_singleton.mp last]
      have named : typedefName = f.type.typedefName := (sound_upTo returns below).typesNamed _ typed
      refine ⟨i, Nat.lt_succ_self i, ⟨⟨line, at_, named ▸ declared⟩, counted⟩, ?_⟩
      exact takesType_of_mem returns below _ typed
  · exact earlier (functions ▸ member)

/-- A type that was taken stays in the registry. -/
theorem mem_types_of_takesType {k : Nat} {t : FunctionType} (takes : TakesType start lines k t) {i : Nat}
    (bound : i ≤ lines.length) (behind : k < i) : t.typedefName ∈ Keyed.keys (upTo start lines i).registry.types := by
  refine upTo_induction returns
    (P := fun i => k < i → t.typedefName ∈ Keyed.keys (upTo start lines i).registry.types) (nofun) ?_ bound behind
  intro i line at_ reads held behind
  obtain ⟨t', declared, counted, -, types⟩ | ⟨uncounted, types⟩ := reads.types
  · rw [types, Keyed.keys, List.map_append, List.mem_append]
    rcases Nat.lt_succ_iff_lt_or_eq.mp behind with before | rfl
    · exact .inl (held before)
    · obtain ⟨own, stands, same⟩ := takes.declared
      rw [at_] at stands
      cases stands
      rw [declared] at same
      cases same
      exact .inr List.mem_cons_self
  · rw [types]
    rcases Nat.lt_succ_iff_lt_or_eq.mp behind with before | rfl
    · exact held before
    · have counted := takes.counted
      omega

/-- No line behind that of a type is taken for a type of its name. -/
theorem TakesType.first {i k : Nat} {t t' : FunctionType} (takes : TakesType start lines i t)
    (earlier : TakesType start lines k t') (below : k < i) : t'.typedefName ≠ t.typedefName := by
  obtain ⟨line, at_, declared⟩ := takes.declared
  have bound : i ≤ lines.length := Nat.le_of_lt (List.getElem?_eq_some_iff.mp at_).1
  have held := mem_types_of_takesType returns earlier bound below
  obtain ⟨own, same, -, new, -⟩ | ⟨uncounted, -⟩ := (reads_upTo returns at_).types
  · rw [declared] at same
    cases same
    exact fun equal => new (equal ▸ held)
  · have counted := takes.counted
    omega

end Returning

/-! ## Without the skipped lines -/

/-- Readings that differ in nothing but what they skipped and reported. -/
structure Agrees (x z : Extraction) : Prop where
  registry : z.registry = x.registry
  typeCount : z.typeCount = x.typeCount
  functionCount : z.functionCount = x.functionCount

/-- A line that is not skipped does the same to a reading that agrees, and is not skipped there. -/
theorem Reads.again {line : List Char} (reads : x.Reads line y) (unskipped : y.skipped = x.skipped) (agrees : Agrees x z)
    (lineNumber : Nat) : ∃ next, z.readLine lineNumber line = .ok next ∧ Agrees y next ∧ next.skipped = z.skipped := by
  obtain ⟨same, typeCount, functionCount⟩ := agrees
  cases reads with
  | @type t registry shape declared added =>
    refine ⟨{ z with registry, typeCount := z.typeCount + 1 }, ?_, ⟨rfl, congrArg (· + 1) typeCount, functionCount⟩, rfl⟩
    rw [readLine, shape]
    show z.readType lineNumber line = _
    exact z.readType_of_added lineNumber declared (same ▸ added)
  | @function d f registry shape declared ours added =>
    refine ⟨{ z with registry, functionCount := z.functionCount + 1 }, ?_,
      ⟨rfl, typeCount, congrArg (· + 1) functionCount⟩, rfl⟩
    simp only [readLine, shape, readSymbol, declared, same, ours, added, if_true]
  | @define name registry shape declared ours added =>
    refine ⟨{ z with registry }, ?_, ⟨rfl, typeCount, functionCount⟩, rfl⟩
    simp only [readLine, shape, readDefine, declared, same, ours, added, if_true, Except.map]
  | foreign shape foreign =>
    refine ⟨z, ?_, ⟨same, typeCount, functionCount⟩, rfl⟩
    simp only [readLine, shape, readDefine]
    cases declared : defineOfLine? line with
    | none => rfl
    | some name => simp only [same, foreign name declared, Bool.false_eq_true, if_false]
  | other shape =>
    refine ⟨z, ?_, ⟨same, typeCount, functionCount⟩, rfl⟩
    simp only [readLine, shape]
  | skipped => exact absurd unskipped (Nat.ne_of_gt (Nat.lt_succ_self x.skipped))

/-- A line that is skipped leaves nothing behind. -/
theorem Reads.agrees_of_skipped {line : List Char} (reads : x.Reads line y) (skipped : y.skipped ≠ x.skipped) :
    Agrees x y := by
  cases reads with
  | skipped => exact ⟨rfl, rfl, rfl⟩
  | _ => exact absurd rfl skipped

/-- Without the lines that it skips, a reading is the same. -/
theorem readFrom_unskipped {lineNumber : Nat} (returns : (x.readFrom lineNumber lines).answer = .ok ()) (agrees : Agrees x z)
    (number : Nat) : ∃ last, z.readFrom number (x.unskipped lineNumber lines) = .done last () ∧
      Agrees (x.readFrom lineNumber lines).state last ∧ last.skipped = z.skipped := by
  induction lines generalizing x z lineNumber number with
  | nil => exact ⟨z, rfl, agrees, rfl⟩
  | cons line rest ih =>
    rw [readFrom] at returns
    cases read : x.readLine lineNumber line.toList with
    | error e =>
      rw [read] at returns
      cases returns
    | ok y =>
      rw [read] at returns
      have reads := reads_readLine read
      simp only [unskipped, readFrom, read]
      split
      · rename_i kept
        obtain ⟨next, read, agrees, quiet⟩ := reads.again kept agrees number
        obtain ⟨last, done, agrees, skipped⟩ := ih returns agrees (number + 1)
        refine ⟨last, ?_, agrees, skipped.trans quiet⟩
        simp only [readFrom, read, done]
      · rename_i skipped
        obtain ⟨registry, typeCount, functionCount⟩ := reads.agrees_of_skipped skipped
        exact ih returns ⟨agrees.registry.trans registry.symm, agrees.typeCount.trans typeCount.symm,
          agrees.functionCount.trans functionCount.symm⟩ number

/-! ## A whole header -/

/-- **The account of a header.** When a header is read to its end, every line that is to declare a function type or a
function was counted exactly once, and no other line; the counts of types and functions are those of the registry.
Every function is filed under its own name, which starts as the names of the interface do, and has the type of the
first line taken for its type's name, in front of its own line; no two have one short name, and every define starts as
those of the interface do. Without the lines that were skipped, the header gives the same registry and nothing is
skipped. -/
theorem header_accounted (start : String) (lines : List String)
    (returns : (ofLines (.empty start) lines).answer = .ok ()) : let x := (ofLines (.empty start) lines).state
    (∀ i line, lines[i]? = some line → (upTo start lines (i + 1)).accounted =
      (upTo start lines i).accounted + if Declares line then 1 else 0) ∧
    x.accounted = lines.countP (fun line => decide (Declares line)) ∧
    x.typeCount = x.registry.types.length ∧ (Keyed.keys x.registry.types).Nodup ∧
    x.functionCount = x.registry.functions.length ∧ (Keyed.keys x.registry.functions).Nodup ∧
    (∀ entry ∈ x.registry.functions, entry.1 = entry.2.name ∧ start.toList <+: entry.2.name.toList ∧
      ∃ i j, i < j ∧ TakesType start lines i entry.2.type ∧ TakesFunction start lines j entry.2 ∧
        ∀ k t, k < i → TakesType start lines k t → t.typedefName ≠ entry.2.type.typedefName) ∧
    (x.registry.functions.map fun entry => entry.2.shortName).Nodup ∧
    (∀ name ∈ x.registry.defines, (Text.capitals start ++ "_").toList <+: name.toList) ∧
    let again := ofLines (.empty start) ((Extraction.start (.empty start)).unskipped 1 lines)
    again.answer = .ok () ∧ again.state.registry = x.registry ∧ again.state.skipped = 0 := by
  intro x
  have last : x = (upTo start lines lines.length).summarized := state_eq_upTo returns
  have sound := sound_upTo returns (Nat.le_refl lines.length)
  have counted := accounted_upTo returns (Nat.le_refl lines.length)
  rw [List.take_length] at counted
  refine ⟨fun i line at_ => (reads_upTo returns at_).accounted, ?_, ?_, ?_, ?_, ?_, ?_, ?_, ?_, ?_⟩
  · rw [last]
    exact counted
  · rw [last]
    exact sound.typeCount
  · rw [last]
    exact sound.typesNodup
  · rw [last]
    exact sound.functionCount
  · rw [last]
    exact sound.filed.nodup
  · rw [last]
    intro entry member
    refine ⟨sound.filed.named entry member, sound.ours entry member, ?_⟩
    obtain ⟨j, -, function, i, before, type⟩ := takesFunction_of_mem returns (Nat.le_refl lines.length) entry member
    exact ⟨i, j, before, type, function, fun k t below earlier => type.first returns earlier below⟩
  · rw [last]
    exact sound.indexed ▸ sound.shortsNodup
  · rw [last]
    exact sound.defines
  · intro again
    obtain ⟨read, state⟩ := readFrom_of_ofLines returns
    obtain ⟨z, done, agrees, skipped⟩ := readFrom_unskipped read (z := Extraction.start (.empty start)) ⟨rfl, rfl, rfl⟩ 1
    have whole : again = .done z.summarized () := by
      show ofLines _ _ = _
      rw [ofLines, done]
      rfl
    rw [whole]
    exact ⟨rfl, agrees.registry.trans (congrArg Extraction.registry state).symm, skipped⟩

end Extraction

/-! ## A header with skipped lines -/

namespace SkippedLines
open Extraction

def type : String := "typedef void (APIENTRYP F)(void);"

def symbol : String := "GLAPI F glad_glF;"

/-- A type and a function, between them an argument without a name, and the function again. -/
def lines : List String := [type, "typedef void (APIENTRYP G)(int);", symbol, symbol]

/-- Four lines are counted, and the two that are not skipped give the same registry. -/
theorem two_lines_skipped :
    (ofLines (.empty "gl") lines).answer = .ok () ∧ (ofLines (.empty "gl") lines).state.accounted = 4 ∧
    let again := ofLines (.empty "gl") [type, symbol]
    again.state.registry = (ofLines (.empty "gl") lines).state.registry ∧ again.state.skipped = 0 := by
  have returns : (ofLines (.empty "gl") lines).answer = .ok () := ok_of_toOption (by decide +kernel)
  have kept : (Extraction.start (.empty "gl")).unskipped 1 lines = [type, symbol] := by decide +kernel
  have total : lines.countP (fun line => decide (Declares line)) = 4 := by decide +kernel
  obtain ⟨-, counted, -, -, -, -, -, -, -, -, registry, skipped⟩ := header_accounted "gl" lines returns
  rw [kept] at registry skipped
  exact ⟨returns, counted.trans total, registry, skipped⟩

end SkippedLines

end CommandStream.Header
