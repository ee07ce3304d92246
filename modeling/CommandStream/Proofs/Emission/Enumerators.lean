import CommandStream.Proofs.Emission.Numbering
import CommandStream.Proofs.Registry.Names
import CommandStream.Proofs.Text.Plain

/-!
# The enumerators of the command ids

Emitted code names the ids of commands by their short names, and their number by one more name behind them. Short names are
words of the header without the prefix of the interface. Emission keeps them apart from each other, but not from the name
behind them, and it does not look at how they begin. So a header has two ways to make enumerators that no compiler takes,
and these are all.
-/

namespace CommandStream
open OverrideModule

/-! ## Names of functions -/

/-- Whether a digit stands behind the prefix of the interface. -/
def digitFollows (name : String) : Bool :=
  match Text.afterPrefix? "gl".toList name.toList with
  | some (c :: _) => c.isDigit
  | _ => false

namespace Function

/-- A function with a plain name of the interface, and with the short name of that. -/
structure PlainlyNamed (f : Function) : Prop where
  ours : (Text.afterPrefix? "gl".toList f.name.toList).isSome = true
  plain : f.name.toList.all Text.isPlain = true
  short : shortName? f.name "gl" = some f.shortName

variable {f g : Function}

namespace PlainlyNamed

/-- The short name is what stands behind the prefix, with its first character as a capital. Where nothing stands there,
it is the prefix. -/
theorem cases (named : f.PlainlyNamed) : f.name = "gl" ∧ f.shortName = "Gl" ∨
    ∃ c rest, f.name.toList = "gl".toList ++ c :: rest ∧ f.shortName.toList = c.toUpper :: rest ∧
      digitFollows f.name = c.isDigit ∧ Text.isPlain c = true ∧ rest.all Text.isPlain = true := by
  obtain ⟨behind, found⟩ := Option.isSome_iff_exists.mp named.ours
  have whole := Text.eq_append_of_afterPrefix? found
  have plain := named.plain
  have short := named.short
  rw [shortName?, found] at short
  rw [whole, List.all_append, Bool.and_eq_true] at plain
  cases behind with
  | nil =>
    have name : f.name = "gl" := String.toList_injective (whole.trans (List.append_nil _))
    rw [name] at short
    exact .inl ⟨name, (Option.some.inj short).symm⟩
  | cons c rest =>
    have parts := Bool.and_eq_true_iff.mp (List.all_cons ▸ plain.2)
    refine .inr ⟨c, rest, whole, ?_, by rw [digitFollows, found], parts.1, parts.2⟩
    rw [← Option.some.inj short, String.toList_ofList, Text.capitalForm_of_isPlain parts.1]
    rfl

/-- Short names are plain. -/
theorem plain_shortName (named : f.PlainlyNamed) : f.shortName ≠ "" ∧ f.shortName.toList.all Text.isPlain = true := by
  obtain ⟨-, short⟩ | ⟨c, rest, -, short, -, first, others⟩ := named.cases
  · rw [short]
    decide
  · constructor
    · intro empty
      rw [empty] at short
      cases short
    · rw [short, List.all_cons, (Text.toUpper_of_isPlain first).1, others]
      rfl

/-- A short name is an identifier unless a digit stands behind the prefix. -/
theorem isIdentifier_shortName (named : f.PlainlyNamed) :
    Text.isPlainIdentifier f.shortName = !digitFollows f.name := by
  obtain ⟨name, short⟩ | ⟨c, rest, -, short, digit, first, others⟩ := named.cases
  · rw [name, short]
    decide
  · obtain ⟨plain, same, -⟩ := Text.toUpper_of_isPlain first
    rw [Text.isPlainIdentifier, short]
    simp only [same, digit, List.all_cons, plain, others, Bool.and_self, Bool.and_true]

/-- Two names have the short name `Count`. -/
theorem shortName_eq_count (named : f.PlainlyNamed) :
    f.shortName = "Count" ↔ f.name = "glCount" ∨ f.name = "glcount" := by
  obtain ⟨name, short⟩ | ⟨c, rest, name, short, -, first, -⟩ := named.cases
  · rw [name, short]
    decide
  · obtain ⟨-, -, capital⟩ := Text.toUpper_of_isPlain first
    have shorts : f.shortName = "Count" ↔ c.toUpper = 'C' ∧ rest = "ount".toList := by
      rw [← String.toList_inj, short, show "Count".toList = 'C' :: "ount".toList from rfl, List.cons.injEq]
    have names (d : Char) : f.name = String.ofList ("gl".toList ++ d :: "ount".toList) ↔ c = d ∧ rest = "ount".toList := by
      have letters : (String.ofList ("gl".toList ++ d :: "ount".toList)).toList = "gl".toList ++ d :: "ount".toList :=
        String.toList_ofList
      rw [← String.toList_inj, name, letters, List.append_cancel_left_eq, List.cons.injEq]
    rw [shorts, capital, show "glCount" = String.ofList ("gl".toList ++ 'C' :: "ount".toList) from rfl, names,
      show "glcount" = String.ofList ("gl".toList ++ 'c' :: "ount".toList) from rfl, names, or_and_right]

end PlainlyNamed

end Function

/-! ## Names after the overrides -/

/-- The name that a change gives, if it gives one. -/
def Change.newName? : Change → Option String
  | .generated name _ _ => some name
  | .deleting name _ _ => name
  | _ => none

namespace Function

variable {f g : Function} {start : String}

/-- What the overrides make of a function keeps its name, or has the new name of its change and the short name of that. -/
theorem FollowsTable.names (follows : f.FollowsTable start (some g)) :
    g.name = f.name ∧ g.shortName = f.shortName ∨
    ∃ entry ∈ changes, ∃ new ∈ entry.2.newName?, f.name = entry.1 ∧ g.name = new ∧
      g.shortName = (shortName? new start).getD "" := by
  have table : (f.overridden start).name = f.name ∧ (f.overridden start).shortName = f.shortName ∨
      ∃ entry ∈ changes, ∃ new ∈ entry.2.newName?, f.name = entry.1 ∧ (f.overridden start).name = new ∧
        (f.overridden start).shortName = (shortName? new start).getD "" := by
    unfold overridden
    split
    · rename_i change found
      have listed : (f.name, change) ∈ changes := mem_of_lookup found
      cases change with
      | generated name handle kept => exact .inr ⟨_, listed, name, rfl, rfl, rfl, rfl⟩
      | returning handle => exact .inl ⟨rfl, rfl⟩
      | deleting name handle argument =>
        cases name with
        | none => exact .inl ⟨rfl, rfl⟩
        | some name => exact .inr ⟨_, listed, name, rfl, rfl, rfl, rfl⟩
      | singleText =>
        simp only [changed]
        split <;> exact .inl ⟨rfl, rfl⟩
      | bound handle =>
        simp only [changed]
        split <;> exact .inl ⟨rfl, rfl⟩
    · exact .inl ⟨rfl, rfl⟩
  cases follows with
  | exactly other => exact table
  | text _ _ same =>
    -- Marks of arguments do not touch names.
    have name : g.name = (f.overridden start).name :=
      show g.unmarked.name = (f.overridden start).unmarked.name from congrArg Function.name same
    have short : g.shortName = (f.overridden start).shortName :=
      show g.unmarked.shortName = (f.overridden start).unmarked.shortName from congrArg Function.shortName same
    rwa [← name, ← short] at table

/-- What is true of no name in the table is true of a function after the overrides if it was before. -/
theorem FollowsTable.name_iff {P : String → Prop} (spared : ∀ entry ∈ changes, ¬ P entry.1 ∧ ∀ new ∈ entry.2.newName?, ¬ P new)
    (follows : f.FollowsTable start (some g)) : P g.name ↔ P f.name := by
  obtain ⟨same, -⟩ | ⟨entry, listed, new, given, before, after, -⟩ := follows.names
  · rw [same]
  · obtain ⟨old, renamed⟩ := spared entry listed
    rw [before, after]
    exact iff_of_false (renamed new given) old

/-- New names are plain names of the interface. -/
theorem PlainlyNamed.followsTable (named : f.PlainlyNamed) (follows : f.FollowsTable "gl" (some g)) : g.PlainlyNamed := by
  obtain ⟨same, short⟩ | ⟨entry, listed, new, given, -, same, short⟩ := follows.names
  · exact ⟨same ▸ named.ours, same ▸ named.plain, same ▸ short ▸ named.short⟩
  · have each : ∀ entry ∈ changes, ∀ new ∈ entry.2.newName?, (Text.afterPrefix? "gl".toList new.toList).isSome = true ∧
        new.toList.all Text.isPlain = true ∧ (shortName? new "gl").isSome = true := by decide
    obtain ⟨ours, plain, some_short⟩ := each entry listed new given
    obtain ⟨own, found⟩ := Option.isSome_iff_exists.mp some_short
    rw [found, Option.getD_some] at short
    exact ⟨same ▸ ours, same ▸ plain, by rw [same, short, found]⟩

end Function

/-! ## Names in a header -/

namespace Header

/-- Lines in ASCII. -/
def isAscii (lines : List String) : Bool :=
  lines.all fun line => line.toList.all fun c => c.toNat < 128

theorem isAscii_iff {lines : List String} :
    isAscii lines = true ↔ ∀ line ∈ lines, ∀ c ∈ line.toList, c.toNat < 128 := by
  simp only [isAscii, List.all_eq_true, decide_eq_true_eq]

end Header

namespace Header.Extraction

variable {start : String} {lines : List String}

/-- Every function of a header has the short name of its name. -/
theorem shortName_ofLines (start : String) (lines : List String) :
    ∀ entry ∈ (ofLines (.empty start) lines).state.registry.functions,
      shortName? entry.2.name start = some entry.2.shortName := by
  have kept : ∀ r r' : Registry, r.Grows r' →
      (r.start = start ∧ ∀ entry ∈ r.functions, shortName? entry.2.name start = some entry.2.shortName) →
      r'.start = start ∧ ∀ entry ∈ r'.functions, shortName? entry.2.name start = some entry.2.shortName := by
    rintro r r' grows ⟨started, named⟩
    refine ⟨grows.start.trans started, ?_⟩
    cases grows with
    | function added =>
      obtain ⟨short, type, -, -, -, own, rfl, rfl⟩ := Registry.addFunction_declared added
      intro entry member
      rcases List.mem_append.mp member with before | last
      · exact named entry before
      · rw [List.mem_singleton.mp last, ← started]
        exact own
    | beside defines types => exact named
  exact (keeps_ofLines kept ⟨rfl, fun _ member => absurd member List.not_mem_nil⟩ lines).2

/-- Every function of a header in ASCII has a plain name. -/
theorem plainlyNamed_ofLines (ascii : ∀ line ∈ lines, ∀ c ∈ line.toList, c.toNat < 128)
    (returns : (ofLines (.empty "gl") lines).answer = .ok ()) :
    ∀ entry ∈ (ofLines (.empty "gl") lines).state.registry.functions, entry.2.PlainlyNamed := by
  intro entry member
  have short := shortName_ofLines "gl" lines entry member
  obtain ⟨line, listed, within, word⟩ := word_of_function returns entry member
  rw [state_eq_upTo returns] at member
  obtain ⟨rest, whole⟩ := (sound_upTo returns (Nat.le_refl _)).ours entry member
  refine ⟨?_, List.all_eq_true.mpr fun c among => ?_, short⟩
  · rw [← whole, afterPrefix?_append]
    rfl
  · exact Text.isPlain_of_isWord (ascii line listed c (within among)) (word c among)

end Header.Extraction

namespace Build

variable {log : Log} {start : String} {lines : List String}
  {description : Option (Except Markup.DocumentError Markup.Element)} {r : Registry}

/-- Every function of a registry that is read from a header in ASCII has a plain name, whatever the description says. -/
theorem plainlyNamed_readRegistry (ascii : ∀ line ∈ lines, ∀ c ∈ line.toList, c.toNat < 128)
    (parsed : (readRegistry log "gl" lines description).answer = .ok r) : ∀ entry ∈ r.functions, entry.2.PlainlyNamed := by
  have declared := Header.Extraction.plainlyNamed_ofLines ascii (returns_of_readRegistry parsed)
  have kept : Registry.KeptByTyping fun r => ∀ entry ∈ r.functions, entry.2.PlainlyNamed := by
    refine ⟨fun _ _ named => named, fun r place change named entry member => ?_⟩
    obtain ⟨before, listed, rfl | rfl⟩ := Registry.mem_modifyAt member
    · exact named _ listed
    · exact ⟨(named before listed).ours, (named before listed).plain, (named before listed).short⟩
  rcases readRegistry_ok parsed with rfl | ⟨root, -, rfl⟩
  · exact declared
  · exact Refinement.keeps_ofRoot kept declared root

end Build

/-! ## Enumerators -/

namespace Emitter

variable {e : Emitter}

/-- The names of the enumerators: the short names of the functions, and the name of their number. -/
def enumerated (e : Emitter) : List String :=
  e.functions.map Function.shortName ++ ["Count"]

variable {log log' : Log} {space : String} {lines : List String}
  {description : Option (Except Markup.DocumentError Markup.Element)} {r : Registry}

/-- What is true of no name in the table is true of a function of an emitter exactly if it was before the overrides. -/
theorem exists_name_iff {P : String → Prop} (spared : ∀ entry ∈ changes, ¬ P entry.1 ∧ ∀ new ∈ entry.2.newName?, ¬ P new)
    (filed : r.Filed) (built : (Build.emitter log r builtIns space).answer = .ok e) :
    (∃ g ∈ e.functions, P g.name) ↔ ∃ key ∈ Keyed.keys r.functions, P key := by
  constructor
  · rintro ⟨g, member, holds⟩
    obtain ⟨f, listed, follows⟩ := followed_of_emitter (.refl builtIns) filed built member
    obtain ⟨entry, among, rfl⟩ := List.mem_map.mp listed
    have key : entry.2.name ∈ Keyed.keys r.functions := List.mem_map.mpr ⟨entry, among, filed.named entry among⟩
    exact ⟨entry.2.name, key, (follows.name_iff spared).mp holds⟩
  · rintro ⟨key, member, holds⟩
    obtain ⟨⟨_, f⟩, listed, rfl⟩ := List.mem_map.mp member
    obtain ⟨k, stands⟩ := List.mem_iff_getElem?.mp listed
    obtain ⟨g, follows, now, -⟩ := followsTable_of_emitter (.refl builtIns) filed built stands
    obtain rfl := filed.name_eq stands
    exact ⟨g, List.mem_of_getElem? now, (follows.name_iff spared).mpr holds⟩

/-- Functions of an emitter that is built from a header in ASCII have plain names. -/
theorem plainlyNamed_of_emitter (ascii : ∀ line ∈ lines, ∀ c ∈ line.toList, c.toNat < 128)
    (parsed : (Build.readRegistry log "gl" lines description).answer = .ok r)
    (built : (Build.emitter log' r builtIns space).answer = .ok e) : ∀ g ∈ e.functions, g.PlainlyNamed := by
  intro g member
  obtain ⟨f, listed, follows⟩ := followed_of_emitter (.refl builtIns) (Build.filed_readRegistry parsed) built member
  obtain ⟨entry, among, rfl⟩ := List.mem_map.mp listed
  exact (Build.plainlyNamed_readRegistry ascii parsed entry among).followsTable (Build.start_readRegistry parsed ▸ follows)

section PlainlyNamed

variable (named : ∀ g ∈ e.functions, g.PlainlyNamed)
include named

theorem plain_enumerated : ∀ name ∈ e.enumerated, name ≠ "" ∧ name.toList.all Text.isPlain = true := by
  intro name member
  rcases List.mem_append.mp member with short | last
  · obtain ⟨g, listed, rfl⟩ := List.mem_map.mp short
    exact (named g listed).plain_shortName
  · rw [List.mem_singleton.mp last]
    decide

/-- Distinct short names leave only a clash with the name behind them. -/
theorem nodup_enumerated_iff (distinct : (e.functions.map Function.shortName).Nodup) :
    e.enumerated.Nodup ↔ ¬ ∃ g ∈ e.functions, g.name = "glCount" ∨ g.name = "glcount" := by
  have taken : "Count" ∈ e.functions.map Function.shortName ↔ ∃ g ∈ e.functions, g.name = "glCount" ∨ g.name = "glcount" := by
    rw [List.mem_map]
    exact exists_congr fun g => and_congr_right fun member => (named g member).shortName_eq_count
  rw [← taken, enumerated, List.nodup_append, and_iff_right distinct, and_iff_right (List.nodup_singleton _)]
  constructor
  · exact fun apart member => apart _ member _ List.mem_cons_self rfl
  · rintro free short member last count rfl
    exact free (List.mem_singleton.mp count ▸ member)

theorem identifiers_enumerated_iff : (∀ name ∈ e.enumerated, Text.isPlainIdentifier name = true) ↔
    ¬ ∃ g ∈ e.functions, digitFollows g.name = true := by
  constructor
  · rintro each ⟨g, listed, digit⟩
    have identifier := each g.shortName (List.mem_append_left _ (List.mem_map_of_mem listed))
    rw [(named g listed).isIdentifier_shortName, digit] at identifier
    cases identifier
  · intro none name member
    rcases List.mem_append.mp member with short | last
    · obtain ⟨g, listed, rfl⟩ := List.mem_map.mp short
      rw [(named g listed).isIdentifier_shortName, Bool.not_eq_true']
      exact Bool.eq_false_iff.mpr fun digit => none ⟨g, listed, digit⟩
    · rw [List.mem_singleton.mp last]
      decide

end PlainlyNamed

/-- **The enumerators of a header.** For every header in ASCII, whatever its description says: the enumerators of the command
ids are the short names of the functions and `Count` behind them. The short names are distinct, and made of letters, digits
and low lines. The enumerators are distinct unless the header has a function `glCount` or `glcount`, and they are identifiers
unless it has a function with a digit behind the prefix. -/
theorem enumerators_usable_iff (ascii : ∀ line ∈ lines, ∀ c ∈ line.toList, c.toNat < 128)
    (parsed : (Build.readRegistry log "gl" lines description).answer = .ok r)
    (built : (Build.emitter log' r builtIns space).answer = .ok e) :
    (∃ emitted, Artifact.commandIds.lines e = .ok emitted ∧
      Lists emitted 12 e.functions (fun f => "            " ++ f.shortName ++ ",") "            Count") ∧
    (e.functions.map Function.shortName).Nodup ∧
    (∀ name ∈ e.enumerated, name ≠ "" ∧ name.toList.all Text.isPlain = true) ∧
    (e.enumerated.Nodup ↔ "glCount" ∉ Keyed.keys r.functions ∧ "glcount" ∉ Keyed.keys r.functions) ∧
    ((∀ name ∈ e.enumerated, Text.isPlainIdentifier name = true) ↔
      ∀ name ∈ Keyed.keys r.functions, digitFollows name = false) := by
  have filed := Build.filed_readRegistry parsed
  have distinct := e.nodup_shortName
  have named := plainlyNamed_of_emitter ascii parsed built
  have counts := exists_name_iff (P := fun name => name = "glCount" ∨ name = "glcount") (by decide) filed built
  have digits := exists_name_iff (P := fun name => digitFollows name = true) (by decide) filed built
  refine ⟨⟨_, rfl, lists_commandIdLines⟩, distinct, plain_enumerated named, ?_, ?_⟩
  · rw [nodup_enumerated_iff named distinct, counts]
    constructor
    · exact fun free => ⟨fun key => free ⟨_, key, .inl rfl⟩, fun key => free ⟨_, key, .inr rfl⟩⟩
    · rintro ⟨capital, small⟩ ⟨key, listed, rfl | rfl⟩
      · exact capital listed
      · exact small listed
  · rw [identifiers_enumerated_iff named, digits]
    simp only [not_exists, not_and, Bool.not_eq_true]

end Emitter

namespace AttachHeader

/-- The enumerators of making a buffer and of attaching a shader are distinct identifiers. -/
theorem enumerators_usable : ∃ e, (∀ line ∈ lines, ∀ c ∈ line.toList, c.toNat < 128) ∧
    (Build.readRegistry [] "gl" lines none).answer = .ok registry ∧
    (Build.emitter [] registry builtIns "gl").answer = .ok e ∧
    e.enumerated.Nodup ∧ ∀ name ∈ e.enumerated, Text.isPlainIdentifier name = true := by
  obtain ⟨e, built⟩ := exists_emitter
  have ascii : ∀ line ∈ lines, ∀ c ∈ line.toList, c.toNat < 128 := Header.isAscii_iff.mp (by decide)
  obtain ⟨-, -, -, apart, identifiers⟩ := Emitter.enumerators_usable_iff ascii parsed built
  exact ⟨e, ascii, parsed, built, apart.mpr (by decide), identifiers.mpr (by decide)⟩

end AttachHeader

/-! ## Enumerators that clash -/

namespace CountHeader

/-- A header with a function that has the name of the number of ids, and one whose name goes on with a digit. -/
def lines : List String :=
  ["typedef void (APIENTRYP PFNGLCOUNTPROC)(void);",
   "GLAPI PFNGLCOUNTPROC glad_glCount;",
   "GLAPI PFNGLCOUNTPROC glad_gl2DImage;"]

def type : FunctionType := ⟨"PFNGLCOUNTPROC", "void", false, []⟩

def registry : Registry where
  start := "gl"
  defines := []
  types := [("PFNGLCOUNTPROC", type)]
  functions :=
    [("glCount", ⟨"glCount", "Count", "public", type⟩), ("gl2DImage", ⟨"gl2DImage", "2DImage", "public", type⟩)]
  enums := []
  frozen := true
  shortNames := [("Count", "glCount"), ("2DImage", "gl2DImage")]

theorem parsed : (Build.readRegistry [] "gl" lines none).answer = .ok registry := by
  have read : (Build.readRegistry [] "gl" lines none).answer.toOption = some registry := by decide +kernel
  exact ok_of_toOption read

/-- The overrides leave both functions as they are, and an emitter is made of them. -/
theorem exists_emitter : ∃ e, (Build.emitter [] registry builtIns "gl").answer = .ok e ∧
    e.enumerated = ["Count", "2DImage", "Count"] := by
  have applied : ((trackerOf builtIns registry).apply registry).answer = .ok () := by decide
  have functions : ((trackerOf builtIns registry).apply registry).state.2.functions = registry.functions := by decide
  have two : ((trackerOf builtIns registry).apply registry).state.2.functions.length = 2 := congrArg List.length functions
  obtain ⟨e, built⟩ : ∃ e, (Build.emitter [] registry builtIns "gl").answer = .ok e :=
    ⟨_, emitter_of_applied plain_builtIns applied (by rw [two]; rfl) [] "gl"⟩
  obtain ⟨-, -, same, -⟩ := emitter_ok plain_builtIns built
  refine ⟨e, built, ?_⟩
  rw [Emitter.enumerated, Emitter.functions, same, functions]
  rfl

/-- The header is taken, with two enumerators of one name and one that begins with a digit. -/
theorem enumerators_unusable : ∃ e, (∀ line ∈ lines, ∀ c ∈ line.toList, c.toNat < 128) ∧
    (Build.readRegistry [] "gl" lines none).answer = .ok registry ∧
    (Build.emitter [] registry builtIns "gl").answer = .ok e ∧
    ¬ e.enumerated.Nodup ∧ ∃ name ∈ e.enumerated, Text.isPlainIdentifier name = false := by
  obtain ⟨e, built, names⟩ := exists_emitter
  refine ⟨e, Header.isAscii_iff.mp (by decide), parsed, built, ?_⟩
  rw [names]
  exact ⟨by decide, "2DImage", by decide, by decide⟩

end CountHeader

end CommandStream
