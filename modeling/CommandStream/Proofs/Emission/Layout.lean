import CommandStream.Proofs.Emission.Printed

/-!
# One layout for producer and consumer

With the built-in overrides, the producer of a command prints statements that write values under the same types as the
consumer's statements read, in the same order: those of the arguments, and behind them the handle type of the kind of which the
command makes an object. A queue sends a command just so.
-/

namespace CommandStream
open OverrideModule

/-- A text writes a value under a type. -/
def Writes (text type : String) : Prop :=
  ∃ value, Text.isIdentifier value = true ∧ text = "m_Buffer.write<" ++ type ++ ">(" ++ value ++ ");"

/-- A text reads a local under a type, which is also the type of the local, unless that is left open. -/
def Reads (text type : String) : Prop :=
  ∃ declared name, (declared = type ∨ declared = "auto" ∧ ' ' ∉ type.toList) ∧ Text.isIdentifier name = true ∧
    text = declared ++ " " ++ name ++ " = m_Buffer.read<" ++ type ++ ">();"

/-- Whether a text mentions the writing of a value and is no line of the preprocessor. -/
def mentionsWrite (text : String) : Bool :=
  !beginsWith text "#" && mentions "m_Buffer.write<" text

/-- The texts that mention the writing of a value write values under these types, in this order. -/
def WritesTypes (texts types : List String) : Prop :=
  List.Forall₂ Writes (texts.filter mentionsWrite) types

/-- The texts that mention the reading of a value read locals under these types, in this order. -/
def ReadsTypes (texts types : List String) : Prop :=
  List.Forall₂ Reads (texts.filter (mentions "m_Buffer.read<")) types

/-- The types of what travels for a function that makes an object of a kind, or none. -/
def Function.layout (f : Function) (made : Option ResourceKind) : List String :=
  f.type.arguments.map Argument.type ++ (made.map ResourceKind.handleType).toList

/-! ## Types in a text -/

/-- A text writes under one type: behind the last parenthesis that opens stands the value. -/
theorem Writes.unique {text type other : String} (writes : Writes text type) (writes' : Writes text other) : type = other := by
  obtain ⟨value, identifier, rfl⟩ := writes
  obtain ⟨value', identifier', same⟩ := writes'
  -- the type may have parentheses, but the value has none, so both texts are read from their ends
  have none_ := List.count_eq_zero.mpr (Text.mark_notMem identifier (c := '(') (by decide))
  have none_' := List.count_eq_zero.mpr (Text.mark_notMem identifier' (c := '(') (by decide))
  have reversed := congrArg (List.reverse ∘ String.toList) same
  simp only [Function.comp_apply, String.toList_append, show ">(".toList = ['>', '('] from rfl, List.reverse_append,
    List.reverse_cons, List.nil_append, List.append_assoc, List.cons_append] at reversed
  rw [← List.append_assoc, ← List.append_assoc] at reversed
  have counts : (");".toList.reverse ++ value.toList.reverse).count '(' =
      (");".toList.reverse ++ value'.toList.reverse).count '(' := by
    simp only [List.count_append, List.count_reverse, none_, none_']
  obtain ⟨-, behind⟩ := eq_of_count reversed counts
  exact String.toList_inj.mp (List.reverse_inj.mp (List.append_cancel_right ((List.cons_inj_right _).mp behind)))

/-- A text reads under one type: the blanks of its types are half of those that are not fixed. -/
theorem Reads.unique {text type other : String} (reads : Reads text type) (reads' : Reads text other) : type = other := by
  obtain ⟨declared, name, typed, identifier, rfl⟩ := reads
  obtain ⟨declared', name', typed', identifier', same⟩ := reads'
  -- a type brings its blanks twice, once for the local, so both locals have equally many in their types
  have none_ := List.count_eq_zero.mpr (Text.mark_notMem identifier (c := ' ') (by decide))
  have none_' := List.count_eq_zero.mpr (Text.mark_notMem identifier' (c := ' ') (by decide))
  have letters := congrArg String.toList same
  simp only [String.toList_append, show " ".toList = [' '] from rfl, List.append_assoc, List.cons_append, List.nil_append,
    show " = m_Buffer.read<".toList = ' ' :: "= m_Buffer.read<".toList from rfl] at letters
  have blanks : ∀ {declared type : String}, (declared = type ∨ declared = "auto" ∧ ' ' ∉ type.toList) →
      declared.toList.count ' ' = type.toList.count ' ' := by
    rintro declared type (rfl | ⟨rfl, without⟩)
    · rfl
    · rw [List.count_eq_zero.mpr without]
      decide
  have counts : declared.toList.count ' ' = declared'.toList.count ' ' := by
    have total := congrArg (List.count ' ') letters
    simp only [List.count_append, List.count_cons, none_, none_'] at total
    have own := blanks typed
    have own' := blanks typed'
    omega
  obtain ⟨-, named⟩ := eq_of_count letters counts
  obtain ⟨-, behind⟩ := eq_of_count named (none_.trans none_'.symm)
  exact String.toList_inj.mp (List.append_cancel_right (List.append_cancel_left behind))

theorem WritesTypes.append {texts others types behind : List String} (first : WritesTypes texts types)
    (last : WritesTypes others behind) : WritesTypes (texts ++ others) (types ++ behind) := by
  rw [WritesTypes, List.filter_append]
  exact List.rel_append first last

theorem ReadsTypes.append {texts others types behind : List String} (first : ReadsTypes texts types)
    (last : ReadsTypes others behind) : ReadsTypes (texts ++ others) (types ++ behind) := by
  rw [ReadsTypes, List.filter_append]
  exact List.rel_append first last

/-- Texts write under one list of types. -/
theorem WritesTypes.eq_iff {texts types : List String} (writes : WritesTypes texts types) (others : List String) :
    WritesTypes texts others ↔ others = types := by
  constructor
  · exact fun writes' => List.right_unique_forall₂' (R := Writes) (fun _ _ _ first last => first.unique last) writes' writes
  · rintro rfl
    exact writes

/-- Texts read under one list of types. -/
theorem ReadsTypes.eq_iff {texts types : List String} (reads : ReadsTypes texts types) (others : List String) :
    ReadsTypes texts others ↔ others = types := by
  constructor
  · exact fun reads' => List.right_unique_forall₂' (R := Reads) (fun _ _ _ first last => first.unique last) reads' reads
  · rintro rfl
    exact reads

namespace Emitter

variable {e : Emitter} {f : Function}

/-! ## What is written -/

theorem mentionsWrite_of_write (behind : String) : mentionsWrite ("m_Buffer.write<" ++ behind) = true := by
  have tells : Tells "m_Buffer.write<" "#" false := ⟨by decide, by decide⟩
  have mentioned := mentions_of_append "" "m_Buffer.write<" behind
  rw [String.empty_append] at mentioned
  rw [mentionsWrite, (tells.append behind).begins, mentioned]
  rfl

theorem mentionsWrite_of_lacking {text : String} (lacking : '<' ∉ text.toList) : ¬ mentionsWrite text = true := by
  rw [mentionsWrite, mentions_of_lacking (c := '<') (by decide) lacking, Bool.and_false]
  decide

/-- Behind the arguments, only the handle of an object that is made is written. -/
theorem writes_resultTexts {made : Option ResourceKind} (plain : ∀ kind ∈ made, '<' ∉ kind.tableName.toList) :
    WritesTypes (f.resultTexts made) (made.map ResourceKind.handleType).toList := by
  cases made with
  | none =>
    rw [WritesTypes, List.filter_eq_nil_iff.mpr]
    · exact .nil
    · intro text member
      rw [Function.resultTexts] at member
      split at member
      · cases member
      · have error : Tells "#error \"" "#" true := ⟨by decide, by decide⟩
        simp only [List.mem_cons, List.not_mem_nil, or_false] at member
        rcases member with rfl | rfl | rfl | rfl
        · decide
        · simp only [String.append_assoc, mentionsWrite, (error.append _).begins]
          exact Bool.false_ne_true
        · decide
        · decide
  | some kind =>
    have create : '<' ∉ ("auto handle = m_Resources." ++ kind.tableName ++ ".create(0);").toList := by
      simp only [String.toList_append, List.mem_append, not_or]
      exact ⟨⟨by decide, plain kind rfl⟩, by decide⟩
    have write := mentionsWrite_of_write (kind.handleType ++ ">(handle);")
    rw [← String.append_assoc] at write
    rw [WritesTypes, Function.resultTexts, List.filter_cons_of_neg (mentionsWrite_of_lacking create),
      List.filter_cons_of_pos write, List.filter_cons_of_neg (by decide)]
    have closed : ">(" ++ ("handle" ++ ");") = ">(handle);" := by decide
    exact .cons ⟨"handle", Text.isIdentifier_handle.1, by simp only [← closed, String.append_assoc]⟩ .nil

/-- Behind its id, a producer writes its layout. -/
theorem writes_producerTexts (named : ∀ a ∈ f.type.arguments, Text.isIdentifier a.name = true) {made : Option ResourceKind}
    (plain : ∀ kind ∈ made, '<' ∉ kind.tableName.toList) : WritesTypes (f.producerTexts made).tail (f.layout made) := by
  have arguments : WritesTypes (f.type.arguments.map fun a => "m_Buffer.write<" ++ a.type ++ ">(" ++ a.name ++ ");")
      (f.type.arguments.map Argument.type) := by
    rw [WritesTypes, List.filter_eq_self.mpr, List.forall₂_map_left_iff, List.forall₂_map_right_iff, List.forall₂_same]
    · exact fun a member => ⟨a.name, named a member, rfl⟩
    · intro text member
      obtain ⟨a, -, rfl⟩ := List.mem_map.mp member
      simp only [String.append_assoc]
      exact mentionsWrite_of_write _
  exact arguments.append (writes_resultTexts plain)

/-! ## What is read -/

/-- Texts without one of these characters read nothing. -/
theorem reads_nothing {texts : List String} (lacking : ∀ text ∈ texts, '<' ∉ text.toList ∨ '.' ∉ text.toList) :
    ReadsTypes texts [] := by
  rw [ReadsTypes, List.filter_eq_nil_iff.mpr]
  · exact .nil
  · intro text member
    rcases lacking text member with angle | dot
    · rw [mentions_of_lacking (c := '<') (by decide) angle]
      exact Bool.false_ne_true
    · rw [mentions_of_lacking (c := '.') (by decide) dot]
      exact Bool.false_ne_true

/-- A text that reads a local reads its type. -/
theorem reads_single {text type : String} (reads : Reads text type) : ReadsTypes [text] [type] := by
  have mentioned : mentions "m_Buffer.read<" text = true := by
    obtain ⟨declared, name, -, -, rfl⟩ := reads
    have around := mentions_of_append (declared ++ " " ++ name ++ " = ") "m_Buffer.read<" (type ++ ">();")
    have buffer : " = " ++ "m_Buffer.read<" = " = m_Buffer.read<" := by decide
    simpa only [← buffer, String.append_assoc] using around
  rw [ReadsTypes, List.filter_cons_of_pos mentioned]
  exact .cons reads .nil

/-- Kinds whose names have no angle bracket, and whose handle types have no blank. -/
structure PlainKind (kind : ResourceKind) : Prop where
  native : '<' ∉ kind.nativeType.toList
  table : '<' ∉ kind.tableName.toList
  handle : ' ' ∉ kind.handleType.toList

theorem reads_handle {kind : ResourceKind} (plain : PlainKind kind) :
    Reads ("auto handle = m_Buffer.read<" ++ kind.handleType ++ ">();") kind.handleType := by
  have fixed : "auto" ++ (" " ++ ("handle" ++ " = m_Buffer.read<")) = "auto handle = m_Buffer.read<" := by decide
  exact ⟨"auto", "handle", .inr ⟨rfl, plain.handle⟩, Text.isIdentifier_handle.1,
    by simp only [← fixed, String.append_assoc]⟩

/-- An argument is read under its type. -/
theorem reads_argumentTexts (plain : ∀ kind ∈ e.overrides.kinds, PlainKind kind) {a : Argument}
    (named : Text.isIdentifier a.name = true) : ReadsTypes (e.argumentTexts a) [a.type] := by
  unfold argumentTexts
  split
  · exact reads_single ⟨a.type, a.name, .inl rfl, named, rfl⟩
  · rename_i kind found
    have own : kind.handleType = a.type := by simpa using List.find?_some found
    have spelled := plain kind (List.mem_of_find?_eq_some found)
    have handle : Reads (kind.handleType ++ " " ++ a.name ++ "Handle = m_Buffer.read<" ++ kind.handleType ++ ">();") a.type := by
      have buffer : "Handle" ++ " = m_Buffer.read<" = "Handle = m_Buffer.read<" := by decide
      refine ⟨a.type, a.name ++ "Handle", .inl rfl, Text.isIdentifier_append named Text.isIdentifier_handle.2, ?_⟩
      simp only [own, ← buffer, String.append_assoc]
    have letters := Text.mark_notMem named (c := '<') (by decide)
    refine (reads_single handle).append (reads_nothing fun text member => .inl ?_)
    rw [List.mem_singleton.mp member]
    simp only [String.toList_append, List.mem_append, not_or]
    refine ⟨⟨⟨⟨⟨⟨⟨spelled.native, ?_⟩, letters⟩, ?_⟩, spelled.table⟩, ?_⟩, letters⟩, ?_⟩
    all_goals decide

theorem reads_arguments (plain : ∀ kind ∈ e.overrides.kinds, PlainKind kind) {arguments : List Argument}
    (named : ∀ a ∈ arguments, Text.isIdentifier a.name = true) :
    ReadsTypes (arguments.flatMap e.argumentTexts) (arguments.map Argument.type) := by
  induction arguments with
  | nil => exact .nil
  | cons a rest ih =>
    rw [List.flatMap_cons, List.map_cons, ← List.singleton_append]
    exact (reads_argumentTexts plain (named a List.mem_cons_self)).append
      (ih fun other member => named other (List.mem_cons_of_mem _ member))

/-- A checked call reads nothing. -/
theorem dot_notMem_call {result function call : String} (native : PrintedCall result function call)
    (kept : '.' ∉ result.toList) (word : '.' ∉ function.toList) : '.' ∉ call.toList := by
  obtain ⟨arguments, undotted, rfl⟩ := native
  simp only [String.toList_append, List.mem_append, not_or]
  refine ⟨⟨⟨⟨⟨?_, kept⟩, word⟩, ?_⟩, undotted⟩, ?_⟩
  all_goals decide

theorem angle_notMem_table {table behind : String} (plain : '<' ∉ table.toList) (fixed : '<' ∉ behind.toList) :
    '<' ∉ ("m_Resources." ++ table ++ behind).toList := by
  simp only [String.toList_append, List.mem_append, not_or]
  exact ⟨⟨by decide, plain⟩, fixed⟩

/-- A call between lines that read nothing reads nothing. -/
theorem reads_around_call {first call last : String} (before : '<' ∉ first.toList) (checked : '.' ∉ call.toList)
    (after : '<' ∉ last.toList) : ReadsTypes [first, call, last] [] := by
  refine reads_nothing fun text member => ?_
  simp only [List.mem_cons, List.not_mem_nil, or_false] at member
  rcases member with rfl | rfl | rfl
  · exact .inl before
  · exact .inr checked
  · exact .inl after

/-- A consumer reads its layout. -/
theorem reads_consumerTexts (plain : ∀ kind ∈ e.overrides.kinds, PlainKind kind)
    (named : ∀ a ∈ f.type.arguments, Text.isIdentifier a.name = true) {function : String} (word : '.' ∉ function.toList)
    {made deleted : Option ResourceKind} (known : ∀ kind ∈ made.toList ++ deleted.toList, kind ∈ e.overrides.kinds) {texts : List String}
    (consumer : e.ConsumerTexts f function made deleted texts) : ReadsTypes texts (f.layout made) := by
  have arguments := reads_arguments plain named
  cases consumer with
  | @calls call native =>
    refine arguments.append (reads_nothing fun text member => .inr ?_)
    rw [List.mem_singleton.mp member]
    exact dot_notMem_call native (by decide) word
  | @makes kind result call kept native =>
    have spelled := plain kind (known kind List.mem_cons_self)
    have object : '<' ∉ (kind.nativeType ++ " object = 0;").toList := by
      simp only [String.toList_append, List.mem_append, not_or]
      exact ⟨spelled.native, by decide⟩
    have checked := dot_notMem_call native (by rcases kept with rfl | rfl <;> decide) word
    have stored : '<' ∉ ".set(handle, object);".toList := by decide
    have behind := reads_around_call object checked (angle_notMem_table spelled.table stored)
    exact arguments.append ((reads_single (reads_handle spelled)).append behind)
  | @deletes kind argument call native lone =>
    have spelled := plain kind (known kind List.mem_cons_self)
    have object : '<' ∉ (kind.nativeType ++ " object = m_Resources." ++ kind.tableName ++ ".get(handle);").toList := by
      simp only [String.toList_append, List.mem_append, not_or]
      exact ⟨⟨⟨spelled.native, by decide⟩, spelled.table⟩, by decide⟩
    have released : '<' ∉ ".destroy(handle);".toList := by decide
    have behind := reads_around_call object (dot_notMem_call native (by decide) word) (angle_notMem_table spelled.table released)
    rw [Function.layout, lone]
    exact (reads_single (reads_handle spelled)).append behind

/-! ## The layout -/

/-- What travels for a command is the layout of its function. -/
theorem layout_of_command {id : Nat} {rules : List Rule} {enumTypes : List String} {c : Command}
    (built : Command.ofFunction id f rules enumTypes = .ok c) :
    c.arguments.map WireArgument.cType ++ (c.creates.map ResourceKind.handleType).toList =
      f.layout (Command.lastKind Rule.creates? rules) := by
  obtain ⟨arguments, types, built⟩ := bind_ok built
  cases built
  have same : arguments.map WireArgument.cType = f.type.arguments.map Argument.type := by
    refine map_of_mapM_ok ?_ types
    intro a x built
    obtain ⟨type, -, built⟩ := bind_ok built
    cases built
    rfl
  rw [Function.layout, same]

variable {log log' : Log} {start space : String} {lines : List String}
  {description : Option (Except Markup.DocumentError Markup.Element)} {r : Registry}

theorem plainKind_of_emitter (filed : r.Filed) (built : (Build.emitter log r builtIns space).answer = .ok e) :
    ∀ kind ∈ e.overrides.kinds, PlainKind kind := by
  have each : ∀ kind ∈ kindsOf builtIns,
      '<' ∉ kind.nativeType.toList ∧ '<' ∉ kind.tableName.toList ∧ ' ' ∉ kind.handleType.toList := by decide
  rw [(kinds_of_order (.refl builtIns) filed built).1]
  exact fun kind listed => ⟨(each kind listed).1, (each kind listed).2.1, (each kind listed).2.2⟩

/-- **Producer, consumer and queue agree on what travels.** For every function of an emitter that is built from sources with the
built-in overrides, the producer prints the id of its command, and behind it statements that write values under just the types,
in the same order, under which the statements of the consumer read locals. Where there is a queue, its command for the function
sends just these: its arguments, and behind them the handle of the object that it makes. -/
theorem wire_layout_agrees (parsed : (Build.readRegistry log start lines description).answer = .ok r)
    (built : (Build.emitter log' r builtIns space).answer = .ok e) {k : Nat} (stands : e.functions[k]? = some f) :
    ∃ writes reads types, e.writeStatements f = .ok writes ∧ e.readStatements f = .ok reads ∧
      (writes.map Statement.text).head? = some ("write_command(CommandId::" ++ f.shortName ++ ");") ∧
      (∀ others, WritesTypes (writes.map Statement.text).tail others ↔ others = types) ∧
      (∀ others, ReadsTypes (reads.map Statement.text) others ↔ others = types) ∧
      ∀ native q, CommandQueue.ofEmitter e native = .ok q → ∃ c, q.commands[k]? = some c ∧ c.shortName = f.shortName ∧
        types = c.arguments.map WireArgument.cType ++ (c.creates.map ResourceKind.handleType).toList := by
  have filed := Build.filed_readRegistry parsed
  have plain := plainKind_of_emitter filed built
  have named := (argumentNames_of_emitter built (List.mem_of_getElem? stands)).2
  obtain ⟨key, original, writes, reads, before, own, written, read, prints⟩ := prints_of_emitter built filed stands
  have word : '.' ∉ key.toList := fun dot => by
    have letter := Build.word_of_readRegistry parsed _ (List.mem_of_getElem? before) '.' (own ▸ dot)
    rw [(Text.foreign_of_mark (c := '.') (by decide)).2] at letter
    cases letter
  refine ⟨writes, reads, f.layout (Command.lastKind Rule.creates? (e.overrides.rulesOf f.name)), written, read, ?_, ?_, ?_, ?_⟩
  · rw [prints.producer]
    rfl
  · rw [prints.producer]
    refine (writes_producerTexts named fun kind made => (plain kind (prints.known kind ?_)).table).eq_iff
    exact List.mem_append_left _ (List.mem_append_left _ (Option.mem_toList.mpr made))
  · have known := fun kind member => prints.known kind (List.mem_append_left _ member)
    exact (reads_consumerTexts plain named word known prints.consumer).eq_iff
  · intro native q made
    obtain ⟨c, at_, command⟩ := command_of_function made stands
    refine ⟨c, at_, ?_, (layout_of_command command).symm⟩
    obtain ⟨arguments, -, command⟩ := bind_ok command
    cases command
    rfl

end Emitter

/-! ## A header -/

namespace TextureHeader

open OverrideModule

/-- A header with one function, which makes textures. -/
def lines : List String :=
  ["typedef void (APIENTRYP PFNGLCREATETEXTURESPROC)(GLenum target, GLsizei n, GLuint *textures);",
   "GLAPI PFNGLCREATETEXTURESPROC glad_glCreateTextures;"]

def createType : FunctionType :=
  ⟨"PFNGLCREATETEXTURESPROC", "void", false,
   [⟨"GLenum", "target", false⟩, ⟨"GLsizei", "n", false⟩, ⟨"GLuint *", "textures", false⟩]⟩

def registry : Registry where
  start := "gl"
  defines := []
  types := [("PFNGLCREATETEXTURESPROC", createType)]
  functions := [("glCreateTextures", ⟨"glCreateTextures", "CreateTextures", "public", createType⟩)]
  enums := []
  frozen := true
  shortNames := [("CreateTextures", "glCreateTextures")]

def emitter : Emitter where
  registry := ((trackerOf builtIns registry).apply registry).state.2
  overrides := ((trackerOf builtIns registry).apply registry).state.1
  space := "gl"
  idWidth := .byte
  unambiguous := by decide +kernel

/-- The function that makes a texture, with its target kept. -/
def createTexture : Function :=
  ⟨"glCreateTexture", "CreateTexture", "public",
   ⟨"PFNGLCREATETEXTURESPROC", "TextureHandle", false, [⟨"GLenum", "target", false⟩]⟩⟩

/-- The lines of the producer. -/
def producerTexts : List String :=
  ["write_command(CommandId::CreateTexture);", "m_Buffer.write<GLenum>(target);", "auto handle = m_Resources.Textures.create(0);",
   "m_Buffer.write<TextureHandle>(handle);", "return handle;"]

/-- The overrides apply, and this is what they come to. -/
theorem computed : ((trackerOf builtIns registry).apply registry).answer.toOption = some () ∧
    ((trackerOf builtIns registry).apply registry).state.2.functions.length = 1 ∧ emitter.functions[0]? = some createTexture ∧
    (emitter.writeStatements createTexture).toOption.map (List.map Statement.text) = some producerTexts ∧
    Text.isIdentifier "target" = true := by
  decide +kernel

/-- A texture's target and handle are written and read. -/
theorem target_and_handle_travel : (Build.readRegistry [] "gl" lines none).answer = .ok registry ∧
    (Build.emitter [] registry builtIns "gl").answer = .ok emitter ∧ emitter.functions[0]? = some createTexture ∧
    ∃ writes reads, emitter.writeStatements createTexture = .ok writes ∧ emitter.readStatements createTexture = .ok reads ∧
      writes.map Statement.text = producerTexts ∧
      WritesTypes (writes.map Statement.text).tail ["GLenum", "TextureHandle"] ∧
      ReadsTypes (reads.map Statement.text) ["GLenum", "TextureHandle"] := by
  have taken : (Build.readRegistry [] "gl" lines none).answer.toOption = some registry := by decide +kernel
  have parsed := ok_of_toOption taken
  obtain ⟨applied, one, stands, printed, target⟩ := computed
  have built : (Build.emitter [] registry builtIns "gl").answer = .ok emitter :=
    emitter_of_applied plain_builtIns (ok_of_toOption applied) (by rw [one]; rfl) [] "gl"
  obtain ⟨writes, reads, types, produced, consumed, -, written, read, -⟩ := Emitter.wire_layout_agrees parsed built stands
  have texts : writes.map Statement.text = producerTexts := by
    simp only [produced, Except.toOption, Option.map_some, Option.some.injEq] at printed
    exact printed
  have own : WritesTypes (writes.map Statement.text).tail ["GLenum", "TextureHandle"] := by
    rw [texts]
    exact .cons ⟨"target", target, rfl⟩ (.cons ⟨"handle", Text.isIdentifier_handle.1, rfl⟩ .nil)
  exact ⟨parsed, built, stands, writes, reads, produced, consumed, texts, own, (read _).mpr ((written _).mp own)⟩

end TextureHeader

end CommandStream
