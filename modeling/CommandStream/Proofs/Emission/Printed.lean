import CommandStream.Proofs.Emission.Interchange
import CommandStream.Proofs.Registry.Names

/-!
# Printed statements

The lines that the producer and the consumer of a command print with the built-in overrides, to the letter. A value travels
under the type of its argument. A handle goes to the table of the kind whose handle type it has: one that is read, by the type
with which it is read, and one that is made, by the type that its function returns.
-/

namespace CommandStream
open OverrideModule

/-- The lines of a producer behind its arguments: the handle of the object that it makes, or a result by default. -/
def Function.resultTexts (f : Function) : Option ResourceKind → List String
  | some kind =>
    ["auto handle = m_Resources." ++ kind.tableName ++ ".create(0);",
     "m_Buffer.write<" ++ kind.handleType ++ ">(handle);",
     "return handle;"]
  | none =>
    if f.type.returnType = "void" then []
    else
      ["#ifdef MULTIGL_STRICT_RETURNS",
       "#error \"" ++ f.name ++ " returns " ++ f.type.returnType ++ " but has no write override\"",
       "#endif",
       "return \x7b\x7d;"]

/-- The lines of a producer: the id of its command, the values of its arguments, and the result. -/
def Function.producerTexts (f : Function) (made : Option ResourceKind) : List String :=
  ("write_command(CommandId::" ++ f.shortName ++ ");") ::
    (f.type.arguments.map fun a => "m_Buffer.write<" ++ a.type ++ ">(" ++ a.name ++ ");") ++ f.resultTexts made

/-- The text of a checked call of a native function, whose result may go into a local. No argument has a dot. -/
def PrintedCall (result function text : String) : Prop :=
  ∃ arguments, '.' ∉ arguments.toList ∧ text = "MGL_CHECK(" ++ result ++ function ++ "(" ++ arguments ++ "));"

namespace Emitter

variable {e : Emitter} {f : Function}

/-- The kind of a handle type. -/
def kindOf? (e : Emitter) (type : String) : Option ResourceKind :=
  e.overrides.kinds.find? fun kind => kind.handleType == type

/-- The lines that read an argument; a handle is looked up in the table of its kind. -/
def argumentTexts (e : Emitter) (a : Argument) : List String :=
  match e.kindOf? a.type with
  | none => [a.type ++ " " ++ a.name ++ " = m_Buffer.read<" ++ a.type ++ ">();"]
  | some kind =>
    [kind.handleType ++ " " ++ a.name ++ "Handle = m_Buffer.read<" ++ kind.handleType ++ ">();",
     kind.nativeType ++ " " ++ a.name ++ " = m_Resources." ++ kind.tableName ++ ".get(" ++ a.name ++ "Handle);"]

/-- The lines of a consumer that calls a native function, with the kinds of the objects that it makes and deletes. -/
inductive ConsumerTexts (e : Emitter) (f : Function) (function : String) :
    Option ResourceKind → Option ResourceKind → List String → Prop
  | calls {call : String} (native : PrintedCall "" function call) :
      ConsumerTexts e f function none none (f.type.arguments.flatMap e.argumentTexts ++ [call])
  | makes {kind : ResourceKind} {result call : String} (kept : result = "" ∨ result = "object = ")
      (native : PrintedCall result function call) :
      ConsumerTexts e f function (some kind) none (f.type.arguments.flatMap e.argumentTexts ++
        ["auto handle = m_Buffer.read<" ++ kind.handleType ++ ">();",
         kind.nativeType ++ " object = 0;",
         call,
         "m_Resources." ++ kind.tableName ++ ".set(handle, object);"])
  /-- The handle that is read is the one argument of the function. -/
  | deletes {kind : ResourceKind} {argument call : String} (native : PrintedCall "" function call)
      (lone : f.type.arguments = [⟨kind.handleType, argument, false⟩]) :
      ConsumerTexts e f function none (some kind)
        ["auto handle = m_Buffer.read<" ++ kind.handleType ++ ">();",
         kind.nativeType ++ " object = m_Resources." ++ kind.tableName ++ ".get(handle);",
         call,
         "m_Resources." ++ kind.tableName ++ ".destroy(handle);"]

/-- What the two sides of a function print. All kinds to whose tables they go are kinds of the emitter, and where an object is
made, its handle is returned. -/
structure Prints (e : Emitter) (f : Function) (function : String) (made deleted : Option ResourceKind)
    (writes reads : List Statement) : Prop where
  producer : writes.map Statement.text = f.producerTexts made
  consumer : e.ConsumerTexts f function made deleted (reads.map Statement.text)
  returned : ∀ kind ∈ made, f.type.returnType = kind.handleType
  known : ∀ kind ∈ made.toList ++ deleted.toList ++ f.type.arguments.flatMap fun a => (e.kindOf? a.type).toList,
    kind ∈ e.overrides.kinds

/-! ## Single statements -/

theorem find?_transfersOf (kinds : List ResourceKind) (type : String) :
    Keyed.find? (transfersOf kinds) type = (kinds.find? fun kind => kind.handleType == type).map .handle := by
  induction kinds with
  | nil => rfl
  | cons kind rest ih =>
    by_cases same : kind.handleType = type
    · subst same
      simp [transfersOf, Keyed.find?]
    · have apart : (type == kind.handleType) = false := beq_eq_false_iff_ne.mpr fun h => same h.symm
      have other : (kind.handleType == type) = false := beq_eq_false_iff_ne.mpr same
      rw [List.find?_cons, other, ← ih]
      simp only [transfersOf, Keyed.find?, List.map_cons, List.lookup_cons, apart]

/-- A value is written under the type of its argument, also if that is a handle type. -/
theorem text_writesOf (writes : e.overrides.writes = transfersOf e.overrides.kinds) (f : Function) (a : Argument) :
    (e.writesOf f a).map Statement.text = ["m_Buffer.write<" ++ a.type ++ ">(" ++ a.name ++ ");"] := by
  unfold writesOf
  rw [writes, find?_transfersOf]
  cases found : e.overrides.kinds.find? fun kind => kind.handleType == a.type with
  | none => rfl
  | some kind =>
    have own : kind.handleType = a.type := by simpa using List.find?_some found
    rw [← own]
    rfl

theorem text_read (type name : String) :
    (Statement.read type name).text = type ++ " " ++ name ++ " = m_Buffer.read<" ++ type ++ ">();" := by
  have buffer : " = " ++ (bufferName ++ ".read<") = " = m_Buffer.read<" := by decide
  show type ++ " " ++ name ++ " = " ++ bufferName ++ ".read<" ++ type ++ ">();" = _
  simp only [← buffer, String.append_assoc]

theorem text_lookUp (type name handle : String) (kind : ResourceKind) :
    (Statement.lookUp type name (tableOf kind) handle).text =
      type ++ " " ++ name ++ " = m_Resources." ++ kind.tableName ++ ".get(" ++ handle ++ ");" := by
  have resources : " = " ++ (resourcesName ++ ".") = " = m_Resources." := by decide
  show type ++ " " ++ name ++ " = " ++ (resourcesName ++ "." ++ kind.tableName) ++ ".get(" ++ handle ++ ");" = _
  simp only [← resources, String.append_assoc]

/-- An argument is read under its type, and if that is a handle type, looked up in the table of the kind. -/
theorem readsOf_eq (reads : e.overrides.reads = transfersOf e.overrides.kinds) (f : Function) (a : Argument) :
    e.readsOf f a = match e.kindOf? a.type with
      | none => [.read a.type a.name]
      | some kind =>
        [.read kind.handleType (a.name ++ "Handle"), .lookUp kind.nativeType a.name (tableOf kind) (a.name ++ "Handle")] := by
  unfold readsOf
  rw [reads, find?_transfersOf, ← kindOf?]
  cases e.kindOf? a.type <;> rfl

theorem text_readsOf (reads : e.overrides.reads = transfersOf e.overrides.kinds) (f : Function) (a : Argument) :
    (e.readsOf f a).map Statement.text = e.argumentTexts a := by
  rw [readsOf_eq reads, argumentTexts]
  cases e.kindOf? a.type with
  | none => exact congrArg (fun text => [text]) (text_read _ _)
  | some kind =>
    have suffix_ : "Handle" ++ " = m_Buffer.read<" = "Handle = m_Buffer.read<" := by decide
    have closed : "Handle" ++ ");" = "Handle);" := by decide
    have first := text_read kind.handleType (a.name ++ "Handle")
    have second := text_lookUp kind.nativeType a.name (a.name ++ "Handle") kind
    simp only [List.map_cons, List.map_nil, first, second, ← suffix_, ← closed, String.append_assoc]

/-- The check of a call of a function is printed with the name of the function. -/
theorem text_check {function : String} {call : NativeCall} (native : Calls f function call)
    (named : ∀ a ∈ f.type.arguments, '.' ∉ a.name.toList) :
    PrintedCall (if call.makesObject then "object = " else "") function (Statement.check call).text := by
  refine ⟨", ".intercalate call.arguments, fun dot => ?_, ?_⟩
  · rcases mem_toList_intercalate dot with separator | ⟨text, listed, inside⟩
    · exact absurd separator (by decide)
    · obtain ⟨a, among, part⟩ := native.undotted text listed inside
      exact named a among part
  · have closed : ")" ++ ");" = "));" := by decide
    show "MGL_CHECK(" ++ ((if call.makesObject then "object = " else "") ++ call.function ++ "(" ++
      ", ".intercalate call.arguments ++ ")") ++ ");" = _
    simp only [← closed, ← native.native, String.append_assoc]

/-! ## Both sides -/

theorem text_defaultWrites (writes : e.overrides.writes = transfersOf e.overrides.kinds) (f : Function) :
    (e.defaultWrites f).map Statement.text =
      f.type.arguments.map fun a => "m_Buffer.write<" ++ a.type ++ ">(" ++ a.name ++ ");" := by
  rw [defaultWrites, List.map_flatMap]
  simp only [text_writesOf writes]
  exact List.flatMap_pure_eq_map _ _

theorem text_defaultReads (reads : e.overrides.reads = transfersOf e.overrides.kinds) (f : Function) :
    (e.defaultReads f).map Statement.text = f.type.arguments.flatMap e.argumentTexts := by
  rw [defaultReads, List.map_flatMap]
  simp only [text_readsOf reads]

theorem text_createHandle (kind : ResourceKind) :
    (Statement.createHandle (tableOf kind)).text = "auto handle = m_Resources." ++ kind.tableName ++ ".create(0);" := by
  have resources : "auto handle = " ++ (resourcesName ++ ".") = "auto handle = m_Resources." := by decide
  show "auto handle = " ++ (resourcesName ++ "." ++ kind.tableName) ++ ".create(0);" = _
  simp only [← resources, String.append_assoc]

theorem text_writeHandle (type : String) :
    (Statement.write type "handle").text = "m_Buffer.write<" ++ type ++ ">(handle);" := by
  have closed : ">(" ++ ("handle" ++ ");") = ">(handle);" := by decide
  show "m_Buffer.write<" ++ type ++ ">(" ++ "handle" ++ ");" = _
  simp only [← closed, String.append_assoc]

theorem text_lookUpObject (type : String) (kind : ResourceKind) :
    (Statement.lookUp type "object" (tableOf kind) "handle").text =
      type ++ " object = m_Resources." ++ kind.tableName ++ ".get(handle);" := by
  have object : " " ++ ("object" ++ " = m_Resources.") = " object = m_Resources." := by decide
  have closed : ".get(" ++ ("handle" ++ ");") = ".get(handle);" := by decide
  rw [text_lookUp]
  simp only [← object, ← closed, String.append_assoc]

theorem text_unprovidedResult (f : Function) : (unprovidedResult f).map Statement.text = f.resultTexts none := by
  unfold unprovidedResult FunctionType.returns Function.resultTexts
  by_cases void : f.type.returnType = "void"
  · simp only [void, bne_self_eq_false, Bool.false_eq_true, if_false, if_true, List.map_nil]
  · rw [if_pos (bne_iff_ne.mpr void), if_neg void]
    rfl

/-- The producer prints its id, and then the lines for its arguments and its result. -/
theorem text_produced (writes : e.overrides.writes = transfersOf e.overrides.kinds) (f : Function) (made : Option ResourceKind) :
    (Statement.writeCommand f.shortName :: e.produced f made).map Statement.text = f.producerTexts made := by
  have usual := text_defaultWrites writes f
  cases made with
  | none =>
    rw [produced, List.map_cons, List.map_append, usual, text_unprovidedResult]
    rfl
  | some kind =>
    rw [produced, handOut, List.map_cons, List.map_append, usual, List.map_cons, List.map_cons, text_createHandle, text_writeHandle]
    rfl

/-- The consumer prints the lines of what it does. -/
theorem text_consumed (reads : e.overrides.reads = transfersOf e.overrides.kinds)
    (named : ∀ a ∈ f.type.arguments, '.' ∉ a.name.toList) {function : String} {made deleted : Option ResourceKind}
    {statements : List Statement} (consumed : e.Consumed f function made deleted statements) :
    e.ConsumerTexts f function made deleted (statements.map Statement.text) := by
  have usual := text_defaultReads reads f
  cases consumed with
  | @calls call native single =>
    have check := text_check native named
    rw [single] at check
    rw [List.map_append, usual]
    exact .calls check
  | @makes kind call native =>
    rw [makeObject, List.map_append, usual]
    refine .makes ?_ (text_check native named)
    cases call.makesObject
    · exact .inl rfl
    · exact .inr rfl
  | @deletes kind argument call native single lone =>
    have check := text_check native named
    rw [single] at check
    rw [deleteObject, List.map_cons, List.map_cons, text_lookUpObject]
    exact .deletes check lone

/-! ## Functions of an emitter -/

section Built

variable {log : Log} {space : String} {r : Registry} (built : (Build.emitter log r builtIns space).answer = .ok e)
include built

/-- The arguments of a function have distinct identifiers as names. -/
theorem argumentNames_of_emitter (member : f ∈ e.functions) :
    f.argumentNames.Nodup ∧ ∀ a ∈ f.type.arguments, Text.isIdentifier a.name = true := by
  obtain ⟨applied, -, registry, -⟩ := emitter_ok plain_builtIns built
  rw [functions, registry] at member
  exact Registry.argumentNames_of_sound (OverrideTracker.sound_of_apply applied) f member

/-- What a function of an emitter with the built-in overrides prints. The native function is the one that the registry had at
its place, by the name there. -/
theorem prints_of_emitter (filed : r.Filed) {k : Nat} (stands : e.functions[k]? = some f) : ∃ key original writes reads,
    r.functions[k]? = some (key, original) ∧ original.name = key ∧ e.writeStatements f = .ok writes ∧
      e.readStatements f = .ok reads ∧ e.Prints f key (Command.lastKind Rule.creates? (e.overrides.rulesOf f.name))
        (Command.lastKind Rule.destroys? (e.overrides.rulesOf f.name)) writes reads := by
  obtain ⟨key, original, before, named, sides⟩ := sides_of_emitter filed built stands
  obtain ⟨reads, read, consumed⟩ := sides.reads
  obtain ⟨kinds, readers, writers⟩ := kinds_of_order (.refl builtIns) filed built
  rw [← kinds] at readers writers
  have undotted : ∀ a ∈ f.type.arguments, '.' ∉ a.name.toList := fun a member =>
    Text.mark_notMem ((argumentNames_of_emitter built (List.mem_of_getElem? stands)).2 a member) (by decide)
  refine ⟨key, original, _, reads, before, named, sides.writes, read, {
    producer := text_produced writers f _
    consumer := text_consumed readers undotted consumed
    returned := sides.returned
    known := fun kind member => ?_ }⟩
  rcases List.mem_append.mp member with own | asked
  · exact kinds ▸ sides.builtIn kind own
  · obtain ⟨a, -, found⟩ := List.mem_flatMap.mp asked
    exact List.mem_of_find?_eq_some (Option.mem_toList.mp found)

end Built

end Emitter

end CommandStream
