import CommandStream.Proofs.Emission.Printed
import CommandStream.Proofs.Registry.Renames

/-!
# The locals of a command

The consumer reads every argument of a command into a local of its name, a handle first into one of this name with
`Handle` behind it, and keeps what a command makes or deletes in two locals of fixed names. A check tells the names of
the arguments apart from each other, but not from these. So the locals are distinct exactly if no argument has such a
name.
-/

namespace CommandStream
open OverrideModule

/-- The local that a statement declares. -/
def Statement.local? : Statement → Option String
  | .read _ name => some name
  | .lookUp _ name _ _ => some name
  | .readHandle _ => some "handle"
  | .createHandle _ => some "handle"
  | .declareObject _ => some "object"
  | _ => none

/-- The text of a statement that declares a local begins with a type and the name, and gives it a value. -/
theorem Statement.text_of_local? {statement : Statement} {name : String} (declares : statement.local? = some name) :
    ∃ type value, statement.text = type ++ " " ++ name ++ " = " ++ value := by
  cases statement with
  | read type _ =>
    cases declares
    refine ⟨type, bufferName ++ ".read<" ++ type ++ ">();", ?_⟩
    show type ++ " " ++ name ++ " = " ++ bufferName ++ ".read<" ++ type ++ ">();" = _
    simp only [String.append_assoc]
  | lookUp type _ table handle =>
    cases declares
    refine ⟨type, table ++ ".get(" ++ handle ++ ");", ?_⟩
    show type ++ " " ++ name ++ " = " ++ table ++ ".get(" ++ handle ++ ");" = _
    simp only [String.append_assoc]
  | readHandle type =>
    cases declares
    refine ⟨"auto", bufferName ++ ".read<" ++ type ++ ">();", ?_⟩
    show ("auto" ++ " " ++ "handle" ++ " = ") ++ bufferName ++ ".read<" ++ type ++ ">();" = _
    simp only [String.append_assoc]
  | createHandle table =>
    cases declares
    refine ⟨"auto", table ++ ".create(0);", ?_⟩
    show ("auto" ++ " " ++ "handle" ++ " = ") ++ table ++ ".create(0);" = _
    simp only [String.append_assoc]
  | declareObject type =>
    cases declares
    refine ⟨type, "0;", ?_⟩
    show type ++ (" " ++ "object" ++ " = " ++ "0;") = _
    simp only [String.append_assoc]
  | _ => cases declares

/-- The locals that statements declare, in their order. -/
def localsIn (statements : List Statement) : List String :=
  statements.filterMap Statement.local?

/-- What the text of a statement says of the local that it declares: it begins with a type and the name, and gives it a value. The
text of one that declares none is a check or goes to a table. -/
inductive Statement.Shows (statement : Statement) : Option String → Prop
  | declared {name : String} (type value : String) (same : statement.text = type ++ " " ++ name ++ " = " ++ value) :
    statement.Shows (some name)
  | check (call : String) (same : statement.text = "MGL_CHECK(" ++ call) : statement.Shows none
  | table (behind : String) (same : statement.text = "m_Resources." ++ behind) : statement.Shows none

namespace Emitter

variable {e : Emitter} {f : Function}

/-- A function none of whose arguments has the name of a local for something else: the handle of an argument, or the handle
and the object of a command that makes one. -/
structure NamesApart (e : Emitter) (f : Function) : Prop where
  handles : ∀ a ∈ f.type.arguments, (e.kindOf? a.type).isSome → a.name ++ "Handle" ∉ f.argumentNames
  made : (Command.lastKind Rule.creates? (e.overrides.rulesOf f.name)).isSome →
    "handle" ∉ f.argumentNames ∧ "object" ∉ f.argumentNames

/-- The locals for the handles among arguments. -/
def handleLocals (e : Emitter) (arguments : List Argument) : List String :=
  (arguments.filter fun a => (e.kindOf? a.type).isSome).map fun a => a.name ++ "Handle"

/-! ## Statements of consumers -/

/-- A statement that declares a local, checks a call, or goes to the table of a kind. -/
inductive Consumes : Statement → Prop
  | declares {statement : Statement} {name : String} (local_ : statement.local? = some name) : Consumes statement
  | checks (call : NativeCall) : Consumes (.check call)
  | stores (kind : ResourceKind) : Consumes (.storeObject (tableOf kind))
  | releases (kind : ResourceKind) : Consumes (.releaseHandle (tableOf kind))

theorem shows_of_consumes {statement : Statement} (consumes : Consumes statement) : statement.Shows statement.local? := by
  have table (kind : ResourceKind) (behind : String) : tableOf kind ++ behind = "m_Resources." ++ (kind.tableName ++ behind) := by
    have resources : resourcesName ++ "." = "m_Resources." := by decide
    simp only [tableOf, ← resources, String.append_assoc]
  cases consumes with
  | @declares _ name local_ =>
    obtain ⟨type, value, same⟩ := Statement.text_of_local? local_
    rw [local_]
    exact .declared type value same
  | checks call => exact .check (call.text ++ ");") (String.append_assoc ..)
  | stores kind => exact .table _ (table kind ".set(handle, object);")
  | releases kind => exact .table _ (table kind ".destroy(handle);")

theorem consumes_defaultReads (reads : e.overrides.reads = transfersOf e.overrides.kinds) (f : Function) :
    ∀ statement ∈ e.defaultReads f, Consumes statement := by
  intro statement member
  obtain ⟨a, -, member⟩ := List.mem_flatMap.mp member
  rw [readsOf_eq reads] at member
  split at member
  · exact List.mem_singleton.mp member ▸ .declares rfl
  · simp only [List.mem_cons, List.not_mem_nil, or_false] at member
    rcases member with rfl | rfl <;> exact .declares rfl

/-- A consumer has no other statements. -/
theorem consumes_of_consumed (reads : e.overrides.reads = transfersOf e.overrides.kinds) {function : String}
    {made deleted : Option ResourceKind} {statements : List Statement} (consumed : e.Consumed f function made deleted statements) : ∀ statement ∈ statements, Consumes statement := by
  have usual := consumes_defaultReads reads f
  intro statement member
  cases consumed with
  | @calls call =>
    rcases List.mem_append.mp member with read | called
    · exact usual statement read
    · exact List.mem_singleton.mp called ▸ .checks call
  | @makes kind call =>
    rcases List.mem_append.mp member with read | behind
    · exact usual statement read
    · simp only [List.mem_cons, List.not_mem_nil, or_false] at behind
      rcases behind with rfl | rfl | rfl | rfl
      · exact .declares rfl
      · exact .declares rfl
      · exact .checks call
      · exact .stores kind
  | @deletes kind argument call =>
    simp only [deleteObject, List.mem_cons, List.not_mem_nil, or_false] at member
    rcases member with rfl | rfl | rfl | rfl
    · exact .declares rfl
    · exact .declares rfl
    · exact .checks call
    · exact .releases kind

/-! ## The usual reads -/

theorem locals_readsOf (reads : e.overrides.reads = transfersOf e.overrides.kinds) (f : Function) (a : Argument) :
    localsIn (e.readsOf f a) = if (e.kindOf? a.type).isSome then [a.name ++ "Handle", a.name] else [a.name] := by
  rw [readsOf_eq reads]
  cases e.kindOf? a.type with
  | none => rfl
  | some kind => rfl

/-- The usual reads declare the names of the arguments and the locals for the handles among them. -/
theorem perm_locals_defaultReads (reads : e.overrides.reads = transfersOf e.overrides.kinds) (f : Function) :
    (localsIn (e.defaultReads f)).Perm (f.argumentNames ++ e.handleLocals f.type.arguments) := by
  rw [defaultReads, Function.argumentNames]
  induction f.type.arguments with
  | nil => exact .nil
  | cons a rest ih =>
    have behind : (localsIn (rest.flatMap (e.readsOf f))).Perm (rest.map Argument.name ++ e.handleLocals rest) := ih
    rw [List.flatMap_cons, localsIn, List.filterMap_append, ← localsIn, ← localsIn, locals_readsOf reads, List.map_cons]
    by_cases handle : (e.kindOf? a.type).isSome = true
    · have first : e.handleLocals (a :: rest) = (a.name ++ "Handle") :: e.handleLocals rest := by
        simp only [handleLocals, List.filter_cons, handle, if_true, List.map_cons]
      rw [if_pos handle, first]
      exact (List.Perm.swap _ _ _).trans (((behind.cons _).trans List.perm_middle.symm).cons _)
    · have first : e.handleLocals (a :: rest) = e.handleLocals rest := by
        simp only [handleLocals, List.filter_cons, handle, Bool.false_eq_true, if_false]
      rw [if_neg handle, first]
      exact behind.cons _

theorem nodup_handleLocals (distinct : f.argumentNames.Nodup) : (e.handleLocals f.type.arguments).Nodup := by
  have names : ((f.type.arguments.filter fun a => (e.kindOf? a.type).isSome).map Argument.name).Nodup :=
    distinct.sublist (List.filter_sublist.map _)
  rw [handleLocals, ← Function.comp_def (fun name => name ++ "Handle") Argument.name, ← List.map_map]
  exact names.map fun a b same => (String.append_left_inj _).mp same

/-- The fixed names do not end like the local for a handle. -/
theorem fixed_ne_handle {fixed : String} (member : fixed ∈ ["handle", "object"]) (name : String) : fixed ≠ name ++ "Handle" := by
  intro same
  have ends : "Handle".toList <:+ fixed.toList := ⟨name.toList, by rw [same, String.toList_append]⟩
  simp only [List.mem_cons, List.not_mem_nil, or_false] at member
  rcases member with rfl | rfl
  · exact absurd ends (by decide)
  · exact absurd ends (by decide)

/-- Locals behind those of the usual reads: all are distinct if no argument has the name of one for a handle or of one of
these. -/
theorem nodup_behind_reads (reads : e.overrides.reads = transfersOf e.overrides.kinds) (distinct : f.argumentNames.Nodup)
    {behind : List Statement} (fixed : localsIn behind ⊆ ["handle", "object"]) (own : (localsIn behind).Nodup) :
    (localsIn (e.defaultReads f ++ behind)).Nodup ↔
      (∀ a ∈ f.type.arguments, (e.kindOf? a.type).isSome → a.name ++ "Handle" ∉ f.argumentNames) ∧
      ∀ name ∈ localsIn behind, name ∉ f.argumentNames := by
  have handles := nodup_handleLocals (e := e) distinct
  rw [localsIn, List.filterMap_append, ← localsIn, ← localsIn,
    ((perm_locals_defaultReads reads f).append_right _).nodup_iff, List.append_assoc, List.nodup_append', List.nodup_append']
  simp only [distinct, handles, own, true_and, List.disjoint_append_right]
  have apart : List.Disjoint (e.handleLocals f.type.arguments) (localsIn behind) := by
    intro name handle last
    obtain ⟨a, -, rfl⟩ := List.mem_map.mp handle
    exact fixed_ne_handle (fixed last) a.name rfl
  simp only [apart, true_and, List.disjoint_right]
  refine and_congr_left fun _ => ?_
  simp only [handleLocals, List.mem_map, List.mem_filter]
  constructor
  · intro free a member handle
    exact free ⟨a, ⟨member, handle⟩, rfl⟩
  · rintro free _ ⟨a, ⟨member, handle⟩, rfl⟩
    exact free a member handle

/-! ## Functions of an emitter -/

section Shapes

variable (reads : e.overrides.reads = transfersOf e.overrides.kinds) (distinct : f.argumentNames.Nodup)
include reads distinct

/-- A consumer that only reads the arguments and calls. -/
theorem nodup_check (call : NativeCall) (nothing : Command.lastKind Rule.creates? (e.overrides.rulesOf f.name) = none) :
    (localsIn (e.defaultReads f ++ [.check call])).Nodup ↔ e.NamesApart f := by
  have none_ : localsIn [.check call] = [] := rfl
  rw [nodup_behind_reads reads distinct (none_ ▸ List.nil_subset _) (none_ ▸ List.nodup_nil), none_]
  constructor
  · rintro ⟨handles, -⟩
    refine ⟨handles, fun makes => ?_⟩
    rw [nothing] at makes
    cases makes
  · exact fun apart => ⟨apart.handles, fun _ member => absurd member List.not_mem_nil⟩

/-- A consumer that makes an object. -/
theorem nodup_makeObject (kind : ResourceKind) (call : NativeCall)
    (makes : Command.lastKind Rule.creates? (e.overrides.rulesOf f.name) = some kind) :
    (localsIn (e.makeObject f kind call)).Nodup ↔ e.NamesApart f := by
  have fixed : localsIn [.readHandle kind.handleType, .declareObject kind.nativeType, .check call, .storeObject (tableOf kind)] =
      ["handle", "object"] := rfl
  rw [makeObject, nodup_behind_reads reads distinct (fixed ▸ List.Subset.refl _) (fixed ▸ by decide), fixed]
  simp only [List.mem_cons, List.not_mem_nil, or_false, forall_eq_or_imp, forall_eq]
  constructor
  · rintro ⟨handles, made⟩
    exact ⟨handles, fun _ => made⟩
  · intro apart
    exact ⟨apart.handles, apart.made (Option.isSome_of_eq_some makes)⟩

end Shapes

/-- A lone argument has the name of no other local. -/
theorem namesApart_of_lone {a : Argument} (lone : f.type.arguments = [a])
    (nothing : Command.lastKind Rule.creates? (e.overrides.rulesOf f.name) = none) : e.NamesApart f := by
  refine ⟨fun b member _ held => ?_, fun makes => ?_⟩
  · rw [lone] at member
    rw [Function.argumentNames, lone, List.map_singleton, List.mem_singleton, List.mem_singleton.mp member] at held
    have lengths := congrArg String.length held
    rw [String.length_append] at lengths
    have long : "Handle".length = 6 := by decide
    omega
  · rw [nothing] at makes
    cases makes

section Built

variable {log : Log} {r : Registry} {space : String}

/-- **When the locals of a command are distinct.** For every function of an emitter that is built from sources with the built-in
overrides, the consumer has statements, no line of which is put in as it is, and whose texts show the locals that they declare.
These locals have distinct names exactly if no argument has the name of a handle argument with `Handle` behind it and, where an
object is made, none is called `handle` or `object`. -/
theorem locals_distinct_iff {start : String} {lines : List String} {log' : Log}
    {description : Option (Except Markup.DocumentError Markup.Element)}
    (parsed : (Build.readRegistry log start lines description).answer = .ok r)
    (built : (Build.emitter log' r builtIns space).answer = .ok e) (member : f ∈ e.functions) :
    ∃ statements, e.readStatements f = .ok statements ∧ (∀ text, .line text ∉ statements) ∧
      (∀ statement ∈ statements, statement.Shows statement.local?) ∧ ((localsIn statements).Nodup ↔ e.NamesApart f) := by
  have filed := Build.filed_readRegistry parsed
  obtain ⟨k, stands⟩ := List.mem_iff_getElem?.mp member
  obtain ⟨kinds, reads, -⟩ := kinds_of_order (.refl builtIns) filed built
  rw [← kinds] at reads
  have distinct := (argumentNames_of_emitter built member).1
  obtain ⟨key, -, -, -, sides⟩ := sides_of_emitter filed built stands
  obtain ⟨statements, read, consumed⟩ := sides.reads
  have consumes := consumes_of_consumed reads consumed
  refine ⟨statements, read, fun text line => ?_, fun statement listed => shows_of_consumes (consumes statement listed), ?_⟩
  · cases consumes _ line with
    | declares local_ => cases local_
  generalize made : Command.lastKind Rule.creates? (e.overrides.rulesOf f.name) = creates,
    Command.lastKind Rule.destroys? (e.overrides.rulesOf f.name) = destroys at consumed
  cases consumed with
  | calls => exact nodup_check reads distinct _ made
  | makes => exact nodup_makeObject reads distinct _ _ made
  | @deletes kind argument call native single lone =>
    have two : (localsIn (deleteObject kind call)).Nodup := by
      show ["handle", "object"].Nodup
      decide
    exact iff_of_true two (namesApart_of_lone lone made)

end Built

end Emitter

/-! ## Names that clash -/

namespace ClashingHeader

/-- A header with a function that has an argument with the name of the local for the handle of another, one that makes an object
and has an argument called so, and one without such names. -/
def lines : List String :=
  ["typedef void (APIENTRYP PFNGLBINDPROC)(GLuint buffer, GLint bufferHandle);",
   "GLAPI PFNGLBINDPROC glad_glBind;",
   "typedef GLuint (APIENTRYP PFNGLCREATESHADERPROC)(GLenum object);",
   "GLAPI PFNGLCREATESHADERPROC glad_glCreateShader;",
   "typedef void (APIENTRYP PFNGLATTACHSHADERPROC)(GLuint program, GLuint shader);",
   "GLAPI PFNGLATTACHSHADERPROC glad_glAttachShader;"]

def bindType : FunctionType :=
  ⟨"PFNGLBINDPROC", "void", false, [⟨"GLuint", "buffer", false⟩, ⟨"GLint", "bufferHandle", false⟩]⟩

def createType : FunctionType :=
  ⟨"PFNGLCREATESHADERPROC", "GLuint", false, [⟨"GLenum", "object", false⟩]⟩

def attachType : FunctionType :=
  ⟨"PFNGLATTACHSHADERPROC", "void", false, [⟨"GLuint", "program", false⟩, ⟨"GLuint", "shader", false⟩]⟩

def registry : Registry where
  start := "gl"
  defines := []
  types := [("PFNGLBINDPROC", bindType), ("PFNGLCREATESHADERPROC", createType), ("PFNGLATTACHSHADERPROC", attachType)]
  functions :=
    [("glBind", ⟨"glBind", "Bind", "public", bindType⟩),
     ("glCreateShader", ⟨"glCreateShader", "CreateShader", "public", createType⟩),
     ("glAttachShader", ⟨"glAttachShader", "AttachShader", "public", attachType⟩)]
  enums := []
  frozen := true
  shortNames := [("Bind", "glBind"), ("CreateShader", "glCreateShader"), ("AttachShader", "glAttachShader")]

theorem parsed : (Build.readRegistry [] "gl" lines none).answer = .ok registry := by
  have read : (Build.readRegistry [] "gl" lines none).answer.toOption = some registry := by decide +kernel
  exact ok_of_toOption read

def emitter : Emitter :=
  ⟨((trackerOf builtIns registry).apply registry).state.2, ((trackerOf builtIns registry).apply registry).state.1, "gl", .byte,
    by decide +kernel⟩

/-- The functions of the header, with handles for names. -/
def bind : Function :=
  ⟨"glBind", "Bind", "public",
   ⟨"PFNGLBINDPROC", "void", false, [⟨"BufferHandle", "buffer", false⟩, ⟨"GLint", "bufferHandle", false⟩]⟩⟩

def create : Function :=
  ⟨"glCreateShader", "CreateShader", "public",
   ⟨"PFNGLCREATESHADERPROC", "ShaderHandle", false, [⟨"GLenum", "object", false⟩]⟩⟩

def attach : Function :=
  ⟨"glAttachShader", "AttachShader", "public",
   ⟨"PFNGLATTACHSHADERPROC", "void", false, [⟨"ShaderProgramHandle", "program", false⟩, ⟨"ShaderHandle", "shader", false⟩]⟩⟩

/-- The overrides apply, and this is what the three functions come to. -/
theorem computed : ((trackerOf builtIns registry).apply registry).answer.toOption = some () ∧
    ((trackerOf builtIns registry).apply registry).state.2.functions.length = 3 ∧ emitter.functions = [bind, create, attach] ∧
    (emitter.readStatements bind).toOption.map localsIn = some ["bufferHandle", "buffer", "bufferHandle"] ∧
    (emitter.readStatements create).toOption.map localsIn = some ["object", "handle", "object"] ∧
    (∀ a ∈ attach.type.arguments, (emitter.kindOf? a.type).isSome → a.name ++ "Handle" ∉ attach.argumentNames) ∧
    ((Command.lastKind Rule.creates? (emitter.overrides.rulesOf attach.name)).isSome →
      "handle" ∉ attach.argumentNames ∧ "object" ∉ attach.argumentNames) := by
  decide +kernel

theorem built : (Build.emitter [] registry builtIns "gl").answer = .ok emitter := by
  obtain ⟨applied, three, -⟩ := computed
  exact emitter_of_applied plain_builtIns (ok_of_toOption applied) (by rw [three]; rfl) [] "gl"

/-- The locals of the attachment are distinct. -/
theorem attachment_distinct : (Build.readRegistry [] "gl" lines none).answer = .ok registry ∧
    (Build.emitter [] registry builtIns "gl").answer = .ok emitter ∧ attach ∈ emitter.functions ∧
    ∃ statements, emitter.readStatements attach = .ok statements ∧ (localsIn statements).Nodup := by
  obtain ⟨-, -, functions, -, -, handles, made⟩ := computed
  have member : attach ∈ emitter.functions := by
    rw [functions]
    exact List.mem_cons_of_mem _ (List.mem_cons_of_mem _ List.mem_cons_self)
  obtain ⟨statements, read, -, -, distinct⟩ := Emitter.locals_distinct_iff parsed built member
  exact ⟨parsed, built, member, statements, read, distinct.mpr ⟨handles, made⟩⟩

theorem exists_locals {f : Function} {names : List String}
    (locals : (emitter.readStatements f).toOption.map localsIn = some names) :
    ∃ statements, emitter.readStatements f = .ok statements ∧ localsIn statements = names := by
  obtain ⟨statements, read, same⟩ := Option.map_eq_some_iff.mp locals
  exact ⟨statements, ok_of_toOption read, same⟩

/-- The header is taken, and two of its functions have two locals of one name. -/
theorem locals_clash : (Build.readRegistry [] "gl" lines none).answer = .ok registry ∧
    (Build.emitter [] registry builtIns "gl").answer = .ok emitter ∧ bind ∈ emitter.functions ∧ create ∈ emitter.functions ∧
    (∃ statements, emitter.readStatements bind = .ok statements ∧
      localsIn statements = ["bufferHandle", "buffer", "bufferHandle"]) ∧
    (∃ statements, emitter.readStatements create = .ok statements ∧ localsIn statements = ["object", "handle", "object"]) ∧
    ¬ ["bufferHandle", "buffer", "bufferHandle"].Nodup ∧ ¬ ["object", "handle", "object"].Nodup := by
  obtain ⟨-, -, functions, bound, created, -⟩ := computed
  refine ⟨parsed, built, ?_, ?_, exists_locals bound, exists_locals created, by decide, by decide⟩
  · rw [functions]
    exact List.mem_cons_self
  · rw [functions]
    exact List.mem_cons_of_mem _ List.mem_cons_self

end ClashingHeader

end CommandStream
