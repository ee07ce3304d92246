import CommandStream.Override.Tracker

/-!
# Override modules

A module registers the overrides of one area of the interface, mostly of one resource kind: values
of its handle type travel as handles, and functions whose arguments name objects of the kind take
handles instead. The modules of the built-in kinds are listed at the end.
-/

namespace CommandStream

/-- For which resource kind a module registers its overrides. -/
inductive Ownership where
  /-- For none. -/
  | free
  /-- For one that has not been set. -/
  | unset
  | kind (k : ResourceKind)

namespace Ownership

/-- The resource kind, if there is one. -/
def kind? : Ownership → Option ResourceKind
  | kind k => some k
  | _ => none

end Ownership

/-- A step of a module. -/
inductive Registration where
  | rule (r : Rule)
  | generate (function name : String) (kept : Int)
  | create (function : String)
  | delete (function argument : String) (name : Option String)
  /-- The rules that most kinds need. -/
  | standard
  /-- Handles for every argument that names an object of the kind. -/
  | retypeAll
  | read (type : String) (patterns : List String)
  | write (type : String) (patterns : List String)
  /-- Another type for the first argument of a function. -/
  | retypeFirst (function : String)
  /-- The rule for the function that hands over shader text. -/
  | shaderSource

/-- A module of overrides. -/
structure OverrideModule where
  owner : Ownership
  /-- The names of arguments that always carry an object of the kind. -/
  argumentNames : List String
  steps : List Registration

namespace OverrideModule

variable (m : OverrideModule)

/-- The rule that retypes the arguments of a function that carry an object of a kind. -/
def retypeRule (kind : ResourceKind) (function : String) : Rule :=
  ⟨function, .retype kind.handleType m.argumentNames [] (some kind.nativeType)⟩

/-- Whether an argument carries an object of a kind. -/
def carries (kind : ResourceKind) (a : Argument) : Bool :=
  m.argumentNames.contains a.name && a.type == kind.nativeType

/-- The tracker with rules that retype all arguments that carry an object of a kind. -/
def retypeAll (kind : ResourceKind) (r : Registry) (t : OverrideTracker) : OverrideTracker :=
  ((Keyed.values r.functions).filter fun f => f.type.arguments.any (m.carries kind)).foldl
    (fun t f => t.addRule (m.retypeRule kind f.name)) t

/-- The edits that reduce a function on several shader texts to one text. -/
def singleTextEdits (kind : ResourceKind) : List Edit :=
  [.expectArguments 4, .argumentType 0 kind.handleType, .removeArgument 1,
   .argumentType 1 "const GLchar *", .argumentType 2 "GLint"]

/-- The function that hands over shader text. -/
def shaderSourceFunction : String := "glShaderSource"

/-- The tracker with the rules that most kinds need. -/
def standard (kind : ResourceKind) (r : Registry) (t : OverrideTracker) :
    Except OverrideError OverrideTracker :=
  match m.argumentNames with
  | [] => .error .noArgumentName
  | argument :: _ =>
    let made := (t.addRule ⟨"glCreate" ++ kind.name ++ "s",
        .generate kind ("glCreate" ++ kind.name) 0⟩).addRule
      ⟨"glGen" ++ kind.name ++ "s", .generate kind ("glGen" ++ kind.name) 0⟩
    let deleted := made.addRule ⟨"glDelete" ++ kind.name ++ "s",
      .delete kind argument (some ("glDelete" ++ kind.name))⟩
    .ok (m.retypeAll kind r deleted)

/-- A step that needs a resource kind. -/
def withKind (step : ResourceKind → Except OverrideError OverrideTracker) :
    Except OverrideError OverrideTracker :=
  match m.owner.kind? with
  | some kind => step kind
  | none => .error .noResource

/-- The tracker after a step. -/
def take (r : Registry) (t : OverrideTracker) : Registration → Except OverrideError OverrideTracker
  | .rule rule => .ok (t.addRule rule)
  | .generate function name kept =>
    m.withKind fun kind => .ok (t.addRule ⟨function, .generate kind name kept⟩)
  | .create function => .ok (t.addRule ⟨function, .create m.owner.kind?⟩)
  | .delete function argument name =>
    m.withKind fun kind => .ok (t.addRule ⟨function, .delete kind argument name⟩)
  | .standard => m.withKind fun kind => m.standard kind r t
  | .retypeAll => m.withKind fun kind => .ok (m.retypeAll kind r t)
  | .read type patterns => .ok (t.setRead type (.lines patterns))
  | .write type patterns => .ok (t.setWrite type (.lines patterns))
  | .retypeFirst function =>
    m.withKind fun kind => .ok (t.addRule ⟨function, .retype kind.handleType [] [0] none⟩)
  | .shaderSource =>
    m.withKind fun kind => .ok (t.addRule ⟨shaderSourceFunction,
      .custom (singleTextEdits kind) none (some (.singleElement shaderSourceFunction))⟩)

/-- The tracker with the resource kind of the module. -/
def addOwner (t : OverrideTracker) : Except OverrideError OverrideTracker :=
  match m.owner with
  | .free => .ok t
  | .unset => .error .noResource
  | .kind kind =>
    .ok (((t.addKind kind).setRead kind.handleType (.handle kind)).setWrite kind.handleType
      (.handle kind))

/-- The tracker with the overrides of the module for a registry. -/
def register (r : Registry) (t : OverrideTracker) : Except OverrideError OverrideTracker := do
  m.steps.foldlM (m.take r) (← m.addOwner t)

/-- The tracker with the overrides of some modules. -/
def registerAll (r : Registry) (modules : List OverrideModule) :
    Except OverrideError OverrideTracker :=
  modules.foldlM (fun t m => m.register r t) OverrideTracker.empty

/-- The module of a built-in kind of objects with names of the usual native type. -/
def builtIn (name : String) (serial : Nat) (argument : String) (steps : List Registration) :
    OverrideModule :=
  ⟨.kind ⟨name, "GLuint", serial⟩, [argument], steps⟩

/-- Buffers. -/
def buffer : OverrideModule := builtIn "Buffer" 0 "buffer" [.standard]

/-- Framebuffers. -/
def framebuffer : OverrideModule := builtIn "Framebuffer" 1 "framebuffer" [.standard]

/-- Programs. -/
def program : OverrideModule :=
  builtIn "ShaderProgram" 2 "program"
    [.create "glCreateProgram", .delete "glDeleteProgram" "program" none, .retypeAll]

/-- Shaders. -/
def shader : OverrideModule :=
  builtIn "Shader" 3 "shader"
    [.create "glCreateShader", .delete "glDeleteShader" "shader" none, .shaderSource, .retypeAll]

/-- Textures, which are made for a target that is kept. -/
def texture : OverrideModule :=
  builtIn "Texture" 4 "texture"
    [.generate "glCreateTextures" "glCreateTexture" 1, .generate "glGenTextures" "glGenTexture" 0,
     .delete "glDeleteTextures" "texture" (some "glDeleteTexture"), .retypeAll]

/-- Vertex arrays, which are bound by an argument that names no object elsewhere. -/
def vertexArray : OverrideModule :=
  builtIn "VertexArray" 5 "vaobj" [.standard, .retypeFirst "glBindVertexArray"]

/-- The built-in modules. -/
def builtIns : List OverrideModule :=
  [buffer, framebuffer, program, shader, texture, vertexArray]

/-- The first serial that no built-in kind has. -/
def firstFreeSerial : Nat := 6

end OverrideModule

end CommandStream
