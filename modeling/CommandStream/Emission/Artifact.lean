import CommandStream.Emission.Emitter
import CommandStream.Emission.Support
import CommandStream.Path

/-!
# Artifacts

The files that are emitted for an interface, each as a list of lines: the command ids, the enum
classes, the resource kinds with their tables, the class that declares the commands, its producer
and its consumer, and the support code that these share.
-/

namespace CommandStream

/-- An emitted file. -/
inductive Artifact where
  | commandIds
  | enumTypes
  | transferBuffer
  | slotTables
  | resourceTables
  | errorCheck
  | commandClass
  | producer
  | consumer
  deriving DecidableEq

namespace Emitter

variable (e : Emitter)

/-- The enumerators of the command ids. -/
def enumerators : List String :=
  e.functions.map fun f => "            " ++ f.shortName ++ ","

/-- The command ids. -/
def commandIdLines : List String :=
  ["#pragma once", "", "#include <cstdint>", "", "namespace " ++ e.space, "\x7b",
   "    typedef " ++ e.idWidth.typeName ++ " command_id_t;", "", "    namespace CommandIdEnum",
   "    \x7b", "        enum Enum : command_id_t", "        \x7b"] ++
  e.enumerators ++
  ["            Count", "        \x7d;", "    \x7d", "",
   "    typedef CommandIdEnum::Enum CommandId;", "\x7d"]

/-- Groups without those whose name an earlier one has. -/
def distinctGroups (seen : List String) : List EnumGroup → List EnumGroup
  | [] => []
  | group :: rest =>
    if seen.contains group.name then distinctGroups seen rest
    else group :: distinctGroups (group.name :: seen) rest

/-- The enum groups to be emitted, each name once. -/
def enumGroups : List EnumGroup :=
  distinctGroups [] (Keyed.values e.registry.enums)

/-- The keys of an enum class. -/
def keyLines (group : EnumGroup) : List String :=
  group.values.map fun (key, symbol) => "        " ++ key ++ " = " ++ symbol ++ ","

/-- An enum class. -/
def enumClass (group : EnumGroup) : List String :=
  ["    enum class " ++ group.name ++ " : GLenum", "    \x7b"] ++ keyLines group ++
  ["    \x7d;", ""]

/-- The enum classes. -/
def enumTypeLines : List String :=
  ["#pragma once", "", "#include <glad/glad.h>", "", "namespace " ++ e.space, "\x7b"] ++
  e.enumGroups.flatMap enumClass ++ ["\x7d"]

/-- The tag and the handle type of a resource kind. -/
def handleTypeLines (kind : ResourceKind) : List String :=
  ["    struct " ++ kind.tag ++ ";",
   "    typedef resource_handle<" ++ kind.tag ++ "> " ++ kind.handleType ++ ";", ""]

/-- The table of a resource kind. -/
def tableLine (kind : ResourceKind) : String :=
  "        slot_map<" ++ kind.nativeType ++ ", " ++ kind.tag ++ "> " ++ kind.tableName ++ ";"

/-- The resource kinds and their tables. -/
def resourceLines : List String :=
  ["#pragma once", "", "#include <glad/glad.h>", "", "#include \"slot_map.hpp\"", "",
   "namespace " ++ e.space, "\x7b"] ++
  e.overrides.kinds.flatMap handleTypeLines ++
  ["    struct ResourceManager", "    \x7b"] ++
  e.overrides.kinds.map tableLine ++
  ["    \x7d;", "\x7d"]

/-- Functions with the access label to be declared in front of each, which is left out while it
stays the same. -/
def labelled (current : String) : List Function → List (Option String × Function)
  | [] => []
  | f :: rest =>
    if f.access = current then (none, f) :: labelled current rest
    else (some f.access, f) :: labelled f.access rest

/-- An access label; an empty one is not printed. -/
def labelLines (label : Option String) : List String :=
  match label with
  | some label => if label.isEmpty then [] else ["", "    " ++ label ++ ":"]
  | none => []

/-- The declaration of a command behind its access label. -/
def memberLines (entry : Option String × Function) : List String :=
  labelLines entry.1 ++ ["        " ++ declaration entry.2 false ++ ";"]

/-- The class that declares the commands. -/
def commandClassLines : List String :=
  ["#pragma once", "", "#include <glad/glad.h>", "", "#include \"gl_check.hpp\"",
   "#include \"gl_enum_types.hpp\"", "#include \"gl_function_enums.hpp\"",
   "#include \"raw_rw_buffer.hpp\"", "#include \"resource_manager.hpp\"", "",
   "namespace " ++ e.space, "\x7b", "    class CommandBuffer", "    \x7b", "    public:",
   "        enum class State", "        \x7b", "            Idle,", "            Draining",
   "        \x7d;", "", "    public:", "        CommandBuffer();", "        ~CommandBuffer();", "",
   "    public:"] ++
  (labelled Function.publicAccess e.functions).flatMap memberLines ++
  ["", "    public:", "        void ProcessCommands();", "",
   "        inline State GetState() const \x7b return m_State; \x7d",
   "        inline bool HasCommands() const \x7b return " ++ bufferName ++ ".has_commands(); \x7d",
   "", "    private:", "        inline void write_command(CommandId cmd)", "        \x7b",
   "            m_State = State::Draining;",
   "            " ++ bufferName ++ ".write_command(cmd);", "        \x7d", "", "    private:",
   "        raw_rw_buffer " ++ bufferName ++ ";",
   "        ResourceManager " ++ resourcesName ++ ";", "        State m_State;", "    \x7d;",
   "\x7d"]

/-- The method that writes a command. -/
def methodLines (f : Function) : Except EmissionError (List String) := do
  let statements ← e.writeStatements f
  .ok [declaration f true, "\x7b", body 1 statements, "\x7d", ""]

/-- The producer: the methods that write the commands. -/
def producerLines : Except EmissionError (List String) := do
  let methods ← e.functions.mapM e.methodLines
  .ok (["#include \"gl_command_buffer.hpp\"", "", "using namespace " ++ e.space ++ ";", "",
    "CommandBuffer::CommandBuffer() : m_State(State::Idle)", "\x7b", "\x7d", "",
    "CommandBuffer::~CommandBuffer()", "\x7b", "\x7d", ""] ++ methods.flatten)

/-- The case of the consumer that executes a command. -/
def caseLines (f : Function) : Except EmissionError (List String) := do
  let statements ← e.readStatements f
  .ok ["        case CommandId::" ++ f.shortName ++ ":", "        \x7b", body 3 statements,
    "            break;", "        \x7d"]

/-- The consumer: the loop that executes the commands. -/
def consumerLines : Except EmissionError (List String) := do
  let cases ← e.functions.mapM e.caseLines
  .ok (["#include <cassert>", "", "#include \"gl_command_buffer.hpp\"", "",
    "using namespace " ++ e.space ++ ";", "", "void CommandBuffer::ProcessCommands()", "\x7b",
    "    while (" ++ bufferName ++ ".has_commands())", "    \x7b",
    "        auto cmd = " ++ bufferName ++ ".read_command();", "        switch (cmd)",
    "        \x7b"] ++ cases.flatten ++
   ["        default:", "            assert(false && \"unknown command\");",
    "            " ++ bufferName ++ ".reset();", "            break;", "        \x7d", "    \x7d",
    "", "    " ++ bufferName ++ ".reset();", "    m_State = State::Idle;", "\x7d"])

end Emitter

namespace Artifact

/-- The artifacts in the order in which they are emitted. -/
def all : List Artifact :=
  [commandIds, enumTypes, transferBuffer, slotTables, resourceTables, errorCheck, commandClass,
   producer, consumer]

/-- The file name of an artifact. -/
def fileName : Artifact → String
  | commandIds => "gl_function_enums.hpp"
  | enumTypes => "gl_enum_types.hpp"
  | transferBuffer => "raw_rw_buffer.hpp"
  | slotTables => "slot_map.hpp"
  | resourceTables => "resource_manager.hpp"
  | errorCheck => "gl_check.hpp"
  | commandClass => "gl_command_buffer.hpp"
  | producer => "gl_command_buffer_write.cpp"
  | consumer => "gl_command_buffer_read.cpp"

/-- The directory of an artifact. -/
def directory : Artifact → String
  | producer => "src"
  | consumer => "src"
  | _ => "include"

/-- The path of an artifact. -/
def path (a : Artifact) : String :=
  a.directory ++ "/" ++ a.fileName

/-- The lines of an artifact. -/
def lines (e : Emitter) : Artifact → Except EmissionError (List String)
  | commandIds => .ok e.commandIdLines
  | enumTypes => .ok e.enumTypeLines
  | transferBuffer => .ok (Support.transferBuffer e.space)
  | slotTables => .ok (Support.slotTables e.space)
  | resourceTables => .ok e.resourceLines
  | errorCheck => .ok (Support.errorCheck e.space)
  | commandClass => .ok e.commandClassLines
  | producer => e.producerLines
  | consumer => e.consumerLines

/-- The text of lines. -/
def textOf (lines : List String) : String :=
  String.join (lines.map fun line => line ++ "\n")

/-- The text of an artifact. -/
def text (e : Emitter) (a : Artifact) : Except EmissionError String :=
  textOf <$> a.lines e

/-- The texts of all artifacts by their paths. -/
def texts (e : Emitter) : Except EmissionError (Keyed String) :=
  all.mapM fun a => do .ok (a.path, ← a.text e)

/-- The name of the directory that holds the patterns of the artifacts. -/
def patternDirectory : String := "templates"

/-- Why a path leads to no pattern when nothing stands at a segment of it: one that is too long is
not even looked up. -/
def missing (path segment : String) : EmissionError :=
  if segment.utf8ByteSize > Path.segmentByteLimit then .pathTooLong else .noPattern path

/-- The artifact whose pattern the segments of a path lead to; `within` tells whether they start
inside the directory of the patterns or in the one around it. -/
def ofSegments (path : String) (within : Bool) : List String → Except EmissionError Artifact
  | [] => .error (.noPattern path)
  | [last] =>
    match if within then all.find? fun a => a.fileName == last else none with
    | some a => .ok a
    | none => .error (missing path last)
  | first :: rest =>
    if within then
      if first = ".." then ofSegments path false rest else .error (missing path first)
    else if first = patternDirectory then ofSegments path true rest
    else .error (missing path first)

/-- The artifact whose pattern a path relative to the directory of the patterns leads to. -/
def find (path : String) : Except EmissionError Artifact :=
  let p := Path.ofText path
  if !Path.isNamable path then .error (.noPattern path)
  else if p.text.utf8ByteSize > Path.byteLimit then .error .pathTooLong
  else if p.start.isEmpty then ofSegments path true p.segments
  else .error (.noPattern path)

end Artifact

end CommandStream
