import CommandStream.Signature

/-!
# Emitted statements

The statements from which the producer and the consumer of a command are put together, and their
text in C++.
-/

namespace CommandStream

/-- The member that holds the transfer buffer. -/
def bufferName : String := "m_Buffer"

/-- The member that holds the slot tables. -/
def resourcesName : String := "m_Resources"

/-- A call of a function of the native interface. -/
structure NativeCall where
  function : String
  arguments : List String
  /-- Whether the result is the object that the command makes. -/
  makesObject : Bool

/-- The text of a native call. -/
def NativeCall.text (c : NativeCall) : String :=
  (if c.makesObject then "object = " else "") ++
    c.function ++ "(" ++ ", ".intercalate c.arguments ++ ")"

/-- A statement of a producer or consumer. -/
inductive Statement where
  /-- The id of a command goes into the buffer. -/
  | writeCommand (command : String)
  /-- A value goes into the buffer. -/
  | write (type value : String)
  /-- A local is read from the buffer. -/
  | read (type name : String)
  /-- The handle of the command is read from the buffer. -/
  | readHandle (type : String)
  /-- The handle of the command is made in a table. -/
  | createHandle (table : String)
  | returnHandle
  /-- The object of the command is declared. -/
  | declareObject (type : String)
  /-- A local is looked up in a table. -/
  | lookUp (type name table handle : String)
  /-- A native function is called, with its errors checked. -/
  | check (call : NativeCall)
  /-- The object of the command goes into a table. -/
  | storeObject (table : String)
  /-- The handle of the command is given back to a table. -/
  | releaseHandle (table : String)
  | returnDefault
  /-- A line of a custom rule, or of the preprocessor. -/
  | line (text : String)

namespace Statement

/-- The text of a statement. -/
def text : Statement → String
  | writeCommand command => "write_command(CommandId::" ++ command ++ ");"
  | write type value => bufferName ++ ".write<" ++ type ++ ">(" ++ value ++ ");"
  | read type name => type ++ " " ++ name ++ " = " ++ bufferName ++ ".read<" ++ type ++ ">();"
  | readHandle type => "auto handle = " ++ bufferName ++ ".read<" ++ type ++ ">();"
  | createHandle table => "auto handle = " ++ table ++ ".create(0);"
  | returnHandle => "return handle;"
  | declareObject type => type ++ " object = 0;"
  | lookUp type name table handle =>
    type ++ " " ++ name ++ " = " ++ table ++ ".get(" ++ handle ++ ");"
  | check call => "MGL_CHECK(" ++ call.text ++ ");"
  | storeObject table => table ++ ".set(handle, object);"
  | releaseHandle table => table ++ ".destroy(handle);"
  | returnDefault => "return \x7b\x7d;"
  | line text => text

end Statement

/-- Lines indented by so many levels and joined; lines of the preprocessor stay in the first
column. -/
def indented (level : Int) (lines : List String) : String :=
  let indent := spaces (4 * level.toNat)
  "\n".intercalate (lines.map fun line => if beginsWith line "#" then line else indent ++ line)

end CommandStream
