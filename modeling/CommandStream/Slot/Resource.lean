import CommandStream.Slot.Table
import CommandStream.Text.Quoted

/-!
# Resource kinds and their tables

A resource kind is a kind of native object behind handles. A manager keeps one slot table per kind,
found by the kind's table name or by the name of its handle type; kinds of one name share a table,
and the later kind answers for the handle type.
-/

namespace CommandStream

/-- A kind of native objects. Kinds are the same only with the same serial: two kinds may read
alike and still be told apart. -/
structure ResourceKind where
  name : String
  nativeType : String
  serial : Nat
  deriving DecidableEq

namespace ResourceKind

variable (r : ResourceKind)

/-- The handle type of the kind. -/
def handleType : String := r.name ++ "Handle"

/-- The table of the kind. -/
def tableName : String := r.name ++ "s"

/-- The tag that keeps the handle types apart. -/
def tag : String := r.name ++ "Tag"

/-- The text of the kind in messages. -/
def shown : String := "ResourceType(" ++ Text.quoted r.name ++ ")"

end ResourceKind

/-- Reasons for which a call on a table fails. -/
inductive ResourceError where
  /-- A handle type of no resource kind. -/
  | unknownHandleType (type : String)
  /-- A resource kind without a table. -/
  | unknownTable (name : String)
  | access (cause : Slot.AccessError)

/-- The message of a failed call, where there is one. -/
def ResourceError.message? : ResourceError → Option String
  | unknownHandleType type => some type
  | unknownTable _ => none
  | access cause => cause.message?

/-- The slot tables of some resource kinds. -/
structure ResourceTables where
  kinds : List ResourceKind
  /-- The tables by name. -/
  tables : List (String × SlotTable)

namespace ResourceTables

/-- Empty tables for resource kinds. -/
def ofKinds (kinds : List ResourceKind) : ResourceTables :=
  { kinds, tables := (kinds.map ResourceKind.tableName).eraseDups.map fun n => (n, .empty n) }

variable (r : ResourceTables)

/-- The table of a name. -/
def table? (name : String) : Option SlotTable :=
  r.tables.lookup name

/-- The tables with the table of a name replaced. -/
def setTable (name : String) (table : SlotTable) : ResourceTables :=
  { r with tables := r.tables.map fun entry => if entry.1 = name then (name, table) else entry }

/-- The kind that answers for a handle type. -/
def kindOfHandle? (handleType : String) : Option ResourceKind :=
  r.kinds.reverse.find? fun kind => kind.handleType == handleType

/-- The tables after a call on the table of a kind. -/
def call (kind : ResourceKind) (c : SlotCall) : Outcome ResourceTables ResourceError Value :=
  match r.table? kind.tableName with
  | none => .failed r (.unknownTable kind.tableName)
  | some table => (table.call c).within (r.setTable kind.tableName) .access

/-- The tables after a call on the table of a handle type. -/
def callHandle (handleType : String) (c : SlotCall) :
    Outcome ResourceTables ResourceError Value :=
  match r.kindOfHandle? handleType with
  | none => .failed r (.unknownHandleType handleType)
  | some kind => r.call kind c

/-- The name under which the tables hold their kinds. -/
def kindsName : String := "resource_types"

/-- Whether the tables can be listed: not if one of them takes the place of the kinds. -/
def isListable : Bool :=
  (r.table? kindsName).isNone

/-- The tables of the kinds, in their order. -/
def tableList : List SlotTable :=
  r.kinds.filterMap fun kind => r.table? kind.tableName

end ResourceTables

end CommandStream
