import CommandStream.Outcome
import CommandStream.Value

/-!
# Slot tables

A table hands out handles for values. A handle names a slot by index and by the generation that the
slot had when the handle was made; destroying a value frees its slot, and the next handle for that
slot has a later generation, so an old handle stays invalid for good.

Freed slots are remembered by the index of the handle that freed them, the latest first.
-/

namespace CommandStream

namespace Slot

/-- Reasons for which a handle opens no slot. -/
inductive AccessError where
  /-- A value that is no handle; sequences are told apart. -/
  | notAHandle (sequence : Bool)
  /-- A handle whose index is no integer. -/
  | notAnIndex
  /-- A handle that names no occupied slot of its generation. -/
  | invalid (table : String) (handle : Value)
  /-- More initial values than one. -/
  | tooManyValues

/-- One place of a table. -/
structure Cell where
  value : Value
  generation : Nat
  occupied : Bool

/-- What an index says about a table of some size. -/
inductive Place where
  | at (index : Nat)
  | outside
  /-- No integer, and not outside either. -/
  | unusable

/-- Where an index lies among so many cells. -/
def place (index : Value) (count : Nat) : Place :=
  match index with
  | .float bits =>
    match Floating.compareInt bits.toNat 0, Floating.compareInt bits.toNat count with
    | some .lt, _ => .outside
    | some _, some .lt => .unusable
    | _, _ => .outside
  | _ =>
    match index.int? with
    | none => .unusable
    | some n => if 0 ≤ n ∧ n < count then .at n.toNat else .outside

end Slot

open Slot

/-- A table of slots. -/
structure SlotTable where
  name : String
  /-- How often the set of occupied slots changed by a new slot or a destruction. -/
  changes : Nat
  cells : List Cell
  /-- The indices of freed slots, latest first. -/
  free : List Value

namespace SlotTable

/-- A table without slots. -/
def empty (name : String) : SlotTable := ⟨name, 0, [], []⟩

variable (t : SlotTable)

/-- The slot that a handle opens, if it is a handle and opens one. -/
def find? (handle : Value) : Except AccessError (Option (Nat × Cell)) :=
  match handle with
  | .handle generation index =>
    match place index t.cells.length with
    | .unusable => .error .notAnIndex
    | .outside => .ok none
    | .at i =>
      match t.cells[i]? with
      | some cell =>
        if cell.occupied && generation.equalsNat cell.generation then .ok (some (i, cell))
        else .ok none
      | none => .ok none
  | .text _ | .bytes _ | .tuple _ => .error (.notAHandle true)
  | _ => .error (.notAHandle false)

/-- The slot that a handle opens. -/
def access (handle : Value) : Except AccessError (Nat × Cell) :=
  match t.find? handle with
  | .error e => .error e
  | .ok (some found) => .ok found
  | .ok none => .error (.invalid t.name handle)

/-- Whether a handle opens a slot. -/
def isValid (handle : Value) : Except AccessError Bool :=
  match t.find? handle with
  | .error e => .error e
  | .ok found => .ok found.isSome

/-- The table with a cell replaced. -/
def setCell (i : Nat) (cell : Cell) : SlotTable :=
  { t with cells := t.cells.set i cell }

/-- A value put into a freed slot, or into a new one; with the handle to it. -/
def create (value : Value) : Value × SlotTable :=
  match t.free with
  | index :: rest =>
    let i := (index.int?.getD 0).toNat
    let generation : Nat := (match t.cells[i]? with | some cell => cell.generation | none => 0) + 1
    (.handle (.int generation) index, { t with free := rest }.setCell i ⟨value, generation, true⟩)
  | [] =>
    (.handle (.int 1) (.int t.cells.length),
      { t with cells := t.cells ++ [⟨value, 1, true⟩], changes := t.changes + 1 })

/-- A slot given free. -/
def destroy (handle : Value) : Except AccessError SlotTable := do
  let (i, cell) ← t.access handle
  let index := match handle with | .handle _ index => index | _ => .int i
  .ok { t.setCell i { cell with value := .absent, occupied := false } with
    free := index :: t.free, changes := t.changes + 1 }

/-- The value in a slot. -/
def get (handle : Value) : Except AccessError Value := do
  let (_, cell) ← t.access handle
  .ok cell.value

/-- A slot with another value. -/
def set (handle value : Value) : Except AccessError SlotTable := do
  let (i, cell) ← t.access handle
  .ok (t.setCell i { cell with value })

/-- How many slots are occupied. -/
def size : Nat :=
  t.cells.countP Cell.occupied

end SlotTable

/-- The message of an access that failed, where there is one. -/
def Slot.AccessError.message? : AccessError → Option String
  | invalid table handle => some (table ++ ": invalid handle " ++ handle.shown)
  | _ => none

/-- A call on a slot table. -/
inductive SlotCall where
  | create (values : List Value)
  | destroy (handle : Value)
  | get (handle : Value)
  | set (handle value : Value)
  | isValid (handle : Value)
  | size

/-- The table after a call, and the answer. -/
def SlotTable.call (t : SlotTable) : SlotCall → Outcome SlotTable AccessError Value
  | .create values =>
    match values with
    | [] => .done (t.create .absent).2 (t.create .absent).1
    | [value] => .done (t.create value).2 (t.create value).1
    | _ => .failed t .tooManyValues
  | .destroy handle =>
    match t.destroy handle with
    | .ok next => .done next .absent
    | .error e => .failed t e
  | .get handle => ⟨t, t.get handle⟩
  | .set handle value =>
    match t.set handle value with
    | .ok next => .done next .absent
    | .error e => .failed t e
  | .isValid handle => ⟨t, (t.isValid handle).map .truth⟩
  | .size => .done t (.int t.size)

end CommandStream
