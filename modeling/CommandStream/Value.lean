import CommandStream.Floating.Shortest
import CommandStream.Text.Quoted

/-!
# Values

What callers hand to a command and handlers hand back. Truth values count as the integers 0 and 1
wherever a number is wanted. A handle names a slot of a table by generation and index; either field
may hold anything, since handles are made by callers as well.
-/

namespace CommandStream

/-- A value of a command. -/
inductive Value where
  | absent
  | truth (b : Bool)
  | int (n : Int)
  /-- The bits of a double. -/
  | float (bits : UInt64)
  | text (s : String)
  | bytes (data : List UInt8)
  | handle (generation index : Value)
  | tuple (items : List Value)

instance : Inhabited Value := ⟨.absent⟩

namespace Value

/-- The integer that a value counts as. -/
def int? : Value → Option Int
  | truth b => some (if b then 1 else 0)
  | int n => some n
  | _ => none

/-- Whether a value counts as true: everything but absence, zeros and empty sequences. -/
def isTrue : Value → Bool
  | absent => false
  | truth b => b
  | int n => n != 0
  | float bits => Floating.Format.double.magnitude bits.toNat != 0
  | text s => !s.isEmpty
  | bytes data => !data.isEmpty
  | handle _ _ => true
  | tuple items => !items.isEmpty

/-- The members of a value that is a sequence. -/
def members? : Value → Option (List Value)
  | text s => some (s.toList.map fun c => text (String.ofList [c]))
  | bytes data => some (data.map fun b => int b.toNat)
  | handle generation index => some [generation, index]
  | tuple items => some items
  | _ => none

/-- Whether a value equals a natural number: as an integer, or as a float without fraction. -/
def equalsNat (v : Value) (n : Nat) : Bool :=
  match v with
  | float bits => Floating.integer? bits.toNat == some (n : Int)
  | _ => v.int? == some (n : Int)

mutual

/-- The text of a value in a message. -/
def shown : Value → String
  | absent => "None"
  | truth b => if b then "True" else "False"
  | int n => toString n
  | float bits => Floating.text bits.toNat
  | text s => Text.quoted s
  | bytes data => Text.quotedBytes data
  | handle generation index =>
    "Handle(generation=" ++ generation.shown ++ ", index=" ++ index.shown ++ ")"
  | tuple items =>
    match shownAll items with
    | [item] => "(" ++ item ++ ",)"
    | all => "(" ++ ", ".intercalate all ++ ")"

/-- The texts of several values. -/
def shownAll : List Value → List String
  | [] => []
  | item :: rest => item.shown :: shownAll rest

end

end Value

end CommandStream
