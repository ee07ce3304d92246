import CommandStream.Registry.Basic

/-!
# Edits of a function

The changes that a custom override makes to one function of a registry, one after another. An edit
that fails leaves the edits before it done. Arguments are counted from the front, or with negative
numbers from the end.
-/

namespace CommandStream

/-- A change of a function. -/
inductive Edit where
  | returnType (type : String)
  /-- A new name under a new key. -/
  | rename (name : String)
  /-- A new name under the old key. -/
  | assignName (name : String)
  | access (label : String)
  | removeArgument (index : Int)
  | addArgument (type name : String)
  | argumentType (index : Int) (type : String)
  | argumentName (index : Int) (name : String)
  | argumentEnum (index : Int) (isEnum : Bool)
  /-- No change, but a failure unless the function has so many arguments. -/
  | expectArguments (count : Nat)

/-- Reasons for which an edit fails. -/
inductive EditError where
  | registry (cause : RegistryError)
  | noSuchArgument
  /-- A function with another number of arguments than expected. -/
  | unexpectedSignature (f : Function)
  deriving DecidableEq

/-- The message of a failed edit, where there is one. -/
def EditError.message? : EditError → Option String
  | registry cause => some cause.message
  | noSuchArgument => none
  | unexpectedSignature f => some ("unexpected signature " ++ f.shown)

/-- Whether an error says that nothing can be emitted. -/
def EditError.unfit : EditError → Bool
  | registry cause => cause.unfit
  | noSuchArgument => false
  | unexpectedSignature _ => true

/-- The position that a number stands for in a list of some length, counted from the end if it is
negative. -/
def position? (length : Nat) (index : Int) : Option Nat :=
  let place := if index < 0 then index + length else index
  if 0 ≤ place ∧ place < length then some place.toNat else none

namespace Function

variable (f : Function)

/-- The function with other arguments. -/
def withArguments (arguments : List Argument) : Function :=
  { f with type := f.type.withArguments arguments }

/-- The function with an argument changed, if it has that argument. -/
def changeArgument (index : Int) (change : Argument → Argument) : Except EditError Function :=
  match position? f.type.arguments.length index with
  | some i => .ok (f.withArguments (f.type.arguments.modify i change))
  | none => .error .noSuchArgument

/-- The function without an argument. -/
def removeArgument (index : Int) : Except EditError Function :=
  match position? f.type.arguments.length index with
  | some i => .ok (f.withArguments (f.type.arguments.eraseIdx i))
  | none => .error .noSuchArgument

end Function

namespace Registry

variable (r : Registry)

/-- The registry with the function at a place changed, unless the change fails. -/
def tryModifyAt (place : Nat) (change : Function → Except EditError Function) :
    Outcome Registry EditError Unit :=
  match (r.functionAt? place).map change with
  | some (.ok changed) => .done (r.modifyAt place fun _ => changed) ()
  | some (.error e) => .failed r e
  | none => .done r ()

/-- The registry after an edit of the function at a place. -/
def edit (place : Nat) : Edit → Outcome Registry EditError Unit
  | .returnType type =>
    .done (r.modifyAt place fun f => { f with type := { f.type with returnType := type } }) ()
  | .rename name => (r.rename place name).within id .registry
  | .assignName name => (r.assignName place name).within id .registry
  | .access label => .done (r.modifyAt place fun f => { f with access := label }) ()
  | .removeArgument index => r.tryModifyAt place fun f => f.removeArgument index
  | .addArgument type name =>
    .done (r.modifyAt place fun f =>
      f.withArguments (f.type.arguments ++ [{ type, name, isEnum := false }])) ()
  | .argumentType index type =>
    r.tryModifyAt place fun f => f.changeArgument index fun a => { a with type }
  | .argumentName index name =>
    r.tryModifyAt place fun f => f.changeArgument index fun a => { a with name }
  | .argumentEnum index isEnum =>
    r.tryModifyAt place fun f => f.changeArgument index fun a => { a with isEnum }
  | .expectArguments count =>
    r.tryModifyAt place fun f =>
      if f.type.arguments.length = count then .ok f else .error (.unexpectedSignature f)

/-- The registry with another return type for a declared function type; functions declared before
keep theirs. -/
def setReturnType (name returnType : String) : Except RegistryError Registry := do
  let type ← r.findType name
  .ok { r with types := Keyed.put r.types name { type with returnType } }

/-- The registry after edits of the function at a place. -/
def editAll (place : Nat) (edits : List Edit) : Outcome Registry EditError Unit :=
  Outcome.runAll (fun r e => r.edit place e) r edits

end Registry

end CommandStream
