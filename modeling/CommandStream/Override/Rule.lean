import CommandStream.Registry.Edit
import CommandStream.Slot.Resource

/-!
# Override rules

A rule is registered for one function by name. It may change the signature of the function before
emission, and it may provide the statements of the producer or the consumer instead of the usual
ones.
-/

namespace CommandStream

/-- Where the usual statements of a function go among the lines of a script. -/
inductive DefaultPlace where
  | nowhere
  | before
  | after
  deriving DecidableEq

/-- Lines that a custom rule emits. -/
structure Script where
  lines : List String
  default : DefaultPlace

/-- What a custom rule has the consumer do. -/
inductive Consumption where
  | script (s : Script)
  /-- The usual reads, then a native call with the number one and the addresses of the second and
  third argument. -/
  | singleElement (native : String)

/-- What a rule does. -/
inductive Effect where
  /-- Nothing. -/
  | none
  /-- Arguments with one of the names or positions get a type; if a native type is given, only those
  that still have it. -/
  | retype (type : String) (names : List String) (indices : List Int) (native : Option String)
  /-- A function that makes several objects becomes one that returns the handle of one; the first
  arguments are kept. -/
  | generate (kind : ResourceKind) (name : String) (kept : Int)
  /-- A function that returns an object returns a handle, for which a resource kind is needed. -/
  | create (kind : Option ResourceKind)
  /-- A function that deletes objects takes one handle. -/
  | delete (kind : ResourceKind) (argument : String) (name : Option String)
  /-- Edits of the signature, and statements of either side. -/
  | custom (edits : List Edit) (write : Option Script) (read : Option Consumption)

/-- A rule for the function that had a name when the rule was registered. -/
structure Rule where
  function : String
  effect : Effect

namespace Rule

/-- The label of a rule in listings. -/
def label (r : Rule) : String :=
  match r.effect with
  | .none => "OverrideRule"
  | .retype .. => "RetypeArgumentsRule"
  | .generate .. => "GenResourceRule"
  | .create .. => "CreateObjectRule"
  | .delete .. => "DeleteResourceRule"
  | .custom .. => "CallbackRule"

/-- The kind of which the rule makes objects. -/
def creates? (r : Rule) : Option ResourceKind :=
  match r.effect with
  | .generate kind _ _ => some kind
  | .create kind => kind
  | _ => Option.none

/-- The kind of which the rule deletes objects. -/
def destroys? (r : Rule) : Option ResourceKind :=
  match r.effect with
  | .delete kind _ _ => some kind
  | _ => Option.none

/-- Whether the consumer calls the function by the name it had when the rule was registered. -/
def keepsNativeCall (r : Rule) : Bool :=
  match r.effect with
  | .generate .. => true
  | .create .. => true
  | .delete .. => true
  | _ => false

end Rule

/-- Reasons for which overrides are not registered or applied. -/
inductive OverrideError where
  /-- A rule on native objects without a resource kind. -/
  | noResource
  /-- A standard set of rules without an argument name. -/
  | noArgumentName
  | alreadyApplied
  | edit (cause : EditError)
  deriving DecidableEq

/-- The message of an override error, where there is one. -/
def OverrideError.message? : OverrideError → Option String
  | noResource => none
  | noArgumentName => none
  | alreadyApplied => some "overrides already applied"
  | edit cause => cause.message?

/-- Whether an error says that nothing can be emitted. -/
def OverrideError.unfit : OverrideError → Bool
  | noResource => false
  | noArgumentName => false
  | alreadyApplied => true
  | edit cause => cause.unfit

namespace Effect

/-- Whether an argument is retyped. -/
def selects (names : List String) (indices : List Int) (native : Option String) (index : Nat)
    (a : Argument) : Bool :=
  (match native with
    | some type => type.isEmpty || a.type == type
    | Option.none => true) &&
  (names.contains a.name || indices.contains (index : Int))

/-- The arguments behind the first `index`, retyped where they are selected. -/
def retypeFrom (type : String) (select : Nat → Argument → Bool) (index : Nat) :
    List Argument → List Argument
  | [] => []
  | a :: rest =>
    (if select index a then { a with type, isEnum := false } else a) ::
      retypeFrom type select (index + 1) rest

/-- The first of some arguments; a negative number leaves out as many at the end. -/
def keepFirst (kept : Int) (arguments : List Argument) : List Argument :=
  if kept < 0 then arguments.take (arguments.length + kept).toNat
  else arguments.take kept.toNat

/-- A function that returns a handle. -/
def returningHandle (kind : ResourceKind) (f : Function) : Function :=
  { f with type := { f.type with returnType := kind.handleType, returnsEnum := false } }

/-- The outcome of a renaming as part of an override. -/
def renamed (r : Registry) (place : Nat) (name : String) : Outcome Registry OverrideError Unit :=
  (r.rename place name).within id fun e => .edit (.registry e)

/-- The registry after the effect on the function at a place. -/
def mutate (effect : Effect) (r : Registry) (place : Nat) : Outcome Registry OverrideError Unit :=
  match effect with
  | .none => .done r ()
  | .retype type names indices native =>
    .done (r.modifyAt place fun f =>
      f.withArguments (retypeFrom type (selects names indices native) 0 f.type.arguments)) ()
  | .generate kind name kept =>
    (renamed r place name).andThen fun r _ =>
      let cut := r.modifyAt place fun f => f.withArguments (keepFirst kept f.type.arguments)
      .done (cut.modifyAt place (returningHandle kind)) ()
  | .create kind =>
    match kind with
    | some kind => .done (r.modifyAt place (returningHandle kind)) ()
    | Option.none => .failed r .noResource
  | .delete kind argument name =>
    let moved : Outcome Registry OverrideError Unit :=
      match name with
      | some name => if name.isEmpty then .done r () else renamed r place name
      | Option.none => .done r ()
    moved.andThen fun r _ =>
      .done (r.modifyAt place fun f => f.withArguments
        [{ type := kind.handleType, name := argument, isEnum := false }]) ()
  | .custom edits _ _ => (r.editAll place edits).within id .edit

end Effect

end CommandStream
