import CommandStream.Keyed
import CommandStream.Outcome
import CommandStream.Signature

/-!
# The registry

The defines, function types, functions and enum groups of one interface. Functions stand in order
of declaration under their names as keys; renaming keeps their place. Short names are indexed, so
that two functions never get the same command.
-/

namespace CommandStream

/-- The symbols of an enum group by the keys they get in emitted code. -/
structure EnumGroup where
  name : String
  values : Keyed String
  deriving DecidableEq

namespace EnumGroup

/-- A group with a symbol added; the first symbol of a key stays. -/
def add (group : EnumGroup) (key symbol : String) : EnumGroup :=
  if Keyed.hasKey group.values key then group
  else { group with values := group.values ++ [(key, symbol)] }

end EnumGroup

/-- Reasons for which the registry refuses an operation or is unfit for emission. -/
inductive RegistryError where
  | frozen
  | typeDeclared (type : String)
  | unknownType (type : String)
  | functionDeclared (name : String)
  | shortNameTaken (short name holder : String)
  /-- A new name that another function has. -/
  | nameTaken (old new : String)
  /-- A short name that the index has lost. -/
  | shortNameLost (short : String)
  /-- The empty name, which has no short name. -/
  | noShortName
  /-- A function whose name is not its key. -/
  | miskeyed (name key : String)
  | shortNameShared (short name holder : String)
  | noReturnType (name : String)
  | malformedArgument (name : String) (argument : Argument)
  | repeatedArgument (name argument : String)
  deriving DecidableEq

/-- The message of a registry error. -/
def RegistryError.message : RegistryError → String
  | frozen => "registry is frozen"
  | typeDeclared type => "function type " ++ type ++ " already declared"
  | unknownType type => "unknown function type " ++ type
  | functionDeclared name => "function " ++ name ++ " already declared"
  | shortNameTaken short name holder =>
    "short name " ++ short ++ " of " ++ name ++ " collides with " ++ holder
  | nameTaken old new => "cannot rename " ++ old ++ " to existing function " ++ new
  | shortNameLost short => short
  | noShortName => ""
  | miskeyed name key => "function " ++ name ++ " is keyed as " ++ key
  | shortNameShared short name holder =>
    "short name " ++ short ++ " of " ++ name ++ " collides with " ++ holder
  | noReturnType name => name ++ " has no return type"
  | malformedArgument name argument => name ++ " has a malformed argument " ++ argument.shown
  | repeatedArgument name argument => name ++ " has two arguments named " ++ argument

/-- Whether an error says that nothing can be emitted, rather than that an entry was refused. -/
def RegistryError.unfit : RegistryError → Bool
  | typeDeclared _ => false
  | unknownType _ => false
  | functionDeclared _ => false
  | shortNameTaken .. => false
  | shortNameLost _ => false
  | noShortName => false
  | _ => true

/-- The functions, types, defines and enum groups of an interface. -/
structure Registry where
  /-- What the names of functions start with. -/
  start : String
  defines : List String
  types : Keyed FunctionType
  functions : Keyed Function
  enums : Keyed EnumGroup
  frozen : Bool
  /-- The function of each short name. -/
  shortNames : Keyed String
  deriving DecidableEq

namespace Registry

/-- The registry without content. -/
def empty (start : String) : Registry :=
  { start, defines := [], types := [], functions := [], enums := [], frozen := false,
    shortNames := [] }

variable (r : Registry)

/-- What the defines of the interface start with. -/
def defineStart : String := Text.capitals r.start ++ "_"

/-- The registry with a define. -/
def addDefine (name : String) : Except RegistryError Registry :=
  if r.frozen then .error .frozen
  else if r.defines.contains name then .ok r
  else .ok { r with defines := r.defines ++ [name] }

/-- The registry with a function type. -/
def addType (type : FunctionType) : Except RegistryError Registry :=
  if r.frozen then .error .frozen
  else if Keyed.hasKey r.types type.typedefName then .error (.typeDeclared type.typedefName)
  else .ok { r with types := r.types ++ [(type.typedefName, type)] }

/-- The declared function type of a name. -/
def findType (name : String) : Except RegistryError FunctionType :=
  match Keyed.find? r.types name with
  | some type => .ok type
  | none => .error (.unknownType name)

/-- The registry with a function of a declared type, and that function. -/
def addFunction (name typedefName : String) : Except RegistryError (Function × Registry) :=
  if r.frozen then .error .frozen
  else if Keyed.hasKey r.functions name then .error (.functionDeclared name)
  else do
    let type ← r.findType typedefName
    let some short := shortName? name r.start | .error .noShortName
    match Keyed.find? r.shortNames short with
    | some holder => .error (.shortNameTaken short name holder)
    | none =>
      let f : Function := { name, shortName := short, access := Function.publicAccess, type }
      .ok (f, { r with
        functions := r.functions ++ [(name, f)], shortNames := r.shortNames ++ [(short, name)] })

/-- The functions whose keys start with a text. -/
def functionsStarting (start : String) : List Function :=
  (r.functions.filter fun entry => beginsWith entry.1 start).map Prod.snd

/-- The place of a function by its key. -/
def placeOf? (key : String) : Option Nat :=
  r.functions.findIdx? fun entry => entry.1 == key

/-- The function at a place. -/
def functionAt? (place : Nat) : Option Function :=
  r.functions[place]?.map Prod.snd

/-- The registry with the function at a place changed. -/
def modifyAt (place : Nat) (change : Function → Function) : Registry :=
  { r with functions := r.functions.modify place fun entry => (entry.1, change entry.2) }

/-- The registry with a name assigned to the function at a place; the key stays. -/
def assignName (place : Nat) (name : String) : Outcome Registry RegistryError Unit :=
  match shortName? name r.start with
  | some short => .done (r.modifyAt place fun f => { f with name, shortName := short }) ()
  | none => .failed (r.modifyAt place fun f => { f with name }) .noShortName

/-- The functions with one key replaced. -/
def rekeyed (old new : String) : Keyed Function :=
  r.functions.map fun entry => if entry.1 = old then (new, entry.2) else entry

/-- The registry with the function at a place renamed, in the same place of the order. -/
def rename (place : Nat) (new : String) : Outcome Registry RegistryError Unit :=
  match r.functionAt? place with
  | none => .done r ()
  | some f =>
    if new = f.name then .done r ()
    else if Keyed.hasKey r.functions new then .failed r (.nameTaken f.name new)
    else
      let moved := { r with functions := r.rekeyed f.name new }
      if Keyed.hasKey r.shortNames f.shortName then
        let unindexed := { moved with shortNames := Keyed.drop r.shortNames f.shortName }
        (unindexed.assignName place new).andThen fun named _ =>
          match named.functionAt? place with
          | some g =>
            .done { named with shortNames := Keyed.put named.shortNames g.shortName new } ()
          | none => .done named ()
      else .failed moved (.shortNameLost f.shortName)

/-- The registry closed to new entries. -/
def freeze : Registry := { r with frozen := true }

/-- Whether an argument can be emitted. -/
def wellFormed (a : Argument) : Bool :=
  !a.type.isEmpty && !a.name.isEmpty && Text.isIdentifier a.name

/-- The first fault in the arguments of a function, behind those with the given names. -/
def argumentFault? (name : String) (seen : List String) : List Argument → Option RegistryError
  | [] => none
  | a :: rest =>
    if !wellFormed a then some (.malformedArgument name a)
    else if seen.contains a.name then some (.repeatedArgument name a.name)
    else argumentFault? name (a.name :: seen) rest

/-- The first fault in functions, behind those with the given short names. -/
def fault? (seen : Keyed String) : Keyed Function → Option RegistryError
  | [] => none
  | (key, f) :: rest =>
    if f.name ≠ key then some (.miskeyed f.name key)
    else
      match Keyed.find? seen f.shortName with
      | some holder => some (.shortNameShared f.shortName key holder)
      | none =>
        if f.type.returnType.isEmpty then some (.noReturnType key)
        else
          match argumentFault? key [] f.type.arguments with
          | some fault => some fault
          | none => fault? ((f.shortName, key) :: seen) rest

/-- Whether the registry can be emitted: every function under its own name with a short name of
its own, a return type, and arguments with types and distinct identifiers as names. -/
def validate : Except RegistryError Unit :=
  match fault? [] r.functions with
  | some fault => .error fault
  | none => .ok ()

/-- Whether no two functions have one short name, by which their commands are told apart. -/
def Unambiguous : Prop :=
  ((Keyed.values r.functions).map Function.shortName).Nodup

instance : Decidable r.Unambiguous :=
  inferInstanceAs (Decidable (List.Nodup _))

section Faultless

variable {seen : Keyed String} {key : String} {f : Function} {functions : Keyed Function}

/-- Functions without a fault: the first has its name as key, and a short name that none before it
has. -/
theorem fault?_cons (sound : fault? seen ((key, f) :: functions) = none) :
    f.name = key ∧ f.shortName ∉ Keyed.keys seen ∧
      fault? ((f.shortName, key) :: seen) functions = none := by
  unfold fault? at sound
  split at sound
  · cases sound
  rename_i own
  split at sound
  · cases sound
  rename_i free
  split at sound
  · cases sound
  split at sound
  · cases sound
  exact ⟨Decidable.of_not_not own, find?_eq_none_iff.mp free, sound⟩

/-- Functions that can be emitted have short names of their own. -/
theorem nodup_of_fault? (sound : fault? seen functions = none) :
    ((Keyed.values functions).map Function.shortName).Nodup ∧
      ∀ f ∈ Keyed.values functions, f.shortName ∉ Keyed.keys seen := by
  induction functions generalizing seen with
  | nil => exact ⟨List.nodup_nil, fun f member => by cases member⟩
  | cons entry rest ih =>
    obtain ⟨-, free, sound⟩ := fault?_cons sound
    obtain ⟨distinct, outside⟩ := ih sound
    simp only [Keyed.keys, List.map_cons, List.mem_cons, not_or] at outside
    constructor
    · refine List.nodup_cons.mpr ⟨?_, distinct⟩
      intro member
      obtain ⟨g, among, same⟩ := List.mem_map.mp member
      exact (outside g among).1 same
    · intro g member
      rcases List.mem_cons.mp member with rfl | among
      · exact free
      · exact (outside g among).2

end Faultless

theorem fault?_of_validate {r : Registry} (valid : r.validate = .ok ()) :
    fault? [] r.functions = none := by
  unfold validate at valid
  split at valid
  · cases valid
  · assumption

theorem unambiguous_of_validate {r : Registry} (valid : r.validate = .ok ()) : r.Unambiguous :=
  (nodup_of_fault? (fault?_of_validate valid)).1

end Registry

end CommandStream
