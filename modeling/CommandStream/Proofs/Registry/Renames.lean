import CommandStream.Proofs.Registry.ShortNames

/-!
# Renamings that collide with no short name

A renaming looks its new name up among the keys only. Where every renaming goes to a name that is a key already, or to
one whose short name no other function has, a registry stays in order: every function stands under its own name with
the short name of this name, no two short names are the same, and the index has just these. Each such renaming is
refused for the name of another function and in no other case, and changes one entry, at its place.
-/

namespace CommandStream

/-- A function that has the short name of its name gets that of any other name with it, and keeps its own with its own. -/
theorem Function.renamed?_of_derived {f : Function} {start : String} (derived : shortName? f.name start = some f.shortName)
    (new : String) : f.renamed? start new = (shortName? new start).map fun short => { f with name := new, shortName := short } := by
  unfold renamed?
  split
  · rename_i same
    rw [same, derived]
    rfl
  · rfl

namespace Registry

/-- A call that, if it renames, renames a function of the registry to a key or to a name whose short name is no other
function's. -/
def Spares (r : Registry) : RegistryCall → Prop
  | .rename place new => (r.functionAt? place).isSome ∧ new ≠ "" ∧
      (new ∈ Keyed.keys r.functions ∨ ∀ short ∈ shortName? new r.start, short ∉ r.shortsBut place)
  | _ => True

/-- Calls that all spare the short names of other functions. -/
def Sparing (r : Registry) : List RegistryCall → Prop
  | [] => True
  | c :: rest => r.Spares c ∧ (r.call c).state.Sparing rest

instance (r : Registry) : DecidablePred r.Spares
  | .addType _ => inferInstanceAs (Decidable True)
  | .addFunction .. => inferInstanceAs (Decidable True)
  | .rename place new => inferInstanceAs (Decidable ((r.functionAt? place).isSome ∧ new ≠ "" ∧
      (new ∈ Keyed.keys r.functions ∨ ∀ short ∈ shortName? new r.start, short ∉ r.shortsBut place)))

instance decidableSparing (r : Registry) : (calls : List RegistryCall) → Decidable (r.Sparing calls)
  | [] => inferInstanceAs (Decidable True)
  | c :: rest =>
    have := decidableSparing (r.call c).state rest
    inferInstanceAs (Decidable (r.Spares c ∧ (r.call c).state.Sparing rest))

/-- What is wrong with the signature of a function. -/
def signatureFault? (entry : String × Function) : Option RegistryError :=
  if entry.2.type.returnType.isEmpty then some (.noReturnType entry.1)
  else argumentFault? entry.1 [] entry.2.type.arguments

/-- Whether the signatures of a registry can be emitted, whatever the names of its functions. -/
def validateSignatures (r : Registry) : Except RegistryError Unit :=
  match r.functions.findSome? signatureFault? with
  | some fault => .error fault
  | none => .ok ()

/-- A registry in which the name of every function is its key and gives its short name, and in which a check finds nothing
wrong but signatures. -/
structure WellNamed (r : Registry) : Prop where
  keyed : ∀ entry ∈ r.functions, entry.1 = entry.2.name
  derived : ∀ entry ∈ r.functions, shortName? entry.2.name r.start = some entry.2.shortName
  passes : r.validate = r.validateSignatures

/-- A registry for functions of a start, with functions under their own names, and with the short names of these, which are
distinct and those of the index. -/
structure Tidy (r : Registry) (start : String) : Prop where
  begins : r.start = start
  filed : r.Filed
  derived : ∀ entry ∈ r.functions, shortName? entry.2.name r.start = some entry.2.shortName
  distinct : r.shorts.Nodup
  exact_ : r.Exact

variable {r r' : Registry} {place : Nat} {f g : Function} {start new : String}

/-! ## Checks -/

/-- Functions under their own names, with short names of their own, have no fault but in a signature. -/
theorem fault?_of_named {seen : Keyed String} {functions : Keyed Function}
    (keyed : ∀ entry ∈ functions, entry.1 = entry.2.name)
    (distinct : ((Keyed.values functions).map Function.shortName).Nodup)
    (apart : ∀ f ∈ Keyed.values functions, f.shortName ∉ Keyed.keys seen) :
    fault? seen functions = functions.findSome? signatureFault? := by
  induction functions generalizing seen with
  | nil => rfl
  | cons entry rest ih =>
    obtain ⟨key, f⟩ := entry
    have own : f.name = key := (keyed _ List.mem_cons_self).symm
    have free : Keyed.find? seen f.shortName = none := find?_eq_none_iff.mpr (apart f List.mem_cons_self)
    obtain ⟨unshared, distinct⟩ := List.nodup_cons.mp distinct
    have later : fault? ((f.shortName, key) :: seen) rest = rest.findSome? signatureFault? := by
      refine ih (fun entry member => keyed entry (List.mem_cons_of_mem _ member)) distinct fun g member held => ?_
      rcases List.mem_cons.mp held with same | before
      · exact unshared (List.mem_map.mpr ⟨g, member, same⟩)
      · exact apart g (List.mem_cons_of_mem _ member) before
    rw [fault?, if_neg (not_not.mpr own), free, List.findSome?_cons, signatureFault?]
    dsimp only
    split
    · rfl
    · cases argumentFault? key [] f.type.arguments with
      | some fault => rfl
      | none => exact later

theorem Tidy.wellNamed (tidy : r.Tidy start) : r.WellNamed where
  keyed := tidy.filed.named
  derived := tidy.derived
  passes := by
    have fault : fault? [] r.functions = r.functions.findSome? signatureFault? :=
      fault?_of_named tidy.filed.named tidy.distinct fun _ _ => List.not_mem_nil
    cases found : r.functions.findSome? signatureFault? with
    | some e => simp only [validate, validateSignatures, fault, found]
    | none => simp only [validate, validateSignatures, fault, found]

/-! ## Additions -/

theorem tidy_empty (start : String) : (empty start).Tidy start where
  begins := rfl
  filed := filed_empty start
  derived := fun _ member => absurd member List.not_mem_nil
  distinct := List.nodup_nil
  exact_ := fun _ => iff_of_false List.not_mem_nil List.not_mem_nil

theorem Tidy.addType (tidy : r.Tidy start) (type : FunctionType) : (r.call (.addType type)).state.Tidy start := by
  have exact_ := (r.extended_addType type).exact tidy.exact_
  simp only [call, Registry.addType] at exact_ ⊢
  split
  · rename_i added
    split at added
    · cases added
    split at added
    · cases added
    · cases added
      exact ⟨tidy.begins, tidy.filed.of_functions rfl, tidy.derived, tidy.distinct, tidy.exact_⟩
  · exact tidy

theorem Tidy.addFunction (tidy : r.Tidy start) (name typedefName : String) :
    (r.call (.addFunction name typedefName)).state.Tidy start := by
  have exact_ := (r.extended_addFunction name typedefName).exact tidy.exact_
  cases answer : r.addFunction name typedefName with
  | error e =>
    simp only [call, answer, Outcome.state_failed]
    exact tidy
  | ok both =>
    obtain ⟨f, grown⟩ := both
    simp only [call, answer, Outcome.state_done] at exact_ ⊢
    have filed := tidy.filed.addFunction answer
    obtain ⟨short, type, -, fresh, -, derived, rfl, rfl⟩ := addFunction_declared answer
    refine ⟨tidy.begins, filed, ?_, ?_, exact_⟩
    · intro entry member
      rcases List.mem_append.mp member with before | last
      · exact tidy.derived entry before
      · cases List.mem_singleton.mp last
        exact derived
    · have unshared : short ∉ r.shorts := fun member => fresh ((tidy.exact_ short).mpr member)
      simp only [shorts, Keyed.values, List.map_append, List.map_cons, List.map_nil] at unshared ⊢
      exact List.nodup_append.mpr ⟨tidy.distinct, List.nodup_singleton _, fun s held t last same =>
        unshared (List.mem_singleton.mp last ▸ same ▸ held)⟩

/-! ## Renamings -/

/-- A renaming of a function in order is refused for the name of another function, and succeeds for all other names. -/
theorem Tidy.rename_iff (tidy : r.Tidy start) (at_ : r.functionAt? place = some f) (named : new ≠ "") :
    (new ∈ Keyed.keys r.functions ∧ new ≠ f.name → r.rename place new = .failed r (.nameTaken f.name new)) ∧
    (¬ (new ∈ Keyed.keys r.functions ∧ new ≠ f.name) → (r.rename place new).answer = .ok ()) := by
  have indexed : f.shortName ∈ Keyed.keys r.shortNames := (tidy.exact_ _).mpr ((mem_shorts_iff at_ _).mpr (.inl rfl))
  have result := renaming_rename at_ new
  generalize r.rename place new = o at result ⊢
  cases result with
  | own same => exact ⟨fun other => absurd same other.2, fun _ => rfl⟩
  | taken other held => exact ⟨fun _ => rfl, fun free => absurd ⟨held, other⟩ free⟩
  | lost _ _ absent => exact absurd indexed absent
  | unnamed _ _ _ nameless =>
    have some_short := isSome_shortName? named r.start
    rw [nameless] at some_short
    cases some_short
  | named _ free => exact ⟨fun held => absurd held.1 free, fun _ => rfl⟩

theorem shortsBut_of_replaced (replaced : Replaced r r' place g) : r'.shortsBut place = r.shortsBut place := by
  rw [shortsBut, replaced.functions, List.eraseIdx_set_eq, shortsBut]

/-- A function replaced by one with the short name of its name, which no other function has. -/
theorem Tidy.replaced (tidy : r.Tidy start) (at_ : r.functionAt? place = some f) (replaced : Replaced r r' place g)
    (derived : shortName? g.name r.start = some g.shortName) (unshared : g.shortName ∉ r.shortsBut place)
    (exact_ : r'.Exact) : r'.Tidy start := by
  obtain ⟨⟨key, _⟩, stands, rfl⟩ := Option.map_eq_some_iff.mp at_
  have now : r'.functionAt? place = some g := functionAt?_eq (replaced.stands stands)
  refine ⟨replaced.start.trans tidy.begins, replaced.filed, ?_, ?_, exact_⟩
  · intro entry member
    rw [replaced.start]
    rw [replaced.functions] at member
    rcases List.mem_or_eq_of_mem_set member with before | rfl
    · exact tidy.derived entry before
    · exact derived
  · have others := (List.nodup_cons.mp ((perm_shorts at_).nodup_iff.mp tidy.distinct)).2
    refine (perm_shorts now).nodup_iff.mpr ?_
    rw [shortsBut_of_replaced replaced]
    exact List.nodup_cons.mpr ⟨unshared, others⟩

/-- What a renaming that spares other short names does where it succeeds. -/
theorem Tidy.rename_ok (tidy : r.Tidy start) (at_ : r.functionAt? place = some f) (spares : r.Spares (.rename place new))
    (renamed : (r.rename place new).answer = .ok ()) :
    ∃ short, shortName? new r.start = some short ∧
      Replaced r (r.rename place new).state place { f with name := new, shortName := short } ∧
      (r.rename place new).state.Tidy start := by
  obtain ⟨-, named, apart⟩ := spares
  obtain ⟨⟨key, f⟩, stands, rfl⟩ := Option.map_eq_some_iff.mp at_
  have derived := tidy.derived _ (List.mem_of_getElem? stands)
  obtain ⟨g, other, replaced⟩ := Registry.rename_ok tidy.filed stands renamed
  rw [Function.renamed?_of_derived derived] at other
  obtain ⟨short, named_short, rfl⟩ := Option.map_eq_some_iff.mp other
  have alone : f.shortName ∉ r.shortsBut place :=
    (List.nodup_cons.mp ((perm_shorts at_).nodup_iff.mp tidy.distinct)).1
  have unshared : short ∉ r.shortsBut place := by
    rcases apart with held | free
    · -- A key that is not refused is the function's own name.
      have own : new = f.name := by
        by_contra other
        rw [(tidy.rename_iff at_ named).1 ⟨held, other⟩] at renamed
        cases renamed
      rw [own, derived] at named_short
      cases named_short
      exact alone
    · exact free short named_short
  have exact_ : (r.rename place new).state.Exact := by
    refine (exact_call_iff tidy.exact_ (c := .rename place new) named).mpr ?_
    rintro ⟨g, here, -, -, -, shared⟩
    rw [at_] at here
    cases here
    exact alone shared
  exact ⟨short, named_short, replaced, tidy.replaced at_ replaced named_short unshared exact_⟩

/-! ## Runs -/

theorem Tidy.call (tidy : r.Tidy start) {c : RegistryCall} (spares : r.Spares c) : (r.call c).state.Tidy start := by
  cases c with
  | addType type => exact tidy.addType type
  | addFunction name typedefName => exact tidy.addFunction name typedefName
  | rename place new =>
    obtain ⟨f, at_⟩ := Option.isSome_iff_exists.mp spares.1
    obtain ⟨refused, taken⟩ := tidy.rename_iff at_ spares.2.1
    by_cases held : new ∈ Keyed.keys r.functions ∧ new ≠ f.name
    · show (r.rename place new).state.Tidy start
      rw [refused held]
      exact tidy
    · obtain ⟨-, -, -, still⟩ := tidy.rename_ok at_ spares (taken held)
      exact still

theorem Sparing.tidy {calls : List RegistryCall} (sparing : r.Sparing calls) (tidy : r.Tidy start) :
    (r.after calls).Tidy start := by
  induction calls generalizing r with
  | nil => exact tidy
  | cons c rest ih => exact ih sparing.2 (tidy.call sparing.1)

/-- **Renamings without collisions keep a registry valid and in order.** Calls on a new registry may add what they like, and
rename any function to a key or to a name whose short name no other function has. Wherever they lead, the name of every
function is its key and gives its short name, and a check finds nothing wrong but signatures. The next such renaming changes
nothing exactly if its new name is another function's, and then this is the error. Otherwise it succeeds, puts the function
under its new name and its new short name at its place, leaves everything else but the index, and the registry is well named. -/
theorem renames_keep_order (start : String) (calls : List RegistryCall) (sparing : (empty start).Sparing calls) :
    let r := (empty start).after calls
    r.start = start ∧ r.WellNamed ∧
    ∀ place f new, r.functionAt? place = some f → r.Spares (.rename place new) →
      (new ∈ Keyed.keys r.functions ∧ new ≠ f.name → r.rename place new = .failed r (.nameTaken f.name new)) ∧
      (¬ (new ∈ Keyed.keys r.functions ∧ new ≠ f.name) → ∃ short shortNames, shortName? new start = some short ∧
        let r' := { r with functions := r.functions.set place (new, { f with name := new, shortName := short }), shortNames }
        r.rename place new = .done r' () ∧ Keyed.keys r'.functions = (Keyed.keys r.functions).set place new ∧ r'.WellNamed) := by
  intro r
  have tidy : r.Tidy start := sparing.tidy (tidy_empty start)
  refine ⟨tidy.begins, tidy.wellNamed, fun place f new at_ spares => ?_⟩
  obtain ⟨refused, taken⟩ := tidy.rename_iff at_ spares.2.1
  refine ⟨refused, fun free => ?_⟩
  obtain ⟨short, derived, replaced, still⟩ := tidy.rename_ok at_ spares (taken free)
  obtain ⟨shortNames, others⟩ := replaced.others
  rw [replaced.functions] at others
  refine ⟨short, shortNames, tidy.begins ▸ derived, ?_, ?_, others ▸ still.wellNamed⟩
  · rw [Outcome.done, ← others, ← taken free]
  · rw [Keyed.keys, Keyed.keys, List.map_set]

end Registry

/-! ## A name that goes around -/

namespace PassedName
open Registry

def finish : FunctionType := ⟨"PFNGLFINISHPROC", "void", false, []⟩

/-- A function gets another name, a second one gets the name that it had, and a third one is added under the name that the
second had. -/
def calls : List RegistryCall :=
  [.addType finish, .addFunction "glFoo" "PFNGLFINISHPROC", .addFunction "glBar" "PFNGLFINISHPROC", .rename 0 "glBaz",
   .rename 1 "glFoo", .addFunction "glBar" "PFNGLFINISHPROC"]

def registry : Registry := (Registry.empty "gl").after calls

/-- The functions stand where they stood, under their present names, and the first cannot get the name of the last. -/
theorem names_pass : (Registry.empty "gl").Sparing calls ∧ Keyed.keys registry.functions = ["glBaz", "glFoo", "glBar"] ∧
    registry.WellNamed ∧ registry.Spares (.rename 0 "glBar") ∧
    registry.rename 0 "glBar" = .failed registry (.nameTaken "glBaz" "glBar") := by
  have sparing : (Registry.empty "gl").Sparing calls := by decide +kernel
  have spares : registry.Spares (.rename 0 "glBar") := by decide +kernel
  obtain ⟨-, named, renames⟩ := renames_keep_order "gl" calls sparing
  have first : registry.functionAt? 0 = some ⟨"glBaz", "Baz", Function.publicAccess, finish⟩ := rfl
  exact ⟨sparing, by decide +kernel, named, spares, (renames 0 _ "glBar" first spares).1 (by decide +kernel)⟩

end PassedName

end CommandStream
