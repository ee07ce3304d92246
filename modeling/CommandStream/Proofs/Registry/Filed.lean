import Mathlib.Data.List.Nodup
import CommandStream.Proofs.Failure
import CommandStream.Proofs.Lookup
import CommandStream.Registry.Basic

/-!
# Functions under their own names

Every function of a registry stands under its own name, and no name comes twice. A change of one
function that succeeds keeps it so: the function stays at its place, under its new name if it has
one, and all others stay what they are.
-/

namespace CommandStream

/-- A function under another name, if that has a short name. Its own name changes nothing. -/
def Function.renamed? (f : Function) (start new : String) : Option Function :=
  if new = f.name then some f
  else (shortName? new start).map fun short => { f with name := new, shortName := short }

theorem Function.name_of_renamed? {f g : Function} {start new : String} (renamed : f.renamed? start new = some g) :
    g.name = new := by
  unfold renamed? at renamed
  split at renamed
  · rename_i same
    cases renamed
    exact same.symm
  · obtain ⟨short, -, rfl⟩ := Option.map_eq_some_iff.mp renamed
    rfl

namespace Registry

/-- A registry in which every function stands under its own name, and no two under one. -/
structure Filed (r : Registry) : Prop where
  named : ∀ entry ∈ r.functions, entry.1 = entry.2.name
  nodup : (Keyed.keys r.functions).Nodup

/-- A registry with another function at a place, and filed again. -/
structure Replaced (r r' : Registry) (place : Nat) (g : Function) : Prop where
  functions : r'.functions = r.functions.set place (g.name, g)
  others : ∃ shortNames, r' = { r with functions := r'.functions, shortNames }
  filed : r'.Filed

variable {r r' : Registry} {place : Nat} {key : String} {f g : Function}

theorem filed_empty (start : String) : (empty start).Filed := by
  constructor
  · intro entry member
    cases member
  · exact List.nodup_nil

theorem Filed.freeze (filed : r.Filed) : r.freeze.Filed :=
  ⟨filed.named, filed.nodup⟩

theorem Filed.name_eq (filed : r.Filed) (stands : r.functions[place]? = some (key, f)) : f.name = key :=
  (filed.named _ (List.mem_of_getElem? stands)).symm

theorem keys_getElem? (stands : r.functions[place]? = some (key, f)) : (Keyed.keys r.functions)[place]? = some key := by
  rw [Keyed.keys, List.getElem?_map, stands]
  rfl

theorem mem_keys_iff : key ∈ Keyed.keys r.functions ↔ ∃ (place : Nat) (f : Function), r.functions[place]? = some (key, f) := by
  constructor
  · intro member
    obtain ⟨⟨_, f⟩, listed, rfl⟩ := List.mem_map.mp member
    obtain ⟨place, stands⟩ := List.mem_iff_getElem?.mp listed
    exact ⟨place, f, stands⟩
  · rintro ⟨place, f, stands⟩
    exact List.mem_map_of_mem (List.mem_of_getElem? stands)

theorem mem_keys (stands : r.functions[place]? = some (key, f)) : key ∈ Keyed.keys r.functions :=
  mem_keys_iff.mpr ⟨place, f, stands⟩

/-- A name belongs to one place. -/
theorem Filed.place_unique (filed : r.Filed) {i j : Nat} (first : r.functions[i]? = some (key, f))
    (second : r.functions[j]? = some (key, g)) : i = j := by
  have bound : i < (Keyed.keys r.functions).length := by
    rw [Keyed.keys, List.length_map]
    exact (List.getElem?_eq_some_iff.mp first).1
  apply (List.getElem?_inj bound filed.nodup).mp
  rw [keys_getElem? first, keys_getElem? second]

theorem Filed.placeOf?_eq_some (filed : r.Filed) :
    r.placeOf? key = some place ↔ ∃ f, r.functions[place]? = some (key, f) := by
  have sound : ∀ {i}, r.placeOf? key = some i → ∃ f, r.functions[i]? = some (key, f) := by
    intro i found
    obtain ⟨bound, same, -⟩ := List.findIdx?_eq_some_iff_getElem.mp found
    refine ⟨r.functions[i].2, List.getElem?_eq_some_iff.mpr ⟨bound, ?_⟩⟩
    rw [← beq_iff_eq.mp same]
  constructor
  · exact sound
  rintro ⟨f, stands⟩
  cases found : r.placeOf? key with
  | none =>
    have absent := List.findIdx?_eq_none_iff.mp found (key, f) (List.mem_of_getElem? stands)
    simp at absent
  | some i =>
    obtain ⟨g, other⟩ := sound found
    rw [filed.place_unique other stands]

theorem placeOf?_eq_none : r.placeOf? key = none ↔ key ∉ Keyed.keys r.functions := by
  rw [placeOf?, List.findIdx?_eq_none_iff, Keyed.keys, List.mem_map]
  constructor
  · rintro absent ⟨entry, member, rfl⟩
    simpa using absent entry member
  · intro absent entry member
    exact beq_eq_false_iff_ne.mpr fun same => absent ⟨entry, member, same⟩

theorem functionAt?_eq (stands : r.functions[place]? = some (key, f)) : r.functionAt? place = some f := by
  rw [functionAt?, stands]
  rfl

/-- A function replaced by one of its name or of a new name. -/
theorem Filed.set (filed : r.Filed) (stands : r.functions[place]? = some (key, f))
    (free : g.name = key ∨ g.name ∉ Keyed.keys r.functions) (functions : r'.functions = r.functions.set place (g.name, g)) :
    r'.Filed := by
  constructor
  · intro entry member
    rw [functions] at member
    rcases List.mem_or_eq_of_mem_set member with before | rfl
    · exact filed.named entry before
    · rfl
  · have keys : Keyed.keys r'.functions = (Keyed.keys r.functions).set place g.name := by
      rw [functions, Keyed.keys, List.map_set, Keyed.keys]
    rw [keys]
    rcases free with same | new
    · obtain ⟨bound, read⟩ := List.getElem?_eq_some_iff.mp (keys_getElem? stands)
      rw [same, ← read, List.set_getElem_self]
      exact filed.nodup
    · exact filed.nodup.set new

namespace Replaced

theorem start (replaced : Replaced r r' place g) : r'.start = r.start := by
  obtain ⟨shortNames, others⟩ := replaced.others
  rw [others]

theorem stands (replaced : Replaced r r' place g) (before : r.functions[place]? = some (key, f)) :
    r'.functions[place]? = some (g.name, g) := by
  rw [replaced.functions, List.getElem?_set_self (List.getElem?_eq_some_iff.mp before).1]

/-- All other functions stay. -/
theorem elsewhere (replaced : Replaced r r' place g) {j : Nat} (other : place ≠ j) : r'.functions[j]? = r.functions[j]? := by
  rw [replaced.functions, List.getElem?_set_ne other]

theorem trans {r'' : Registry} {h : Function} (first : Replaced r r' place g) (second : Replaced r' r'' place h) :
    Replaced r r'' place h := by
  refine ⟨?_, ?_, second.filed⟩
  · rw [second.functions, first.functions, List.set_set]
  · obtain ⟨_, others⟩ := first.others
    obtain ⟨shortNames, last⟩ := second.others
    refine ⟨shortNames, ?_⟩
    rw [last, others]

end Replaced

theorem replaced_self (filed : r.Filed) (stands : r.functions[place]? = some (key, f)) : Replaced r r place f := by
  refine ⟨?_, ⟨r.shortNames, rfl⟩, filed⟩
  obtain ⟨bound, read⟩ := List.getElem?_eq_some_iff.mp stands
  rw [filed.name_eq stands, ← read, List.set_getElem_self]

theorem modify_eq_set {α : Type} {items : List α} {i : Nat} {item : α} (stands : items[i]? = some item) (change : α → α) :
    items.modify i change = items.set i (change item) := by
  apply List.ext_getElem?
  intro j
  rw [List.getElem?_modify, List.getElem?_set]
  obtain ⟨bound, rfl⟩ := List.getElem?_eq_some_iff.mp stands
  by_cases same : i = j
  · subst same
    simp [bound]
  · simp [same]

/-- A change that keeps the name. -/
theorem replaced_modifyAt (filed : r.Filed) (stands : r.functions[place]? = some (key, f)) (change : Function → Function)
    (same : (change f).name = f.name) : Replaced r (r.modifyAt place change) place (change f) := by
  have named := filed.name_eq stands
  have functions : (r.modifyAt place change).functions = r.functions.set place ((change f).name, change f) := by
    rw [modifyAt, modify_eq_set stands, same, named]
  exact ⟨functions, ⟨r.shortNames, rfl⟩, filed.set stands (.inl (same.trans named)) functions⟩

/-- A change of the function of a name is a change of the entries of this name. -/
theorem Filed.modify_eq_map (filed : r.Filed) (stands : r.functions[place]? = some (key, f))
    (change : String × Function → String × Function) :
    r.functions.modify place change = r.functions.map fun entry => if entry.1 = key then change entry else entry := by
  apply List.ext_getElem?
  intro j
  rw [List.getElem?_modify, List.getElem?_map]
  cases other : r.functions[j]? with
  | none => simp
  | some entry =>
    by_cases same : place = j
    · rw [same, other] at stands
      cases stands
      simp [same]
    · have apart : entry.1 ≠ key := by
        rintro rfl
        exact same (filed.place_unique stands other)
      simp [same, apart]

theorem rekeyed_eq_set (filed : r.Filed) (stands : r.functions[place]? = some (key, f)) (new : String) :
    r.rekeyed key new = r.functions.set place (new, f) := by
  rw [rekeyed, ← filed.modify_eq_map stands fun entry => (new, entry.2), modify_eq_set stands]

/-! ## Renaming -/

/-- A registry with the function at a place under a new name, and with its new short name in the index for the old one. -/
def renamedAt (r : Registry) (place : Nat) (f : Function) (new short : String) : Registry :=
  { r with
    functions := (r.rekeyed f.name new).modify place fun entry =>
      (entry.1, { entry.2 with name := new, shortName := short })
    shortNames := Keyed.put (Keyed.drop r.shortNames f.shortName) short new }

/-- What renaming the function at a place comes to. -/
inductive Renaming (r : Registry) (place : Nat) (f : Function) (new : String) :
    Outcome Registry RegistryError Unit → Prop
  | own : new = f.name → Renaming r place f new (.done r ())
  | taken : new ≠ f.name → new ∈ Keyed.keys r.functions → Renaming r place f new (.failed r (.nameTaken f.name new))
  /-- The function has its new key already when the index turns out not to hold it. -/
  | lost : new ≠ f.name → new ∉ Keyed.keys r.functions → f.shortName ∉ Keyed.keys r.shortNames →
    Renaming r place f new (.failed { r with functions := r.rekeyed f.name new } (.shortNameLost f.shortName))
  /-- The empty name has no short name. -/
  | unnamed : new ≠ f.name → new ∉ Keyed.keys r.functions → f.shortName ∈ Keyed.keys r.shortNames →
    shortName? new r.start = none → Renaming r place f new (.failed
      { r with
        functions := (r.rekeyed f.name new).modify place fun entry => (entry.1, { entry.2 with name := new })
        shortNames := Keyed.drop r.shortNames f.shortName } .noShortName)
  | named {short : String} : new ≠ f.name → new ∉ Keyed.keys r.functions → f.shortName ∈ Keyed.keys r.shortNames →
    shortName? new r.start = some short → Renaming r place f new (.done (r.renamedAt place f new short) ())

/-- A function changed while some key is replaced. -/
theorem functionAt?_modify (at_ : r.functionAt? place = some f) {old new : String} (change : Function → Function)
    (functions : r'.functions = (r.rekeyed old new).modify place fun entry => (entry.1, change entry.2)) :
    r'.functionAt? place = some (change f) := by
  obtain ⟨entry, stands, rfl⟩ := Option.map_eq_some_iff.mp at_
  rw [functionAt?, functions, List.getElem?_modify_eq, rekeyed, List.getElem?_map, stands]
  simp only [Option.map_some]
  split <;> rfl

theorem functionAt?_renamedAt (at_ : r.functionAt? place = some f) (new short : String) :
    (r.renamedAt place f new short).functionAt? place = some { f with name := new, shortName := short } :=
  functionAt?_modify at_ (fun f => { f with name := new, shortName := short }) rfl

theorem renaming_rename (at_ : r.functionAt? place = some f) (new : String) :
    Renaming r place f new (r.rename place new) := by
  unfold rename
  rw [at_]
  dsimp only
  by_cases same : new = f.name
  · rw [if_pos same]
    exact .own same
  rw [if_neg same]
  by_cases free : new ∉ Keyed.keys r.functions
  · rw [if_neg fun taken => free ((Keyed.hasKey_iff _ _).mp taken)]
    by_cases indexed : f.shortName ∈ Keyed.keys r.shortNames
    · rw [if_pos ((Keyed.hasKey_iff _ _).mpr indexed)]
      cases short : shortName? new r.start with
      | none =>
        simp only [assignName, short, Outcome.failed_andThen, modifyAt]
        exact .unnamed same free indexed short
      | some short' =>
        have found := functionAt?_renamedAt at_ new short'
        simp only [functionAt?, renamedAt] at found
        simp only [assignName, short, Outcome.done_andThen, modifyAt, functionAt?, found]
        exact .named same free indexed short
    · rw [if_neg fun taken => indexed ((Keyed.hasKey_iff _ _).mp taken)]
      exact .lost same free indexed
  · rw [if_pos ((Keyed.hasKey_iff _ _).mpr (not_not.mp free))]
    exact .taken same (not_not.mp free)

/-- A renaming that succeeds files the function under its new name, at its place. -/
theorem rename_ok (filed : r.Filed) (stands : r.functions[place]? = some (key, f)) {new : String}
    (renamed : (r.rename place new).answer = .ok ()) :
    ∃ g, f.renamed? r.start new = some g ∧ Replaced r (r.rename place new).state place g := by
  have named := filed.name_eq stands
  have result := renaming_rename (functionAt?_eq stands) new
  generalize r.rename place new = o at renamed result ⊢
  cases result with
  | own same => exact ⟨f, if_pos same, replaced_self filed stands⟩
  | taken => cases renamed
  | lost => cases renamed
  | unnamed => cases renamed
  | @named short' other free _ short =>
    let g : Function := { f with name := new, shortName := short' }
    have functions : (r.renamedAt place f new short').functions = r.functions.set place (new, g) := by
      have at_ : (r.functions.set place (new, f))[place]? = some (new, f) :=
        List.getElem?_set_self (List.getElem?_eq_some_iff.mp stands).1
      rw [renamedAt, named, rekeyed_eq_set filed stands, modify_eq_set at_, List.set_set]
    have filed' : (r.renamedAt place f new short').Filed :=
      filed.set stands (.inr (show g.name ∉ Keyed.keys r.functions from free)) functions
    refine ⟨g, ?_, functions, ⟨_, rfl⟩, filed'⟩
    rw [Function.renamed?, if_neg other, short]
    rfl

/-! ## Functions that can be emitted -/

variable {seen : Keyed String} {functions : Keyed Function}

/-- Functions that can be emitted stand under their own names. -/
theorem named_of_fault? (sound : fault? seen functions = none) : ∀ entry ∈ functions, entry.1 = entry.2.name := by
  induction functions generalizing seen with
  | nil => exact fun _ member => absurd member List.not_mem_nil
  | cons entry rest ih =>
    obtain ⟨own, -, sound⟩ := fault?_cons sound
    intro other member
    rcases List.mem_cons.mp member with rfl | among
    · exact own.symm
    · exact ih sound other among

end Registry

end CommandStream
