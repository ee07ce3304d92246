import CommandStream.Emission.Build
import CommandStream.Proofs.Registry.Filed

/-!
# Registries that are read

A header and a description give a registry in which every function stands under its own name, whatever
they say: entries are added under new names only, and a refinement changes nothing but types.
-/

namespace CommandStream

namespace Registry

variable {r r' : Registry}

theorem Filed.of_functions (filed : r.Filed) (same : r'.functions = r.functions) : r'.Filed :=
  ⟨same ▸ filed.named, same ▸ filed.nodup⟩

/-- A change that keeps names, at any place. -/
theorem Filed.modifyAt (filed : r.Filed) (place : Nat) (change : Function → Function)
    (same : ∀ f, (change f).name = f.name) : (r.modifyAt place change).Filed := by
  cases stands : r.functions[place]? with
  | some entry => exact (replaced_modifyAt filed stands change (same entry.2)).filed
  | none =>
    have bound : r.functions.length ≤ place := List.getElem?_eq_none_iff.mp stands
    exact filed.of_functions (List.modify_eq_self bound)

/-- The functions of a registry with one of them changed. -/
theorem mem_modifyAt {place : Nat} {change : Function → Function} {entry : String × Function}
    (member : entry ∈ (r.modifyAt place change).functions) :
    ∃ before ∈ r.functions, entry = before ∨ entry = (before.1, change before.2) := by
  obtain ⟨i, at_⟩ := List.mem_iff_getElem?.mp member
  rw [modifyAt, List.getElem?_modify] at at_
  cases found : r.functions[i]? with
  | none =>
    rw [found] at at_
    cases at_
  | some before =>
    rw [found] at at_
    refine ⟨before, List.mem_of_getElem? found, ?_⟩
    cases at_
    split
    · exact .inr rfl
    · exact .inl rfl

theorem keys_modifyAt (r : Registry) (place : Nat) (change : Function → Function) :
    Keyed.keys (r.modifyAt place change).functions = Keyed.keys r.functions := by
  apply List.ext_getElem?
  intro j
  rw [Keyed.keys, Keyed.keys, modifyAt, List.getElem?_map, List.getElem?_map, List.getElem?_modify]
  cases r.functions[j]? with
  | none => split <;> rfl
  | some entry => split <;> rfl

/-- A function is added under a new name, with the declared type and a short name that is new, behind all others. -/
theorem addFunction_declared {name typedefName : String} {f : Function} (added : r.addFunction name typedefName = .ok (f, r')) :
    ∃ short type, name ∉ Keyed.keys r.functions ∧ short ∉ Keyed.keys r.shortNames ∧
      Keyed.find? r.types typedefName = some type ∧ shortName? name r.start = some short ∧
      f = { name, shortName := short, access := Function.publicAccess, type } ∧
      r' = { r with functions := r.functions ++ [(name, f)], shortNames := r.shortNames ++ [(short, name)] } := by
  unfold Registry.addFunction at added
  split at added
  · cases added
  split at added
  · cases added
  rename_i new
  obtain ⟨type, declared, added⟩ := bind_ok added
  have found : Keyed.find? r.types typedefName = some type := by
    unfold Registry.findType at declared
    split at declared
    · rename_i held
      cases declared
      exact held
    · cases declared
  split at added
  · rename_i short named
    split at added
    · cases added
    · rename_i free
      cases added
      exact ⟨short, type, fun member => new ((Keyed.hasKey_iff _ _).mpr member), find?_eq_none_iff.mp free, found, named,
        rfl, rfl⟩
  · cases added

/-- A function is added under a new name with a new short name, behind all others. -/
theorem addFunction_ok {name typedefName : String} {f : Function} (added : r.addFunction name typedefName = .ok (f, r')) :
    ∃ short type, name ∉ Keyed.keys r.functions ∧ short ∉ Keyed.keys r.shortNames ∧
      f = { name, shortName := short, access := Function.publicAccess, type } ∧
      r' = { r with functions := r.functions ++ [(name, f)], shortNames := r.shortNames ++ [(short, name)] } := by
  obtain ⟨short, type, new, fresh, -, -, same, grown⟩ := addFunction_declared added
  exact ⟨short, type, new, fresh, same, grown⟩

theorem Filed.addFunction (filed : r.Filed) {name typedefName : String} {f : Function}
    (added : r.addFunction name typedefName = .ok (f, r')) : r'.Filed := by
  obtain ⟨short, type, absent, -, rfl, rfl⟩ := addFunction_ok added
  constructor
  · intro entry member
    rcases List.mem_append.mp member with before | last
    · exact filed.named entry before
    · cases List.mem_singleton.mp last
      rfl
  · exact nodup_keys_snoc filed.nodup absent _

/-- A registry with a new function, or with another type or define. -/
inductive Grows (r : Registry) : Registry → Prop
  | function {r' : Registry} {name typedefName : String} {f : Function} :
      r.addFunction name typedefName = .ok (f, r') → Grows r r'
  | beside (defines : List String) (types : Keyed FunctionType) : Grows r { r with defines, types }

theorem Grows.filed (grows : r.Grows r') (filed : r.Filed) : r'.Filed := by
  cases grows with
  | function added => exact filed.addFunction added
  | beside defines types => exact filed.of_functions rfl

theorem Grows.enums (grows : r.Grows r') : r'.enums = r.enums := by
  cases grows with
  | function added =>
    obtain ⟨_, _, -, -, rfl, rfl⟩ := addFunction_ok added
    rfl
  | beside defines types => rfl

theorem Grows.start (grows : r.Grows r') : r'.start = r.start := by
  cases grows with
  | function added =>
    obtain ⟨_, _, -, -, rfl, rfl⟩ := addFunction_ok added
    rfl
  | beside defines types => rfl

theorem grows_addType {type : FunctionType} (added : r.addType type = .ok r') : r.Grows r' := by
  unfold addType at added
  split at added
  · cases added
  split at added
  · cases added
  · cases added
    exact .beside _ _

theorem grows_addDefine {name : String} (added : r.addDefine name = .ok r') : r.Grows r' := by
  unfold addDefine at added
  split at added
  · cases added
  split at added <;> cases added <;> exact .beside _ _

end Registry

namespace Header.Extraction

variable {x y : Extraction}

theorem grows_refuse {lineNumber : Nat} {e : RegistryError} (refused : x.refuse lineNumber e = .ok y) :
    x.registry.Grows y.registry := by
  unfold refuse at refused
  split at refused <;> cases refused <;> exact .beside _ _

theorem grows_readType {lineNumber : Nat} {line : List Char} (read : x.readType lineNumber line = .ok y) :
    x.registry.Grows y.registry := by
  unfold readType at read
  split at read
  · cases read
    exact .beside _ _
  split at read
  · cases read
    exact .beside _ _
  dsimp only at read
  split at read
  · rename_i added
    cases read
    exact Registry.grows_addType added
  · exact grows_refuse read

theorem grows_readSymbol {lineNumber : Nat} {line : List Char} (read : x.readSymbol lineNumber line = .ok y) :
    x.registry.Grows y.registry := by
  unfold readSymbol at read
  split at read
  · cases read
    exact .beside _ _
  split at read
  · split at read
    · rename_i added
      cases read
      exact .function added
    · exact grows_refuse read
  · cases read
    exact .beside _ _

theorem grows_readDefine {line : List Char} (read : x.readDefine line = .ok y) : x.registry.Grows y.registry := by
  unfold readDefine at read
  split at read
  · cases read
    exact .beside _ _
  split at read
  · rename_i name _ _
    cases added : x.registry.addDefine name with
    | error e =>
      rw [added] at read
      cases read
    | ok registry =>
      rw [added] at read
      cases read
      exact Registry.grows_addDefine added
  · cases read
    exact .beside _ _

theorem grows_readLine {lineNumber : Nat} {line : List Char} (read : x.readLine lineNumber line = .ok y) :
    x.registry.Grows y.registry := by
  unfold readLine at read
  split at read
  · exact grows_readType read
  · exact grows_readSymbol read
  · exact grows_readDefine read
  · cases read
    exact .beside _ _

/-- What every line keeps, lines keep. -/
theorem keeps_readFrom {P : Registry → Prop} (keeps : ∀ r r', r.Grows r' → P r → P r') (holds : P x.registry)
    (lineNumber : Nat) (lines : List String) : P (x.readFrom lineNumber lines).state.registry := by
  induction lines generalizing x lineNumber with
  | nil => exact holds
  | cons line rest ih =>
    unfold readFrom
    split
    · rename_i next read
      exact ih (keeps _ _ (grows_readLine read) holds) _
    · exact holds

/-- What every line keeps, a header keeps. -/
theorem keeps_ofLines {P : Registry → Prop} (keeps : ∀ r r', r.Grows r' → P r → P r') {r : Registry} (holds : P r)
    (lines : List String) : P (ofLines r lines).state.registry := by
  have read := keeps_readFrom (x := start r) keeps holds 1 lines
  unfold ofLines
  obtain ⟨z, _, done⟩ | ⟨z, e, failed⟩ := ((start r).readFrom 1 lines).done_or_failed
  · rw [done] at read ⊢
    exact read
  · rw [failed] at read ⊢
    exact read

theorem filed_ofLines {r : Registry} (filed : r.Filed) (lines : List String) : (ofLines r lines).state.registry.Filed :=
  keeps_ofLines (fun _ _ grows filed => grows.filed filed) filed lines

/-- A header declares no groups. -/
theorem enums_ofLines (r : Registry) (lines : List String) : (ofLines r lines).state.registry.enums = r.enums :=
  keeps_ofLines (P := fun r' => r'.enums = r.enums) (fun _ _ grows same => grows.enums.trans same) rfl lines

end Header.Extraction

/-- What a description leaves of a registry: it adds groups and changes the types of functions. -/
structure Registry.KeptByTyping (P : Registry → Prop) : Prop where
  grouped : ∀ r enums, P r → P { r with enums }
  typed : ∀ (r : Registry) place (change : FunctionType → FunctionType), P r →
    P (r.modifyAt place fun f => { f with type := change f.type })

theorem Registry.filed_kept : Registry.KeptByTyping Registry.Filed :=
  ⟨fun _ _ filed => filed.of_functions rfl, fun _ place _ filed => filed.modifyAt place _ fun _ => rfl⟩

namespace Refinement
open Markup

variable {x : Refinement} {P : Registry → Prop} (kept : Registry.KeptByTyping P)
include kept

theorem keeps_resolve (holds : P x.registry) (group : String) : P (x.resolve group).2.registry := by
  unfold resolve
  split
  · exact holds
  split
  · exact holds
  split
  · exact holds
  · exact kept.grouped _ _ holds

theorem keeps_refineResult (holds : P x.registry) (place : Nat) (prototype : Element) :
    P (x.refineResult place prototype).registry := by
  unfold refineResult
  split
  · exact holds
  · rename_i name _
    have resolved := keeps_resolve kept holds name
    split
    · rename_i equal
      rw [equal] at resolved
      exact resolved
    · rename_i group next equal
      rw [equal] at resolved
      exact kept.typed _ place (fun type => withResult type group) resolved

theorem keeps_refineParameter (holds : P x.registry) (place : Nat) (parameter : Element) :
    P (x.refineParameter place parameter).registry := by
  unfold refineParameter
  split
  · rename_i name _ _ _
    have resolved := keeps_resolve kept holds name
    split
    · rename_i equal
      rw [equal] at resolved
      exact resolved
    · rename_i group next equal
      rw [equal] at resolved
      split
      · exact resolved
      split
      · exact resolved
      · rename_i i _
        exact kept.typed _ place
          (fun type => { type with arguments := type.arguments.modify i fun a => withGroup a group }) resolved
  · exact holds

theorem keeps_refineCommand (holds : P x.registry) (command : Element) : P (x.refineCommand command).registry := by
  have each : ∀ (parameters : List Element) (place : Nat) {x : Refinement}, P x.registry →
      P (parameters.foldl (fun x parameter => x.refineParameter place parameter) x).registry := by
    intro parameters place
    induction parameters with
    | nil => exact fun holds => holds
    | cons parameter rest ih => exact fun holds => ih (keeps_refineParameter kept holds place parameter)
  unfold refineCommand
  split
  · exact holds
  split
  · exact holds
  · rename_i place _
    exact each _ place (keeps_refineResult kept (x := { x with found := x.found + 1 }) holds place _)

theorem keeps_ofRoot {r : Registry} (holds : P r) (root : Element) : P (ofRoot r root).registry := by
  have each : ∀ (commands : List Element) {x : Refinement}, P x.registry →
      P (commands.foldl refineCommand x).registry := by
    intro commands
    induction commands with
    | nil => exact fun holds => holds
    | cons command rest ih => exact fun holds => ih (keeps_refineCommand kept holds command)
  unfold ofRoot summarized
  dsimp only
  split <;> exact each (commandsOf root) holds

end Refinement

/-- A registry that is read is that of its header, refined by the description if there is one, and closed. -/
theorem Build.readRegistry_ok {log : Log} {start : String} {lines : List String}
    {description : Option (Except Markup.DocumentError Markup.Element)} {r : Registry}
    (read : (readRegistry log start lines description).answer = .ok r) :
    let header := (Header.Extraction.ofLines (.empty start) lines).state.registry
    r = header.freeze ∨ ∃ root, description = some (.ok root) ∧ r = (Refinement.ofRoot header root).registry.freeze := by
  intro header
  obtain ⟨log₁, extracted, first, chain⟩ := Outcome.andThen_ok read
  rw [readRegistry, chain] at read
  obtain rfl : extracted = header := by
    obtain ⟨_, _, -, rest⟩ := Outcome.andThen_ok (congrArg Outcome.answer first)
    rw [ofHeader, rest] at first
    cases first
    rfl
  obtain ⟨log₂, refined, second, chain⟩ := Outcome.andThen_ok read
  rw [chain] at read
  cases read
  unfold refine at second
  split at second
  · cases second
    exact .inl rfl
  · cases second
  · cases second
    exact .inr ⟨_, rfl, rfl⟩

/-- A header that is read is refined by a description, and closed. -/
theorem Build.readRegistry_described {log : Log} {start : String} {lines : List String} {root : Markup.Element}
    (read : (Header.Extraction.ofLines (.empty start) lines).answer = .ok ()) :
    (readRegistry log start lines (some (.ok root))).answer =
      .ok (Refinement.ofRoot (Header.Extraction.ofLines (.empty start) lines).state.registry root).registry.freeze := by
  simp only [readRegistry, ofHeader, Outcome.andThen, Outcome.within, read]
  rfl

/-- What every line of a header and every description keep, and closing a registry too, holds of all that are read. -/
theorem Build.keeps_readRegistry {P : Registry → Prop} {start : String} (nothing : P (.empty start))
    (keeps : ∀ r r', r.Grows r' → P r → P r') (kept : Registry.KeptByTyping P) (closed : ∀ r, P r → P r.freeze) {log : Log}
    {lines : List String} {description : Option (Except Markup.DocumentError Markup.Element)} {r : Registry}
    (read : (readRegistry log start lines description).answer = .ok r) : P r := by
  have extracted := Header.Extraction.keeps_ofLines keeps nothing lines
  rcases readRegistry_ok read with rfl | ⟨root, -, rfl⟩
  · exact closed _ extracted
  · exact closed _ (Refinement.keeps_ofRoot kept extracted root)

/-- Every registry that is read has its functions under their own names. -/
theorem Build.filed_readRegistry {log : Log} {start : String} {lines : List String}
    {description : Option (Except Markup.DocumentError Markup.Element)} {r : Registry}
    (read : (readRegistry log start lines description).answer = .ok r) : r.Filed :=
  keeps_readRegistry (Registry.filed_empty start) (fun _ _ grows filed => grows.filed filed) Registry.filed_kept
    (fun _ filed => filed.freeze) read

/-- A registry that is read keeps what the names of its functions start with. -/
theorem Build.start_readRegistry {log : Log} {start : String} {lines : List String}
    {description : Option (Except Markup.DocumentError Markup.Element)} {r : Registry}
    (read : (readRegistry log start lines description).answer = .ok r) : r.start = start :=
  keeps_readRegistry (P := fun r => r.start = start) rfl (fun _ _ grows same => grows.start.trans same)
    ⟨fun _ _ same => same, fun _ _ _ same => same⟩ (fun _ same => same) read

/-- Every registry that is read has its functions under the access label that they start with. -/
theorem Build.access_readRegistry {log : Log} {start : String} {lines : List String}
    {description : Option (Except Markup.DocumentError Markup.Element)} {r : Registry}
    (read : (readRegistry log start lines description).answer = .ok r) :
    ∀ entry ∈ r.functions, entry.2.access = Function.publicAccess := by
  refine keeps_readRegistry (P := fun r => ∀ entry ∈ r.functions, entry.2.access = Function.publicAccess) ?_ ?_ ⟨?_, ?_⟩
    (fun _ same => same) read
  · intro entry member
    cases member
  · intro r r' grows same
    cases grows with
    | function added =>
      obtain ⟨_, _, -, -, rfl, rfl⟩ := Registry.addFunction_ok added
      intro entry member
      rcases List.mem_append.mp member with before | last
      · exact same entry before
      · cases List.mem_singleton.mp last
        rfl
    | beside defines types => exact same
  · exact fun _ _ same => same
  · intro r place change same entry member
    obtain ⟨before, listed, rfl | rfl⟩ := Registry.mem_modifyAt member
    · exact same _ listed
    · exact same before listed

end CommandStream
