import CommandStream.Proofs.Override.Refusal

/-!
# When overrides apply

Overrides whose rules give each function one new name at most apply to a registry exactly if the rules suit every
function by itself, leave no two functions with one name, and leave functions that can be emitted. So it depends on the
rules under each name alone whether they apply and what they come to, not on the order in which the names came.
-/

namespace CommandStream
open Registry

namespace Registry

theorem unfit_of_argumentFault? {name : String} {seen : List String} {arguments : List Argument} {e : RegistryError}
    (found : argumentFault? name seen arguments = some e) : e.unfit = true := by
  induction arguments generalizing seen with
  | nil => cases found
  | cons a rest ih =>
    unfold argumentFault? at found
    split at found
    · cases found
      rfl
    split at found
    · cases found
      rfl
    · exact ih found

/-- What a check of functions finds says that nothing can be emitted. -/
theorem unfit_of_fault? {seen : Keyed String} {functions : Keyed Function} {e : RegistryError}
    (found : fault? seen functions = some e) : e.unfit = true := by
  induction functions generalizing seen with
  | nil => cases found
  | cons entry rest ih =>
    unfold fault? at found
    split at found
    · cases found
      rfl
    split at found
    · cases found
      rfl
    split at found
    · cases found
      rfl
    split at found
    · rename_i malformed
      cases found
      exact unfit_of_argumentFault? malformed
    · exact ih found

end Registry

namespace OverrideTracker

/-- What the rules registered under the name of a function make of it. -/
def reshaped? (rules : Keyed (List Rule)) (r : Registry) (entry : String × Function) : Option Function :=
  entry.2.reshapeAll? r.start (rulesIn rules entry.1)

/-- The functions of a registry as their rules make them. -/
def reshaped (rules : Keyed (List Rule)) (r : Registry) : List Function :=
  r.functions.filterMap (reshaped? rules r)

/-- Rules that suit every function, and leave no two functions with one name. -/
structure Compatible (rules : Keyed (List Rule)) (r : Registry) : Prop where
  suits : ∀ entry ∈ r.functions, (reshaped? rules r entry).isSome
  distinct : ((reshaped rules r).map Function.name).Nodup

/-- Rules that give each function one new name at most, and a registry with all functions in its index. -/
structure Workable (rules : Keyed (List Rule)) (r : Registry) : Prop extends Orderly rules r where
  indexed : r.Indexed
  proper : ∀ entry ∈ rules, ∀ rule ∈ entry.2, rule.effect.Proper
  single : ∀ entry ∈ rules, entry.1 ∈ Keyed.keys r.functions →
    ∃ name, ∀ rule ∈ entry.2, ∀ target ∈ rule.effect.targets, target = name

/-- The short names of functions whose rules have not been applied are in the index. -/
def Waiting (done : Keyed (List Rule)) (r : Registry) (x : Application) : Prop :=
  ∀ (place : Nat) key f, r.functions[place]? = some (key, f) → key ∉ Keyed.keys done →
    f.shortName ∈ Keyed.keys x.registry.shortNames

variable {all done rest : Keyed (List Rule)} {r : Registry} {x : Application} {entry : String × List Rule}

/-- The function at a place, among functions that all become something. -/
theorem reshaped_getElem? (suits : ∀ entry ∈ r.functions, (reshaped? all r entry).isSome) (place : Nat) :
    (reshaped all r)[place]? = r.functions[place]?.bind (reshaped? all r) := by
  unfold reshaped
  generalize r.functions = functions at suits
  induction functions generalizing place with
  | nil => rfl
  | cons entry rest ih =>
    obtain ⟨g, made⟩ := Option.isSome_iff_exists.mp (suits entry List.mem_cons_self)
    rw [List.filterMap_cons, made]
    cases place with
    | zero => exact made.symm
    | succ place => exact ih place fun other member => suits other (List.mem_cons_of_mem _ member)

theorem rulesIn_of_done (split : all = done ++ rest) {key : String} (applied : key ∈ Keyed.keys done) :
    rulesIn done key = rulesIn all key := by
  obtain ⟨rules, found⟩ := Option.isSome_iff_exists.mp (isSome_find?_iff.mpr applied)
  have found' : done.lookup key = some rules := found
  rw [rulesIn, rulesIn, found, split, Keyed.find?, List.lookup_append, found', Option.some_or]

theorem rulesIn_of_entry (nodup : (Keyed.keys all).Nodup) (listed : entry ∈ all) : rulesIn all entry.1 = entry.2 := by
  rw [rulesIn, Keyed.find?, lookup_of_mem nodup listed]
  rfl

namespace Reached

/-- A function keeps the name that it has under rules for it, whether these have been applied or not. -/
theorem name_lasts (reached : Reached all done r x) (orderly : Orderly all r) (split : all = done ++ rest) {place : Nat}
    {key name : String} {f g h : Function} (stands : r.functions[place]? = some (key, f))
    (now : x.registry.functions[place]? = some (name, g)) (waiting : name ∈ Keyed.keys all →
      ∀ other ∈ rulesIn all name, other.effect.targets = []) (last : reshaped? all r (key, f) = some h) : h.name = name := by
  by_cases applied : key ∈ Keyed.keys done
  · obtain ⟨g', reshaped, now', -⟩ := reached.each place key f stands
    rw [rulesIn_of_done split applied] at reshaped
    rw [now] at now'
    cases now'
    cases reshaped.symm.trans last
    rfl
  · have unchanged := reached.untouched orderly.filed stands applied
    rw [now] at unchanged
    cases unchanged
    have own := orderly.filed.name_eq stands
    rcases name_of_reshapeAll? last with same | ⟨rule, member, target⟩
    · exact same.trans own
    · have listed : key ∈ Keyed.keys all := by
        by_contra absent
        rw [rulesIn, find?_eq_none_iff.mpr absent] at member
        cases member
      rw [waiting listed rule member] at target
      cases target

/-- Rules that give a function the name of another one are not compatible: the other keeps the name to the end. -/
theorem collides (reached : Reached all done r x) (workable : Workable all r) (split : all = done ++ entry :: rest)
    {place : Nat} {f h : Function} (stands : r.functions[place]? = some (entry.1, f))
    (now : x.registry.functions[place]? = some (entry.1, f)) (last : reshaped? all r (entry.1, f) = some h)
    (other : f.name ≠ h.name) (held : h.name ∈ Keyed.keys x.registry.functions) : ¬ Compatible all r := by
  intro compatible
  have orderly := workable.toOrderly
  have listed : entry ∈ all := by
    rw [split]
    exact List.mem_append_right _ List.mem_cons_self
  obtain ⟨rule, member, target⟩ : ∃ rule ∈ entry.2, h.name ∈ rule.effect.targets := by
    rw [reshaped?, rulesIn_of_entry orderly.nodup listed] at last
    exact (name_of_reshapeAll? last).resolve_left fun same => other same.symm
  have present : entry.1 ∈ Keyed.keys r.functions := mem_keys stands
  have apart : h.name ≠ entry.1 := fun same => other ((orderly.filed.name_eq stands).trans same.symm)
  obtain ⟨j, holder, there⟩ := mem_keys_iff.mp held
  have bound : j < r.functions.length := by
    rw [← reached.length]
    exact (List.getElem?_eq_some_iff.mp there).1
  obtain ⟨⟨key, before⟩, there'⟩ : ∃ e, r.functions[j]? = some e := ⟨_, List.getElem?_eq_getElem bound⟩
  obtain ⟨g, final⟩ := Option.isSome_iff_exists.mp (compatible.suits _ (List.mem_of_getElem? there'))
  have lasts : g.name = h.name := reached.name_lasts orderly split there' there
    (fun waits => (workable.separate entry listed present rule member _ target apart waits).2) final
  have named : ∀ {i : Nat} {e k}, r.functions[i]? = some e → reshaped? all r e = some k →
      ((reshaped all r).map Function.name)[i]? = some k.name := by
    intro i e k at_ shape
    rw [List.getElem?_map, reshaped_getElem? compatible.suits, at_, Option.bind_some, shape]
    rfl
  have first := named stands last
  obtain rfl : place = j := by
    refine (List.getElem?_inj (List.getElem?_eq_some_iff.mp first).1 compatible.distinct).mp ?_
    rw [first, named there' final, lasts]
  have own := reached.filed.name_eq now
  rw [there] at now
  exact other (own.trans (congrArg Prod.fst (Option.some.inj now)).symm)

/-- A function that its rules reshape takes no short name of another one out of the index. -/
theorem waiting_step (workable : Workable all r) (waiting : Waiting done r x) {place : Nat} {f g : Function} {new : String}
    (stands : r.functions[place]? = some (entry.1, f)) {r' : Registry} (renames : Renames new x.registry r' f g)
    (filed : Keyed (List Rule)) : Waiting (done ++ [entry]) r { x with registry := r', filed } := by
  intro j key f' before outside
  rw [Keyed.keys, List.map_append, List.mem_append, not_or] at outside
  have waits := waiting j key f' before outside.1
  cases renames with
  | kept name short index => exact index ▸ waits
  | moved name free index =>
    refine index _ waits fun same => outside.2 ?_
    obtain rfl := workable.indexed.place_unique workable.filed before stands same
    rw [stands] at before
    cases before
    exact List.mem_cons_self

/-- One entry of rules applies, or nothing can be emitted and the rules are not compatible. -/
theorem step_cases (reached : Reached all done r x) (workable : Workable all r) (split : all = done ++ entry :: rest)
    (waiting : Waiting done r x) :
    ((x.applyRules entry).answer = .ok () ∧ Waiting (done ++ [entry]) r (x.applyRules entry).state) ∨
    ∃ e, (x.applyRules entry).answer = .error e ∧ e.unfit = true ∧ ¬ Compatible all r := by
  have orderly := workable.toOrderly
  obtain ⟨listed, fresh⟩ := cut_keyed orderly.nodup split
  unfold Application.applyRules
  cases found : x.registry.placeOf? entry.1 with
  | none =>
    refine .inl ⟨rfl, fun place key f stands outside => waiting place key f stands fun member => outside ?_⟩
    rw [Keyed.keys, List.map_append]
    exact List.mem_append_left _ member
  | some place =>
    dsimp only
    obtain ⟨f, now⟩ := reached.filed.placeOf?_eq_some.mp found
    have stands := reached.original orderly.filed (List.mem_map_of_mem listed) fresh now
    obtain ⟨name, only⟩ := workable.single entry listed (mem_keys stands)
    have last : reshaped? all r (entry.1, f) = f.reshapeAll? r.start entry.2 := by
      rw [reshaped?, rulesIn_of_entry orderly.nodup listed]
    have turns := turns_mutateAll reached.filed now (workable.proper entry listed) only
      (.inr (waiting place _ f stands fresh))
    rw [reached.start, ← last] at turns
    generalize Outcome.runAll (fun r (rule : Rule) => rule.effect.mutate r place) x.registry entry.2 = ran at turns
    obtain ⟨state, answer⟩ := ran
    cases turns with
    | done shape answered replaced renames =>
      cases answered
      simp only [Outcome.within, Except.mapError, Outcome.andThen, functionAt?_eq (replaced.stands now)]
      exact .inl ⟨rfl, waiting_step workable waiting stands renames _⟩
    | @unshaped e shape answered unfit =>
      cases answered
      refine .inr ⟨e, rfl, unfit, fun compatible => ?_⟩
      have some_ := compatible.suits _ (List.mem_of_getElem? stands)
      rw [shape] at some_
      cases some_
    | @taken e other held named answered unfit =>
      cases answered
      refine .inr ⟨e, rfl, unfit, fun compatible => ?_⟩
      obtain ⟨h, shape⟩ := Option.isSome_iff_exists.mp (compatible.suits _ (List.mem_of_getElem? stands))
      have gives := named h shape
      subst gives
      exact reached.collides workable split stands now shape other held compatible

/-- All entries apply, or nothing can be emitted and the rules are not compatible. -/
theorem run_cases (workable : Workable all r) {rest : Keyed (List Rule)} (reached : Reached all done r x)
    (split : all = done ++ rest) (waiting : Waiting done r x) :
    (Outcome.runAll Application.applyRules x rest).answer = .ok () ∨
    ∃ e, (Outcome.runAll Application.applyRules x rest).answer = .error e ∧ e.unfit = true ∧ ¬ Compatible all r := by
  induction rest generalizing done x with
  | nil => exact .inl rfl
  | cons entry rest ih =>
    rcases reached.step_cases workable split waiting with ⟨answer, waits⟩ | ⟨e, answer, unfit, clash⟩
    · have chain : Outcome.runAll Application.applyRules x (entry :: rest) =
          Outcome.runAll Application.applyRules (x.applyRules entry).state rest := by
        rw [Outcome.runAll, Outcome.andThen, answer]
      rw [chain]
      refine ih (reached.step workable.toOrderly split answer) ?_ waits
      rw [split, List.append_assoc]
      rfl
    · exact .inr ⟨e, Outcome.answer_andThen_of_error answer, unfit, clash⟩

/-- Where all rules have been applied they were compatible, and each function is what its own rules make of it. -/
theorem compatible (reached : Reached all all r x) :
    Compatible all r ∧ x.registry.functions = (reshaped all r).map fun g => (g.name, g) := by
  have suits : ∀ entry ∈ r.functions, (reshaped? all r entry).isSome := by
    rintro ⟨key, f⟩ member
    obtain ⟨place, stands⟩ := List.mem_iff_getElem?.mp member
    obtain ⟨g, shape, -⟩ := reached.each place key f stands
    exact Option.isSome_of_eq_some shape
  have functions : x.registry.functions = (reshaped all r).map fun g => (g.name, g) := by
    apply List.ext_getElem?
    intro place
    rw [List.getElem?_map, reshaped_getElem? suits]
    cases stands : r.functions[place]? with
    | none =>
      refine List.getElem?_eq_none_iff.mpr ?_
      rw [reached.length]
      exact List.getElem?_eq_none_iff.mp stands
    | some entry =>
      obtain ⟨key, f⟩ := entry
      obtain ⟨g, shape, now, -⟩ := reached.each place key f stands
      have shape : reshaped? all r (key, f) = some g := shape
      rw [now, Option.bind_some, shape]
      rfl
  have nodup := reached.filed.nodup
  rw [functions, Keyed.keys, List.map_map] at nodup
  exact ⟨⟨suits, nodup⟩, functions⟩

end Reached

/-! ## Application -/

variable {t : OverrideTracker}

theorem compatible_freeze : Compatible all r.freeze ↔ Compatible all r :=
  ⟨fun c => ⟨c.suits, c.distinct⟩, fun c => ⟨c.suits, c.distinct⟩⟩

theorem Workable.freeze (workable : Workable all r) : Workable all r.freeze :=
  { filed := workable.filed.freeze
    nodup := workable.nodup
    filing := workable.filing
    separate := workable.separate
    indexed := workable.indexed
    proper := workable.proper
    single := workable.single }

/-- Overrides apply, or nothing can be emitted: which of the two is decided by the rules under each name. -/
theorem apply_cases (workable : Workable t.rules r) (fresh : t.applied = false) :
    ((t.apply r).answer = .ok () ∧ Compatible t.rules r ∧
      fault? [] ((reshaped t.rules r).map fun g => (g.name, g)) = none ∧
      (t.apply r).state.2.functions = (reshaped t.rules r).map fun g => (g.name, g)) ∨
    ∃ e, (t.apply r).answer = .error e ∧ e.unfit = true ∧
      ¬ (Compatible t.rules r ∧ fault? [] ((reshaped t.rules r).map fun g => (g.name, g)) = none) := by
  have nothing : Reached t.rules [] r.freeze ⟨r.freeze, [], t.log⟩ := reached_nothing workable.freeze.filed t.log
  have waits : Waiting [] r.freeze ⟨r.freeze, [], t.log⟩ := fun _ _ _ stands _ => workable.freeze.indexed.mem stands
  have split : t.rules = [] ++ t.rules := (List.nil_append _).symm
  unfold apply
  rw [fresh]
  dsimp only [Bool.false_eq_true, if_false]
  rcases nothing.run_cases workable.freeze split waits with ran | ⟨e, ran, unfit, clash⟩
  · have reached := nothing.run workable.freeze.toOrderly ran
    obtain ⟨compatible, functions⟩ := reached.compatible
    rw [ran]
    dsimp only
    generalize (Outcome.runAll Application.applyRules ⟨r.freeze, [], t.log⟩ t.rules).state = x at functions
    have functions : x.registry.functions = (reshaped t.rules r).map fun g => (g.name, g) := functions
    cases faulty : fault? [] x.registry.functions with
    | none =>
      rw [validate, faulty]
      exact .inl ⟨rfl, compatible_freeze.mp compatible, functions ▸ faulty, functions⟩
    | some cause =>
      rw [validate, faulty]
      refine .inr ⟨_, rfl, unfit_of_fault? faulty, fun both => ?_⟩
      rw [functions, both.2] at faulty
      cases faulty
  · rw [ran]
    exact .inr ⟨e, rfl, unfit, fun both => clash (compatible_freeze.mpr both.1)⟩

end OverrideTracker

end CommandStream
