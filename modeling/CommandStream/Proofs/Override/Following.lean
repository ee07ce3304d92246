import CommandStream.Proofs.Override.Commuting
import CommandStream.Proofs.Override.Registering
import CommandStream.Proofs.Registry.Parsed

/-!
# Rules that follow their functions

Rules may name a function in every way that a rule can, under a new key or not, and several times. A name under which rules
wait stays with its function until these are applied, as long as no other rules give it. So every rule is applied once,
to the function that had its name, and is found under the name that this function has in the end.
-/

namespace CommandStream
open Registry

/-- The empty name has no short name. -/
theorem ne_empty_of_shortName? {name start short : String} (found : shortName? name start = some short) : name ≠ "" := by
  rintro rfl
  unfold shortName? at found
  dsimp only at found
  split at found
  · cases found
  · rename_i c rest letters
    split at letters
    · rename_i behind
      have whole := Text.eq_append_of_afterPrefix? behind
      exact absurd whole (by simp)
    · cases letters

/-! ## Functions on the move -/

namespace Registry

variable {r r' r'' : Registry} {place : Nat} {names : List String} {key name : String} {f g h : Function}

theorem placeOf?_eq (r : Registry) (name : String) :
    r.placeOf? name = (Keyed.keys r.functions).findIdx? fun key => key == name := by
  rw [placeOf?, Keyed.keys, List.findIdx?_map]
  rfl

/-- A registry with another function at a place, which has one of some names. The other functions stay, no key comes twice,
and all other names stay where they are as keys. -/
structure Moved (place : Nat) (names : List String) (r r' : Registry) (g : Function) : Prop where
  stands : r'.functionAt? place = some g
  named : g.name ∈ names
  start : r'.start = r.start
  length : r'.functions.length = r.functions.length
  elsewhere : ∀ j, place ≠ j → r'.functionAt? j = r.functionAt? j
  nodup : (Keyed.keys r.functions).Nodup → (Keyed.keys r'.functions).Nodup
  keys : ∀ name ∉ names, r'.placeOf? name = r.placeOf? name

theorem moved_self (stands : r.functionAt? place = some f) (named : f.name ∈ names) : Moved place names r r f :=
  ⟨stands, named, rfl, rfl, fun _ _ => rfl, id, fun _ _ => rfl⟩

theorem Moved.trans (first : Moved place names r r' g) (last : Moved place names r' r'' h) : Moved place names r r'' h where
  stands := last.stands
  named := last.named
  start := last.start.trans first.start
  length := last.length.trans first.length
  elsewhere j other := (last.elsewhere j other).trans (first.elsewhere j other)
  nodup distinct := last.nodup (first.nodup distinct)
  keys name other := (last.keys name other).trans (first.keys name other)

/-- The key of a function stays when the function changes, whatever its name becomes. -/
theorem moved_modifyAt (stands : r.functionAt? place = some f) (change : Function → Function) (named : (change f).name ∈ names) :
    Moved place names r (r.modifyAt place change) (change f) := by
  obtain ⟨entry, at_, rfl⟩ := Option.map_eq_some_iff.mp stands
  have keys := r.keys_modifyAt place change
  refine ⟨?_, named, rfl, List.length_modify .., fun j other => ?_, fun distinct => keys ▸ distinct, fun name _ => ?_⟩
  · rw [functionAt?, modifyAt, List.getElem?_modify_eq, at_]
    rfl
  · rw [functionAt?, modifyAt, List.getElem?_modify_ne _ _ other]
    rfl
  · rw [placeOf?_eq, placeOf?_eq, keys]

theorem keys_renamedAt (r : Registry) (place : Nat) (f : Function) (new short : String) :
    Keyed.keys (r.renamedAt place f new short).functions =
      (Keyed.keys r.functions).map fun key => if key = f.name then new else key := by
  have rekeyed : Keyed.keys (r.rekeyed f.name new) = (Keyed.keys r.functions).map fun key => if key = f.name then new else key := by
    rw [Registry.rekeyed, Keyed.keys, Keyed.keys, List.map_map, List.map_map]
    refine List.map_congr_left fun entry _ => ?_
    simp only [Function.comp_apply]
    split <;> rfl
  rw [← rekeyed]
  exact keys_modifyAt { r with functions := r.rekeyed f.name new } place fun f => { f with name := new, shortName := short }

theorem moved_renamedAt (stands : r.functionAt? place = some f) {new short : String} (old : f.name ∈ names) (given : new ∈ names)
    (free : new ∉ Keyed.keys r.functions) :
    Moved place names r (r.renamedAt place f new short) { f with name := new, shortName := short } := by
  have keys := r.keys_renamedAt place f new short
  refine ⟨functionAt?_renamedAt stands new short, given, rfl, ?_, fun j other => ?_, fun distinct => ?_, fun name absent => ?_⟩
  · rw [renamedAt, List.length_modify, rekeyed, List.length_map]
  · rw [functionAt?, renamedAt, List.getElem?_modify_ne _ _ other, rekeyed, List.getElem?_map, Option.map_map, functionAt?]
    congr 1
    funext entry
    simp only [Function.comp_apply]
    split <;> rfl
  · -- The new key is no other one, so the keys stay apart.
    rw [keys]
    refine List.Nodup.map_on ?_ distinct
    intro first one second two same
    split at same <;> split at same
    · rename_i own own'
      exact own.trans own'.symm
    · exact absurd (same ▸ two) free
    · exact absurd (same ▸ one) free
    · exact same
  · have apart : f.name ≠ name := fun same => absent (same ▸ old)
    have new : new ≠ name := fun same => absent (same ▸ given)
    rw [placeOf?_eq, placeOf?_eq, keys, List.findIdx?_map]
    congr 1
    funext key
    simp only [Function.comp_apply]
    split
    · rename_i own
      rw [beq_eq_false_iff_ne.mpr new, own, beq_eq_false_iff_ne.mpr apart]
    · rfl

/-- Reshaping the function at a place gives it names, and gives and takes keys of these names only. -/
theorem reshaping_moved (place : Nat) (names : List String) :
    Reshaping place (fun e => ∀ name ∈ e.target?, name ≠ "" → name ∈ names)
      (fun r f => r.functionAt? place = some f ∧ f.name ∈ names) (Moved place names) where
  functionAt known := known.1
  self known := moved_self known.1 known.2
  start led := led.start
  next led _ := ⟨led.stands, led.named⟩
  trans first last := first.trans last
  modifyAt change known same := moved_modifyAt known.1 change (same ▸ known.2)
  rename {r f name} permitted known ran := by
    have result := renaming_rename known.1 name
    generalize r.rename place name = o at ran result ⊢
    cases result with
    | own same => exact ⟨f, if_pos same, moved_self known.1 known.2⟩
    | taken => cases ran
    | lost => cases ran
    | unnamed => cases ran
    | @named short other free _ found =>
      refine ⟨{ f with name, shortName := short }, ?_, ?_⟩
      · rw [Function.renamed?, if_neg other, found]
        rfl
      · exact moved_renamedAt known.1 known.2 (permitted name rfl (ne_empty_of_shortName? found)) free
  assignName {r f name} permitted known ran := by
    unfold Registry.assignName at ran ⊢
    cases found : shortName? name r.start with
    | none =>
      rw [found] at ran
      cases ran
    | some short =>
      have given : name ∈ names := permitted name rfl (ne_empty_of_shortName? found)
      refine ⟨{ f with name, shortName := short }, by rw [Edit.reshape?, found]; rfl, ?_⟩
      exact moved_modifyAt known.1 (fun f => { f with name, shortName := short }) given

end Registry

theorem Effect.target_of_edits {effect : Effect} {e : Edit} (made : e ∈ effect.edits) {name : String} (given : name ∈ e.target?) :
    name ∈ effect.targets := by
  cases effect with
  | none => cases made
  | retype => cases made
  | create => cases made
  | generate kind new kept =>
    rw [List.mem_singleton.mp made] at given
    cases given
    exact List.mem_cons_self
  | delete kind argument new =>
    cases new with
    | none => cases made
    | some new =>
      rw [Effect.edits] at made
      split at made
      · cases made
      · rw [List.mem_singleton.mp made] at given
        cases given
        exact List.mem_cons_self
  | custom edits write read => exact List.mem_filterMap.mpr ⟨e, made, given⟩

/-! ## Mutations one after another -/

namespace Outcome

variable {σ ε α β : Type} {run : σ → β → Outcome σ ε Unit} {state next : σ} {items : List β}

theorem runAll_append (first : runAll run state items = .done next ()) (others : List β) :
    runAll run state (items ++ others) = runAll run next others := by
  induction items generalizing state with
  | nil =>
    cases first
    rfl
  | cons item rest ih =>
    obtain ⟨s, _, one, chain⟩ := andThen_ok (congrArg Outcome.answer first)
    rw [runAll, chain] at first
    rw [List.cons_append, runAll, one]
    exact ih first

theorem runAll_map (run : σ → β → Outcome σ ε Unit) (make : α → β) (state : σ) (items : List α) :
    runAll run state (items.map make) = runAll (fun state item => run state (make item)) state items := by
  induction items generalizing state with
  | nil => rfl
  | cons item rest ih =>
    rw [List.map_cons, runAll, runAll]
    congr 1
    funext next _
    exact ih next

end Outcome

namespace OverrideTracker

/-- Rules with the places of the functions that have their names, in the order in which they are applied. -/
def mutations (rules : Keyed (List Rule)) (r : Registry) : List (Rule × Nat) :=
  rules.flatMap fun entry => (r.placeOf? entry.1).toList.flatMap fun place => entry.2.map fun rule => (rule, place)

/-- A registry after mutations one after another. -/
def mutateAll (r : Registry) (mutations : List (Rule × Nat)) : Outcome Registry OverrideError Unit :=
  Outcome.runAll (fun r (mutation : Rule × Nat) => mutation.1.effect.mutate r mutation.2) r mutations

/-- Rules for functions of a registry that give none of them a name under which rules wait. The empty name is never given. -/
def GivesFreeNames (rules : Keyed (List Rule)) (r : Registry) : Prop :=
  ∀ entry ∈ rules, entry.1 ∈ Keyed.keys r.functions → ∀ rule ∈ entry.2, ∀ target ∈ rule.effect.targets,
    target ≠ "" → target ≠ entry.1 → target ∉ Keyed.keys rules

/-- The name that a function of a registry has in another one, if there is a function of that name. -/
def nameNow (r r' : Registry) (name : String) : Option String :=
  (r.placeOf? name).bind fun place => (r'.functionAt? place).map Function.name

/-- A registry on which some of all rules have been applied, each to the function that had its name, with the rules filed
under the names that these functions have now. Names under which rules still wait are where they were. -/
structure Followed (all done : Keyed (List Rule)) (r : Registry) (x : Application) : Prop where
  start : x.registry.start = r.start
  length : x.registry.functions.length = r.functions.length
  nodup : (Keyed.keys x.registry.functions).Nodup
  ran : mutateAll r (mutations done r) = .done x.registry ()
  waiting : ∀ name ∈ Keyed.keys all, name ∉ Keyed.keys done → x.registry.placeOf? name = r.placeOf? name
  each : ∀ (place : Nat) key f, r.functions[place]? = some (key, f) →
    ∃ g, f.reshapeAll? r.start (rulesIn done key) = some g ∧ x.registry.functionAt? place = some g
  filed : ∀ name, rulesIn x.filed name =
    done.flatMap fun entry => if nameNow r x.registry entry.1 = some name then entry.2 else []

variable {all done rest : Keyed (List Rule)} {r : Registry} {x : Application} {entry : String × List Rule}

namespace Followed

theorem absent (followed : Followed all done r x) (fresh : entry.1 ∉ Keyed.keys done) (missing : r.placeOf? entry.1 = none)
    (log : Log) : Followed all (done ++ [entry]) r { x with log } where
  start := followed.start
  length := followed.length
  nodup := followed.nodup
  ran := by
    have none : mutations (done ++ [entry]) r = mutations done r := by
      simp only [mutations, List.flatMap_append, List.flatMap_singleton, missing, Option.toList_none, List.flatMap_nil,
        List.append_nil]
    rw [none]
    exact followed.ran
  waiting name waits still := followed.waiting name waits fun before => still (by simp [Keyed.keys] at before ⊢; exact .inl before)
  each place key f stands := by
    have apart : key ≠ entry.1 := by
      rintro rfl
      exact placeOf?_eq_none.mp missing (mem_keys stands)
    rw [rulesIn, find?_snoc fresh, if_neg apart]
    exact followed.each place key f stands
  filed name := by
    have nowhere : nameNow r x.registry entry.1 = none := by rw [nameNow, missing, Option.bind_none]
    rw [List.flatMap_append, List.flatMap_singleton, nowhere, if_neg (by simp), List.append_nil]
    exact followed.filed name

/-- Names that rules for a function of a name may give it, and that name. -/
def namesGiven (entry : String × List Rule) : List String :=
  entry.1 :: entry.2.flatMap fun rule => rule.effect.targets.filter (· ≠ "")

/-- Rules mutate the function that had their name, and change nothing for the others that rules wait for. -/
theorem moved (followed : Followed all done r x) (filed : r.Filed) (fresh : entry.1 ∉ Keyed.keys done) {place : Nat} {r' : Registry}
    {f : Function} (stands : r.functions[place]? = some (entry.1, f))
    (ran : Outcome.runAll (fun r (rule : Rule) => rule.effect.mutate r place) x.registry entry.2 = .done r' ()) :
    ∃ g, f.reshapeAll? r.start entry.2 = some g ∧ Moved place (namesGiven entry) x.registry r' g := by
  obtain ⟨f', reshaped, now⟩ := followed.each place entry.1 f stands
  rw [rulesIn, find?_eq_none_iff.mpr fresh] at reshaped
  obtain rfl : f = f' := Option.some.inj reshaped
  have own : f.name ∈ namesGiven entry := filed.name_eq stands ▸ List.mem_cons_self
  have permitted : ∀ rule ∈ entry.2, ∀ e ∈ rule.effect.edits, ∀ name ∈ e.target?, name ≠ "" → name ∈ namesGiven entry := by
    intro rule member e made name given filled
    refine List.mem_cons_of_mem _ (List.mem_flatMap.mpr ⟨rule, member, List.mem_filter.mpr ?_⟩)
    exact ⟨Effect.target_of_edits made given, decide_eq_true filled⟩
  obtain ⟨g, shape, led⟩ := (reshaping_moved place _).mutateAll ⟨now, own⟩ permitted (congrArg Outcome.answer ran)
  rw [ran, Outcome.state_done] at led
  exact ⟨g, followed.start ▸ shape, led⟩

theorem present (followed : Followed all done r x) (filed : r.Filed) (free : GivesFreeNames all r) (listed : entry ∈ all)
    (fresh : entry.1 ∉ Keyed.keys done) {place : Nat} {r' : Registry} {f g : Function}
    (stands : r.functions[place]? = some (entry.1, f))
    (ran : Outcome.runAll (fun r (rule : Rule) => rule.effect.mutate r place) x.registry entry.2 = .done r' ())
    (reshaped : f.reshapeAll? r.start entry.2 = some g) (moved : Moved place (namesGiven entry) x.registry r' g) :
    Followed all (done ++ [entry]) r { x with registry := r', filed := fileUnder x.filed g.name entry.2 } := by
  have found : r.placeOf? entry.1 = some place := filed.placeOf?_eq_some.mpr ⟨f, stands⟩
  refine ⟨moved.start.trans followed.start, moved.length.trans followed.length, moved.nodup followed.nodup, ?_, ?_, ?_, ?_⟩
  · have last : mutations (done ++ [entry]) r = mutations done r ++ entry.2.map fun rule => (rule, place) := by
      simp only [mutations, List.flatMap_append, List.flatMap_singleton, found, Option.toList_some]
    rw [last, mutateAll, Outcome.runAll_append followed.ran, Outcome.runAll_map]
    exact ran
  · intro name waits still
    rw [Keyed.keys, List.map_append, List.mem_append, not_or] at still
    have other : name ≠ entry.1 := fun same => still.2 (same ▸ List.mem_cons_self)
    have ungiven : name ∉ namesGiven entry := by
      intro given
      rcases List.mem_cons.mp given with same | target
      · exact other same
      · obtain ⟨rule, member, target⟩ := List.mem_flatMap.mp target
        obtain ⟨target, filled⟩ := List.mem_filter.mp target
        exact free entry listed (mem_keys stands) rule member name target (of_decide_eq_true filled) other waits
    exact (moved.keys name ungiven).trans (followed.waiting name waits still.1)
  · intro j key f' there
    by_cases here : place = j
    · subst here
      rw [stands] at there
      cases there
      refine ⟨g, ?_, moved.stands⟩
      rw [rulesIn, find?_snoc fresh, if_pos rfl]
      exact reshaped
    · have apart : key ≠ entry.1 := by
        rintro rfl
        exact here (filed.place_unique stands there)
      obtain ⟨h, shape, now⟩ := followed.each j key f' there
      refine ⟨h, ?_, (moved.elsewhere j here).trans now⟩
      rw [rulesIn, find?_snoc fresh, if_neg apart]
      exact shape
  · intro name
    have earlier : ∀ other ∈ done, nameNow r r' other.1 = nameNow r x.registry other.1 := by
      intro other member
      unfold nameNow
      cases at_ : r.placeOf? other.1 with
      | none => rfl
      | some j =>
        have here : place ≠ j := by
          rintro rfl
          obtain ⟨f', there⟩ := filed.placeOf?_eq_some.mp at_
          have both : (entry.1, f) = (other.1, f') := Option.some.inj (stands.symm.trans there)
          exact fresh (List.mem_map.mpr ⟨other, member, (Prod.mk.inj both).1.symm⟩)
        rw [Option.bind_some, Option.bind_some, moved.elsewhere j here]
    have now : nameNow r r' entry.1 = some g.name := by
      rw [nameNow, found, Option.bind_some, moved.stands]
      rfl
    rw [rulesIn_fileUnder, followed.filed, List.flatMap_append, List.flatMap_singleton, now]
    congr 1
    · exact List.flatMap_congr fun other member => by rw [earlier other member]
    · simp only [Option.some.injEq, eq_comm]

/-- One entry of rules applied. -/
theorem step (followed : Followed all done r x) (filed : r.Filed) (free : GivesFreeNames all r)
    (distinct : (Keyed.keys all).Nodup) (split : all = done ++ entry :: rest) (applied : (x.applyRules entry).answer = .ok ()) :
    Followed all (done ++ [entry]) r (x.applyRules entry).state := by
  obtain ⟨listed, fresh⟩ := cut_keyed distinct split
  have waiting := followed.waiting entry.1 (List.mem_map_of_mem listed) fresh
  obtain ⟨missing, log, state⟩ | ⟨place, r', found, ran, state⟩ := Application.applyRules_ok applied
  · rw [state]
    exact followed.absent fresh (waiting ▸ missing) log
  · obtain ⟨f, stands⟩ := filed.placeOf?_eq_some.mp (waiting ▸ found)
    obtain ⟨g, reshaped, moved⟩ := followed.moved filed fresh stands ran
    rw [state g moved.stands]
    exact followed.present filed free listed fresh stands ran reshaped moved

/-- All rules applied. -/
theorem run (filed : r.Filed) (free : GivesFreeNames all r) (distinct : (Keyed.keys all).Nodup) (followed : Followed all [] r x)
    (ran : (Outcome.runAll Application.applyRules x all).answer = .ok ()) :
    Followed all all r (Outcome.runAll Application.applyRules x all).state :=
  Application.runAll_induction (P := fun done x => Followed all done r x)
    (fun split followed applied => followed.step filed free distinct split applied) followed ran

end Followed

theorem followed_nothing (all : Keyed (List Rule)) (filed : r.Filed) (log : Log) : Followed all [] r ⟨r, [], log⟩ where
  start := rfl
  length := rfl
  nodup := filed.nodup
  ran := rfl
  waiting _ _ _ := rfl
  each _ _ f stands := ⟨f, rfl, functionAt?_eq stands⟩
  filed _ := rfl

/-- What stands under a name, in entries of which each has a name of its own. -/
theorem flatMap_rules (distinct : (Keyed.keys all).Nodup) (name : String) :
    (all.flatMap fun entry => if entry.1 = name then entry.2 else []) = rulesIn all name := by
  induction all with
  | nil => rfl
  | cons entry rest ih =>
    obtain ⟨key, rules⟩ := entry
    obtain ⟨fresh, distinct⟩ := List.nodup_cons.mp distinct
    rw [List.flatMap_cons]
    by_cases own : key = name
    · subst own
      have others : (rest.flatMap fun entry => if entry.1 = key then entry.2 else []) = [] := by
        rw [List.flatMap_eq_nil_iff]
        intro entry member
        exact if_neg fun same => fresh (List.mem_map.mpr ⟨entry, member, same⟩)
      rw [if_pos rfl, others, List.append_nil, rulesIn, Keyed.find?, List.lookup_cons_self]
      rfl
    · rw [if_neg own, List.nil_append, ih distinct, rulesIn, rulesIn, Keyed.find?, Keyed.find?,
        List.lookup_cons, beq_eq_false_iff_ne.mpr fun same : name = key => own same.symm]

/-- The name that a function has now, where functions stand under their own names. -/
theorem nameNow_eq_some {r' : Registry} (filed : r.Filed) (filed' : r'.Filed) {name new : String} : nameNow r r' name = some new ↔
    ∃ (place : Nat) (f g : Function), r.functions[place]? = some (name, f) ∧ r'.functions[place]? = some (new, g) := by
  unfold nameNow
  rw [Option.bind_eq_some_iff]
  constructor
  · rintro ⟨place, found, now⟩
    obtain ⟨f, stands⟩ := filed.placeOf?_eq_some.mp found
    obtain ⟨g, at_, rfl⟩ := Option.map_eq_some_iff.mp now
    obtain ⟨⟨key, _⟩, stands', rfl⟩ := Option.map_eq_some_iff.mp at_
    obtain rfl := filed'.name_eq stands'
    exact ⟨place, f, _, stands, stands'⟩
  · rintro ⟨place, f, g, stands, stands'⟩
    refine ⟨place, filed.placeOf?_eq_some.mpr ⟨f, stands⟩, ?_⟩
    rw [functionAt?_eq stands', Option.map_some, filed'.name_eq stands']

namespace Followed

variable {place : Nat} {key name : String} {f g : Function}

/-- Under the name that a function has now are filed the rules that were registered under its name. -/
theorem rules_found (followed : Followed all all r x) (filed : r.Filed) (filed' : x.registry.Filed)
    (distinct : (Keyed.keys all).Nodup) (stands : r.functions[place]? = some (key, f))
    (now : x.registry.functions[place]? = some (name, g)) : rulesIn x.filed name = rulesIn all key := by
  rw [followed.filed, ← flatMap_rules distinct]
  refine List.flatMap_congr fun entry _ => ?_
  congr 1
  rw [eq_iff_iff, nameNow_eq_some filed filed']
  constructor
  · rintro ⟨j, f', g', there, there'⟩
    obtain rfl := filed'.place_unique now there'
    have both : (key, f) = (entry.1, f') := Option.some.inj (stands.symm.trans there)
    exact (Prod.mk.inj both).1.symm
  · rintro rfl
    exact ⟨place, f, g, stands, now⟩

theorem rules_nowhere (followed : Followed all all r x) (filed : r.Filed) (filed' : x.registry.Filed)
    (absent : name ∉ Keyed.keys x.registry.functions) : rulesIn x.filed name = [] := by
  rw [followed.filed, List.flatMap_eq_nil_iff]
  intro entry _
  refine if_neg fun found => ?_
  obtain ⟨j, -, g, -, there⟩ := (nameNow_eq_some filed filed').mp found
  exact absent (mem_keys there)

/-- Every function that stands now has been one before. -/
theorem origin (followed : Followed all done r x) (now : x.registry.functions[place]? = some (name, g)) :
    ∃ key f, r.functions[place]? = some (key, f) := by
  have bound : place < r.functions.length := followed.length ▸ (List.getElem?_eq_some_iff.mp now).1
  exact ⟨_, _, List.getElem?_eq_getElem bound⟩

end Followed

variable {t : OverrideTracker}

/-- **Rules follow their functions.** Where functions stand under their own names, and no rules for them give a name under which
other rules wait, overrides that are applied without error have done this: the registry comes from running every rule whose
name a function has just once, in order of registration, on that function. Under the name that a function has in the end are
found exactly the rules that were registered under its name, in their order, and under no other name any rules, so that
those for absent functions are not found at all. -/
theorem rules_follow_functions (filed : r.Filed) (tidy : t.Tidy) (free : GivesFreeNames t.rules r)
    (applied : (t.apply r).answer = .ok ()) : let t' := (t.apply r).state.1
    let r' := (t.apply r).state.2
    mutateAll r.freeze (mutations t.rules r) = .done r' () ∧
    r'.functions.length = r.functions.length ∧
    (∀ (place : Nat) key f, r.functions[place]? = some (key, f) → ∃ g, f.reshapeAll? r.start (t.rulesOf key) = some g ∧
      r'.functions[place]? = some (g.name, g) ∧ t'.rulesOf g.name = t.rulesOf key) ∧
    (∀ name, name ∉ Keyed.keys r'.functions → t'.rulesOf name = []) ∧
    ∀ name, ∀ rule ∈ t'.rulesOf name, rule.function ∈ Keyed.keys r.functions := by
  intro t' r'
  obtain ⟨⟨s, filedRules, log⟩, ran, -, whole⟩ := apply_done applied
  obtain rfl : s = r' := (congrArg (fun o => o.state.2) whole).symm
  have rules : ∀ name, t'.rulesOf name = rulesIn filedRules name := by
    simp only [t', whole]
    exact fun _ => rfl
  have followed := Followed.run filed.freeze free tidy.nodup (followed_nothing t.rules filed.freeze t.log)
    (congrArg Outcome.answer ran)
  rw [ran, Outcome.state_done] at followed
  -- The registry can be emitted, so the new names are keys, and no two functions have one.
  have filed' : r'.Filed := ⟨named_of_fault? (sound_of_apply applied), followed.nodup⟩
  have each : ∀ (place : Nat) key f, r.functions[place]? = some (key, f) → ∃ g, f.reshapeAll? r.start (t.rulesOf key) = some g ∧
      r'.functions[place]? = some (g.name, g) ∧ t'.rulesOf g.name = t.rulesOf key := by
    intro place key f stands
    obtain ⟨g, reshaped, at_⟩ := followed.each place key f stands
    obtain ⟨⟨key', _⟩, stands', rfl⟩ := Option.map_eq_some_iff.mp at_
    obtain rfl := filed'.name_eq stands'
    exact ⟨_, reshaped, stands', (rules _).trans (followed.rules_found filed.freeze filed' tidy.nodup stands stands')⟩
  have nowhere : ∀ name, name ∉ Keyed.keys r'.functions → t'.rulesOf name = [] :=
    fun name absent => (rules name).trans (followed.rules_nowhere filed.freeze filed' absent)
  refine ⟨followed.ran, followed.length, each, nowhere, ?_⟩
  intro name rule found
  by_cases held : name ∈ Keyed.keys r'.functions
  · obtain ⟨place, g, there⟩ := mem_keys_iff.mp held
    obtain ⟨key, f, stands⟩ := followed.origin there
    obtain ⟨g', -, there', same⟩ := each place key f stands
    have both : (name, g) = (g'.name, g') := Option.some.inj (there.symm.trans there')
    rw [(Prod.mk.inj both).1, same] at found
    rw [tidy.function_eq found]
    exact mem_keys stands
  · rw [nowhere name held] at found
    cases found

end OverrideTracker

/-! ## A function renamed between its rules -/

namespace RenamedFoos
open OverrideTracker

def type : FunctionType := ⟨"PFNGLGENFOOSPROC", "void", false, [⟨"GLuint", "foo", false⟩]⟩

def registry : Registry :=
  { Registry.empty "gl" with
    types := [("PFNGLGENFOOSPROC", type)]
    functions := [("glGenFoos", ⟨"glGenFoos", "GenFoos", "public", type⟩)]
    shortNames := [("GenFoos", "glGenFoos")] }

/-- A rule that assigns a name for a while, and then gives a new one for good. -/
def rename : Rule := ⟨"glGenFoos", .custom [.assignName "glFoo", .assignName "glGenFoos", .rename "glMakeFoo"] none none⟩

def missing : Rule := ⟨"glMissing", .none⟩

def retype : Rule := ⟨"glGenFoos", .retype "FooHandle" ["foo"] [] none⟩

def tracker : OverrideTracker := OverrideTracker.empty.addRules [rename, missing, retype]

/-- Both rules for the function have been applied and are found under its new name, and no others anywhere. -/
theorem found_under_new_name : registry.Filed ∧ tracker.Tidy ∧ GivesFreeNames tracker.rules registry ∧
    (tracker.apply registry).answer = .ok () ∧
    (tracker.apply registry).state.2.functions =
      [("glMakeFoo", ⟨"glMakeFoo", "MakeFoo", "public", ⟨"PFNGLGENFOOSPROC", "void", false, [⟨"FooHandle", "foo", false⟩]⟩⟩)] ∧
    (tracker.apply registry).state.1.rulesOf "glMakeFoo" = [rename, retype] ∧
    (tracker.apply registry).state.1.rulesOf "glGenFoos" = [] ∧ (tracker.apply registry).state.1.rulesOf "glMissing" = [] := by
  have filed : registry.Filed := ⟨by decide, by decide⟩
  have tidy : tracker.Tidy := tidy_addRules _ ⟨List.nodup_nil, fun _ member => absurd member List.not_mem_nil⟩
  have free : GivesFreeNames tracker.rules registry := by
    unfold GivesFreeNames
    decide
  have applied : (tracker.apply registry).answer = .ok () := by decide +kernel
  have functions : (tracker.apply registry).state.2.functions =
      [("glMakeFoo", ⟨"glMakeFoo", "MakeFoo", "public", ⟨"PFNGLGENFOOSPROC", "void", false, [⟨"FooHandle", "foo", false⟩]⟩⟩)] := by
    decide +kernel
  obtain ⟨-, -, each, nowhere, -⟩ := rules_follow_functions filed tidy free applied
  rw [functions] at each nowhere
  obtain ⟨g, -, now, found⟩ := each 0 "glGenFoos" _ rfl
  rw [← (Prod.mk.inj (Option.some.inj now)).1] at found
  exact ⟨filed, tidy, free, applied, functions, found, nowhere _ (by decide), nowhere _ (by decide)⟩

end RenamedFoos

end CommandStream
