import CommandStream.Proofs.Override.Application

/-!
# Rules in another order

Two lists of rules that both apply, one behind the other and in the other order, come to the same, if neither gives a
function a name that no function has and for which the other has rules. Then each of them changes only functions that
the other leaves as they are, and files its rules under names under which the other files none.
-/

namespace CommandStream
open Registry

namespace OverrideTracker

/-- Entries of rules that apply one after another. -/
inductive Runs : Application → Keyed (List Rule) → Application → Prop
  | nil (x : Application) : Runs x [] x
  | cons {x y z : Application} {entry : String × List Rule} {rest : Keyed (List Rule)} (applies : x.Applies entry y)
      (behind : Runs y rest z) : Runs x (entry :: rest) z

/-- A property of names that rules keep to: those for a name that has it give only such. -/
def Closed (P : String → Prop) (entry : String × List Rule) : Prop :=
  P entry.1 → ∀ rule ∈ entry.2, ∀ target ∈ rule.effect.targets, P target

variable {x y z u u' v v' : Application} {entry : String × List Rule} {entries others : Keyed (List Rule)}
  {P : String → Prop} {place : Nat} {key name : String} {f : Function} {rule : Rule}

theorem rulesIn_fileUnder (filed : Keyed (List Rule)) (under name : String) (rules : List Rule) :
    rulesIn (fileUnder filed under rules) name = rulesIn filed name ++ if name = under then rules else [] := by
  by_cases same : name = under
  · subst same
    simp [rulesIn, fileUnder]
  · simp [rulesIn, fileUnder, Keyed.find?_put_of_ne _ _ same, same]

/-! ## One entry -/

namespace Application.Applies

theorem filed (applies : x.Applies entry y) (filed : x.registry.Filed) : y.registry.Filed := by
  cases applies with
  | absent => exact filed
  | present now reshaped replaced => exact replaced.filed

theorem start (applies : x.Applies entry y) : y.registry.start = x.registry.start := by
  cases applies with
  | absent => rfl
  | present now reshaped replaced => exact replaced.start

/-- A function of another name stays as it is. -/
theorem kept (applies : x.Applies entry y) (stands : x.registry.functions[place]? = some (key, f)) (other : key ≠ entry.1) :
    y.registry.functions[place]? = some (key, f) := by
  cases applies with
  | absent => exact stands
  | @present i g h r now reshaped replaced =>
    have elsewhere : i ≠ place := by
      rintro rfl
      rw [stands] at now
      cases now
      exact other rfl
    exact (replaced.elsewhere elsewhere).trans stands

/-- Functions have names that they had or that a rule gives. -/
theorem named (applies : x.Applies entry y) (filed : x.registry.Filed) (closed : Closed P entry)
    (before : ∀ name ∈ Keyed.keys x.registry.functions, P name) : ∀ name ∈ Keyed.keys y.registry.functions, P name := by
  cases applies with
  | absent => exact before
  | @present i g h r now reshaped replaced =>
    have own : P entry.1 := before _ (mem_keys now)
    intro name member
    obtain ⟨entry, listed, rfl⟩ := List.mem_map.mp member
    have listed : entry ∈ r.functions := listed
    rw [replaced.functions] at listed
    rcases List.mem_or_eq_of_mem_set listed with earlier | rfl
    · exact before _ (List.mem_map_of_mem earlier)
    · rcases name_of_reshapeAll? reshaped with same | ⟨rule, among, target⟩
      · exact (same.trans (filed.name_eq now)) ▸ own
      · exact closed own rule among _ target

/-- Rules are filed under their own name, or under one that is given to a function now. -/
theorem rulesIn_cases (applies : x.Applies entry y) (name : String) :
    rulesIn y.filed name = rulesIn x.filed name ∨ name = entry.1 ∨
      name ∈ Keyed.keys y.registry.functions ∧ name ∉ Keyed.keys x.registry.functions := by
  have keeps : ∀ {j : Nat} {f}, x.registry.functions[j]? = some (name, f) → name ≠ entry.1 →
      y.registry.functions[j]? = some (name, f) := fun stands other => applies.kept stands other
  cases applies with
  | absent => exact .inl rfl
  | @present i g h r now reshaped replaced =>
    by_cases own : name = entry.1
    · exact .inr (.inl own)
    by_cases new : name = h.name
    · subst new
      have later := replaced.stands now
      refine .inr (.inr ⟨mem_keys later, fun held => ?_⟩)
      obtain ⟨j, f, stands⟩ := mem_keys_iff.mp held
      obtain rfl : i = j := replaced.filed.place_unique later (keeps stands own)
      rw [now] at stands
      exact own (congrArg Prod.fst (Option.some.inj stands)).symm
    · left
      rw [rulesIn_fileUnder, if_neg new, List.append_nil]

/-- Rules that are found were found before, or are those of the entry. -/
theorem mem_rulesIn (applies : x.Applies entry y) (found : rule ∈ rulesIn y.filed name) :
    rule ∈ rulesIn x.filed name ∨ rule ∈ entry.2 ∧ entry.1 ∈ Keyed.keys x.registry.functions := by
  cases applies with
  | absent => exact .inl found
  | @present i g h r now reshaped replaced =>
    rw [rulesIn_fileUnder, List.mem_append] at found
    refine found.imp id fun new => ?_
    split at new
    · exact ⟨new, mem_keys now⟩
    · cases new

end Application.Applies

/-! ## Entries one after another -/

/-- A run of the application of rules, with rules that may be filed. -/
theorem runs_of_ok (filed : x.registry.Filed) (filing : ∀ entry ∈ entries, ∀ rule ∈ entry.2, rule.effect.Filing)
    (ran : (Outcome.runAll Application.applyRules x entries).answer = .ok ()) :
    Runs x entries (Outcome.runAll Application.applyRules x entries).state := by
  induction entries generalizing x with
  | nil => exact .nil x
  | cons entry rest ih =>
    obtain ⟨next, _, first, chain⟩ := Outcome.andThen_ok ran
    have applies := Application.applies_of_ok filed (filing entry List.mem_cons_self) (congrArg Outcome.answer first)
    rw [first] at applies
    rw [Outcome.runAll, chain] at ran ⊢
    exact .cons applies (ih (applies.filed filed) (fun other member => filing other (List.mem_cons_of_mem _ member)) ran)

theorem runs_append (runs : Runs x (entries ++ others) z) : ∃ y, Runs x entries y ∧ Runs y others z := by
  induction entries generalizing x with
  | nil => exact ⟨x, .nil x, runs⟩
  | cons entry rest ih =>
    cases runs with
    | cons applies behind =>
      obtain ⟨y, first, last⟩ := ih behind
      exact ⟨y, .cons applies first, last⟩

namespace Runs

theorem filed (runs : Runs x entries y) (filed : x.registry.Filed) : y.registry.Filed := by
  induction runs with
  | nil => exact filed
  | cons applies _ ih => exact ih (applies.filed filed)

theorem start (runs : Runs x entries y) : y.registry.start = x.registry.start := by
  induction runs with
  | nil => rfl
  | cons applies _ ih => exact ih.trans applies.start

/-- A function stays as it is if there are no rules for its name. -/
theorem kept (runs : Runs x entries y) (stands : x.registry.functions[place]? = some (key, f))
    (other : key ∉ Keyed.keys entries) : y.registry.functions[place]? = some (key, f) := by
  induction runs with
  | nil => exact stands
  | cons applies _ ih =>
    rw [Keyed.keys, List.map_cons, List.mem_cons, not_or] at other
    exact ih (applies.kept stands other.1) other.2

theorem named (runs : Runs x entries y) (filed : x.registry.Filed) (closed : ∀ entry ∈ entries, Closed P entry)
    (before : ∀ name ∈ Keyed.keys x.registry.functions, P name) : ∀ name ∈ Keyed.keys y.registry.functions, P name := by
  induction runs with
  | nil => exact before
  | cons applies _ ih =>
    exact ih (applies.filed filed) (fun other member => closed other (List.mem_cons_of_mem _ member))
      (applies.named filed (closed _ List.mem_cons_self) before)

/-- Rules are filed under names for which there are rules, or under new ones. -/
theorem rulesIn_cases (runs : Runs x entries y) (name : String) :
    rulesIn y.filed name = rulesIn x.filed name ∨ name ∈ Keyed.keys entries ∨
      name ∈ Keyed.keys y.registry.functions ∧ name ∉ Keyed.keys x.registry.functions := by
  induction runs with
  | nil => exact .inl rfl
  | @cons x y z entry rest applies behind ih =>
    by_cases listed : name ∈ Keyed.keys (entry :: rest)
    · exact .inr (.inl listed)
    have apart := listed
    rw [Keyed.keys, List.map_cons, List.mem_cons, not_or] at apart
    have first := (applies.rulesIn_cases name).imp_right fun case => case.resolve_left apart.1
    have last := ih.imp_right fun case => case.resolve_left apart.2
    rcases last with last | ⟨now, new⟩
    · rcases first with first | ⟨now, new⟩
      · exact .inl (last.trans first)
      · obtain ⟨place, f, stands⟩ := mem_keys_iff.mp now
        exact .inr (.inr ⟨mem_keys (behind.kept stands apart.2), new⟩)
    · refine .inr (.inr ⟨now, fun held => new ?_⟩)
      obtain ⟨place, f, stands⟩ := mem_keys_iff.mp held
      exact mem_keys (applies.kept stands apart.1)

/-- Rules that are found were found before, or are for a name that a function had. -/
theorem mem_rulesIn (runs : Runs x entries y) (filed : x.registry.Filed) (closed : ∀ entry ∈ entries, Closed P entry)
    (before : ∀ name ∈ Keyed.keys x.registry.functions, P name) (found : rule ∈ rulesIn y.filed name) :
    rule ∈ rulesIn x.filed name ∨ ∃ entry ∈ entries, rule ∈ entry.2 ∧ P entry.1 := by
  induction runs with
  | nil => exact .inl found
  | cons applies _ ih =>
    have named := applies.named filed (closed _ List.mem_cons_self) before
    rcases ih (applies.filed filed) (fun other member => closed other (List.mem_cons_of_mem _ member)) named found with
      earlier | ⟨entry, listed, among, has⟩
    · exact (applies.mem_rulesIn earlier).imp_right fun ⟨among, held⟩ => ⟨_, List.mem_cons_self, among, before _ held⟩
    · exact .inr ⟨entry, List.mem_cons_of_mem _ listed, among, has⟩

end Runs

/-! ## The same entries on two registries -/

/-- Registries with the same functions under some names. -/
def SameUnder (keys : List String) (r r' : Registry) : Prop :=
  ∀ (place : Nat) key f, key ∈ keys → (r.functions[place]? = some (key, f) ↔ r'.functions[place]? = some (key, f))

/-- Two changes alongside each other: where one changes something, both start with the same and come to the same. -/
structure Alongside (u u' v v' : Application) : Prop where
  functions : ∀ place : Nat,
    u.registry.functions[place]? = v.registry.functions[place]? ∧ u'.registry.functions[place]? = v'.registry.functions[place]? ∨
    u'.registry.functions[place]? = u.registry.functions[place]? ∧ v'.registry.functions[place]? = v.registry.functions[place]?
  filed : ∀ name, ∃ new, rulesIn u'.filed name = rulesIn u.filed name ++ new ∧ rulesIn v'.filed name = rulesIn v.filed name ++ new

namespace Alongside

theorem refl (u v : Application) : Alongside u u v v :=
  ⟨fun _ => .inr ⟨rfl, rfl⟩, fun _ => ⟨[], (List.append_nil _).symm, (List.append_nil _).symm⟩⟩

theorem trans {u'' v'' : Application} (first : Alongside u u' v v') (last : Alongside u' u'' v' v'') :
    Alongside u u'' v v'' := by
  constructor
  · intro place
    rcases first.functions place with ⟨same, same'⟩ | ⟨left, right⟩
    · rcases last.functions place with ⟨-, same''⟩ | ⟨left, right⟩
      · exact .inl ⟨same, same''⟩
      · exact .inl ⟨same, left.trans (same'.trans right.symm)⟩
    · rcases last.functions place with ⟨same, same'⟩ | ⟨left', right'⟩
      · exact .inl ⟨left.symm.trans (same.trans right), same'⟩
      · exact .inr ⟨left'.trans left, right'.trans right⟩
  · intro name
    obtain ⟨new, left, right⟩ := first.filed name
    obtain ⟨new', left', right'⟩ := last.filed name
    exact ⟨new ++ new', by rw [left', left, List.append_assoc], by rw [right', right, List.append_assoc]⟩

theorem sameUnder {keys : List String} (alongside : Alongside u u' v v') (same : SameUnder keys u.registry v.registry) :
    SameUnder keys u'.registry v'.registry := by
  intro place key f listed
  rcases alongside.functions place with ⟨-, same'⟩ | ⟨left, right⟩
  · rw [same']
  · rw [left, right]
    exact same place key f listed

end Alongside

theorem Application.Applies.alongside (left : u.Applies entry u') (right : v.Applies entry v') (filed : u.registry.Filed)
    (start : u.registry.start = v.registry.start) (same : SameUnder [entry.1] u.registry v.registry) : Alongside u u' v v' := by
  have listed : entry.1 ∈ [entry.1] := List.mem_singleton_self _
  cases left with
  | absent missing =>
    cases right with
    | absent => exact ⟨fun _ => .inr ⟨rfl, rfl⟩, fun _ => ⟨[], (List.append_nil _).symm, (List.append_nil _).symm⟩⟩
    | present now => exact absurd (mem_keys ((same _ _ _ listed).mpr now)) missing
  | @present i f h r now reshaped replaced =>
    cases right with
    | absent missing => exact absurd (mem_keys ((same _ _ _ listed).mp now)) missing
    | @present j f' h' r' now' reshaped' replaced' =>
      obtain rfl : i = j := filed.place_unique now ((same _ _ _ listed).mpr now')
      have both := now'.symm.trans ((same _ _ _ listed).mp now)
      cases both
      rw [start, reshaped'] at reshaped
      cases reshaped
      constructor
      · intro place
        by_cases here : i = place
        · subst here
          exact .inl ⟨now.trans now'.symm, (replaced.stands now).trans (replaced'.stands now').symm⟩
        · exact .inr ⟨replaced.elsewhere here, replaced'.elsewhere here⟩
      · intro name
        exact ⟨_, rulesIn_fileUnder _ _ _ _, rulesIn_fileUnder _ _ _ _⟩

/-- The same entries, applied to registries with the same functions under their names, change these in the same way. -/
theorem Runs.alongside (left : Runs u entries u') (right : Runs v entries v') (filed : u.registry.Filed)
    (start : u.registry.start = v.registry.start) (same : SameUnder (Keyed.keys entries) u.registry v.registry) :
    Alongside u u' v v' := by
  induction left generalizing v v' with
  | nil =>
    cases right
    exact .refl _ _
  | @cons u w u' entry rest applies _ ih =>
    cases right with
    | cons applies' behind =>
      have first := applies.alongside applies' filed start fun place key f listed =>
        same place key f (List.mem_singleton.mp listed ▸ List.mem_cons_self)
      have last := ih behind (applies.filed filed) (applies.start.trans (start.trans applies'.start.symm))
        (first.sameUnder fun place key f listed => same place key f (List.mem_cons_of_mem _ listed))
      exact first.trans last

/-! ## Two lists in both orders -/

section Orders

variable {r : Registry} {log log' : Log} (filed : r.Filed)
include filed

/-- Entries leave the functions for whose names others wait, if they give no such name that is new. -/
theorem Runs.sameUnder (runs : Runs ⟨r, [], log⟩ entries x) (disjoint : ∀ name ∈ Keyed.keys others, name ∉ Keyed.keys entries)
    (apart : ∀ name ∈ Keyed.keys x.registry.functions, name ∈ Keyed.keys others → name ∈ Keyed.keys r.functions) :
    SameUnder (Keyed.keys others) x.registry r := by
  intro place key f waits
  constructor
  · intro now
    -- The registry has the name, and its function keeps it: so no other function has got it.
    obtain ⟨i, g, stands⟩ := mem_keys_iff.mp (apart key (mem_keys now) waits)
    have later := runs.kept stands (disjoint key waits)
    obtain rfl := (runs.filed filed).place_unique now later
    rw [now] at later
    cases later
    exact stands
  · exact fun stands => runs.kept stands (disjoint key waits)

variable {x' y' : Application} (first : Runs ⟨r, [], log⟩ entries x) (last : Runs x others y)
  (first' : Runs ⟨r, [], log'⟩ others x') (last' : Runs x' entries y')
  (disjoint : ∀ name ∈ Keyed.keys entries, name ∉ Keyed.keys others)
  (apart : ∀ name ∈ Keyed.keys x.registry.functions, name ∈ Keyed.keys others → name ∈ Keyed.keys r.functions)
  (apart' : ∀ name ∈ Keyed.keys x'.registry.functions, name ∈ Keyed.keys entries → name ∈ Keyed.keys r.functions)
include first last first' last' disjoint apart apart'

/-- Entries that apply in both orders leave the same functions, and file the same rules under each name: those that each
list files by itself. -/
theorem commute : y'.registry.functions = y.registry.functions ∧ ∀ name,
    rulesIn y.filed name = rulesIn x.filed name ++ rulesIn x'.filed name ∧ rulesIn y'.filed name = rulesIn y.filed name := by
  have disjoint' : ∀ name ∈ Keyed.keys others, name ∉ Keyed.keys entries :=
    fun name listed member => disjoint name member listed
  have alongside : Alongside x y ⟨r, [], log'⟩ x' :=
    last.alongside first' (first.filed filed) first.start (first.sameUnder filed disjoint' apart)
  have alongside' : Alongside x' y' ⟨r, [], log⟩ x :=
    last'.alongside first (first'.filed filed) first'.start (first'.sameUnder filed disjoint apart')
  have functions : y'.registry.functions = y.registry.functions := by
    apply List.ext_getElem?
    intro place
    -- One list at most changes a place, and comes to the same there with the other in front of it or not.
    rcases alongside.functions place with ⟨same, last⟩ | ⟨last, same⟩ <;>
      rcases alongside'.functions place with ⟨same', last'⟩ | ⟨last', same'⟩
    · exact last'.trans (same.trans (same'.symm.trans last.symm))
    · exact last'.trans last.symm
    · exact last'.trans last.symm
    · exact last'.trans (same.trans (same'.symm.trans last.symm))
  refine ⟨functions, fun name => ?_⟩
  obtain ⟨new, filedBehind, filedFirst⟩ := alongside.filed name
  obtain ⟨new', filedBehind', filedFirst'⟩ := alongside'.filed name
  obtain rfl : rulesIn x'.filed name = new := filedFirst
  obtain rfl : rulesIn x.filed name = new' := filedFirst'
  refine ⟨filedBehind, ?_⟩
  rw [filedBehind, filedBehind']
  have nothing : rulesIn ([] : Keyed (List Rule)) name = [] := rfl
  rcases first.rulesIn_cases name with none | own | ⟨now, new⟩
  · rw [none, nothing, List.append_nil, List.nil_append]
  · rcases first'.rulesIn_cases name with none | own' | ⟨now', new'⟩
    · rw [none, nothing, List.append_nil, List.nil_append]
    · exact absurd own' (disjoint name own)
    · exact absurd (apart' name now' own) new'
  · rcases first'.rulesIn_cases name with none | own' | ⟨now', new'⟩
    · rw [none, nothing, List.append_nil, List.nil_append]
    · exact absurd (apart name now own') new
    -- Each list gives the name to a function: then two functions have it in the end.
    · obtain ⟨i, f, stands⟩ := mem_keys_iff.mp now
      obtain ⟨j, g, stands'⟩ := mem_keys_iff.mp now'
      obtain ⟨there, before⟩ := (alongside.functions i).resolve_left fun same =>
        new (mem_keys (same.1.symm.trans stands))
      obtain ⟨there', before'⟩ := (alongside'.functions j).resolve_left fun same =>
        new (mem_keys (same.1.symm.trans stands'))
      rw [functions] at there'
      obtain rfl : i = j := ((last.filed (first.filed filed)).place_unique (there.trans stands) (there'.trans stands'))
      exact absurd (mem_keys (before.symm.trans stands')) new

end Orders

end OverrideTracker

end CommandStream
