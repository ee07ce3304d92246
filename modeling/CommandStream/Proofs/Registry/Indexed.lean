import CommandStream.Proofs.Registry.Parsed

/-!
# Short names in the index

The index of a registry that is read leads from the short name of every function to its name, so no two functions
share one. A renaming of an indexed function fails for one reason only, that the new name is another function's, and
takes no short name but that of the function out of the index.
-/

namespace CommandStream

/-- Every name but the empty one has a short name. -/
theorem isSome_shortName? {name : String} (named : name ≠ "") (start : String) : (shortName? name start).isSome := by
  have letters : name.toList ≠ [] := fun empty => named (String.toList_eq_nil_iff.mp empty)
  unfold shortName?
  dsimp only
  split
  · rename_i empty
    split at empty
    · cases empty
    · exact absurd empty letters
  · rfl

namespace Registry

/-- A registry whose index leads from the short name of every function to its name. -/
def Indexed (r : Registry) : Prop :=
  ∀ entry ∈ r.functions, Keyed.find? r.shortNames entry.2.shortName = some entry.1

variable {r r' : Registry} {place : Nat} {key : String} {f g : Function}

theorem Indexed.mem (indexed : r.Indexed) (stands : r.functions[place]? = some (key, f)) :
    f.shortName ∈ Keyed.keys r.shortNames :=
  isSome_find?_iff.mp (Option.isSome_of_eq_some (indexed _ (List.mem_of_getElem? stands)))

/-- A short name belongs to one place. -/
theorem Indexed.place_unique (indexed : r.Indexed) (filed : r.Filed) {i j : Nat} {other : String}
    (first : r.functions[i]? = some (key, f)) (second : r.functions[j]? = some (other, g))
    (same : f.shortName = g.shortName) : i = j := by
  have own := indexed _ (List.mem_of_getElem? first)
  rw [same, indexed _ (List.mem_of_getElem? second)] at own
  cases own
  exact filed.place_unique first second

theorem indexed_empty (start : String) : (empty start).Indexed := by
  intro entry member
  cases member

theorem Indexed.addFunction (indexed : r.Indexed) {name typedefName : String}
    (added : r.addFunction name typedefName = .ok (f, r')) : r'.Indexed := by
  obtain ⟨short, type, -, fresh, rfl, rfl⟩ := addFunction_ok added
  intro entry member
  show Keyed.find? (r.shortNames ++ [(short, name)]) entry.2.shortName = some entry.1
  rw [find?_snoc fresh]
  rcases List.mem_append.mp member with before | last
  · have own := indexed entry before
    have apart : entry.2.shortName ≠ short := by
      intro same
      rw [same, find?_eq_none_iff.mpr fresh] at own
      cases own
    rw [if_neg apart, own]
  · cases List.mem_singleton.mp last
    exact if_pos rfl

theorem Grows.indexed (grows : r.Grows r') (indexed : r.Indexed) : r'.Indexed := by
  cases grows with
  | function added => exact indexed.addFunction added
  | beside defines types => exact indexed

theorem indexed_kept : KeptByTyping Indexed := by
  refine ⟨fun _ _ indexed => indexed, ?_⟩
  intro r place change indexed entry member
  obtain ⟨before, listed, rfl | rfl⟩ := mem_modifyAt member
  · exact indexed _ listed
  · exact indexed before listed

/-! ## Renaming -/

/-- A renaming of an indexed function: it succeeds, and the short names of all others stay in the index, unless
another function has the new name. -/
theorem rename_cases (filed : r.Filed) (stands : r.functions[place]? = some (key, f)) {new : String} (named : new ≠ "")
    (indexed : f.shortName ∈ Keyed.keys r.shortNames) (other : new ≠ key) :
    (new ∉ Keyed.keys r.functions ∧ (r.rename place new).answer = .ok () ∧
      ∀ short ∈ Keyed.keys r.shortNames, short ≠ f.shortName → short ∈ Keyed.keys (r.rename place new).state.shortNames) ∨
    (new ∈ Keyed.keys r.functions ∧ (r.rename place new).answer = .error (.nameTaken key new)) := by
  have own := filed.name_eq stands
  have result := renaming_rename (functionAt?_eq stands) new
  generalize r.rename place new = o at result ⊢
  cases result with
  | own same => exact absurd (same.trans own) other
  | taken _ held => exact .inr ⟨held, own ▸ rfl⟩
  | lost _ _ absent => exact absurd indexed absent
  | unnamed _ _ _ nameless =>
    have some_short := isSome_shortName? named r.start
    rw [nameless] at some_short
    cases some_short
  | named _ free =>
    refine .inl ⟨free, rfl, fun short member apart => ?_⟩
    exact mem_keys_put.mpr (.inl (mem_keys_drop.mpr ⟨member, apart⟩))

end Registry

/-- Every registry that is read has its functions in the index. -/
theorem Build.indexed_readRegistry {log : Log} {start : String} {lines : List String}
    {description : Option (Except Markup.DocumentError Markup.Element)} {r : Registry}
    (read : (readRegistry log start lines description).answer = .ok r) : r.Indexed :=
  keeps_readRegistry (Registry.indexed_empty start) (fun _ _ grows indexed => grows.indexed indexed)
    Registry.indexed_kept (fun _ indexed => indexed) read

end CommandStream
