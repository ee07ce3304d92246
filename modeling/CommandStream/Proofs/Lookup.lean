import CommandStream.Keyed
import Mathlib.Data.List.Nodup

/-!
# Looking up keys

What is found under a key is an entry, the first one of its key; if no key comes twice, every entry is
found, and sorting by keys gives strict order. Values replaced under one key leave all others.
-/

namespace CommandStream

variable {α : Type}

theorem mem_of_lookup {entries : List (String × α)} {key : String} {a : α} (found : entries.lookup key = some a) :
    (key, a) ∈ entries := by
  induction entries with
  | nil => cases found
  | cons entry rest ih =>
    rw [List.lookup_cons] at found
    split at found
    · rename_i same
      cases found
      rw [beq_iff_eq.mp same]
      exact List.mem_cons_self
    · exact List.mem_cons_of_mem _ (ih found)

theorem lookup_of_mem {entries : List (String × α)} (distinct : (entries.map Prod.fst).Nodup) {entry : String × α}
    (member : entry ∈ entries) : entries.lookup entry.1 = some entry.2 := by
  induction entries with
  | nil => cases member
  | cons first rest ih =>
    obtain ⟨outside, distinct⟩ := List.nodup_cons.mp distinct
    rw [List.lookup_cons]
    rcases List.mem_cons.mp member with rfl | member
    · simp
    · have apart : (entry.1 == first.1) = false :=
        beq_eq_false_iff_ne.mpr fun e => outside (e ▸ List.mem_map_of_mem member)
      rw [apart]
      exact ih distinct member

/-- Entries in another order are found alike. -/
theorem find?_of_perm {entries others : Keyed α} (perm : entries.Perm others) (distinct : (Keyed.keys entries).Nodup)
    (key : String) : Keyed.find? entries key = Keyed.find? others key := by
  have distinct' : (Keyed.keys others).Nodup := (perm.map Prod.fst).nodup_iff.mp distinct
  refine Option.ext fun value => ⟨fun found => ?_, fun found => ?_⟩
  · exact lookup_of_mem distinct' (perm.mem_iff.mp (mem_of_lookup found))
  · exact lookup_of_mem distinct (perm.mem_iff.mpr (mem_of_lookup found))

theorem mem_keys_put {entries : Keyed α} {key other : String} {value : α} :
    other ∈ Keyed.keys (Keyed.put entries key value) ↔ other ∈ Keyed.keys entries ∨ other = key := by
  rw [Keyed.keys_put]
  split
  · rename_i present
    exact ⟨.inl, fun either => either.elim id fun same => same ▸ present⟩
  · rw [List.mem_append, List.mem_singleton]

theorem mem_keys_drop {entries : Keyed α} {key other : String} :
    other ∈ Keyed.keys (Keyed.drop entries key) ↔ other ∈ Keyed.keys entries ∧ other ≠ key := by
  constructor
  · intro member
    obtain ⟨entry, listed, rfl⟩ := List.mem_map.mp member
    obtain ⟨listed, apart⟩ := List.mem_filter.mp listed
    exact ⟨List.mem_map_of_mem listed, bne_iff_ne.mp apart⟩
  · rintro ⟨member, apart⟩
    obtain ⟨entry, listed, rfl⟩ := List.mem_map.mp member
    exact List.mem_map_of_mem (List.mem_filter.mpr ⟨listed, bne_iff_ne.mpr apart⟩)

theorem mem_put {entries : Keyed α} {key : String} {value : α} {entry : String × α}
    (member : entry ∈ Keyed.put entries key value) : entry = (key, value) ∨ entry ∈ entries := by
  induction entries with
  | nil => exact .inl (List.mem_singleton.mp member)
  | cons first rest ih =>
    simp only [Keyed.put] at member
    split at member
    · rcases List.mem_cons.mp member with new | before
      · exact .inl new
      · exact .inr (List.mem_cons_of_mem _ before)
    · rcases List.mem_cons.mp member with rfl | member
      · exact .inr List.mem_cons_self
      · rcases ih member with new | before
        · exact .inl new
        · exact .inr (List.mem_cons_of_mem _ before)

theorem put_of_fresh {entries : Keyed α} {key : String} (fresh : key ∉ Keyed.keys entries) (value : α) :
    Keyed.put entries key value = entries ++ [(key, value)] := by
  induction entries with
  | nil => rfl
  | cons first rest ih =>
    rw [Keyed.keys, List.map_cons, List.mem_cons, not_or] at fresh
    rw [Keyed.put, if_neg fun same => fresh.1 same.symm, ih fresh.2, List.cons_append]

theorem put_behind {entries : Keyed α} {key : String} (fresh : key ∉ Keyed.keys entries) (others : Keyed α) (value : α) :
    Keyed.put (entries ++ others) key value = entries ++ Keyed.put others key value := by
  induction entries with
  | nil => rfl
  | cons first rest ih =>
    rw [Keyed.keys, List.map_cons, List.mem_cons, not_or] at fresh
    rw [List.cons_append, Keyed.put, if_neg fun same => fresh.1 same.symm]
    exact congrArg (first :: ·) (ih fresh.2)

theorem find?_behind {entries : Keyed α} {key : String} (fresh : key ∉ Keyed.keys entries) (others : Keyed α) :
    Keyed.find? (entries ++ others) key = Keyed.find? others key := by
  have absent : entries.lookup key = none := find?_eq_none_iff.mpr fresh
  rw [Keyed.find?, List.lookup_append, absent, Option.none_or]
  rfl

/-- Values put under two keys, in both orders. -/
theorem find?_put_comm (entries : Keyed α) {first last : String} {a b : α} (same : first = last → a = b) (key : String) :
    Keyed.find? (Keyed.put (Keyed.put entries last b) first a) key =
      Keyed.find? (Keyed.put (Keyed.put entries first a) last b) key := by
  by_cases equal : first = last
  · subst equal
    rw [same rfl]
  by_cases here : key = first
  · subst here
    rw [Keyed.find?_put_self, Keyed.find?_put_of_ne _ _ equal, Keyed.find?_put_self]
  · rw [Keyed.find?_put_of_ne _ _ here]
    by_cases there : key = last
    · subst there
      rw [Keyed.find?_put_self, Keyed.find?_put_self]
    · rw [Keyed.find?_put_of_ne _ _ there, Keyed.find?_put_of_ne _ _ there, Keyed.find?_put_of_ne _ _ here]

theorem nodup_keys_snoc {entries : Keyed α} (distinct : (Keyed.keys entries).Nodup) {key : String}
    (fresh : key ∉ Keyed.keys entries) (value : α) : (Keyed.keys (entries ++ [(key, value)])).Nodup := by
  simp only [Keyed.keys, List.map_append, List.map_cons, List.map_nil]
  refine List.nodup_append.mpr ⟨distinct, List.nodup_singleton key, ?_⟩
  rintro other member _ last rfl
  exact fresh (List.mem_singleton.mp last ▸ member)

/-- Entries with distinct keys, cut in front of one of them. -/
theorem cut_keyed {all done rest : Keyed α} {entry : String × α} (distinct : (Keyed.keys all).Nodup)
    (split : all = done ++ entry :: rest) : entry ∈ all ∧ entry.1 ∉ Keyed.keys done := by
  subst split
  rw [Keyed.keys, List.map_append, List.nodup_append] at distinct
  exact ⟨List.mem_append_right _ List.mem_cons_self, fun member => distinct.2.2 _ member _ List.mem_cons_self rfl⟩

/-- Entries with a new one behind them. -/
theorem find?_snoc {entries : Keyed α} {entry : String × α} (fresh : entry.1 ∉ Keyed.keys entries) (key : String) :
    Keyed.find? (entries ++ [entry]) key = if key = entry.1 then some entry.2 else Keyed.find? entries key := by
  obtain ⟨own, held⟩ := entry
  have absent : entries.lookup own = none := find?_eq_none_iff.mpr fresh
  rw [Keyed.find?, List.lookup_append]
  by_cases same : key = own
  · subst same
    simp [absent]
  · have apart : (key == own) = false := beq_eq_false_iff_ne.mpr same
    simp [same, apart, List.lookup_cons, Keyed.find?]

/-- Entries with another value under one key. -/
theorem lookup_map_replace (entries : List (String × α)) (name : String) (a : α) (key : String) :
    (entries.map fun entry => if entry.1 = name then (name, a) else entry).lookup key =
      if key = name then (entries.lookup name).map fun _ => a else entries.lookup key := by
  induction entries with
  | nil => simp
  | cons entry rest ih =>
    obtain ⟨own, held⟩ := entry
    by_cases asked : key = name
    · subst asked
      by_cases hit : own = key
      · simp [hit]
      · have apart : (key == own) = false := beq_eq_false_iff_ne.mpr fun e => hit e.symm
        simpa [hit, apart, List.lookup_cons] using ih
    · rw [if_neg asked] at ih ⊢
      by_cases hit : own = name
      · have other : (key == name) = false := beq_eq_false_iff_ne.mpr asked
        simp only [List.map_cons, hit, if_true, List.lookup_cons, other, ih]
      · simp only [List.map_cons, hit, if_false, List.lookup_cons, ih]

theorem map_replace_self {entries : List (String × α)} (distinct : (entries.map Prod.fst).Nodup) {name : String}
    {a : α} (found : entries.lookup name = some a) :
    entries.map (fun entry => if entry.1 = name then (name, a) else entry) = entries := by
  conv => rhs; rw [← List.map_id entries]
  apply List.map_congr_left
  intro entry member
  split
  · rename_i own
    have same := lookup_of_mem distinct member
    rw [own, found, Option.some.injEq] at same
    rw [same, ← own]
    rfl
  · rfl

/-! ## Sorting by keys -/

/-- Items with distinct keys stand in the strict order of their keys once they are sorted by them. -/
theorem pairwise_mergeSort_lt {β : Type} [LE β] [LT β] [DecidableLE β] [Std.IsLinearOrder β] [Std.LawfulOrderLT β]
    (key : α → β) {items : List α} (distinct : (items.map key).Nodup) :
    (items.mergeSort fun a b => decide (key a ≤ key b)).Pairwise fun a b => key a < key b := by
  have trans : ∀ a b c, decide (key a ≤ key b) = true → decide (key b ≤ key c) = true → decide (key a ≤ key c) = true :=
    fun a b c first second => decide_eq_true (Std.le_trans (of_decide_eq_true first) (of_decide_eq_true second))
  have total : ∀ a b, (decide (key a ≤ key b) || decide (key b ≤ key a)) = true := by
    intro a b
    rw [Bool.or_eq_true, decide_eq_true_eq, decide_eq_true_eq]
    exact Std.le_total
  have ordered := List.pairwise_mergeSort trans total items
  have apart : (items.mergeSort fun a b => decide (key a ≤ key b)).Pairwise fun a b => key a ≠ key b :=
    List.pairwise_map.mp (((List.mergeSort_perm items _).map key).nodup_iff.mpr distinct)
  refine ordered.imp₂ (fun a b le apart => ?_) apart
  exact Std.lt_of_le_of_ne (of_decide_eq_true le) apart

end CommandStream
