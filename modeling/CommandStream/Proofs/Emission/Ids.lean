import CommandStream.Listing.CommandTable
import CommandStream.Proofs.Failure
import CommandStream.Proofs.Lookup
import CommandStream.Queue.Basic

/-!
# Ids in the order of the functions

The index of ids has every short name once, with the place of its function as the id. The table of commands and the commands
of a queue take their ids from this index, so they are numbered by the places of the functions.
-/

namespace CommandStream.Emitter

variable {e : Emitter} {f : Function} {k : Nat}

/-- No two functions of an emitter have one short name. -/
theorem nodup_shortName (e : Emitter) : (e.functions.map Function.shortName).Nodup :=
  e.unambiguous

/-- The next of functions with distinct short names has no id yet, and with one it is still apart from the rest. -/
theorem fresh_of_distinct {ids : Keyed Nat} {rest : List Function}
    (distinct : (Keyed.keys ids ++ (f :: rest).map Function.shortName).Nodup) :
    f.shortName ∉ Keyed.keys ids ∧
      (Keyed.keys (Keyed.put ids f.shortName ids.length) ++ rest.map Function.shortName).Nodup := by
  have fresh : f.shortName ∉ Keyed.keys ids := fun member =>
    (List.nodup_append.mp distinct).2.2 _ member _ List.mem_cons_self rfl
  refine ⟨fresh, ?_⟩
  rw [put_of_fresh fresh, Keyed.keys, List.map_append, List.append_assoc]
  exact distinct

/-- The ids are given out in order. -/
theorem commandIds_eq (e : Emitter) : e.commandIds = e.functions.zipIdx.map fun entry => (entry.1.shortName, entry.2) := by
  have given : ∀ (functions : List Function) (ids : Keyed Nat),
      (Keyed.keys ids ++ functions.map Function.shortName).Nodup →
      functions.foldl (fun ids f => Keyed.put ids f.shortName ids.length) ids =
        ids ++ (functions.zipIdx ids.length).map fun entry => (entry.1.shortName, entry.2) := by
    intro functions
    induction functions with
    | nil => exact fun ids _ => (List.append_nil ids).symm
    | cons f rest ih =>
      intro ids distinct
      obtain ⟨fresh, next⟩ := fresh_of_distinct distinct
      rw [List.foldl_cons, ih _ next, put_of_fresh fresh, List.length_append, List.zipIdx_cons, List.map_cons, List.append_assoc]
      rfl
  exact given e.functions [] e.nodup_shortName

theorem keys_commandIds (e : Emitter) : Keyed.keys e.commandIds = e.functions.map Function.shortName := by
  rw [commandIds_eq, Keyed.keys, List.map_map]
  conv => rhs; rw [← List.zipIdx_map_fst 0 e.functions, List.map_map]
  rfl

/-- The id of a command is the place of its function. -/
theorem find?_commandIds (stands : e.functions[k]? = some f) : Keyed.find? e.commandIds f.shortName = some k := by
  have keys : (Keyed.keys e.commandIds).Nodup := e.keys_commandIds ▸ e.nodup_shortName
  have numbered : e.functions.zipIdx[k]? = some (f, k) := by
    rw [List.getElem?_zipIdx, stands, Nat.zero_add]
    rfl
  have member : (f.shortName, k) ∈ e.commandIds := by
    rw [commandIds_eq]
    exact List.mem_map.mpr ⟨(f, k), List.mem_of_getElem? numbered, rfl⟩
  exact lookup_of_mem keys member

/-- What is looked up for a function of the emitter is found. -/
theorem idIn_commandIds (stands : e.functions[k]? = some f) : idIn e.commandIds f = k := by
  rw [idIn, find?_commandIds stands]
  rfl

/-! ## Rows and commands -/

theorem row_of_function (stands : e.functions[k]? = some f) : e.commandRows[k]? =
    some ⟨k, f.shortName, f.name, CommandRow.nativeName f (e.overrides.rulesOf f.name)⟩ := by
  rw [commandRows, List.getElem?_map, stands, Option.map_some, idIn_commandIds stands]

theorem command_of_emitter {commands : List Command} (made : e.commands = .ok commands) {c : Command}
    (at_ : commands[k]? = some c) : ∃ f, e.functions[k]? = some f ∧
      Command.ofFunction k f (e.overrides.rulesOf f.name) e.registry.enumTypes = .ok c := by
  obtain ⟨f, stands, built⟩ := mapM_ok made at_
  rw [idIn_commandIds stands] at built
  exact ⟨f, stands, built⟩

variable {native : NativeSide} {q : CommandQueue}

/-- Each function of an emitter has its command in a queue of the emitter. -/
theorem command_of_function (made : CommandQueue.ofEmitter e native = .ok q) (stands : e.functions[k]? = some f) :
    ∃ c, q.commands[k]? = some c ∧
      Command.ofFunction k f (e.overrides.rulesOf f.name) e.registry.enumTypes = .ok c := by
  obtain ⟨commands, listed, made⟩ := bind_ok made
  cases made
  obtain ⟨c, at_, built⟩ := mapM_ok_item listed stands
  rw [idIn_commandIds stands] at built
  exact ⟨c, at_, built⟩

end CommandStream.Emitter
