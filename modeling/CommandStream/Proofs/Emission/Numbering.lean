import CommandStream.Emission.Artifact
import CommandStream.Proofs.Emission.Sides
import CommandStream.Proofs.Override.Table
import CommandStream.Proofs.Queue.Rejection
import CommandStream.Proofs.Text.Phrase

/-!
# The numbers of commands

The id of a command is the place of its function. The index of ids says so, and every artifact, the table of commands and
every queue have the command at that place; the ids and their number just fit into the type of ids.
-/

namespace CommandStream
open OverrideModule

/-! ## Blocks of lines -/

section Blocks

variable {α : Type}

/-- What stands in a part that has others in front of it. -/
theorem getElem?_behind {front items : List α} {length k : Nat} (long : front.length = length) :
    (front ++ items)[length + k]? = items[k]? := by
  rw [List.getElem?_append_right (by omega)]
  congr 1
  omega

/-- A line of a block, among blocks of so many lines each. -/
theorem getElem?_flatten {blocks : List (List α)} {size : Nat} (even : ∀ block ∈ blocks, block.length = size) (k : Nat) {i : Nat}
    (inside : i < size) : blocks.flatten[size * k + i]? = blocks[k]?.bind fun block => block[i]? := by
  induction blocks generalizing k with
  | nil => rfl
  | cons block rest ih =>
    have long := even block List.mem_cons_self
    rw [List.flatten_cons]
    cases k with
    | zero =>
      rw [Nat.mul_zero, Nat.zero_add, List.getElem?_append_left (by omega)]
      rfl
    | succ k =>
      have shifted : size * (k + 1) + i = size + (size * k + i) := by
        rw [Nat.mul_succ]
        omega
      rw [shifted, getElem?_behind long, ih fun other member => even other (List.mem_cons_of_mem _ member)]
      rfl

theorem length_flatten_even {blocks : List (List α)} {size : Nat} (even : ∀ block ∈ blocks, block.length = size) :
    blocks.flatten.length = size * blocks.length := by
  induction blocks with
  | nil => rfl
  | cons block rest ih =>
    rw [List.flatten_cons, List.length_append, even block List.mem_cons_self,
      ih fun other member => even other (List.mem_cons_of_mem _ member), List.length_cons, Nat.mul_succ, Nat.add_comm]

end Blocks

/-! ## Ids -/

namespace Emitter

variable {e : Emitter}

/-! ## Lines -/

/-- Functions that all have the current access label are declared without one. -/
theorem flatMap_labelled {functions : List Function} {current : String} (same : ∀ f ∈ functions, f.access = current) :
    (labelled current functions).flatMap memberLines =
      functions.map fun f => "        " ++ declaration f false ++ ";" := by
  induction functions with
  | nil => rfl
  | cons f rest ih =>
    rw [labelled, if_pos (same f List.mem_cons_self), List.flatMap_cons, ih fun g member => same g (List.mem_cons_of_mem _ member)]
    rfl

/-- The lines of an artifact with a line for each function: those in front, and the first one behind. -/
structure Lists (lines : List String) (front : Nat) (functions : List Function) (line : Function → String) (behind : String) :
    Prop where
  each : ∀ k f, functions[k]? = some f → lines[front + k]? = some (line f)
  last : lines[front + functions.length]? = some behind

theorem lists_append {opening closing : List String} {front : Nat} {functions : List Function} {line : Function → String}
    {behind : String} (long : opening.length = front) (first : closing[0]? = some behind) :
    Lists (opening ++ functions.map line ++ closing) front functions line behind := by
  rw [List.append_assoc]
  constructor
  · intro k f stands
    have bound := (List.getElem?_eq_some_iff.mp stands).1
    rw [getElem?_behind long, List.getElem?_append_left (by rw [List.length_map]; exact bound), List.getElem?_map, stands]
    rfl
  · rw [getElem?_behind long]
    exact (getElem?_behind (List.length_map line)).trans first

/-- The enumerators. -/
theorem lists_commandIdLines : Lists e.commandIdLines 12 e.functions (fun f => "            " ++ f.shortName ++ ",")
    "            Count" :=
  lists_append rfl rfl

/-- The declarations, while all functions are public. -/
theorem lists_commandClassLines (same : ∀ f ∈ e.functions, f.access = Function.publicAccess) :
    Lists e.commandClassLines 26 e.functions (fun f => "        " ++ declaration f false ++ ";") "" := by
  rw [commandClassLines, flatMap_labelled same]
  exact lists_append rfl rfl

/-- The lines of blocks that have so many lines each, one block for each function. -/
theorem block_at {make : Function → Except EmissionError (List String)} (size : Nat)
    (even : ∀ f lines, make f = .ok lines → lines.length = size) {functions : List Function} {blocks : List (List String)}
    (made : functions.mapM make = .ok blocks) :
    blocks.flatten.length = size * functions.length ∧ ∀ k f, functions[k]? = some f → ∃ lines, make f = .ok lines ∧
      ∀ i, i < size → blocks.flatten[size * k + i]? = lines[i]? := by
  have long : ∀ lines ∈ blocks, lines.length = size := by
    intro lines member
    obtain ⟨f, -, one⟩ := mem_of_mapM_ok made member
    exact even f lines one
  refine ⟨by rw [length_flatten_even long, length_of_mapM_ok made], ?_⟩
  intro k f stands
  obtain ⟨lines, at_, one⟩ := mapM_ok_item made stands
  refine ⟨lines, one, fun i inside => ?_⟩
  rw [getElem?_flatten long k inside, at_, Option.bind_some]

theorem methodLines_ok {f : Function} {lines : List String} (made : e.methodLines f = .ok lines) :
    ∃ statements, e.writeStatements f = .ok statements ∧ lines = [declaration f true, "\x7b", body 1 statements, "\x7d", ""] := by
  obtain ⟨statements, written, made⟩ := bind_ok made
  cases made
  exact ⟨statements, written, rfl⟩

theorem caseLines_ok {f : Function} {lines : List String} (made : e.caseLines f = .ok lines) :
    ∃ statements, e.readStatements f = .ok statements ∧ lines =
      ["        case CommandId::" ++ f.shortName ++ ":", "        \x7b", body 3 statements, "            break;",
       "        \x7d"] := by
  obtain ⟨statements, read, made⟩ := bind_ok made
  cases made
  exact ⟨statements, read, rfl⟩

/-- The methods, if all functions have statements in the producer: a method begins with its declaration, and its third line
has the statements. -/
theorem producerLines_ok (each : ∀ f ∈ e.functions, ∃ statements, e.writeStatements f = .ok statements) :
    ∃ lines, e.producerLines = .ok lines ∧ lines.length = 12 + 5 * e.functions.length ∧
      ∀ k f, e.functions[k]? = some f → ∃ statements, e.writeStatements f = .ok statements ∧
        lines[12 + 5 * k]? = some (declaration f true) ∧ lines[12 + (5 * k + 2)]? = some (body 1 statements) := by
  obtain ⟨methods, made⟩ := exists_mapM_ok (f := e.methodLines) fun f member => by
    obtain ⟨statements, written⟩ := each f member
    rw [methodLines, written]
    exact ⟨_, rfl⟩
  obtain ⟨long, at_⟩ := block_at 5 (fun f lines made => by obtain ⟨_, -, rfl⟩ := methodLines_ok made; rfl) made
  rw [producerLines, made]
  refine ⟨_, rfl, ?_, ?_⟩
  · rw [List.length_append, long]
    rfl
  · intro k f stands
    obtain ⟨lines, one, line⟩ := at_ k f stands
    obtain ⟨statements, written, rfl⟩ := methodLines_ok one
    exact ⟨statements, written, (getElem?_behind rfl).trans (line 0 (by omega)), (getElem?_behind rfl).trans (line 2 (by omega))⟩

/-- The cases, if all functions have statements in the consumer: a case begins with its label, and the default follows the
last one. -/
theorem consumerLines_ok (each : ∀ f ∈ e.functions, ∃ statements, e.readStatements f = .ok statements) :
    ∃ lines, e.consumerLines = .ok lines ∧ lines[13 + 5 * e.functions.length]? = some "        default:" ∧
      ∀ k f, e.functions[k]? = some f → lines[13 + 5 * k]? = some ("        case CommandId::" ++ f.shortName ++ ":") := by
  obtain ⟨cases_, made⟩ := exists_mapM_ok (f := e.caseLines) fun f member => by
    obtain ⟨statements, read⟩ := each f member
    rw [caseLines, read]
    exact ⟨_, rfl⟩
  obtain ⟨long, at_⟩ := block_at 5 (fun f lines made => by obtain ⟨_, -, rfl⟩ := caseLines_ok made; rfl) made
  rw [consumerLines, made]
  refine ⟨_, rfl, ?_, ?_⟩
  · rw [List.append_assoc, ← long]
    exact (getElem?_behind rfl).trans (getElem?_behind (k := 0) rfl)
  · intro k f stands
    obtain ⟨lines, one, line⟩ := at_ k f stands
    obtain ⟨statements, read, rfl⟩ := caseLines_ok one
    have bound := (List.getElem?_eq_some_iff.mp stands).1
    rw [List.append_assoc]
    refine (getElem?_behind rfl).trans ?_
    rw [List.getElem?_append_left (by omega)]
    exact line 0 (by omega)

/-! ## Texts -/

variable {log log' : Log} {start space : String} {lines : List String}
  {description : Option (Except Markup.DocumentError Markup.Element)} {r : Registry}

section Shuffled

variable {modules : List OverrideModule} (perm : modules.Perm builtIns) (filed : r.Filed)
  (built : (Build.emitter log r modules space).answer = .ok e)
include perm filed built

theorem length_of_emitter : e.functions.length = r.functions.length := by
  obtain ⟨applied, -, registry, -⟩ := emitter_ok (plain_of_perm perm) built
  rw [functions, registry, Keyed.values, List.length_map]
  exact (OverrideTracker.apply_ok (orderly_of_perm perm filed) applied).length

/-- Every function of a registry stands in its place in the emitter, as the table says and with its rules. -/
theorem followsTable_of_emitter {k : Nat} {key : String} {f : Function} (stands : r.functions[k]? = some (key, f)) :
    ∃ g, f.FollowsTable r.start (some g) ∧ e.functions[k]? = some g ∧
      e.overrides.rulesOf g.name = (trackerOf modules r).rulesOf key := by
  obtain ⟨applied, overrides, registry, -⟩ := emitter_ok (plain_of_perm perm) built
  obtain ⟨g, follows, now, under⟩ := followsTable_of_applied perm filed applied stands
  refine ⟨g, follows, ?_, overrides ▸ under⟩
  rw [functions, registry, Keyed.values, List.getElem?_map, now]
  rfl

/-- Every function of an emitter is one of the registry, as the table says. -/
theorem followed_of_emitter {g : Function} (member : g ∈ e.functions) :
    ∃ f ∈ Keyed.values r.functions, f.FollowsTable r.start (some g) := by
  obtain ⟨k, stands⟩ := List.mem_iff_getElem?.mp member
  have bound : k < r.functions.length := by
    rw [← length_of_emitter perm filed built]
    exact (List.getElem?_eq_some_iff.mp stands).1
  have before : r.functions[k]? = some r.functions[k] := List.getElem?_eq_getElem bound
  obtain ⟨g', follows, now, -⟩ := followsTable_of_emitter perm filed built before
  rw [stands] at now
  cases now
  exact ⟨_, List.mem_map_of_mem (List.mem_of_getElem? before), follows⟩

end Shuffled

section Built

variable (built : (Build.emitter log r builtIns space).answer = .ok e)
include built

/-- Every function of an emitter has statements in the producer and in the consumer. -/
theorem statements_of_emitter (filed : r.Filed) : ∀ f ∈ e.functions,
    (∃ statements, e.writeStatements f = .ok statements) ∧ ∃ statements, e.readStatements f = .ok statements := by
  intro f member
  obtain ⟨k, stands⟩ := List.mem_iff_getElem?.mp member
  obtain ⟨key, original, -, -, sides⟩ := sides_of_emitter filed built stands
  obtain ⟨reads, read, -⟩ := sides.reads
  exact ⟨⟨_, sides.writes⟩, reads, read⟩

/-- Functions keep the access label that they had. -/
theorem access_of_emitter (filed : r.Filed) {label : String} (same : ∀ entry ∈ r.functions, entry.2.access = label) :
    ∀ f ∈ e.functions, f.access = label := by
  intro g member
  obtain ⟨f, listed, follows⟩ := followed_of_emitter (.refl builtIns) filed built member
  obtain ⟨entry, among, rfl⟩ := List.mem_map.mp listed
  exact follows.access.trans (same entry among)

end Built

end Emitter

namespace AttachHeader

theorem shortNames : (Keyed.values ((trackerOf builtIns registry).apply registry).state.2.functions).map Function.shortName =
    ["GenBuffer", "AttachShader"] := by
  decide +kernel

theorem exists_emitter : ∃ e, (Build.emitter [] registry builtIns "gl").answer = .ok e := by
  have applied : ((trackerOf builtIns registry).apply registry).answer = .ok () := applied
  have two : ((trackerOf builtIns registry).apply registry).state.2.functions.length = 2 := by decide +kernel
  exact ⟨_, emitter_of_applied plain_builtIns applied (by rw [two]; rfl) [] "gl"⟩

end AttachHeader

end CommandStream
