import CommandStream.Proofs.Emission.Interchange

/-!
# Everything that is checked can be emitted

Once the overrides have been applied without error, only the number of functions can stand in the way of an emitter. No
short name comes twice when the ids are given out, every function has statements on both sides, also the one whose call
takes three arguments by their places, and every artifact has a text.
-/

namespace CommandStream
open OverrideModule

/-- There is a width exactly for fewer commands than a word has values. -/
theorem IdWidth.isSome_forCount? (count : Nat) : (IdWidth.forCount? count).isSome ↔ count < 2 ^ 32 := by
  rw [forCount?, List.find?_isSome]
  constructor
  · rintro ⟨width, -, room⟩
    have room := of_decide_eq_true room
    cases width <;> simp only [bits] at room <;> omega
  · intro few
    exact ⟨word, by decide, decide_eq_true (by simp only [bits]; omega)⟩

theorem idWidthFor_of_fits {count : Nat} (fits : count < 2 ^ 32) : ∃ width, idWidthFor count = .ok width := by
  obtain ⟨width, chosen⟩ := Option.isSome_iff_exists.mp ((IdWidth.isSome_forCount? count).mpr fits)
  exact ⟨width, by rw [idWidthFor, chosen]⟩

theorem idWidthFor_of_exceeds {count : Nat} (exceeds : 2 ^ 32 ≤ count) : idWidthFor count = .error (.tooManyCommands count) := by
  have unfit : ¬ (IdWidth.forCount? count).isSome := fun chosen =>
    absurd ((IdWidth.isSome_forCount? count).mp chosen) (Nat.not_lt.mpr exceeds)
  rw [idWidthFor, Option.not_isSome_iff_eq_none.mp unfit]

/-- The texts of the artifacts stand under their paths. -/
theorem Artifact.keys_texts {e : Emitter} {texts : Keyed String} (made : Artifact.texts e = .ok texts) :
    Keyed.keys texts = Artifact.all.map Artifact.path :=
  map_of_mapM_ok (fun a entry one => by
    obtain ⟨text, -, one⟩ := bind_ok one
    cases one
    rfl) made

namespace Emitter

variable {e : Emitter}

/-- The ids of the commands, given out only as long as no short name comes a second time. -/
def uniqueIds? (e : Emitter) : Option (Keyed Nat) :=
  e.functions.foldlM (fun ids f => if Keyed.hasKey ids f.shortName then none else some (Keyed.put ids f.shortName ids.length)) []

/-- An emitter of which everything can be asked. -/
structure Emittable (e : Emitter) : Prop where
  /-- No short name comes a second time. -/
  ids : e.uniqueIds? = some e.commandIds
  statements : ∀ f ∈ e.functions, (∃ writes, e.writeStatements f = .ok writes) ∧ ∃ reads, e.readStatements f = .ok reads
  /-- A rule that calls with three arguments by their places finds just three. -/
  places : ∀ f ∈ e.functions, ∀ rule ∈ e.overrides.rulesOf f.name, ∀ edits write native,
    rule.effect = .custom edits write (some (.singleElement native)) → ∃ a b c, f.type.arguments = [a, b, c] ∧
      e.consumedBy f rule = .ok (some (e.defaultReads f ++ [.check ⟨native, [a.name, "1", "&" ++ b.name, "&" ++ c.name], false⟩]))
  /-- Every method is declared in its class, and defined behind its qualified declaration. -/
  declared : ∃ members methods, Artifact.commandClass.lines e = .ok members ∧ Artifact.producer.lines e = .ok methods ∧
    ∀ f ∈ e.functions, "        " ++ declaration f false ++ ";" ∈ members ∧ declaration f true ∈ methods
  texts : ∃ texts, Artifact.texts e = .ok texts ∧ Keyed.keys texts = Artifact.all.map Artifact.path

/-- Ids are given out for all functions if their short names are distinct, and are the places of these. -/
theorem uniqueIds?_of_nodup (distinct : (e.functions.map Function.shortName).Nodup) : e.uniqueIds? = some e.commandIds := by
  have given : ∀ (functions : List Function) (ids : Keyed Nat),
      (Keyed.keys ids ++ functions.map Function.shortName).Nodup →
      functions.foldlM
        (fun ids f => if Keyed.hasKey ids f.shortName then none else some (Keyed.put ids f.shortName ids.length)) ids =
        some (functions.foldl (fun ids f => Keyed.put ids f.shortName ids.length) ids) := by
    intro functions
    induction functions with
    | nil => exact fun _ _ => rfl
    | cons f rest ih =>
      intro ids distinct
      obtain ⟨fresh, next⟩ := fresh_of_distinct distinct
      have new : ¬ Keyed.hasKey ids f.shortName = true := fun held => fresh ((Keyed.hasKey_iff _ _).mp held)
      rw [List.foldlM_cons, if_neg new, List.foldl_cons, ← ih _ next]
      rfl
  exact given e.functions [] distinct

section Built

variable {log : Log} {r : Registry} {space : String}

/-- A rule that calls with three arguments by their places is the one for shader text, which leaves three. -/
theorem three_of_singleElement {f : Function} {rules : List Rule} (overridden : f.Overridden rules) {rule : Rule}
    (member : rule ∈ rules) {edits : List Edit} {write : Option Script} {native : String}
    (effect : rule.effect = .custom edits write (some (.singleElement native))) : f.type.arguments.length = 3 := by
  have special : rule.retypes = false := by simp only [Rule.retypes, effect]
  cases overridden with
  | plain each =>
    rw [each rule member] at special
    cases special
  | @principal before after p listed leaves first last =>
    have principal : rule = p := by
      rcases List.mem_append.mp member with front | behind
      · rw [first rule front] at special
        cases special
      rcases List.mem_cons.mp behind with same | behind
      · exact same
      · rw [last rule behind] at special
        cases special
    rw [principal] at effect
    simpa only [Rule.Leaves, effect] using leaves

theorem exists_texts (filed : r.Filed) (built : (Build.emitter log r builtIns space).answer = .ok e) :
    ∃ texts, Artifact.texts e = .ok texts ∧ Keyed.keys texts = Artifact.all.map Artifact.path := by
  obtain ⟨texts, made⟩ : ∃ texts, Artifact.texts e = .ok texts := exists_mapM_ok fun a _ => by
    obtain ⟨text, rendered⟩ := exists_text filed built a
    exact ⟨(a.path, text), by rw [rendered]; rfl⟩
  exact ⟨texts, made, Artifact.keys_texts made⟩

theorem emittable_of_emitter (filed : r.Filed) (access : ∀ entry ∈ r.functions, entry.2.access = Function.publicAccess)
    (built : (Build.emitter log r builtIns space).answer = .ok e) : e.Emittable where
  ids := uniqueIds?_of_nodup e.nodup_shortName
  statements := statements_of_emitter built filed
  places f member rule among edits write native effect := by
    obtain ⟨k, stands⟩ := List.mem_iff_getElem?.mp member
    have three := three_of_singleElement (overridden_of_emitter filed built stands) among effect
    obtain ⟨a, b, c, arguments⟩ := List.length_eq_three.mp three
    exact ⟨a, b, c, arguments, by simp only [consumedBy, effect, arguments]⟩
  declared := by
    obtain ⟨methods, made, -, each⟩ := producerLines_ok fun f member => (statements_of_emitter built filed f member).1
    refine ⟨_, methods, rfl, made, fun f member => ?_⟩
    obtain ⟨k, stands⟩ := List.mem_iff_getElem?.mp member
    obtain ⟨-, -, defined, -⟩ := each k f stands
    have listed := lists_commandClassLines (access_of_emitter built filed access)
    exact ⟨List.mem_of_getElem? (listed.each k f stands), List.mem_of_getElem? defined⟩
  texts := exists_texts filed built

/-- **What is checked can be emitted.** For every registry that is read and to which the built-in overrides apply without
error, an emitter is made if there are fewer functions than a word has values, and it gives everything: ids, with no short
name twice, statements for both sides of every command, with the three arguments that the shader text is passed in, the
declarations of all methods, and all texts. With more functions, their number is the error. -/
theorem checked_can_be_emitted {start : String} {lines : List String} {log' : Log}
    {description : Option (Except Markup.DocumentError Markup.Element)} {t : OverrideTracker}
    (parsed : (Build.readRegistry log start lines description).answer = .ok r)
    (registered : OverrideModule.registerAll r builtIns = .ok t) (applied : (t.apply r).answer = .ok ()) :
    (r.functions.length < 2 ^ 32 → ∃ e, (Build.emitter log' r builtIns space).answer = .ok e ∧ e.Emittable) ∧
    (2 ^ 32 ≤ r.functions.length →
      (Build.emitter log' r builtIns space).answer = .error (.emission (.tooManyCommands r.functions.length))) := by
  have filed := Build.filed_readRegistry parsed
  rw [registerAll_builtIns] at registered
  cases registered
  have applied : ((trackerOf builtIns r).apply r).answer = .ok () := applied
  have length : ((trackerOf builtIns r).apply r).state.2.functions.length = r.functions.length :=
    (builtIn_applied filed applied).length
  constructor
  · intro fits
    obtain ⟨width, chosen⟩ := idWidthFor_of_fits fits
    rw [← length] at chosen
    have built := emitter_of_applied plain_builtIns applied chosen log' space
    exact ⟨_, built, emittable_of_emitter filed (Build.access_readRegistry parsed) built⟩
  · intro exceeds
    have excess := idWidthFor_of_exceeds exceeds
    rw [← length] at excess ⊢
    exact emitter_of_excess plain_builtIns applied excess log' space

end Built

end Emitter

/-! ## A header with shader text -/

namespace ShaderTextHeader

/-- A header with the function that hands over shader text. -/
def lines : List String :=
  ["typedef void (APIENTRYP PFNGLSHADERSOURCEPROC)(GLuint shader, GLsizei count, const GLchar *const*string, const GLint *length);",
   "GLAPI PFNGLSHADERSOURCEPROC glad_glShaderSource;"]

def type : FunctionType :=
  ⟨"PFNGLSHADERSOURCEPROC", "void", false,
   [⟨"GLuint", "shader", false⟩, ⟨"GLsizei", "count", false⟩, ⟨"const GLchar *const*", "string", false⟩,
    ⟨"const GLint *", "length", false⟩]⟩

def registry : Registry where
  start := "gl"
  defines := []
  types := [("PFNGLSHADERSOURCEPROC", type)]
  functions := [("glShaderSource", ⟨"glShaderSource", "ShaderSource", "public", type⟩)]
  enums := []
  frozen := true
  shortNames := [("ShaderSource", "glShaderSource")]

/-- The header is read and the overrides apply, so an emitter is made, with the call that takes the arguments by their places. -/
theorem text_handed_over : (Build.readRegistry [] "gl" lines none).answer = .ok registry ∧
    ((builtInTracker registry).apply registry).answer = .ok () ∧ registry.functions.length < 2 ^ 32 ∧
    ∃ e, (Build.emitter [] registry builtIns "gl").answer = .ok e ∧ e.Emittable := by
  have read : (Build.readRegistry [] "gl" lines none).answer.toOption = some registry := by decide +kernel
  have parsed := ok_of_toOption read
  have applied : ((builtInTracker registry).apply registry).answer = .ok () := by decide +kernel
  have few : registry.functions.length < 2 ^ 32 := by decide
  exact ⟨parsed, applied, few, (Emitter.checked_can_be_emitted parsed (registerAll_builtIns registry) applied).1 few⟩

end ShaderTextHeader

end CommandStream
