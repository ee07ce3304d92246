import CommandStream.Proofs.Emission.Printed

/-!
# Native calls

With the built-in overrides the consumer makes one native call for each command, by the name that its function had before
the overrides. A rule remembers the function for which it was registered; where no rule calls it, the function has kept its
name. The table of commands names the same function.
-/

namespace CommandStream
open OverrideModule

/-- Whether a text is a checked call. The type of an argument may begin like one, but what reads an argument does not end so. -/
def isCheck (text : String) : Bool :=
  beginsWith text "MGL_CHECK(" && finishesWith text "));"

/-- One of the texts is a checked call, and it calls a function, whose result may be the object of the command. -/
def CallsOnce (texts : List String) (function : String) : Prop :=
  ∃ arguments, texts.filter isCheck = ["MGL_CHECK(" ++ function ++ "(" ++ arguments ++ "));"] ∨
    texts.filter isCheck = ["MGL_CHECK(object = " ++ function ++ "(" ++ arguments ++ "));"]

namespace Emitter

variable {e : Emitter} {f : Function} {rules : List Rule} {p : Rule}

/-! ## Texts of the consumer -/

theorem isCheck_of_closes {text : String} (closes : Closes text "));" false) : isCheck text = false := by
  rw [isCheck, closes.ends, Bool.and_false]

theorem isCheck_of_call (behind : String) : isCheck ("MGL_CHECK(" ++ behind ++ "));") = true := by
  have tells : Tells "MGL_CHECK(" "MGL_CHECK(" true := ⟨by decide, by decide⟩
  have closes : Closes "));" "));" true := ⟨by decide, by decide⟩
  rw [isCheck, ((tells.append behind).append "));").begins, (closes.prepend _).ends]
  rfl

/-- Arguments are read without a call. -/
theorem filter_argumentTexts (e : Emitter) (arguments : List Argument) :
    (arguments.flatMap e.argumentTexts).filter isCheck = [] := by
  refine List.filter_eq_nil_iff.mpr fun text member => Bool.eq_false_iff.mp (isCheck_of_closes ?_)
  obtain ⟨a, -, member⟩ := List.mem_flatMap.mp member
  have value : Closes ">();" "));" false := ⟨by decide, by decide⟩
  have handle : Closes "Handle);" "));" false := ⟨by decide, by decide⟩
  unfold argumentTexts at member
  split at member
  · rw [List.mem_singleton.mp member]
    exact value.prepend _
  · simp only [List.mem_cons, List.not_mem_nil, or_false] at member
    rcases member with rfl | rfl
    · exact value.prepend _
    · exact handle.prepend _

theorem isCheck_of_printedCall {result function call : String} (native : PrintedCall result function call) :
    isCheck call = true := by
  obtain ⟨arguments, -, rfl⟩ := native
  have check := isCheck_of_call (result ++ function ++ "(" ++ arguments)
  simpa only [String.append_assoc] using check

/-- Of some lines, a call, and lines without a call, the call is kept. -/
theorem filter_around {front behind : List String} {call : String} (before : front.filter isCheck = [])
    (check : isCheck call = true) (after : behind.filter isCheck = []) : (front ++ call :: behind).filter isCheck = [call] := by
  rw [List.filter_append, before, List.filter_cons_of_pos check, after]
  rfl

/-- Lines that end in another way than calls do are none. -/
theorem filter_of_closes {texts : List String} (closes : ∀ text ∈ texts, Closes text "));" false) : texts.filter isCheck = [] := by
  rw [List.filter_eq_nil_iff]
  exact fun text member => Bool.eq_false_iff.mp (isCheck_of_closes (closes text member))

theorem closes_readHandle (kind : ResourceKind) :
    Closes ("auto handle = m_Buffer.read<" ++ kind.handleType ++ ">();") "));" false := by
  have value : Closes ">();" "));" false := ⟨by decide, by decide⟩
  exact value.prepend _

/-- A consumer calls once. -/
theorem callsOnce_of_texts {function : String} {made deleted : Option ResourceKind} {texts : List String}
    (consumer : e.ConsumerTexts f function made deleted texts) : CallsOnce texts function := by
  have arguments := filter_argumentTexts e f.type.arguments
  cases consumer with
  | @calls call native =>
    have once := filter_around arguments (isCheck_of_printedCall native) List.filter_nil
    obtain ⟨passed, -, rfl⟩ := native
    exact ⟨passed, .inl once⟩
  | @makes kind result call kept native =>
    have object : Closes " object = 0;" "));" false := ⟨by decide, by decide⟩
    have stored : Closes ".set(handle, object);" "));" false := ⟨by decide, by decide⟩
    have before : (f.type.arguments.flatMap e.argumentTexts ++
        ["auto handle = m_Buffer.read<" ++ kind.handleType ++ ">();", kind.nativeType ++ " object = 0;"]).filter isCheck = [] := by
      rw [List.filter_append, arguments, List.nil_append]
      refine filter_of_closes fun text member => ?_
      simp only [List.mem_cons, List.not_mem_nil, or_false] at member
      rcases member with rfl | rfl
      · exact closes_readHandle kind
      · exact object.prepend _
    have after : ["m_Resources." ++ kind.tableName ++ ".set(handle, object);"].filter isCheck = [] :=
      filter_of_closes fun text member => List.mem_singleton.mp member ▸ stored.prepend _
    have once := filter_around before (isCheck_of_printedCall native) after
    rw [List.append_assoc, List.cons_append, List.cons_append, List.nil_append] at once
    obtain ⟨passed, -, rfl⟩ := native
    rcases kept with rfl | rfl
    · exact ⟨passed, .inl once⟩
    · exact ⟨passed, .inr once⟩
  | @deletes kind argument call native lone =>
    have object : Closes ".get(handle);" "));" false := ⟨by decide, by decide⟩
    have released : Closes ".destroy(handle);" "));" false := ⟨by decide, by decide⟩
    have before : ["auto handle = m_Buffer.read<" ++ kind.handleType ++ ">();",
        kind.nativeType ++ " object = m_Resources." ++ kind.tableName ++ ".get(handle);"].filter isCheck = [] := by
      refine filter_of_closes fun text member => ?_
      simp only [List.mem_cons, List.not_mem_nil, or_false] at member
      rcases member with rfl | rfl
      · exact closes_readHandle kind
      · exact object.prepend _
    have after : ["m_Resources." ++ kind.tableName ++ ".destroy(handle);"].filter isCheck = [] :=
      filter_of_closes fun text member => List.mem_singleton.mp member ▸ released.prepend _
    have once := filter_around before (isCheck_of_printedCall native) after
    obtain ⟨passed, -, rfl⟩ := native
    exact ⟨passed, .inl once⟩

/-! ## Names -/

theorem keepsNativeCall_of_retypes {rule : Rule} (retypes : rule.retypes = true) : rule.keepsNativeCall = false := by
  obtain ⟨_, _, _, _, effect⟩ := effect_of_retypes retypes
  simp only [Rule.keepsNativeCall, effect]

theorem filter_keepsNativeCall (each : ∀ rule ∈ rules, rule.retypes = true) : rules.filter Rule.keepsNativeCall = [] := by
  rw [List.filter_eq_nil_iff]
  intro rule member keeps
  rw [keepsNativeCall_of_retypes (each rule member)] at keeps
  cases keeps

theorem nativeName_plain (each : ∀ rule ∈ rules, rule.retypes = true) (f : Function) : CommandRow.nativeName f rules = f.name := by
  rw [CommandRow.nativeName, filter_keepsNativeCall each]
  rfl

theorem nativeName_around {before after : List Rule} (first : ∀ rule ∈ before, rule.retypes = true)
    (last : ∀ rule ∈ after, rule.retypes = true) (f : Function) :
    CommandRow.nativeName f (before ++ p :: after) = if p.keepsNativeCall then p.function else f.name := by
  rw [CommandRow.nativeName, List.filter_append, List.filter_cons, filter_keepsNativeCall first, filter_keepsNativeCall last]
  cases p.keepsNativeCall <;> rfl

/-- A principal rule keeps the native call, or gives no other name. -/
theorem keepsNativeCall_of_principal : ∀ p ∈ principals, p.keepsNativeCall = true ∨ p.effect.targets = [] := by
  decide

variable {log log' : Log} {start space : String} {lines : List String}
  {description : Option (Except Markup.DocumentError Markup.Element)} {r : Registry}

/-- The table of commands has the original name in the row of the command. -/
theorem nativeName_of_emitter (filed : r.Filed) (built : (Build.emitter log r builtIns space).answer = .ok e) {k : Nat}
    (stands : e.functions[k]? = some f) {key : String} {original : Function} (before : r.functions[k]? = some (key, original)) :
    CommandRow.nativeName f (e.overrides.rulesOf f.name) = key := by
  obtain ⟨key', original', before', reshaped, shape⟩ := original_of_emitter filed built stands
  obtain ⟨rfl, rfl⟩ := Prod.mk.inj (Option.some.inj (before'.symm.trans before))
  have named := filed.name_eq before
  rcases shape with each | ⟨first, p, last, split, listed, registered, -, front, behind⟩
  · have kept := name_of_targets (fun rule member => targets_of_retypes (each rule member)) reshaped
    exact (nativeName_plain each f).trans (kept.trans named)
  · rw [split, nativeName_around front behind]
    rcases keepsNativeCall_of_principal p listed with keeps | nameless
    · rw [if_pos keeps, registered]
    · have silent : ∀ rule ∈ e.overrides.rulesOf f.name, rule.effect.targets = [] := by
        intro rule member
        rw [split, List.mem_append, List.mem_cons] at member
        rcases member with member | rfl | member
        · exact targets_of_retypes (front rule member)
        · exact nameless
        · exact targets_of_retypes (behind rule member)
      rw [registered, (name_of_targets silent reshaped).trans named, ite_self]

/-- **The original function is called, once.** For every function of an emitter that is built from sources with the built-in
overrides, one statement of the consumer is a checked call, and its text calls the function which the registry had at this place
before the overrides, by its name there. The table of commands has this name in the row of the command. -/
theorem calls_original_once (parsed : (Build.readRegistry log start lines description).answer = .ok r)
    (built : (Build.emitter log' r builtIns space).answer = .ok e) {k : Nat} (stands : e.functions[k]? = some f) :
    ∃ key original statements, r.functions[k]? = some (key, original) ∧ original.name = key ∧
      e.readStatements f = .ok statements ∧ CallsOnce (statements.map Statement.text) key ∧
      e.commandRows[k]? = some ⟨k, f.shortName, f.name, key⟩ := by
  have filed := Build.filed_readRegistry parsed
  obtain ⟨key, original, _, statements, before, named, -, read, prints⟩ := prints_of_emitter built filed stands
  have row := row_of_function stands
  rw [nativeName_of_emitter filed built stands before] at row
  exact ⟨key, original, statements, before, named, read, callsOnce_of_texts prints.consumer, row⟩

end Emitter

namespace AttachHeader

/-- The command that makes one buffer calls the function that makes several. -/
theorem making_one_calls_several : ∃ e f statements, (Build.emitter [] registry builtIns "gl").answer = .ok e ∧
    e.functions[0]? = some f ∧ f.shortName = "GenBuffer" ∧ e.readStatements f = .ok statements ∧
    CallsOnce (statements.map Statement.text) "glGenBuffers" ∧
    e.commandRows[0]? = some ⟨0, "GenBuffer", f.name, "glGenBuffers"⟩ := by
  obtain ⟨e, built⟩ := exists_emitter
  have shorts : e.functions.map Function.shortName = ["GenBuffer", "AttachShader"] := by
    obtain ⟨-, -, same, -⟩ := emitter_ok plain_builtIns built
    rw [Emitter.functions, same]
    exact shortNames
  have first : (e.functions.map Function.shortName)[0]? = some "GenBuffer" := by rw [shorts]; rfl
  rw [List.getElem?_map] at first
  obtain ⟨f, stands, short⟩ := Option.map_eq_some_iff.mp first
  obtain ⟨key, original, statements, before, -, read, once, row⟩ := Emitter.calls_original_once parsed built stands
  obtain rfl : "glGenBuffers" = key := congrArg Prod.fst (Option.some.inj before)
  exact ⟨e, f, statements, built, stands, short, read, once, short ▸ row⟩

end AttachHeader

end CommandStream
