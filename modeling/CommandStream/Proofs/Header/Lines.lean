import CommandStream.Proofs.Registry.Parsed
import CommandStream.Proofs.Text.Phrase

/-!
# What a line of a header does

A line that a reading takes adds a function type, a function or a define and is counted for what it adds, or
it is of no account. Any other line is skipped: it leaves the registry as it was and is counted as skipped.
-/

namespace CommandStream

/-- The function type that a line declares. -/
def FunctionType.ofLine? (line : List Char) : Option FunctionType := do
  let d ← Header.TypeDeclaration.ofLine? line
  let arguments ← Argument.listOfC? d.parameters
  some { typedefName := d.name, returnType := d.returnType, returnsEnum := false, arguments }

theorem Header.Shape.ofLine_eq_functionType {line : List Char} :
    Shape.ofLine line = .functionType ↔ "typedef".toList <+: line ∧ "APIENTRYP".toList <:+: line := by
  rw [← Text.occursIn_iff, ← List.isPrefixOf_iff_prefix, ← Bool.and_eq_true]
  unfold ofLine
  split
  · rename_i declares
    exact iff_of_true rfl declares
  · rename_i other
    refine iff_of_false ?_ other
    split
    · exact nofun
    split <;> exact nofun

namespace Registry

variable {r r' : Registry}

/-- A function type is added under a new name, behind all others. -/
theorem addType_ok {type : FunctionType} (added : r.addType type = .ok r') :
    type.typedefName ∉ Keyed.keys r.types ∧ r' = { r with types := r.types ++ [(type.typedefName, type)] } := by
  unfold addType at added
  split at added
  · cases added
  split at added
  · cases added
  · rename_i new
    cases added
    exact ⟨fun member => new ((Keyed.hasKey_iff _ _).mpr member), rfl⟩

theorem addType_of_new {type : FunctionType} (mutable : r.frozen = false)
    (new : type.typedefName ∉ Keyed.keys r.types) :
    r.addType type = .ok { r with types := r.types ++ [(type.typedefName, type)] } := by
  have absent : ¬ Keyed.hasKey r.types type.typedefName = true := fun present => new ((Keyed.hasKey_iff _ _).mp present)
  rw [addType, mutable, if_neg Bool.false_ne_true, if_neg absent]

/-- A define is added unless it is there. -/
theorem addDefine_ok {name : String} (added : r.addDefine name = .ok r') :
    r' = r ∨ r' = { r with defines := r.defines ++ [name] } := by
  unfold addDefine at added
  split at added
  · cases added
  split at added
  · cases added
    exact .inl rfl
  · cases added
    exact .inr rfl

end Registry

namespace Header.Extraction

variable {x y : Extraction} {lineNumber : Nat} {line : List Char}

theorem refuse_cases {e : RegistryError} (refused : x.refuse lineNumber e = .ok y) :
    ∃ reason, y = x.skip lineNumber reason := by
  unfold refuse at refused
  split at refused <;> cases refused <;> exact ⟨_, rfl⟩

/-- A line that declares a function type is taken if the registry takes the type. -/
theorem readType_of_added (x : Extraction) (lineNumber : Nat) {type : FunctionType} {registry : Registry}
    (declared : FunctionType.ofLine? line = some type) (added : x.registry.addType type = .ok registry) :
    x.readType lineNumber line = .ok { x with registry, typeCount := x.typeCount + 1 } := by
  obtain ⟨d, shaped, declared⟩ := Option.bind_eq_some_iff.mp declared
  obtain ⟨arguments, listed, declared⟩ := Option.bind_eq_some_iff.mp declared
  cases declared
  simp only [readType, shaped, listed, added]

theorem readType_of_refused (x : Extraction) (lineNumber : Nat) {type : FunctionType} {e : RegistryError}
    (declared : FunctionType.ofLine? line = some type) (refused : x.registry.addType type = .error e) :
    x.readType lineNumber line = x.refuse lineNumber e := by
  obtain ⟨d, shaped, declared⟩ := Option.bind_eq_some_iff.mp declared
  obtain ⟨arguments, listed, declared⟩ := Option.bind_eq_some_iff.mp declared
  cases declared
  simp only [readType, shaped, listed, refused]

theorem readType_of_undeclared (x : Extraction) (lineNumber : Nat) (undeclared : FunctionType.ofLine? line = none) :
    ∃ reason, x.readType lineNumber line = .ok (x.skip lineNumber reason) := by
  unfold readType
  cases shaped : TypeDeclaration.ofLine? line with
  | none => exact ⟨_, rfl⟩
  | some d =>
    cases listed : Argument.listOfC? d.parameters with
    | none =>
      simp only [listed]
      exact ⟨_, rfl⟩
    | some arguments =>
      simp only [FunctionType.ofLine?, shaped, listed, Option.bind_eq_bind, Option.bind_some] at undeclared
      cases undeclared

theorem readType_cases (read : x.readType lineNumber line = .ok y) :
    (∃ type registry, FunctionType.ofLine? line = some type ∧ x.registry.addType type = .ok registry ∧
      y = { x with registry, typeCount := x.typeCount + 1 }) ∨
    ∃ reason, y = x.skip lineNumber reason := by
  cases declared : FunctionType.ofLine? line with
  | none =>
    obtain ⟨reason, skipped⟩ := x.readType_of_undeclared lineNumber declared
    rw [skipped] at read
    cases read
    exact .inr ⟨reason, rfl⟩
  | some type =>
    cases added : x.registry.addType type with
    | ok registry =>
      rw [x.readType_of_added lineNumber declared added] at read
      cases read
      exact .inl ⟨type, registry, rfl, added, rfl⟩
    | error e =>
      rw [x.readType_of_refused lineNumber declared added] at read
      exact .inr (refuse_cases read)

/-- What reading a line makes of a reading. -/
inductive Reads (x : Extraction) (line : List Char) : Extraction → Prop
  | type {type : FunctionType} {registry : Registry} : Shape.ofLine line = .functionType →
      FunctionType.ofLine? line = some type → x.registry.addType type = .ok registry →
      Reads x line { x with registry, typeCount := x.typeCount + 1 }
  | function {d : SymbolDeclaration} {f : Function} {registry : Registry} : Shape.ofLine line = .symbol →
      SymbolDeclaration.ofLine? line = some d → beginsWith d.symbol (symbolStart ++ x.registry.start) = true →
      x.registry.addFunction (dropFirst d.symbol symbolStart.length) d.type = .ok (f, registry) →
      Reads x line { x with registry, functionCount := x.functionCount + 1 }
  | define {name : String} {registry : Registry} : Shape.ofLine line = .define → defineOfLine? line = some name →
      beginsWith name x.registry.defineStart = true → x.registry.addDefine name = .ok registry →
      Reads x line { x with registry }
  /-- A define of another interface, or none. -/
  | foreign : Shape.ofLine line = .define →
      (∀ name ∈ defineOfLine? line, beginsWith name x.registry.defineStart = false) → Reads x line x
  | other : Shape.ofLine line = .other → Reads x line x
  | skipped (lineNumber : Nat) (reason : String) : Shape.ofLine line = .functionType ∨ Shape.ofLine line = .symbol →
      Reads x line (x.skip lineNumber reason)

theorem reads_readSymbol (shape : Shape.ofLine line = .symbol) (read : x.readSymbol lineNumber line = .ok y) :
    x.Reads line y := by
  unfold readSymbol at read
  split at read
  · cases read
    exact .skipped _ _ (.inr shape)
  rename_i d declared
  split at read
  · rename_i ours
    split at read
    · rename_i added
      cases read
      exact .function shape declared ours added
    · obtain ⟨reason, rfl⟩ := refuse_cases read
      exact .skipped _ _ (.inr shape)
  · cases read
    exact .skipped _ _ (.inr shape)

theorem reads_readDefine (shape : Shape.ofLine line = .define) (read : x.readDefine line = .ok y) : x.Reads line y := by
  unfold readDefine at read
  split at read
  · rename_i undeclared
    cases read
    exact .foreign shape (undeclared ▸ fun _ member => nomatch member)
  rename_i name declared
  split at read
  · rename_i ours
    cases added : x.registry.addDefine name with
    | error e =>
      rw [added] at read
      cases read
    | ok registry =>
      rw [added] at read
      cases read
      exact .define shape declared ours added
  · rename_i other
    cases read
    refine .foreign shape fun found member => ?_
    rw [declared] at member
    cases member
    exact Bool.eq_false_iff.mpr other

theorem reads_readLine (read : x.readLine lineNumber line = .ok y) : x.Reads line y := by
  unfold readLine at read
  split at read
  · rename_i shape
    obtain ⟨type, registry, declared, added, rfl⟩ | ⟨reason, rfl⟩ := readType_cases read
    · exact .type shape declared added
    · exact .skipped _ _ (.inl shape)
  · rename_i shape
    exact reads_readSymbol shape read
  · rename_i shape
    exact reads_readDefine shape read
  · rename_i shape
    cases read
    exact .other shape

end Header.Extraction

end CommandStream
