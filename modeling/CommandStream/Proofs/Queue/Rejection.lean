import CommandStream.Proofs.Queue.Backlog
import CommandStream.Proofs.Wire.Exchange
import CommandStream.Proofs.Wire.Single

/-!
# What a failed enqueue leaves

Names and numbers of values are checked before anything is written, the values themselves only as they are
written. So a command with a value that its type does not take stays in the buffer up to that value, and
the consumer meets its id like any other.
-/

namespace CommandStream
open Wire

/-! ## Ids -/

namespace IdWidth

variable (width : IdWidth)

theorem single_wireType : ∃ size, 8 * size = width.bits ∧ width.wireType.Single (.integer false size) ∧
    width.wireType.presentation = .plain := by
  cases width <;> exact ⟨_, rfl, WireType.single_scalar _ _ (by decide), rfl⟩

/-- An id is packed when it has no more bits than its type. -/
theorem pack_ok_iff (id : Nat) : (∃ data, width.wireType.pack (.int id) = .ok data) ↔ id < 2 ^ width.bits := by
  obtain ⟨size, bits, single, plain⟩ := width.single_wireType
  have packed : width.wireType.pack (.int id) = packScalar (.integer false size) (.int id) := by
    rw [single.pack_eq, WireType.recorded, plain]
    rfl
  have range : integerRange false size = (0, ((2 ^ width.bits : Nat) : Int) - 1) := by
    rw [← bits]
    rfl
  rw [packed]
  constructor
  · rintro ⟨data, done⟩
    obtain ⟨n, within, -⟩ := bind_ok done
    simp only [integerWithin, Value.int?, range] at within
    split at within
    · omega
    · cases within
  · intro below
    refine ⟨_, packScalar_integer ?_ ?_⟩
    · rw [range]
      exact Int.natCast_nonneg id
    · rw [range]
      show (id : Int) ≤ (2 ^ width.bits : Nat) - 1
      omega

end IdWidth

/-! ## Bytes that stay -/

namespace Buffer

/-- Bytes that a buffer begins with, all in front of its write cursor. -/
structure Holds (b : Buffer) (front : List UInt8) : Prop where
  begins : front <+: b.data
  inside : front.length ≤ b.writeCursor

variable {b : Buffer} {front : List UInt8}

/-- Writing takes no bytes away, whether it succeeds or not. -/
theorem Holds.write (holds : b.Holds front) (t : WireType) (v : Value) : (b.write t v).state.Holds front := by
  have gapped : front <+: b.gapped t := holds.begins.trans (List.prefix_append _ _)
  cases packed : t.pack v with
  | error e =>
    simp only [Buffer.write, packed]
    exact ⟨gapped, holds.inside⟩
  | ok own =>
    rw [write_of_pack packed]
    have longer := gapped.trans (List.prefix_append (b.gapped t) own)
    exact ⟨longer, longer.length_le⟩

end Buffer

namespace CommandQueue

variable {q : CommandQueue} {front : List UInt8}

theorem holds_writeArguments {arguments : List WireArgument} {values : List Value} (holds : q.buffer.Holds front) :
    (q.writeArguments arguments values).state.buffer.Holds front := by
  induction arguments generalizing q values with
  | nil => exact holds
  | cons a arguments ih =>
    cases values with
    | nil => exact holds
    | cons v values =>
      have first : (q.write a.type v).state.buffer.Holds front := holds.write a.type v
      obtain ⟨q₁, _, done⟩ | ⟨q₁, e, failed⟩ := (q.write a.type v).done_or_failed
      · rw [done] at first
        rw [writeArguments, done]
        exact ih first
      · rw [failed] at first
        rw [writeArguments, failed]
        exact first

theorem holds_reserve {kind : ResourceKind} (holds : q.buffer.Holds front) :
    (q.reserve kind).state.buffer.Holds front := by
  have made : (q.callTable kind (.create [.int 0])).state.buffer.Holds front := holds
  obtain ⟨q₁, handle, done⟩ | ⟨q₁, e, failed⟩ := (q.callTable kind (.create [.int 0])).done_or_failed
  · rw [done] at made
    rw [reserve, done, Outcome.done_andThen, (q₁.write .handle handle).state_andThen_done fun _ => handle]
    exact made.write .handle handle
  · rw [failed] at made
    rw [reserve, failed]
    exact made

/-- Arguments are written into the buffer and nowhere else. -/
theorem state_writeArguments (q : CommandQueue) (arguments : List WireArgument) (values : List Value) :
    ∃ buffer, (q.writeArguments arguments values).state = { q with buffer } := by
  induction arguments generalizing q values with
  | nil => exact ⟨q.buffer, rfl⟩
  | cons a arguments ih =>
    cases values with
    | nil => exact ⟨q.buffer, rfl⟩
    | cons v values =>
      have first : (q.write a.type v).state = { q with buffer := (q.buffer.write a.type v).state } := rfl
      rw [writeArguments]
      obtain ⟨q₁, _, done⟩ | ⟨q₁, e, failed⟩ := (q.write a.type v).done_or_failed
      · rw [done, Outcome.state_done] at first
        rw [done, first]
        exact ih _ values
      · rw [failed] at first ⊢
        exact ⟨_, first⟩

theorem state_reserve (q : CommandQueue) (kind : ResourceKind) :
    ∃ buffer resources, (q.reserve kind).state = { q with buffer, resources } := by
  have made : (q.callTable kind (.create [.int 0])).state =
      { q with resources := (q.resources.call kind (.create [.int 0])).state } := rfl
  rw [reserve]
  obtain ⟨q₁, handle, done⟩ | ⟨q₁, e, failed⟩ := (q.callTable kind (.create [.int 0])).done_or_failed
  · rw [done, Outcome.state_done] at made
    rw [done, Outcome.done_andThen, (q₁.write .handle handle).state_andThen_done fun _ => handle, made]
    exact ⟨_, _, rfl⟩
  · rw [failed] at made ⊢
    exact ⟨_, _, made⟩

/-- An argument that its type does not take makes writing fail. -/
theorem writeArguments_refused {arguments : List WireArgument} {values : List Value} {x : WireArgument × Value}
    (member : x ∈ arguments.zip values) {cause : CodecError} (refused : x.1.type.pack x.2 = .error cause) :
    ∃ cause, (q.writeArguments arguments values).answer = .error (.codec cause) := by
  induction arguments generalizing q values with
  | nil => cases member
  | cons a arguments ih =>
    cases values with
    | nil => cases member
    | cons v values =>
      rw [writeArguments]
      cases packed : a.type.pack v with
      | error cause =>
        refine ⟨cause, Outcome.answer_andThen_of_error ?_⟩
        simp only [write, Buffer.write, packed]
        rfl
      | ok own =>
        have done : q.write a.type v = .done (q.write a.type v).state () := by
          simp only [write, Buffer.write_of_pack packed]
          rfl
        rw [done]
        rcases List.mem_cons.mp member with rfl | member
        · rw [packed] at refused
          cases refused
        · exact ih member

/-! ## A failed enqueue -/

/-- What follows the id of a command. -/
def writeBody (q : CommandQueue) (c : Command) (values : List Value) : Step Value :=
  (q.writeArguments c.arguments values).andThen fun q _ =>
    match c.creates with
    | some kind => q.reserve kind
    | none => .done q .absent

theorem enqueue_of_command {name : String} {values : List Value} {c : Command} (found : q.command? name = some c)
    (count : values.length = c.arguments.length) : q.enqueue name values =
      ({ q with state := .draining }.write q.idType (.int c.id)).andThen fun q _ => q.writeBody c values := by
  rw [enqueue, found]
  exact if_neg (not_not_intro count)

theorem holds_writeBody {c : Command} {values : List Value} (holds : q.buffer.Holds front) :
    (q.writeBody c values).state.buffer.Holds front := by
  have sent : (q.writeArguments c.arguments values).state.buffer.Holds front := holds_writeArguments holds
  rw [writeBody]
  obtain ⟨q₁, _, done⟩ | ⟨q₁, e, failed⟩ := (q.writeArguments c.arguments values).done_or_failed
  · rw [done, Outcome.state_done] at sent
    rw [done, Outcome.done_andThen]
    split
    · exact holds_reserve sent
    · exact sent
  · rw [failed] at sent ⊢
    exact sent

theorem state_writeBody (q : CommandQueue) (c : Command) (values : List Value) :
    ∃ buffer resources, (q.writeBody c values).state = { q with buffer, resources } := by
  obtain ⟨buffer, sent⟩ := q.state_writeArguments c.arguments values
  rw [writeBody]
  obtain ⟨q₁, _, done⟩ | ⟨q₁, e, failed⟩ := (q.writeArguments c.arguments values).done_or_failed
  · rw [done, Outcome.state_done] at sent
    rw [done, Outcome.done_andThen, sent]
    split
    · exact state_reserve { q with buffer } _
    · exact ⟨buffer, q.resources, rfl⟩
  · rw [failed] at sent ⊢
    exact ⟨buffer, q.resources, sent⟩

theorem writeBody_refused {c : Command} {values : List Value} {x : WireArgument × Value}
    (member : x ∈ c.arguments.zip values) {cause : CodecError} (refused : x.1.type.pack x.2 = .error cause) :
    ∃ buffer, (q.writeBody c values).state = { q with buffer } := by
  obtain ⟨cause, answer⟩ := writeArguments_refused (q := q) member refused
  obtain ⟨buffer, sent⟩ := q.state_writeArguments c.arguments values
  refine ⟨buffer, ?_⟩
  rw [writeBody, Outcome.andThen, answer]
  exact sent

/-- An id that its type does not take leaves the gap in front of it, and the queue draining. -/
theorem enqueue_of_wide_id {width : IdWidth} (ids : q.idType = width.wireType) {name : String} {values : List Value}
    {c : Command} (found : q.command? name = some c) (count : values.length = c.arguments.length)
    (wide : 2 ^ width.bits ≤ c.id) : (q.enqueue name values).state =
      { q with state := .draining, buffer := { q.buffer with data := q.buffer.gapped q.idType } } := by
  cases packed : q.idType.pack (.int c.id) with
  | ok own =>
    have narrow := (width.pack_ok_iff c.id).mp ⟨own, ids ▸ packed⟩
    omega
  | error cause =>
    rw [enqueue_of_command found count]
    simp only [write, Buffer.write, packed]
    rfl

/-- A command whose id is taken stays in the buffer, up to the first value that is not. -/
theorem enqueue_of_narrow_id {width : IdWidth} (ids : q.idType = width.wireType) {name : String} {values : List Value}
    {c : Command} (found : q.command? name = some c) (count : values.length = c.arguments.length)
    (narrow : c.id < 2 ^ width.bits) : ∃ own, q.idType.pack (.int c.id) = .ok own ∧
      (q.enqueue name values).state.buffer.Holds (q.buffer.gapped q.idType ++ own) ∧
      (∃ buffer resources, (q.enqueue name values).state = { q with state := .draining, buffer, resources }) ∧
      ((∃ x ∈ c.arguments.zip values, ∃ cause, x.1.type.pack x.2 = .error cause) →
        ∃ buffer, (q.enqueue name values).state = { q with state := .draining, buffer }) := by
  obtain ⟨own, packed⟩ := (width.pack_ok_iff c.id).mpr narrow
  rw [← ids] at packed
  let sent : CommandQueue :=
    { q with
      state := .draining
      buffer := ⟨q.buffer.gapped q.idType ++ own, (q.buffer.gapped q.idType ++ own).length, q.buffer.readCursor⟩ }
  have written : { q with state := .draining }.write q.idType (.int c.id) = .done sent () := by
    simp only [write, Buffer.write_of_pack packed]
    rfl
  have holds : sent.buffer.Holds (q.buffer.gapped q.idType ++ own) := ⟨List.prefix_rfl, Nat.le_refl _⟩
  rw [enqueue_of_command found count, written, Outcome.done_andThen]
  refine ⟨own, packed, holds_writeBody holds, sent.state_writeBody c values, ?_⟩
  rintro ⟨x, member, cause, refused⟩
  exact writeBody_refused (q := sent) member refused

/-- **When an enqueue leaves no trace.** A queue stays as it was exactly if there is no command of the name that takes
so many values, or if the id of the command is refused as the first thing, behind other commands and without a gap.
Otherwise the queue is draining and holds the id of the command, whatever becomes of its values; only the tables
stay if one of these is refused. -/
theorem unchanged_iff_nothing_sent {width : IdWidth} (ids : q.idType = width.wireType) (name : String)
    (values : List Value) :
    ((q.enqueue name values).state = q ↔ ∀ c, q.command? name = some c → values.length = c.arguments.length →
      2 ^ width.bits ≤ c.id ∧ q.state = .draining ∧ gap q.buffer.writeCursor q.idType.alignment = 0) ∧
    (∀ c, q.command? name = some c → values.length = c.arguments.length → c.id < 2 ^ width.bits →
      (q.enqueue name values).state.state = .draining ∧
      (∃ own, q.idType.pack (.int c.id) = .ok own ∧
        (q.enqueue name values).state.buffer.Holds (q.buffer.gapped q.idType ++ own)) ∧
      ((∃ x ∈ c.arguments.zip values, ∃ cause, x.1.type.pack x.2 = .error cause) →
        (q.enqueue name values).state.resources = q.resources)) := by
  constructor
  · constructor
    · intro unchanged c found count
      by_cases narrow : c.id < 2 ^ width.bits
      · obtain ⟨own, packed, holds, -⟩ := enqueue_of_narrow_id ids found count narrow
        rw [unchanged] at holds
        have size := WireType.length_pack packed
        have some_byte : 1 ≤ q.idType.size := by
          rw [ids]
          exact (WireType.carriesIds width).size_pos
        have longer := holds.begins.length_le
        rw [Buffer.gapped, List.length_append, List.length_append] at longer
        omega
      · have wide := Nat.le_of_not_lt narrow
        rw [enqueue_of_wide_id ids found count wide] at unchanged
        have draining : QueueState.draining = q.state := congrArg CommandQueue.state unchanged
        have data : q.buffer.gapped q.idType = q.buffer.data := congrArg (Buffer.data ∘ CommandQueue.buffer) unchanged
        have none_added := congrArg List.length data
        rw [Buffer.gapped, List.length_append, length_zeros] at none_added
        exact ⟨wide, draining.symm, by omega⟩
    · intro nothing
      cases found : q.command? name with
      | none =>
        rw [enqueue, found]
        rfl
      | some c =>
        by_cases count : values.length = c.arguments.length
        · obtain ⟨wide, draining, aligned⟩ := nothing c found count
          have data : q.buffer.gapped q.idType = q.buffer.data := by
            rw [Buffer.gapped, aligned]
            exact List.append_nil _
          rw [enqueue_of_wide_id ids found count wide, data, ← draining]
        · rw [enqueue, found]
          simp only [ne_eq, count, not_false_eq_true, if_true]
          rfl
  · intro c found count narrow
    obtain ⟨own, packed, holds, ⟨_, _, state⟩, kept⟩ := enqueue_of_narrow_id ids found count narrow
    refine ⟨congrArg CommandQueue.state state, ⟨own, packed, holds⟩, fun refused => ?_⟩
    obtain ⟨_, same⟩ := kept refused
    rw [same]

end CommandQueue

/-! ## Half a command -/

namespace HalfUniform

/-- An emitter of one function, of two numbers. -/
def emitter : Emitter where
  registry :=
    { Registry.empty "gl" with
      functions :=
        [("glUniform1i", ⟨"glUniform1i", "Uniform1i", "public",
          ⟨"PFNGLUNIFORM1IPROC", "void", false, [⟨"GLint", "location", false⟩, ⟨"GLint", "v0", false⟩]⟩⟩)] }
  overrides := .empty
  space := "gl"
  idWidth := .byte
  unambiguous := by decide

def native : NativeSide where
  handler? := fun _ => some fun _ _ => .ok .absent
  errorCode? := none

def number : WireType := .scalar "GLint" "i" (.integer true 4)

def uniform : Command := ⟨0, "Uniform1i", [⟨"location", "GLint", number⟩, ⟨"v0", "GLint", number⟩], none, none⟩

def queue : CommandQueue where
  commands := [uniform]
  idType := IdWidth.byte.wireType
  native := native
  resources := .ofKinds []
  buffer := .empty
  state := .idle
  calls := []
  log := []

/-- Two numbers, the second of which has more than 32 bits. -/
def values : List Value := [.int 3, .int 4294967296]

/-- With one number too few nothing is left behind, with one that is too large the id. -/
theorem id_stays_behind : (queue.enqueue "Uniform1i" [.int 3]).state = queue ∧
    (queue.enqueue "Uniform1i" values).state.state = .draining ∧
    (queue.enqueue "Uniform1i" values).state.buffer.Holds [0] ∧
    (queue.enqueue "Uniform1i" values).state.resources = queue.resources := by
  have ids : queue.idType = IdWidth.byte.wireType := rfl
  have refused : ∃ x ∈ uniform.arguments.zip values, ∃ cause, x.1.type.pack x.2 = .error cause :=
    ⟨(⟨"v0", "GLint", number⟩, .int 4294967296), by simp [uniform, values], .unsuitable, rfl⟩
  obtain ⟨unchanged, -⟩ := CommandQueue.unchanged_iff_nothing_sent ids "Uniform1i" [.int 3]
  obtain ⟨-, sent⟩ := CommandQueue.unchanged_iff_nothing_sent ids "Uniform1i" values
  obtain ⟨draining, ⟨own, packed, holds⟩, tables⟩ := sent uniform rfl rfl (by decide)
  refine ⟨unchanged.mpr ?_, draining, ?_, tables refused⟩
  · rintro c ⟨⟩ ⟨⟩
  · cases packed
    exact holds

/-- The consumer executes the half command with the next command's gap for its second number, and takes a number
of the next command for an id. -/
theorem half_command_executed : CommandQueue.ofEmitter emitter native = .ok queue ∧
    (queue.enqueue "Uniform1i" values).answer = .error (.codec .unsuitable) ∧
    (queue.enqueue "Uniform1i" values).state ≠ queue ∧
    ∃ q, Outcome.runEach CommandQueue.perform queue
        [.enqueue "Uniform1i" values, .enqueue "Uniform1i" [.int 5, .int 6], .process] =
      ([.error (.codec .unsuitable), .ok (.accepted .absent), .error (.unknownCommand 5)], q) ∧
      q.calls = [⟨"Uniform1i", [.int 3, .int 0]⟩] := by
  refine ⟨rfl, rfl, ?_, _, rfl, rfl⟩
  intro unchanged
  have draining : QueueState.draining = QueueState.idle := congrArg CommandQueue.state unchanged
  cases draining

end HalfUniform

end CommandStream
