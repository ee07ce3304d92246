import CommandStream.Program.Recording
import CommandStream.Proofs.Emission.Emittable
import CommandStream.Proofs.Program.Places

/-!
# Generated files

A run that generates files makes the directories first and then tries the artifacts one by one. An artifact that can be
emitted, and whose file can be opened, leaves that file and nothing else; any other leaves everything. So the files of a
run are those of the artifacts that succeed, in whatever order they are tried.
-/

namespace CommandStream

/-! ## Computations that spare files -/

namespace Recording

variable {α β : Type}

/-- Computations behind which the files are the same; directories may be new. -/
def SparesFiles (x : StateM Recording α) : Prop :=
  ∀ s place data, (x s).2.files.find? place = some (.file data) ↔ s.files.find? place = some (.file data)

theorem SparesFiles.pure (a : α) : SparesFiles (Pure.pure a) :=
  fun _ _ _ => Iff.rfl

theorem SparesFiles.bind {x : StateM Recording α} {f : α → StateM Recording β} (first : SparesFiles x)
    (then_ : ∀ a, SparesFiles (f a)) : SparesFiles (x >>= f) :=
  fun s place data => (then_ _ _ place data).trans (first s place data)

theorem change_eq (next : FileTree → Except FileError FileTree) (s : Recording) :
    change next s = match next s.files with
      | .ok files => (.ok (), { s with files })
      | .error e => (.error e, s) := by
  change (match next s.files with
    | .ok files => (do set { s with files }; Pure.pure (.ok ()) : StateM Recording (Except FileError Unit))
    | .error e => Pure.pure (.error e)) s = _
  cases next s.files <;> rfl

theorem sparesFiles_makeDirectory (path : String) : SparesFiles (fileSystem.makeDirectory path) := by
  intro s place data
  change (change (fun t => t.makeDirectory path) s).2.files.find? place = _ ↔ _
  rw [change_eq]
  cases made : s.files.makeDirectory path with
  | ok files => exact FileTree.find?_makeDirectory made data
  | error e => rfl

theorem sparesFiles_acceptExisting (path : String) (e : FileError) : SparesFiles (fileSystem.acceptExisting path e) :=
  .bind (fun _ _ _ => Iff.rfl) fun _ => .pure _

/-- What follows the attempt to make a directory in one that is there. -/
theorem sparesFiles_settled (path : String) (answer : Except FileError Unit) :
    SparesFiles (match answer with
      | .ok () => Pure.pure (.ok ())
      | .error e => if e.kind = .notFound then Pure.pure (.error e) else fileSystem.acceptExisting path e) := by
  cases answer with
  | ok => exact .pure _
  | error e =>
    dsimp only
    split
    · exact .pure _
    · exact sparesFiles_acceptExisting path e

theorem sparesFiles_makeAll (start : String) (segments : List String) : SparesFiles (fileSystem.makeAll start segments) := by
  induction segments with
  | nil => exact .bind (sparesFiles_makeDirectory _) (sparesFiles_settled _)
  | cons last around ih =>
    refine .bind (sparesFiles_makeDirectory _) fun answer => ?_
    cases answer with
    | ok => exact .pure _
    | error e =>
      dsimp only
      split
      · refine .bind ih fun answer => ?_
        cases answer with
        | ok => exact .bind (sparesFiles_makeDirectory _) (sparesFiles_settled _)
        | error e => exact .pure _
      · exact sparesFiles_acceptExisting _ e

theorem SparesFiles.lift {x : StateM Recording α} (spares : SparesFiles x) :
    SparesFiles (Generator.perform x).run :=
  spares

/-- A step of a run spares files if what it consists of does. -/
theorem SparesFiles.step {x : Generator.Step (StateM Recording) α} {f : α → Generator.Step (StateM Recording) β}
    (first : SparesFiles x.run) (then_ : ∀ a, SparesFiles (f a).run) : SparesFiles (x >>= f).run := by
  change SparesFiles (x.run >>= ExceptT.bindCont f)
  refine first.bind fun answer => ?_
  cases answer with
  | ok a => exact then_ a
  | error e => exact .pure _

theorem sparesFiles_makeDirectories (outdir : Path) :
    SparesFiles (Generator.makeDirectories fileSystem outdir).run := by
  unfold Generator.makeDirectories
  generalize Generator.directories = directories
  induction directories with
  | nil => exact .pure _
  | cons directory rest ih =>
    refine .step (.step (.lift (sparesFiles_makeAll _ _)) fun answer => ?_) fun _ => ih
    cases answer with
    | ok => exact .pure _
    | error e => exact .pure _

/-! ## A chain of steps -/

theorem run_eq (x : StateM Recording α) (t : FileTree) :
    run x t = ((x ⟨t, []⟩).1, (x ⟨t, []⟩).2.files, (x ⟨t, []⟩).2.reports.reverse) :=
  rfl

theorem exists_of_run {x : StateM Recording α} {t after : FileTree} {reports : List RunEntry} {a : α}
    (ran : run x t = (a, after, reports)) : ∃ s, x ⟨t, []⟩ = (a, s) ∧ s.files = after := by
  rw [run_eq] at ran
  cases ran
  exact ⟨_, rfl, rfl⟩

theorem run_of_ok {x : StateM Recording (Except RunError α)} {t : FileTree} {a : α} (ok : (run x t).1 = .ok a) :
    run x t = (.ok a, (run x t).2.1, (run x t).2.2) :=
  Prod.ext ok rfl

theorem run_bind {x : StateM Recording α} {f : α → StateM Recording β} {s s' : Recording} {a : α}
    (done : x s = (a, s')) : (x >>= f) s = f a s' := by
  change f (x s).1 (x s).2 = _
  rw [done]

theorem run_step {x : Generator.Step (StateM Recording) α} {f : α → Generator.Step (StateM Recording) β} {s s' : Recording}
    {a : α} (done : x.run s = (.ok a, s')) : (x >>= f).run s = (f a).run s' := by
  change ExceptT.bindCont f (x.run s).1 (x.run s).2 = _
  rw [done]
  rfl

end Recording

namespace Generator

variable {e : Emitter} {outdir : Path} {banner : List UInt8} {t t' : FileTree} {a : Artifact} {place : List String}

/-! ## One artifact -/

/-- The file that an artifact leaves: where and with which content, if it can be emitted and the file be opened. -/
def deposit (e : Emitter) (outdir : Path) (banner : List UInt8) (t : FileTree) (a : Artifact) :
    Option (List String × List UInt8) :=
  match content e banner a, t.target (outputPath outdir a).text with
  | .ok data, .ok place => some (place, data)
  | _, _ => none

theorem deposit_eq_some {data : List UInt8} : deposit e outdir banner t a = some (place, data) ↔
    content e banner a = .ok data ∧ t.target (outputPath outdir a).text = .ok place := by
  unfold deposit
  cases content e banner a <;> cases t.target (outputPath outdir a).text <;> simp [and_comm]

theorem deposit_congr (same : t.Congruent t') (a : Artifact) :
    deposit e outdir banner t' a = deposit e outdir banner t a := by
  refine Option.ext fun ⟨place, data⟩ => ?_
  rw [deposit_eq_some, deposit_eq_some, same.target_ok]

/-- No directory stands where an artifact leaves its file. -/
theorem standing_of_deposit {file : List String × List UInt8} (left : deposit e outdir banner t a = some file) :
    t.find? file.1 ≠ some .directory :=
  (FileTree.target_ok.mp (deposit_eq_some.mp left).2).2.1

/-- An artifact leaves its file, or nothing. -/
theorem writeArtifact_eq (e : Emitter) (outdir : Path) (banner : List UInt8) (a : Artifact) (s : Recording) :
    (writeArtifact Recording.fileSystem Recording.console e outdir banner a s).1 =
      (deposit e outdir banner s.files a).isSome ∧
    (writeArtifact Recording.fileSystem Recording.console e outdir banner a s).2.files =
      s.files.putFiles (deposit e outdir banner s.files a).toList := by
  unfold writeArtifact deposit
  cases content e banner a with
  | error cause => exact ⟨rfl, rfl⟩
  | ok data =>
    have written : Recording.fileSystem.write (outputPath outdir a).text data s =
        Recording.change (fun t => t.write (outputPath outdir a).text data) s := rfl
    rw [Recording.change_eq, FileTree.write] at written
    cases opened : s.files.target (outputPath outdir a).text with
    | error cause =>
      rw [opened] at written
      dsimp only
      rw [Recording.run_bind written]
      exact ⟨rfl, rfl⟩
    | ok place =>
      rw [opened] at written
      dsimp only
      rw [Recording.run_bind written]
      exact ⟨rfl, rfl⟩

/-! ## All artifacts -/

/-- Artifacts in order, told apart by whether they leave a file. -/
def sortedOut (outdir : Path) (left : Artifact → Option (List String × List UInt8)) (order : List Artifact) : Outputs :=
  ⟨(order.filter fun a => (left a).isSome).map (outputPath outdir),
    (order.filter fun a => (left a).isNone).map Artifact.fileName⟩

/-- Artifacts that are tried leave all their files, each as if it were the only one. -/
theorem writeArtifacts_eq (e : Emitter) (outdir : Path) (banner : List UInt8) (order : List Artifact) (s : Recording) :
    (writeArtifacts Recording.fileSystem Recording.console e outdir banner order s).1 =
      sortedOut outdir (deposit e outdir banner s.files) order ∧
    (writeArtifacts Recording.fileSystem Recording.console e outdir banner order s).2.files =
      s.files.putFiles (order.filterMap (deposit e outdir banner s.files)) := by
  induction order generalizing s with
  | nil => exact ⟨rfl, rfl⟩
  | cons a rest ih =>
    obtain ⟨worked, left⟩ := writeArtifact_eq e outdir banner a s
    have whole : writeArtifacts Recording.fileSystem Recording.console e outdir banner (a :: rest) s =
        let one := writeArtifact Recording.fileSystem Recording.console e outdir banner a s
        let others := writeArtifacts Recording.fileSystem Recording.console e outdir banner rest one.2
        (if one.1 then { others.1 with written := outputPath outdir a :: others.1.written }
          else { others.1 with failed := a.fileName :: others.1.failed }, others.2) := rfl
    rw [whole]
    generalize writeArtifact Recording.fileSystem Recording.console e outdir banner a s = one at worked left
    -- The first artifact changes no directory, so the others fare as they would have before it.
    have same : s.files.Congruent one.2.files :=
      left ▸ FileTree.congruent_putFiles fun file member => standing_of_deposit (Option.mem_toList.mp member)
    obtain ⟨outputs, files⟩ := ih one.2
    rw [funext (deposit_congr same)] at outputs files
    dsimp only
    rw [outputs, files, left, ← FileTree.putFiles_append, worked]
    cases found : deposit e outdir banner s.files a with
    | none => simp [sortedOut, found]
    | some file => simp [sortedOut, found]

/-- Artifacts that are tried leave different files. -/
theorem nodup_deposits {order : List Artifact} (distinct : order.Nodup) :
    ((order.filterMap (deposit e outdir banner t)).map Prod.fst).Nodup := by
  rw [List.map_filterMap]
  refine distinct.filterMap fun a b place first second => ?_
  obtain ⟨file, left, rfl⟩ := Option.map_eq_some_iff.mp first
  obtain ⟨file', left', same⟩ := Option.map_eq_some_iff.mp second
  have resolved := (FileTree.target_ok.mp (deposit_eq_some.mp left).2).1
  rw [← same] at resolved
  exact eq_of_resolve resolved (FileTree.target_ok.mp (deposit_eq_some.mp left').2).1

/-! ## The files of a run -/

/-- Whether an artifact can be emitted and its file be opened for writing. -/
def Succeeds (e : Emitter) (outdir : Path) (t : FileTree) (a : Artifact) : Prop :=
  (∃ text, a.text e = .ok text) ∧ ∃ place, t.target (outputPath outdir a).text = .ok place

instance : Decidable (Succeeds e outdir t a) :=
  decidable_of_iff (((a.text e).isOk && (t.target (outputPath outdir a).text).isOk) = true) <| by
    unfold Succeeds
    cases a.text e <;> cases t.target (outputPath outdir a).text <;> simp [Except.isOk, Except.toBool]

theorem content_ok {data : List UInt8} :
    content e banner a = .ok data ↔ ∃ text, a.text e = .ok text ∧ banner ++ text.toUTF8.toList = data := by
  unfold content
  cases a.text e <;> simp [Except.map]

theorem isSome_deposit_iff : (deposit e outdir banner t a).isSome = true ↔ Succeeds e outdir t a := by
  rw [Option.isSome_iff_exists]
  constructor
  · rintro ⟨file, left⟩
    obtain ⟨emitted, opened⟩ := deposit_eq_some.mp left
    obtain ⟨text, rendered, -⟩ := content_ok.mp emitted
    exact ⟨⟨text, rendered⟩, file.1, opened⟩
  · rintro ⟨⟨text, rendered⟩, place, opened⟩
    exact ⟨(place, _), deposit_eq_some.mpr ⟨content_ok.mpr ⟨text, rendered, rfl⟩, opened⟩⟩

/-- What all artifacts give together is what each gives. -/
theorem find?_texts {texts : Keyed String} (made : Artifact.texts e = .ok texts) (a : Artifact) :
    ∃ text, Keyed.find? texts a.path = some text ∧ a.text e = .ok text := by
  obtain ⟨i, at_⟩ := List.mem_iff_getElem?.mp a.mem_all
  obtain ⟨entry, stands, one⟩ := mapM_ok_item made at_
  obtain ⟨text, rendered, one⟩ := bind_ok one
  cases one
  have distinct : (Keyed.keys texts).Nodup := Artifact.keys_texts made ▸ by decide
  exact ⟨text, lookup_of_mem distinct (List.mem_of_getElem? stands), rendered⟩

theorem isNone_deposit_iff : (deposit e outdir banner t a).isNone = true ↔ ¬ Succeeds e outdir t a := by
  rw [Option.isNone_iff_eq_none, ← Option.not_isSome_iff_eq_none, isSome_deposit_iff]

section Answer

variable {order : List Artifact}

/-- If every artifact succeeds, the answer is the paths of all, in order. -/
theorem result_of_forall (each : order.Perm Artifact.all) (every : ∀ a, Succeeds e outdir t a) :
    ∃ paths, (sortedOut outdir (deposit e outdir banner t) order).result = .ok paths ∧
      (∀ path, path ∈ paths ↔ ∃ a, outputPath outdir a = path) ∧
      paths.Pairwise fun p q => p.segments < q.segments := by
  have failed : (order.filter fun a => (deposit e outdir banner t a).isNone) = [] :=
    List.filter_eq_nil_iff.mpr fun a _ none_ => isNone_deposit_iff.mp none_ (every a)
  have written : (order.filter fun a => (deposit e outdir banner t a).isSome) = order :=
    List.filter_eq_self.mpr fun a _ => isSome_deposit_iff.mpr (every a)
  have apart : Function.Injective fun a => (outputPath outdir a).segments := fun a b same =>
    Artifact.fileName_injective (by simpa [outputPath, Path.inside] using congrArg List.getLast? same)
  have distinct : ((order.map (outputPath outdir)).map Path.segments).Nodup := by
    rw [List.map_map]
    exact (each.nodup_iff.mpr (by decide)).map apart
  refine ⟨Path.sorted (order.map (outputPath outdir)), ?_, fun path => ?_, Path.pairwise_sorted distinct⟩
  · rw [sortedOut, failed, written]
    rfl
  · rw [Path.sorted, List.mem_mergeSort, List.mem_map]
    exact exists_congr fun a => and_iff_right (each.mem_iff.mpr a.mem_all)

/-- If an artifact fails, the answer is the names of those that do, in order. -/
theorem result_of_exists (each : order.Perm Artifact.all) (some_ : ∃ a, ¬ Succeeds e outdir t a) :
    ∃ failure, (sortedOut outdir (deposit e outdir banner t) order).result = .error failure ∧
      (∀ name, name ∈ failure.names ↔ ∃ a, ¬ Succeeds e outdir t a ∧ a.fileName = name) ∧
      failure.names.Pairwise (· < ·) := by
  obtain ⟨a, fails⟩ := some_
  have member (b : Artifact) : b ∈ (order.filter fun a => (deposit e outdir banner t a).isNone) ↔ ¬ Succeeds e outdir t b := by
    rw [List.mem_filter, isNone_deposit_iff]
    exact and_iff_right (each.mem_iff.mpr b.mem_all)
  have filled : (sortedOut outdir (deposit e outdir banner t) order).failed.isEmpty = false := by
    rw [List.isEmpty_eq_false_iff]
    exact List.ne_nil_of_mem (List.mem_map_of_mem ((member a).mpr fails))
  have distinct : ((sortedOut outdir (deposit e outdir banner t) order).failed.map id).Nodup := by
    rw [List.map_id]
    exact ((each.nodup_iff.mpr (by decide)).filter _).map Artifact.fileName_injective
  refine ⟨⟨(sortedOut outdir (deposit e outdir banner t) order).failed.mergeSort fun a b => decide (a ≤ b)⟩, ?_, fun name => ?_,
    pairwise_mergeSort_lt id distinct⟩
  · rw [Outputs.result, filled, if_neg Bool.false_ne_true]
  · rw [List.mem_mergeSort, sortedOut, List.mem_map]
    exact exists_congr fun b => and_congr_left fun _ => member b

end Answer

/-- What a run leaves and answers that generates files: from the tree before it, and from that tree with the directories of
the artifacts. -/
structure Generated (e : Emitter) (outdir : Path) (banner : List UInt8) (t stocked after : FileTree)
    (result : Except GenerationFailure (List Path)) : Prop where
  /-- An artifact that can be emitted, and whose file can be opened, has its file, with the banner and its text. -/
  written : ∀ a text place, a.text e = .ok text → stocked.target (outputPath outdir a).text = .ok place →
    after.find? place = some (.file (banner ++ text.toUTF8.toList)) ∧
    after.read (outputPath outdir a).text = .ok (banner ++ text.toUTF8.toList)
  /-- If all can be emitted, the texts are those that stand together under their paths. -/
  rendered : ∀ texts, Artifact.texts e = .ok texts → ∀ a place,
    stocked.target (outputPath outdir a).text = .ok place → ∃ text, Keyed.find? texts a.path = some text ∧
      after.read (outputPath outdir a).text = .ok (banner ++ text.toUTF8.toList)
  /-- Where no artifact leaves its file, a file stands just where it stood before. -/
  untouched : ∀ place data,
    (∀ a, Succeeds e outdir stocked a → stocked.target (outputPath outdir a).text ≠ .ok place) →
    (after.find? place = some (.file data) ↔ t.find? place = some (.file data))
  /-- So does one where the path of an artifact leads that fails. -/
  spared : ∀ a place wanted data, ¬ Succeeds e outdir stocked a →
    stocked.resolve (outputPath outdir a).text = .ok (place, wanted) →
    (after.find? place = some (.file data) ↔ t.find? place = some (.file data))
  /-- If an artifact fails, the answer is the names of those that do, in order. -/
  failure : (∃ a, ¬ Succeeds e outdir stocked a) → ∃ failure, result = .error failure ∧
    (∀ name, name ∈ failure.names ↔ ∃ a, ¬ Succeeds e outdir stocked a ∧ a.fileName = name) ∧
    failure.names.Pairwise (· < ·) ∧ failure.message = "failed to generate " ++ ", ".intercalate failure.names
  /-- If none does, the answer is the paths of all, in order. -/
  success : (∀ a, Succeeds e outdir stocked a) → ∃ paths, result = .ok paths ∧
    (∀ path, path ∈ paths ↔ ∃ a, outputPath outdir a = path) ∧ paths.Pairwise fun p q => p.segments < q.segments

section Tree

variable {order : List Artifact} {stocked : FileTree}

/-- The tree with the files that artifacts leave. -/
def deposited (e : Emitter) (outdir : Path) (banner : List UInt8) (t : FileTree) (order : List Artifact) : FileTree :=
  t.putFiles (order.filterMap (deposit e outdir banner t))

/-- A file that an artifact leaves is there when all have been tried. -/
theorem find?_deposited (each : order.Perm Artifact.all) {data : List UInt8}
    (left : deposit e outdir banner t a = some (place, data)) :
    (deposited e outdir banner t order).find? place = some (.file data) ∧
      (deposited e outdir banner t order).read (outputPath outdir a).text = .ok data := by
  have standing := standing_of_deposit left
  have stands : (deposited e outdir banner t order).find? place = some (.file data) :=
    FileTree.find?_putFiles_of_mem (nodup_deposits (each.nodup_iff.mpr (by decide))) (FileTree.ne_nil_of_find? standing)
      (List.mem_filterMap.mpr ⟨a, each.mem_iff.mpr a.mem_all, left⟩)
  have same : t.Congruent (deposited e outdir banner t order) := FileTree.congruent_putFiles fun file member => by
    obtain ⟨b, -, left⟩ := List.mem_filterMap.mp member
    exact standing_of_deposit left
  exact ⟨stands, FileTree.read_of_target (same.target_ok.mpr (deposit_eq_some.mp left).2) stands⟩

/-- Where no artifact leaves a file nothing changes. -/
theorem find?_deposited_of_forall
    (apart : ∀ a, Succeeds e outdir t a → t.target (outputPath outdir a).text ≠ .ok place) :
    (deposited e outdir banner t order).find? place = t.find? place := by
  refine FileTree.find?_putFiles_of_not_mem fun member => ?_
  obtain ⟨file, listed, rfl⟩ := List.mem_map.mp member
  obtain ⟨a, -, left⟩ := List.mem_filterMap.mp listed
  exact apart a (isSome_deposit_iff.mp (Option.isSome_iff_exists.mpr ⟨file, left⟩)) (deposit_eq_some.mp left).2

theorem generated_deposited (each : order.Perm Artifact.all)
    (before : ∀ place data, stocked.find? place = some (.file data) ↔ t.find? place = some (.file data)) :
    Generated e outdir banner t stocked (deposited e outdir banner stocked order)
      (sortedOut outdir (deposit e outdir banner stocked) order).result where
  written a text place rendered opened :=
    find?_deposited each (deposit_eq_some.mpr ⟨content_ok.mpr ⟨text, rendered, rfl⟩, opened⟩)
  rendered texts all a place opened := by
    obtain ⟨text, found, rendered⟩ := find?_texts all a
    exact ⟨text, found,
      (find?_deposited each (deposit_eq_some.mpr ⟨content_ok.mpr ⟨text, rendered, rfl⟩, opened⟩)).2⟩
  untouched place data apart := by
    rw [find?_deposited_of_forall apart]
    exact before place data
  spared a place wanted data fails resolved := by
    rw [find?_deposited_of_forall fun b succeeds opened => ?_]
    · exact before place data
    · exact fails (eq_of_resolve resolved (FileTree.target_ok.mp opened).1 ▸ succeeds)
  failure some_ := by
    obtain ⟨failure, result, names, order⟩ := result_of_exists each some_
    exact ⟨failure, result, names, order, rfl⟩
  success := result_of_forall each

end Tree

/-- **Generated files.** On every tree in which the directories of the artifacts can be made, in whatever order the artifacts
are tried, a run comes to an end. Each artifact that can be emitted, and whose file can be opened for writing, has its file
with the banner and its text then, whatever becomes of the others, and no other file is changed. The answer is the names of
those that failed, in order, or the paths of all. -/
theorem files_hold_renderings (e : Emitter) (banner : List UInt8) {outdir : String} {order : List Artifact}
    {t stocked : FileTree} {reports : List RunEntry}
    (each : order.Perm Artifact.all)
    (made : Recording.run (makeDirectories Recording.fileSystem (Path.ofText outdir)).run t = (.ok (), stocked, reports)) :
    ∃ result after reports',
      Recording.run (generateFiles Recording.fileSystem Recording.console e outdir banner true order).run t =
        (.ok result, after, reports') ∧ Generated e (Path.ofText outdir) banner t stocked after result := by
  have before := Recording.sparesFiles_makeDirectories (Path.ofText outdir) ⟨t, []⟩
  obtain ⟨housed, done, rfl⟩ := Recording.exists_of_run made
  rw [done] at before
  have tried := writeArtifacts_eq e (Path.ofText outdir) banner order housed
  have ran : (generateFiles Recording.fileSystem Recording.console e outdir banner true order).run ⟨t, []⟩ =
      (.ok (writeArtifacts Recording.fileSystem Recording.console e (Path.ofText outdir) banner order housed).1.result,
        (writeArtifacts Recording.fileSystem Recording.console e (Path.ofText outdir) banner order housed).2) := by
    unfold generateFiles
    rw [Recording.run_step done]
    rfl
  generalize writeArtifacts Recording.fileSystem Recording.console e (Path.ofText outdir) banner order housed = rest
    at tried ran
  refine ⟨rest.1.result, rest.2.files, rest.2.reports.reverse, by rw [Recording.run_eq, ran], ?_⟩
  rw [tried.1, tried.2]
  exact generated_deposited each before

end Generator

/-! ## A run with every kind of failure -/

namespace GuardedOutputs
open Generator

/-- A function whose rule makes objects of no kind, so that neither side of it can be emitted. -/
def emitter : Emitter where
  registry :=
    { Registry.empty "gl" with
      functions := [("glFinish", ⟨"glFinish", "Finish", "public", ⟨"PFNGLFINISHPROC", "void", false, []⟩⟩)] }
  overrides := OverrideTracker.empty.addRule ⟨"glFinish", .create none⟩
  space := "gl"
  idWidth := .byte
  unambiguous := by decide

/-- A tree with a directory in the place of one file, and with a file that is guarded. -/
def tree : FileTree where
  entries := [(["out"], .directory), (["out", "include"], .directory), (["out", "include", "gl_check.hpp"], .directory),
    (["out", "include", "gl_enum_types.hpp"], .file [47, 47]), (["out", "include", "slot_map.hpp"], .file [47, 47])]
  guarded := fun place => place == ["out", "include", "gl_enum_types.hpp"]

/-- The tree with the directories. -/
def stocked : FileTree :=
  (Recording.run (makeDirectories Recording.fileSystem (Path.ofText "out")).run tree).2.1

/-- The four artifacts that fail are named; the guarded file is spared, and another one is written anew. -/
theorem four_fail : ∃ reports result after reports',
    Recording.run (makeDirectories Recording.fileSystem (Path.ofText "out")).run tree = (.ok (), stocked, reports) ∧
    Artifact.all.reverse.Perm Artifact.all ∧
    Recording.run (generateFiles Recording.fileSystem Recording.console emitter "out" [35, 10] true Artifact.all.reverse).run
      tree = (.ok result, after, reports') ∧
    (∃ failure, result = .error failure ∧ failure.names.Pairwise (· < ·) ∧ ∀ name, name ∈ failure.names ↔
      name ∈ ["gl_check.hpp", "gl_command_buffer_read.cpp", "gl_command_buffer_write.cpp", "gl_enum_types.hpp"]) ∧
    after.find? ["out", "include", "gl_enum_types.hpp"] = some (.file [47, 47]) ∧
    after.read "out/include/slot_map.hpp" =
      .ok ([35, 10] ++ (Artifact.textOf (Support.slotTables "gl")).toUTF8.toList) := by
  have ok : (Recording.run (makeDirectories Recording.fileSystem (Path.ofText "out")).run tree).1.toOption = some () := by
    decide +kernel
  have made := Recording.run_of_ok (ok_of_toOption ok)
  have order : Artifact.all.reverse.Perm Artifact.all := List.reverse_perm _
  obtain ⟨result, after, reports', ran, generated⟩ :=
    files_hold_renderings emitter [35, 10] order made
  have failing : ∀ a ∈ Artifact.all, ¬ Succeeds emitter (Path.ofText "out") stocked a ↔ a.fileName ∈
      ["gl_check.hpp", "gl_command_buffer_read.cpp", "gl_command_buffer_write.cpp", "gl_enum_types.hpp"] := by
    decide +kernel
  have named : ∀ name ∈ ["gl_check.hpp", "gl_command_buffer_read.cpp", "gl_command_buffer_write.cpp", "gl_enum_types.hpp"],
      ∃ a ∈ Artifact.all, a.fileName = name := by
    decide
  refine ⟨_, result, after, reports', made, order, ran, ?_, ?_, ?_⟩
  · obtain ⟨failure, answer, names, sorted, -⟩ :=
      generated.failure ⟨.errorCheck, (failing .errorCheck (by decide)).mpr (by decide)⟩
    refine ⟨failure, answer, sorted, fun name => (names name).trans ⟨?_, fun listed => ?_⟩⟩
    · rintro ⟨a, fails, rfl⟩
      exact (failing a a.mem_all).mp fails
    · obtain ⟨a, -, rfl⟩ := named name listed
      exact ⟨a, (failing a a.mem_all).mpr listed, rfl⟩
  · have resolved : (stocked.resolve (outputPath (Path.ofText "out") .enumTypes).text).toOption =
        some (["out", "include", "gl_enum_types.hpp"], false) := by
      decide +kernel
    exact (generated.spared .enumTypes _ _ _ ((failing .enumTypes (by decide)).mpr (by decide))
      (ok_of_toOption resolved)).mpr (by decide)
  · have opened : (stocked.target (outputPath (Path.ofText "out") .slotTables).text).toOption =
        some ["out", "include", "slot_map.hpp"] := by
      decide +kernel
    have path : (outputPath (Path.ofText "out") .slotTables).text = "out/include/slot_map.hpp" := by decide +kernel
    rw [← path]
    exact (generated.written .slotTables _ _ rfl (ok_of_toOption opened)).2

end GuardedOutputs

end CommandStream
