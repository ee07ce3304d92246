import CommandStream.Program.FileTree
import CommandStream.Program.Generator
import CommandStream.Proofs.Failure
import CommandStream.Proofs.Lookup
import CommandStream.Proofs.Text.Trimmed
import Mathlib.Data.List.Lex
import Mathlib.Data.String.Basic

/-!
# Where paths lead

Where a path leads depends on the directories of a tree only, so writing files changes nothing about it. The paths of two
artifacts lead to two files, as the last segment of each is the name of its artifact.
-/

namespace CommandStream

namespace FileTree

variable {t t' : FileTree} {path : String} {place other : List String}

/-! ## What stands at a place -/

theorem lookup_putEntry_self (place : List String) (entry : FileEntry) (entries : List (List String × FileEntry)) :
    (putEntry place entry entries).lookup place = some entry := by
  induction entries with
  | nil => simp [putEntry]
  | cons first rest ih =>
    unfold putEntry
    split
    · simp
    · next apart => rw [List.lookup_cons, beq_eq_false_iff_ne.mpr (Ne.symm apart), ih]

theorem lookup_putEntry_of_ne (apart : other ≠ place) (entry : FileEntry) (entries : List (List String × FileEntry)) :
    (putEntry place entry entries).lookup other = entries.lookup other := by
  induction entries with
  | nil => simp [putEntry, List.lookup_cons, beq_eq_false_iff_ne.mpr apart]
  | cons first rest ih =>
    unfold putEntry
    split
    · next same => rw [List.lookup_cons, List.lookup_cons, same, beq_eq_false_iff_ne.mpr apart]
    · rw [List.lookup_cons, List.lookup_cons, ih]

theorem find?_put_self (t : FileTree) (entry : FileEntry) (inside : place ≠ []) :
    (t.put place entry).find? place = some entry := by
  rw [find?, if_neg (by simpa using inside)]
  exact lookup_putEntry_self place entry t.entries

theorem find?_put_of_ne (t : FileTree) (entry : FileEntry) (apart : other ≠ place) :
    (t.put place entry).find? other = t.find? other := by
  unfold find?
  split
  · rfl
  · exact lookup_putEntry_of_ne apart entry t.entries

theorem ne_nil_of_find? (standing : t.find? place ≠ some .directory) : place ≠ [] := by
  rintro rfl
  exact standing rfl

/-! ## Trees that paths cannot tell apart -/

/-- Two trees with the same directories and the same places guarded. -/
structure Congruent (t t' : FileTree) : Prop where
  directories : ∀ place, t'.find? place = some .directory ↔ t.find? place = some .directory
  guarded : t'.guarded = t.guarded

theorem Congruent.refl (t : FileTree) : Congruent t t :=
  ⟨fun _ => Iff.rfl, rfl⟩

theorem Congruent.trans {t'' : FileTree} (first : Congruent t t') (second : Congruent t' t'') : Congruent t t'' :=
  ⟨fun place => (second.directories place).trans (first.directories place), second.guarded.trans first.guarded⟩

/-- A file that is written where no directory stands leaves the directories. -/
theorem congruent_put (standing : t.find? place ≠ some .directory) (data : List UInt8) :
    Congruent t (t.put place (.file data)) := by
  refine ⟨fun other => ?_, rfl⟩
  by_cases same : other = place
  · rw [same, find?_put_self t _ (ne_nil_of_find? standing)]
    exact iff_of_false (fun file => nomatch file) standing
  · rw [find?_put_of_ne t _ same]

theorem fail_ne_ok {α : Type} {kind : FileErrorKind} {a : α} : (fail kind path : Except FileError α) ≠ .ok a :=
  fun failed => nomatch failed

theorem walk_cons_ok {segment : String} {rest : List String} : t.walk path place (segment :: rest) = .ok other ↔
    t.find? place = some .directory ∧
      if segment = ".." then t.walk path place.dropLast rest = .ok other
      else segment.utf8ByteSize ≤ Path.segmentByteLimit ∧ t.walk path (place ++ [segment]) rest = .ok other := by
  rw [walk]
  split
  · next standing => simp [standing, fail_ne_ok]
  · next standing => simp [standing, fail_ne_ok]
  · next standing =>
    simp only [standing, true_and]
    split
    · rfl
    · split
      · next long => simp [fail_ne_ok, Nat.not_le.mpr long]
      · next short => simp [Nat.not_lt.mp short]

theorem Congruent.walk_ok (same : Congruent t t') {segments : List String} :
    t'.walk path place segments = .ok other ↔ t.walk path place segments = .ok other := by
  induction segments generalizing place with
  | nil => exact Iff.rfl
  | cons segment rest ih => rw [walk_cons_ok, walk_cons_ok, same.directories, ih, ih]

/-- Whether a text may name anything at all. -/
def nameable (path : String) : Bool :=
  Path.isNamable path && decide (path.utf8ByteSize ≤ Path.byteLimit) && !path.isEmpty

/-- Whether a text names a directory whatever stands there, by a slash or dots at its end. -/
def wantsDirectory (path : String) : Bool :=
  ["", ".", ".."].contains (((Text.pieces '/' path.toList).map String.ofList).getLast?.getD "")

theorem resolve_ok {wanted : Bool} : t.resolve path = .ok (place, wanted) ↔
    nameable path = true ∧ t.walk path [] (Path.segmentsOf path) = .ok place ∧ wanted = wantsDirectory path := by
  unfold resolve
  split
  · next unnamable => simp_all [fail_ne_ok, nameable]
  · split
    · next long => simp [fail_ne_ok, nameable, Nat.not_le.mpr long]
    · split
      · next empty => simp [fail_ne_ok, nameable, empty]
      · next namable short some_ =>
        have named : nameable path = true := by simp_all [nameable]
        constructor
        · intro resolved
          obtain ⟨spot, walked, last⟩ := bind_ok resolved
          cases last
          exact ⟨named, walked, rfl⟩
        · rintro ⟨-, walked, rfl⟩
          rw [walked]
          rfl

theorem Congruent.resolve_ok (same : Congruent t t') {wanted : Bool} :
    t'.resolve path = .ok (place, wanted) ↔ t.resolve path = .ok (place, wanted) := by
  rw [FileTree.resolve_ok, FileTree.resolve_ok, same.walk_ok]

theorem target_ok : t.target path = .ok place ↔
    t.resolve path = .ok (place, false) ∧ t.find? place ≠ some .directory ∧ t.guarded place = false := by
  constructor
  · intro opened
    obtain ⟨⟨spot, wanted⟩, resolved, opened⟩ := bind_ok opened
    dsimp only at opened
    split at opened
    · exact absurd opened fail_ne_ok
    · next standing =>
      split at opened
      · exact absurd opened fail_ne_ok
      · next unwanted =>
        split at opened
        · exact absurd opened fail_ne_ok
        · next free =>
          cases opened
          rw [Bool.not_eq_true] at unwanted free
          exact ⟨unwanted ▸ resolved, standing, free⟩
  · rintro ⟨resolved, standing, free⟩
    rw [target, resolved]
    change (if _ then _ else _) = _
    rw [if_neg standing, if_neg Bool.false_ne_true, free, if_neg Bool.false_ne_true]

theorem Congruent.target_ok (same : Congruent t t') : t'.target path = .ok place ↔ t.target path = .ok place := by
  rw [FileTree.target_ok, FileTree.target_ok, same.resolve_ok, same.guarded, ne_eq, same.directories]

/-- What stands at a place is a file just where it was before a directory is made. -/
theorem find?_makeDirectory (made : t.makeDirectory path = .ok t') (data : List UInt8) :
    t'.find? place = some (.file data) ↔ t.find? place = some (.file data) := by
  obtain ⟨⟨spot, wanted⟩, -, made⟩ := bind_ok made
  dsimp only at made
  split at made
  · exact absurd made fail_ne_ok
  · next absent =>
    split at made
    · exact absurd made fail_ne_ok
    · cases made
      have inside : spot ≠ [] := ne_nil_of_find? (by rw [absent]; exact nofun)
      by_cases same : place = spot
      · rw [same, find?_put_self t _ inside, absent]
        exact iff_of_false nofun nofun
      · rw [find?_put_of_ne t _ same]

/-- A file is read from where it is written. -/
theorem read_of_target {data : List UInt8} (opened : t.target path = .ok place)
    (stands : t.find? place = some (.file data)) : t.read path = .ok data := by
  obtain ⟨resolved, -, -⟩ := target_ok.mp opened
  unfold read
  rw [resolved]
  dsimp only [Bind.bind, Except.bind]
  rw [stands]
  rfl

/-! ## Several files -/

/-- The tree with files written one after another. -/
def putFiles (t : FileTree) (files : List (List String × List UInt8)) : FileTree :=
  files.foldl (fun t file => t.put file.1 (.file file.2)) t

theorem putFiles_append (t : FileTree) (files others : List (List String × List UInt8)) :
    t.putFiles (files ++ others) = (t.putFiles files).putFiles others :=
  List.foldl_append

theorem congruent_putFiles {files : List (List String × List UInt8)}
    (standing : ∀ file ∈ files, t.find? file.1 ≠ some .directory) : Congruent t (t.putFiles files) := by
  induction files generalizing t with
  | nil => exact .refl t
  | cons file rest ih =>
    obtain ⟨here, others⟩ := List.forall_mem_cons.mp standing
    have one := congruent_put here file.2
    exact one.trans (ih fun other member => (not_congr (one.directories other.1)).mpr (others other member))

theorem find?_putFiles_of_not_mem {files : List (List String × List UInt8)} (absent : place ∉ files.map Prod.fst) :
    (t.putFiles files).find? place = t.find? place := by
  induction files generalizing t with
  | nil => rfl
  | cons file rest ih =>
    obtain ⟨apart, others⟩ := not_or.mp (List.mem_cons.not.mp absent)
    exact (ih others).trans (find?_put_of_ne t _ apart)

/-- Files at different places are all there in the end. -/
theorem find?_putFiles_of_mem {files : List (List String × List UInt8)} (distinct : (files.map Prod.fst).Nodup)
    {data : List UInt8} (inside : place ≠ []) (member : (place, data) ∈ files) :
    (t.putFiles files).find? place = some (.file data) := by
  induction files generalizing t with
  | nil => cases member
  | cons file rest ih =>
    obtain ⟨outside, distinct⟩ := List.nodup_cons.mp distinct
    rcases List.mem_cons.mp member with rfl | member
    · exact (find?_putFiles_of_not_mem outside).trans (find?_put_self t _ inside)
    · exact ih distinct member

/-! ## The end of a path -/

/-- A path ends where its last segment says, unless that leads up. -/
theorem getLast?_of_walk {segments : List String} {last : String} (down : last ≠ "..")
    (walked : t.walk path place (segments ++ [last]) = .ok other) : other.getLast? = some last := by
  induction segments generalizing place with
  | nil =>
    rw [List.nil_append, walk_cons_ok, if_neg down] at walked
    obtain ⟨-, -, arrived⟩ := walked
    cases arrived
    exact List.getLast?_concat
  | cons segment rest ih =>
    rw [List.cons_append, walk_cons_ok] at walked
    obtain ⟨-, walked⟩ := walked
    split at walked
    · exact ih walked
    · exact ih walked.2

end FileTree

/-! ## Paths of artifacts -/

namespace Path

/-- The last of several segments stands behind a separator. -/
theorem exists_intercalate_eq (separator : Char) (items : List (List Char)) (first last : List Char) :
    ∃ front, [separator].intercalate (items ++ [first, last]) = front ++ separator :: last := by
  induction items with
  | nil =>
    refine ⟨first, ?_⟩
    rw [List.nil_append, List.intercalate_cons_cons, List.intercalate_singleton, List.append_assoc, List.singleton_append]
  | cons item rest ih =>
    obtain ⟨front, split⟩ := ih
    obtain ⟨next, others, more⟩ : ∃ next others, rest ++ [first, last] = next :: others :=
      List.exists_cons_of_ne_nil (by simp)
    refine ⟨item ++ [separator] ++ front, ?_⟩
    rw [List.cons_append, more, List.intercalate_cons_cons, ← more, split, List.append_assoc (item ++ [separator])]

/-- What a directory in another one has inside is named by the last segment of its path. -/
theorem segmentsOf_text_inside (p : Path) (directory : String) {name : String} (bare : '/' ∉ name.toList)
    (named : name ≠ "" ∧ name ≠ ".") :
    ∃ around, segmentsOf ((p.inside directory).inside name).text = around ++ [name] := by
  obtain ⟨front, split⟩ :=
    exists_intercalate_eq '/' (p.segments.map String.toList) directory.toList name.toList
  have written : ((p.inside directory).inside name).text.toList = (p.start.toList ++ front) ++ '/' :: name.toList := by
    have segments : ((p.inside directory).inside name).segments = p.segments ++ [directory, name] :=
      List.append_assoc p.segments [directory] [name]
    have some_ : ((p.inside directory).inside name).segments.isEmpty = false := by
      rw [segments, List.isEmpty_eq_false_iff]
      exact List.append_ne_nil_of_right_ne_nil _ (List.cons_ne_nil _ _)
    rw [text, some_, Bool.and_false, if_neg Bool.false_ne_true, segments, String.toList_append, String.toList_intercalate,
      List.map_append, List.append_assoc, ← split]
    rfl
  refine ⟨((Text.pieces '/' (p.start.toList ++ front)).map String.ofList).filter fun s => s != "" && s != ".", ?_⟩
  have kept : [name].filter (fun s => s != "" && s != ".") = [name] :=
    List.filter_cons_of_pos (by simp [named])
  rw [segmentsOf, written, Text.pieces_append_cons, Text.pieces_of_not_mem bare, List.map_append, List.filter_append,
    List.map_singleton, String.ofList_toList, kept]

/-- Paths with distinct segments stand in the strict order of these once they are sorted. -/
theorem pairwise_sorted {paths : List Path} (distinct : (paths.map segments).Nodup) :
    (sorted paths).Pairwise fun p q => p.segments < q.segments := by
  have order (p q : Path) : (!q.segments.lex p.segments) = decide (p.segments ≤ q.segments) := by
    rw [Bool.eq_iff_iff, Bool.not_eq_true', decide_eq_true_iff, ← not_lt, ← List.lex_eq_true_iff_lt, Bool.not_eq_true]
  rw [sorted, funext fun p => funext (order p)]
  exact pairwise_mergeSort_lt segments distinct

end Path

namespace Artifact

theorem mem_all (a : Artifact) : a ∈ all := by
  cases a <;> decide

theorem fileName_injective : Function.Injective fileName := fun a b same =>
  List.inj_on_of_nodup_map (by decide : (all.map fileName).Nodup) (mem_all a) (mem_all b) same

end Artifact

namespace Generator

variable {t : FileTree} {outdir : Path} {a b : Artifact} {place : List String}

/-- The path of an artifact leads to nothing but what has its name. -/
theorem getLast?_of_resolve {wanted : Bool} (resolved : t.resolve (outputPath outdir a).text = .ok (place, wanted)) :
    place.getLast? = some a.fileName := by
  have plain : '/' ∉ a.fileName.toList ∧ (a.fileName ≠ "" ∧ a.fileName ≠ ".") ∧ a.fileName ≠ ".." := by
    cases a <;> decide
  obtain ⟨around, segments⟩ := Path.segmentsOf_text_inside outdir a.directory plain.1 plain.2.1
  obtain ⟨-, walked, -⟩ := FileTree.resolve_ok.mp resolved
  rw [outputPath, segments] at walked
  exact FileTree.getLast?_of_walk plain.2.2 walked

/-- Two artifacts have two files. -/
theorem eq_of_resolve {wanted wanted' : Bool} (first : t.resolve (outputPath outdir a).text = .ok (place, wanted))
    (second : t.resolve (outputPath outdir b).text = .ok (place, wanted')) : a = b :=
  Artifact.fileName_injective (Option.some.inj ((getLast?_of_resolve first).symm.trans (getLast?_of_resolve second)))

end Generator

end CommandStream
