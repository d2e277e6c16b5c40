import Mathlib.Data.List.Perm.Basic
import Mathlib.Data.String.Basic
import ModelAtlas.Assistant.Reviews
import ModelAtlas.Foundations.LatestRows

/-!
# Moves by name

A move links the destination and then unlinks the source; the two names and the
link count tell how far it has come.
-/

namespace ModelAtlas.Assistant

open Foundations

namespace Files

structure WellNamed (files : Files) : Prop where
  nodup : (files.entries.map FileEntry.name).Nodup
  notDirectory : ∀ entry ∈ files.entries, entry.name ∉ files.directories

/-- `file_path` takes the name, whatever stands there. -/
def isPath (files : Files) (name : FileName) : Bool :=
  name.path ≠ "" && (pathParts name.path).all isValidPart &&
    files.hasParent name.area (pathParts name.path)

/-- Each file has one name, and `file_path` takes it. -/
def Readable (files : Files) : Prop :=
  ∀ entry ∈ files.entries, files.isPath entry.name = true ∧ files.linkCount entry = 1

def move (files : Files) (entry : FileEntry) (dest : FileName) : Files :=
  (files.link entry dest).unlink entry.name

section Entries

variable {files : Files} {entry : FileEntry} {name dest : FileName}

theorem mem_of_entry (found : files.entry? name = some entry) : entry ∈ files.entries :=
  List.mem_of_find?_eq_some found

theorem name_of_entry (found : files.entry? name = some entry) : entry.name = name := by
  simpa using List.find?_some found

theorem entry?_eq_none_iff :
    files.entry? name = none ↔ ∀ entry ∈ files.entries, entry.name ≠ name := by
  unfold entry?
  simp

theorem WellNamed.eq_of_name (wellNamed : files.WellNamed) {other : FileEntry}
    (mem : entry ∈ files.entries) (otherMem : other ∈ files.entries)
    (same : other.name = entry.name) : other = entry :=
  List.inj_on_of_nodup_map wellNamed.nodup otherMem mem same

theorem WellNamed.entry?_of_mem (wellNamed : files.WellNamed) (mem : entry ∈ files.entries) :
    files.entry? entry.name = some entry := by
  cases found : files.entry? entry.name with
  | none =>
    exact absurd rfl (entry?_eq_none_iff.mp found entry mem)
  | some other =>
    have same := name_of_entry found
    rw [wellNamed.eq_of_name mem (mem_of_entry found) same]

theorem entry?_of_not_isPresent (absent : files.isPresent name = false) :
    files.entry? name = none := by
  rw [isPresent, Bool.or_eq_false_iff, isFile] at absent
  exact Option.isSome_eq_false_iff.mp absent.1 |> Option.isNone_iff_eq_none.mp

theorem not_isPresent (isFree : files.entry? name = none)
    (notDirectory : name ∉ files.directories) :
    files.isPresent name = false := by
  simp [isPresent, isFile, isFree, notDirectory]

theorem entry?_link (absent : files.entry? dest = none) (wanted : FileName) :
    Files.entry? (files.link entry dest) wanted =
      if wanted = dest then some { entry with name := dest }
      else files.entry? wanted := by
  change (files.entries ++ [_]).find? _ = _
  rw [List.find?_append]
  by_cases same : wanted = dest
  · subst same
    have none_ : files.entries.find? (fun entry => entry.name = wanted) = none :=
      absent
    simp [none_]
  · have other : dest ≠ wanted := fun h => same h.symm
    rw [if_neg same]
    unfold entry?
    simp [other]

theorem entry?_unlink (removed wanted : FileName) : Files.entry? (files.unlink removed) wanted =
      if wanted = removed then none else files.entry? wanted := by
  by_cases same : wanted = removed
  · subst same
    rw [if_pos rfl, entry?_eq_none_iff]
    intro entry mem
    simpa using (List.mem_filter.mp mem).2
  · rw [if_neg same]
    change (files.entries.filter _).find? _ = files.entries.find? _
    rw [List.find?_filter]
    congr 1
    funext entry
    by_cases named : entry.name = wanted
    · simp [named, same]
    · simp [named]

theorem linkCount_link (other : FileEntry) : (files.link entry dest).linkCount other =
      files.linkCount other + if entry.inode = other.inode then 1 else 0 := by
  change (files.entries ++ [_]).countP _ = _
  rw [List.countP_append, List.countP_singleton]
  simp [linkCount]

theorem unlink_link (absent : files.entry? dest = none) :
    (files.link entry dest).unlink dest = files := by
  have kept : files.entries.filter (fun entry => entry.name ≠ dest) =
      files.entries :=
    List.filter_eq_self.mpr (fun entry mem => by
      simpa using entry?_eq_none_iff.mp absent entry mem)
  change { files with entries := (files.entries ++ [_]).filter _ } = files
  rw [List.filter_append, kept]
  simp

theorem WellNamed.entries_perm (wellNamed : files.WellNamed) (mem : entry ∈ files.entries) :
    files.entries.Perm (entry :: (files.unlink entry.name).entries) := by
  have others : files.entries.filter (fun other => other.name ≠ entry.name) =
      files.entries.erase entry := by
    rw [wellNamed.nodup.of_map.erase_eq_filter]
    refine List.filter_congr (fun other otherMem => ?_)
    by_cases same : other = entry
    · simp [same]
    · have named : other.name ≠ entry.name := fun sameName =>
        same (wellNamed.eq_of_name mem otherMem sameName)
      simp [same, named]
  change files.entries.Perm (entry :: files.entries.filter _)
  rw [others]
  exact List.perm_cons_erase mem

end Entries

section Move

variable {files : Files} {entry : FileEntry} {dest : FileName}

theorem move_entries (different : dest ≠ entry.name) :
    (files.move entry dest).entries = (files.unlink entry.name).entries ++
        [{ entry with name := dest }] := by
  change (files.entries ++ [_]).filter _ = files.entries.filter _ ++ [_]
  rw [List.filter_append]
  simp [different]

theorem different_of_absent (mem : entry ∈ files.entries) (absent : files.entry? dest = none) :
    dest ≠ entry.name :=
  fun same => entry?_eq_none_iff.mp absent entry mem same.symm

theorem entry?_move (absent : files.entry? dest = none) (wanted : FileName) :
    Files.entry? (files.move entry dest) wanted =
      if wanted = entry.name then none
      else if wanted = dest then some { entry with name := dest }
      else files.entry? wanted := by
  rw [move, entry?_unlink, entry?_link absent]

theorem WellNamed.linkCount_move (wellNamed : files.WellNamed) (mem : entry ∈ files.entries)
    (absent : files.entry? dest = none) (other : FileEntry) :
    (files.move entry dest).linkCount other = files.linkCount other := by
  have before := (wellNamed.entries_perm mem).countP_eq (fun counted => counted.inode = other.inode)
  rw [linkCount, linkCount, move_entries (different_of_absent mem absent),
    List.countP_append, before, List.countP_singleton, List.countP_cons]

theorem WellNamed.move (wellNamed : files.WellNamed) (mem : entry ∈ files.entries)
    (absent : files.isPresent dest = false) :
    (files.move entry dest).WellNamed := by
  have isFree := entry?_of_not_isPresent absent
  have entries : (files.move entry dest).entries = _ :=
    move_entries (different_of_absent mem isFree)
  constructor
  · rw [entries, List.map_append, List.nodup_append]
    refine ⟨(wellNamed.nodup.sublist (List.filter_sublist.map _)), List.nodup_singleton _, ?_⟩
    intro name named _ added
    obtain ⟨other, otherMem, rfl⟩ := List.mem_map.mp named
    have kept := (List.mem_filter.mp otherMem).1
    rw [List.map_singleton, List.mem_singleton] at added
    subst added
    exact entry?_eq_none_iff.mp isFree other kept
  · intro other otherMem
    rw [entries, List.mem_append, List.mem_singleton] at otherMem
    rcases otherMem with kept | rfl
    · exact wellNamed.notDirectory other (List.mem_filter.mp kept).1
    · rw [isPresent, Bool.or_eq_false_iff] at absent
      have notDirectory : dest ∉ files.directories := by
        simpa using absent.2
      exact notDirectory

theorem Readable.move (readable : files.Readable) (wellNamed : files.WellNamed)
    (mem : entry ∈ files.entries)
    (absent : files.entry? dest = none)
    (isPath : files.isPath dest = true) :
    (files.move entry dest).Readable := by
  intro other otherMem
  rw [wellNamed.linkCount_move mem absent]
  rw [move_entries (different_of_absent mem absent), List.mem_append,
    List.mem_singleton] at otherMem
  rcases otherMem with kept | rfl
  · exact readable other (List.mem_filter.mp kept).1
  · exact ⟨isPath, (readable entry mem).2⟩

theorem WellNamed.move_back (wellNamed : files.WellNamed) (mem : entry ∈ files.entries)
    (absent : files.entry? dest = none) :
    ((files.move entry dest).move { entry with name := dest }
      entry.name).entries.Perm files.entries := by
  have different := different_of_absent mem absent
  have others : ((files.move entry dest).unlink dest).entries =
      (files.unlink entry.name).entries := by
    change (files.move entry dest).entries.filter _ = _
    rw [move_entries different, List.filter_append]
    have kept : (files.unlink entry.name).entries.filter
        (fun other => other.name ≠ dest) = (files.unlink entry.name).entries :=
      List.filter_eq_self.mpr (fun other otherMem => by
        simpa using entry?_eq_none_iff.mp absent other (List.mem_filter.mp otherMem).1)
    rw [kept]
    simp
  have undone : ((files.move entry dest).move
      { entry with name := dest } entry.name).entries = _ :=
    move_entries (Ne.symm different)
  rw [undone]
  rw [others]
  exact (List.perm_append_singleton _ _).trans (wellNamed.entries_perm mem).symm

end Move

end Files

section Paths

variable {files : Files} {relative : String} {area : Area} {name : FileName}

theorem filePath_ok_iff {mustExist : Bool} : filePath files relative mustExist area = .ok name ↔
      name = ⟨area, relative⟩ ∧ files.isPath name = true ∧
        (mustExist = true → files.isFile name = true) ∧
        ∀ entry, files.entry? name = some entry → files.linkCount entry = 1 := by
  unfold filePath Files.isPath Files.isFile
  dsimp only
  by_cases valid : relative = "" ∨ (pathParts relative).all isValidPart = false
  · rw [if_pos (by simpa using valid)]
    refine iff_of_false (fun same => by cases same) ?_
    rintro ⟨rfl, isPath, -⟩
    rcases valid with empty | refused
    · simp [empty] at isPath
    · simp [refused] at isPath
  · rw [not_or] at valid
    have taken : (pathParts relative).all isValidPart = true := by
      simpa using valid.2
    rw [if_neg (by simp [valid.1, taken])]
    cases parent : files.hasParent area (pathParts relative) with
    | false =>
      rw [if_pos (by simp)]
      refine iff_of_false (fun same => by cases same) ?_
      rintro ⟨rfl, isPath, -⟩
      simp [parent] at isPath
    | true =>
      rw [if_neg (by simp)]
      cases found : files.entry? ⟨area, relative⟩ with
      | none =>
        cases mustExist with
        | true =>
          refine iff_of_false (fun same => by cases same) ?_
          rintro ⟨rfl, -, isFile, -⟩
          simp [found] at isFile
        | false =>
          constructor
          · intro same
            obtain rfl := Except.ok.inj same
            simp [valid.1, taken, parent, found]
          · rintro ⟨rfl, -⟩
            rfl
      | some entry =>
        dsimp only
        by_cases single : files.linkCount entry = 1
        · constructor
          · intro same
            rw [if_neg (fun several => several single)] at same
            obtain rfl := Except.ok.inj same
            simp [valid.1, taken, parent, found, single]
          · rintro ⟨rfl, -⟩
            exact if_neg (fun several => several single)
        · rw [if_pos single]
          refine iff_of_false (fun same => by cases same) ?_
          rintro ⟨rfl, -, -, links⟩
          exact single (links entry found)

theorem recoveryPath_of_isPath (isPath : files.isPath ⟨area, relative⟩ = true) :
    recoveryPath files relative area = .ok ⟨area, relative⟩ := by
  rw [Files.isPath, Bool.and_eq_true, Bool.and_eq_true] at isPath
  obtain ⟨⟨notEmpty, taken⟩, parent⟩ := isPath
  unfold recoveryPath filePath
  dsimp only at notEmpty taken parent ⊢
  rw [if_neg (by simpa [taken] using notEmpty), if_neg (by simp [parent])]
  cases found : files.entry? ⟨area, relative⟩ with
  | none =>
    rfl
  | some entry =>
    dsimp only
    by_cases single : files.linkCount entry = 1
    · rw [if_neg (fun several => several single)]
    · rw [if_pos single]
      rfl

end Paths

def fileState (sha256 : String → String) (entry : FileEntry) : FileState where
  path := entry.name.text
  sha256 := sha256 entry.content
  size := entry.content.utf8ByteSize

def fileStates (sha256 : String → String) (files : Files) : List FileState :=
  sortedBy FileState.path (files.entries.map (fileState sha256))

theorem FileName.text_injective : Function.Injective FileName.text := by
  rintro ⟨leftArea, left⟩ ⟨rightArea, right⟩ same
  have chars := congrArg String.toList same
  cases leftArea <;> cases rightArea <;>
    simp [FileName.text, Area.text] at chars ⊢
  · exact String.toList_inj.mp chars
  · exact String.toList_inj.mp chars

section Snapshot

variable {files : Files} {sha256 : String → String}

theorem refusedEntry_eq_none_iff (wellNamed : files.WellNamed)
    {entry : FileEntry} (mem : entry ∈ files.entries) :
    refusedEntry files entry = none ↔
      files.isPath entry.name = true ∧ files.linkCount entry = 1 := by
  have found := wellNamed.entry?_of_mem mem
  rw [refusedEntry]
  cases path : filePath files entry.name.path true entry.name.area with
  | error raised =>
    refine iff_of_false (fun same => by cases same) ?_
    rintro ⟨isPath, single⟩
    have taken : filePath files entry.name.path true entry.name.area = .ok entry.name :=
      filePath_ok_iff.mpr ⟨rfl, isPath, fun _ => by rw [Files.isFile, found]; rfl,
        fun other otherFound => by
          rwa [Option.some.inj (otherFound.symm.trans found)]⟩
    rw [taken] at path
    cases path
  | ok name =>
    obtain ⟨rfl, isPath, -, links⟩ := filePath_ok_iff.mp path
    exact iff_of_true rfl ⟨isPath, links entry found⟩

theorem filesSnapshot_ok_iff (wellNamed : files.WellNamed) {states : List FileState} :
    filesSnapshot sha256 files = .ok states ↔
      files.Readable ∧ states = fileStates sha256 files := by
  rw [filesSnapshot]
  cases refused : files.entries.findSome? (refusedEntry files) with
  | some raised =>
    refine iff_of_false (fun same => by cases same) ?_
    rintro ⟨readable, -⟩
    obtain ⟨entry, mem, isRefused⟩ := List.exists_of_findSome?_eq_some refused
    rw [(refusedEntry_eq_none_iff wellNamed mem).mpr (readable entry mem)] at isRefused
    cases isRefused
  | none =>
    have readable : files.Readable := fun entry mem =>
      (refusedEntry_eq_none_iff wellNamed mem).mp (List.findSome?_eq_none_iff.mp refused entry mem)
    constructor
    · intro same
      exact ⟨readable, (Except.ok.inj same).symm⟩
    · rintro ⟨-, rfl⟩
      rfl

theorem mem_fileStates {state : FileState} : state ∈ fileStates sha256 files ↔
      ∃ entry ∈ files.entries, fileState sha256 entry = state := by
  rw [fileStates, mem_sortedBy, List.mem_map]

theorem eq_of_path (wellNamed : files.WellNamed) {left right : FileState}
    (leftMem : left ∈ fileStates sha256 files) (rightMem : right ∈ fileStates sha256 files)
    (same : left.path = right.path) : left = right := by
  obtain ⟨entry, mem, rfl⟩ := mem_fileStates.mp leftMem
  obtain ⟨other, otherMem, rfl⟩ := mem_fileStates.mp rightMem
  rw [wellNamed.eq_of_name otherMem mem (FileName.text_injective same)]

theorem fileStates_perm (wellNamed : files.WellNamed) {other : Files}
    (same : other.entries.Perm files.entries) :
    fileStates sha256 other = fileStates sha256 files :=
  (sortedBy_eq_of_perm (same.map _).symm (fun _ leftMem _ rightMem =>
    eq_of_path wellNamed (mem_sortedBy.mpr leftMem) (mem_sortedBy.mpr rightMem))).symm

theorem recordedHash (wellNamed : files.WellNamed) {entry : FileEntry}
    (mem : entry ∈ files.entries) :
    ((fileStates sha256 files).find? (fun state =>
      state.path = entry.name.text)).map FileState.sha256 = some (sha256 entry.content) := by
  have recorded : fileState sha256 entry ∈ fileStates sha256 files :=
    mem_fileStates.mpr ⟨entry, mem, rfl⟩
  cases found : (fileStates sha256 files).find? (fun state =>
    state.path = entry.name.text) with
  | none =>
    have absent := List.find?_eq_none.mp found _ recorded
    exact absurd (decide_eq_true rfl) absent
  | some state =>
    have path := List.find?_some found
    rw [decide_eq_true_eq] at path
    rw [eq_of_path wellNamed (List.mem_of_find?_eq_some found) recorded path]
    rfl

end Snapshot

section Ambiguity

variable {env : AssistantEnvironment} {files : Files}
  {expected : String} {name : FileName}

theorem not_isAmbiguous_of_absent (absent : files.isPresent name = false) :
    isAmbiguous env files expected name = false := by
  rw [isAmbiguous, absent, Bool.false_and]

theorem not_isAmbiguous_of_same {entry : FileEntry} (found : files.entry? name = some entry)
    (same : env.sha256 entry.content = expected) :
    isAmbiguous env files expected name = false := by
  simp [isAmbiguous, found, same]

end Ambiguity

/-- What `reconcile_file` makes of the two names, when neither is ambiguous. -/
def foundOf (files : Files) (proposalId : String) (change : FileChange) :
    Option FileEntry → Option FileEntry → Except AssistantError Recovery
  | some source, some dest =>
    if source.inode ≠ dest.inode ∨ files.linkCount source ≠ 2 then
      .error (.guard "recovery_state_ambiguous")
    else .ok (.rolledBack change.destinationName)
  | some source, none =>
    if files.linkCount source ≠ 1 then
      .error (.guard "recovery_state_ambiguous")
    else .ok .noEffect
  | none, some dest =>
    if files.linkCount dest ≠ 1 then
      .error (.guard "recovery_state_ambiguous")
    else .ok (.completed
      { effect := .fileChange change
        proposalId := proposalId
        replayed := false
        recovered := true })
  | none, none => .error (.guard "recovery_state_ambiguous")

def MovePaths.change (paths : MovePaths) (sha256 : String) : FileChange where
  source := paths.source
  sourceArea := paths.sourceArea
  destination := paths.destination
  destinationArea := paths.destinationArea
  sha256 := sha256

theorem reconcileFile_eq {env : AssistantEnvironment} {files : Files}
    {proposal : Proposal} {beforeFiles : List FileState} {paths : MovePaths}
    {expected : String} {source dest : FileName}
    (isMove : movePaths proposal.id proposal.action = some paths)
    (isSource : source = ⟨paths.sourceArea, paths.source⟩)
    (isDestination : dest = ⟨paths.destinationArea, paths.destination⟩)
    (recorded : (beforeFiles.find? (fun state =>
      state.path = source.text)).map FileState.sha256 = some expected)
    (sourcePath : files.isPath source = true)
    (destinationPath : files.isPath dest = true)
    (sourceSame : isAmbiguous env files expected source = false)
    (destinationSame : isAmbiguous env files expected dest = false) :
    reconcileFile env files proposal beforeFiles =
      foundOf files proposal.id (paths.change expected) (files.entry? source)
        (files.entry? dest) := by
  subst isSource isDestination
  unfold reconcileFile
  rw [isMove]
  dsimp only
  rw [recorded]
  dsimp only
  rw [recoveryPath_of_isPath sourcePath, recoveryPath_of_isPath destinationPath]
  dsimp only
  rw [sourceSame, destinationSame, Bool.or_self, if_neg Bool.false_ne_true]
  cases files.entry? ⟨paths.sourceArea, paths.source⟩ <;>
    cases files.entry? ⟨paths.destinationArea, paths.destination⟩ <;> rfl

structure Movable (files : Files) (entry : FileEntry) (dest : FileName) :
    Prop where
  wellNamed : files.WellNamed
  readable : files.Readable
  mem : entry ∈ files.entries
  isPath : files.isPath dest = true
  absent : files.isPresent dest = false

namespace Movable

variable {files : Files} {entry : FileEntry} {dest : FileName}
  {env : AssistantEnvironment}

theorem isFree (movable : Movable files entry dest) : files.entry? dest = none :=
  Files.entry?_of_not_isPresent movable.absent

theorem found (movable : Movable files entry dest) : files.entry? entry.name = some entry :=
  movable.wellNamed.entry?_of_mem movable.mem

theorem different (movable : Movable files entry dest) : dest ≠ entry.name :=
  Files.different_of_absent movable.mem movable.isFree

theorem sourcePath (movable : Movable files entry dest) : files.isPath entry.name = true :=
  (movable.readable entry movable.mem).1

theorem single (movable : Movable files entry dest) : files.linkCount entry = 1 :=
  (movable.readable entry movable.mem).2

theorem filePath_source (movable : Movable files entry dest)
    {relative : String} {area : Area} (named : entry.name = ⟨area, relative⟩) :
    filePath files relative true area = .ok entry.name := by
  refine filePath_ok_iff.mpr ⟨named, movable.sourcePath, fun _ => ?_, ?_⟩
  · rw [Files.isFile, movable.found]
    rfl
  · intro other found
    rw [Option.some.inj (found.symm.trans movable.found)]
    exact movable.single

theorem filePath_destination (movable : Movable files entry dest)
    {relative : String} {area : Area} (named : dest = ⟨area, relative⟩) :
    filePath files relative false area = .ok dest := by
  refine filePath_ok_iff.mpr ⟨named, movable.isPath, fun impossible => ?_, ?_⟩
  · exact absurd impossible Bool.false_ne_true
  · intro other found
    rw [movable.isFree] at found
    cases found

section Reconcile

variable {proposal : Proposal} {paths : MovePaths}

theorem reconcileFile_source (movable : Movable files entry dest)
    (isMove : movePaths proposal.id proposal.action = some paths)
    (isSource : entry.name = ⟨paths.sourceArea, paths.source⟩)
    (isDestination : dest = ⟨paths.destinationArea, paths.destination⟩) :
    reconcileFile env files proposal (fileStates env.sha256 files) = .ok .noEffect := by
  rw [reconcileFile_eq isMove isSource isDestination
    (recordedHash movable.wellNamed movable.mem) movable.sourcePath
    movable.isPath (not_isAmbiguous_of_same movable.found rfl)
    (not_isAmbiguous_of_absent movable.absent), movable.found, movable.isFree]
  exact if_neg (fun several => several movable.single)

theorem reconcileFile_linked (movable : Movable files entry dest)
    (isMove : movePaths proposal.id proposal.action = some paths)
    (isSource : entry.name = ⟨paths.sourceArea, paths.source⟩)
    (isDestination : dest = ⟨paths.destinationArea, paths.destination⟩) :
    reconcileFile env (files.link entry dest) proposal (fileStates env.sha256 files) =
        .ok (.rolledBack dest) := by
  have source : Files.entry? (files.link entry dest) entry.name = some entry := by
    rw [Files.entry?_link movable.isFree, if_neg movable.different.symm, movable.found]
  have target : Files.entry? (files.link entry dest) dest = some { entry with name := dest } := by
    rw [Files.entry?_link movable.isFree, if_pos rfl]
  have sourcePath : (files.link entry dest).isPath entry.name = true :=
    movable.sourcePath
  have destinationPath : (files.link entry dest).isPath dest =
      true :=
    movable.isPath
  have two : (files.link entry dest).linkCount entry = 2 := by
    rw [Files.linkCount_link, movable.single, if_pos rfl]
  rw [reconcileFile_eq isMove isSource isDestination
    (recordedHash movable.wellNamed movable.mem) sourcePath
    destinationPath (not_isAmbiguous_of_same source rfl)
    (not_isAmbiguous_of_same target rfl), source, target]
  have isRecorded : (paths.change (env.sha256 entry.content)).destinationName = dest :=
    isDestination.symm
  rw [← isRecorded]
  exact if_neg (not_or.mpr ⟨fun other => other rfl,
    fun other => other (by rw [isRecorded]; exact two)⟩)

theorem reconcileFile_moved (movable : Movable files entry dest)
    (isMove : movePaths proposal.id proposal.action = some paths)
    (isSource : entry.name = ⟨paths.sourceArea, paths.source⟩)
    (isDestination : dest = ⟨paths.destinationArea, paths.destination⟩) :
    reconcileFile env (files.move entry dest) proposal (fileStates env.sha256 files) =
        .ok (.completed
          { effect := .fileChange (paths.change (env.sha256 entry.content))
            proposalId := proposal.id
            replayed := false
            recovered := true }) := by
  have source : Files.entry? (files.move entry dest) entry.name = none := by
    rw [Files.entry?_move movable.isFree, if_pos rfl]
  have target : Files.entry? (files.move entry dest) dest = some { entry with name := dest } := by
    rw [Files.entry?_move movable.isFree, if_neg movable.different, if_pos rfl]
  have gone : (files.move entry dest).isPresent entry.name = false :=
    Files.not_isPresent source (movable.wellNamed.notDirectory entry movable.mem)
  have sourcePath : (files.move entry dest).isPath entry.name = true :=
    movable.sourcePath
  have destinationPath : (files.move entry dest).isPath dest =
      true :=
    movable.isPath
  have one : (files.move entry dest).linkCount
      { entry with name := dest } = 1 := by
    rw [movable.wellNamed.linkCount_move movable.mem movable.isFree]
    exact movable.single
  rw [reconcileFile_eq isMove isSource isDestination
    (recordedHash movable.wellNamed movable.mem) sourcePath
    destinationPath (not_isAmbiguous_of_absent gone)
    (not_isAmbiguous_of_same target rfl), source, target]
  exact if_neg (fun several => several one)

end Reconcile

theorem back (movable : Movable files entry dest) :
    Movable (files.move entry dest) { entry with name := dest } entry.name where
  wellNamed := movable.wellNamed.move movable.mem movable.absent
  readable := movable.readable.move movable.wellNamed movable.mem movable.isFree movable.isPath
  mem := by
    rw [Files.move_entries movable.different]
    exact List.mem_append_right _ (List.mem_singleton_self _)
  isPath := movable.sourcePath
  absent := Files.not_isPresent (by rw [Files.entry?_move movable.isFree, if_pos rfl])
    (movable.wellNamed.notDirectory entry movable.mem)

end Movable

end ModelAtlas.Assistant
