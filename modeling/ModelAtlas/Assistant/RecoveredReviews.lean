import ModelAtlas.Assistant.ConfirmedActions
import ModelAtlas.Assistant.CrashRecovery

/-!
# Recovered and restored moves

The faults of a previewed file tool are recovered from, and the restore of an
executed move leaves the files as they were.
-/

namespace ModelAtlas.Assistant

open Foundations

variable {text proposalId : String} {area : Area} {entry : FileEntry} {state : WorkspaceState}
  {action : Action} {store after : Store} {draw : Draw} {now : Time} {review : Review}
  {row : Proposal} {paths : MovePaths}

/-- `uuid.uuid4().hex`. -/
def isUuidHex (text : String) : Bool :=
  text.toList.length = 32 &&
    text.toList.all (fun char => "0123456789abcdef".toList.contains char)

def isPlainChar (char : Char) : Bool :=
  char ≠ '/' && char ≠ ' ' && char ≠ '.' && !isForbiddenChar char

theorem isPlainChar_of_hex {char : Char}
    (hex : "0123456789abcdef".toList.contains char = true) :
    isPlainChar char = true := by
  have plain : "0123456789abcdef".toList.all isPlainChar = true := by
    decide +kernel
  exact List.all_eq_true.mp plain char (List.contains_iff_mem.mp hex)

theorem length_reservedNames {name : String} (reserved : name ∈ reservedNames) :
    name.toList.length ≤ 4 := by
  have short : reservedNames.all (fun name => name.toList.length ≤ 4) = true := by
    decide +kernel
  simpa using List.all_eq_true.mp short name reserved

theorem isPlainChar_of_uuidHex (drawn : isUuidHex text = true)
    {char : Char} (mem : char ∈ text.toList) :
    char ≠ '/' ∧ char ≠ ' ' ∧ char ≠ '.' ∧ isForbiddenChar char = false := by
  rw [isUuidHex, Bool.and_eq_true] at drawn
  have plain := isPlainChar_of_hex (List.all_eq_true.mp drawn.2 char mem)
  simpa [isPlainChar, and_assoc] using plain

theorem pathParts_of_uuidHex (drawn : isUuidHex text = true) : pathParts text = [text] := by
  have whole : text.toList.splitOnP (fun char => char = '/') = [text.toList] :=
    List.splitOnP_eq_singleton (fun char mem => by
      simpa using (isPlainChar_of_uuidHex drawn mem).1)
  rw [pathParts, whole, List.map_singleton, String.ofList_toList]

theorem isValidPart_of_uuidHex (drawn : isUuidHex text = true) : isValidPart text = true := by
  have long : text.toList.length = 32 := by
    rw [isUuidHex, Bool.and_eq_true] at drawn
    simpa using drawn.1
  have plain : ∀ char ∈ text.toList, char ≠ '/' ∧ char ≠ ' ' ∧ char ≠ '.' ∧
      isForbiddenChar char = false :=
    fun char mem => isPlainChar_of_uuidHex drawn mem
  have named : ["", ".", ".."].contains text = false := by
    rw [← Bool.not_eq_true, List.contains_iff_mem]
    intro short
    simp only [List.mem_cons, List.not_mem_nil, or_false] at short
    rcases short with rfl | rfl | rfl <;> simp at long
  have ending : ∀ char, text.toList.getLast? = some char → char ≠ ' ' ∧ char ≠ '.' := by
    intro char last
    obtain ⟨-, notSpace, notDot, -⟩ := plain char (List.mem_of_getLast? last)
    exact ⟨notSpace, notDot⟩
  have allowed : text.toList.any isForbiddenChar = false := by
    rw [List.any_eq_false]
    intro char mem
    simp [(plain char mem).2.2.2]
  have unreserved : reservedNames.contains (String.ofList
      ((text.toList.takeWhile (fun char => char ≠ '.')).map Char.toUpper)) =
        false := by
    have whole : text.toList.takeWhile (fun char => char ≠ '.') = text.toList :=
      List.takeWhile_eq_self_iff.mpr (fun char mem => by
        simpa using (plain char mem).2.2.1)
    rw [whole]
    by_contra reserved
    have short := length_reservedNames (List.contains_iff_mem.mp (Bool.not_eq_false _ ▸ reserved))
    rw [String.toList_ofList, List.length_map, long] at short
    omega
  rw [isValidPart, named, allowed, unreserved]
  cases last : text.toList.getLast? with
  | none =>
    rfl
  | some char =>
    simp [ending char last]

theorem isPath_trash {files : Files} (drawn : isUuidHex proposalId = true) :
    files.isPath ⟨.trash, proposalId⟩ = true := by
  have notEmpty : proposalId ≠ "" := by
    rintro rfl
    exact absurd drawn (by decide)
  rw [Files.isPath, pathParts_of_uuidHex drawn]
  simp [notEmpty, isValidPart_of_uuidHex drawn, Files.hasParent]

section Checked

variable {files : Files}

theorem filePath_entry {relative : String} {name : FileName}
    (taken : filePath files relative true area = .ok name) :
    ∃ entry ∈ files.entries, entry.name = ⟨area, relative⟩ := by
  obtain ⟨rfl, -, isFile, -⟩ := filePath_ok_iff.mp taken
  obtain ⟨entry, found⟩ := Option.isSome_iff_exists.mp (isFile rfl)
  exact ⟨entry, Files.mem_of_entry found, Files.name_of_entry found⟩

theorem checkMove_movable (wellNamed : files.WellNamed)
    (readable : files.Readable) {source dest : String}
    {moved : FileName × FileName}
    (checked : checkMove files source dest area = .ok moved) :
    ∃ entry, entry.name = ⟨area, source⟩ ∧ Movable files entry ⟨.files, dest⟩ := by
  rw [checkMove] at checked
  cases sourcePath : filePath files source true area with
  | error raised =>
    rw [sourcePath] at checked
    cases checked
  | ok src =>
    rw [sourcePath] at checked
    dsimp only at checked
    obtain ⟨entry, mem, named⟩ := filePath_entry sourcePath
    cases destinationPath : filePath files dest false .files with
    | error raised =>
      rw [destinationPath] at checked
      cases checked
    | ok dst =>
      rw [destinationPath] at checked
      dsimp only at checked
      obtain ⟨rfl, isPath, -⟩ := filePath_ok_iff.mp destinationPath
      cases present : files.isPresent ⟨.files, dest⟩ with
      | true =>
        rw [present] at checked
        simp at checked
      | false =>
        exact ⟨entry, named, wellNamed, readable, mem, isPath, present⟩

theorem Movable.checkMove_eq {source dest : String} (movable : Movable files entry ⟨.files, dest⟩)
    (named : entry.name = ⟨area, source⟩) :
    checkMove files source dest area = .ok (entry.name, ⟨.files, dest⟩) := by
  rw [checkMove, movable.filePath_source named]
  dsimp only
  rw [movable.filePath_destination rfl]
  dsimp only
  rw [movable.absent]
  simp [movable.different.symm]

theorem compileAction_files {env : PlanningEnvironment} {intent : Intent}
    (compiled : compileAction env intent state files = .ok action)
    (isFileTool : action.isFileTool = true) :
    (∃ source dest moved,
      action = .fileMove (logicalRoot ++ "/" ++ source)
          (logicalRoot ++ "/" ++ dest) ∧
        checkMove files source dest .files = .ok moved) ∨
    ∃ path name, action = .fileTrash (logicalRoot ++ "/" ++ path) ∧
      filePath files path true .files = .ok name := by
  cases intent with
  | calendarCreate | todoCreate | todoComplete =>
    have asked := asksFor_of_compileAction compiled
    cases action with
    | calendarCreate | todoCreate | todoComplete =>
      exact absurd isFileTool Bool.false_ne_true
    | fileMove | fileTrash | fileRestore =>
      exact absurd asked Bool.false_ne_true
  | fileMove source dest =>
    rw [compileAction] at compiled
    cases checked : checkMove files source dest .files with
    | error raised =>
      rw [checked] at compiled
      cases compiled
    | ok moved =>
      rw [checked] at compiled
      exact .inl ⟨source, dest, moved, (Except.ok.inj compiled).symm, checked⟩
  | fileTrash path =>
    rw [compileAction] at compiled
    cases taken : filePath files path true .files with
    | error raised =>
      rw [taken] at compiled
      cases compiled
    | ok name =>
      rw [taken] at compiled
      exact .inr ⟨path, name, (Except.ok.inj compiled).symm, taken⟩

theorem pyDropStart_append (start text : String) : pyDropStart start (start ++ text) = text := by
  have isStart : start.toList.isPrefixOf (start ++ text).toList = true := by
    rw [String.toList_append]
    exact List.isPrefixOf_iff_prefix.mpr (List.prefix_append _ _)
  rw [pyDropStart, if_pos isStart, String.toList_append, List.drop_left, String.ofList_toList]

end Checked

/-! ## Reviews of file tools -/

inductive Previewed (env : AssistantEnvironment) :
    Store → Review → String → Prop
  | confirmed {before after : Store} {binding : ReviewBinding} {row : Review}
      {draw : Draw} {now : Time}
      (bound : boundReview env before binding = .ok row)
      (done : confirm env before binding draw now = .ok after) :
      Previewed env after (confirmedReview draw row) draw.proposalId
  | restored {before middle after : Store} {binding : ReviewBinding}
      {original : Review} {draw : Draw} {now : Time} {restoreId : String}
      (bound : boundReview env before binding = .ok original)
      (undone : prepareUndo env before original.proposalId draw now =
        .ok middle)
      (stored : storeRestore env middle restoreId draw original =
        .ok after) :
      Previewed env after (restoreReview restoreId draw original)
        draw.proposalId

structure Undisturbed (before after : Store) (review : Review)
    (proposalId : String) : Prop where
  files : after.files = before.files
  reviewed : after.reviews.find? review.id = before.reviews.find? review.id
  proposed : after.proposals.find? proposalId =
    before.proposals.find? proposalId
  evidence : after.evidence.filter (fun event => event.reviewId = review.id) =
    before.evidence.filter (fun event => event.reviewId = review.id)

structure Offered (env : AssistantEnvironment) (store : Store)
    (review : Review) (proposalId : String) (action : Action) : Prop where
  reviewed : store.reviews.find? review.id = some review
  proposed : review.proposalId = some proposalId
  stored : ∃ row, store.proposals.find? proposalId = some row ∧
    row.action = action
  recorded : ∃ states, filesSnapshot env.sha256 store.files =
      .ok states ∧
    (store.evidence.filter (fun event =>
      event.reviewId = review.id)).getLast? = some ⟨review.id, states⟩
  operable : store.files.WellNamed → store.files.Readable →
    isUuidHex proposalId = true →
    store.files.isPresent ⟨.trash, proposalId⟩ = false →
    action.isFileTool = true →
    ∃ paths entry, movePaths proposalId action = some paths ∧
      entry.name = paths.sourceName ∧
        Movable store.files entry paths.destinationName

section Previewed

variable {env : AssistantEnvironment}

theorem workspaceState_files (readState : workspaceState env store = .ok state) :
    filesSnapshot env.sha256 store.files = .ok state.files := by
  rw [workspaceState] at readState
  cases snapshot : filesSnapshot env.sha256 store.files with
  | error raised =>
    rw [snapshot] at readState
    cases readState
  | ok states =>
    rw [snapshot] at readState
    rw [← Except.ok.inj readState]

theorem preview_added (done : preview env store draw action state now = .ok after) :
    after.files = store.files ∧ after.proposals.find? draw.proposalId =
      some (previewRow env draw action state now) := by
  rw [preview] at done
  split at done
  · next fresh =>
      rw [← Except.ok.inj done]
      exact ⟨rfl, (Table.find?_insert _ _ fresh _).trans (if_pos rfl)⟩
  · cases done

theorem supersede_files (store : Store) (proposal : Option Proposal) :
    (supersede store proposal).files = store.files := by
  cases proposal with
  | none => rfl
  | some row => rfl

theorem getLast?_evidence (earlier : List ReviewEvidence) (event : ReviewEvidence) :
    ((earlier ++ [event]).filter (fun other =>
      other.reviewId = event.reviewId)).getLast? = some event := by
  rw [List.filter_append]
  simp

theorem compileAction_movable {intent : Intent} {files : Files}
    (compiled : compileAction env.toPlanningEnvironment intent state files = .ok action)
    (wellNamed : files.WellNamed) (readable : files.Readable)
    (drawn : isUuidHex proposalId = true)
    (unused : files.isPresent ⟨.trash, proposalId⟩ = false)
    (isFileTool : action.isFileTool = true) :
    ∃ paths entry, movePaths proposalId action = some paths ∧ entry.name = paths.sourceName ∧
        Movable files entry paths.destinationName := by
  rcases compileAction_files compiled isFileTool with
    ⟨source, dest, moved, rfl, checked⟩ | ⟨path, name, rfl, taken⟩
  · obtain ⟨entry, named, movable⟩ :=
      checkMove_movable wellNamed readable checked
    refine ⟨⟨source, .files, dest, .files⟩, entry, ?_, named, movable⟩
    rw [movePaths, pyDropStart_append, pyDropStart_append]
  · obtain ⟨entry, mem, named⟩ := filePath_entry taken
    refine ⟨⟨path, .files, proposalId, .trash⟩, entry, ?_, named, wellNamed,
      readable, mem, isPath_trash drawn, unused⟩
    rw [movePaths, pyDropStart_append]

theorem Offered.confirmed {before : Store} {binding : ReviewBinding} {row : Review}
    (bound : boundReview env before binding = .ok row)
    (done : confirm env before binding draw now = .ok after) :
    ∃ action, Offered env after (confirmedReview draw row) draw.proposalId action := by
  obtain ⟨found, action, state, previewed, foundBound, -, -, derived,
    isPreviewed, rfl⟩ := confirm_ok done
  obtain rfl : found = row := Except.ok.inj (foundBound.symm.trans bound)
  obtain ⟨intent, -, readState, compiled⟩ := confirmedAction_ok derived
  obtain ⟨-, -, reviews, -⟩ := preview_ok isPreviewed
  obtain ⟨files, added⟩ := preview_added isPreviewed
  rw [supersede_files] at files
  have stored : previewed.reviews.find? found.id = some found := by
    rw [reviews, reviews_supersede]
    exact Table.find?_eq_some_iff.mpr ⟨(boundReview_ok bound).1, rfl⟩
  refine ⟨action, ?_, rfl, ⟨_, added, rfl⟩, ⟨state.files, ?_, ?_⟩, ?_⟩
  · have modified := Table.find?_modify previewed.reviews found.id found.id
      (confirmedReview draw) (fun _ => rfl)
    rw [if_pos rfl, stored] at modified
    exact modified
  · change filesSnapshot env.sha256 previewed.files = _
    rw [files]
    exact workspaceState_files readState
  · exact getLast?_evidence previewed.evidence ⟨found.id, state.files⟩
  · intro wellNamed readable drawn unused isFileTool
    change previewed.files.WellNamed at wellNamed
    change previewed.files.Readable at readable
    change previewed.files.isPresent _ = _ at unused
    change ∃ paths entry, _ ∧ _ ∧ Movable previewed.files _ _
    rw [files] at wellNamed readable unused ⊢
    exact compileAction_movable compiled wellNamed readable drawn unused isFileTool

theorem Offered.restored {before middle : Store} {original : Review} {restoreId : String}
    (undone : prepareUndo env before original.proposalId draw now = .ok middle)
    (stored : storeRestore env middle restoreId draw original = .ok after) :
    ∃ action, Offered env after (restoreReview restoreId draw original) draw.proposalId action := by
  obtain ⟨_, -, -, -, -, change, moved, _, -, checked, -, previewed⟩ :=
    prepareUndo_change undone
  obtain ⟨files, added⟩ := preview_added previewed
  rw [storeRestore] at stored
  split at stored
  · next fresh =>
      cases readState : workspaceState env middle with
      | error raised =>
        rw [readState] at stored
        cases stored
      | ok state =>
        rw [readState] at stored
        rw [← Except.ok.inj stored]
        refine ⟨_, (Table.find?_insert _ _ fresh _).trans (if_pos rfl), rfl, ⟨_, added, rfl⟩,
          ⟨state.files, workspaceState_files readState,
            getLast?_evidence middle.evidence ⟨restoreId, state.files⟩⟩, ?_⟩
        intro wellNamed readable _ _ _
        change middle.files.WellNamed at wellNamed
        change middle.files.Readable at readable
        change ∃ paths entry, _ ∧ _ ∧ Movable middle.files _ _
        rw [files] at wellNamed readable ⊢
        obtain ⟨entry, named, movable⟩ :=
          checkMove_movable wellNamed readable checked
        exact ⟨_, entry, rfl, named, movable⟩
  · cases stored

theorem Previewed.offered (previewed : Previewed env store review proposalId) :
    ∃ action, Offered env store review proposalId action := by
  cases previewed with
  | confirmed bound done =>
    exact Offered.confirmed bound done
  | restored bound undone stored =>
    exact Offered.restored undone stored

theorem Previewed.started {previewed : Store} {token planHash : String}
    (op : Previewed env previewed review proposalId)
    (wellNamed : previewed.files.WellNamed)
    (drawn : isUuidHex proposalId = true)
    (unused : previewed.files.isPresent ⟨.trash, proposalId⟩ = false)
    (undisturbed : Undisturbed previewed store review proposalId)
    (approved : approve env store proposalId token planHash now = .started row after) :
    row.id = proposalId ∧ after.files = previewed.files ∧
      ∃ paths entry, Started env after review row paths entry := by
  obtain ⟨action, offered⟩ := op.offered
  obtain ⟨stored, rfl, isFileTool, rfl, fingerprint⟩ := approve_started approved
  obtain ⟨offeredRow, isOffered, rfl⟩ := offered.stored
  rw [← undisturbed.proposed, stored] at isOffered
  obtain rfl := Option.some.inj isOffered
  obtain ⟨states, snapshot, recorded⟩ := offered.recorded
  obtain ⟨readable, rfl⟩ := (filesSnapshot_ok_iff wellNamed).mp snapshot
  obtain ⟨paths, entry, isMove, isSource, movable⟩ :=
    offered.operable wellNamed readable drawn unused isFileTool
  refine ⟨rfl, undisturbed.files, paths, entry,
    { stored := find?_setStatus stored
      fingerprint := fingerprint
      isMove := isMove
      isSource := isSource
      movable := ?_
      reviewed := undisturbed.reviewed.trans offered.reviewed
      proposed := offered.proposed
      recorded := ?_ }⟩
  · change Movable store.files entry _
    rw [undisturbed.files]
    exact movable
  · change (store.evidence.filter _).getLast? = some ⟨review.id, fileStates env.sha256 store.files⟩
    rw [undisturbed.evidence, undisturbed.files]
    exact recorded

end Previewed

section Restores

variable {env : AssistantEnvironment}

theorem movePaths_undoable (isMove : movePaths proposalId action = some paths)
    (undoable : action.isUndoable = true) : paths.sourceArea = .files := by
  cases action with
  | fileMove source dest =>
    rw [← Option.some.inj isMove]
  | fileTrash path =>
    rw [← Option.some.inj isMove]
  | calendarCreate | todoCreate | todoComplete | fileRestore =>
    cases undoable

theorem prepareUndo_eq {later : Store} {executed : Proposal} {receipt : Receipt} (draw : Draw)
    (now : Time) (executing : Executing env store row paths entry)
    (undoable : row.action.isUndoable = true)
    (files : later.files = store.files.move entry paths.destinationName)
    (effect : receipt.effect = .fileChange (paths.change (env.sha256 entry.content)))
    (isExecuted : executed =
      { row with status := .executed, receipt := some receipt })
    (stored : later.proposals.find? row.id = some executed) :
    ∃ state, workspaceState env later = .ok state ∧ prepareUndo env later (some row.id) draw now =
        preview env later draw (.fileRestore paths.destination
          paths.destinationArea paths.source) state now := by
  subst isExecuted
  have isFiles := movePaths_undoable executing.isMove undoable
  have back := executing.movable.back
  have named : entry.name = ⟨.files, paths.source⟩ := by
    rw [executing.isSource, MovePaths.sourceName, isFiles]
  rw [← files] at back
  obtain ⟨state, readState⟩ : ∃ state, workspaceState env later = .ok state :=
    workspaceState_ok back.wellNamed back.readable
  refine ⟨state, readState, ?_⟩
  rw [named] at back
  have checked : checkMove later.files paths.destination paths.source paths.destinationArea =
        .ok (paths.destinationName, ⟨.files, paths.source⟩) :=
    back.checkMove_eq rfl
  have found : later.files.entry? paths.destinationName =
      some { entry with name := paths.destinationName } :=
    back.found
  rw [prepareUndo, Option.bind_some, stored]
  dsimp only
  rw [if_neg (fun other => other rfl), undoable, Bool.not_true,
    if_neg Bool.false_ne_true, Option.map_some, effect]
  dsimp only [MovePaths.change]
  rw [checked]
  dsimp only
  rw [found]
  simp [readState]

def ExecutedBy (env : AssistantEnvironment) (store : Store)
    (review : Review) (row : Proposal) (done : Store) : Prop :=
  done = moved env store row ∨ ∃ fault found, recover env (interrupted env store row fault)
        (bindingOf env review) = .ok found ∧
      done = recovered (interrupted env store row fault) found ∧
        (done.proposals.find? row.id).map Proposal.status = some .executed

/-- A preview of the restore is there, and its approval brings the snapshot
back, if nothing else writes the files. -/
def RestoresTo (env : AssistantEnvironment) (store : Store) (proposalId : String)
    (snapshot : Except AssistantError (List FileState)) : Prop :=
  ∀ draw now, (∀ other ∈ store.proposals, other.id ≠ draw.proposalId) → ∃ previewed,
      prepareUndo env store (some proposalId) draw now = .ok previewed ∧
      ∀ ready executing row token planHash later, ready.files = previewed.files →
        ready.proposals.find? draw.proposalId = previewed.proposals.find? draw.proposalId →
        approve env ready draw.proposalId token planHash later = .started row executing →
        ((moved env executing row).proposals.find?
            draw.proposalId).map Proposal.status = some .executed ∧
          filesSnapshot env.sha256 (moved env executing row).files = snapshot

theorem ExecutedBy.finished {done : Store} (started : Started env store review row paths entry)
    (executed : ExecutedBy env store review row done) :
    Finished env store row paths entry done := by
  rcases executed with rfl | ⟨fault, found, isFound, rfl, isExecuted⟩
  · exact started.moves
  · obtain ⟨other, otherFound, settled⟩ := started.recovers fault
    obtain rfl := Except.ok.inj (otherFound.symm.trans isFound)
    cases settled with
    | cancelled files stored =>
      rw [stored] at isExecuted
      cases isExecuted
    | executed finished =>
      exact finished

theorem Finished.restoresTo {done later : Store} (executing : Executing env store row paths entry)
    (finished : Finished env store row paths entry done) (undoable : row.action.isUndoable = true)
    (files : later.files = done.files)
    (stored : later.proposals.find? row.id = done.proposals.find? row.id) :
    RestoresTo env later row.id (filesSnapshot env.sha256 store.files) := by
  obtain ⟨isMoved, receipt, effect, isExecuted⟩ := finished
  rw [isMoved] at files
  rw [isExecuted] at stored
  intro draw now fresh
  obtain ⟨state, readState, undo⟩ := prepareUndo_eq draw now executing undoable
    files effect rfl stored
  obtain ⟨previewed, isPreviewed⟩ : ∃ previewed, preview env later draw
      (.fileRestore paths.destination paths.destinationArea paths.source) state
        now = .ok previewed := by
    unfold preview
    exact ⟨_, dif_pos fresh⟩
  refine ⟨previewed, undo.trans isPreviewed, ?_⟩
  intro ready restoring restoreRow token planHash time sameFiles sameRow approved
  obtain ⟨keptFiles, added⟩ := preview_added isPreviewed
  obtain ⟨isStored, named, -, rfl, fingerprint⟩ := approve_started approved
  have isAdded := isStored
  rw [sameRow, added] at isAdded
  obtain rfl := Option.some.inj isAdded
  have movable := executing.movable
  have isSource := executing.isSource
  have isFiles := movePaths_undoable executing.isMove undoable
  have back := movable.back
  have toSource : Movable (store.files.move entry paths.destinationName)
      { entry with name := paths.destinationName } paths.sourceName := by
    rw [← isSource]
    exact back
  have allFiles : ready.files = store.files.move entry paths.destinationName := by
    rw [sameFiles, keptFiles, files]
  have restoring : Executing env (ready.setStatus draw.proposalId .executing)
      (previewRow env draw (.fileRestore paths.destination
        paths.destinationArea paths.source) state now)
      ⟨paths.destination, paths.destinationArea, paths.source, .files⟩
      { entry with name := paths.destinationName } :=
    { stored := find?_setStatus isStored
      fingerprint := fingerprint
      isMove := rfl
      isSource := rfl
      movable := by
        change Movable ready.files _ ⟨.files, paths.source⟩
        rw [allFiles, ← isFiles]
        exact toSource }
  have restored := restoring.moves
  obtain ⟨_, -, isExecuted⟩ := restored.stored
  have sameEntries := movable.wellNamed.move_back movable.mem movable.isFree
  have snapshot : ∀ found : Files, found.WellNamed → found.Readable →
      filesSnapshot env.sha256 found = .ok (fileStates env.sha256 found) :=
    fun found wellNamed readable =>
      (filesSnapshot_ok_iff wellNamed).mpr ⟨readable, rfl⟩
  have finalFiles : (moved env (ready.setStatus draw.proposalId .executing) (previewRow env draw
        (.fileRestore paths.destination paths.destinationArea paths.source) state now)).files =
        (store.files.move entry paths.destinationName).move
          { entry with name := paths.destinationName } entry.name := by
    rw [restored.files, isSource, MovePaths.sourceName, isFiles]
    change ready.files.move _ _ = _
    rw [allFiles]
    rfl
  constructor
  · exact congrArg (Option.map Proposal.status) isExecuted
  · rw [finalFiles, snapshot _ back.back.wellNamed back.back.readable,
      snapshot _ movable.wellNamed movable.readable,
      fileStates_perm movable.wellNamed sameEntries]

end Restores

/-- Whatever fault stops the move, `recover` leaves the file at one of its names, and the
restore takes an executed move back. A UUID names no file yet. -/
theorem recover_keepsFile (env : AssistantEnvironment)
    {previewed store started : Store} {review : Review} {row : Proposal}
    {proposalId token planHash : String} {now : Time}
    (op : Previewed env previewed review proposalId)
    (wellNamed : previewed.files.WellNamed)
    (drawn : isUuidHex proposalId = true)
    (unused : previewed.files.isPresent ⟨.trash, proposalId⟩ = false)
    (undisturbed : Undisturbed previewed store review proposalId)
    (approved : approve env store proposalId token planHash now = .started row started) :
    ∃ paths entry, movePaths proposalId row.action = some paths ∧
      previewed.files.entry? paths.sourceName = some entry ∧
      (∀ fault, ∃ found, recover env (interrupted env started row fault)
            (bindingOf env review) = .ok found ∧
          OneName env previewed.files (recovered (interrupted env started row fault) found)
            paths.sourceName paths.destinationName entry proposalId) ∧
      (row.action.isUndoable = true → ∀ done later, ExecutedBy env started review row done →
          later.files = done.files →
          later.proposals.find? proposalId = done.proposals.find? proposalId →
            RestoresTo env later proposalId (filesSnapshot env.sha256 previewed.files)) := by
  obtain ⟨rfl, files, paths, entry, isStarted⟩ :=
    op.started wellNamed drawn unused undisturbed approved
  have isSource := isStarted.isSource
  have movable := isStarted.movable
  refine ⟨paths, entry, isStarted.isMove, ?_, ?_, ?_⟩
  · rw [← files, ← isSource]
    exact movable.found
  · intro fault
    obtain ⟨found, isFound, settled⟩ := isStarted.recovers fault
    rw [← files]
    exact ⟨found, isFound, settled.oneName isSource movable⟩
  · intro undoable done later executed sameFiles sameRow
    rw [← files]
    exact (executed.finished isStarted).restoresTo isStarted.toExecuting undoable sameFiles sameRow

def approvedMove : Option (Store × Store × Proposal) :=
  match createReview (.initial ⟨[], [⟨⟨.files, "a"⟩, 0, "content"⟩]⟩)
      "review" "request" "raw" moveFields with
  | .error _ => none
  | .ok created =>
    match confirm movingAssistant created ⟨"review", 1, "reviewi"⟩
        ⟨"0123456789abcdef0123456789abcdef", "token"⟩ 0 with
    | .error _ => none
    | .ok previewed =>
      match approve movingAssistant previewed
          "0123456789abcdef0123456789abcdef" "token" "move" 0 with
      | .started row started => some (previewed, started, row)
      | _ => none

theorem recover_keepsFile_move : ∃ (previewed started : Store) (row : Proposal) (review : Review)
        (paths : MovePaths) (entry : FileEntry),
      approvedMove = some (previewed, started, row) ∧
        previewed.files.entry? paths.sourceName = some entry ∧
        ∀ fault, ∃ found, recover movingAssistant (interrupted movingAssistant started row fault)
              (bindingOf movingAssistant review) = .ok found ∧
            OneName movingAssistant previewed.files
              (recovered (interrupted movingAssistant started row fault) found)
              paths.sourceName paths.destinationName entry
              "0123456789abcdef0123456789abcdef" := by
  set_option maxRecDepth 16000 in
  have performed : approvedMove.any (fun res =>
      res.1.files = ⟨[], [⟨⟨.files, "a"⟩, 0, "content"⟩]⟩) = true := by
    decide
  obtain ⟨⟨previewed, started, row⟩, isApproved, files⟩ :=
    (Option.any_eq_true _ _).mp performed
  have allFiles := of_decide_eq_true files
  have reached := isApproved
  rw [approvedMove] at reached
  split at reached
  · cases reached
  · split at reached
    · cases reached
    · next middle confirmed =>
        split at reached
        · next approved =>
            obtain ⟨rfl, rfl, rfl⟩ := by simpa using reached
            obtain ⟨original, _, _, _, bound, _⟩ := confirm_ok confirmed
            have wellNamed : middle.files.WellNamed := by
              rw [allFiles]
              exact ⟨by decide, by simp⟩
            obtain ⟨paths, entry, _, found, recovers, _⟩ :=
              recover_keepsFile movingAssistant (Previewed.confirmed bound confirmed) wellNamed
                (by decide +kernel) (by rw [allFiles]; decide)
                ⟨rfl, rfl, rfl, rfl⟩ approved
            exact ⟨_, _, _, _, paths, entry, isApproved, found, recovers⟩
        · cases reached

end ModelAtlas.Assistant
