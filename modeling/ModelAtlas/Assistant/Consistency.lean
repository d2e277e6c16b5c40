import Mathlib.Logic.Equiv.List
import ModelAtlas.Assistant.Changes

/-!
# Consistency of the calendar and the tasks

Where the digest tells states apart, what was checked when a proposal was
compiled holds when it is executed.
-/

namespace ModelAtlas.Assistant

open Foundations

def Event.Apart (left right : Event) : Prop :=
  left.endAt.instant ≤ right.startAt.instant ∨ right.endAt.instant ≤ left.startAt.instant

structure Consistent (store : Store) : Prop where
  apart : ∀ left ∈ store.events, ∀ right ∈ store.events, left ≠ right →
    left.Apart right
  titles : ∀ left ∈ store.tasks, ∀ right ∈ store.tasks,
    left.status = .open → right.status = .open → left.title = right.title →
      left = right
  eventIds : (store.events.rows.map Event.eventId).Nodup
  taskIds : (store.tasks.rows.map Task.taskId).Nodup
  ids : ∀ event ∈ store.events, ∀ task ∈ store.tasks,
    event.eventId ≠ task.taskId

def Confirms (env : AssistantEnvironment) (proposalId : String)
    (intent : Intent) (world : World) (label : Label) : Prop :=
  (∃ fields rawPlan draw, label.step = .prepare fields rawPlan draw ∧
    draw.proposalId = proposalId ∧ validateIntent fields = some intent) ∨
  ∃ binding draw row, label.step = .confirm binding draw ∧ draw.proposalId = proposalId ∧
      boundReview env world.store binding = .ok row ∧ validateIntent row.fields = some intent

/-- The step confirms the intent of this event: it starts at the instant of the local time, to
the second, and lasts the requested minutes. -/
def AsksFor (env : AssistantEnvironment) (event : Event) (world : World) (label : Label) : Prop :=
  ∃ localStart sourceTimezone minutes start,
    Confirms env event.eventId (.calendarCreate event.title localStart
      sourceTimezone (some minutes)) world label ∧
    localInstant env.toPlanningEnvironment localStart sourceTimezone = .ok start ∧
    event.startAt.instant = start / second * second ∧
    event.endAt.instant = event.startAt.instant + minutes * minute

section States

variable {env : AssistantEnvironment} {store : Store}
  {state : WorkspaceState}

theorem mem_state_events (readState : workspaceState env store = .ok state)
    {event : Event} : event ∈ state.events ↔ event ∈ store.events := by
  rw [workspaceState] at readState
  split at readState
  · cases readState
  · rw [← Except.ok.inj readState]
    exact List.mem_insertionSort _

theorem mem_state_tasks (readState : workspaceState env store = .ok state)
    {task : Task} : task ∈ state.tasks ↔ task ∈ store.tasks := by
  rw [workspaceState] at readState
  split at readState
  · cases readState
  · rw [← Except.ok.inj readState]
    exact List.mem_insertionSort _

end States

def Compiles (env : AssistantEnvironment) (row : Proposal) (world : World) (label : Label) : Prop :=
  ∃ intent state, Confirms env row.id intent world label ∧ env.stateDigest state = row.fingerprint ∧
      compileAction env.toPlanningEnvironment intent state world.store.files = .ok row.action

/-- Every proposal was compiled, or restores a file; the events and the tasks
are those of their proposals. -/
structure WorkspaceSound (env : AssistantEnvironment) (files : Files)
    (labels : List Label) (world : World) : Prop where
  proposals : ∀ row ∈ world.store.proposals,
    Happened (stepsOf (World.next env)) (.initial files)
        (Compiles env row) labels ∨
      ∃ source sourceArea dest,
        row.action = .fileRestore source sourceArea dest
  events : ∀ event ∈ world.store.events, ∃ row ∈ world.store.proposals,
    row.id = event.eventId ∧
      row.action = .calendarCreate event.title event.startAt event.endAt
  tasks : ∀ task ∈ world.store.tasks, ∃ row ∈ world.store.proposals,
    row.id = task.taskId ∧
      row.action = .todoCreate task.title task.dueAt task.priority
  apart : ∀ left ∈ world.store.events, ∀ right ∈ world.store.events,
    left ≠ right → left.Apart right
  titles : ∀ left ∈ world.store.tasks, ∀ right ∈ world.store.tasks,
    left.status = .open → right.status = .open → left.title = right.title →
      left = right

section Preservation

variable {env : AssistantEnvironment} {files : Files}
  {labels : List Label} {world after : World} {label : Label}

theorem compiles_same {old new : Proposal} (same : SameProposal old new) {before : World}
    {step : Label} (compiles : Compiles env old before step) :
    Compiles env new before step := by
  obtain ⟨intent, state, confirms, fingerprint, compiled⟩ := compiles
  exact ⟨intent, state, same.id.symm ▸ confirms,
    fingerprint.trans same.fingerprint.symm, same.action.symm ▸ compiled⟩

theorem WorkspaceSound.source (sound : WorkspaceSound env files labels world) {old new : Proposal}
    (mem : old ∈ world.store.proposals) (same : SameProposal old new) :
    Happened (stepsOf (World.next env)) (.initial files) (Compiles env new) (labels ++ [label]) ∨
      ∃ source sourceArea dest, new.action = .fileRestore source sourceArea dest := by
  rcases sound.proposals old mem with happened | restores
  · exact Or.inl ((happened.later label).mono (fun _ _ compiles => compiles_same same compiles))
  · rw [same.action]
    exact Or.inr restores

theorem WorkspaceSound.kept (sound : WorkspaceSound env files labels
    world) (rows : Kept world.store after.store) :
    WorkspaceSound env files (labels ++ [label]) after := by
  obtain ⟨events, tasks, same⟩ := rows
  refine ⟨?_, ?_, ?_, ?_, ?_⟩
  · intro row mem
    obtain ⟨old, oldMem, sameRow⟩ := same.old row mem
    exact sound.source oldMem sameRow
  · intro event mem
    rw [events] at mem
    obtain ⟨row, rowMem, named, action⟩ := sound.events event mem
    obtain ⟨new, newMem, sameRow⟩ := same.kept row rowMem
    exact ⟨new, newMem, sameRow.id.trans named, sameRow.action.trans action⟩
  · intro task mem
    rw [tasks] at mem
    obtain ⟨row, rowMem, named, action⟩ := sound.tasks task mem
    obtain ⟨new, newMem, sameRow⟩ := same.kept row rowMem
    exact ⟨new, newMem, sameRow.id.trans named, sameRow.action.trans action⟩
  · rw [events]
    exact sound.apart
  · rw [tasks]
    exact sound.titles

theorem compiles_of_previews {draw : Draw} {action : Action} {state : WorkspaceState} {now : Time}
    (previews : Previews env world label draw action state) :
    Compiles env (previewRow env draw action state now) world label ∨
      ∃ source sourceArea dest, action = .fileRestore source sourceArea dest := by
  cases previews with
  | prepared step valid compiled =>
    exact Or.inl ⟨_, state, Or.inl ⟨_, _, draw, step, rfl, valid⟩, rfl, compiled⟩
  | confirmed step bound derived =>
    obtain ⟨intent, valid, _, compiled⟩ := confirmedAction_ok derived
    exact Or.inl ⟨intent, state, Or.inr ⟨_, draw, _, step, rfl, bound, valid⟩, rfl, compiled⟩
  | undone step phase undoes =>
    obtain ⟨_, _, _, _, _, change, _, restores⟩ := undoes
    exact Or.inr ⟨_, _, _, restores⟩

theorem WorkspaceSound.previewed (sound : WorkspaceSound env files labels world)
    (exec : Execution (stepsOf (World.next env)) (.initial files) labels world)
    (taken : stepsOf (World.next env) world label after) {draw : Draw}
    {action : Action} {state : WorkspaceState}
    (source : Previews env world label draw action state)
    (events : after.store.events = world.store.events)
    (tasks : after.store.tasks = world.store.tasks)
    (old : ∀ new ∈ after.store.proposals, (∃ row ∈ world.store.proposals, SameProposal row new) ∨
        new = previewRow env draw action state label.now)
    (kept : ∀ row ∈ world.store.proposals, ∃ new ∈ after.store.proposals, SameProposal row new) :
    WorkspaceSound env files (labels ++ [label]) after := by
  refine ⟨?_, ?_, ?_, ?_, ?_⟩
  · intro row mem
    rcases old row mem with ⟨before, beforeMem, sameRow⟩ | rfl
    · exact sound.source beforeMem sameRow
    · rcases compiles_of_previews source with compiles | restores
      · exact Or.inl (Happened.now exec taken compiles)
      · exact Or.inr restores
  · intro event mem
    rw [events] at mem
    obtain ⟨row, rowMem, named, isAction⟩ := sound.events event mem
    obtain ⟨new, newMem, sameRow⟩ := kept row rowMem
    exact ⟨new, newMem, sameRow.id.trans named, sameRow.action.trans isAction⟩
  · intro task mem
    rw [tasks] at mem
    obtain ⟨row, rowMem, named, isAction⟩ := sound.tasks task mem
    obtain ⟨new, newMem, sameRow⟩ := kept row rowMem
    exact ⟨new, newMem, sameRow.id.trans named, sameRow.action.trans isAction⟩
  · rw [events]
    exact sound.apart
  · rw [tasks]
    exact sound.titles

theorem WorkspaceSound.compiled (sound : WorkspaceSound env files labels world)
    (injective : Function.Injective env.stateDigest) {row : Proposal} {state : WorkspaceState}
    (mem : row ∈ world.store.proposals) (fingerprint : env.stateDigest state = row.fingerprint)
    (isRow : row.action.isFileTool = false) :
    ∃ intent compiledFiles, compileAction env.toPlanningEnvironment
      intent state compiledFiles = .ok row.action := by
  rcases sound.proposals row mem with happened | ⟨_, _, _, restores⟩
  · obtain ⟨_, _, _, before, _, _, _, _, intent, compiledState, _, digest, compiled⟩ := happened
    have same : compiledState = state :=
      injective (digest.trans fingerprint.symm)
    rw [same] at compiled
    exact ⟨intent, before.store.files, compiled⟩
  · rw [restores] at isRow
    cases isRow

theorem apart_insert (events : Event → Prop) {added : Event}
    (apart : ∀ left, events left → ∀ right, events right → left ≠ right →
      left.Apart right) (fresh : ∀ event, events event → added.Apart event)
    {left right : Event} (isLeft : events left ∨ left = added)
    (isRight : events right ∨ right = added) (different : left ≠ right) :
    left.Apart right := by
  rcases isLeft with oldLeft | rfl
  · rcases isRight with oldRight | rfl
    · exact apart left oldLeft right oldRight different
    · exact (fresh left oldLeft).symm
  · rcases isRight with oldRight | rfl
    · exact fresh right oldRight
    · exact absurd rfl different

theorem WorkspaceSound.executed (sound : WorkspaceSound env files labels
    world) (injective : Function.Injective env.stateDigest)
    {row : Proposal} {state : WorkspaceState} {middle : Store}
    {effect : Effect} (mem : row ∈ world.store.proposals)
    (readState : workspaceState env world.store = .ok state)
    (fingerprint : env.stateDigest state = row.fingerprint)
    (done : executeRow world.store row.id row.action = .ok (middle, effect))
    (recorded : after.store = middle.recordReceipt (executedReceipt row.id effect)) :
    WorkspaceSound env files (labels ++ [label]) after := by
  obtain ⟨sameProposals, _, cases⟩ := executeRow_cases done
  have same : SameProposals world.store after.store := by
    rw [recorded]
    exact (SameProposals.of_eq sameProposals).trans (sameProposals_recordReceipt ..)
  have events : after.store.events = middle.events := by rw [recorded]; rfl
  have tasks : after.store.tasks = middle.tasks := by rw [recorded]; rfl
  -- The proposals of the events and tasks that were there before.
  have oldEvents : ∀ event ∈ world.store.events,
      ∃ new ∈ after.store.proposals, new.id = event.eventId ∧
        new.action = .calendarCreate event.title event.startAt event.endAt := by
    intro event eventMem
    obtain ⟨old, oldMem, named, isAction⟩ := sound.events event eventMem
    obtain ⟨new, newMem, sameRow⟩ := same.kept old oldMem
    exact ⟨new, newMem, sameRow.id.trans named, sameRow.action.trans isAction⟩
  have oldTasks : ∀ task ∈ world.store.tasks, ∃ new ∈ after.store.proposals, new.id = task.taskId ∧
        new.action = .todoCreate task.title task.dueAt task.priority := by
    intro task taskMem
    obtain ⟨old, oldMem, named, isAction⟩ := sound.tasks task taskMem
    obtain ⟨new, newMem, sameRow⟩ := same.kept old oldMem
    exact ⟨new, newMem, sameRow.id.trans named, sameRow.action.trans isAction⟩
  obtain ⟨executedRow, executedMem, sameRow⟩ := same.kept row mem
  have proposals : ∀ new ∈ after.store.proposals,
      Happened (stepsOf (World.next env)) (.initial files) (Compiles env new) (labels ++ [label]) ∨
        ∃ source sourceArea dest, new.action = .fileRestore source sourceArea dest := by
    intro new newMem
    obtain ⟨old, oldMem, sameOld⟩ := same.old new newMem
    exact sound.source oldMem sameOld
  rcases cases with ⟨title, startAt, endAt, isAction, sameTasks, newEvents⟩ |
    ⟨title, dueAt, priority, isAction, sameEvents, newTasks⟩ |
    ⟨taskId, isAction, sameEvents, newTasks⟩
  · obtain ⟨intent, compiledFiles, compiled⟩ := sound.compiled injective mem
      fingerprint (by rw [isAction]; rfl)
    rw [isAction] at compiled
    obtain ⟨_, _, _, _, _, _, _, _, free⟩ := compileAction_calendar compiled
    refine ⟨proposals, ?_, ?_, ?_, ?_⟩
    · intro event eventMem
      rw [events, newEvents] at eventMem
      rcases eventMem with old | rfl
      · exact oldEvents event old
      · exact ⟨executedRow, executedMem, sameRow.id, sameRow.action.trans isAction⟩
    · rw [tasks, sameTasks]
      exact oldTasks
    · intro left leftMem right rightMem different
      rw [events, newEvents] at leftMem rightMem
      refine apart_insert (fun event => event ∈ world.store.events) sound.apart
        (fun event eventMem => ?_) leftMem rightMem different
      exact free event ((mem_state_events readState).mpr eventMem)
    · rw [tasks, sameTasks]
      exact sound.titles
  · obtain ⟨intent, compiledFiles, compiled⟩ := sound.compiled injective mem
      fingerprint (by rw [isAction]; rfl)
    rw [isAction] at compiled
    have free := compileAction_todo compiled
    refine ⟨proposals, ?_, ?_, ?_, ?_⟩
    · rw [events, sameEvents]
      exact oldEvents
    · intro task taskMem
      rw [tasks, newTasks] at taskMem
      rcases taskMem with old | rfl
      · exact oldTasks task old
      · exact ⟨executedRow, executedMem, sameRow.id, sameRow.action.trans isAction⟩
    · rw [events, sameEvents]
      exact sound.apart
    · intro left leftMem right rightMem leftOpen rightOpen sameTitle
      rw [tasks, newTasks] at leftMem rightMem
      rcases leftMem with oldLeft | rfl
      · rcases rightMem with oldRight | rfl
        · exact sound.titles left oldLeft right oldRight leftOpen rightOpen sameTitle
        · exact absurd sameTitle (free left ((mem_state_tasks readState).mpr oldLeft) leftOpen)
      · rcases rightMem with oldRight | rfl
        · exact absurd sameTitle.symm
            (free right ((mem_state_tasks readState).mpr oldRight) rightOpen)
        · rfl
  · refine ⟨proposals, ?_, ?_, ?_, ?_⟩
    · rw [events, sameEvents]
      exact oldEvents
    · intro task taskMem
      rw [tasks, newTasks] at taskMem
      rcases taskMem with ⟨old, oldMem, _, rfl⟩ | ⟨old, _⟩
      · exact oldTasks old oldMem
      · exact oldTasks task old
    · rw [events, sameEvents]
      exact sound.apart
    · intro left leftMem right rightMem leftOpen rightOpen sameTitle
      rw [tasks, newTasks] at leftMem rightMem
      rcases leftMem with ⟨_, _, _, rfl⟩ | ⟨oldLeft, _⟩
      · cases leftOpen
      · rcases rightMem with ⟨_, _, _, rfl⟩ | ⟨oldRight, _⟩
        · cases rightOpen
        · exact sound.titles left oldLeft right oldRight leftOpen rightOpen sameTitle

theorem WorkspaceSound.step (sound : WorkspaceSound env files labels
    world) (injective : Function.Injective env.stateDigest)
    (exec : Execution (stepsOf (World.next env)) (.initial files) labels world)
    (taken : stepsOf (World.next env) world label after) :
    WorkspaceSound env files (labels ++ [label]) after := by
  cases change_of_step taken with
  | kept rows =>
    exact sound.kept rows
  | previewed source readState events tasks old kept added =>
    exact sound.previewed exec taken source events tasks old kept
  | executed mem readState fingerprint done recorded =>
    exact sound.executed injective mem readState fingerprint done recorded

theorem complete_of_step (sound : WorkspaceSound env files labels world)
    (injective : Function.Injective env.stateDigest)
    (taken : stepsOf (World.next env) world label after) {task : Task}
    (mem : task ∈ world.store.tasks) (complete : task.status = .complete) :
    task ∈ after.store.tasks := by
  cases change_of_step taken with
  | kept rows =>
    rw [rows.tasks]
    exact mem
  | previewed source readState events tasks old kept added =>
    rw [tasks]
    exact mem
  | @executed row state middle effect rowMem readState fingerprint done recorded =>
      have tasks : after.store.tasks = middle.tasks := by rw [recorded]; rfl
      rw [tasks]
      rcases (executeRow_cases done).2.2 with ⟨_, _, _, _, sameTasks, _⟩ |
        ⟨_, _, _, _, _, newTasks⟩ | ⟨taskId, isAction, _, newTasks⟩
      · rw [sameTasks]
        exact mem
      · exact (newTasks task).mpr (Or.inl mem)
      · obtain ⟨intent, compiledFiles, compiled⟩ := sound.compiled injective
          rowMem fingerprint (by rw [isAction]; rfl)
        rw [isAction] at compiled
        obtain ⟨other, otherMem, named, isOpen⟩ :=
          compileAction_complete compiled
        refine (newTasks task).mpr (Or.inr ⟨mem, fun same => ?_⟩)
        have sameTask : other = task := Table.eq_of_key_eq
          ((mem_state_tasks readState).mp otherMem) mem (named.trans same.symm)
        rw [sameTask, complete] at isOpen
        cases isOpen

end Preservation

theorem asksFor_of_compiles {env : AssistantEnvironment}
    {event : Event} {row : Proposal} {world : World} {label : Label}
    (named : row.id = event.eventId)
    (isAction : row.action = .calendarCreate event.title event.startAt event.endAt)
    (compiles : Compiles env row world label) :
    AsksFor env event world label := by
  obtain ⟨intent, state, confirms, _, compiled⟩ := compiles
  rw [isAction] at compiled
  obtain ⟨localStart, sourceTimezone, minutes, start, rfl, resolved, startAt,
    endAt, _⟩ := compileAction_calendar compiled
  rw [named] at confirms
  refine ⟨localStart, sourceTimezone, minutes, start, confirms, resolved, ?_, ?_⟩
  · rw [startAt, instant_outputTime]
  · have whole : (minutes : Int) * minute = minutes * 60 * second := by
      rw [minute, Int.mul_assoc]
    rw [startAt, endAt, instant_outputTime, instant_outputTime, whole,
      Int.add_mul_ediv_right _ _ (by decide), Int.add_mul]

/-- From an empty calendar no events overlap, open tasks have different titles, ids are unique,
every event is at the confirmed time, and a completed task stays as it is. -/
theorem workspace_consistent (env : AssistantEnvironment)
    (injective : Function.Injective env.stateDigest) (files : Files) {labels : List Label}
    {world : World} (exec : Execution (stepsOf (World.next env)) (.initial files) labels world) :
    Consistent world.store ∧
    (∀ event ∈ world.store.events, Happened (stepsOf (World.next env)) (.initial files)
        (AsksFor env event) labels) ∧
    ∀ rest later, Execution (stepsOf (World.next env)) world rest
      later → ∀ task ∈ world.store.tasks, task.status = .complete → task ∈ later.store.tasks := by
  have start : WorkspaceSound env files [] (.initial files) :=
    ⟨fun _ mem => absurd mem (Table.not_mem_empty _),
      fun _ mem => absurd mem (Table.not_mem_empty _),
      fun _ mem => absurd mem (Table.not_mem_empty _),
      fun _ mem => absurd mem (Table.not_mem_empty _),
      fun _ mem => absurd mem (Table.not_mem_empty _)⟩
  have soundAlong : ∀ {labels : List Label} {world : World},
      Execution (stepsOf (World.next env)) (.initial files) labels
        world → WorkspaceSound env files labels world :=
    fun exec => exec.invariant_of_past (WorkspaceSound env files) start
      (fun _ _ _ _ past held taken => held.step injective past taken)
  have sound := soundAlong exec
  refine ⟨⟨sound.apart, sound.titles, world.store.events.keysNodup,
    world.store.tasks.keysNodup, ?_⟩, ?_, ?_⟩
  · intro event eventMem task taskMem same
    obtain ⟨row, rowMem, rowId, rowAction⟩ := sound.events event eventMem
    obtain ⟨other, otherMem, otherId, otherAction⟩ :=
      sound.tasks task taskMem
    have sameRow : row = other := Table.eq_of_key_eq rowMem otherMem
      (rowId.trans (same.trans otherId.symm))
    rw [sameRow, otherAction] at rowAction
    cases rowAction
  · intro event mem
    obtain ⟨row, rowMem, named, isAction⟩ := sound.events event mem
    rcases sound.proposals row rowMem with happened | ⟨_, _, _, restores⟩
    · exact happened.mono (fun _ _ compiles => asksFor_of_compiles named isAction compiles)
    · rw [isAction] at restores
      cases restores
  · intro rest later continued task mem complete
    obtain ⟨_, kept⟩ := continued.invariant_of_labels
      (fun rest later => Execution (stepsOf (World.next env))
        (.initial files) (labels ++ rest) later ∧ task ∈ later.store.tasks)
      ⟨by rw [List.append_nil]; exact exec, mem⟩
      (fun rest before label after held taken => by
        refine ⟨?_, complete_of_step (soundAlong held.1) injective taken held.2 complete⟩
        rw [← List.append_assoc]
        exact held.1.snoc taken)
    exact kept

def textCode (text : String) : List Nat :=
  text.toList.map Char.toNat

theorem textCode_injective : Function.Injective textCode := by
  intro left right same
  have chars : left.toList = right.toList :=
    List.map_injective_iff.mpr (fun _ _ equal => Char.toNat_inj.mp equal) same
  exact String.toList_inj.mp chars

def eventCode (event : Event) : (List Nat × List Nat) × (Int × Int) × Int × Int :=
  ((textCode event.eventId, textCode event.title), (event.startAt.wall, event.startAt.offset),
    event.endAt.wall, event.endAt.offset)

def priorityCode : TaskPriority → Nat
  | .low => 0
  | .normal => 1
  | .high => 2

def taskCode (task : Task) : (List Nat × List Nat) × Bool × Option (Int × Int) × Option Nat :=
  ((textCode task.taskId, textCode task.title), task.status = .open,
    task.dueAt.map (fun time => (time.wall, time.offset)),
    task.priority.map priorityCode)

def fileCode (file : FileState) : List Nat × List Nat × Nat :=
  (textCode file.path, textCode file.sha256, file.size)

theorem eventCode_injective : Function.Injective eventCode := by
  rintro ⟨id, title, ⟨_, _⟩, ⟨_, _⟩⟩ ⟨otherId, otherTitle, ⟨_, _⟩, ⟨_, _⟩⟩ same
  simp only [eventCode, Prod.mk.injEq] at same
  obtain ⟨⟨ids, titles⟩, ⟨rfl, rfl⟩, rfl, rfl⟩ := same
  rw [textCode_injective ids, textCode_injective titles]

theorem taskCode_injective : Function.Injective taskCode := by
  rintro ⟨id, title, status, dueAt, priority⟩
    ⟨otherId, otherTitle, otherStatus, otherDue, otherPriority⟩ same
  simp only [taskCode, Prod.mk.injEq] at same
  obtain ⟨⟨ids, titles⟩, statuses, dues, priorities⟩ := same
  have sameStatus : status = otherStatus := by
    cases status <;> cases otherStatus <;> first | rfl | cases statuses
  have sameDue : dueAt = otherDue :=
    Option.map_injective (fun left right equal => by
      cases left
      cases right
      obtain ⟨rfl, rfl⟩ := Prod.mk.inj equal
      rfl) dues
  have samePriority : priority = otherPriority :=
    Option.map_injective (fun left right equal => by
      cases left <;> cases right <;> first | rfl | cases equal) priorities
  rw [textCode_injective ids, textCode_injective titles, sameStatus, sameDue, samePriority]

theorem fileCode_injective : Function.Injective fileCode := by
  rintro ⟨path, sha256, size⟩ ⟨otherPath, otherSha256, otherSize⟩ same
  simp only [fileCode, Prod.mk.injEq] at same
  obtain ⟨paths, hashes, rfl⟩ := same
  rw [textCode_injective paths, textCode_injective hashes]

def stateText (state : WorkspaceState) : String :=
  String.ofList (List.replicate (Encodable.encode (state.events.map eventCode,
    state.tasks.map taskCode, state.files.map fileCode)) 'i')

theorem stateText_injective : Function.Injective stateText := by
  rintro ⟨events, tasks, files⟩ ⟨otherEvents, otherTasks, otherFiles⟩ same
  have lengths := congrArg (fun text => text.toList.length) same
  simp only [stateText, String.toList_ofList, List.length_replicate] at lengths
  have codes := Encodable.encode_injective lengths
  simp only [Prod.mk.injEq] at codes
  obtain ⟨sameEvents, sameTasks, sameFiles⟩ := codes
  rw [List.map_injective_iff.mpr eventCode_injective sameEvents,
    List.map_injective_iff.mpr taskCode_injective sameTasks,
    List.map_injective_iff.mpr fileCode_injective sameFiles]

def plainAssistant : AssistantEnvironment where
  fromIsoformat _ := some ⟨1500000, none⟩
  zoneInfo _ := some ⟨fun wall _ => wall - 32400 * second, fun instant => instant + 32400 * second⟩
  tokyoOffset _ := 32400
  sha256 text := text
  stateDigest := stateText
  actionDigest _ := "plan"
  tokenDigest token := token
  rawDigest raw := raw
  contentDigest content :=
    content.id ++ String.ofList (List.replicate content.revision 'i')
  canonicalLength _ := 0
  parsePlan _ := none

def meetingFields : Json := .obj
  [("operation", .str "calendar.create"), ("title", .str "meeting"),
    ("local_start", .str "1970-01-01T00:00:01.5"), ("duration_minutes", .int 30)]

def afterAssistantSteps (steps : List Step) : Option World :=
  perform (World.next plainAssistant) (.initial ⟨[], []⟩) (steps.map (fun step => ⟨step, 0⟩))

def meetingSteps : List Step :=
  [.create "review" "request" "raw" meetingFields,
    .confirm ⟨"review", 1, "reviewi"⟩ ⟨"proposal", "token"⟩,
    .approveReview 0 ⟨"review", 2, "reviewii"⟩ "plan", .approve 0]

theorem workspace_consistent_meeting :
    ∃ world : World, afterAssistantSteps meetingSteps = some world ∧
      world.store.events.rows = [⟨"proposal", "meeting", ⟨1, 32400⟩,
        ⟨1801, 32400⟩⟩] ∧
      Consistent world.store ∧
      ∀ event ∈ world.store.events,
        Happened (stepsOf (World.next plainAssistant)) (.initial ⟨[], []⟩)
          (AsksFor plainAssistant event)
          (meetingSteps.map (fun step => ⟨step, 0⟩)) := by
  set_option maxRecDepth 8000 in
  have performed : (afterAssistantSteps meetingSteps).any (fun world =>
      world.store.events.rows = [⟨"proposal", "meeting", ⟨1, 32400⟩,
        ⟨1801, 32400⟩⟩]) = true := by
    decide
  obtain ⟨world, reached, rows⟩ := (Option.any_eq_true _ _).mp performed
  have consistent := workspace_consistent plainAssistant stateText_injective
    ⟨[], []⟩ (Execution.of_perform reached)
  exact ⟨world, reached, of_decide_eq_true rows, consistent.1, consistent.2.1⟩

end ModelAtlas.Assistant
