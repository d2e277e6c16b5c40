import ModelAtlas.Assistant.Sandbox
import ModelAtlas.Foundations.Json
import ModelAtlas.Foundations.Table

/-!
# Confirmed intents and the actions compiled from them

`services/personal_assistant/contracts.py` and `planning.py`. Instants are
microseconds; a stored time is its wall clock in seconds and its offset. The
zone database and the parser of local times are taken as they come.
-/

namespace ModelAtlas.Assistant

open Foundations

def second : Time := 1000000

def minute : Time := 60 * second

/-- What `datetime.fromisoformat` reads: the wall clock in microseconds, and
the offset where the text has one. -/
structure ParsedTime where
  wall : Int
  offset : Option Int

/-- `ZoneInfo`: the instant of a wall clock with a `fold`, and the wall clock
of an instant. -/
structure Zone where
  toUtc : Int → Bool → Time
  toWall : Time → Int

structure IsoTime where
  (wall offset : Int)
  deriving DecidableEq, Repr

def IsoTime.instant (time : IsoTime) : Time :=
  (time.wall - time.offset) * second

/-- What planning takes from outside: the parser of local times, the zone database, the offset
of Tokyo in seconds, and SHA-256. -/
structure PlanningEnvironment where
  fromIsoformat : String → Option ParsedTime
  zoneInfo : String → Option Zone
  tokyoOffset : Time → Int
  sha256 : String → String

def localInstant (env : PlanningEnvironment) (value : Option String)
    (timezone : String) : Except AssistantError Time :=
  match value.filter (fun text => text ≠ "") with
  | none => .error (.guard "time_needs_clarification")
  | some text =>
    if !text.toList.contains 'T' then
      .error (.guard "invalid_local_time_or_timezone")
    else
      match env.fromIsoformat text, env.zoneInfo timezone with
      | some ⟨naive, none⟩, some zone =>
        match (([false, true].map (zone.toUtc naive)).filter
            (fun aware => zone.toWall aware = naive)).dedup with
        | [instant] => .ok instant
        | _ => .error (.guard "nonexistent_or_ambiguous_local_time")
      | _, _ => .error (.guard "invalid_local_time_or_timezone")

def outputTime (env : PlanningEnvironment) (instant : Time) : IsoTime where
  wall := (instant + env.tokyoOffset instant * second) / second
  offset := env.tokyoOffset instant

theorem instant_outputTime (env : PlanningEnvironment) (instant : Time) :
    (outputTime env instant).instant = instant / second * second := by
  have positive : second ≠ 0 := by decide
  rw [IsoTime.instant, outputTime]
  dsimp only
  rw [Int.add_mul_ediv_right _ _ positive, Int.add_sub_cancel]

structure Event where
  (eventId title : String)
  (startAt endAt : IsoTime)
  deriving DecidableEq, Repr

instance : Keyed Event String where
  key := Event.eventId

inductive TaskStatus where
  | open
  | complete
  deriving DecidableEq, Repr

inductive TaskPriority where
  | low
  | normal
  | high
  deriving DecidableEq, Repr

structure Task where
  (taskId title : String)
  status : TaskStatus
  dueAt : Option IsoTime
  priority : Option TaskPriority
  deriving DecidableEq, Repr

instance : Keyed Task String where
  key := Task.taskId

/-- What `AssistantService.state` reads: the rows are ordered by id. -/
structure WorkspaceState where
  events : List Event
  tasks : List Task
  files : List FileState
  deriving DecidableEq, Repr

/-! ## Intents -/

inductive Intent where
  | calendarCreate (title : String) (localStart : Option String)
      (sourceTimezone : String) (durationMinutes : Option Nat)
  | todoCreate (title : String) (localDue : Option String)
      (sourceTimezone : String) (priority : Option TaskPriority)
  | todoComplete (taskId title : Option String)
  | fileMove (source dest : String)
  | fileTrash (path : String)
  deriving DecidableEq, Repr

section Fields

/-- `extra="forbid"`. -/
def hasOnly (fields : Json) (names : List String) : Bool :=
  match fields with
  | .obj members => members.all (fun mem => names.contains mem.1)
  | _ => false

def textField (fields : Json) (name : String) : Option String :=
  match fields.get? name with
  | some (.str text) => some text
  | _ => none

def optionalTextField (fields : Json) (name : String) : Option (Option String) :=
  match fields.get? name with
  | none | some .null => some none
  | some (.str text) => some (some text)
  | some _ => none

def titleField (fields : Json) : Option String :=
  (textField fields "title").filter
    (fun title => 1 ≤ title.length && title.length ≤ 200)

/-- `source_timezone: str = "Asia/Tokyo"`. -/
def timezoneField (fields : Json) : Option String :=
  match fields.get? "source_timezone" with
  | none => some "Asia/Tokyo"
  | some (.str text) => some text
  | some _ => none

/-- `duration_minutes`: between 1 and 1440, where it is given. -/
def durationField (fields : Json) : Option (Option Nat) :=
  match fields.get? "duration_minutes" with
  | none | some .null => some none
  | some (.int minutes) =>
    if 1 ≤ minutes ∧ minutes ≤ 1440 then some (some minutes.toNat) else none
  | some _ => none

def priorityField (fields : Json) : Option (Option TaskPriority) :=
  match fields.get? "priority" with
  | none | some .null => some none
  | some (.str "low") => some (some .low)
  | some (.str "normal") => some (some .normal)
  | some (.str "high") => some (some .high)
  | some _ => none

def validateIntent (fields : Json) : Option Intent :=
  match fields.get? "operation" with
  | some (.str "calendar.create") =>
    if hasOnly fields ["operation", "title", "local_start",
        "source_timezone", "duration_minutes"] then do
      let title ← titleField fields
      let localStart ← optionalTextField fields "local_start"
      let sourceTimezone ← timezoneField fields
      let durationMinutes ← durationField fields
      return .calendarCreate title localStart sourceTimezone durationMinutes
    else none
  | some (.str "todo.create") =>
    if hasOnly fields ["operation", "title", "local_due",
        "source_timezone", "priority"] then do
      let title ← titleField fields
      let localDue ← optionalTextField fields "local_due"
      let sourceTimezone ← timezoneField fields
      let priority ← priorityField fields
      return .todoCreate title localDue sourceTimezone priority
    else none
  | some (.str "todo.complete") =>
    if hasOnly fields ["operation", "task_id", "title"] then do
      let taskId ← optionalTextField fields "task_id"
      let title ← optionalTextField fields "title"
      return .todoComplete taskId title
    else none
  | some (.str "files.move") =>
    if hasOnly fields ["operation", "source", "destination"] then do
      let source ← textField fields "source"
      let dest ← textField fields "destination"
      return .fileMove source dest
    else none
  | some (.str "files.trash") =>
    if hasOnly fields ["operation", "path"] then do
      let path ← textField fields "path"
      return .fileTrash path
    else none
  | _ => none

end Fields

inductive Action where
  | calendarCreate (title : String) (startAt endAt : IsoTime)
  | todoCreate (title : String) (dueAt : Option IsoTime)
      (priority : Option TaskPriority)
  | todoComplete (taskId : String)
  | fileMove (source dest : String)
  | fileTrash (path : String)
  | fileRestore (source : String) (sourceArea : Area) (dest : String)
  deriving DecidableEq, Repr

/-- `action["tool"].startswith("files.")`. -/
def Action.isFileTool : Action → Bool
  | fileMove .. | fileTrash _ | fileRestore .. => true
  | calendarCreate .. | todoCreate .. | todoComplete _ => false

def logicalRoot : String := "C:/AssistantSandbox"

def eventConflict (title : String) (start finish : Time) (event : Event) : Option AssistantError :=
  if event.title = title ∧ event.startAt.instant = start ∧ event.endAt.instant = finish then
    some (.guard "duplicate_event")
  else if start < event.endAt.instant ∧ event.startAt.instant < finish then
    some (.guard "calendar_conflict")
  else none

def givenText (text : Option String) : Option String :=
  text.filter (fun value => value ≠ "")

/-- The tasks that a `todo.complete` names. -/
def namedTasks (taskId title : Option String) (tasks : List Task) : List Task :=
  tasks.filter (fun task =>
    (givenText taskId).all (fun wanted => task.taskId = wanted) &&
      (givenText title).all (fun wanted => task.title = wanted))

def compileAction (env : PlanningEnvironment) (intent : Intent)
    (state : WorkspaceState) (files : Files) : Except AssistantError Action :=
  match intent with
  | .calendarCreate title localStart sourceTimezone durationMinutes =>
    match localInstant env localStart sourceTimezone with
    | .error raised => .error raised
    | .ok start =>
      match durationMinutes with
      | none => .error (.guard "duration_needs_clarification")
      | some minutes =>
        let finish := start + minutes * minute
        match state.events.findSome? (eventConflict title start finish) with
        | some raised => .error raised
        | none => .ok (.calendarCreate title (outputTime env start) (outputTime env finish))
  | .todoCreate title localDue sourceTimezone priority =>
    if state.tasks.any (fun task =>
        task.title = title && task.status = .open) then
      .error (.guard "duplicate_task")
    else
      match localDue with
      | none => .ok (.todoCreate title none priority)
      | some text =>
        match localInstant env (some text) sourceTimezone with
        | .error raised => .error raised
        | .ok due => .ok (.todoCreate title (some (outputTime env due)) priority)
  | .todoComplete taskId title =>
    if (givenText taskId).isNone ∧ (givenText title).isNone then
      .error (.guard "task_target_required")
    else
      match namedTasks taskId title state.tasks with
      | [task] =>
        if task.status ≠ .open then
          .error (.guard "task_already_complete")
        else .ok (.todoComplete task.taskId)
      | _ => .error (.guard "task_target_not_unique")
  | .fileMove source dest =>
    match checkMove files source dest .files with
    | .error raised => .error raised
    | .ok _ => .ok (.fileMove (logicalRoot ++ "/" ++ source)
        (logicalRoot ++ "/" ++ dest))
  | .fileTrash path =>
    match filePath files path true .files with
    | .error raised => .error raised
    | .ok _ => .ok (.fileTrash (logicalRoot ++ "/" ++ path))

section Compiled

variable {env : PlanningEnvironment} {intent : Intent}
  {state : WorkspaceState} {files : Files}

theorem instant_dvd (time : IsoTime) : second ∣ time.instant :=
  Dvd.intro_left _ rfl

theorem floor_le {earlier later : Time} (ordered : earlier ≤ later) :
    earlier / second * second ≤ later :=
  Int.le_trans (Int.ediv_mul_le earlier (by decide)) ordered

theorem le_floor {earlier later : Time} (whole : second ∣ earlier)
    (ordered : earlier ≤ later) : earlier ≤ later / second * second := by
  obtain ⟨seconds, rfl⟩ := whole
  have positive : (0 : Int) < second := by decide
  rw [Int.mul_comm] at ordered ⊢
  have below := (Int.le_ediv_iff_mul_le positive).mpr ordered
  exact Int.mul_le_mul_of_nonneg_right below (Int.le_of_lt positive)

def Intent.asksFor : Intent → Action → Bool
  | .calendarCreate .., .calendarCreate .. => true
  | .todoCreate .., .todoCreate .. => true
  | .todoComplete .., .todoComplete _ => true
  | .fileMove .., .fileMove .. => true
  | .fileTrash _, .fileTrash _ => true
  | _, _ => false

theorem asksFor_of_compileAction {action : Action}
    (compiled : compileAction env intent state files = .ok action) :
    intent.asksFor action = true := by
  cases intent <;> simp only [compileAction] at compiled
  all_goals repeat' split at compiled
  all_goals cases compiled
  all_goals rfl

theorem compileAction_calendar {title : String} {startAt endAt : IsoTime}
    (compiled : compileAction env intent state files = .ok (.calendarCreate title startAt endAt)) :
    ∃ localStart sourceTimezone minutes start,
      intent = .calendarCreate title localStart sourceTimezone (some minutes) ∧
      localInstant env localStart sourceTimezone = .ok start ∧
      startAt = outputTime env start ∧
      endAt = outputTime env (start + minutes * minute) ∧
      ∀ event ∈ state.events, endAt.instant ≤ event.startAt.instant ∨
        event.endAt.instant ≤ startAt.instant := by
  cases intent with
  | calendarCreate wanted localStart sourceTimezone durationMinutes =>
    simp only [compileAction] at compiled
    split at compiled
    · cases compiled
    · next start resolved =>
        split at compiled
        · cases compiled
        · next minutes =>
            split at compiled
            · cases compiled
            · next free =>
                obtain ⟨rfl, rfl, rfl⟩ :=
                  Action.calendarCreate.inj (Except.ok.inj compiled)
                refine ⟨localStart, sourceTimezone, minutes, start, rfl, resolved, rfl, rfl, ?_⟩
                intro event mem
                have noConflict :=
                  List.findSome?_eq_none_iff.mp free event mem
                rw [eventConflict] at noConflict
                split at noConflict
                · cases noConflict
                · split at noConflict
                  · cases noConflict
                  · next apart =>
                      rw [instant_outputTime, instant_outputTime]
                      by_cases before : start < event.endAt.instant
                      · left
                        have later : start + minutes * minute ≤
                            event.startAt.instant := by
                          by_contra notLater
                          exact apart ⟨before, Int.not_le.mp notLater⟩
                        exact floor_le later
                      · right
                        exact le_floor (instant_dvd event.endAt) (Int.not_lt.mp before)
  | todoCreate | todoComplete | fileMove | fileTrash =>
    exact absurd (asksFor_of_compileAction compiled) Bool.false_ne_true

theorem compileAction_todo {title : String} {dueAt : Option IsoTime}
    {priority : Option TaskPriority}
    (compiled : compileAction env intent state files = .ok (.todoCreate title dueAt priority)) :
    ∀ task ∈ state.tasks, task.status = .open → task.title ≠ title := by
  cases intent with
  | todoCreate wanted localDue sourceTimezone wantedPriority =>
    simp only [compileAction] at compiled
    split at compiled
    · cases compiled
    · next free =>
        have sameTitle : wanted = title := by
          split at compiled
          · exact (Action.todoCreate.inj (Except.ok.inj compiled)).1
          · split at compiled
            · cases compiled
            · exact (Action.todoCreate.inj (Except.ok.inj compiled)).1
        subst sameTitle
        intro task mem isOpen same
        refine free (List.any_eq_true.mpr ⟨task, mem, ?_⟩)
        rw [same, isOpen]
        simp
  | calendarCreate | todoComplete | fileMove | fileTrash =>
    exact absurd (asksFor_of_compileAction compiled) Bool.false_ne_true

theorem compileAction_complete {taskId : String} (compiled : compileAction env intent state files =
      .ok (.todoComplete taskId)) :
    ∃ task ∈ state.tasks, task.taskId = taskId ∧ task.status = .open := by
  cases intent with
  | todoComplete wanted title =>
    simp only [compileAction] at compiled
    split at compiled
    · cases compiled
    · split at compiled
      · next task named =>
          split at compiled
          · cases compiled
          · next isOpen =>
              have inNamed : task ∈ namedTasks wanted title state.tasks := by
                rw [named]
                exact List.mem_singleton_self task
              exact ⟨task, List.mem_of_mem_filter inNamed,
                Action.todoComplete.inj (Except.ok.inj compiled),
                Decidable.not_not.mp isOpen⟩
      · cases compiled
  | calendarCreate | todoCreate | fileMove | fileTrash =>
    exact absurd (asksFor_of_compileAction compiled) Bool.false_ne_true

end Compiled

end ModelAtlas.Assistant
