import ModelAtlas.Assistant.RequestEvidence

/-!
# Decision certificates

`decision_evidence` of `personal_assistant/decision_evidence.py` for a creation
request, next to `compile_action` on the intent of the certified fields.  The
frames of the request that are no creation, and `command_shape`, are taken from
the grammar as they come.
-/

namespace ModelAtlas.Assistant

open Foundations

inductive RequestRole where
  | explainOnly
  | complete
  | file
  | conditional
  | create
  | unresolved
  deriving DecidableEq, Repr

inductive PlanDecision where
  | propose
  | clarify
  | refuse
  | noChange
  deriving DecidableEq, Repr

structure Certificate where
  grounded : Bool
  role : RequestRole
  decision : Option PlanDecision
  (reasonCode reason : Option String)
  needs : List String
  /-- `basis["fields"]` of a creation. -/
  fields : Option CreationFields

def certificate (role : RequestRole) (decision : PlanDecision) (code reason : String)
    (needs : List String) (fields : Option CreationFields) : Certificate :=
  ⟨true, role, some decision, some code, some reason, needs, fields⟩

/-- What a request is read from: its text, the zone and the time of the user,
and the public state. -/
structure PublicPayload where
  (request timezone : String)
  now : Time
  events : List Event
  tasks : List Task
  inventory : List String

/-- What the patterns of the frames find in a request. -/
structure RequestGrammar where
  /-- `EXPLAIN`, with the operation that the literals name. -/
  explained : String → Option String
  /-- The id of `COMPLETE_ID`. -/
  completion : String → Option String
  /-- The decision of `literal_file_command`: a refusal, or a proposal. -/
  fileCommand : String → List String → Option Bool
  /-- `CONDITIONAL` on the context. -/
  conditional : String → Bool
  scan : String → RequestScan
  /-- `command_shape`, for fields that have a title. -/
  commandShape : String → CreationFields → Option String

/-- The decision of `completion_role` on the tasks with the id. -/
def completionDecision (tasks : List Task) (taskId : String) : PlanDecision :=
  match tasks.filter (fun task => task.taskId = taskId) with
  | [task] => if task.status = .open then .propose else .noChange
  | _ => .clarify

def completionCertificate (tasks : List Task) (taskId : String) : Certificate :=
  match completionDecision tasks taskId with
  | .propose => certificate .complete .propose "open_task"
      "공개 목록에서 ID와 미완료 상태를 확인한 완료 처리 초안입니다. 승인 전에는 실행하지 않습니다."
      [] none
  | .noChange => certificate .complete .noChange "already_complete"
      "해당 ID의 할 일은 이미 완료 상태이므로 변경하지 않습니다." [] none
  | _ => certificate .complete .clarify "task_target_unresolved"
      "공개 목록에서 해당 ID의 유일한 미완료 대상을 확인할 수 없습니다. 대상을 확인해 주세요."
      ["task_id"] none

def fileCertificate (blocked : Bool) : Certificate :=
  if blocked then
    certificate .file .refuse "forbidden_path"
      "요청한 작업 대상 경로가 허용 정책에 맞지 않아 거절합니다. 파일은 변경하지 않습니다."
      [] none
  else
    certificate .file .propose "file_draft"
      "공개 파일 목록을 기준으로 만든 파일 작업 초안입니다. 승인 시 경로와 상태를 다시 검사합니다."
      [] none

/-! ## Creations -/

/-- `LABELS`. -/
def fieldLabel : String → String
  | "priority" => "우선순위"
  | "source_timezone" => "시간대"
  | "local_due" => "마감 시각"
  | "local_start" => "시작 시각"
  | _ => "일정 길이"

def ambiguousFields (kind : CreationKind) (fields : CreationFields) : List String :=
  let zone := (fields.sourceTimezone.mode, "source_timezone")
  let required := match kind with
    | .todo => [zone, (fields.localTime.mode, "local_due"),
        (fields.priority.mode, "priority")]
    | .calendar => [zone, (fields.localTime.mode, "local_start"),
        (fields.durationMinutes.mode, "duration_minutes")]
  (required.filter (fun field => field.1 = .ambiguous)).map Prod.snd

def priorityText : TaskPriority → String
  | .low => "low"
  | .normal => "normal"
  | .high => "high"

def creationReason (kind : CreationKind) (fields : CreationFields) : String :=
  let time := fields.localTime.value.getD "None"
  let zone := fields.sourceTimezone.value.getD "None"
  let timezone :=
    if fields.sourceTimezone.mode = .default then
      "사용자 기본 시간대 " ++ zone ++ "를 적용합니다."
    else "요청에 지정된 시간대 " ++ zone ++ "를 적용합니다."
  let details := match kind with
    | .todo =>
      (if fields.localTime.mode = .specified then
        "마감은 " ++ time ++ "입니다." else "마감은 생략합니다.") ++
      (if fields.priority.mode = .specified then
        "우선순위는 요청한 " ++ (fields.priority.value.map priorityText).getD
          "None" ++ "입니다." else "우선순위는 생략합니다.")
    | .calendar =>
      "시작은 " ++ time ++ ", 길이는 " ++
        (fields.durationMinutes.value.map toString).getD "None" ++ "분입니다."
  (if kind = .todo then "할 일" else "일정") ++ " 추가 초안입니다. " ++ details ++
    " " ++ timezone ++ " 승인 전에는 실행하지 않습니다."

def hasOpenTask (tasks : List Task) (title : String) : Bool :=
  tasks.any (fun task => task.title = title && task.status = .open)

def overlapsEvent (events : List Event) (start finish : Time) : Bool :=
  events.any (fun event =>
    start < event.endAt.instant && event.startAt.instant < finish)

def finishTime (start : Time) (minutes : Nat) : Except AssistantError Time :=
  if InRange (start + minutes * minute) then .ok (start + minutes * minute)
  else .error overflow

def calendarCertificate (env : PlanningEnvironment)
    (events : List Event) (fields : CreationFields) :
    Except AssistantError Certificate :=
  match resolveLocalInstant env fields.localTime.value
      (fields.sourceTimezone.value.getD "") with
  | .error (.guard _) => .ok (certificate .create .clarify "ambiguous_instant"
      "해당 시간대에서 현지 시각을 하나의 시점으로 확정할 수 없습니다. 시각을 확인해 주세요."
      ["local_start"] (some fields))
  | .error raised => .error raised
  | .ok start => do
    let finish ← finishTime start (fields.durationMinutes.value.getD 0)
    if overlapsEvent events start finish then
      return certificate .create .clarify "calendar_conflict"
        "공개 일정과 시간이 겹칩니다. 시작 시각을 확인해 주세요." ["local_start"]
        (some fields)
    else
      return certificate .create .propose "complete_creation"
        (creationReason .calendar fields) [] (some fields)

def todoCertificate (tasks : List Task) (title : String) (fields : CreationFields) : Certificate :=
  if hasOpenTask tasks title then
    certificate .create .clarify "duplicate_task"
      "동일 제목의 미완료 할 일이 있습니다. 기존 항목과의 중복 여부를 확인해 주세요." []
      (some fields)
  else
    certificate .create .propose "complete_creation"
      (creationReason .todo fields) [] (some fields)

def creationCertificate (env : PlanningEnvironment) (input : PublicPayload) (kind : CreationKind)
    (title : String) (fields : CreationFields) : Except AssistantError Certificate :=
  let needs := ambiguousFields kind fields
  if needs ≠ [] then
    .ok (certificate .create .clarify "field_confirmation"
      ("확인이 필요한 항목은 " ++ ", ".intercalate (needs.map fieldLabel) ++
        "입니다. 해당 항목의 값이나 상충하는 지시를 확인해 주세요.") needs
      (some fields))
  else
    match kind with
    | .todo => .ok (todoCertificate input.tasks title fields)
    | .calendar => calendarCertificate env input.events fields

def conditionalCertificate : Certificate :=
  { certificate .conditional .clarify "unsupported_condition"
      "요청의 실행 조건을 현재 지원 범위에서 확인할 수 없습니다. 조건과 실행 여부를 확인해 주세요."
      [] none with
    grounded := false }

/-- No supported or complete command. -/
def unresolvedCertificate : Certificate :=
  ⟨false, .unresolved, none, none, none, [], none⟩

def decisionEvidence (env : PlanningEnvironment)
    (grammar : RequestGrammar) (input : PublicPayload) :
    Except AssistantError Certificate :=
  match grammar.explained input.request with
  | some op => .ok (certificate .explainOnly .noChange "explanation_only"
      ("문서에 적힌 " ++ op ++ " 지시를 설명하는 요청입니다. " ++
        "실행 요청이 아니므로 변경하지 않습니다.") [] none)
  | none =>
    match grammar.completion input.request with
    | some taskId => .ok (completionCertificate input.tasks taskId)
    | none =>
      match grammar.fileCommand input.request input.inventory with
      | some blocked => .ok (fileCertificate blocked)
      | none => do
        let fields ← creationEvidence env input.now input.timezone (grammar.scan input.request)
        match fields.operation, fields.title with
        | some kind, title =>
          if grammar.conditional input.request then
            return conditionalCertificate
          else
            match title, grammar.commandShape input.request fields with
            | some title, some _ =>
              creationCertificate env input kind title fields
            | _, _ => return unresolvedCertificate
        | none, _ => return unresolvedCertificate

/-! ## The compiler -/

/-- `output_time`, unless the time in Tokyo leaves the range. -/
def storedTime (env : PlanningEnvironment) (instant : Time) : Except AssistantError IsoTime :=
  if InRange (instant + env.tokyoOffset instant * second) then
    .ok (outputTime env instant)
  else .error overflow

/-- `compile_action`, with the range of a `datetime`. -/
def compileCreation (env : PlanningEnvironment) (intent : Intent)
    (state : WorkspaceState) (files : Files) : Except AssistantError Action :=
  match intent with
  | .calendarCreate title localStart sourceTimezone durationMinutes => do
    let start ← resolveLocalInstant env localStart sourceTimezone
    match durationMinutes with
    | none => .error (.guard "duration_needs_clarification")
    | some minutes =>
      let finish ← finishTime start minutes
      match state.events.findSome? (eventConflict title start finish) with
      | some raised => .error raised
      | none =>
        let startAt ← storedTime env start
        let endAt ← storedTime env finish
        return .calendarCreate title startAt endAt
  | .todoCreate title localDue sourceTimezone priority =>
    if hasOpenTask state.tasks title then .error (.guard "duplicate_task")
    else
      match localDue with
      | none => .ok (.todoCreate title none priority)
      | some text => do
        let due ← resolveLocalInstant env (some text) sourceTimezone
        let dueAt ← storedTime env due
        return .todoCreate title (some dueAt) priority
  | other => compileAction env other state files

def certifiedFields (kind : CreationKind) (title : String) (fields : CreationFields) : Json :=
  let zone := ("source_timezone", Json.optionText fields.sourceTimezone.value)
  match kind with
  | .todo => .obj [("operation", .str "todo.create"), ("title", .str title),
      ("local_due", Json.optionText fields.localTime.value), zone,
      ("priority", Json.optionText (fields.priority.value.map priorityText))]
  | .calendar => .obj [("operation", .str "calendar.create"),
      ("title", .str title), ("local_start", Json.optionText fields.localTime.value),
      zone, ("duration_minutes",
        (fields.durationMinutes.value.map (fun minutes => Json.int minutes)).getD .null)]

def certifiedIntent (kind : CreationKind) (title : String)
    (fields : CreationFields) : Option Intent :=
  validateIntent (certifiedFields kind title fields)

section Intents

variable {title zone : String} {fields : CreationFields}

theorem optionalTextField_optionText {json : Json} {name : String} {value : Option String}
    (mem : json.get? name = some (Json.optionText value)) :
    optionalTextField json name = some value := by
  rw [optionalTextField, mem]
  cases value with
  | none => rfl
  | some text => rfl

theorem priorityField_optionText {json : Json} {value : Option TaskPriority}
    (mem : json.get? "priority" =
      some (Json.optionText (value.map priorityText))) :
    priorityField json = some value := by
  rw [priorityField, mem]
  cases value with
  | none => rfl
  | some priority =>
    cases priority with
    | low => rfl
    | normal => rfl
    | high => rfl

theorem titleField_str {json : Json} (fits : 0 < title.length ∧ title.length ≤ 200)
    (mem : json.get? "title" = some (.str title)) :
    titleField json = some title := by
  have nonempty : 1 ≤ title.length := fits.1
  rw [titleField, textField, mem]
  simp [Option.filter, nonempty, fits.2]

theorem certifiedIntent_todo (fits : 0 < title.length ∧ title.length ≤ 200)
    (zoned : fields.sourceTimezone.value = some zone) :
    certifiedIntent .todo title fields = some (.todoCreate title fields.localTime.value zone
        fields.priority.value) := by
  have isTitle := @titleField_str title (certifiedFields .todo title fields) fits
    rfl
  have isDue := @optionalTextField_optionText (certifiedFields .todo title fields)
    "local_due" fields.localTime.value rfl
  have isZone : timezoneField (certifiedFields .todo title fields) = some zone := by
    rw [certifiedFields, zoned]
    rfl
  have isPriority := @priorityField_optionText
    (certifiedFields .todo title fields) fields.priority.value rfl
  have known : hasOnly (certifiedFields .todo title fields)
      ["operation", "title", "local_due", "source_timezone", "priority"] := by
    rfl
  have isTodo : (certifiedFields .todo title fields).get? "operation" =
      some (.str "todo.create") := by
    rfl
  rw [certifiedIntent, validateIntent, isTodo]
  rw [if_pos known, isTitle, isDue, isZone, isPriority]
  rfl

theorem certifiedIntent_calendar {minutes : Nat} (fits : 0 < title.length ∧ title.length ≤ 200)
    (zoned : fields.sourceTimezone.value = some zone)
    (lasts : fields.durationMinutes.value = some minutes) (allowed : 1 ≤ minutes ∧ minutes ≤ 1440) :
    certifiedIntent .calendar title fields = some (.calendarCreate title fields.localTime.value zone
        (some minutes)) := by
  have isTitle := @titleField_str title (certifiedFields .calendar title fields) fits rfl
  have isStart := @optionalTextField_optionText
    (certifiedFields .calendar title fields) "local_start"
    fields.localTime.value rfl
  have isZone : timezoneField (certifiedFields .calendar title fields) = some zone := by
    rw [certifiedFields, zoned]
    rfl
  have isDuration : durationField (certifiedFields .calendar title fields) =
      some (some minutes) := by
    have inBounds : (1 : Int) ≤ minutes ∧ (minutes : Int) ≤ 1440 := by omega
    have mem : (certifiedFields .calendar title fields).get?
        "duration_minutes" = some (.int minutes) := by
      rw [certifiedFields, lasts]
      rfl
    rw [durationField, mem]
    dsimp only
    rw [if_pos inBounds, Int.toNat_natCast]
  have known : hasOnly (certifiedFields .calendar title fields)
      ["operation", "title", "local_start", "source_timezone",
        "duration_minutes"] := by
    rfl
  have isCalendar : (certifiedFields .calendar title fields).get? "operation" =
      some (.str "calendar.create") := by
    rfl
  rw [certifiedIntent, validateIntent, isCalendar]
  rw [if_pos known, isTitle, isStart, isZone, isDuration]
  rfl

end Intents

end ModelAtlas.Assistant
