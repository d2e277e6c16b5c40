import ModelAtlas.Assistant.Planning

/-!
# Proposals

`services/personal_assistant/service.py`. Each definition is one transaction; a
file tool takes two, as the intent is committed before the files are touched.
-/

namespace ModelAtlas.Assistant

open Foundations

inductive ProposalStatus where
  | pending
  | executing
  | executed
  | failed
  | stale
  | cancelled
  | superseded
  deriving DecidableEq, Repr

def ProposalStatus.text : ProposalStatus → String
  | pending => "pending"
  | executing => "executing"
  | executed => "executed"
  | failed => "failed"
  | stale => "stale"
  | cancelled => "cancelled"
  | superseded => "superseded"

structure FileChange where
  source : String
  sourceArea : Area
  destination : String
  destinationArea : Area
  sha256 : String
  deriving DecidableEq, Repr

def FileChange.sourceName (change : FileChange) : FileName :=
  ⟨change.sourceArea, change.source⟩

def FileChange.destinationName (change : FileChange) : FileName :=
  ⟨change.destinationArea, change.destination⟩

inductive Effect where
  | event (event : Event)
  | task (task : Task)
  | fileChange (change : FileChange)
  deriving DecidableEq, Repr

/-- A receipt; `replayed` is set in the copy that a repeated approval
returns. -/
structure Receipt where
  effect : Effect
  proposalId : String
  (replayed recovered : Bool)
  deriving DecidableEq, Repr

structure Proposal where
  id : String
  action : Action
  (fingerprint tokenHash : String)
  expires : Time
  status : ProposalStatus
  receipt : Option Receipt

instance : Keyed Proposal String where
  key := Proposal.id

inductive ReviewPhase where
  | draft
  | confirmed
  deriving DecidableEq, Repr

structure Review where
  (id request raw : String)
  (initialFields fields : Json)
  revision : Nat
  phase : ReviewPhase
  (proposalId approvalToken parentId : Option String)

instance : Keyed Review String where
  key := Review.id

/-- `before_files` of a `user_confirmed` or `restore_preview` event. -/
structure ReviewEvidence where
  reviewId : String
  beforeFiles : List FileState

structure Store where
  events : Table Event
  tasks : Table Task
  proposals : Table Proposal
  reviews : Table Review
  evidence : List ReviewEvidence
  files : Files

structure ReviewContent where
  id : String
  revision : Nat
  fields : Json
  rawHash : String
  parentId : Option String

/-- What the services take from outside beside planning: the SHA-256 of canonical texts, the
length of such a text, and the parser of a plan. -/
structure AssistantEnvironment extends PlanningEnvironment where
  stateDigest : WorkspaceState → String
  actionDigest : Action → String
  (tokenDigest rawDigest : String → String)
  contentDigest : ReviewContent → String
  canonicalLength : Json → Nat
  parsePlan : String → Option Action

namespace Store

def initial (files : Files) : Store where
  events := ∅
  tasks := ∅
  proposals := ∅
  reviews := ∅
  evidence := []
  files := files

/-- `UPDATE proposals SET status=… WHERE id=…`. -/
def setStatus (store : Store) (proposalId : String) (status : ProposalStatus) :
    Store :=
  { store with
    proposals := store.proposals.modify proposalId
      (fun row => { row with status := status }) (fun _ => rfl) }

/-- `UPDATE proposals SET status='executed',receipt=… WHERE id=…`. -/
def recordReceipt (store : Store) (receipt : Receipt) : Store :=
  { store with
    proposals := store.proposals.modify receipt.proposalId
      (fun row => { row with status := .executed, receipt := some receipt })
      (fun _ => rfl) }

end Store

/-- `AssistantService.state`. -/
def workspaceState (env : AssistantEnvironment) (store : Store) :
    Except AssistantError WorkspaceState :=
  match filesSnapshot env.sha256 store.files with
  | .error raised => .error raised
  | .ok snapshot => .ok
      { events := store.events.rows.insertionSort (fun left right => left.eventId ≤ right.eventId)
        tasks := store.tasks.rows.insertionSort (fun left right => left.taskId ≤ right.taskId)
        files := snapshot }

structure Draw where
  (proposalId token : String)

/-- The row that `_preview` adds. -/
def previewRow (env : AssistantEnvironment) (draw : Draw)
    (action : Action) (state : WorkspaceState) (now : Time) : Proposal where
  id := draw.proposalId
  action := action
  fingerprint := env.stateDigest state
  tokenHash := env.tokenDigest draw.token
  expires := now + 300 * second
  status := .pending
  receipt := none

/-- `_preview`; the id is the primary key. -/
def preview (env : AssistantEnvironment) (store : Store) (draw : Draw)
    (action : Action) (state : WorkspaceState) (now : Time) :
    Except AssistantError Store :=
  if fresh : ∀ other ∈ store.proposals.rows, other.id ≠ draw.proposalId then
    .ok { store with
      proposals := store.proposals.insert (previewRow env draw action state now) fresh }
  else .error (.raised "IntegrityError")

def prepare (env : AssistantEnvironment) (store : Store)
    (confirmedFields : Json) (rawPlan : String) (draw : Draw) (now : Time) :
    Except AssistantError Store :=
  match validateIntent confirmedFields with
  | none => .error (.raised "ValidationError")
  | some intent =>
    match workspaceState env store with
    | .error raised => .error raised
    | .ok state =>
      match compileAction env.toPlanningEnvironment intent state store.files with
      | .error raised => .error raised
      | .ok required =>
        if env.parsePlan rawPlan ≠ some required then
          .error (.guard "plan_does_not_match_confirmed_fields")
        else preview env store draw required state now

def authorized (env : AssistantEnvironment) (store : Store)
    (proposalId token : String) : Except AssistantError Proposal :=
  match store.proposals.find? proposalId with
  | none => .error (.guard "invalid_approval_token")
  | some row =>
    if row.tokenHash = env.tokenDigest token then .ok row
    else .error (.guard "invalid_approval_token")

def cancel (env : AssistantEnvironment) (store : Store)
    (proposalId token : String) : Except AssistantError Store :=
  match authorized env store proposalId token with
  | .error raised => .error raised
  | .ok row =>
    if row.status ≠ .pending then .error (.guard "proposal_not_pending")
    else .ok (store.setStatus proposalId .cancelled)

structure MovePaths where
  source : String
  sourceArea : Area
  destination : String
  destinationArea : Area
  deriving DecidableEq, Repr

def movePaths (proposalId : String) : Action → Option MovePaths
  | .fileRestore source sourceArea dest =>
    some ⟨source, sourceArea, dest, .files⟩
  | .fileMove source dest => some
      ⟨pyDropStart (logicalRoot ++ "/") source, .files,
        pyDropStart (logicalRoot ++ "/") dest, .files⟩
  | .fileTrash path => some
      ⟨pyDropStart (logicalRoot ++ "/") path, .files, proposalId, .trash⟩
  | .calendarCreate .. | .todoCreate .. | .todoComplete _ => none

/-- What a file tool of `_execute` does up to `os.link`: the new files and the
change. -/
def linkMove (env : AssistantEnvironment) (files : Files)
    (paths : MovePaths) : Except AssistantError (Files × FileChange) :=
  match filePath files paths.source true paths.sourceArea with
  | .error raised => .error raised
  | .ok src =>
    match filePath files paths.destination false paths.destinationArea with
    | .error raised => .error raised
    | .ok dst =>
      if files.isPresent dst then .error (.guard "destination_exists")
      else
        match files.entry? src with
        | none => .error (.raised "FileNotFoundError")
        | some entry => .ok (files.link entry dst,
            { source := paths.source
              sourceArea := paths.sourceArea
              destination := paths.destination
              destinationArea := paths.destinationArea
              sha256 := env.sha256 entry.content })

/-- The tools of `_execute` that write the database. -/
def executeRow (store : Store) (proposalId : String) :
    Action → Except AssistantError (Store × Effect)
  | .calendarCreate title startAt endAt =>
    let value : Event := ⟨proposalId, title, startAt, endAt⟩
    if fresh : ∀ other ∈ store.events.rows, other.eventId ≠ proposalId then
      .ok ({ store with events := store.events.insert value fresh }, .event value)
    else .error (.raised "IntegrityError")
  | .todoCreate title dueAt priority =>
    let value : Task := ⟨proposalId, title, .open, dueAt, priority⟩
    if fresh : ∀ other ∈ store.tasks.rows, other.taskId ≠ proposalId then
      .ok ({ store with tasks := store.tasks.insert value fresh }, .task value)
    else .error (.raised "IntegrityError")
  | .todoComplete taskId =>
    match store.tasks.find? taskId with
    | none => .error (.guard "task_missing")
    | some row =>
      let value : Task := { row with status := .complete }
      .ok ({ store with
        tasks := store.tasks.modify taskId
          (fun task => { task with status := .complete }) (fun _ => rfl) },
        .task value)
  | .fileMove .. | .fileTrash _ | .fileRestore .. =>
    .error (.guard "unsupported_tool")

def executedReceipt (proposalId : String) (effect : Effect) : Receipt where
  effect := effect
  proposalId := proposalId
  replayed := false
  recovered := false

/-- How the first transaction of `approve` ends. -/
inductive Approval where
  | rejected (raised : AssistantError)
  | replayed (receipt : Receipt)
  | ended (store : Store)
  | executed (row : Proposal) (store : Store)
  /-- A file tool: committed as executing. -/
  | started (row : Proposal) (store : Store)

/-- A `GuardError` of `_execute` fails the proposal; another exception rolls
back. -/
def failedApproval (store : Store) (proposalId : String) : AssistantError → Approval
  | .guard _ => .ended (store.setStatus proposalId .failed)
  | .raised exception => .rejected (.raised exception)

def isStale (env : AssistantEnvironment) (store : Store)
    (row : Proposal) (now : Time) : Except AssistantError Bool :=
  if row.expires < now then .ok true
  else
    match workspaceState env store with
    | .error raised => .error raised
    | .ok state => .ok (env.stateDigest state ≠ row.fingerprint)

/-- The first transaction of `approve`. -/
def approve (env : AssistantEnvironment) (store : Store)
    (proposalId token planHash : String) (now : Time) : Approval :=
  match authorized env store proposalId token with
  | .error raised => .rejected raised
  | .ok row =>
    if env.actionDigest row.action ≠ planHash then
      .rejected (.guard "approval_plan_hash_mismatch")
    else if row.status = .executed then
      match row.receipt with
      | none => .rejected (.raised "TypeError")
      | some receipt => .replayed { receipt with replayed := true }
    else if row.status ≠ .pending then
      .rejected (.guard ("proposal_not_pending:" ++ row.status.text))
    else
      match isStale env store row now with
      | .error raised => .rejected raised
      | .ok true => .ended (store.setStatus proposalId .stale)
      | .ok false =>
        if row.action.isFileTool then
          .started row (store.setStatus proposalId .executing)
        else
          match executeRow store proposalId row.action with
          | .error raised => failedApproval store proposalId raised
          | .ok (effected, effect) => .executed row
              (effected.recordReceipt (executedReceipt proposalId effect))

/-- How the second transaction of a file tool's approval goes on. -/
inductive FileApproval where
  | rejected (raised : AssistantError)
  /-- Committed as stale or failed. -/
  | ended (store : Store)
  /-- The destination is linked, and nothing committed. -/
  | linked (files : Files) (change : FileChange)

/-- The second transaction of `approve` up to `os.link`. -/
def approveFile (env : AssistantEnvironment) (store : Store) (row : Proposal) : FileApproval :=
  match workspaceState env store with
  | .error raised => .rejected raised
  | .ok state =>
    if env.stateDigest state ≠ row.fingerprint then
      .ended (store.setStatus row.id .stale)
    else
      match movePaths row.id row.action with
      | none => .ended (store.setStatus row.id .failed)
      | some paths =>
        match linkMove env store.files paths with
        | .error _ => .ended (store.setStatus row.id .failed)
        | .ok (files, change) => .linked files change

/-- The tools that `prepare_undo` undoes. -/
def Action.isUndoable : Action → Bool
  | fileMove .. | fileTrash _ => true
  | calendarCreate .. | todoCreate .. | todoComplete _ | fileRestore .. => false

def prepareUndo (env : AssistantEnvironment) (store : Store)
    (proposalId : Option String) (draw : Draw) (now : Time) :
    Except AssistantError Store :=
  match proposalId.bind store.proposals.find? with
  | none => .error (.guard "no_executed_change")
  | some row =>
    if row.status ≠ .executed then .error (.guard "no_executed_change")
    else if !row.action.isUndoable then
      .error (.guard "undo_only_supported_for_file_changes")
    else
      match row.receipt.map Receipt.effect with
      | some (.fileChange change) =>
        match checkMove store.files change.destination change.source change.destinationArea with
        | .error raised => .error raised
        | .ok (src, _) =>
          if (store.files.entry? src).all (fun entry =>
              env.sha256 entry.content ≠ change.sha256) then
            .error (.guard "changed_file_cannot_be_undone")
          else
            match workspaceState env store with
            | .error raised => .error raised
            | .ok state => preview env store draw
                (.fileRestore change.destination change.destinationArea change.source) state now
      | _ => .error (.raised "KeyError")

end ModelAtlas.Assistant
