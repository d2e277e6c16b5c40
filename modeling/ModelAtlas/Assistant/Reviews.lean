import ModelAtlas.Assistant.Service

/-!
# Reviews

`services/personal_assistant/reviews.py` and `recovery.py`: a review binds an
approval to a saved revision of the user's fields, a restore undoes an executed
move, and a recovery finds out what an interrupted move has done.
-/

namespace ModelAtlas.Assistant

open Foundations

def reviewHash (env : AssistantEnvironment) (row : Review) : String :=
  env.contentDigest
    { id := row.id
      revision := row.revision
      fields := row.fields
      rawHash := env.rawDigest row.raw
      parentId := row.parentId }

structure ReviewBinding where
  reviewId : String
  revision : Nat
  contentHash : String

/-- `_binding`. -/
def boundReview (env : AssistantEnvironment) (store : Store)
    (binding : ReviewBinding) : Except AssistantError Review :=
  match store.reviews.find? binding.reviewId with
  | none => .error (.guard "review_not_found")
  | some row =>
    if row.revision ≠ binding.revision ∨ reviewHash env row ≠ binding.contentHash then
      .error (.guard "stale_review_revision")
    else .ok row

def proposalOf (store : Store) (row : Review) : Option Proposal :=
  row.proposalId.bind store.proposals.find?

def isCompleted (proposal : Option Proposal) : Bool :=
  proposal.any (fun row =>
    [.executed, .executing, .failed].contains row.status)

/-- `UPDATE proposals SET status='superseded'` for the proposal of a review. -/
def supersede (store : Store) (proposal : Option Proposal) : Store :=
  match proposal with
  | none => store
  | some row => store.setStatus row.id .superseded

def createReview (store : Store) (reviewId req raw : String)
    (initial : Json) : Except AssistantError Store :=
  let row : Review :=
    { id := reviewId
      request := req
      raw := raw
      initialFields := initial
      fields := initial
      revision := 1
      phase := .draft
      proposalId := none
      approvalToken := none
      parentId := none }
  if fresh : ∀ other ∈ store.reviews.rows, other.id ≠ reviewId then
    .ok { store with reviews := store.reviews.insert row fresh }
  else .error (.raised "IntegrityError")

def savedReview (fields : Json) (row : Review) : Review :=
  { row with
    fields := fields
    revision := row.revision + 1
    phase := .draft
    proposalId := none
    approvalToken := none }

def save (env : AssistantEnvironment) (store : Store)
    (binding : ReviewBinding) (fields : Json) : Except AssistantError Store :=
  if 16000 < env.canonicalLength fields then
    .error (.guard "review_fields_too_large")
  else
    match boundReview env store binding with
    | .error raised => .error raised
    | .ok row =>
      if row.parentId.isSome || isCompleted (proposalOf store row) then
        .error (.guard "completed_review_cannot_be_edited")
      else
        let superseded := supersede store (proposalOf store row)
        .ok { superseded with
          reviews := superseded.reviews.modify row.id (savedReview fields) (fun _ => rfl) }

def confirmedReview (draw : Draw) (row : Review) : Review :=
  { row with
    revision := row.revision + 1
    phase := .confirmed
    proposalId := some draw.proposalId
    approvalToken := some draw.token }

/-- The action that `confirm` derives from the fields of a row, with the state
it reads. -/
def confirmedAction (env : AssistantEnvironment) (store : Store)
    (row : Review) : Except AssistantError (WorkspaceState × Action) :=
  match validateIntent row.fields with
  | none => .error (.guard "invalid_review_fields")
  | some intent =>
    match workspaceState env store with
    | .error raised => .error raised
    | .ok state =>
      match compileAction env.toPlanningEnvironment intent state store.files with
      | .error raised => .error raised
      | .ok action => .ok (state, action)

def confirm (env : AssistantEnvironment) (store : Store)
    (binding : ReviewBinding) (draw : Draw) (now : Time) :
    Except AssistantError Store :=
  match boundReview env store binding with
  | .error raised => .error raised
  | .ok row =>
    if row.parentId.isSome then
      .error (.guard "restore_preview_already_created")
    else if isCompleted (proposalOf store row) then
      .error (.guard "completed_review_cannot_be_confirmed")
    else
      match confirmedAction env store row with
      | .error raised => .error raised
      | .ok (state, action) =>
        match preview env (supersede store (proposalOf store row)) draw action state now with
        | .error raised => .error raised
        | .ok previewed => .ok { previewed with
            reviews := previewed.reviews.modify row.id (confirmedReview draw) (fun _ => rfl)
            evidence := previewed.evidence ++ [⟨row.id, state.files⟩] }

def restoreReview (restoreId : String) (draw : Draw) (row : Review) : Review :=
  { id := restoreId
    request := "복구: " ++ row.request
    raw := row.raw
    initialFields := row.initialFields
    fields := row.fields
    revision := 1
    phase := .confirmed
    proposalId := some draw.proposalId
    approvalToken := some draw.token
    parentId := some row.id }

/-- The last transaction of `restore_preview`. -/
def storeRestore (env : AssistantEnvironment) (store : Store)
    (restoreId : String) (draw : Draw) (row : Review) :
    Except AssistantError Store :=
  if fresh : ∀ other ∈ store.reviews.rows, other.id ≠ restoreId then
    match workspaceState env store with
    | .error raised => .error raised
    | .ok state => .ok { store with
        reviews := store.reviews.insert (restoreReview restoreId draw row) fresh
        evidence := store.evidence ++ [⟨restoreId, state.files⟩] }
  else .error (.raised "IntegrityError")

/-- `_path`: a name that is refused only for its second link is taken. -/
def recoveryPath (files : Files) (relative : String) (area : Area) :
    Except AssistantError FileName :=
  match filePath files relative false area with
  | .error (.guard "hardlinked_file") => .ok ⟨area, relative⟩
  | result => result

inductive Recovery where
  /-- Both names are there: the destination is to be unlinked. -/
  | rolledBack (dest : FileName)
  | noEffect
  | completed (receipt : Receipt)

def isAmbiguous (env : AssistantEnvironment) (files : Files)
    (expected : String) (name : FileName) : Bool :=
  files.isPresent name && !(files.entry? name).any (fun entry =>
    env.sha256 entry.content = expected)

/-- `reconcile_file`, without its writes. -/
def reconcileFile (env : AssistantEnvironment) (files : Files)
    (proposal : Proposal) (beforeFiles : List FileState) :
    Except AssistantError Recovery :=
  match movePaths proposal.id proposal.action with
  | none => .error (.guard "file_recovery_only")
  | some paths =>
    match (beforeFiles.find? (fun state => state.path =
        (FileName.mk paths.sourceArea paths.source).text)).map FileState.sha256 with
    | none => .error (.guard "recovery_evidence_missing")
    | some expected =>
      match recoveryPath files paths.source paths.sourceArea,
          recoveryPath files paths.destination paths.destinationArea with
      | .error raised, _ => .error raised
      | .ok _, .error raised => .error raised
      | .ok src, .ok dst =>
        if isAmbiguous env files expected src || isAmbiguous env files expected dst then
          .error (.guard "recovery_state_ambiguous")
        else
          match files.entry? src, files.entry? dst with
          | some source, some dest =>
            if source.inode ≠ dest.inode ∨ files.linkCount source ≠ 2 then
              .error (.guard "recovery_state_ambiguous")
            else .ok (.rolledBack dst)
          | some source, none =>
            if files.linkCount source ≠ 1 then
              .error (.guard "recovery_state_ambiguous")
            else .ok .noEffect
          | none, some dest =>
            if files.linkCount dest ≠ 1 then
              .error (.guard "recovery_state_ambiguous")
            else .ok (.completed
              { effect := .fileChange
                  { source := paths.source
                    sourceArea := paths.sourceArea
                    destination := paths.destination
                    destinationArea := paths.destinationArea
                    sha256 := expected }
                proposalId := proposal.id
                replayed := false
                recovered := true })
          | none, none => .error (.guard "recovery_state_ambiguous")

/-- `_recover`, without its writes: the proposal and what is found of it. -/
def recover (env : AssistantEnvironment) (store : Store)
    (binding : ReviewBinding) : Except AssistantError (Proposal × Recovery) :=
  match boundReview env store binding with
  | .error raised => .error raised
  | .ok row =>
    match proposalOf store row with
    | none => .error (.guard "interrupted_file_operation_required")
    | some proposal =>
      if !([ProposalStatus.executing, .failed].contains proposal.status) then
        .error (.guard "interrupted_file_operation_required")
      else
        match (store.evidence.filter (fun event =>
          event.reviewId = row.id)).getLast? with
        | none => .error (.guard "recovery_evidence_missing")
        | some event =>
          match reconcileFile env store.files proposal event.beforeFiles with
          | .error raised => .error raised
          | .ok found => .ok (proposal, found)

end ModelAtlas.Assistant
