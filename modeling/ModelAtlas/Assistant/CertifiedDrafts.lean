import ModelAtlas.Assistant.DecisionEvidence
import ModelAtlas.Foundations.Outcomes

/-!
# Certificates and drafts

The certificate of a creation and `compile_action` on the intent of its fields:
where both settle the same question, and where the compiler asks one that the
certificate does not.
-/

namespace ModelAtlas.Assistant

open Foundations

variable {finish : Time} {intent : Intent} {code reason : String} {needs : List String}

/-- The local time is that of one instant of the zone, and its conversions stay
in the range. -/
def NamesInstant (env : CalendarEnvironment) (value : Option String)
    (timezone : String) (instant : Time) : Prop :=
  ∃ naive rules, IsLocalTime env value timezone naive rules ∧ StaysInRange rules.zone naive ∧
    ∀ other, rules.Shows other naive ↔ other = instant

def HasStoredTime (env : PlanningEnvironment) (instant : Time) : Prop :=
  InRange (instant + env.tokyoOffset instant * second)

section Instants

variable {env : CalendarEnvironment} {value : Option String}
  {timezone : String} {instant : Time}

theorem resolveLocalInstant_eq_ok : resolveLocalInstant env.toPlanningEnvironment value timezone =
      .ok instant ↔ NamesInstant env value timezone instant := by
  constructor
  · intro resolved
    by_cases isLocal : ∃ naive rules, IsLocalTime env value timezone naive rules
    · obtain ⟨naive, rules, isLocal⟩ := isLocal
      have inRange : StaysInRange rules.zone naive := by
        by_contra leaves
        rw [resolveLocalInstant_overflow isLocal leaves] at resolved
        cases resolved
      rw [resolveLocalInstant_inRange isLocal inRange] at resolved
      exact ⟨naive, rules, isLocal, inRange, chosenInstant_eq_ok.mp resolved⟩
    · have notLocal : ∀ naive rules, ¬ IsLocalTime env value timezone naive rules :=
        fun naive rules found => isLocal ⟨naive, rules, found⟩
      obtain ⟨message, raised⟩ := resolveLocalInstant_guard notLocal
      rw [raised] at resolved
      cases resolved
  · rintro ⟨naive, rules, isLocal, inRange, only⟩
    rw [resolveLocalInstant_inRange isLocal inRange]
    exact chosenInstant_eq_ok.mpr only

theorem storedTime_eq_ok {env : PlanningEnvironment} {stored : IsoTime} :
    storedTime env instant = .ok stored ↔ HasStoredTime env instant ∧
        stored = outputTime env instant := by
  rw [storedTime, HasStoredTime]
  by_cases inRange : InRange (instant + env.tokyoOffset instant * second)
  · rw [if_pos inRange]
    simp [inRange, eq_comm]
  · rw [if_neg inRange]
    simp [inRange]

end Instants

section Drafts

variable {env : CalendarEnvironment} {title zone : String}
  {state : WorkspaceState} {files : Files}

theorem compileCreation_duplicate {due : Option String} {priority : Option TaskPriority}
    (isOpen : hasOpenTask state.tasks title = true) :
    compileCreation env.toPlanningEnvironment (.todoCreate title due zone priority) state files =
      .error (.guard "duplicate_task") := by
  rw [compileCreation.eq_def]
  dsimp only
  rw [if_pos isOpen]

theorem compileCreation_todo {due : Option String} {priority : Option TaskPriority}
    (absent : hasOpenTask state.tasks title = false) :
    (∃ action, compileCreation env.toPlanningEnvironment
        (.todoCreate title due zone priority) state files = .ok action) ↔
      ∀ text, due = some text → ∃ instant, NamesInstant env (some text) zone instant ∧
          HasStoredTime env.toPlanningEnvironment instant := by
  have notOpen : ¬ hasOpenTask state.tasks title = true := by
    rw [absent]
    exact Bool.false_ne_true
  cases due with
  | none =>
    rw [compileCreation.eq_def]
    dsimp only
    rw [if_neg notOpen]
    constructor
    · intro _ text given
      cases given
    · intro _
      exact ⟨_, rfl⟩
  | some text =>
    rw [compileCreation.eq_def]
    dsimp only
    rw [if_neg notOpen]
    constructor
    · rintro ⟨action, compiled⟩ other given
      rw [← Option.some.inj given]
      obtain ⟨instant, resolved, compiled⟩ := bind_eq_ok_iff.mp compiled
      obtain ⟨stored, kept, -⟩ := bind_eq_ok_iff.mp compiled
      exact ⟨instant, resolveLocalInstant_eq_ok.mp resolved, (storedTime_eq_ok.mp kept).1⟩
    · intro named
      obtain ⟨instant, isNamed, hasTime⟩ := named text rfl
      refine ⟨.todoCreate title (some (outputTime env.toPlanningEnvironment instant)) priority, ?_⟩
      have resolved := resolveLocalInstant_eq_ok.mpr isNamed
      have stored := storedTime_eq_ok.mpr ⟨hasTime, rfl⟩
      rw [resolved]
      dsimp only [bind, Except.bind]
      rw [stored]
      rfl

theorem eventConflict_guard {start : Time} {event : Event} {raised : AssistantError}
    (conflict : eventConflict title start finish event = some raised) :
    ∃ message, raised = .guard message := by
  rw [eventConflict] at conflict
  split at conflict
  · exact ⟨_, (Option.some.inj conflict).symm⟩
  · split at conflict
    · exact ⟨_, (Option.some.inj conflict).symm⟩
    · cases conflict

theorem eventConflict_eq_none {start : Time} {event : Event} (ordered : start < finish) :
    eventConflict title start finish event = none ↔
      ¬ (start < event.endAt.instant ∧ event.startAt.instant < finish) := by
  rw [eventConflict]
  split
  · next same =>
      have starts : event.startAt.instant = start := same.2.1
      have ends : event.endAt.instant = finish := same.2.2
      rw [starts, ends]
      simp [ordered]
  · split
    · next overlap => simp [overlap]
    · next apart => simp [apart]

theorem overlapsEvent_eq_false {events : List Event} {start : Time} (ordered : start < finish) :
    overlapsEvent events start finish = false ↔
      events.findSome? (eventConflict title start finish) = none := by
  rw [List.findSome?_eq_none_iff, overlapsEvent, List.any_eq_false]
  constructor
  · intro apart event mem
    rw [eventConflict_eq_none ordered]
    intro overlap
    apply apart event mem
    rw [Bool.and_eq_true, decide_eq_true_eq, decide_eq_true_eq]
    exact overlap
  · intro free event mem overlap
    rw [Bool.and_eq_true, decide_eq_true_eq, decide_eq_true_eq] at overlap
    exact (eventConflict_eq_none ordered).mp (free event mem) overlap

variable {start : Time} {minutes : Nat} {text : Option String}

theorem finish_later (lasts : 1 ≤ minutes) : start < start + minutes * minute := by
  have positive : (1 : Int) ≤ minutes := by omega
  have long : minute = (60000000 : Int) := rfl
  have later : (0 : Int) < minutes * minute := by
    rw [long]
    omega
  exact Int.lt_add_of_pos_right start later

theorem compileCreation_conflict (lasts : 1 ≤ minutes) (named : NamesInstant env text zone start)
    (inRange : InRange (start + minutes * minute))
    (overlap : overlapsEvent state.events start (start + minutes * minute) = true) :
    ∃ message, compileCreation env.toPlanningEnvironment
        (.calendarCreate title text zone (some minutes)) state files =
      .error (.guard message) := by
  have resolved := resolveLocalInstant_eq_ok.mpr named
  have finishes : finishTime start minutes = .ok (start + minutes * minute) := by
    rw [finishTime, if_pos inRange]
  cases conflict : state.events.findSome?
      (eventConflict title start (start + minutes * minute)) with
  | none =>
    rw [(overlapsEvent_eq_false (finish_later lasts)).mpr conflict] at overlap
    cases overlap
  | some raised =>
    obtain ⟨event, -, raises⟩ := List.exists_of_findSome?_eq_some conflict
    obtain ⟨message, rfl⟩ := eventConflict_guard raises
    refine ⟨message, ?_⟩
    simp only [compileCreation, resolved, finishes, conflict, bind, Except.bind]

theorem compileCreation_calendar (lasts : 1 ≤ minutes) (named : NamesInstant env text zone start)
    (inRange : InRange (start + minutes * minute))
    (apart : overlapsEvent state.events start (start + minutes * minute) = false) :
    (∃ action, compileCreation env.toPlanningEnvironment
        (.calendarCreate title text zone (some minutes)) state files =
      .ok action) ↔
      HasStoredTime env.toPlanningEnvironment start ∧ HasStoredTime env.toPlanningEnvironment
          (start + minutes * minute) := by
  have resolved := resolveLocalInstant_eq_ok.mpr named
  have finishes : finishTime start minutes = .ok (start + minutes * minute) := by
    rw [finishTime, if_pos inRange]
  have free : state.events.findSome?
      (eventConflict title start (start + minutes * minute)) = none :=
    (overlapsEvent_eq_false (finish_later lasts)).mp apart
  have compiled : compileCreation env.toPlanningEnvironment
      (.calendarCreate title text zone (some minutes)) state files = (do
        let startAt ← storedTime env.toPlanningEnvironment start
        let endAt ← storedTime env.toPlanningEnvironment (start + minutes * minute)
        return .calendarCreate title startAt endAt) := by
    simp only [compileCreation, resolved, finishes, bind, Except.bind]
    rw [free]
  rw [compiled]
  constructor
  · rintro ⟨action, stored⟩
    obtain ⟨startAt, starts, stored⟩ := bind_eq_ok_iff.mp stored
    obtain ⟨endAt, ends, -⟩ := bind_eq_ok_iff.mp stored
    exact ⟨(storedTime_eq_ok.mp starts).1, (storedTime_eq_ok.mp ends).1⟩
  · rintro ⟨starts, ends⟩
    rw [storedTime_eq_ok.mpr ⟨starts, rfl⟩, storedTime_eq_ok.mpr ⟨ends, rfl⟩]
    exact ⟨_, rfl⟩

end Drafts

def PublicPayload.workspace (input : PublicPayload) (files : List FileState) :
    WorkspaceState :=
  ⟨input.events, input.tasks, files⟩

structure IsCommand (env : CalendarEnvironment)
    (grammar : RequestGrammar) (input : PublicPayload) (kind : CreationKind)
    (title : String) (fields : CreationFields) : Prop where
  notExplained : grammar.explained input.request = none
  notCompletion : grammar.completion input.request = none
  notFile : grammar.fileCommand input.request input.inventory = none
  read : creationEvidence env.toPlanningEnvironment input.now
    input.timezone (grammar.scan input.request) = .ok fields
  operation : fields.operation = some kind
  title : fields.title = some title
  unconditional : grammar.conditional input.request = false
  shaped : (grammar.commandShape input.request fields).isSome

structure IsCreation (env : CalendarEnvironment)
    (grammar : RequestGrammar) (input : PublicPayload) (kind : CreationKind)
    (title : String) (fields : CreationFields) : Prop
    extends IsCommand env grammar input kind title fields where
  clear : ambiguousFields kind fields = []

/-- What a creation has against it that is no question about a field. -/
def obstacleCodes : List String :=
  ["duplicate_task", "calendar_conflict", "ambiguous_instant"]

/-- The certificate agrees with the compiler: a proposal has a draft, and what is
to be clarified is refused. -/
structure CertificateAgrees (env : CalendarEnvironment)
    (grammar : RequestGrammar) (input : PublicPayload) (files : List FileState)
    (sandbox : Files) : Prop where
  proposed : ∀ issued,
    decisionEvidence env.toPlanningEnvironment grammar input =
      .ok issued → issued.role = .create → issued.decision = some .propose →
    ∃ kind title fields intent action, issued.fields = some fields ∧
      fields.operation = some kind ∧ fields.title = some title ∧
      certifiedIntent kind title fields = some intent ∧
      compileCreation env.toPlanningEnvironment intent
        (input.workspace files) sandbox = .ok action
  blocked : ∀ issued code,
    decisionEvidence env.toPlanningEnvironment grammar input =
      .ok issued → issued.decision = some .clarify →
    issued.reasonCode = some code →
    code ∈ obstacleCodes →
    ∃ kind title fields intent message, issued.fields = some fields ∧
      fields.operation = some kind ∧ fields.title = some title ∧
      certifiedIntent kind title fields = some intent ∧
      compileCreation env.toPlanningEnvironment intent
        (input.workspace files) sandbox = .error (.guard message)

/-- What is drafted can be stored: a due date of a task names an instant, and
every instant has a time in Tokyo. -/
structure DraftsStorable (env : CalendarEnvironment)
    (grammar : RequestGrammar) (input : PublicPayload) : Prop where
  due : ∀ title fields zone text,
    IsCreation env grammar input .todo title fields →
    hasOpenTask input.tasks title = false →
    fields.sourceTimezone.value = some zone →
    fields.localTime.value = some text → ∃ instant,
      NamesInstant env (some text) zone instant ∧
        HasStoredTime env.toPlanningEnvironment instant
  entry : ∀ title fields zone start minutes,
    IsCreation env grammar input .calendar title fields →
    fields.sourceTimezone.value = some zone →
    fields.durationMinutes.value = some minutes →
    NamesInstant env fields.localTime.value zone start →
    InRange (start + minutes * minute) →
    overlapsEvent input.events start (start + minutes * minute) = false →
    HasStoredTime env.toPlanningEnvironment start ∧
      HasStoredTime env.toPlanningEnvironment (start + minutes * minute)

section Creations

variable {env : CalendarEnvironment} {grammar : RequestGrammar}
  {input : PublicPayload} {kind : CreationKind} {title : String}
  {fields : CreationFields} {issued : Certificate}

theorem decisionEvidence_command (command : IsCommand env grammar input kind title fields) :
    decisionEvidence env.toPlanningEnvironment grammar input =
      creationCertificate env.toPlanningEnvironment input kind title
        fields := by
  obtain ⟨shape, isShape⟩ := Option.isSome_iff_exists.mp command.shaped
  have notConditional : ¬ grammar.conditional input.request = true := by
    rw [command.unconditional]
    exact Bool.false_ne_true
  rw [decisionEvidence, command.notExplained]
  dsimp only
  rw [command.notCompletion]
  dsimp only
  rw [command.notFile]
  dsimp only
  rw [command.read]
  dsimp only [bind, Except.bind]
  rw [command.operation, command.title]
  dsimp only
  rw [if_neg notConditional, isShape]

def Elsewhere (issued : Certificate) : Prop :=
  issued.role ≠ .create ∧ ∀ code, issued.reasonCode = some code → code ∉ obstacleCodes

theorem elsewhere_certificate {role : RequestRole} {decision : PlanDecision}
    {fields : Option CreationFields}
    (notCreate : role ≠ .create) (notObstacle : code ∉ obstacleCodes) :
    Elsewhere (certificate role decision code reason needs fields) := by
  refine ⟨notCreate, ?_⟩
  intro other same
  rw [← Option.some.inj same]
  exact notObstacle

theorem elsewhere_completion (tasks : List Task) (taskId : String) :
    Elsewhere (completionCertificate tasks taskId) := by
  rw [completionCertificate]
  split
  · exact elsewhere_certificate (by decide) (by decide)
  · exact elsewhere_certificate (by decide) (by decide)
  · exact elsewhere_certificate (by decide) (by decide)

theorem elsewhere_file (blocked : Bool) : Elsewhere (fileCertificate blocked) := by
  cases blocked with
  | false => exact elsewhere_certificate (by decide) (by decide)
  | true => exact elsewhere_certificate (by decide) (by decide)

theorem elsewhere_conditional : Elsewhere conditionalCertificate := by
  refine ⟨by decide, ?_⟩
  intro code given
  rw [← Option.some.inj given]
  decide

theorem elsewhere_unresolved : Elsewhere unresolvedCertificate := by
  refine ⟨by decide, ?_⟩
  intro code given
  cases given

theorem decisionEvidence_cases (evidence : decisionEvidence env.toPlanningEnvironment grammar
      input = .ok issued) :
    (∃ kind title fields, IsCommand env grammar input kind title fields) ∨ Elsewhere issued := by
  rw [decisionEvidence] at evidence
  split at evidence
  · right
    rw [← Except.ok.inj evidence]
    exact elsewhere_certificate (by decide) (by decide)
  · next notExplained =>
      split at evidence
      · right
        rw [← Except.ok.inj evidence]
        exact elsewhere_completion _ _
      · next notCompletion =>
          split at evidence
          · right
            rw [← Except.ok.inj evidence]
            exact elsewhere_file _
          · next notFile =>
              obtain ⟨fields, read, evidence⟩ := bind_eq_ok_iff.mp evidence
              split at evidence
              · next titled kind op =>
                  split at evidence
                  · right
                    rw [← Except.ok.inj evidence]
                    exact elsewhere_conditional
                  · next unconditional =>
                      split at evidence
                      · next title shape isTitle isShape =>
                          left
                          refine ⟨kind, title, fields, notExplained,
                            notCompletion, notFile, read, op, isTitle,
                            ?_, ?_⟩
                          · exact Bool.not_eq_true _ ▸ unconditional
                          · rw [isShape]
                            rfl
                      · right
                        rw [← Except.ok.inj evidence]
                        exact elsewhere_unresolved
              · right
                rw [← Except.ok.inj evidence]
                exact elsewhere_unresolved

theorem creationCertificate_unclear (unclear : ambiguousFields kind fields ≠ [])
    (evidence : creationCertificate env.toPlanningEnvironment input kind
      title fields = .ok issued) :
    issued.decision = some .clarify ∧
      issued.reasonCode = some "field_confirmation" := by
  rw [creationCertificate.eq_def] at evidence
  dsimp only at evidence
  rw [if_pos unclear] at evidence
  rw [← Except.ok.inj evidence]
  exact ⟨rfl, rfl⟩

theorem creationCertificate_clear (creation : IsCreation env grammar input kind title fields) :
    decisionEvidence env.toPlanningEnvironment grammar input = (match kind with
      | .todo => .ok (todoCertificate input.tasks title fields)
      | .calendar => calendarCertificate env.toPlanningEnvironment input.events fields) := by
  rw [decisionEvidence_command creation.toIsCommand, creationCertificate.eq_def]
  dsimp only
  rw [if_neg (fun unclear => unclear creation.clear)]
  cases kind with
  | todo => rfl
  | calendar => rfl

theorem certifiedIntent_of_todo (creation : IsCreation env grammar input .todo title fields) :
    ∃ zone, fields.sourceTimezone.value = some zone ∧
      certifiedIntent .todo title fields = some (.todoCreate title
        fields.localTime.value zone fields.priority.value) := by
  have wellRead := creationEvidence_wellRead creation.read
  have zoneClear : fields.sourceTimezone.mode ≠ .ambiguous := by
    intro ambiguous
    have clear := creation.clear
    simp [ambiguousFields, ambiguous] at clear
  obtain ⟨zone, zoned⟩ := wellRead.zone zoneClear
  exact ⟨zone, zoned, certifiedIntent_todo (wellRead.title title creation.title) zoned⟩

theorem certifiedIntent_of_calendar
    (creation : IsCreation env grammar input .calendar title fields) :
    ∃ zone minutes, fields.sourceTimezone.value = some zone ∧
      fields.durationMinutes.value = some minutes ∧ 1 ≤ minutes ∧
      certifiedIntent .calendar title fields = some (.calendarCreate title
        fields.localTime.value zone (some minutes)) := by
  have wellRead := creationEvidence_wellRead creation.read
  have zoneClear : fields.sourceTimezone.mode ≠ .ambiguous := by
    intro ambiguous
    have clear := creation.clear
    simp [ambiguousFields, ambiguous] at clear
  have durationClear : fields.durationMinutes.mode ≠ .ambiguous := by
    intro ambiguous
    have clear := creation.clear
    simp [ambiguousFields, ambiguous] at clear
  obtain ⟨zone, zoned⟩ := wellRead.zone zoneClear
  obtain ⟨minutes, given, allowed⟩ := wellRead.durationMinutes durationClear
  have lasts : fields.durationMinutes.value = some minutes := by
    rw [given]
    rfl
  exact ⟨zone, minutes, zoned, lasts, allowed.1, certifiedIntent_calendar
    (wellRead.title title creation.title) zoned lasts allowed⟩

theorem isCreation_of_settled (evidence : decisionEvidence env.toPlanningEnvironment grammar
      input = .ok issued)
    (settled : (issued.role = .create ∧ issued.decision = some .propose) ∨
      ∃ code ∈ obstacleCodes, issued.reasonCode = some code) :
    ∃ kind title fields, IsCreation env grammar input kind title fields := by
  rcases decisionEvidence_cases evidence with command | elsewhere
  · obtain ⟨kind, title, fields, command⟩ := command
    refine ⟨kind, title, fields, command, ?_⟩
    by_contra unclear
    rw [decisionEvidence_command command] at evidence
    have question := creationCertificate_unclear unclear evidence
    rcases settled with proposal | obstacle
    · rw [question.1] at proposal
      cases proposal.2
    · obtain ⟨code, isObstacle, given⟩ := obstacle
      rw [question.2] at given
      rw [← Option.some.inj given] at isObstacle
      revert isObstacle
      decide
  · rcases settled with proposal | obstacle
    · exact absurd proposal.1 elsewhere.1
    · obtain ⟨code, isObstacle, given⟩ := obstacle
      exact absurd isObstacle (elsewhere.2 code given)

variable {files : List FileState} {sandbox : Files}

theorem agrees_of_raised {raised : AssistantError}
    (evidence : decisionEvidence env.toPlanningEnvironment grammar input = .error raised) :
    CertificateAgrees env grammar input files sandbox := by
  refine ⟨?_, ?_⟩
  · intro issued issuedEvidence
    rw [evidence] at issuedEvidence
    cases issuedEvidence
  · intro issued code issuedEvidence
    rw [evidence] at issuedEvidence
    cases issuedEvidence

theorem agrees_of_obstacle {message : String}
    (creation : IsCreation env grammar input kind title fields)
    (evidence : decisionEvidence env.toPlanningEnvironment grammar
      input = .ok (certificate .create .clarify code reason needs (some fields)))
    (isIntent : certifiedIntent kind title fields = some intent)
    (refused : compileCreation env.toPlanningEnvironment intent
      (input.workspace files) sandbox = .error (.guard message)) :
    CertificateAgrees env grammar input files sandbox := by
  refine ⟨?_, ?_⟩
  · intro issued issuedEvidence role decision
    rw [evidence] at issuedEvidence
    rw [← Except.ok.inj issuedEvidence] at decision
    cases decision
  · intro issued code issuedEvidence decision given isObstacle
    rw [evidence] at issuedEvidence
    rw [← Except.ok.inj issuedEvidence]
    exact ⟨kind, title, fields, intent, message, rfl, creation.operation,
      creation.title, isIntent, refused⟩

theorem agrees_of_proposal {action : Action}
    (creation : IsCreation env grammar input kind title fields)
    (evidence : decisionEvidence env.toPlanningEnvironment grammar
      input = .ok (certificate .create .propose code reason needs (some fields)))
    (isIntent : certifiedIntent kind title fields = some intent)
    (drafted : compileCreation env.toPlanningEnvironment intent
      (input.workspace files) sandbox = .ok action) :
    CertificateAgrees env grammar input files sandbox := by
  refine ⟨?_, ?_⟩
  · intro issued issuedEvidence role decision
    rw [evidence] at issuedEvidence
    rw [← Except.ok.inj issuedEvidence]
    exact ⟨kind, title, fields, intent, action, rfl, creation.operation,
      creation.title, isIntent, drafted⟩
  · intro issued code issuedEvidence decision
    rw [evidence] at issuedEvidence
    rw [← Except.ok.inj issuedEvidence] at decision
    cases decision

theorem todo_agrees (creation : IsCreation env grammar input .todo title fields)
    (storable : DraftsStorable env grammar input) :
    CertificateAgrees env grammar input files sandbox := by
  obtain ⟨zone, zoned, isIntent⟩ := certifiedIntent_of_todo creation
  have evidence := creationCertificate_clear creation
  dsimp only at evidence
  cases isOpen : hasOpenTask input.tasks title with
  | true =>
    rw [todoCertificate, if_pos isOpen] at evidence
    exact agrees_of_obstacle creation evidence isIntent (compileCreation_duplicate isOpen)
  | false =>
    have notOpen : ¬ hasOpenTask input.tasks title = true := by
      rw [isOpen]
      exact Bool.false_ne_true
    rw [todoCertificate, if_neg notOpen] at evidence
    have named : ∀ text, fields.localTime.value = some text → ∃ instant,
        NamesInstant env (some text) zone instant ∧
          HasStoredTime env.toPlanningEnvironment instant :=
      fun text given =>
        storable.due title fields zone text creation isOpen zoned given
    have absent : hasOpenTask (input.workspace files).tasks title = false :=
      isOpen
    obtain ⟨action, drafted⟩ := (compileCreation_todo absent).mpr named
    exact agrees_of_proposal creation evidence isIntent drafted

theorem calendar_agrees (creation : IsCreation env grammar input .calendar title fields)
    (storable : DraftsStorable env grammar input) :
    CertificateAgrees env grammar input files sandbox := by
  obtain ⟨zone, minutes, zoned, lasts, long, isIntent⟩ :=
    certifiedIntent_of_calendar creation
  have evidence := creationCertificate_clear creation
  dsimp only at evidence
  rw [calendarCertificate, zoned, Option.getD_some] at evidence
  cases resolved : resolveLocalInstant env.toPlanningEnvironment fields.localTime.value zone with
  | error raised =>
    rw [resolved] at evidence
    cases raised with
    | guard message =>
      have refused : compileCreation env.toPlanningEnvironment
          (.calendarCreate title fields.localTime.value zone (some minutes))
          (input.workspace files) sandbox = .error (.guard message) := by
        rw [compileCreation, resolved]
        rfl
      exact agrees_of_obstacle creation evidence isIntent refused
    | raised exception => exact agrees_of_raised evidence
  | ok start =>
    rw [resolved, lasts, Option.getD_some] at evidence
    dsimp only at evidence
    by_cases inRange : InRange (start + minutes * minute)
    · have named := resolveLocalInstant_eq_ok.mp resolved
      rw [finishTime, if_pos inRange] at evidence
      dsimp only [bind, Except.bind] at evidence
      cases overlap : overlapsEvent input.events start (start + minutes * minute) with
      | true =>
        rw [if_pos overlap] at evidence
        have overlaps : overlapsEvent (input.workspace files).events start
            (start + minutes * minute) = true := overlap
        obtain ⟨message, refused⟩ :=
          compileCreation_conflict long named inRange overlaps
        exact agrees_of_obstacle creation evidence isIntent refused
      | false =>
        have apart : overlapsEvent (input.workspace files).events start
            (start + minutes * minute) = false := overlap
        rw [overlap, if_neg Bool.false_ne_true] at evidence
        have stored := storable.entry title fields zone start minutes creation
          zoned lasts named inRange overlap
        obtain ⟨action, drafted⟩ :=
          (compileCreation_calendar long named inRange apart).mpr stored
        exact agrees_of_proposal creation evidence isIntent drafted
    · rw [finishTime, if_neg inRange] at evidence
      exact agrees_of_raised evidence

end Creations

/-- The certificates agree with the compiler exactly where what is drafted can be
stored. -/
theorem certificateAgrees_iff (env : CalendarEnvironment) (grammar : RequestGrammar)
    (input : PublicPayload) (files : List FileState) (sandbox : Files) :
    CertificateAgrees env grammar input files sandbox ↔ DraftsStorable env grammar input := by
  constructor
  · intro agrees
    refine ⟨?_, ?_⟩
    · intro title fields zone text creation absent zoned due
      have notOpen : ¬ hasOpenTask input.tasks title = true := by
        rw [absent]
        exact Bool.false_ne_true
      have evidence := creationCertificate_clear creation
      dsimp only at evidence
      rw [todoCertificate, if_neg notOpen] at evidence
      obtain ⟨kind, titled, certified, intent, action, same, op, isTitle,
        isIntent, drafted⟩ := agrees.proposed _ evidence rfl rfl
      have sameFields : fields = certified := Option.some.inj same
      rw [← sameFields] at op isTitle isIntent
      have isKind : CreationKind.todo = kind :=
        Option.some.inj (creation.operation.symm.trans op)
      have sameTitle : title = titled :=
        Option.some.inj (creation.title.symm.trans isTitle)
      rw [← isKind, ← sameTitle] at isIntent
      obtain ⟨known, isZone, created⟩ := certifiedIntent_of_todo creation
      have sameZone : zone = known :=
        Option.some.inj (zoned.symm.trans isZone)
      rw [created] at isIntent
      rw [← Option.some.inj isIntent, ← sameZone] at drafted
      have stillAbsent : hasOpenTask (input.workspace files).tasks title = false :=
        absent
      exact (compileCreation_todo stillAbsent).mp ⟨action, drafted⟩ text due
    · intro title fields zone start minutes creation zoned lasts named inRange apart
      have evidence := creationCertificate_clear creation
      dsimp only at evidence
      rw [calendarCertificate, zoned, lasts, Option.getD_some, Option.getD_some,
        resolveLocalInstant_eq_ok.mpr named] at evidence
      dsimp only at evidence
      rw [finishTime, if_pos inRange] at evidence
      dsimp only [bind, Except.bind] at evidence
      rw [apart, if_neg Bool.false_ne_true] at evidence
      obtain ⟨kind, titled, certified, intent, action, same, op, isTitle,
        isIntent, drafted⟩ := agrees.proposed _ evidence rfl rfl
      have sameFields : fields = certified := Option.some.inj same
      rw [← sameFields] at op isTitle isIntent
      have isKind : CreationKind.calendar = kind :=
        Option.some.inj (creation.operation.symm.trans op)
      have sameTitle : title = titled :=
        Option.some.inj (creation.title.symm.trans isTitle)
      rw [← isKind, ← sameTitle] at isIntent
      obtain ⟨known, given, isZone, isLength, long, created⟩ :=
        certifiedIntent_of_calendar creation
      have sameZone : zone = known :=
        Option.some.inj (zoned.symm.trans isZone)
      have sameLength : minutes = given :=
        Option.some.inj (lasts.symm.trans isLength)
      rw [created] at isIntent
      rw [← Option.some.inj isIntent, ← sameZone, ← sameLength] at drafted
      rw [← sameLength] at long
      have stillApart : overlapsEvent (input.workspace files).events start
          (start + minutes * minute) = false := apart
      exact (compileCreation_calendar long named inRange stillApart).mp ⟨action, drafted⟩
  · intro storable
    by_cases created : ∃ kind title fields, IsCreation env grammar input kind title fields
    · obtain ⟨kind, title, fields, creation⟩ := created
      cases kind with
      | todo => exact todo_agrees creation storable
      | calendar => exact calendar_agrees creation storable
    · refine ⟨?_, ?_⟩
      · intro issued evidence role decision
        exact absurd (isCreation_of_settled evidence (Or.inl ⟨role, decision⟩)) created
      · intro issued code evidence decision given isObstacle
        exact absurd (isCreation_of_settled evidence (Or.inr ⟨code, isObstacle, given⟩)) created

def newYork : ZoneRules :=
  ZoneRules.ofTransition (1805007600 * second) (-18000 * second)
    (-14400 * second) (by decide) (by decide)

def newYorkCalendar : CalendarEnvironment where
  fromIsoformat text :=
    if text = "2027-03-14T02:30:00" then some ⟨1804991400 * second, none⟩
    else none
  zoneInfo name :=
    if name = "America/New_York" then some newYork.zone else none
  tokyoOffset _ := 32400
  sha256 text := text
  rules name := if name = "America/New_York" then some newYork else none
  zoneInfo_eq name := by
    by_cases known : name = "America/New_York"
    · rw [if_pos known, if_pos known, Option.map_some]
    · rw [if_neg known, if_neg known, Option.map_none]
  parsedInRange text parsed read := by
    split at read
    · rw [← Option.some.inj read]
      decide
    · cases read

/-- What the patterns find in the request of `gapInput`. -/
def gapScan : RequestScan where
  documentFrame := false
  withdrawn := false
  create := true
  fileCommand := false
  todo := true
  calendar := false
  titleCandidates := ["검토"]
  priority := ⟨[], [], [], false⟩
  zone := ⟨[⟨50, 66, "America/New_York"⟩], true, [], [], [], [], []⟩
  temporal := ⟨[⟨some 2027, 3, 14⟩], [], [⟨some false, 2, 30, 0⟩], [], [], true⟩

def gapGrammar : RequestGrammar where
  explained _ := none
  completion _ := none
  fileCommand _ _ := none
  conditional _ := false
  scan _ := gapScan
  commandShape _ _ := some "TITLE를DATETIME기한으로추가해줘.timezone=ZONE."

def gapInput : PublicPayload where
  request := "'검토'를 2027년 3월 14일 오전 2시 30분 기한으로 추가해줘. timezone='America/New_York'."
  timezone := "Asia/Tokyo"
  now := 1799971200 * second
  events := []
  tasks := []
  inventory := []

def gapFields : CreationFields where
  operation := some .todo
  title := some "검토"
  sourceTimezone := .specified "America/New_York"
  priority := .omitted
  localTime := .specified "2027-03-14T02:30:00"
  durationMinutes := .ambiguous

theorem gapCreation :
    IsCreation newYorkCalendar gapGrammar gapInput .todo "검토" gapFields where
  notExplained := rfl
  notCompletion := rfl
  notFile := rfl
  read := by decide +kernel
  operation := rfl
  title := rfl
  unconditional := rfl
  shaped := rfl
  clear := by decide

/-- The task is proposed, and its intent is refused. -/
theorem certificateAgrees_gap :
    decisionEvidence newYorkCalendar.toPlanningEnvironment gapGrammar gapInput =
        .ok (certificate .create .propose "complete_creation"
          (creationReason .todo gapFields) [] (some gapFields)) ∧
      compileCreation newYorkCalendar.toPlanningEnvironment
        (.todoCreate "검토" (some "2027-03-14T02:30:00") "America/New_York" none)
        (gapInput.workspace []) ⟨[], []⟩ =
          .error (.guard "nonexistent_or_ambiguous_local_time") ∧
      ¬ CertificateAgrees newYorkCalendar gapGrammar gapInput [] ⟨[], []⟩ := by
  have evidence := creationCertificate_clear gapCreation
  have refused : compileCreation newYorkCalendar.toPlanningEnvironment
      (.todoCreate "검토" (some "2027-03-14T02:30:00") "America/New_York" none)
      (gapInput.workspace []) ⟨[], []⟩ =
        .error (.guard "nonexistent_or_ambiguous_local_time") := by
    decide +kernel
  refine ⟨evidence, refused, ?_⟩
  intro agrees
  obtain ⟨kind, titled, certified, intent, action, same, op, isTitle,
    isIntent, drafted⟩ := agrees.proposed _ evidence rfl rfl
  have sameFields : gapFields = certified := Option.some.inj same
  rw [← sameFields] at op isTitle isIntent
  have isKind : CreationKind.todo = kind := Option.some.inj op
  have sameTitle : "검토" = titled := Option.some.inj isTitle
  rw [← isKind, ← sameTitle] at isIntent
  obtain ⟨zone, isZone, created⟩ := certifiedIntent_of_todo gapCreation
  have sameZone : "America/New_York" = zone := Option.some.inj isZone
  rw [created] at isIntent
  rw [← Option.some.inj isIntent, ← sameZone] at drafted
  have raised := refused.symm.trans drafted
  cases raised

end ModelAtlas.Assistant
