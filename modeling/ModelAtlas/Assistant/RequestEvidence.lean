import ModelAtlas.Assistant.LocalTimes
import ModelAtlas.Foundations.DecimalTexts

/-!
# The evidence of a creation request

`personal_assistant/creation_evidence.py`, and `priority_evidence` and
`timezone_evidence` of `request_evidence.py`.  What the regular expressions find
in a request is taken as it comes; how the finds make a field is the code's.
-/

namespace ModelAtlas.Assistant

open Foundations

variable {defaultZone : String}

structure Source (α : Type) where
  (start stop : Nat)
  value : α
  deriving DecidableEq, Repr

inductive FieldMode where
  | specified
  | omitted
  | default
  | ambiguous
  deriving DecidableEq, Repr

structure FieldEvidence (α : Type) where
  mode : FieldMode
  value : Option α
  deriving DecidableEq, Repr

namespace FieldEvidence

variable {α : Type}

def specified (value : α) : FieldEvidence α := ⟨.specified, some value⟩

def omitted : FieldEvidence α := ⟨.omitted, none⟩

def byDefault (value : α) : FieldEvidence α := ⟨.default, some value⟩

def ambiguous : FieldEvidence α := ⟨.ambiguous, none⟩

end FieldEvidence

/-- `SOURCE[start:end]` holds the position. -/
def Source.covers {α : Type} (item : Source α) (position : Nat) : Bool :=
  item.start ≤ position && position < item.stop

/-- The finds of `PRIORITY_PATTERNS`, of `OMISSION` and of a label with a word,
and whether the context names the field. -/
structure PriorityScan where
  found : List (Source TaskPriority)
  omissions : List (Source Unit)
  stated : List (Source String)
  mentioned : Bool

def priorityEvidence (scan : PriorityScan) : FieldEvidence TaskPriority :=
  let unknown := scan.stated.filter (fun word =>
    !(scan.found.any (fun item => item.start = word.start)) &&
      !(scan.omissions.any (fun item => item.covers word.start)))
  let values := (scan.found.map Source.value).dedup
  if !unknown.isEmpty || 1 < values.length || (!values.isEmpty && !scan.omissions.isEmpty) ||
      (scan.mentioned && values.isEmpty && scan.omissions.isEmpty) then
    .ambiguous
  else
    match values with
    | value :: _ => .specified value
    | [] => .omitted

/-- A find of `ZONE_TOKEN`: the zone of `ZONES`, and whether it is qualified. -/
structure ZoneToken where
  zone : String
  qualified : Bool
  deriving DecidableEq, Repr

/-- The finds of `IANA`, of `ZONE_LABEL`, of `ZONE_TOKEN`, of the ambiguous
abbreviations, of `ZONE_OMISSION` and `ZONE_DEFAULT`, and the words before
`현지` that `ZONES` does not have. -/
structure ZoneScan where
  iana : List (Source String)
  labelled : Bool
  tokens : List (Source ZoneToken)
  abbreviations : List (Source String)
  omissions : List (Source Unit)
  defaults : List (Source Unit)
  localWords : List (Source String)

/-- How the finds make the field: the zones, what else is said of the zone, and whether it is
omitted or the default. -/
def zoneField (values : List String) (unknown labelled withheld : Bool)
    (defaultZone : String) : FieldEvidence String :=
  if 1 < values.length || unknown || (!values.isEmpty && withheld) then
    .ambiguous
  else
    match values with
    | value :: _ => .specified value
    | [] =>
      if labelled && !withheld then .ambiguous
      else .byDefault defaultZone

def timezoneEvidence (env : PlanningEnvironment) (scan : ZoneScan)
    (defaultZone : String) : FieldEvidence String :=
  let known := scan.iana.filter (fun item => (env.zoneInfo item.value).isSome)
  let unknownNames := if scan.labelled then
      scan.iana.filter (fun item => (env.zoneInfo item.value).isNone)
    else []
  let tokens := scan.tokens.filter (fun token => !(known.any (fun item => item.covers token.start)))
  let unqualified := tokens.filter (fun token => !token.value.qualified)
  let values := (known.map Source.value ++
    (tokens.filter (fun token => token.value.qualified)).map (fun token => token.value.zone)).dedup
  let unknown := !unknownNames.isEmpty || !unqualified.isEmpty ||
    !scan.abbreviations.isEmpty || !scan.localWords.isEmpty
  zoneField values unknown scan.labelled
    (!scan.omissions.isEmpty || !scan.defaults.isEmpty) defaultZone

inductive CreationKind where
  | todo
  | calendar
  deriving DecidableEq, Repr

/-- A find of `DATE` or `ISO_DATE`. -/
structure DateMatch where
  year : Option Nat
  (month day : Nat)

/-- A find of `TIME` or `ISO_TIME`; `afternoon` is the period, where it has
one. -/
structure TimeMatch where
  afternoon : Option Bool
  (hour minute second : Nat)

/-- The finds of the patterns of dates, of times and of durations in minutes;
`relativeDays` are `오늘`, `내일` and `모레`. -/
structure TemporalScan where
  dates : List DateMatch
  relativeDays : List Nat
  times : List TimeMatch
  durations : List Nat
  omissions : List (Source Unit)
  mentionsDue : Bool

def civilDate (days : Int) : Int × Nat × Nat :=
  let shifted := days + 719468
  let era := shifted / 146097
  let ofEra := (shifted % 146097).toNat
  let year := (ofEra - ofEra / 1460 + ofEra / 36524 - ofEra / 146096) / 365
  let ofYear := ofEra - (365 * year + year / 4 - year / 100)
  let position := (5 * ofYear + 2) / 153
  let month := if position < 10 then position + 3 else position - 9
  (year + era * 400 + (if month ≤ 2 then 1 else 0), month, ofYear - (153 * position + 2) / 5 + 1)

def daysInMonth (year month : Nat) : Nat :=
  if month = 2 then
    if year % 4 = 0 ∧ (year % 100 ≠ 0 ∨ year % 400 = 0) then 29 else 28
  else if month = 4 ∨ month = 6 ∨ month = 9 ∨ month = 11 then 30
  else 31

/-- `datetime(year, month, day).date().isoformat()`, unless it is no date. -/
def isoDate (year month day : Nat) : Option String :=
  if 1 ≤ year ∧ year ≤ 9999 ∧ 1 ≤ month ∧ month ≤ 12 ∧ 1 ≤ day ∧ day ≤ daysInMonth year month then
    some (String.ofList (decimal 4 year ++ '-' :: (decimal 2 month ++ '-' :: decimal 2 day)))
  else none

/-- `datetime(2000, 1, 1, hour, minute, second).time().isoformat()`. -/
def isoTime (hour minute second : Nat) : Option String :=
  if hour < 24 ∧ minute < 60 ∧ second < 60 then
    some (String.ofList (decimal 2 hour ++ ':' :: (decimal 2 minute ++ ':' :: decimal 2 second)))
  else none

def TimeMatch.value (found : TimeMatch) : Option String :=
  match found.afternoon with
  | none => isoTime found.hour found.minute found.second
  | some afternoon =>
    if 1 ≤ found.hour ∧ found.hour ≤ 12 then
      isoTime (found.hour % 12 + if afternoon then 12 else 0) found.minute found.second
    else none

/-- The fields of `temporal_evidence`. -/
structure TemporalEvidence where
  localTime : FieldEvidence String
  durationMinutes : FieldEvidence Nat

def allowedDuration (minutes : Nat) : Bool :=
  1 ≤ minutes && minutes ≤ 1440

/-- How the finds make the two fields; `dates` and `times` are the valid finds, and `invalid`
says that there is another. -/
def temporalFields (operation : Option CreationKind) (dates times : List String)
    (durations : List Nat) (invalid omitted mentionsDue : Bool) :
    TemporalEvidence :=
  let found := !dates.isEmpty || !times.isEmpty
  let mentioned := found || invalid || mentionsDue
  let localTime : FieldEvidence String :=
    if invalid || 1 < dates.dedup.length || 1 < times.dedup.length || (omitted && found) then
      .ambiguous
    else
      match dates.dedup, times.dedup with
      | [date], [time] => .specified (date ++ "T" ++ time)
      | _, _ =>
        if found || (mentioned && !omitted) || operation = some .calendar then .ambiguous
        else .omitted
  let durationMinutes : FieldEvidence Nat :=
    match durations.dedup with
    | [minutes] => if invalid then .ambiguous else .specified minutes
    | _ => .ambiguous
  ⟨localTime, durationMinutes⟩

def relativeDate (today : Int) (offset : Nat) : Except AssistantError String :=
  let (year, month, dayOfMonth) := civilDate (today + offset)
  match isoDate year.toNat month dayOfMonth with
  | none => .error overflow
  | some date => .ok date

def temporalEvidence (env : PlanningEnvironment) (now : Time)
    (defaultZone : String) (scan : TemporalScan) (zone : FieldEvidence String)
    (operation : Option CreationKind) : Except AssistantError TemporalEvidence :=
  match env.zoneInfo ((givenText zone.value).getD defaultZone) with
  | none => .error (.raised "ZoneInfoNotFoundError")
  | some rules =>
    let wall := rules.toWall now
    if ¬ InRange wall then .error overflow
    else do
      let today := wall / day
      let localYear := (civilDate today).1.toNat
      let written := scan.dates.map (fun found =>
        isoDate (found.year.getD localYear) found.month found.day)
      let relative ← scan.relativeDays.mapM (relativeDate today)
      let times := scan.times.map TimeMatch.value
      let invalid := written.contains none || times.contains none ||
        scan.durations.any (fun minutes => !allowedDuration minutes)
      return temporalFields operation (written.filterMap id ++ relative) (times.filterMap id)
        scan.durations invalid (!scan.omissions.isEmpty) scan.mentionsDue

/-- What the request says: the frame of a document, a withdrawal, the words of
the commands, and the literals in a title's place. -/
structure RequestScan where
  (documentFrame withdrawn create fileCommand todo calendar : Bool)
  titleCandidates : List String
  priority : PriorityScan
  zone : ZoneScan
  temporal : TemporalScan

structure CreationFields where
  operation : Option CreationKind
  title : Option String
  sourceTimezone : FieldEvidence String
  priority : FieldEvidence TaskPriority
  localTime : FieldEvidence String
  durationMinutes : FieldEvidence Nat
  deriving DecidableEq

def RequestScan.operation (scan : RequestScan) : Option CreationKind :=
  if scan.create && scan.todo != scan.calendar &&
      !(scan.fileCommand || scan.withdrawn || scan.documentFrame) then
    some (if scan.todo then .todo else .calendar)
  else none

def RequestScan.title (scan : RequestScan) : Option String :=
  match scan.titleCandidates with
  | [title] =>
    if 0 < title.length ∧ title.length ≤ 200 then some title else none
  | _ => none

def creationEvidence (env : PlanningEnvironment) (now : Time)
    (defaultZone : String) (scan : RequestScan) :
    Except AssistantError CreationFields := do
  let zone := timezoneEvidence env scan.zone defaultZone
  let temporal ← temporalEvidence env now defaultZone scan.temporal zone scan.operation
  return ⟨scan.operation, scan.title, zone, priorityEvidence scan.priority,
    temporal.localTime, temporal.durationMinutes⟩

/-- What `creation_evidence` gives a field: a title of an intent, a zone, a time unless it is
omitted, and a duration. -/
structure WellRead (fields : CreationFields) : Prop where
  title : ∀ title, fields.title = some title →
    0 < title.length ∧ title.length ≤ 200
  zone : fields.sourceTimezone.mode ≠ .ambiguous →
    ∃ zone, fields.sourceTimezone.value = some zone
  localTime : fields.localTime.mode ≠ .ambiguous →
    (∃ text, fields.localTime = .specified text) ∨
      (fields.localTime = .omitted ∧ fields.operation ≠ some .calendar)
  durationMinutes : fields.durationMinutes.mode ≠ .ambiguous →
    ∃ minutes, fields.durationMinutes = .specified minutes ∧
      1 ≤ minutes ∧ minutes ≤ 1440

section Fields

theorem zoneField_value {values : List String} {unknown labelled withheld : Bool}
    (clear : (zoneField values unknown labelled withheld defaultZone).mode ≠ .ambiguous) :
    ∃ zone, (zoneField values unknown labelled withheld defaultZone).value = some zone := by
  rw [zoneField.eq_def] at clear ⊢
  split at clear
  · exact absurd rfl clear
  · next notAmbiguous =>
      rw [if_neg notAmbiguous]
      cases values with
      | cons value others => exact ⟨value, rfl⟩
      | nil =>
        dsimp only at clear ⊢
        split at clear
        · exact absurd rfl clear
        · next named => exact ⟨defaultZone, by rw [if_neg named]; rfl⟩

theorem temporalFields_localTime {operation : Option CreationKind} {dates times : List String}
    {durations : List Nat} {invalid omitted mentionsDue : Bool}
    (clear : (temporalFields operation dates times durations invalid omitted
      mentionsDue).localTime.mode ≠ .ambiguous) :
    (∃ text, (temporalFields operation dates times durations invalid omitted
        mentionsDue).localTime = .specified text) ∨
      ((temporalFields operation dates times durations invalid omitted
        mentionsDue).localTime = .omitted ∧ operation ≠ some .calendar) := by
  rw [temporalFields] at clear ⊢
  dsimp only at clear ⊢
  split at clear
  · exact absurd rfl clear
  · next notAmbiguous =>
      rw [if_neg notAmbiguous]
      split at clear
      · next date time oneDate oneTime => exact Or.inl ⟨_, rfl⟩
      · split at clear
        · exact absurd rfl clear
        · next absent =>
            right
            rw [if_neg absent]
            refine ⟨rfl, ?_⟩
            intro isCalendar
            apply absent
            rw [isCalendar]
            simp

theorem temporalFields_duration {operation : Option CreationKind} {dates times : List String}
    {durations : List Nat} {invalid omitted mentionsDue : Bool}
    (clear : (temporalFields operation dates times durations invalid omitted
      mentionsDue).durationMinutes.mode ≠ .ambiguous) :
    ∃ minutes ∈ durations, (temporalFields operation dates times durations
      invalid omitted mentionsDue).durationMinutes = .specified minutes ∧ invalid = false := by
  rw [temporalFields] at clear ⊢
  dsimp only at clear ⊢
  split at clear
  · next minutes only =>
      have mem : minutes ∈ durations := by
        rw [← List.mem_dedup, only]
        exact List.mem_singleton_self minutes
      cases invalid with
      | true => exact absurd rfl clear
      | false => exact ⟨minutes, mem, rfl, rfl⟩
  · exact absurd rfl clear

theorem temporalEvidence_ok {env : PlanningEnvironment} {now : Time} {scan : TemporalScan}
    {zone : FieldEvidence String}
    {operation : Option CreationKind} {temporal : TemporalEvidence}
    (read : temporalEvidence env now defaultZone scan zone operation = .ok temporal) :
    ∃ dates times invalid, temporal = temporalFields operation dates times
        scan.durations invalid (!scan.omissions.isEmpty) scan.mentionsDue ∧
      (invalid = false → ∀ minutes ∈ scan.durations, 1 ≤ minutes ∧ minutes ≤ 1440) := by
  rw [temporalEvidence] at read
  split at read
  · cases read
  · next rules known =>
      dsimp only at read
      split at read
      · cases read
      · cases relative : scan.relativeDays.mapM (relativeDate (rules.toWall now / day)) with
        | error raised =>
          rw [relative] at read
          cases read
        | ok dates =>
          rw [relative] at read
          refine ⟨_, _, _, (Except.ok.inj read).symm, ?_⟩
          intro valid minutes mem
          rw [Bool.or_eq_false_iff] at valid
          have allowed := List.any_eq_false.mp valid.2 minutes mem
          rw [Bool.not_eq_true, Bool.not_eq_false', allowedDuration,
            Bool.and_eq_true, decide_eq_true_eq, decide_eq_true_eq] at allowed
          exact allowed

theorem RequestScan.title_length {scan : RequestScan} {title : String}
    (found : scan.title = some title) : 0 < title.length ∧ title.length ≤ 200 := by
  rw [RequestScan.title] at found
  split at found
  · split at found
    · next fits =>
        rw [← Option.some.inj found]
        exact fits
    · cases found
  · cases found

theorem creationEvidence_wellRead {env : PlanningEnvironment} {now : Time}
    {scan : RequestScan} {fields : CreationFields}
    (read : creationEvidence env now defaultZone scan = .ok fields) :
    WellRead fields := by
  rw [creationEvidence] at read
  cases timed : temporalEvidence env now defaultZone scan.temporal
      (timezoneEvidence env scan.zone defaultZone) scan.operation with
  | error raised =>
    rw [timed] at read
    cases read
  | ok temporal =>
    rw [timed] at read
    rw [← Except.ok.inj read]
    obtain ⟨dates, times, invalid, rfl, allowed⟩ := temporalEvidence_ok timed
    refine ⟨?_, ?_, ?_, ?_⟩
    · exact fun title found => RequestScan.title_length found
    · exact zoneField_value
    · exact @temporalFields_localTime _ dates times scan.temporal.durations invalid _ _
    · intro clear
      obtain ⟨minutes, mem, given, valid⟩ := @temporalFields_duration
        scan.operation dates times scan.temporal.durations invalid
        (!scan.temporal.omissions.isEmpty) scan.temporal.mentionsDue clear
      exact ⟨minutes, given, allowed valid minutes mem⟩

end Fields

end ModelAtlas.Assistant
