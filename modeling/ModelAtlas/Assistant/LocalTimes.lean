import ModelAtlas.Assistant.Planning
import Mathlib.Data.List.Dedup

/-!
# Local times

`local_instant` of `personal_assistant/planning.py` over zones whose transitions
are apart.  A `datetime` is in the years 1 to 9999, and a conversion that leaves
them raises an `OverflowError`.
-/

namespace ModelAtlas.Assistant

open Foundations

def day : Int := 86400 * second

/-- A zone: the offset at each instant, and the one `utcoffset` has for a wall clock with a
fold. Around a wall clock there is one transition at most; fold 0 takes the offset before it
until the later of its two wall clocks, fold 1 until the earlier one. -/
structure ZoneRules where
  offsetAt : Int → Int
  foldOffset : Int → Bool → Int
  short : ∀ instant, -day < offsetAt instant ∧ offsetAt instant < day
  nearest : ∀ wall, ∃ transition before after,
    (∀ instant, wall - day < instant → instant < wall + day →
      offsetAt instant = if instant < transition then before else after) ∧
    foldOffset wall false =
      (if wall < transition + max before after then before else after) ∧
    foldOffset wall true =
      (if wall < transition + min before after then before else after)

namespace ZoneRules

/-- `ZoneInfo` of these rules. -/
def zone (rules : ZoneRules) : Zone where
  toUtc wall fold := wall - rules.foldOffset wall fold
  toWall instant := instant + rules.offsetAt instant

def Shows (rules : ZoneRules) (instant wall : Int) : Prop :=
  instant + rules.offsetAt instant = wall

theorem eq_toUtc_of_shows (rules : ZoneRules) {instant wall : Int}
    (isShown : rules.Shows instant wall) :
    instant = rules.zone.toUtc wall false ∨ instant = rules.zone.toUtc wall true := by
  obtain ⟨transition, before, after, around, ofFirst, ofSecond⟩ :=
    rules.nearest wall
  have isShort := rules.short instant
  rw [Shows] at isShown
  have offset := around instant (by omega) (by omega)
  rw [zone]
  dsimp only
  rw [ofFirst, ofSecond]
  by_cases early : instant < transition
  · rw [if_pos early] at offset
    left
    have inFirst : wall < transition + max before after := by
      have upper := le_max_left before after
      omega
    rw [if_pos inFirst]
    omega
  · rw [if_neg early] at offset
    right
    have notSecond : ¬ wall < transition + min before after := by
      have lower := min_le_right before after
      omega
    rw [if_neg notSecond]
    omega

end ZoneRules

/-- `datetime.min`, in microseconds. -/
def minimumWall : Int := -62135596800 * second

/-- `datetime.max`. -/
def maximumWall : Int := 253402300800 * second - 1

/-- A `datetime` can hold the value. -/
def InRange (value : Int) : Prop :=
  minimumWall ≤ value ∧ value ≤ maximumWall

instance (value : Int) : Decidable (InRange value) :=
  inferInstanceAs (Decidable (_ ∧ _))

def overflow : AssistantError := .raised "OverflowError"

def foldCandidate (zone : Zone) (naive : Int) (fold : Bool) : Except AssistantError (Option Time) :=
  let aware := zone.toUtc naive fold
  if ¬ InRange aware then .error overflow
  else if ¬ InRange (zone.toWall aware) then .error overflow
  else .ok (if zone.toWall aware = naive then some aware else none)

/-- `local_instant`, with the range of a `datetime`. -/
def resolveLocalInstant (env : PlanningEnvironment)
    (value : Option String) (timezone : String) : Except AssistantError Time :=
  match value.filter (fun text => text ≠ "") with
  | none => .error (.guard "time_needs_clarification")
  | some text =>
    if !text.toList.contains 'T' then
      .error (.guard "invalid_local_time_or_timezone")
    else
      match env.fromIsoformat text, env.zoneInfo timezone with
      | some ⟨naive, none⟩, some zone => do
        let first ← foldCandidate zone naive false
        let later ← foldCandidate zone naive true
        match (first.toList ++ later.toList).dedup with
        | [instant] => .ok instant
        | _ => .error (.guard "nonexistent_or_ambiguous_local_time")
      | _, _ => .error (.guard "invalid_local_time_or_timezone")

def StaysInRange (zone : Zone) (naive : Int) : Prop :=
  ∀ fold, InRange (zone.toUtc naive fold) ∧ InRange (zone.toWall (zone.toUtc naive fold))

/-- A zone database and a parser whose results a `datetime` can hold. -/
structure CalendarEnvironment extends PlanningEnvironment where
  rules : String → Option ZoneRules
  zoneInfo_eq : ∀ name, zoneInfo name = (rules name).map ZoneRules.zone
  parsedInRange : ∀ text parsed, fromIsoformat text = some parsed →
    InRange parsed.wall

structure IsLocalTime (env : CalendarEnvironment) (value : Option String)
    (timezone : String) (naive : Int) (rules : ZoneRules) : Prop where
  text : ∃ text, value = some text ∧ text ≠ "" ∧ 'T' ∈ text.toList ∧
    env.fromIsoformat text = some ⟨naive, none⟩
  known : env.rules timezone = some rules

section Candidates

variable {zone : Zone} {naive : Int}

theorem foldCandidate_ok {fold : Bool} (utc : InRange (zone.toUtc naive fold))
    (wall : InRange (zone.toWall (zone.toUtc naive fold))) :
    foldCandidate zone naive fold = .ok (if zone.toWall (zone.toUtc naive fold) = naive then
        some (zone.toUtc naive fold) else none) := by
  rw [foldCandidate]
  simp only [utc, wall, not_true_eq_false, if_false]

theorem foldCandidate_overflow {fold : Bool} (leaves : ¬ (InRange (zone.toUtc naive fold) ∧
      InRange (zone.toWall (zone.toUtc naive fold)))) :
    foldCandidate zone naive fold = .error overflow := by
  rw [foldCandidate]
  by_cases utc : InRange (zone.toUtc naive fold)
  · have wall : ¬ InRange (zone.toWall (zone.toUtc naive fold)) :=
      fun inRange => leaves ⟨utc, inRange⟩
    simp only [utc, wall, not_true_eq_false, if_false, not_false_eq_true, if_true]
  · simp only [utc, not_false_eq_true, if_true]

def candidates (zone : Zone) (naive : Int) : List Time :=
  (([false, true].map (zone.toUtc naive)).filter (fun aware => zone.toWall aware = naive)).dedup

theorem candidates_eq : candidates zone naive =
      ((if zone.toWall (zone.toUtc naive false) = naive then
          some (zone.toUtc naive false) else none).toList ++
        (if zone.toWall (zone.toUtc naive true) = naive then
          some (zone.toUtc naive true) else none).toList).dedup := by
  rw [candidates]
  congr 1
  by_cases first : zone.toWall (zone.toUtc naive false) = naive
  · by_cases later : zone.toWall (zone.toUtc naive true) = naive
    · simp [first, later]
    · simp [first, later]
  · by_cases later : zone.toWall (zone.toUtc naive true) = naive
    · simp [first, later]
    · simp [first, later]

theorem mem_candidates {rules : ZoneRules} {instant : Int} :
    instant ∈ candidates rules.zone naive ↔ rules.Shows instant naive := by
  rw [candidates, List.mem_dedup, List.mem_filter, decide_eq_true_eq]
  constructor
  · exact fun mem => mem.2
  · intro isShown
    refine ⟨?_, isShown⟩
    rcases rules.eq_toUtc_of_shows isShown with first | later
    · rw [first]
      exact List.mem_map.mpr ⟨false, List.mem_cons_self, rfl⟩
    · rw [later]
      exact List.mem_map.mpr ⟨true, List.mem_cons_of_mem _ List.mem_cons_self, rfl⟩

theorem candidates_eq_singleton {rules : ZoneRules} {instant : Int} :
    candidates rules.zone naive = [instant] ↔
      ∀ other, rules.Shows other naive ↔ other = instant := by
  constructor
  · intro single other
    rw [← mem_candidates, single, List.mem_singleton]
  · intro only
    have distinct : (candidates rules.zone naive).Nodup := List.nodup_dedup _
    have same : ∀ other, other ∈ candidates rules.zone naive ↔ other ∈ [instant] := by
      intro other
      rw [mem_candidates, only, List.mem_singleton]
    have perm := (List.perm_ext_iff_of_nodup distinct (List.nodup_singleton instant)).mpr same
    exact List.perm_singleton.mp perm

end Candidates

section Resolution

variable {env : CalendarEnvironment} {value : Option String}
  {timezone : String} {naive : Int} {rules : ZoneRules}

/-- The answer on a wall clock that stays in the range. -/
def chosenInstant (zone : Zone) (naive : Int) : Except AssistantError Time :=
  match candidates zone naive with
  | [instant] => .ok instant
  | _ => .error (.guard "nonexistent_or_ambiguous_local_time")

theorem chosenInstant_eq_ok {instant : Time} : chosenInstant rules.zone naive = .ok instant ↔
      ∀ other, rules.Shows other naive ↔ other = instant := by
  rw [← candidates_eq_singleton, chosenInstant]
  constructor
  · intro chosen
    split at chosen
    · next single =>
        rw [single, Except.ok.inj chosen]
    · cases chosen
  · intro single
    rw [single]

theorem resolveLocalInstant_eq (isLocal : IsLocalTime env value timezone naive rules) :
    resolveLocalInstant env.toPlanningEnvironment value timezone = (do
      let first ← foldCandidate rules.zone naive false
      let later ← foldCandidate rules.zone naive true
      match (first.toList ++ later.toList).dedup with
      | [instant] => .ok instant
      | _ => .error (.guard "nonexistent_or_ambiguous_local_time")) := by
  obtain ⟨text, rfl, nonempty, timed, parsed⟩ := isLocal.text
  have given : (some text).filter (fun text => text ≠ "") = some text := by
    simp [Option.filter, nonempty]
  have known : env.zoneInfo timezone = some rules.zone := by
    rw [env.zoneInfo_eq, isLocal.known, Option.map_some]
  have hasTime : (!text.toList.contains 'T') = false := by
    rw [Bool.not_eq_false']
    exact List.contains_iff_mem.mpr timed
  rw [resolveLocalInstant, given]
  dsimp only
  rw [hasTime, parsed, known]
  rfl

theorem resolveLocalInstant_inRange (isLocal : IsLocalTime env value timezone naive rules)
    (inRange : StaysInRange rules.zone naive) :
    resolveLocalInstant env.toPlanningEnvironment value timezone =
      chosenInstant rules.zone naive := by
  rw [resolveLocalInstant_eq isLocal, foldCandidate_ok (inRange false).1 (inRange false).2,
    foldCandidate_ok (inRange true).1 (inRange true).2, chosenInstant,
    candidates_eq]
  rfl

theorem resolveLocalInstant_overflow (isLocal : IsLocalTime env value timezone naive rules)
    (leaves : ¬ StaysInRange rules.zone naive) :
    resolveLocalInstant env.toPlanningEnvironment value timezone = .error overflow := by
  rw [resolveLocalInstant_eq isLocal]
  by_cases first : InRange (rules.zone.toUtc naive false) ∧
      InRange (rules.zone.toWall (rules.zone.toUtc naive false))
  · have later : ¬ (InRange (rules.zone.toUtc naive true) ∧
        InRange (rules.zone.toWall (rules.zone.toUtc naive true))) := by
      intro later
      apply leaves
      intro fold
      cases fold with
      | false => exact first
      | true => exact later
    rw [foldCandidate_ok first.1 first.2, foldCandidate_overflow later]
    rfl
  · rw [foldCandidate_overflow first]
    rfl

theorem resolveLocalInstant_guard (notLocal : ∀ naive rules,
      ¬ IsLocalTime env value timezone naive rules) :
    ∃ message, resolveLocalInstant env.toPlanningEnvironment value timezone =
        .error (.guard message) := by
  cases given : value.filter (fun text => text ≠ "") with
  | none =>
    refine ⟨"time_needs_clarification", ?_⟩
    rw [resolveLocalInstant, given]
  | some text =>
    refine ⟨"invalid_local_time_or_timezone", ?_⟩
    obtain ⟨isValue, nonempty⟩ := Option.filter_eq_some_iff.mp given
    rw [resolveLocalInstant, given]
    dsimp only
    by_cases timed : 'T' ∈ text.toList
    · have hasTime : (!text.toList.contains 'T') = false := by
        rw [Bool.not_eq_false']
        exact List.contains_iff_mem.mpr timed
      rw [hasTime]
      split
      · next absurdity => cases absurdity
      · split
        · next naive zone parsed known =>
            exfalso
            rw [env.zoneInfo_eq, Option.map_eq_some_iff] at known
            obtain ⟨rules, known, -⟩ := known
            refine notLocal naive rules ⟨⟨text, isValue, ?_, timed, parsed⟩, known⟩
            exact of_decide_eq_true nonempty
        · rfl
    · have noTime : (!text.toList.contains 'T') = true := by
        rw [Bool.not_eq_true', Bool.eq_false_iff]
        intro contained
        exact timed (List.contains_iff_mem.mp contained)
      rw [if_pos noTime]

end Resolution

def ZoneRules.ofTransition (transition before after : Int)
    (shortBefore : -day < before ∧ before < day)
    (shortAfter : -day < after ∧ after < day) : ZoneRules where
  offsetAt instant := if instant < transition then before else after
  foldOffset wall fold :=
    if wall < transition + (if fold then min before after else max before after)
    then before else after
  short instant := by
    by_cases early : instant < transition
    · rw [if_pos early]
      exact shortBefore
    · rw [if_neg early]
      exact shortAfter
  nearest _ := ⟨transition, before, after, fun _ _ _ => rfl, rfl, rfl⟩

end ModelAtlas.Assistant
