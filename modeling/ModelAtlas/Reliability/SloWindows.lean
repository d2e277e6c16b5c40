import Mathlib.Data.Finset.Card
import Mathlib.Data.List.Pairwise
import Mathlib.Tactic.Linarith
import ModelAtlas.Records

/-!
# SLO windows

`slo.py` and `burn_rate.py` of `operational_reliability`.  A capture cycle takes
at most one snapshot of a bucket, at any second inside it; the samples that are
expected in a window are counted from the elapsed time.
-/

namespace ModelAtlas.Reliability

/-- A snapshot: its second and the points that the SLOs read. -/
structure MetricSample where
  generatedAt : Time
  values : List (String × Rat)

/-- `SLODefinition`, without its texts. -/
structure SloDefinition where
  metricNames : List String
  evaluator : List (String × Rat) → Bool
  targetRatio : Rat

def MetricSample.isComplete (sample : MetricSample) (definition : SloDefinition) :
    Bool :=
  definition.metricNames.all (fun name => (sample.values.lookup name).isSome)

def MetricSample.isGood (sample : MetricSample) (definition : SloDefinition) :
    Bool :=
  sample.isComplete definition && definition.evaluator sample.values

structure SloWindowStats where
  observedRatio : Option Rat
  sampleCount : Int
  (goodSampleCount actualSampleCount : Nat)
  missingSampleCount : Int
  effectiveWindowStartedAt : Option Time

def windowSamples (samples : List MetricSample) (windowStartedAt windowEndedAt :
    Time) : List MetricSample :=
  samples.filter (fun sample => windowStartedAt ≤ sample.generatedAt ∧
    sample.generatedAt ≤ windowEndedAt)

def scheduledSampleCount (effectiveStart : Option Time) (windowEndedAt : Time)
    (intervalSeconds : Int) : Int :=
  match effectiveStart with
  | some start => (windowEndedAt - start) / intervalSeconds + 1
  | none => 0

/-- `_slo_window_stats`; the ratio is not rounded. -/
def sloWindowStats (samples : List MetricSample) (definition : SloDefinition)
    (windowStartedAt windowEndedAt : Time) (intervalSeconds : Int) :
    SloWindowStats :=
  let window := windowSamples samples windowStartedAt windowEndedAt
  let complete := window.filter (fun sample => sample.isComplete definition)
  let effectiveStart := window.head?.map MetricSample.generatedAt
  let sampleCount := max (window.length : Int)
    (scheduledSampleCount effectiveStart windowEndedAt intervalSeconds)
  let good := complete.countP (fun sample => definition.evaluator sample.values)
  { observedRatio :=
      if sampleCount = 0 then none else some ((good : Rat) / sampleCount)
    sampleCount := sampleCount
    goodSampleCount := good
    actualSampleCount := complete.length
    missingSampleCount := max 0 (sampleCount - complete.length)
    effectiveWindowStartedAt := effectiveStart }

/-! ## Burn rates and status -/

inductive SloStatus where
  | insufficient
  | met
  | breached
  deriving DecidableEq, Repr

inductive BurnAlertLevel where
  | none
  | warning
  | critical
  deriving DecidableEq, Repr

def BurnAlertLevel.rank : BurnAlertLevel → Nat
  | none => 0
  | warning => 1
  | critical => 2

structure SloSettings where
  (snapshotIntervalSeconds sloWindowSeconds sloShortWindowSeconds sloMinSamples : Int)
  (sloWarningBurnRate sloCriticalBurnRate : Rat)
  intervalPositive : 0 < snapshotIntervalSeconds
  windowPositive : 0 < sloWindowSeconds
  shortWindowPositive : 0 < sloShortWindowSeconds

/-- `_burn_rate`; it is not rounded. -/
def burnRate (observedRatio : Option Rat) (targetRatio : Rat) : Option Rat :=
  observedRatio.map (fun observed =>
    if 1 - targetRatio ≤ 0 then if 1 ≤ observed then 0 else 1000000
    else max 0 ((1 - observed) / (1 - targetRatio)))

def burnAlertLevel (status : SloStatus) (longBurnRate shortBurnRate : Option Rat)
    (shortSampleCount : Int) (settings : SloSettings) : BurnAlertLevel :=
  match longBurnRate, shortBurnRate with
  | some long, some short =>
    if status = .insufficient ∨ shortSampleCount < settings.sloMinSamples then
      .none
    else if settings.sloCriticalBurnRate ≤ long ∧
        settings.sloCriticalBurnRate ≤ short then .critical
    else if settings.sloWarningBurnRate ≤ long ∧ settings.sloWarningBurnRate ≤ short then .warning
    else .none
  | _, _ => .none

structure SloEvaluation where
  (longWindow shortWindow : SloWindowStats)
  status : SloStatus
  (burnRate shortBurnRate : Option Rat)
  alertLevel : BurnAlertLevel

/-- `status` of `_evaluate_slos`. -/
def sloStatus (definition : SloDefinition) (settings : SloSettings)
    (longWindow : SloWindowStats) : SloStatus :=
  if longWindow.sampleCount < settings.sloMinSamples then .insufficient
  else if longWindow.observedRatio.any (fun observed =>
    definition.targetRatio ≤ observed) then .met
  else .breached

/-- One round of `_evaluate_slos`. -/
def evaluateSlo (settings : SloSettings) (definition : SloDefinition)
    (samples : List MetricSample) (observedAt : Time) : SloEvaluation :=
  let longWindow := sloWindowStats samples definition (observedAt - settings.sloWindowSeconds)
    observedAt settings.snapshotIntervalSeconds
  let shortWindow := sloWindowStats samples definition (observedAt - settings.sloShortWindowSeconds)
    observedAt settings.snapshotIntervalSeconds
  let status := sloStatus definition settings longWindow
  let long := burnRate longWindow.observedRatio definition.targetRatio
  let short := burnRate shortWindow.observedRatio definition.targetRatio
  { longWindow := longWindow
    shortWindow := shortWindow
    status := status
    burnRate := long
    shortBurnRate := short
    alertLevel := burnAlertLevel status long short shortWindow.sampleCount settings }

/-- `_bucket_start`, as the number of the bucket. -/
def bucketOf (interval time : Int) : Int :=
  time / interval

def bucketCount (interval first last : Int) : Int :=
  bucketOf interval last - bucketOf interval first + 1

/-- The last time lies at least as late in its bucket as the first. -/
def Aligned (interval first last : Int) : Prop :=
  first % interval ≤ last % interval

theorem elapsed_ediv {interval first last : Int} (positive : 0 < interval) :
    (last - first) / interval = last / interval - first / interval +
      (last % interval - first % interval) / interval := by
  have ofLast := Int.mul_ediv_add_emod last interval
  have ofFirst := Int.mul_ediv_add_emod first interval
  have split : last - first = (last % interval - first % interval) +
      (last / interval - first / interval) * interval := by
    linarith
  rw [split, Int.add_mul_ediv_right _ _ (ne_of_gt positive)]
  omega

theorem scheduled_of_aligned {interval first last : Int} (positive : 0 < interval)
    (aligned : Aligned interval first last) :
    (last - first) / interval + 1 = bucketCount interval first last := by
  have lower : 0 ≤ last % interval - first % interval :=
    sub_nonneg.mpr aligned
  have firstPart := Int.emod_nonneg first (ne_of_gt positive)
  have lastPart := Int.emod_lt_of_pos last positive
  have noCarry : (last % interval - first % interval) / interval = 0 :=
    Int.ediv_eq_zero_of_lt lower (by omega)
  rw [elapsed_ediv positive, noCarry, bucketCount, bucketOf, bucketOf]
  omega

theorem scheduled_of_not_aligned {interval first last : Int}
    (positive : 0 < interval) (misaligned : ¬ Aligned interval first last) :
    (last - first) / interval + 1 = bucketCount interval first last - 1 := by
  rw [Aligned, not_le] at misaligned
  have firstPart := Int.emod_lt_of_pos first positive
  have lastPart := Int.emod_nonneg last (ne_of_gt positive)
  have carry : (last % interval - first % interval) / interval = -1 :=
    Int.ediv_eq_neg_one_of_neg_of_le (by omega) (by omega)
  rw [elapsed_ediv positive, carry, bucketCount, bucketOf, bucketOf]
  omega

/-! ## Captures -/

/-- The snapshots that were taken: at most one of a bucket, the current one last. -/
structure CaptureHistory (interval : Int) (observedAt : Time)
    (samples : List MetricSample) : Prop where
  ordered : samples.Pairwise (fun earlier later =>
    bucketOf interval earlier.generatedAt < bucketOf interval later.generatedAt)
  current : ∃ earlier last, samples = earlier ++ [last] ∧
    last.generatedAt = observedAt

section Window

variable {interval : Int} {observedAt windowStartedAt : Time}
  {samples : List MetricSample} {definition : SloDefinition}

theorem CaptureHistory.window_ordered (history : CaptureHistory interval observedAt samples) :
    (windowSamples samples windowStartedAt observedAt).Pairwise
      (fun earlier later => bucketOf interval earlier.generatedAt <
        bucketOf interval later.generatedAt) :=
  history.ordered.filter _

theorem CaptureHistory.exists_current (history : CaptureHistory interval observedAt samples)
    (started : windowStartedAt ≤ observedAt) :
    ∃ last ∈ windowSamples samples windowStartedAt observedAt, last.generatedAt = observedAt := by
  obtain ⟨earlier, last, isSamples, isCurrent⟩ := history.current
  refine ⟨last, ?_, isCurrent⟩
  rw [windowSamples, List.mem_filter, isCurrent]
  refine ⟨?_, by simpa using started⟩
  rw [isSamples]
  exact List.mem_append_right _ List.mem_cons_self

theorem CaptureHistory.exists_first (history : CaptureHistory interval observedAt samples)
    (started : windowStartedAt ≤ observedAt) :
    ∃ first rest, windowSamples samples windowStartedAt observedAt =
      first :: rest := by
  obtain ⟨last, mem, _⟩ := history.exists_current started
  exact List.exists_cons_of_ne_nil (List.ne_nil_of_mem mem)

def windowBuckets (interval : Int) (window : List MetricSample) : List Int :=
  window.map (fun sample => bucketOf interval sample.generatedAt)

theorem windowBuckets_nodup {window : List MetricSample}
    (ordered : window.Pairwise (fun earlier later =>
      bucketOf interval earlier.generatedAt < bucketOf interval later.generatedAt)) :
    (windowBuckets interval window).Nodup := by
  rw [windowBuckets, List.Nodup, List.pairwise_map]
  exact ordered.imp (fun before => ne_of_lt before)

def bucketsBetween (interval : Int) (first last : Time) : List Int :=
  (List.range (bucketCount interval first last).toNat).map
    (fun offset : Nat => bucketOf interval first + offset)

def bucketRange (interval : Int) (first last : Time) : Finset Int :=
  (bucketsBetween interval first last).toFinset

theorem mem_bucketRange {interval bucket : Int} {first last : Time} :
    bucket ∈ bucketRange interval first last ↔
      bucketOf interval first ≤ bucket ∧ bucket ≤ bucketOf interval last := by
  rw [bucketRange, List.mem_toFinset, bucketsBetween, List.mem_map]
  simp only [List.mem_range, bucketCount]
  constructor
  · rintro ⟨offset, inside, rfl⟩
    omega
  · rintro ⟨afterFirst, beforeLast⟩
    exact ⟨(bucket - bucketOf interval first).toNat, by omega, by omega⟩

theorem bucketsBetween_nodup (interval : Int) (first last : Time) :
    (bucketsBetween interval first last).Nodup := by
  refine List.Nodup.map ?_ List.nodup_range
  intro left right same
  dsimp only at same
  omega

theorem CaptureHistory.bucket_mem (history : CaptureHistory interval observedAt samples)
    (positive : 0 < interval) {first : MetricSample} {rest : List MetricSample}
    (isWindow : windowSamples samples windowStartedAt observedAt = first :: rest)
    {sample : MetricSample} (mem : sample ∈ first :: rest) :
    bucketOf interval sample.generatedAt ∈ bucketRange interval first.generatedAt observedAt := by
  have ordered := @window_ordered interval observedAt windowStartedAt samples history
  rw [isWindow, List.pairwise_cons] at ordered
  have inWindow : sample ∈ windowSamples samples windowStartedAt observedAt := by
    rw [isWindow]
    exact mem
  rw [windowSamples, List.mem_filter, decide_eq_true_eq] at inWindow
  rw [mem_bucketRange]
  constructor
  · rcases List.mem_cons.mp mem with rfl | later
    · exact le_refl _
    · exact le_of_lt (ordered.1 sample later)
  · exact Int.ediv_le_ediv positive inWindow.2.2

theorem card_buckets {interval first last : Int} : (bucketRange interval first last).card =
      (bucketCount interval first last).toNat := by
  rw [bucketRange, List.toFinset_card_of_nodup (bucketsBetween_nodup _ _ _),
    bucketsBetween, List.length_map, List.length_range]

def missingBuckets (definition : SloDefinition) (interval : Int)
    (window : List MetricSample) (first last : Time) : Finset Int :=
  (bucketRange interval first last).filter
    (fun bucket => bucket ∉ windowBuckets interval
      (window.filter (fun sample => sample.isComplete definition)))

theorem CaptureHistory.card_missingBuckets (history : CaptureHistory interval observedAt samples)
    (positive : 0 < interval) {first : MetricSample} {rest : List MetricSample}
    (isWindow : windowSamples samples windowStartedAt observedAt =
      first :: rest) :
    ((missingBuckets definition interval (first :: rest) first.generatedAt observedAt).card : Int) =
      bucketCount interval first.generatedAt observedAt - ((first :: rest).filter
          (fun sample => sample.isComplete definition)).length := by
  have ordered := @window_ordered interval observedAt windowStartedAt samples history
  rw [isWindow] at ordered
  have distinct := windowBuckets_nodup (ordered.filter (fun sample => sample.isComplete definition))
  have within : (windowBuckets interval ((first :: rest).filter
      (fun sample => sample.isComplete definition))).toFinset ⊆
        bucketRange interval first.generatedAt observedAt := by
    intro bucket mem
    rw [List.mem_toFinset, windowBuckets, List.mem_map] at mem
    obtain ⟨sample, sampleMem, rfl⟩ := mem
    exact history.bucket_mem positive isWindow (List.mem_of_mem_filter sampleMem)
  have isDifference : missingBuckets definition interval (first :: rest)
      first.generatedAt observedAt = bucketRange interval first.generatedAt observedAt \
          (windowBuckets interval ((first :: rest).filter
            (fun sample => sample.isComplete definition))).toFinset := by
    ext bucket
    simp [missingBuckets]
  have cardLe := Finset.card_le_card within
  have isLength := List.toFinset_card_of_nodup distinct
  rw [windowBuckets, List.length_map] at isLength
  rw [isDifference, Finset.card_sdiff_of_subset within, Nat.cast_sub cardLe,
    card_buckets, windowBuckets, isLength]
  have isFirst : first ∈ first :: rest := List.mem_cons_self
  have firstBefore := history.bucket_mem positive isWindow isFirst
  rw [mem_bucketRange] at firstBefore
  have nonneg : 0 ≤ bucketCount interval first.generatedAt observedAt := by
    rw [bucketCount]
    omega
  rw [Int.toNat_of_nonneg nonneg]

theorem CaptureHistory.length_le (history : CaptureHistory interval observedAt samples)
    (positive : 0 < interval) {first : MetricSample} {rest : List MetricSample}
    (isWindow : windowSamples samples windowStartedAt observedAt =
      first :: rest) :
    ((first :: rest).length : Int) ≤ bucketCount interval first.generatedAt observedAt := by
  have ordered := @window_ordered interval observedAt windowStartedAt samples history
  rw [isWindow] at ordered
  have within : (windowBuckets interval (first :: rest)).toFinset ⊆
      bucketRange interval first.generatedAt observedAt := by
    intro bucket mem
    rw [List.mem_toFinset, windowBuckets, List.mem_map] at mem
    obtain ⟨sample, sampleMem, rfl⟩ := mem
    exact history.bucket_mem positive isWindow sampleMem
  have cardLe := Finset.card_le_card within
  rw [List.toFinset_card_of_nodup (windowBuckets_nodup ordered), windowBuckets,
    List.length_map, card_buckets] at cardLe
  have nonempty : 0 < (first :: rest).length := List.length_pos_of_ne_nil nofun
  omega

/-- The samples of a window are its buckets, and the missing ones are those
without a complete snapshot. -/
def CountsMissing (definition : SloDefinition) (interval : Int)
    (samples : List MetricSample) (windowStartedAt observedAt : Time) : Prop :=
  ∀ first rest, windowSamples samples windowStartedAt observedAt = first :: rest →
    (sloWindowStats samples definition windowStartedAt observedAt interval).sampleCount =
      bucketCount interval first.generatedAt observedAt ∧
    (sloWindowStats samples definition windowStartedAt observedAt interval).missingSampleCount =
      (missingBuckets definition interval (first :: rest) first.generatedAt observedAt).card

theorem sampleCount_of_window {first : MetricSample} {rest : List MetricSample}
    (isWindow : windowSamples samples windowStartedAt observedAt =
      first :: rest) :
    (sloWindowStats samples definition windowStartedAt observedAt interval).sampleCount =
      max ((first :: rest).length : Int) ((observedAt - first.generatedAt) / interval + 1) := by
  simp only [sloWindowStats, isWindow]
  rfl

theorem missingSampleCount_of_window {first : MetricSample} {rest : List MetricSample}
    (isWindow : windowSamples samples windowStartedAt observedAt =
      first :: rest) :
    (sloWindowStats samples definition windowStartedAt observedAt interval).missingSampleCount =
      max 0 ((sloWindowStats samples definition windowStartedAt observedAt interval).sampleCount -
        ((first :: rest).filter (fun sample => sample.isComplete definition)).length) := by
  simp only [sloWindowStats, isWindow]

theorem CaptureHistory.countsMissing_iff (history : CaptureHistory interval observedAt samples)
    (positive : 0 < interval) {first : MetricSample} {rest : List MetricSample}
    (isWindow : windowSamples samples windowStartedAt observedAt =
      first :: rest) :
    CountsMissing definition interval samples windowStartedAt observedAt ↔
      Aligned interval first.generatedAt observedAt ∨ ((first :: rest).length : Int) =
          bucketCount interval first.generatedAt observedAt := by
  have lengthLe := history.length_le positive isWindow
  have isCount := @sampleCount_of_window interval observedAt windowStartedAt samples
    definition first rest isWindow
  constructor
  · intro counts
    obtain ⟨sampleCount, _⟩ := counts first rest isWindow
    by_cases aligned : Aligned interval first.generatedAt observedAt
    · exact Or.inl aligned
    · right
      rw [scheduled_of_not_aligned positive aligned] at isCount
      omega
  · intro counted other others isOther
    obtain ⟨rfl, rfl⟩ := List.cons.inj (isWindow.symm.trans isOther)
    have sampleCount : (sloWindowStats samples definition windowStartedAt observedAt
        interval).sampleCount = bucketCount interval first.generatedAt observedAt := by
      rcases counted with aligned | complete
      · rw [isCount, scheduled_of_aligned positive aligned]
        exact max_eq_right lengthLe
      · by_cases aligned : Aligned interval first.generatedAt observedAt
        · rw [isCount, scheduled_of_aligned positive aligned]
          exact max_eq_right lengthLe
        · rw [isCount, scheduled_of_not_aligned positive aligned]
          omega
    refine ⟨sampleCount, ?_⟩
    have missing := @card_missingBuckets interval observedAt windowStartedAt samples
      definition history positive first rest isWindow
    have nonneg : (0 : Int) ≤ (missingBuckets definition interval (first :: rest)
        first.generatedAt observedAt).card :=
      Int.natCast_nonneg _
    rw [missingSampleCount_of_window isWindow, sampleCount, ← missing]
    exact max_eq_right nonneg

end Window

/-! ## Snapshots that are left out -/

def SloSettings.windowStarts (settings : SloSettings) (observedAt : Time) : List Time :=
  [observedAt - settings.sloWindowSeconds, observedAt - settings.sloShortWindowSeconds]

/-- A snapshot that is not good is left out; it is not the current one, nor the
first one of a window. -/
structure LeavesOut (settings : SloSettings) (definition : SloDefinition)
    (observedAt : Time) (samples : List MetricSample) (sample : MetricSample)
    (fewer : List MetricSample) : Prop where
  notGood : sample.isGood definition = false
  split : ∃ earlier later, samples = earlier ++ sample :: later ∧
    fewer = earlier ++ later ∧ later ≠ [] ∧
      ∀ windowStartedAt ∈ settings.windowStarts observedAt,
        windowStartedAt ≤ sample.generatedAt →
          ∃ other ∈ earlier, windowStartedAt ≤ other.generatedAt

section LeftOut

variable {settings : SloSettings} {definition : SloDefinition}
  {observedAt windowStartedAt : Time} {samples fewer : List MetricSample}
  {sample : MetricSample}

theorem windowStart_le (isStart : windowStartedAt ∈
    settings.windowStarts observedAt) : windowStartedAt ≤ observedAt := by
  have longPositive := settings.windowPositive
  have shortPositive := settings.shortWindowPositive
  simp only [SloSettings.windowStarts, List.mem_cons, List.not_mem_nil, or_false] at isStart
  rcases isStart with rfl | rfl
  · exact Int.sub_le_self observedAt (le_of_lt longPositive)
  · exact Int.sub_le_self observedAt (le_of_lt shortPositive)

theorem LeavesOut.history (leaves : LeavesOut settings definition observedAt samples sample fewer)
    (history : CaptureHistory settings.snapshotIntervalSeconds observedAt samples) :
    CaptureHistory settings.snapshotIntervalSeconds observedAt fewer := by
  obtain ⟨earlier, later, isSamples, isFewer, notLast, _⟩ := leaves.split
  constructor
  · have ordered := history.ordered
    rw [isSamples] at ordered
    rw [isFewer]
    exact ordered.sublist ((List.sublist_cons_self sample later).append_left _)
  · obtain ⟨initial, last, split, isCurrent⟩ := history.current
    refine ⟨earlier ++ later.dropLast, later.getLast notLast, ?_, ?_⟩
    · rw [isFewer, List.append_assoc, List.dropLast_append_getLast]
    · have isLast : samples.getLast? = some (later.getLast notLast) := by
        rw [isSamples, List.getLast?_append, List.getLast?_cons,
          List.getLast?_eq_some_getLast notLast]
        rfl
      rw [split, List.getLast?_concat, Option.some.injEq] at isLast
      rw [← isLast]
      exact isCurrent

theorem LeavesOut.window (leaves : LeavesOut settings definition observedAt samples sample fewer)
    (history : CaptureHistory settings.snapshotIntervalSeconds observedAt samples)
    (isStart : windowStartedAt ∈ settings.windowStarts observedAt) :
    (sample.generatedAt < windowStartedAt ∧ windowSamples fewer windowStartedAt observedAt =
        windowSamples samples windowStartedAt observedAt) ∨
    (windowStartedAt ≤ sample.generatedAt ∧ ∃ first front back,
      windowSamples samples windowStartedAt observedAt =
        first :: (front ++ sample :: back) ∧
      windowSamples fewer windowStartedAt observedAt =
        first :: (front ++ back)) := by
  obtain ⟨earlier, later, isSamples, isFewer, _, notFirst⟩ := leaves.split
  have beforeCurrent : ∀ other ∈ samples, other.generatedAt ≤ observedAt := by
    obtain ⟨initial, last, split, isCurrent⟩ := history.current
    intro other mem
    have ordered := history.ordered
    rw [split, List.pairwise_append] at ordered
    rw [split, List.mem_append, List.mem_singleton] at mem
    rcases mem with old | rfl
    · have before := ordered.2.2 other old last List.mem_cons_self
      rw [← isCurrent]
      by_contra later
      exact absurd before (not_lt.mpr (Int.ediv_le_ediv settings.intervalPositive
        (le_of_lt (not_le.mp later))))
    · exact le_of_eq isCurrent
  by_cases inWindow : windowStartedAt ≤ sample.generatedAt
  · right
    refine ⟨inWindow, ?_⟩
    obtain ⟨other, otherMem, otherIn⟩ :=
      notFirst windowStartedAt isStart inWindow
    have otherSample : other ∈ samples := by
      rw [isSamples]
      exact List.mem_append_left _ otherMem
    have otherKept : other ∈ windowSamples earlier windowStartedAt observedAt := by
      rw [windowSamples, List.mem_filter]
      exact ⟨otherMem, by simp [otherIn, beforeCurrent other otherSample]⟩
    obtain ⟨first, front, isEarlier⟩ :=
      List.exists_cons_of_ne_nil (List.ne_nil_of_mem otherKept)
    have isSample : sample ∈ samples := by
      rw [isSamples]
      exact List.mem_append_right _ List.mem_cons_self
    refine ⟨first, front, windowSamples later windowStartedAt observedAt, ?_, ?_⟩
    · rw [windowSamples] at isEarlier ⊢
      rw [isSamples, List.filter_append, isEarlier, List.filter_cons_of_pos]
      · rfl
      · simp [inWindow, beforeCurrent sample isSample]
    · rw [windowSamples] at isEarlier ⊢
      rw [isFewer, List.filter_append, isEarlier]
      rfl
  · left
    refine ⟨not_le.mp inWindow, ?_⟩
    rw [windowSamples, windowSamples, isSamples, isFewer, List.filter_append,
      List.filter_append, List.filter_cons_of_neg]
    simp [inWindow]

theorem LeavesOut.goodSampleCount (leaves : LeavesOut settings definition
    observedAt samples sample fewer)
    (history : CaptureHistory settings.snapshotIntervalSeconds observedAt samples)
    (isStart : windowStartedAt ∈ settings.windowStarts observedAt) :
    (sloWindowStats fewer definition windowStartedAt observedAt
        settings.snapshotIntervalSeconds).goodSampleCount =
      (sloWindowStats samples definition windowStartedAt observedAt
        settings.snapshotIntervalSeconds).goodSampleCount := by
  have notGood := leaves.notGood
  rw [MetricSample.isGood] at notGood
  rcases leaves.window history isStart with ⟨_, same⟩ | ⟨_, first, front, back, isWindow, isFewer⟩
  · simp only [sloWindowStats, same]
  · simp only [sloWindowStats, isWindow, isFewer, List.countP_filter,
      List.countP_cons, List.countP_append]
    rw [Bool.and_comm] at notGood
    simp [notGood]

structure NoBetter (before after : SloEvaluation) : Prop where
  observedRatio : ∀ old new, before.longWindow.observedRatio = some old →
    after.longWindow.observedRatio = some new → new ≤ old
  shortObservedRatio : ∀ old new, before.shortWindow.observedRatio = some old →
    after.shortWindow.observedRatio = some new → new ≤ old
  burnRate : ∀ old new, before.burnRate = some old → after.burnRate = some new →
    old ≤ new
  shortBurnRate : ∀ old new, before.shortBurnRate = some old →
    after.shortBurnRate = some new → old ≤ new
  alertLevel : before.alertLevel.rank ≤ after.alertLevel.rank
  status : before.status = .breached → after.status ≠ .met

theorem observedRatio_congr {interval : Int}
    (sampleCount : (sloWindowStats fewer definition windowStartedAt observedAt
        interval).sampleCount =
      (sloWindowStats samples definition windowStartedAt observedAt interval).sampleCount)
    (goodSampleCount : (sloWindowStats fewer definition windowStartedAt observedAt
        interval).goodSampleCount =
      (sloWindowStats samples definition windowStartedAt observedAt interval).goodSampleCount) :
    (sloWindowStats fewer definition windowStartedAt observedAt interval).observedRatio =
      (sloWindowStats samples definition windowStartedAt observedAt interval).observedRatio := by
  have ratioOf : ∀ own : List MetricSample,
      (sloWindowStats own definition windowStartedAt observedAt interval).observedRatio =
        if (sloWindowStats own definition windowStartedAt observedAt
            interval).sampleCount = 0 then none
        else some (((sloWindowStats own definition windowStartedAt observedAt
            interval).goodSampleCount : Rat) /
          (sloWindowStats own definition windowStartedAt observedAt
            interval).sampleCount) := fun _ => rfl
  rw [ratioOf fewer, ratioOf samples, sampleCount, goodSampleCount]

theorem noBetter_of_counts (counts : ∀ windowStartedAt ∈ settings.windowStarts observedAt,
      (sloWindowStats fewer definition windowStartedAt observedAt
          settings.snapshotIntervalSeconds).sampleCount =
        (sloWindowStats samples definition windowStartedAt observedAt
          settings.snapshotIntervalSeconds).sampleCount ∧
      (sloWindowStats fewer definition windowStartedAt observedAt
          settings.snapshotIntervalSeconds).goodSampleCount =
        (sloWindowStats samples definition windowStartedAt observedAt
          settings.snapshotIntervalSeconds).goodSampleCount) :
    NoBetter (evaluateSlo settings definition samples observedAt)
      (evaluateSlo settings definition fewer observedAt) := by
  have long := counts (observedAt - settings.sloWindowSeconds) List.mem_cons_self
  have short := counts (observedAt - settings.sloShortWindowSeconds)
    (List.mem_cons_of_mem _ List.mem_cons_self)
  have longRatio := observedRatio_congr long.1 long.2
  have shortRatio := observedRatio_congr short.1 short.2
  have sameStatus : (evaluateSlo settings definition fewer observedAt).status =
      (evaluateSlo settings definition samples observedAt).status := by
    simp only [evaluateSlo, sloStatus, long.1, longRatio]
  have sameBurn : (evaluateSlo settings definition fewer observedAt).burnRate =
      (evaluateSlo settings definition samples observedAt).burnRate := by
    simp only [evaluateSlo, longRatio]
  have sameShort : (evaluateSlo settings definition fewer observedAt).shortBurnRate =
        (evaluateSlo settings definition samples observedAt).shortBurnRate := by
    simp only [evaluateSlo, shortRatio]
  have sameLevel : (evaluateSlo settings definition fewer observedAt).alertLevel =
      (evaluateSlo settings definition samples observedAt).alertLevel := by
    simp only [evaluateSlo, sloStatus, long.1, longRatio, short.1, shortRatio]
  constructor
  · intro old new isOld isNew
    have same := isNew.symm.trans (longRatio.trans isOld)
    exact le_of_eq (Option.some.inj same)
  · intro old new isOld isNew
    have same := isNew.symm.trans (shortRatio.trans isOld)
    exact le_of_eq (Option.some.inj same)
  · intro old new isOld isNew
    rw [sameBurn, isOld] at isNew
    exact le_of_eq (Option.some.inj isNew)
  · intro old new isOld isNew
    rw [sameShort, isOld] at isNew
    exact le_of_eq (Option.some.inj isNew)
  · rw [sameLevel]
  · intro breached met
    rw [sameStatus, breached] at met
    cases met

/-- Missing intervals count as not good: both windows count their buckets, also without a
snapshot that is not good, which makes nothing better. -/
def MissingCountsAsNotGood (settings : SloSettings) (definition : SloDefinition)
    (samples : List MetricSample) (observedAt : Time) : Prop :=
  (∀ windowStartedAt ∈ settings.windowStarts observedAt,
    CountsMissing definition settings.snapshotIntervalSeconds samples windowStartedAt observedAt) ∧
  ∀ sample fewer, LeavesOut settings definition observedAt samples sample fewer →
    (∀ windowStartedAt ∈ settings.windowStarts observedAt,
      CountsMissing definition settings.snapshotIntervalSeconds fewer windowStartedAt observedAt) ∧
    NoBetter (evaluateSlo settings definition samples observedAt)
      (evaluateSlo settings definition fewer observedAt)

/-- In each window the current snapshot is aligned with the first one, or no
bucket is missing and none can be left out. -/
def WindowsAligned (settings : SloSettings) (definition : SloDefinition)
    (samples : List MetricSample) (observedAt : Time) : Prop :=
  ∀ windowStartedAt ∈ settings.windowStarts observedAt, ∀ first rest,
    windowSamples samples windowStartedAt observedAt = first :: rest →
      Aligned settings.snapshotIntervalSeconds first.generatedAt observedAt ∨
      (((first :: rest).length : Int) = bucketCount
          settings.snapshotIntervalSeconds first.generatedAt observedAt ∧
        ∀ sample fewer, LeavesOut settings definition observedAt samples sample
          fewer → sample.generatedAt < windowStartedAt)

theorem windowsAligned_of_missingCounts
    (history : CaptureHistory settings.snapshotIntervalSeconds observedAt samples)
    (counts : MissingCountsAsNotGood settings definition samples observedAt) :
    WindowsAligned settings definition samples observedAt := by
  intro windowStartedAt isStart first rest isWindow
  have counted := (history.countsMissing_iff settings.intervalPositive
    isWindow).mp (counts.1 windowStartedAt isStart)
  by_cases aligned : Aligned settings.snapshotIntervalSeconds first.generatedAt observedAt
  · exact Or.inl aligned
  · have complete := counted.resolve_left aligned
    right
    refine ⟨complete, fun sample fewer leaves => ?_⟩
    rcases leaves.window history isStart with ⟨before, _⟩ |
      ⟨_, own, front, back, ofSamples, ofFewer⟩
    · exact before
    · obtain ⟨rfl, rfl⟩ := List.cons.inj (isWindow.symm.trans ofSamples)
      have later := ((leaves.history history).countsMissing_iff
        settings.intervalPositive ofFewer).mp
          ((counts.2 sample fewer leaves).1 windowStartedAt isStart)
      have short := later.resolve_left aligned
      simp only [List.length_cons, List.length_append] at complete short
      omega

/-- The counts are right, and stay right, exactly if the windows are aligned. -/
theorem missingCountsAsNotGood_iff
    (history : CaptureHistory settings.snapshotIntervalSeconds observedAt samples) :
    MissingCountsAsNotGood settings definition samples observedAt ↔
      WindowsAligned settings definition samples observedAt := by
  refine ⟨windowsAligned_of_missingCounts history, fun aligned => ?_⟩
  have counts : ∀ windowStartedAt ∈ settings.windowStarts observedAt,
      CountsMissing definition settings.snapshotIntervalSeconds samples
        windowStartedAt observedAt := by
    intro windowStartedAt isStart
    obtain ⟨first, rest, isWindow⟩ :=
      history.exists_first (windowStart_le isStart)
    apply (history.countsMissing_iff settings.intervalPositive isWindow).mpr
    rcases aligned windowStartedAt isStart first rest isWindow with own | own
    · exact Or.inl own
    · exact Or.inr own.1
  refine ⟨counts, fun sample fewer leaves => ?_⟩
  have fewerHistory := leaves.history history
  have fewerCounts : ∀ windowStartedAt ∈ settings.windowStarts observedAt,
      CountsMissing definition settings.snapshotIntervalSeconds fewer
        windowStartedAt observedAt := by
    intro windowStartedAt isStart
    rcases leaves.window history isStart with ⟨_, same⟩ |
      ⟨inWindow, first, front, back, isWindow, isFewer⟩
    · obtain ⟨first, rest, isWindow⟩ :=
        history.exists_first (windowStart_le isStart)
      have counted := (history.countsMissing_iff settings.intervalPositive
        isWindow).mp (counts windowStartedAt isStart)
      rw [← same] at isWindow
      exact (fewerHistory.countsMissing_iff settings.intervalPositive isWindow).mpr counted
    · apply (fewerHistory.countsMissing_iff settings.intervalPositive isFewer).mpr
      rcases aligned windowStartedAt isStart _ _ isWindow with own | ⟨_, none⟩
      · exact Or.inl own
      · exact absurd inWindow (not_le.mpr (none sample fewer leaves))
  refine ⟨fewerCounts, noBetter_of_counts fun windowStartedAt isStart => ?_⟩
  refine ⟨?_, leaves.goodSampleCount history isStart⟩
  rcases leaves.window history isStart with ⟨_, same⟩ | ⟨_, first, front, back, isWindow, isFewer⟩
  · simp only [sloWindowStats, same]
  · rw [(fewerCounts windowStartedAt isStart _ _ isFewer).1,
      (counts windowStartedAt isStart _ _ isWindow).1]

end LeftOut

def minuteSlo : SloSettings where
  snapshotIntervalSeconds := 60
  sloWindowSeconds := 3600
  sloShortWindowSeconds := 300
  sloMinSamples := 2
  sloWarningBurnRate := 6
  sloCriticalBurnRate := 14
  intervalPositive := by decide
  windowPositive := by decide
  shortWindowPositive := by decide

def workerOnline : SloDefinition where
  metricNames := ["model_atlas_worker_online"]
  evaluator := fun values =>
    (values.lookup "model_atlas_worker_online").any (fun online => 1 ≤ online)
  targetRatio := 99 / 100

def onlineAt (time : Time) : MetricSample :=
  ⟨time, [("model_atlas_worker_online", 1)]⟩

def missedMinute : List MetricSample :=
  [onlineAt 59, onlineAt 120]

theorem captureHistory_pair {first last : Time} (later : bucketOf 60 first <
    bucketOf 60 last) : CaptureHistory 60 last [onlineAt first, onlineAt last] where
  ordered := by
    rw [List.pairwise_pair]
    exact later
  current := ⟨[onlineAt first], onlineAt last, rfl, rfl⟩

theorem missingCountsAsNotGood_evenMinutes : MissingCountsAsNotGood minuteSlo workerOnline
      [onlineAt 30, onlineAt 150] 150 := by
  have history : CaptureHistory minuteSlo.snapshotIntervalSeconds 150
      [onlineAt 30, onlineAt 150] := captureHistory_pair (by decide)
  refine (missingCountsAsNotGood_iff history).mpr ?_
  intro windowStartedAt isStart first rest isWindow
  left
  have mem : first ∈ windowSamples [onlineAt 30, onlineAt 150] windowStartedAt 150 := by
    rw [isWindow]
    exact List.mem_cons_self
  have isSample := List.mem_of_mem_filter mem
  rw [List.mem_cons, List.mem_singleton] at isSample
  rcases isSample with rfl | rfl
  · rw [Aligned]
    decide
  · rw [Aligned]
    decide

theorem missingCountsAsNotGood_missedMinute :
    CaptureHistory minuteSlo.snapshotIntervalSeconds 120 missedMinute ∧
      (evaluateSlo minuteSlo workerOnline missedMinute 120).longWindow.observedRatio = some 1 ∧
      (evaluateSlo minuteSlo workerOnline missedMinute 120).longWindow.missingSampleCount = 0 ∧
      bucketCount 60 59 120 = 3 ∧
      ¬ MissingCountsAsNotGood minuteSlo workerOnline missedMinute 120 := by
  have history : CaptureHistory minuteSlo.snapshotIntervalSeconds 120
      missedMinute := captureHistory_pair (by decide)
  refine ⟨history, by decide +kernel, by decide +kernel, by decide, ?_⟩
  intro counts
  have counted := counts.1 (120 - 3600) List.mem_cons_self (onlineAt 59) [onlineAt 120] rfl
  have isTwo : (sloWindowStats missedMinute workerOnline (120 - 3600) 120 60).sampleCount = 2 := by
    decide +kernel
  have wrong := isTwo.symm.trans counted.1
  exact absurd wrong (by decide)

end ModelAtlas.Reliability
