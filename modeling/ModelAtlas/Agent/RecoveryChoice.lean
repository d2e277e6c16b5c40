import ModelAtlas.Agent.Plan

/-!
# The choice of a recovery branch

What `_select_recovery_plan` of `services/agent_execution/recovery.py` may return
once `_has_ambiguous_recovery_plans` has passed the branches of a plan.
-/

namespace ModelAtlas.Agent

/-- The test of `_select_recovery_plan`. -/
def RecoveryBranch.answers (triggerStepIndex : Nat) (errorType : String)
    (branch : RecoveryBranch) : Bool :=
  branch.triggerStepIndex = triggerStepIndex &&
    (branch.onErrorTypes.isEmpty || branch.onErrorTypes.contains errorType)

theorem recoveryPlansOverlap_iff {left right : RecoveryBranch} :
    recoveryPlansOverlap left right = true ↔ ∃ triggerStepIndex errorType,
      left.answers triggerStepIndex errorType = true ∧
        right.answers triggerStepIndex errorType = true := by
  simp only [recoveryPlansOverlap, RecoveryBranch.answers, Bool.and_eq_true, decide_eq_true_eq,
    Bool.or_eq_true, List.isEmpty_iff, List.any_eq_true, List.contains_iff_mem]
  constructor
  · rintro ⟨sameTrigger, (anyLeft | anyRight) | ⟨errorType, inLeft, inRight⟩⟩
    · cases errors : right.onErrorTypes with
      | nil => exact ⟨left.triggerStepIndex, "", by simp [anyLeft, sameTrigger]⟩
      | cons errorType rest =>
        exact ⟨left.triggerStepIndex, errorType, by simp [anyLeft, sameTrigger]⟩
    · cases errors : left.onErrorTypes with
      | nil => exact ⟨left.triggerStepIndex, "", by simp [anyRight, sameTrigger]⟩
      | cons errorType rest =>
        exact ⟨left.triggerStepIndex, errorType, by simp [anyRight, sameTrigger]⟩
    · exact ⟨left.triggerStepIndex, errorType, ⟨rfl, Or.inr inLeft⟩, sameTrigger, Or.inr inRight⟩
  · rintro ⟨triggerStepIndex, errorType, ⟨leftTrigger, leftErrors⟩, rightTrigger, rightErrors⟩
    refine ⟨rightTrigger.trans leftTrigger.symm, ?_⟩
    rcases leftErrors with anyLeft | inLeft
    · exact Or.inl (Or.inl anyLeft)
    · rcases rightErrors with anyRight | inRight
      · exact Or.inl (Or.inr anyRight)
      · exact Or.inr ⟨errorType, inLeft, inRight⟩

theorem hasAmbiguousRecoveryPlans_iff : ∀ recoveryPlans : List RecoveryBranch,
    hasAmbiguousRecoveryPlans recoveryPlans = true ↔ ∃ triggerStepIndex errorType,
      1 < recoveryPlans.countP (RecoveryBranch.answers triggerStepIndex errorType)
  | [] => by simp [hasAmbiguousRecoveryPlans]
  | left :: rest => by
    rw [hasAmbiguousRecoveryPlans, Bool.or_eq_true, hasAmbiguousRecoveryPlans_iff rest,
      List.any_eq_true]
    constructor
    · rintro (⟨right, mem, overlap⟩ | ⟨triggerStepIndex, errorType, twice⟩)
      · obtain ⟨triggerStepIndex, errorType, leftAnswers, rightAnswers⟩ :=
          recoveryPlansOverlap_iff.mp overlap
        refine ⟨triggerStepIndex, errorType, ?_⟩
        have some := List.countP_pos_iff.mpr ⟨right, mem, rightAnswers⟩
        rw [List.countP_cons_of_pos leftAnswers]
        omega
      · refine ⟨triggerStepIndex, errorType, twice.trans_le ?_⟩
        exact (List.sublist_cons_self left rest).countP_le
    · rintro ⟨triggerStepIndex, errorType, twice⟩
      by_cases answers : left.answers triggerStepIndex errorType = true
      · rw [List.countP_cons_of_pos answers] at twice
        obtain ⟨right, mem, rightAnswers⟩ := List.countP_pos_iff.mp (Nat.lt_of_succ_lt_succ twice)
        exact Or.inl ⟨right, mem, recoveryPlansOverlap_iff.mpr ⟨_, _, answers, rightAnswers⟩⟩
      · rw [List.countP_cons_of_neg answers] at twice
        exact Or.inr ⟨triggerStepIndex, errorType, twice⟩

theorem selectRecoveryPlan_perm {recoveryPlans permuted : List RecoveryBranch}
    {triggerStepIndex : Nat} {errorType : String}
    (once : recoveryPlans.countP (RecoveryBranch.answers triggerStepIndex errorType) ≤ 1)
    (perm : recoveryPlans.Perm permuted) :
    selectRecoveryPlan permuted triggerStepIndex errorType =
      selectRecoveryPlan recoveryPlans triggerStepIndex errorType := by
  have same := perm.filter (RecoveryBranch.answers triggerStepIndex errorType)
  rw [List.countP_eq_length_filter] at once
  have firsts : ∀ plans : List RecoveryBranch, selectRecoveryPlan plans triggerStepIndex errorType =
      (plans.filter (RecoveryBranch.answers triggerStepIndex errorType)).head? :=
    fun _ => List.head?_filter.symm
  rw [firsts, firsts]
  cases selected : recoveryPlans.filter (RecoveryBranch.answers triggerStepIndex errorType) with
  | nil =>
    rw [selected] at same
    rw [List.nil_perm.mp same]
  | cons branch rest =>
    rw [selected] at same once
    obtain rfl : rest = [] := List.length_eq_zero_iff.mp (by simpa using once)
    rw [List.singleton_perm.mp same]

end ModelAtlas.Agent
