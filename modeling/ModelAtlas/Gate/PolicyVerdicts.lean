import Mathlib.Data.Rat.Floor
import ModelAtlas.Gate.Scopes

/-!
# Verdicts of an acceptance policy

`services/deployment_gate/policy.py` and the verdict of `evaluator.py`, with
floats as exact numbers and without the details of a rule result.
-/

namespace ModelAtlas.Gate

inductive PolicyOperator where
  | gte
  | lte
  | eq
  | gt
  | lt

inductive RuleSeverity where
  | blocker
  | warning
  deriving DecidableEq

/-- A row of `acceptance_policy_rules`, with the key of its metric. -/
structure AcceptancePolicyRule where
  (ruleName metricKey messageOnFail : String)
  operator : PolicyOperator
  thresholdValue : Rat
  severity : RuleSeverity
  minimumSampleSize : Option Nat
  (required enabled : Bool)

structure AcceptancePolicy where
  allowConditional : Bool
  rules : List AcceptancePolicyRule

structure CalculatedMetric where
  value : Option Rat
  sampleSize : Nat

inductive RuleStatus where
  | pass
  | fail
  | insufficient
  deriving DecidableEq

structure EvaluatedRule where
  rule : AcceptancePolicyRule
  metricValue : Option Rat
  sampleSize : Nat
  status : RuleStatus

def PolicyOperator.compare (value threshold : Rat) : PolicyOperator → Bool
  | .gte => threshold ≤ value
  | .lte => value ≤ threshold
  | .eq => value = threshold
  | .gt => threshold < value
  | .lt => value < threshold

section Evaluation

variable (metrics : String → Option CalculatedMetric)

/-- One turn of the loop of `evaluate_policy_rules`. -/
def evaluateRule (rule : AcceptancePolicyRule) : EvaluatedRule :=
  match metrics rule.metricKey with
  | some ⟨some value, sampleSize⟩ =>
    if rule.minimumSampleSize.any (sampleSize < ·) then
      ⟨rule, some value, sampleSize, .insufficient⟩
    else
      ⟨rule, some value, sampleSize,
        if rule.operator.compare value rule.thresholdValue then .pass else .fail⟩
  | _ => ⟨rule, none, 0, .insufficient⟩

def evaluatePolicyRules (rules : List AcceptancePolicyRule) : List EvaluatedRule :=
  (rules.filter AcceptancePolicyRule.enabled).map (evaluateRule metrics)

def requiredInsufficient (evaluatedRules : List EvaluatedRule) : Bool :=
  evaluatedRules.any (fun evaluated =>
    evaluated.rule.required && evaluated.status = .insufficient)

def EvaluatedRule.failedAs (evaluated : EvaluatedRule) (severity : RuleSeverity) : Bool :=
  evaluated.status = .fail && evaluated.rule.severity = severity

/-- `_resolve_verdict`; the first flag stands for missing or synthetic evidence. -/
def resolveVerdict (evidenceMissing requiredRuleInsufficient : Bool)
    (evaluatedRules : List EvaluatedRule) (criticalFailurePresent allowConditional : Bool) :
    GateVerdict :=
  if evidenceMissing || requiredRuleInsufficient then .insufficientEvidence
  else if evaluatedRules.any (·.failedAs .blocker) then .blocked
  else if criticalFailurePresent then .blocked
  else if evaluatedRules.any (·.failedAs .warning) then
    if allowConditional then .conditional else .blocked
  else .approved

/-- The verdict of `create_gate_evaluation`. -/
def policyVerdict (evidenceMissing criticalFailurePresent : Bool) (policy : AcceptancePolicy) :
    GateVerdict :=
  let evaluatedRules := evaluatePolicyRules metrics policy.rules
  resolveVerdict evidenceMissing (requiredInsufficient evaluatedRules) evaluatedRules
    criticalFailurePresent policy.allowConditional

end Evaluation

/-- The verdicts, from the least that a gate may be used for. -/
def GateVerdict.rank : GateVerdict → Nat
  | .insufficientEvidence => 0
  | .blocked => 1
  | .conditional => 2
  | .approved => 3

/-- The verdict that a rule alone leaves possible. -/
def EvaluatedRule.bound (allowConditional : Bool) (evaluated : EvaluatedRule) : GateVerdict :=
  match evaluated.status, evaluated.rule.severity with
  | .pass, _ => .approved
  | .insufficient, _ => if evaluated.rule.required then .insufficientEvidence else .approved
  | .fail, .blocker => .blocked
  | .fail, .warning => if allowConditional then .conditional else .blocked

def flagsBound (evidenceMissing criticalFailurePresent : Bool) : GateVerdict :=
  if evidenceMissing then .insufficientEvidence
  else if criticalFailurePresent then .blocked else .approved

/-- A rule that fails where the other one does, and counts as much. More samples may only be
asked of a required rule: an optional one would be skipped. -/
structure StricterRule (rule stricter : AcceptancePolicyRule) : Prop where
  enabled : stricter.enabled = true
  metricKey : stricter.metricKey = rule.metricKey
  threshold : ∀ value, stricter.operator.compare value stricter.thresholdValue = true →
    rule.operator.compare value rule.thresholdValue = true
  severity : rule.severity = .blocker → stricter.severity = .blocker
  required : rule.required = true → stricter.required = true
  samples : stricter.minimumSampleSize = rule.minimumSampleSize ∨ (stricter.required = true ∧
    ∀ sampleSize, rule.minimumSampleSize.any (sampleSize < ·) = true →
      stricter.minimumSampleSize.any (sampleSize < ·) = true)

section Bounds

variable (metrics : String → Option CalculatedMetric)
  (evidenceMissing criticalFailurePresent : Bool) {policy : AcceptancePolicy}
  {rule stricter : AcceptancePolicyRule}

theorem policyVerdict_le_flags :
    (policyVerdict metrics evidenceMissing criticalFailurePresent policy).rank ≤
      (flagsBound evidenceMissing criticalFailurePresent).rank := by
  simp only [policyVerdict, resolveVerdict, flagsBound]
  cases evidenceMissing <;> cases criticalFailurePresent <;> grind [GateVerdict.rank]

theorem policyVerdict_le_rule (mem : rule ∈ policy.rules) (enabled : rule.enabled = true) :
    (policyVerdict metrics evidenceMissing criticalFailurePresent policy).rank ≤
      ((evaluateRule metrics rule).bound policy.allowConditional).rank := by
  have evaluated : evaluateRule metrics rule ∈ evaluatePolicyRules metrics policy.rules :=
    List.mem_map_of_mem (List.mem_filter.mpr ⟨mem, enabled⟩)
  have least : ∀ verdict : GateVerdict, verdict.rank ≤ GateVerdict.approved.rank :=
    fun verdict => by cases verdict <;> decide
  simp only [policyVerdict, resolveVerdict]
  cases status : (evaluateRule metrics rule).status with
  | pass => simpa only [EvaluatedRule.bound, status] using least _
  | insufficient =>
    by_cases required : (evaluateRule metrics rule).rule.required = true
    · have found : requiredInsufficient (evaluatePolicyRules metrics policy.rules) = true :=
        List.any_eq_true.mpr ⟨_, evaluated, by simp [required, status]⟩
      simp [found, GateVerdict.rank]
    · simpa only [EvaluatedRule.bound, status, required, Bool.false_eq_true, if_false] using least _
  | fail =>
    have failed : (evaluatePolicyRules metrics policy.rules).any
        (·.failedAs (evaluateRule metrics rule).rule.severity) = true :=
      List.any_eq_true.mpr ⟨_, evaluated, by simp [EvaluatedRule.failedAs, status]⟩
    cases severity : (evaluateRule metrics rule).rule.severity <;> rw [severity] at failed <;>
      simp only [EvaluatedRule.bound, status, severity, failed] <;>
      grind [GateVerdict.rank]

theorem policyVerdict_attained (policy : AcceptancePolicy) :
    policyVerdict metrics evidenceMissing criticalFailurePresent policy =
        flagsBound evidenceMissing criticalFailurePresent ∨
      ∃ rule ∈ policy.rules, rule.enabled = true ∧
        policyVerdict metrics evidenceMissing criticalFailurePresent policy =
          (evaluateRule metrics rule).bound policy.allowConditional := by
  have ofAny : ∀ test : EvaluatedRule → Bool,
      (evaluatePolicyRules metrics policy.rules).any test = true → ∃ rule ∈ policy.rules,
        rule.enabled = true ∧ test (evaluateRule metrics rule) = true := by
    intro test found
    simpa [evaluatePolicyRules, and_assoc] using found
  simp only [policyVerdict, resolveVerdict, flagsBound]
  split
  · next missing =>
    rcases Bool.or_eq_true_iff.mp missing with missing | insufficient
    · simp [missing]
    · obtain ⟨rule, mem, enabled, required⟩ := ofAny _ insufficient
      exact Or.inr ⟨rule, mem, enabled, by grind [EvaluatedRule.bound]⟩
  split
  · next failed =>
    obtain ⟨rule, mem, enabled, blocks⟩ := ofAny _ failed
    exact Or.inr ⟨rule, mem, enabled, by grind [EvaluatedRule.bound, EvaluatedRule.failedAs]⟩
  split
  · grind
  split
  · next failed =>
    obtain ⟨rule, mem, enabled, warns⟩ := ofAny _ failed
    exact Or.inr ⟨rule, mem, enabled, by grind [EvaluatedRule.bound, EvaluatedRule.failedAs]⟩
  · grind

theorem StricterRule.bound_le {allowConditional stricterAllows : Bool}
    (strict : StricterRule rule stricter)
    (allows : stricterAllows = true → allowConditional = true) :
    ((evaluateRule metrics stricter).bound stricterAllows).rank ≤
      ((evaluateRule metrics rule).bound allowConditional).rank := by
  obtain ⟨_, metricKey, threshold, severity, required, samples⟩ := strict
  simp only [evaluateRule, metricKey]
  split
  · next value sampleSize _ =>
    have meets := threshold value
    have asked : stricter.minimumSampleSize = rule.minimumSampleSize ∨ (stricter.required = true ∧
        (rule.minimumSampleSize.any (sampleSize < ·) = true →
          stricter.minimumSampleSize.any (sampleSize < ·) = true)) :=
      samples.imp_right fun ⟨isRequired, more⟩ => ⟨isRequired, more sampleSize⟩
    cases rule.severity <;> cases stricter.severity <;> grind [EvaluatedRule.bound, GateVerdict.rank]
  · grind [EvaluatedRule.bound, GateVerdict.rank]

structure StricterPolicy (policy stricter : AcceptancePolicy) : Prop where
  allows : stricter.allowConditional = true → policy.allowConditional = true
  rules : ∀ rule ∈ policy.rules, rule.enabled = true →
    ∃ other ∈ stricter.rules, StricterRule rule other

/-- Under a stricter policy no evidence gets a better verdict. -/
theorem policyVerdict_antitone {stricter : AcceptancePolicy}
    (strict : StricterPolicy policy stricter) :
    (policyVerdict metrics evidenceMissing criticalFailurePresent stricter).rank ≤
      (policyVerdict metrics evidenceMissing criticalFailurePresent policy).rank := by
  rcases policyVerdict_attained metrics evidenceMissing criticalFailurePresent policy with
    flags | ⟨rule, mem, enabled, decides⟩
  · rw [flags]
    exact policyVerdict_le_flags metrics evidenceMissing criticalFailurePresent
  · obtain ⟨other, otherMem, stricterRule⟩ := strict.rules rule mem enabled
    rw [decides]
    exact (policyVerdict_le_rule metrics evidenceMissing criticalFailurePresent otherMem
      stricterRule.enabled).trans (stricterRule.bound_le metrics strict.allows)

end Bounds

def latencyRule (required : Bool) (minimumSampleSize : Option Nat) (thresholdValue : Rat) :
    AcceptancePolicyRule where
  ruleName := "latency"
  metricKey := "p95_end_to_end_latency_ms"
  messageOnFail := "too slow"
  operator := .lte
  thresholdValue := thresholdValue
  severity := .blocker
  minimumSampleSize := minimumSampleSize
  required := required
  enabled := true

def measuredLatency : String → Option CalculatedMetric := fun _ => some ⟨some 900, 10⟩

theorem policyVerdict_antitone_latency :
    (policyVerdict measuredLatency false false ⟨true, [latencyRule true (some 20) 800]⟩).rank ≤
      (policyVerdict measuredLatency false false ⟨true, [latencyRule true (some 5) 1000]⟩).rank := by
  refine policyVerdict_antitone _ false false ⟨id, fun rule mem _ =>
    ⟨_, List.mem_singleton_self _, ?_⟩⟩
  obtain rfl := List.mem_singleton.mp mem
  refine ⟨rfl, rfl, ?_, fun _ => rfl, fun _ => rfl, Or.inr ⟨rfl, ?_⟩⟩
  · intro value fast
    have fast : value ≤ 800 := of_decide_eq_true fast
    exact decide_eq_true (fast.trans (by decide +kernel))
  · intro sampleSize few
    have few : sampleSize < 5 := of_decide_eq_true few
    exact decide_eq_true (few.trans (by decide))

/-- An optional rule that blocks a gate is skipped when it asks for more samples. -/
example : policyVerdict measuredLatency false false ⟨true, [latencyRule false (some 5) 800]⟩ =
      .blocked ∧
    policyVerdict measuredLatency false false ⟨true, [latencyRule false (some 20) 800]⟩ =
      .approved := by
  decide +kernel

end ModelAtlas.Gate
