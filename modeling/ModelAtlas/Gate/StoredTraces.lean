import ModelAtlas.Agent.SuccessfulTraces
import ModelAtlas.Gate.CriticalEvaluation

/-!
# Stored traces

A trace that is stored unchanged is read back with its own fields, and the
trace of a successful run passes the strict validation of the evaluator.
-/

namespace ModelAtlas.Gate

open Foundations Approval Agent

theorem orNull_of_accepted {accepts : Json → Bool} {value : Json}
    (accepted : accepts value = true) : orNull accepts value = true := by
  cases value with
  | null => rfl
  | _ => exact accepted

theorem orNull_optionText (value : Option String) :
    orNull isStr (Json.optionText value) = true := by
  cases value with
  | none => rfl
  | some text => rfl

theorem isListOf_map {Item : Type} {accepts : Json → Bool} {encode : Item → Json}
    {items : List Item} (accepted : ∀ item ∈ items, accepts (encode item) = true) :
    isListOf accepts (.arr (items.map encode)) = true := by
  simpa [isListOf] using accepted

theorem isListOf_texts (texts : List String) : isListOf isStr (.arr (texts.map .str)) = true :=
  isListOf_map (fun _ _ => rfl)

section Accepted

variable {env : AgentEnvironment}

theorem validFields_observation (step : AgentStep) :
    validFields observationFields (step.observation env) = true := by
  simp [validFields, observationFields, AgentStep.observation, Json.isObject,
    Json.get?, isStr, isBool, isInt, orNull_optionText]

theorem validFields_step {step : AgentStep} (phase : step.phase = phaseOf step.parentStepIndex)
    (input : step.input.isObject = true)
    (output : ∀ output, step.output = some output → output.isObject = true) :
    validFields stepFields (step.toJson env) = true := by
  have object : (step.toJson env).isObject = true := rfl
  have phaseAccepted :
      isOneOf ["plan", "recovery"] (.str step.phase) = true := by
    rw [phase]
    cases step.parentStepIndex with
    | none => rfl
    | some trigger => rfl
  have outputAccepted : orNull Json.isObject (step.output.getD .null) = true := by
    cases stored : step.output with
    | none => rfl
    | some value => exact orNull_of_accepted (output value stored)
  have parentAccepted : orNull isInt ((step.parentStepIndex.map
      (fun index => Json.int index)).getD .null) = true := by
    cases step.parentStepIndex with
    | none => rfl
    | some index => rfl
  have observationAccepted : orNull (validFields observationFields) (step.observation env) = true :=
    orNull_of_accepted (validFields_observation step)
  rw [validFields, object, Bool.true_and]
  simp only [stepFields, AgentStep.toJson, Json.get?, List.all_cons,
    List.all_nil, List.find?, String.reduceEq, decide_true, decide_false,
    Option.map_some, phaseAccepted, outputAccepted, parentAccepted,
    observationAccepted, input, isListOf_texts, orNull_optionText, isStr,
    isBool, isInt, Bool.and_self]

theorem validFields_replan {event : ReplanEvent} {step : AgentStep}
    (observation : event.observation = step.observation env)
    (shape : EventShape event.source event.modelCall) :
    validFields replanFields event.toJson = true := by
  have object : event.toJson.isObject = true := rfl
  have sourceAccepted : isOneOf ["predeclared_plan", "live_callback"]
      (.str event.source) = true := by
    rcases shape.source with predeclared | live
    · rw [predeclared]
      rfl
    · rw [live]
      rfl
  have modelCallAccepted : orNull Json.isObject event.modelCall = true := by
    rcases shape.modelCall with none | isObject
    · rw [none]
      rfl
    · exact orNull_of_accepted isObject
  have observationAccepted : orNull (validFields observationFields) event.observation = true := by
    rw [observation]
    exact orNull_of_accepted (validFields_observation step)
  have indicesAccepted : isListOf isInt (.arr (event.recoveryStepIndices.map
      (fun index => .int index))) = true := isListOf_map (fun _ _ => rfl)
  rw [validFields, object, Bool.true_and]
  simp only [replanFields, ReplanEvent.toJson, Json.get?, List.all_cons,
    List.all_nil, List.find?, String.reduceEq, decide_true, decide_false,
    Option.map_some, sourceAccepted, modelCallAccepted, observationAccepted,
    indicesAccepted, isListOf_texts, orNull_optionText, isStr, isBool, isInt,
    Bool.and_self]

theorem validFields_trace {trace : AgentExecutionTrace}
    (status : trace.status = "success")
    (replans : ∀ event ∈ trace.replans, validFields replanFields event.toJson = true)
    (steps : ∀ step ∈ trace.steps, validFields stepFields (step.toJson env) = true) :
    validFields traceFields (trace.toJson env) = true := by
  have stepsAccepted := isListOf_map steps
  have replansAccepted := isListOf_map replans
  have matchAccepted : orNull isBool ((trace.recoverySequenceMatch.map
      (fun sequenceMatch => Json.bool sequenceMatch)).getD .null) = true := by
    cases trace.recoverySequenceMatch with
    | none => rfl
    | some sequenceMatch => rfl
  have statusAccepted : isOneOf ["success", "partial_failure", "failed",
      "invalid_plan", "limit_exceeded", "pending_approval",
      "approval_denied"] (.str trace.status) = true := by
    rw [status]
    rfl
  have reading : validFields traceFields (trace.toJson env) =
      (orNull isStr (Json.optionText trace.parseError) &&
        (isOneOf ["success", "partial_failure", "failed", "invalid_plan",
            "limit_exceeded", "pending_approval", "approval_denied"]
            (.str trace.status) &&
          (isListOf isStr (.arr (trace.expectedActionSequence.map .str)) &&
            (isListOf isStr (.arr (trace.actualActionSequence.map .str)) &&
              (orNull isBool ((trace.recoverySequenceMatch.map
                  (fun sequenceMatch => Json.bool sequenceMatch)).getD .null) &&
                (orNull isStr (Json.optionText trace.haltReason) &&
                  (isListOf (validFields replanFields)
                      (.arr (trace.replans.map ReplanEvent.toJson)) &&
                    (isListOf (validFields stepFields) (.arr (trace.steps.map
                      (AgentStep.toJson env))) && true)))))))) := rfl
  rw [reading]
  simp only [statusAccepted, matchAccepted, replansAccepted, stepsAccepted,
    isListOf_texts, orNull_optionText, Bool.and_self]

end Accepted

end ModelAtlas.Gate
