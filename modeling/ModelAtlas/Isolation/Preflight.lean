import Mathlib.Data.List.Dedup
import Mathlib.Data.List.Sort
import ModelAtlas.Foundations.Json

/-!
# Isolation policies

`services/workload_isolation.py`: the policies and the preflight that an
execution has to pass before its adapter is asked and its handlers run.  The
parts of a URL and of a path are taken from outside.
-/

namespace ModelAtlas.Isolation

open Foundations

inductive WorkloadKind where
  | tool
  | rag
  deriving DecidableEq, Repr

def WorkloadKind.text : WorkloadKind → String
  | .tool => "tool"
  | .rag => "rag"

inductive NetworkMode where
  | none
  | internalAllowlist
  deriving DecidableEq, Repr

inductive CredentialMode where
  | none
  | environmentAllowlist
  deriving DecidableEq, Repr

/-- What the preflight reads of an `IsolationPolicy`. -/
structure IsolationPolicy where
  policyId : String
  workloadKinds : List WorkloadKind
  networkMode : NetworkMode
  allowedNetworkHosts : List String
  credentialMode : CredentialMode
  (allowedSecretEnvs readOnlyPaths writablePaths allowedTools : List String)
  subprocessAllowed : Bool
  deriving DecidableEq

def localTools : List String :=
  ["create_ticket", "lookup_customer", "lookup_internal_document",
    "lookup_policy", "search_incidents", "summarize_thread"]

def toolOfflineStrict : IsolationPolicy where
  policyId := "tool-offline-strict"
  workloadKinds := [.tool]
  networkMode := .none
  allowedNetworkHosts := []
  credentialMode := .none
  allowedSecretEnvs := []
  readOnlyPaths := ["/app"]
  writablePaths := ["/tmp/model-atlas"]
  allowedTools := localTools
  subprocessAllowed := false

def ragReadonlyInternal : IsolationPolicy where
  policyId := "rag-readonly-internal"
  workloadKinds := [.rag]
  networkMode := .internalAllowlist
  allowedNetworkHosts := ["ollama", "vllm"]
  credentialMode := .none
  allowedSecretEnvs := []
  readOnlyPaths := ["/app", "/data/rag"]
  writablePaths := ["/tmp/model-atlas"]
  allowedTools := []
  subprocessAllowed := false

def toolRagInternalAuthenticated : IsolationPolicy where
  policyId := "tool-rag-internal-authenticated"
  workloadKinds := [.tool, .rag]
  networkMode := .internalAllowlist
  allowedNetworkHosts := ["ollama", "vllm"]
  credentialMode := .environmentAllowlist
  allowedSecretEnvs := ["OPENAI_COMPATIBLE_API_KEY"]
  readOnlyPaths := ["/app", "/data/rag"]
  writablePaths := ["/tmp/model-atlas"]
  allowedTools := localTools
  subprocessAllowed := false

def isolationPolicies : List IsolationPolicy :=
  [toolOfflineStrict, ragReadonlyInternal, toolRagInternalAuthenticated]

/-- `ISOLATION_POLICIES.get`. -/
def isolationPolicy? (policyId : String) : Option IsolationPolicy :=
  isolationPolicies.find? (fun policy => policy.policyId = policyId)

/-- What the preflight takes from outside: `urlparse(value).hostname`, where it
raises nothing, and `posixpath.normpath`. -/
structure IsolationEnvironment where
  lower : String → String
  urlHostname : String → Option String
  normpath : String → String

structure IsolationPreflight where
  workloadKind : WorkloadKind
  (requestedTools networkHosts secretEnvs readPaths writePaths : List String)
  subprocessRequested : Bool

/-- `validate_bounded_strings`, of a list of at most `maxLength` items. -/
def boundedStrings (maxLength : Nat) (values : List String) : Option (List String) :=
  let normalized := values.map pyStrip
  if maxLength < values.length ∨ normalized.any (fun value =>
    value = "" || 500 < value.length) then none
  else some normalized.reverse.dedup.reverse

/-- The validation of an `IsolationPreflightCreate`. -/
def IsolationPreflight.validated (req : IsolationPreflight) : Option IsolationPreflight := do
  let requestedTools ← boundedStrings 100 req.requestedTools
  let networkHosts ← boundedStrings 50 req.networkHosts
  let secretEnvs ← boundedStrings 20 req.secretEnvs
  let readPaths ← boundedStrings 100 req.readPaths
  let writePaths ← boundedStrings 100 req.writePaths
  some { req with
    requestedTools := requestedTools
    networkHosts := networkHosts
    secretEnvs := secretEnvs
    readPaths := readPaths
    writePaths := writePaths }

section Preflight

variable (env : IsolationEnvironment)

/-- `_normalized_host`; nothing where it raises. -/
def normalizedHost (value : String) : Option String :=
  let url :=
    if pyContains value "://" then value else "internal://" ++ value
  (env.urlHostname url).bind (fun hostname =>
    let host := env.lower (pyStrip hostname)
    if host = "" then none else some host)

def notAllowed (values allowed : List String) : List String :=
  (values.filter (fun value => !allowed.contains value)).dedup.insertionSort (· ≤ ·)

end Preflight

def IsolationPolicy.AllowsHost (policy : IsolationPolicy) (host : String) :
    Prop :=
  policy.networkMode ≠ .none ∧ host ∈ policy.allowedNetworkHosts

def IsolationPolicy.AllowsSecret (policy : IsolationPolicy) (name : String) :
    Prop :=
  policy.credentialMode ≠ .none ∧ name ∈ policy.allowedSecretEnvs

end ModelAtlas.Isolation
