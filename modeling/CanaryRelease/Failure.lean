import CanaryRelease.Text.Lowercase
import CanaryRelease.Text.Numeral
import CanaryRelease.Time.Reader
import CanaryRelease.Value.Compare
import CanaryRelease.Workload.Kind
import CanaryRelease.Workload.ObjectName

/-!
# Failures

Why an operation ends without an answer. A `WorkloadError` is a failure that the caller is expected
to handle: it has a category, which decides whether trying again may help, and names the object it
is about. Everything else is an input that cannot be used: an invalid field, a date out of range, or
a value of the wrong shape.
-/

namespace CanaryRelease

/-- What a caller has to know about a failure before anything else. -/
inductive Category where
  | api
  | notFound
  | conflict
  | notReady
  | stuck
  | configuration
  deriving DecidableEq, Repr

namespace Category

/-- The category as reports name it. -/
def name : Category → String
  | api => "api"
  | notFound => "not_found"
  | conflict => "conflict"
  | notReady => "not_ready"
  | stuck => "stuck"
  | configuration => "configuration"

/-- Whether a later try may succeed without anybody changing the manifests. -/
def retryable : Category → Bool
  | stuck | configuration => false
  | _ => true

end Category

/-- A call that the API server refused. -/
structure RefusedCall where
  /-- What the call was made for. -/
  action : String
  /-- The kind of the object. -/
  kind : String
  object : ObjectName
  /-- The status and the reason that the server gave. -/
  status : Value
  reason : Value
  deriving DecidableEq

/-- Who asked whether a rollout is complete. -/
inductive ReadinessCheck where
  /-- The check of a rollout status by itself. -/
  | status
  /-- The check of a primary. -/
  | primary
  /-- The check of a target. -/
  | canary (kind : TemplateKind)
  deriving DecidableEq, Repr

/-- A rollout that is not complete. -/
structure NotReady where
  check : ReadinessCheck
  object : ObjectName
  /-- The rollout is past its deadline. -/
  stuck : Bool
  /-- What the rollout waits for. -/
  reason : String
  deriving DecidableEq

/-- What is wrong with settings or with a target manifest. -/
inductive ConfigurationProblem where
  /-- The settings name no selector label. -/
  | noSelectorLabels
  /-- Of the candidates for the pairing label, none or more than one is in the selector. -/
  | pairingLabel (kind : TemplateKind) (object : ObjectName) (candidates : List String)
      (several : Bool)
  /-- The update strategy is not fit for a canary release. -/
  | strategy (kind : TemplateKind) (object : ObjectName) (found : Value)
  /-- The primary declares no replicas. -/
  | primaryAtZero (kind : TemplateKind) (canary : String) (object : ObjectName)
  deriving DecidableEq

/-- A failure that the caller is expected to handle. -/
inductive WorkloadError where
  /-- The configuration tracker failed. -/
  | tracker (operation message : String)
  | refused (call : RefusedCall)
  | notReady (report : NotReady)
  | configuration (problem : ConfigurationProblem)
  deriving DecidableEq

/-- A field that holds a value of the right shape but not a valid one. -/
inductive InvalidValue where
  /-- A canary without a name or a namespace. -/
  | missingIdentity
  /-- A canary that names no target. -/
  | missingTarget (canary : ObjectName)
  | unknownPhase (phase : Value)
  | numeral (text : String) (error : Text.NumeralError)
  /-- A number that is none, where an integer is due. -/
  | notANumber
  | timestamp (error : TimestampError)
  /-- An entry of a list of pairs that is no pair. -/
  | pairLength (index length : Nat)
  deriving DecidableEq

/-- Why an operation ends without an answer. -/
inductive Failure where
  | workload (error : WorkloadError)
  | invalid (value : InvalidValue)
  /-- A date or a span of time beyond what dates can express. -/
  | outOfRange
  /-- A value of the wrong shape was used, or a field that has to be there is not. -/
  | malformed
  deriving DecidableEq

/-! ## Categories and places -/

/-- The category of a refusal follows from its status. -/
def RefusedCall.category (call : RefusedCall) : Category :=
  if call.status.alike (.int 404) then .notFound
  else if call.status.alike (.int 409) then .conflict
  else .api

namespace WorkloadError

/-- The category of an error. -/
def category : WorkloadError → Category
  | tracker .. => .api
  | refused call => call.category
  | notReady report => if report.stuck then .stuck else .notReady
  | configuration _ => .configuration

/-- Whether a later try may succeed without anybody changing the manifests. -/
def retryable (e : WorkloadError) : Bool := e.category.retryable

/-- The operation that failed. -/
def operation : WorkloadError → String
  | tracker operation _ => operation
  | refused call => call.action
  | notReady report =>
    match report.check with
    | .status => "readiness"
    | .primary => "is_primary_ready"
    | .canary _ => "is_canary_ready"
  | configuration .noSelectorLabels => "load settings"
  | configuration (.pairingLabel ..) => "get selector label"
  | configuration (.strategy ..) => "create primary"
  | configuration (.primaryAtZero ..) => "is_primary_ready"

/-- The object that the failure is about. -/
def object? : WorkloadError → Option ObjectName
  | tracker .. => none
  | refused call => some call.object
  | notReady report => some report.object
  | configuration .noSelectorLabels => none
  | configuration (.pairingLabel _ object _ _) => some object
  | configuration (.strategy _ object _) => some object
  | configuration (.primaryAtZero _ _ object) => some object

/-- The status that the API server gave, null if it was not the server that failed. -/
def status : WorkloadError → Value
  | refused call => call.status
  | _ => .null

end WorkloadError

/-! ## Messages -/

/-- The message of a refused call. -/
def RefusedCall.message (call : RefusedCall) : String :=
  call.action ++ " " ++ Text.lowercase call.kind ++ " " ++ call.object.display ++ " failed: " ++
    call.status.display ++ " " ++ call.reason.display

/-- The message about an incomplete rollout, placed at the object that was checked. -/
def NotReady.message (report : NotReady) : String :=
  let place := report.object.display
  match report.check with
  | .status => report.reason
  | .primary => place ++ " not ready: " ++ report.reason
  | .canary kind => "canary " ++ kind.lowerName ++ " " ++ place ++ " not ready: " ++ report.reason

/-- The message about a configuration. -/
def ConfigurationProblem.message : ConfigurationProblem → String
  | noSelectorLabels => "SELECTOR_LABELS must contain at least one label key"
  | pairingLabel kind object candidates several =>
    kind.lowerName ++ " " ++ object.display ++ " spec.selector.matchLabels must contain " ++
      (if several then "only one of " else "one of ") ++
      (Value.list (candidates.map Value.text)).display
  | strategy kind object found =>
    kind.lowerName ++ " " ++ object.display ++ " must have " ++
      " or ".intercalate kind.allowedStrategies ++ " strategy but has " ++ found.display
  | primaryAtZero kind canary _ =>
    "halt " ++ canary ++ " advancement: primary " ++ kind.lowerName ++ " is scaled to zero"

/-- The message of an error. -/
def WorkloadError.message : WorkloadError → String
  | tracker _ message => message
  | refused call => call.message
  | notReady report => report.message
  | configuration problem => problem.message

/-- The message about an invalid field. -/
def InvalidValue.message : InvalidValue → String
  | missingIdentity => "canary metadata.name and metadata.namespace are required"
  | missingTarget canary => "canary " ++ canary.display ++ " spec.targetRef.name is required"
  | unknownPhase phase => phase.literal ++ " is not a valid CanaryPhase"
  | numeral text .malformed =>
    "invalid literal for int() with base 10: " ++
      String.ofList ((Text.quoted text).toList.take 200)
  | numeral _ (.tooLong digits) =>
    s!"Exceeds the limit ({Text.maxDigits} digits) for integer string conversion: " ++
      s!"value has {digits} digits; use sys.set_int_max_str_digits() to increase the limit"
  | notANumber => "cannot convert float NaN to integer"
  | timestamp error => error.message
  | pairLength index length =>
    s!"dictionary update sequence element #{index} has length {length}; 2 is required"

end CanaryRelease
