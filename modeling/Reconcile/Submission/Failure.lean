import Reconcile.Submission.Request

namespace Reconcile

-- Why an operation is refused before anything is sent.
inductive Refusal where
  | emptyField (kind : Section) (field : String)
  | shapeMismatch (kind : Section)
  | parentNotAllowed (kind parent : Section)
  | unsupportedVerb (kind : Section) (verb : Verb)
  | missingPayload (kind : Section) (verb : Verb)
  | transactionRequired (kind : Section)
deriving DecidableEq, Repr

def Refusal.message : Refusal → String
  | .emptyField kind field => s!"{kind.name}: required field `{field}` is empty"
  | .shapeMismatch kind => s!"{kind.name} is addressed as a {kind.shape.text}"
  | .parentNotAllowed kind parent => s!"{kind.name} cannot be placed in a {parent.name}"
  | .unsupportedVerb kind verb => s!"{verb.text} is not supported for {kind.name}"
  | .missingPayload kind verb => s!"{verb.text} of {kind.name} has no payload"
  | .transactionRequired kind => s!"{kind.name} can only be changed inside a transaction"

-- Why a call to the API brought no status.
inductive TransportError where
  | connect (detail : String)
  | timeout
  | request (detail : String)
  | unexpectedResponse (status : Nat) (detail : String)
  | invalidEndpoint (detail : String)
deriving DecidableEq, Repr

def TransportError.message : TransportError → String
  | .connect detail => "connection failed: " ++ detail
  | .timeout => "request timed out"
  | .request detail => "request failed: " ++ detail
  | .unexpectedResponse status detail => s!"unexpected response (status {status}): {detail}"
  | .invalidEndpoint detail => "invalid endpoint: " ++ detail

-- The caller stopped waiting.
inductive Interruption where
  | cancelled
  | deadlineExceeded
deriving DecidableEq, Repr

def Interruption.message : Interruption → String
  | .cancelled => "operation cancelled"
  | .deadlineExceeded => "deadline exceeded"

-- An answer outside the successful statuses.
structure Rejection where
  status : Nat
  kind : Section
  target : Target
deriving DecidableEq, Repr

def Rejection.message (r : Rejection) : String :=
  s!"{r.kind.name} {r.target.text} rejected with status {r.status}"

def Request.rejection (r : Request) (status : Nat) : Rejection := ⟨status, r.kind, r.target⟩

-- Why an operation failed. Only a version conflict is retried, so it comes with the number of
-- submissions that were made.
inductive Failure where
  | validation (refusal : Refusal)
  | transform (error : TransformError)
  | transport (error : TransportError)
  | api (rejection : Rejection)
  | conflict (rejection : Rejection) (attempts : Nat)
  | context (interruption : Interruption)
deriving DecidableEq, Repr

inductive FailureClass where
  | validation | transform | transport | api | conflict | context
deriving DecidableEq, Repr

def FailureClass.text : FailureClass → String
  | .validation => "validation"
  | .transform => "transform"
  | .transport => "transport"
  | .api => "api"
  | .conflict => "conflict"
  | .context => "context"

namespace Failure

def message : Failure → String
  | .validation refusal => "validation failed: " ++ refusal.message
  | .transform error => "transform failed: " ++ error.message
  | .transport error => "transport error: " ++ error.message
  | .api rejection => "api error: " ++ rejection.message
  | .conflict rejection attempts =>
    s!"version conflict after {attempts} attempts: {rejection.message}"
  | .context interruption => interruption.message

def category : Failure → FailureClass
  | .validation _ => .validation
  | .transform _ => .transform
  | .transport _ => .transport
  | .api _ => .api
  | .conflict _ _ => .conflict
  | .context _ => .context

-- Whether nothing can have been sent.
def isLocal : Failure → Bool
  | .validation _ | .transform _ => true
  | _ => false

def status? : Failure → Option Nat
  | .api rejection | .conflict rejection _ => some rejection.status
  | _ => none

end Failure
end Reconcile
