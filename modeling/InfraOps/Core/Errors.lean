import Mathlib.Tactic.Common

/-!
# Application errors

`InfraOperationError` is what a stage raises and a job step persists; `AppError` is what
an API request answers with. The message texts are the ones the source builds.
-/

namespace InfraOps

/-- A failure while performing an infrastructure operation. -/
structure InfraOperationError where
  humanMessage : String
  reason : String
  recommendedAction : String
  technicalDetail : String := ""
  retryable : Bool := true
  deriving DecidableEq

def InfraOperationError.summary (e : InfraOperationError) : String :=
  s!"{e.humanMessage} Reason: {e.reason}"

/-- How a handler, or a call it makes, ends without a result: an `InfraOperationError`,
or any other exception with its traceback. -/
inductive Raised
  | infra (error : InfraOperationError)
  | other (traceback : String)
  deriving DecidableEq

/-- The request errors of `app.core.errors` that the job services raise, with the
`details` they carry. -/
inductive AppError
  | notFound (message : String)
  | conflict (message : String) (details : List (String × String))
  | domainValidation (message : String) (details : List (String × String))
  deriving DecidableEq

def AppError.message : AppError → String
  | .notFound message => message
  | .conflict message _ => message
  | .domainValidation message _ => message

def AppError.isConflict : AppError → Bool
  | .conflict _ _ => true
  | _ => false

end InfraOps
