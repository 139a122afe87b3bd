import InfraOps.Models.Jobs
import InfraOps.Core.Text

/-!
# Records

What the job machinery leaves behind besides the job: audit entries, metric increments and
notifications. The actor, the datacenter and the durations of an entry are left out.
-/

namespace InfraOps

inductive AuditAction
  | jobStarted
  | jobStageFailed
  | jobCompleted
  | jobFailed
  | jobCancelled
  | jobInterrupted
  | jobStageRetried
  | unattendedMediaRemoved
  deriving DecidableEq

structure AuditEntry where
  action : AuditAction
  resourceName : String
  result : String
  details : List (String × String) := []
  detailText : Option String := none
  deriving DecidableEq

inductive NotificationKind
  | jobFailed
  | jobCompleted
  deriving DecidableEq

inductive Record
  | audit (entry : AuditEntry)
  | jobsTotal (status : String)
  | stageFailures (stage : Stage)
  | notification (kind : NotificationKind) (title message : String)
  deriving DecidableEq

/-- `notify_requester`: nothing without a requester. -/
def notifyRequester (job : ProvisioningJob) (kind : NotificationKind)
    (text : String × String) : List Record :=
  match job.requestedByUserId with
  | none => []
  | some _ => [.notification kind (firstChars 200 text.1) (firstChars 2000 text.2)]

def failedMessage (job : ProvisioningJob) (stageName reason : String) : String × String :=
  (s!"{job.vmName} deployment failed", s!"'{stageName}' failed: {reason}")

def interruptedMessage (job : ProvisioningJob) (reason : String) : String × String :=
  (s!"{job.vmName} deployment was interrupted",
    s!"{reason} Retry the job; stages that already finished are not repeated.")

/-- The `summary` artifact of the final validation, as far as the messages read it. -/
structure Summary where
  fqdn : String := ""
  computerName : String := ""
  ipAddress : String := ""
  checksPassed : Nat := 0

def completedMessage (job : ProvisioningJob) (summary : Summary) : String × String :=
  let identity :=
    if summary.fqdn ≠ "" then summary.fqdn
    else if summary.computerName ≠ "" then summary.computerName else job.vmName
  let details := identity ++ (if summary.ipAddress = "" then "" else s!" · {summary.ipAddress}")
  let checks :=
    if summary.checksPassed = 0 then ""
    else s!" All {summary.checksPassed} final checks passed."
  (s!"{job.vmName} is ready", s!"Deployment finished and was verified: {details}.{checks}")

end InfraOps
