import Mathlib.Tactic.Common

/-!
# Permissions

The permission matrix of `permissions.py`, by role.
-/

namespace InfraOps

inductive Permission
  | infrastructureRead
  | provisioningValidate
  | provisioningSubmit
  | jobsRead
  | jobsRetry
  | jobsCancel
  | auditRead
  | adminVcenters
  | adminCertificates
  | adminApplications
  | adminCredentials
  | adminSettings
  deriving DecidableEq

/-- `ROLE_VIEWER`. -/
def roleViewer : List Permission := [.infrastructureRead, .jobsRead, .auditRead]

/-- `ROLE_OPERATOR`. -/
def roleOperator : List Permission :=
  roleViewer ++ [.provisioningValidate, .provisioningSubmit, .jobsRetry, .jobsCancel]

/-- `ROLE_ADMINISTRATOR`. -/
def roleAdministrator : List Permission :=
  [.infrastructureRead, .provisioningValidate, .provisioningSubmit, .jobsRead, .jobsRetry,
    .jobsCancel, .auditRead, .adminVcenters, .adminCertificates, .adminApplications,
    .adminCredentials, .adminSettings]

/-- `ROLE_PERMISSIONS.get(role, frozenset())`. -/
def rolePermissions (role : String) : List Permission :=
  if role = "viewer" then roleViewer
  else if role = "operator" then roleOperator
  else if role = "administrator" then roleAdministrator
  else []

def rolesGrant (roles : List String) (permission : Permission) : Bool :=
  roles.any fun role => permission ∈ rolePermissions role

end InfraOps
