import InfraOps.Applications.ApprovedInstallers
import InfraOps.Applications.CatalogEdits
import InfraOps.Applications.InstallOrder
import InfraOps.Auth.RefreshTokens
import InfraOps.JobRun.Agreement
import InfraOps.JobRun.BootMedia
import InfraOps.JobRun.Cancellation
import InfraOps.JobRun.CompletedWork
import InfraOps.JobRun.FailedPreparation
import InfraOps.JobRun.FailureStatus
import InfraOps.JobRun.Release
import InfraOps.JobRun.Rename
import InfraOps.JobRun.Revival
import InfraOps.Queue.Progress
import InfraOps.Queue.TaskTable
import InfraOps.Secrets.KeyRotation
import InfraOps.Services.RetryRequest
import InfraOps.Services.Submission
import InfraOps.Sessions.LostOwnership
import InfraOps.Sessions.SingleExecutor
import InfraOps.Vsphere.Ownership
import InfraOps.Sessions.Flush
import InfraOps.Sessions.Machine
import InfraOps.Sessions.Writes
import InfraOps.Applications.Definitions
import InfraOps.Unattend.ReadBack
import InfraOps.Schemas.StoredRequest
import InfraOps.Preflight.Prediction
import InfraOps.Applications.EditCheck
import InfraOps.Preflight.ApplicationOrder
import InfraOps.Vsphere.DataDisks
import InfraOps.Workers.SetupWatch
import InfraOps.Applications.DetectionPrograms
import InfraOps.Unattend.AnswerFidelity
import InfraOps.Services.SecretFiles
import InfraOps.Certificates.Verification
import InfraOps.Migrations.Soundness
import InfraOps.Preflight.AutomaticPlacement
import InfraOps.Applications.Containment
import InfraOps.Core.Redaction
import InfraOps.Core.RateLimit
import InfraOps.Core.ClientIp
import InfraOps.Vsphere.InventoryRefs
import InfraOps.Vsphere.OwnerMarker
import InfraOps.Core.MetricLabels
import InfraOps.Schemas.AddressRules
import InfraOps.Api.TechnicalDetail
import InfraOps.Wizard.Location
import InfraOps.Wizard.ShownIdentity
import InfraOps.Live.Settled
import InfraOps.Auth.StreamTickets
import InfraOps.Browser.IdleTimeout
import InfraOps.Browser.ApiClient
import InfraOps.Browser.SharedCookie
import InfraOps.Wizard.Acceptance
import InfraOps.Guest.InitializeDisks
import InfraOps.JobRun.DomainMember
import InfraOps.Applications.KeptSoftware
