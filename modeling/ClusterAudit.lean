import ClusterAudit.Cluster.Api
import ClusterAudit.Image.Registry
import ClusterAudit.Json.Pointer
import ClusterAudit.Json.Writer
import ClusterAudit.Main
import ClusterAudit.Probe
import ClusterAudit.Settings.Document
import ClusterAudit.World
import ClusterAudit.Proofs.Cluster.Store
import ClusterAudit.Proofs.Pass.Run
import ClusterAudit.Proofs.Converged
import ClusterAudit.Proofs.Pass.ScanApi
import ClusterAudit.Proofs.Pass.Workloads
import ClusterAudit.Proofs.Pass.Admission
import ClusterAudit.Proofs.Labels
import ClusterAudit.Proofs.Pass.Nodes
import ClusterAudit.Proofs.Pass.Features
import ClusterAudit.Proofs.Pass.Reconcile
import ClusterAudit.Proofs.Instant
import ClusterAudit.Proofs.Reached
import ClusterAudit.Proofs.Condition
import ClusterAudit.Proofs.Condition.History
import ClusterAudit.Proofs.AuditConfig.Status
import ClusterAudit.Proofs.Pass.Status
import ClusterAudit.Proofs.Again
import ClusterAudit.Proofs.Interleaving
import ClusterAudit.Proofs.Guarded
import ClusterAudit.Proofs.Schema
import ClusterAudit.Proofs.Managed.Amounts
import ClusterAudit.Proofs.Managed.Views
import ClusterAudit.Proofs.Managed.Merging
import ClusterAudit.Proofs.Managed
import ClusterAudit.Proofs.Pass.Ensure
import ClusterAudit.Proofs.Work.Basic
import ClusterAudit.Proofs.Work.Workloads
import ClusterAudit.Proofs.Work.Nodes
import ClusterAudit.Proofs.Work.Admission
import ClusterAudit.Proofs.Work.ScanApi
import ClusterAudit.Proofs.Work.Features
import ClusterAudit.Proofs.Bounded
import ClusterAudit.Proofs.Registrations
import ClusterAudit.Proofs.Deletions
import ClusterAudit.Proofs.Requeue
import ClusterAudit.Proofs.Cluster.Versions
import ClusterAudit.Proofs.Pass.Revisions
import ClusterAudit.Proofs.Writers
import ClusterAudit.Proofs.Discipline
import ClusterAudit.Proofs.Scans
import ClusterAudit.Proofs.Cluster.Timeless
import ClusterAudit.Proofs.Report
import ClusterAudit.Proofs.Pass.Lockstep
import ClusterAudit.Proofs.Pass.Paired
import ClusterAudit.Proofs.Pass.Turns
import ClusterAudit.Proofs.Race
import ClusterAudit.Proofs.Retry
import ClusterAudit.Proofs.Chronicle
import ClusterAudit.Proofs.Token
import ClusterAudit.Proofs.Pass.Reporting
import ClusterAudit.Proofs.Reported
import ClusterAudit.Proofs.Labelled
import ClusterAudit.Proofs.AuditConfig.Document
import ClusterAudit.Proofs.Departure
import ClusterAudit.Proofs.Legacy
import ClusterAudit.Proofs.Cluster.Kept
import ClusterAudit.Proofs.Pass.Elsewhere
import ClusterAudit.Proofs.Work.Restart
import ClusterAudit.Proofs.Restart
import ClusterAudit.Proofs.Quantity.Reading
import ClusterAudit.Proofs.Quantity.Display
import ClusterAudit.Proofs.Resources
import ClusterAudit.Proofs.Naming.Scan
import ClusterAudit.Proofs.Image.Reference
import ClusterAudit.Proofs.Image.Path
import ClusterAudit.Proofs.Image.Offline
import ClusterAudit.Proofs.Image.Challenge
import ClusterAudit.Proofs.Managed.Certificates
import ClusterAudit.Proofs.Selection
import ClusterAudit.Proofs.Json.MergePatch
import ClusterAudit.Proofs.Statuses
