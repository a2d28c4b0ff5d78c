import CanaryRelease.Bootstrap
import CanaryRelease.Canary
import CanaryRelease.Cluster.Server
import CanaryRelease.Cluster.Site
import CanaryRelease.Cluster.Store
import CanaryRelease.Cluster.Tracker
import CanaryRelease.Digest.Sha256
import CanaryRelease.Drill.Path
import CanaryRelease.Drill.Step
import CanaryRelease.Failure
import CanaryRelease.Number.Binary64
import CanaryRelease.Number.Shortest
import CanaryRelease.PodTemplate.Fingerprint
import CanaryRelease.PodTemplate.Labels
import CanaryRelease.PodTemplate.Location
import CanaryRelease.PodTemplate.Ports
import CanaryRelease.PodTemplate.ScaleMarker
import CanaryRelease.Program
import CanaryRelease.Proofs.CalmRuns
import CanaryRelease.Proofs.Creation
import CanaryRelease.Proofs.Exchange
import CanaryRelease.Proofs.Interleaving
import CanaryRelease.Proofs.LostUpdates
import CanaryRelease.Proofs.ObjectCalls
import CanaryRelease.Proofs.Places
import CanaryRelease.Proofs.PodSpecs
import CanaryRelease.Proofs.PrimaryAgreement
import CanaryRelease.Proofs.Promotion
import CanaryRelease.Proofs.PromotionEffect
import CanaryRelease.Proofs.Replacements
import CanaryRelease.Proofs.ScaleDown
import CanaryRelease.Proofs.Scalings
import CanaryRelease.Proofs.SiteRuns
import CanaryRelease.Proofs.Trackers
import CanaryRelease.Proofs.TwinAgreement
import CanaryRelease.Proofs.Twins
import CanaryRelease.Proofs.Versions
import CanaryRelease.Request
import CanaryRelease.Rollout.Condition
import CanaryRelease.Rollout.Readiness
import CanaryRelease.Rollout.Status
import CanaryRelease.Settings
import CanaryRelease.Telemetry
import CanaryRelease.Text.Blank
import CanaryRelease.Text.Cased
import CanaryRelease.Text.Digit
import CanaryRelease.Text.Hex
import CanaryRelease.Text.Lowercase
import CanaryRelease.Text.Numeral
import CanaryRelease.Text.Printable
import CanaryRelease.Text.Quoted
import CanaryRelease.Time.Date
import CanaryRelease.Time.Reader
import CanaryRelease.Time.Timestamp
import CanaryRelease.Value.Access
import CanaryRelease.Value.Basic
import CanaryRelease.Value.Canonical
import CanaryRelease.Value.Compare
import CanaryRelease.Value.Display
import CanaryRelease.Value.Key
import CanaryRelease.Value.Manifest
import CanaryRelease.Value.Reader
import CanaryRelease.Workload.Calls
import CanaryRelease.Workload.Checks
import CanaryRelease.Workload.Controller
import CanaryRelease.Workload.Kind
import CanaryRelease.Workload.ObjectName
import CanaryRelease.Workload.Primary
import CanaryRelease.Workload.Registry
import CanaryRelease.Workload.Scaling
import CanaryRelease.Workload.ServiceController
import CanaryRelease.Workload.TemplateController
import CanaryRelease.Proofs.CallWrites
import CanaryRelease.Proofs.Ownership
import CanaryRelease.Proofs.CanonicalTexts
import CanaryRelease.Proofs.CanonicalAgreement
import CanaryRelease.Proofs.Digests
import CanaryRelease.Proofs.Revisions
import CanaryRelease.Proofs.Decimals
import CanaryRelease.Proofs.SameTexts
import CanaryRelease.Proofs.SameRevisions
import CanaryRelease.Proofs.TrackerTexts
import CanaryRelease.Proofs.VersionPromotions
import CanaryRelease.Proofs.ServiceVersions
import CanaryRelease.Proofs.UnchangedTargets
import CanaryRelease.Proofs.ScaleStates
import CanaryRelease.Proofs.ScalingRuns
import CanaryRelease.Proofs.ScaledTargets
import CanaryRelease.Proofs.FailedCalls
import CanaryRelease.Proofs.Pairings
import CanaryRelease.Proofs.Establishing
import CanaryRelease.Proofs.Repeated
import CanaryRelease.Proofs.Attempts
import CanaryRelease.Proofs.Outcomes
import CanaryRelease.Proofs.Retries
import CanaryRelease.Proofs.Generations
import CanaryRelease.Proofs.SpecChanges
import CanaryRelease.Proofs.Staleness
import CanaryRelease.Proofs.Avoidance
import CanaryRelease.Proofs.Refusals
import CanaryRelease.Proofs.ConfigCopies
import CanaryRelease.Proofs.Strategies
import CanaryRelease.Proofs.Confinement
import CanaryRelease.Proofs.Noninterference
import CanaryRelease.Proofs.Calendar
import CanaryRelease.Proofs.Verdicts
import CanaryRelease.Proofs.RolloutFields
import CanaryRelease.Proofs.RolloutChecks
import CanaryRelease.Proofs.Occasions
import CanaryRelease.Proofs.Evaluations
import CanaryRelease.Proofs.Tallies
import CanaryRelease.Proofs.WeekDates
import CanaryRelease.Proofs.TimestampTexts
import CanaryRelease.Proofs.ConditionTimes
import CanaryRelease.Proofs.CommaLists
import CanaryRelease.Proofs.PairingLabels
import CanaryRelease.Proofs.DiscoveredPorts
import CanaryRelease.Proofs.ServiceSpecs
import CanaryRelease.Proofs.MirroredServices
import CanaryRelease.Proofs.SettingItems
import CanaryRelease.Proofs.Numerals
import CanaryRelease.Proofs.CanaryIntegers
import CanaryRelease.Proofs.Notices
import CanaryRelease.Proofs.ForeignMarks
