import Tearline.AgreeingSources
import Tearline.Backends.PgVector
import Tearline.Backends.PgVectorScan
import Tearline.Backends.Harness
import Tearline.Backends.Qdrant
import Tearline.Backends.QdrantScan
import Tearline.CandidateLimit
import Tearline.CauseAttribution
import Tearline.Classification
import Tearline.Deployment
import Tearline.Differential
import Tearline.Disclosure
import Tearline.Evaluate.Agreement
import Tearline.Evaluate.Authoring
import Tearline.Evaluate.Completion
import Tearline.Evaluate.Conformance
import Tearline.Evaluate.Documents
import Tearline.Evaluate.Load
import Tearline.Evaluate.LoadCycles
import Tearline.Evaluate.Rate
import Tearline.Evaluate.Reading
import Tearline.Evaluate.Registry
import Tearline.ExitStatus
import Tearline.Evaluate.Writing
import Tearline.Expectations
import Tearline.FixtureLoader
import Tearline.Identities
import Tearline.IgnoredClauses
import Tearline.Library.Audit
import Tearline.Library.Dialogue
import Tearline.Library.Dict
import Tearline.Library.Formula
import Tearline.Library.Layers
import Tearline.Library.Links
import Tearline.Library.Loop
import Tearline.Library.Paging
import Tearline.Library.RunningMeet
import Tearline.Library.Session
import Tearline.Library.Timeline
import Tearline.Library.Value
import Tearline.LiveScan
import Tearline.Loading
import Tearline.Printing
import Tearline.RuleLoader
import Tearline.SafeBound
import Tearline.Scan
import Tearline.SharedFields
import Tearline.SimulatedStore
import Tearline.Simulated
import Tearline.ScanCommand
import Tearline.SourceLoss
import Tearline.SourceOrder
import Tearline.Sources
import Tearline.TagStores
import Tearline.TargetLoader
import Tearline.TrustedBound
import Tearline.ValidateFixtures
import Tearline.Validator
import Tearline.VerifyCommand
import Tearline.Verify.Evidence
import Tearline.Verify.ProbeAudit
import Tearline.Verify.Reordering
import Tearline.Verify.Report
