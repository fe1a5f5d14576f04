import FactScope.CodedError.Form
import FactScope.Detection
import FactScope.Json.Writable
import FactScope.Log.Caller
import FactScope.Manifest
import FactScope.Proofs.Resolution.Qualified
import FactScope.Proofs.Session.Version
import FactScope.Proofs.Workspace.Frame
import FactScope.Setup
import FactScope.Yaml.Document
import FactScope.Proofs.Resolution.Dependence
import FactScope.Proofs.Session.Supply
import FactScope.Proofs.Workspace.Ownership
import FactScope.Proofs.Value.Member
import FactScope.Proofs.Value.Overlay
import FactScope.Proofs.Settings.Normal
import FactScope.Proofs.Settings.Sources
import FactScope.Proofs.Settings.Precedence
import FactScope.Proofs.Settings.Destination
import FactScope.Proofs.Settings.Outcome
import FactScope.Proofs.Settings.Dump
import FactScope.Proofs.Setup
import FactScope.Proofs.Log.Caller
import FactScope.Proofs.Resolution.Segment
import FactScope.Proofs.Resolution.Course
import FactScope.Proofs.Resolution.Order
import FactScope.Proofs.Resolution.Namespace
import FactScope.Proofs.Resolution.Spaced
import FactScope.Proofs.Resolution.Runs
import FactScope.Proofs.Detection.Caller
import FactScope.Proofs.Location.Segment
import FactScope.Proofs.Verbatim.Failure
import FactScope.Proofs.Verbatim.Agreement
import FactScope.Proofs.Session.Clone
import FactScope.Proofs.Session.EmptyVersion
import FactScope.Proofs.Value.Json
import FactScope.Proofs.Value.Descent
import FactScope.Proofs.Value.Grouping
import FactScope.Proofs.Settings.Components
import FactScope.Proofs.Settings.NullSection
import FactScope.Proofs.Workspace.Walk
import FactScope.Proofs.Workspace.Matching
import FactScope.Proofs.Settings.Report
import FactScope.Proofs.Settings.Ranking
