import BrokerHarness.ApiServer.Client
import BrokerHarness.Artifact.Directory
import BrokerHarness.CustomResource.Address
import BrokerHarness.CustomResource.Broker
import BrokerHarness.Simulation.Evaluation
import BrokerHarness.Simulation.Existence
import BrokerHarness.Simulation.Session
import BrokerHarness.Json.Printer
import BrokerHarness.Proofs.Polling.Bound
import BrokerHarness.Proofs.Polling.Decision
import BrokerHarness.Proofs.Operator.Lifetime
import BrokerHarness.Proofs.Resource.Readiness
import BrokerHarness.Proofs.NameResolution.Shared
import BrokerHarness.Proofs.Resource.FirstReady
import BrokerHarness.Proofs.Operator.Removal
import BrokerHarness.Proofs.FailingCalls
import BrokerHarness.Proofs.Operator.Stages
import BrokerHarness.Proofs.Resource.ConditionWait
import BrokerHarness.Proofs.Confinement
import BrokerHarness.Proofs.Resource.Frame
import BrokerHarness.Proofs.ApiServer.Apply
import BrokerHarness.Proofs.ApiServer.ConcurrentApply
import BrokerHarness.Proofs.Operator.FirstDeployment
import BrokerHarness.Proofs.CustomResource.ReadBack
import BrokerHarness.Proofs.RefusedWait
import BrokerHarness.Proofs.ApiServer.ApplyRequests
import BrokerHarness.Proofs.Condition.Judgement
import BrokerHarness.Proofs.Condition.Latest
import BrokerHarness.Proofs.Condition.Rearrangement
import BrokerHarness.Proofs.ApiServer.Absence
import BrokerHarness.Proofs.Resource.Desired
import BrokerHarness.Proofs.Operator.Preparation
import BrokerHarness.Proofs.Object.Placement
import BrokerHarness.Proofs.Operator.Scope
import BrokerHarness.Proofs.NameResolution.ByName
import BrokerHarness.Proofs.FailureOrigin
import BrokerHarness.Proofs.Operator.Candidates
import BrokerHarness.Proofs.Label.Sanitized
import BrokerHarness.Proofs.Label.Stem
import BrokerHarness.Proofs.Resource.VolumeClaims
import BrokerHarness.Proofs.Resource.StrayClaims
import BrokerHarness.Proofs.Resource.Notations
