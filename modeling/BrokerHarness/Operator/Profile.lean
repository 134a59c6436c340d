import BrokerHarness.Object.Manifest
import BrokerHarness.Settings

/-!
# The operator under test

Where the operator runs, what it watches and what its deployment is called.
-/

namespace BrokerHarness

/-- Where an operator runs, what it watches and what it is called, and how it gets onto the cluster.
A namespaced operator watches its own namespace only, and one of the whole cluster that watches no
given namespace watches all of them. -/
structure OperatorProfile where
  deploymentNamespace : String
  isNamespaced : Bool
  watchedNamespaces : List String
  resolver : Resolver
  installMethod : InstallMethod

namespace OperatorProfile

/-- An operator that watches its own namespace only. -/
def ofCandidates (ns : String) (method : InstallMethod) (candidates : List String)
    (policy : NamePolicy) : Except Failure OperatorProfile := do
  let resolver ← Resolver.ofCandidates candidates policy
  return {
    deploymentNamespace := ns
    isNamespaced := true
    watchedNamespaces := [ns]
    resolver
    installMethod := method }

/-- The possible names under the settings. The deployment among the install manifests tells the name
that is tried first. -/
def candidatesFor (settings : Settings) (manifests : List Manifest) : List String :=
  let conventional := settings.operatorNames
  match settings.installMethod, manifests.find? (·.kind.name = ObjectKind.deployment.name) with
  | .manifestFile, some deployment =>
    deployment.name :: conventional.filter (· ≠ deployment.name)
  | _, _ => conventional

/-- The operator that settings and install manifests describe. -/
def ofSettings (ns : String) (settings : Settings) (manifests : List Manifest) :
    Except Failure OperatorProfile :=
  ofCandidates ns settings.installMethod (candidatesFor settings manifests) settings.namePolicy

/-- The operator as one of the whole cluster, which watches the given namespaces, all if none. -/
def clusterWide (profile : OperatorProfile) (watched : List String) : OperatorProfile :=
  { profile with isNamespaced := false, watchedNamespaces := watched }

/-- The name of the operator's deployment, once it is found. -/
def resolvedName (profile : OperatorProfile) : Option String := profile.resolver.resolved

/-- What the operator is told to watch: the namespaces separated by commas, or a star for all. -/
def watchText (profile : OperatorProfile) : String :=
  if profile.watchedNamespaces.isEmpty then "*" else ",".intercalate profile.watchedNamespaces

end OperatorProfile

end BrokerHarness
