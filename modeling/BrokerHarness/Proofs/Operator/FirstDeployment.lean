import BrokerHarness.Proofs.FailingCalls
import BrokerHarness.Proofs.Operator.Preparation
import BrokerHarness.Proofs.Operator.Rollout
import Mathlib.Data.List.Find

/-!
# The first deployment among the install manifests

The name of the first deployment among the install manifests is the first candidate of an operator
that is installed from manifests (`OperatorProfile.ofSettings_triesFirst`).  Preparing this manifest
puts it where the search for the operator looks: under the kind of deployments, in the operator's
namespace, under its own name (`Installation.prepare_address_of_deployment`).  So the search asks
for an object that was applied just before, and is over with its first question, whatever other
deployments are on the cluster.

That the search cannot go on behind this answer is read off one run of it: runs of a program do not
extend each other (`Program.Yields.of_prefix`).
-/

namespace BrokerHarness

/-! ### What is looked for first -/

/-- The operator's deployment is looked for under the name first, and the search ends if there is
one. -/
structure OperatorProfile.TriesFirst (profile : OperatorProfile) (name : String) : Prop where
  candidates : ∃ others, profile.resolver.candidates = name :: others
  policy : profile.resolver.policy = .preferNewest
  unresolved : profile.resolvedName = none

namespace OperatorProfile

variable {settings : Settings} {manifests : List Manifest} {first : Manifest}

/-- The name of the first deployment comes before the conventional names that differ from it. -/
lemma candidatesFor_of_manifestFile (hmethod : settings.installMethod = .manifestFile)
    (hfirst : manifests.find? (·.kind.name = ObjectKind.deployment.name) = some first) :
    candidatesFor settings manifests =
      first.name :: settings.operatorNames.filter (· ≠ first.name) := by
  unfold candidatesFor
  rw [hmethod, hfirst]

/-- Settings for an installation from manifests describe an operator that is looked for under the
name of the first deployment among them. -/
lemma ofSettings_triesFirst (ns : String) (hmethod : settings.installMethod = .manifestFile)
    (hpolicy : settings.namePolicy = .preferNewest)
    (hfirst : manifests.find? (·.kind.name = ObjectKind.deployment.name) = some first) :
    ∃ profile, ofSettings ns settings manifests = .ok profile ∧
      profile.deploymentNamespace = ns ∧ profile.TriesFirst first.name := by
  unfold ofSettings
  rw [candidatesFor_of_manifestFile hmethod hfirst, hmethod, hpolicy]
  exact ⟨_, rfl, rfl, ⟨_, rfl⟩, rfl, rfl⟩

/-- What an operator watches does not change which name it tries first. -/
lemma TriesFirst.clusterWide {profile : OperatorProfile} {name : String}
    (h : profile.TriesFirst name) (watched : List String) :
    (profile.clusterWide watched).TriesFirst name :=
  ⟨h.candidates, h.policy, h.unresolved⟩

end OperatorProfile

/-- If only deployments have a kind with their name, the first manifest with such a kind is the
first deployment. -/
lemma find?_deployment_eq {manifests : List Manifest}
    (hkinds : ∀ manifest ∈ manifests, manifest.kind.name = ObjectKind.deployment.name →
      manifest.kind = .deployment) :
    manifests.find? (·.kind.name = ObjectKind.deployment.name) =
      manifests.find? (·.kind = .deployment) := by
  refine List.find?_congr fun manifest hmem => ?_
  rw [decide_eq_decide]
  exact ⟨hkinds manifest hmem, congrArg ObjectKind.name⟩

/-- So the kind is if the API version of a body is the current one of the apps group. -/
example : ObjectKind.ofApiVersion "apps/v1" "Deployment" = .deployment := by decide

/-! ### Where the first deployment is applied -/

/-- The prepared manifest of a deployment is one for the operator's namespace. -/
lemma Installation.prepare_address_of_deployment {profile : OperatorProfile} {manifest : Manifest}
    (hkind : manifest.kind = .deployment) :
    (prepare profile manifest).address =
      ⟨.deployment, some profile.deploymentNamespace, manifest.name⟩ := by
  rw [prepare_address, hkind]
  rfl

/-- Whether the request is for the application of a manifest. -/
def ControlPlaneRequest.IsApply : ControlPlaneRequest → Prop
  | apply _ => True
  | delete _ | get .. | list .. => False

/-- The application of a manifest for the object is accepted in the exchange. -/
inductive Exchange.Stores : ObjectAddress → Exchange controlPlane.timed → Prop where
  | accepted (manifest : Manifest) (stored : Snapshot) :
      Stores manifest.address ⟨.other (.apply manifest), .ok stored⟩

/-- No call of the run fails, and its first look-up finds its object if it was applied before: so
answers a cluster that shows at once what was applied, and from which nothing is removed
meanwhile. -/
structure FindsApplied (t : List (Exchange controlPlane.timed)) : Prop where
  answered : ∀ e ∈ t, ∀ failure, ¬ FailsTimed Exchange.FailsWith e failure
  found : ∀ earlier later kind ns name found,
    t = earlier ++ ⟨.other (.get kind ns name), .ok found⟩ :: later →
    (∀ e ∈ earlier, TimedRequest.Within ControlPlaneRequest.IsApply e.request) →
    (∃ e ∈ earlier, e.Stores ⟨kind, some ns, name⟩) → found.isSome

/-- Among prepared manifests that are applied, each deployment is stored in the operator's
namespace. -/
lemma exists_stores_of_applies {profile : OperatorProfile} {manifests : List Manifest}
    {applications : List (Exchange controlPlane)} {manifest : Manifest}
    (happlied : List.Forall₂ Applies (manifests.map (Installation.prepare profile)) applications)
    (hmem : manifest ∈ manifests) (hkind : manifest.kind = .deployment) :
    ∃ e ∈ applications.map Exchange.timed,
      e.Stores ⟨.deployment, some profile.deploymentNamespace, manifest.name⟩ := by
  induction manifests generalizing applications with
  | nil => cases hmem
  | cons head manifests ih =>
    obtain ⟨e, rest, happlies, hrest, rfl⟩ := List.forall₂_cons_left_iff.mp happlied
    rcases List.mem_cons.mp hmem with rfl | htail
    · refine ⟨e.timed, by simp, ?_⟩
      rw [← Installation.prepare_address_of_deployment hkind]
      cases happlies with
      | accepted stored => exact .accepted _ stored
    · obtain ⟨stores, hstores, haddress⟩ := ih hrest htail
      exact ⟨stores, List.mem_cons_of_mem _ hstores, haddress⟩

/-- Nothing but applications of manifests is asked by applying them. -/
lemma within_isApply_of_applies {manifests : List Manifest}
    {applications : List (Exchange controlPlane)}
    (happlied : List.Forall₂ Applies manifests applications) :
    ∀ e ∈ applications.map Exchange.timed,
      TimedRequest.Within ControlPlaneRequest.IsApply e.request := by
  induction happlied with
  | nil => simp
  | cons happlies _ ih =>
    cases happlies with
    | accepted => exact List.forall_mem_cons.mpr ⟨trivial, ih⟩

/-! ### The search -/

namespace Operator

variable {operator : Operator} {name : String} {t : List (Exchange controlPlane.timed)}
  {r : Except Failure String}

/-- An evaluation is over with its first look-up if that finds the name that is tried first. -/
lemma existingDeployment_yields_of_first (hfirst : operator.profile.TriesFirst name)
    (found : Snapshot) :
    operator.existingDeployment.Yields [deploymentFound operator.deploymentNamespace name found]
      (.ok (.reached name)) := by
  obtain ⟨others, hcandidates⟩ := hfirst.candidates
  refine (existingDeployment_yields_reached_iff hfirst.unresolved).mpr
    ⟨[], found, others, hcandidates, ?_⟩
  unfold resolution
  rw [hfirst.policy]
  rfl

/-- The wait for existence is over with its first look-up if that finds the name that is tried
first. -/
lemma awaitExistence_yields_of_first (hfirst : operator.profile.TriesFirst name)
    (hpos : 0 < operator.pollInterval) (hlt : operator.pollInterval < operator.timeout)
    (start : Nat) (found : Snapshot) :
    operator.awaitExistence.Yields
      [.reading start, (deploymentFound operator.deploymentNamespace name found).timed]
      (.ok name) := by
  refine (poll_yields_iff_of_lt hpos hlt).mpr ?_
  have hreached := existingDeployment_yields_of_first hfirst found
  exact Polling.run_yields_iff.mpr ⟨start, _, _, rfl, .reached hreached⟩

/-- The wait for existence begins with the question for the name that is tried first.  If it is
answered with a deployment, the wait is over. -/
lemma awaitExistence_begins_with_first (hfirst : operator.profile.TriesFirst name)
    (hpos : 0 < operator.pollInterval) (hlt : operator.pollInterval < operator.timeout)
    (h : operator.awaitExistence.Yields t r) :
    ∃ start x later,
      t = .reading start ::
        ⟨.other (.get .deployment operator.deploymentNamespace name), x⟩ :: later ∧
      ∀ found, x = .ok (some found) → later = [] ∧ r = .ok name := by
  obtain ⟨start, rounds, rest, rfl, -⟩ :=
    Polling.run_yields_iff.mp ((poll_yields_iff_of_lt hpos hlt).mp h)
  have hover := awaitExistence_yields_of_first hfirst hpos hlt start
  -- The run is compared with one in which the first look-up finds a deployment.
  have hother := hover ⟨.deployment, none, name, none, .null⟩
  cases rest with
  | nil =>
    obtain ⟨hnil, -⟩ := Program.Yields.of_prefix h hother
    cases hnil
  | cons e later =>
    have hrequest : e.request = .other (.get .deployment operator.deploymentNamespace name) :=
      Program.Yields.next_request (t := [.reading start]) h hother
    obtain ⟨request, x⟩ := e
    obtain rfl : request = _ := hrequest
    refine ⟨start, x, later, rfl, ?_⟩
    rintro found rfl
    exact Program.Yields.of_prefix (hover found) h

/-- On a cluster that finds what was applied, the search that follows the applications asks for the
first deployment among the manifests and is over. -/
lemma awaitExistence_of_findsApplied (operator : Operator) {manifests : List Manifest}
    {first : Manifest}
    {applications : List (Exchange controlPlane)} {watch : List (Exchange controlPlane.timed)}
    (hfirst : operator.profile.TriesFirst first.name)
    (hpos : 0 < operator.pollInterval) (hlt : operator.pollInterval < operator.timeout)
    (hmem : first ∈ manifests) (hkind : first.kind = .deployment)
    (happlied : List.Forall₂ Applies
      (manifests.map (Installation.prepare operator.profile)) applications)
    (h : operator.awaitExistence.Yields t r)
    (hcluster : FindsApplied (applications.map Exchange.timed ++ (t ++ watch))) :
    ∃ start found,
      t = [.reading start,
        (deploymentFound operator.deploymentNamespace first.name found).timed] ∧
      r = .ok first.name := by
  obtain ⟨start, x, later, rfl, hover⟩ := awaitExistence_begins_with_first hfirst hpos hlt h
  have hwithin := within_isApply_of_applies happlied
  obtain ⟨stores, hmemstores, hstores⟩ := exists_stores_of_applies happlied hmem hkind
  cases x with
  | error failure =>
    have hfails : ¬ FailsTimed Exchange.FailsWith
        ⟨.other (.get .deployment operator.deploymentNamespace first.name), .error failure⟩
        failure :=
      hcluster.answered _ (by simp) failure
    exact absurd rfl hfails
  | ok answer =>
    have hfound : answer.isSome = true := by
      refine hcluster.found (applications.map Exchange.timed ++ [.reading start]) (later ++ watch)
        .deployment operator.deploymentNamespace first.name answer (by simp) ?_ ?_
      · exact List.forall_mem_append.mpr ⟨hwithin, List.forall_mem_singleton.mpr trivial⟩
      · exact ⟨stores, List.mem_append_left _ hmemstores, hstores⟩
    obtain ⟨found, rfl⟩ := Option.isSome_iff_exists.mp hfound
    obtain ⟨rfl, rfl⟩ := hover found rfl
    exact ⟨start, found, rfl, rfl⟩

/-! ### The deployment -/

/-- On a cluster that does not fail, the manifests are applied. -/
lemma applyAll_completes_of_answered {manifests : List Manifest} {s : Except Failure Unit}
    (h : (applyAll manifests).timed.Yields t s)
    (hanswered : ∀ e ∈ t, ∀ failure, ¬ FailsTimed Exchange.FailsWith e failure) : s = .ok () := by
  obtain ⟨asked, rfl, hloop⟩ := applyAll_timed_yields_iff.mp h
  cases hloop with
  | completed => rfl
  | @stopped before left manifest asked last e split passed stop =>
    cases stop with
    | refused =>
      have hfails : ¬ FailsTimed Exchange.FailsWith ⟨.other (.apply manifest), .error e⟩ e :=
        hanswered _ (by simp [Exchange.timed]) e
      exact absurd rfl hfails

/-- The stages of a deployment that waits, up to the first that fails: the applications, the search
for the name, and the wait for readiness under the name that was found. -/
lemma DeployRun.stages {after : Operator} {s : Except Failure Unit}
    (h : DeployRun operator true t s after) :
    (∃ e, (applyAll operator.manifests).timed.Yields t (.error e)) ∨
      ∃ t₁ t₂ t₃ search, t = t₁ ++ (t₂ ++ t₃) ∧
        (applyAll operator.manifests).timed.Yields t₁ (.ok ()) ∧
        operator.awaitExistence.Yields t₂ search ∧
        ∀ name, search = .ok name → (operator.awaitReadiness name).Yields t₃ s ∧
          after.profile = (operator.withName name).profile := by
  cases h with
  | applyFailed apply => exact .inl ⟨_, apply⟩
  | @nameless t₁ t₂ e apply existence =>
    refine .inr ⟨t₁, t₂, [], .error e, by rw [List.append_nil], apply, existence, ?_⟩
    rintro name ⟨⟩
  | unready apply existence readiness | ready apply existence readiness =>
    refine .inr ⟨_, _, _, _, rfl, apply, existence, ?_⟩
    rintro name ⟨⟩
    exact ⟨readiness, rfl⟩

end Operator

/-- Settings for an installation from manifests under `preferNewest`, with manifests that contain a
deployment, describe an operator.  Deployed from these manifests, with or without being made one of
the whole cluster, on a cluster that finds at once what was applied, it gets the name of the first
deployment among them.  One look-up settles the name, whatever else exists: it is the only one
between the applications and the wait for readiness. -/
theorem deploy_resolves_to_first_deployment (ns : String) (settings : Settings)
    (manifests : List Manifest) (first : Manifest)
    (hmethod : settings.installMethod = .manifestFile)
    (hpolicy : settings.namePolicy = .preferNewest) (hpos : 0 < settings.pollInterval)
    (hlt : settings.pollInterval < settings.operatorTimeout)
    (hkinds : ∀ manifest ∈ manifests, manifest.kind.name = ObjectKind.deployment.name →
      manifest.kind = .deployment)
    (hfirst : manifests.find? (·.kind = .deployment) = some first) :
    ∃ base, OperatorProfile.ofSettings ns settings manifests = .ok base ∧
      ∀ profile operator, (profile = base ∨ ∃ watched, profile = base.clusterWide watched) →
        operator = Operator.ofManifests profile manifests settings →
        (∀ (σ : Type) (answer : (q : controlPlane.timed.Request) → σ →
            controlPlane.timed.Answer q × σ) (s : σ),
          ∃ t r after, Operator.Yields (Operator.deploy true) operator t r after ∧
            Program.Answered answer s t) ∧
        ∀ t r after, Operator.Yields (Operator.deploy true) operator t r after →
          FindsApplied t →
            after.profile.resolvedName = some first.name ∧
            ∃ applications start found watch,
              t = applications.map Exchange.timed ++
                (.reading start :: (deploymentFound ns first.name found).timed :: watch) ∧
              List.Forall₂ Applies (manifests.map (Installation.prepare profile)) applications ∧
              operator.existingDeployment.Yields [deploymentFound ns first.name found]
                (.ok (.reached first.name)) ∧
              operator.awaitExistence.Yields
                [.reading start, (deploymentFound ns first.name found).timed]
                (.ok first.name) ∧
              (operator.awaitReadiness first.name).Yields watch r := by
  have hfind := (find?_deployment_eq hkinds).trans hfirst
  obtain ⟨base, hbase, hbasens, hbasefirst⟩ :=
    OperatorProfile.ofSettings_triesFirst ns hmethod hpolicy hfind
  have hmem : first ∈ manifests := List.mem_of_find?_eq_some hfirst
  have hkind : first.kind = .deployment := by simpa using List.find?_some hfirst
  refine ⟨base, hbase, ?_⟩
  rintro profile operator hprofile rfl
  have hns : profile.deploymentNamespace = ns := by
    obtain rfl | ⟨watched, rfl⟩ := hprofile <;> exact hbasens
  have htries : profile.TriesFirst first.name := by
    obtain rfl | ⟨watched, rfl⟩ := hprofile
    · exact hbasefirst
    · exact hbasefirst.clusterWide watched
  subst hns
  refine ⟨fun σ answer s => ?_, fun t r after h hcluster => ?_⟩
  · exact Operator.exists_yields (Operator.deploy true) _ answer s
  obtain ⟨-, hrun⟩ | ⟨hphase, -⟩ := Operator.deploy_yields_iff.mp h
  · obtain ⟨e, apply⟩ | ⟨t₁, t₂, watch, search, rfl, apply, existence, hnext⟩ := hrun.stages
    · have hok := Operator.applyAll_completes_of_answered apply hcluster.answered
      cases hok
    obtain ⟨applications, rfl, hloop⟩ := Operator.applyAll_timed_yields_iff.mp apply
    obtain ⟨start, found, rfl, rfl⟩ :=
      (Operator.ofManifests profile manifests settings).awaitExistence_of_findsApplied
        htries hpos hlt hmem hkind hloop.forall₂ existence hcluster
    obtain ⟨readiness, hafter⟩ := hnext first.name rfl
    refine ⟨?_, applications, start, found, watch, rfl, hloop.forall₂,
      Operator.existingDeployment_yields_of_first htries found, existence, readiness⟩
    rw [hafter]
    exact Operator.withName_resolvedName htries.unresolved first.name
  · exact absurd rfl hphase

/-! ### A deployment beside another one under a conventional name -/

namespace FirstDeployment.Sample

def account : Manifest :=
  ⟨.ofApiVersion "v1" "ServiceAccount", none, "manager", .object []⟩

def manager : Manifest := ⟨.deployment, none, "manager", .object []⟩

/-- A deployment under one of the names that operators go by. -/
def conventional : Manifest :=
  ⟨.deployment, some "elsewhere", "activemq-artemis-operator", .object []⟩

def manifests : List Manifest := [account, manager, conventional]

def base : OperatorProfile where
  deploymentNamespace := "broker"
  isNamespaced := true
  watchedNamespaces := ["broker"]
  resolver :=
    ⟨["manager", "activemq-artemis-controller-manager", "activemq-artemis-operator"],
      .preferNewest, none, by simp⟩
  installMethod := .manifestFile

/-- The settings and the install manifests describe this operator. -/
lemma ofSettings_eq_base : OperatorProfile.ofSettings "broker" {} manifests = .ok base := by
  have hcandidates : OperatorProfile.candidatesFor {} manifests = base.resolver.candidates := by
    decide +kernel
  unfold OperatorProfile.ofSettings
  rw [hcandidates]
  rfl

def profile : OperatorProfile := base.clusterWide []

def operator : Operator := Operator.ofManifests profile manifests {}

/-- The deployment as it is shown once it is rolled out. -/
def rolledOut : Snapshot where
  kind := .deployment
  scope := some "broker"
  name := "manager"
  generation := some 1
  body := .object [
    ("metadata", .object [("generation", .int 1)]),
    ("status", .object [("observedGeneration", .int 1), ("readyReplicas", .int 1)])]

def stored (manifest : Manifest) : Snapshot :=
  ⟨manifest.kind, manifest.scope, manifest.name, some 1, manifest.body⟩

def applications : List (Exchange controlPlane) :=
  operator.manifests.map fun manifest => ⟨.apply manifest, .ok (stored manifest)⟩

def stage (snapshot : Snapshot) : List (Exchange controlPlane.timed) :=
  [.reading 0, (deploymentFound "broker" "manager" snapshot).timed]

def exchanges : List (Exchange controlPlane.timed) :=
  applications.map Exchange.timed ++ (stage (stored manager) ++ stage rolledOut)

/-- The name from the install manifests is tried first. -/
lemma triesFirst : operator.profile.TriesFirst "manager" := ⟨⟨_, rfl⟩, rfl, rfl⟩

/-- All manifests are applied. -/
lemma applied : List.Forall₂ Applies operator.manifests applications :=
  .cons (.accepted _ _) (.cons (.accepted _ _) (.cons (.accepted _ _) .nil))

lemma deploy_yields : Operator.Yields (Operator.deploy true) operator exchanges (.ok ())
    ((operator.withName "manager").inPhase .deployed) := by
  have happly : (Operator.applyAll operator.manifests).timed.Yields
      (applications.map Exchange.timed) (.ok ()) :=
    Operator.applyAll_timed_yields_iff.mpr ⟨applications, rfl, .completed applied⟩
  have hsearch : operator.awaitExistence.Yields (stage (stored manager)) (.ok "manager") :=
    Operator.awaitExistence_yields_of_first triesFirst (by decide) (by decide) 0 (stored manager)
  have hready : (operator.readyDeployment "manager").Yields
      [deploymentFound "broker" "manager" rolledOut] (.ok (.reached ())) :=
    Operator.readyDeployment_yields_reached_iff.mpr
      ⟨rolledOut, rfl, Operator.rollout_eq_reached_iff.mp rfl⟩
  have hwatch : (operator.awaitReadiness "manager").Yields (stage rolledOut) (.ok ()) := by
    refine (poll_yields_iff_of_lt (by decide) (by decide)).mpr ?_
    exact Polling.run_yields_iff.mpr ⟨0, _, _, rfl, .reached hready⟩
  exact Operator.deploy_yields_iff.mpr (.inl ⟨rfl, .ready happly hsearch hwatch⟩)

/-- Each look-up of a stage is shown an object. -/
lemma isSome_of_mem_stage {snapshot : Snapshot} {kind : ObjectKind} {ns name : String}
    {found : Option Snapshot}
    (h : (⟨.other (.get kind ns name), .ok found⟩ : Exchange controlPlane.timed) ∈ stage snapshot) :
    found.isSome = true := by
  rcases List.mem_pair.mp h with h | h
  · cases h
  · cases h
    rfl

/-- No exchange of a stage fails. -/
lemma not_fails_of_mem_stage {snapshot : Snapshot} {e : Exchange controlPlane.timed}
    (h : e ∈ stage snapshot) (failure : Failure) :
    ¬ FailsTimed Exchange.FailsWith e failure := by
  rcases List.mem_pair.mp h with rfl | rfl
  · exact id
  · rintro ⟨⟩

/-- Every object that was applied is found by the look-ups behind. -/
lemma findsApplied : FindsApplied exchanges where
  answered := by
    refine List.forall_mem_append.mpr ⟨?_, List.forall_mem_append.mpr ⟨?_, ?_⟩⟩
    · simp [applications, Exchange.timed, FailsTimed, Exchange.FailsWith]
    · exact fun e => not_fails_of_mem_stage
    · exact fun e => not_fails_of_mem_stage
  found := by
    intro earlier later kind ns name found hsplit _ _
    have hmem : (⟨.other (.get kind ns name), .ok found⟩ : Exchange controlPlane.timed) ∈
        exchanges := by
      rw [hsplit]
      simp
    rcases List.mem_append.mp hmem with happly | hstage
    · exact (within_isApply_of_applies applied _ happly).elim
    · rcases List.mem_append.mp hstage with h | h
      · exact isSome_of_mem_stage h
      · exact isSome_of_mem_stage h

end FirstDeployment.Sample

open FirstDeployment in
/-- The name from the install manifests is taken, although a deployment of a conventional name is
there too. -/
theorem deploy_resolves_beside_conventional_deployment :
    Operator.Yields (Operator.deploy true) Sample.operator Sample.exchanges (.ok ())
        ((Sample.operator.withName "manager").inPhase .deployed) ∧
      FindsApplied Sample.exchanges ∧
      (Sample.operator.withName "manager").profile.resolvedName = some "manager" := by
  refine ⟨Sample.deploy_yields, Sample.findsApplied, ?_⟩
  obtain ⟨base, hbase, hresolves⟩ :=
    deploy_resolves_to_first_deployment "broker" {} Sample.manifests Sample.manager rfl rfl
      (by decide) (by decide) (by decide) rfl
  obtain rfl : Sample.base = base :=
    Except.ok.inj (Sample.ofSettings_eq_base.symm.trans hbase)
  obtain ⟨-, hruns⟩ := hresolves Sample.profile Sample.operator (.inr ⟨[], rfl⟩) rfl
  exact (hruns _ _ _ Sample.deploy_yields Sample.findsApplied).1

end BrokerHarness
