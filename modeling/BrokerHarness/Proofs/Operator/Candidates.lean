import BrokerHarness.Proofs.FailureOrigin
import BrokerHarness.Proofs.NameResolution.Repeated
import BrokerHarness.Proofs.Operator.FirstDeployment

/-!
# The candidates of an operator

Settings and install manifests always describe an operator, and none of its possible names is listed
twice: the name of the first deployment among the manifests stands in front of the conventional
names, from which it is taken out (`OperatorProfile.candidatesFor_nodup`).

A search takes list positions for names.  As no name is listed twice, the difference does not show:
an ambiguity that the search itself reports lists different names.  That a call on the operator ends
with an ambiguity for no other reason, unless the cluster answered with it, follows from where the
failures of its parts come from (`OperatorStep.failsAlong`).
-/

namespace BrokerHarness

/-! ### Ambiguities of a search -/

/-- The names are some of the candidates, in their order, and two of them are different. -/
structure IsAmbiguity (candidates names : List String) : Prop where
  sublist : names.Sublist candidates
  different : ∃ name ∈ names, ∃ other ∈ names, name ≠ other

/-- If the failure is an ambiguity, it lists candidates at several positions. -/
def Failure.ListsSeveralOf (candidates : List String) (failure : Failure) : Prop :=
  ∀ names, failure = .severalNames names → names.Sublist candidates ∧ 1 < names.length

variable {candidates names : List String} {failure : Failure}

/-- Names at several positions are different if none is listed twice. -/
lemma isAmbiguity_of_nodup (hnodup : candidates.Nodup)
    (h : Failure.ListsSeveralOf candidates (.severalNames names)) :
    IsAmbiguity candidates names := by
  obtain ⟨hsublist, hmore⟩ := h names rfl
  refine ⟨hsublist, ?_⟩
  have hnames : names.Nodup := hnodup.sublist hsublist
  match names with
  | [] | [one] => simp at hmore
  | first :: second :: rest =>
    have hne : first ≠ second := by
      rintro rfl
      exact (List.nodup_cons.mp hnames).1 List.mem_cons_self
    exact ⟨first, List.mem_cons_self, second, List.mem_cons_of_mem _ List.mem_cons_self, hne⟩

/-- The names that are answered with yes are some of those that are asked for. -/
lemma affirmed_sublist {t : List (Exchange existence)} (h : List.Forall₂ Answers names t) :
    (affirmed t).Sublist names := by
  induction h with
  | nil => exact .slnil
  | cons hfirst _ ih =>
    cases hfirst with
    | answered present =>
      cases present with
      | true => exact ih.cons_cons _
      | false => exact ih.cons _

/-- A search fails by a question, or with candidates at several positions. -/
lemma SearchRun.failsAlong {policy : NamePolicy} {t : List (Exchange existence)}
    (h : SearchRun candidates policy t (.error failure)) :
    FailsAlong Exchange.UnansweredWith (Failure.ListsSeveralOf candidates) t failure := by
  cases h with
  | several answered more =>
    left
    intro names hnames
    obtain rfl := Failure.severalNames.inj hnames
    exact ⟨affirmed_sublist answered, more⟩
  | newestFailed | uniqueFailed =>
    exact .inr ⟨_, List.mem_append_right _ (List.mem_singleton_self _), rfl⟩

/-- An attempt to resolve a name fails as its checks do, or because it found several of the
candidates. -/
lemma Resolver.attempt_failsBy (resolver : Resolver) :
    resolver.attempt.FailsBy Exchange.UnansweredWith
      (Failure.ListsSeveralOf resolver.candidates) := by
  unfold attempt
  cases resolver.resolved with
  | some name => exact Action.failsBy_pure _
  | none =>
    intro t failure h
    exact (NamePolicy.search_yields_iff.mp h).failsAlong

/-- A call on a resolver fails as an attempt to find the name does. -/
lemma Resolution.failsAlong (step : Resolution) (h : step.outcome = .error failure) :
    FailsAlong Exchange.UnansweredWith (Failure.ListsSeveralOf step.before.candidates)
      step.questions failure := by
  obtain ⟨t₁, t₂, found, hquestions, hattempt, hsettle⟩ := Program.yields_bind_iff.mp step.run
  obtain ⟨rfl, hr⟩ := Program.yields_done_iff.mp hsettle
  obtain rfl : found = .error failure := by
    have houtcome : (step.before.settle found).1 = .error failure :=
      (congrArg Prod.fst hr).symm.trans h
    rcases found with e | _ | name
    · exact houtcome
    · cases houtcome
    · cases houtcome
  rw [hquestions, List.append_nil]
  exact step.before.attempt_failsBy t₁ failure hattempt

/-- A polling reports no ambiguity but one that its condition ends with. -/
lemma poll_failsBy_listsSeveralOf {I : Interface} {α : Type} {fails : Exchange I → Failure → Prop}
    {description : String} {interval timeout : Nat} {condition : Action I (Finding α)}
    (h : condition.FailsBy fails (Failure.ListsSeveralOf candidates)) :
    Action.FailsBy (I := I.timed) (FailsTimed fails) (Failure.ListsSeveralOf candidates)
      (poll description interval timeout condition) :=
  poll_failsBy h (fun _ _ => nofun) fun _ _ _ => nofun

/-! ### Ambiguities of calls on an operator -/

namespace ControlPlane

variable {own : Failure → Prop} {kind : ObjectKind} {ns name : String} {target : ObjectAddress}
  {manifest : Manifest}

lemma apply_failsBy : (apply manifest).FailsBy Exchange.FailsWith own := by
  intro t failure h
  obtain rfl := apply_yields_iff.mp h
  exact .inr ⟨_, List.mem_singleton_self _, rfl⟩

lemma get_failsBy : (get kind ns name).FailsBy Exchange.FailsWith own := by
  intro t failure h
  obtain rfl := get_yields_iff.mp h
  exact .inr ⟨_, List.mem_singleton_self _, rfl⟩

lemma list_failsBy : (list kind ns name).FailsBy Exchange.FailsWith own := by
  intro t failure h
  obtain rfl := list_yields_iff.mp h
  exact .inr ⟨_, List.mem_singleton_self _, rfl⟩

lemma isPresent_failsBy : (isPresent kind ns name).FailsBy Exchange.FailsWith own :=
  get_failsBy.bind fun _ => Action.failsBy_pure _

/-- Whether an object is there remains open only if the look-up fails. -/
lemma exists_failsWith_of_isPresent {t : List (Exchange controlPlane)}
    (h : (isPresent kind ns name).Yields t (.error failure)) :
    ∃ e ∈ t, e.FailsWith failure := by
  have hby : (isPresent kind ns name).FailsBy Exchange.FailsWith fun _ => False :=
    isPresent_failsBy
  obtain hnone | hfails := hby t failure h
  · exact hnone.elim
  · exact hfails

end ControlPlane

namespace Operator

variable {own : Failure → Prop} {operator before after : Operator}
  {t : List (Exchange controlPlane.timed)}

lemma applyAll_failsBy (manifests : List Manifest) :
    (applyAll manifests).FailsBy Exchange.FailsWith own := by
  induction manifests with
  | nil => exact Action.failsBy_pure _
  | cons manifest rest ih => exact ControlPlane.apply_failsBy.bind fun _ => ih

/-- A deletion that does not skip its failure passes it on. -/
lemma deleteIfPresent_failsBy (target : ObjectAddress) :
    (deleteIfPresent target).FailsBy Exchange.FailsWith own := by
  intro t failure h
  obtain ⟨e, -, -, herror⟩ | ⟨e, failure', rfl, hfails, herror⟩ := deleteIfPresent_yields_iff.mp h
  · cases herror
  · obtain rfl := Except.error.inj herror
    cases hfails with
    | refused => exact .inr ⟨_, List.mem_singleton_self _, rfl⟩

lemma deleteAll_failsBy (targets : List ObjectAddress) :
    (deleteAll targets).FailsBy Exchange.FailsWith own := by
  induction targets with
  | nil => exact Action.failsBy_pure _
  | cons target rest ih => exact (deleteIfPresent_failsBy target).bind fun _ => ih

/-- A search for the deployment fails as its look-ups do, or because it found several of the
candidates. -/
lemma existingDeployment_failsBy (operator : Operator) :
    operator.existingDeployment.FailsBy Exchange.FailsWith
      (Failure.ListsSeveralOf operator.profile.resolver.candidates) := by
  have hattempt : Action.FailsBy Exchange.FailsWith
      (Failure.ListsSeveralOf operator.profile.resolver.candidates)
      (operator.profile.resolver.attempt.interpret fun name =>
        (ControlPlane.isPresent .deployment operator.deploymentNamespace name).run) := by
    refine operator.profile.resolver.attempt_failsBy.interpret fun name t x failure h hx => ?_
    obtain rfl : x = .error failure := hx
    exact ControlPlane.exists_failsWith_of_isPresent h
  refine hattempt.bind fun found => ?_
  cases found with
  | none => exact Action.failsBy_pure _
  | some name => exact Action.failsBy_pure _

lemma readyDeployment_failsBy (operator : Operator) (name : String) :
    (operator.readyDeployment name).FailsBy Exchange.FailsWith own := by
  refine ControlPlane.get_failsBy.bind fun found => ?_
  cases found with
  | none => exact Action.failsBy_pure _
  | some snapshot => exact Action.failsBy_pure _

/-- The wait for the operator to stop reports no names. -/
lemma stoppedUnder_failsBy (ns : String) (names : List String) :
    (stoppedUnder ns names).FailsBy Exchange.FailsWith own := by
  induction names with
  | nil => exact Action.failsBy_pure _
  | cons name rest ih =>
    refine ControlPlane.isPresent_failsBy.bind fun present => ?_
    cases present with
    | true => exact Action.failsBy_pure _
    | false =>
      refine ControlPlane.list_failsBy.bind fun pods => ?_
      split
      · exact ih
      · exact Action.failsBy_pure _

/-- The search for the operator's pod does not report several names by itself. -/
lemma firstPod_failsBy (operator : Operator) (candidates : List String) :
    operator.firstPod.FailsBy Exchange.FailsWith (Failure.ListsSeveralOf candidates) := by
  unfold firstPod
  cases operator.profile.resolvedName with
  | none => exact Action.failsBy_throw fun _ => nofun
  | some name =>
    refine ControlPlane.list_failsBy.bind fun pods => ?_
    cases pods with
    | nil => exact Action.failsBy_throw fun _ => nofun
    | cons pod rest => exact Action.failsBy_pure _

/-- A deployment fails as one of its requests does, or because it found several of the candidates.
-/
lemma DeployRun.failsAlong {awaitReady : Bool}
    (h : DeployRun before awaitReady t (.error failure) after) :
    FailsAlong (FailsTimed Exchange.FailsWith)
      (Failure.ListsSeveralOf before.profile.resolver.candidates) t failure := by
  cases h with
  | applyFailed apply => exact (applyAll_failsBy before.manifests).timed _ _ apply
  | @nameless t₁ t₂ _ apply existence =>
    refine FailsAlong.behind ?_ t₁
    exact poll_failsBy_listsSeveralOf (existingDeployment_failsBy before) _ _ existence
  | @unready t₁ t₂ t₃ name _ apply existence readiness =>
    refine FailsAlong.behind (FailsAlong.behind ?_ t₂) t₁
    exact poll_failsBy_listsSeveralOf (readyDeployment_failsBy before name) _ _ readiness

/-- An undeployment that reports several names was told so by the cluster. -/
lemma UndeployRun.failsAlong {awaitRemoval : Bool}
    (h : UndeployRun before awaitRemoval t (.error failure) after) (candidates : List String) :
    FailsAlong (FailsTimed Exchange.FailsWith) (Failure.ListsSeveralOf candidates) t failure := by
  cases h with
  | deleteFailed delete => exact (deleteAll_failsBy _).timed _ _ delete
  | @running t₁ t₂ _ delete removal =>
    refine FailsAlong.behind ?_ t₁
    exact poll_failsBy_listsSeveralOf (stoppedUnder_failsBy _ _) _ _ removal

end Operator

/-- A call fails as a request of it does, or by itself.  By itself it reports no ambiguity but one
that lists candidates at several positions. -/
theorem OperatorStep.failsAlong (step : OperatorStep) (h : step.outcome = .error failure) :
    FailsAlong (FailsTimed Exchange.FailsWith)
      (Failure.ListsSeveralOf step.before.profile.resolver.candidates) step.exchanges failure := by
  obtain ⟨call, before, t, r, after, run⟩ := step
  obtain rfl : r = .error failure := h
  cases OperatorCall.run_of_yields run with
  | deploy _ hrun => exact hrun.failsAlong
  | undeploy _ hrun => exact hrun.failsAlong _
  | firstPod hrun => exact (Operator.firstPod_failsBy before _).timed _ _ hrun
  | refused => exact .inl fun _ => nofun

/-! ### The candidates that settings and manifests describe -/

namespace OperatorProfile

variable {settings : Settings} {manifests before behind : List Manifest} {first : Manifest}

/-- The conventional names differ in their endings. -/
lemma operatorNames_nodup (settings : Settings) : settings.operatorNames.Nodup := by
  simp [Settings.operatorNames]

/-- The name of the first deployment among the install manifests comes first, and is not listed
again. -/
lemma candidatesFor_of_split (hmethod : settings.installMethod = .manifestFile)
    (hsplit : manifests = before ++ first :: behind) (hkind : first.kind.name = "Deployment")
    (hbefore : ∀ manifest ∈ before, manifest.kind.name ≠ "Deployment") :
    candidatesFor settings manifests =
      first.name :: settings.operatorNames.filter (· ≠ first.name) := by
  have hfirst : first.kind.name = ObjectKind.deployment.name := hkind
  have hothers : ∀ manifest ∈ before, manifest.kind.name ≠ ObjectKind.deployment.name := hbefore
  refine candidatesFor_of_manifestFile hmethod (List.find?_eq_some_iff_append.mpr ?_)
  exact ⟨by simpa using hfirst, before, behind, hsplit, by simpa using hothers⟩

/-- Without a deployment among the manifests the candidates are the conventional names. -/
lemma candidatesFor_of_none
    (h : settings.installMethod = .manifestFile →
      ∀ manifest ∈ manifests, manifest.kind.name ≠ "Deployment") :
    candidatesFor settings manifests = settings.operatorNames := by
  unfold candidatesFor
  cases hmethod : settings.installMethod with
  | packageManaged => rfl
  | manifestFile =>
    have hothers : ∀ manifest ∈ manifests, manifest.kind.name ≠ ObjectKind.deployment.name :=
      h hmethod
    have hnone : manifests.find? (·.kind.name = ObjectKind.deployment.name) = none := by
      simpa using hothers
    rw [hnone]

/-- The manifests contain a first deployment that is looked for, or there is none. -/
lemma candidatesFor_cases (settings : Settings) (manifests : List Manifest) :
    (∃ name, candidatesFor settings manifests =
        name :: settings.operatorNames.filter (· ≠ name)) ∨
      candidatesFor settings manifests = settings.operatorNames := by
  unfold candidatesFor
  cases settings.installMethod with
  | packageManaged => exact .inr rfl
  | manifestFile =>
    cases manifests.find? (·.kind.name = ObjectKind.deployment.name) with
    | none => exact .inr rfl
    | some first => exact .inl ⟨first.name, rfl⟩

/-- There always is a candidate. -/
lemma candidatesFor_ne_nil (settings : Settings) (manifests : List Manifest) :
    candidatesFor settings manifests ≠ [] := by
  obtain ⟨name, h⟩ | h := candidatesFor_cases settings manifests
  · rw [h]
    exact List.cons_ne_nil _ _
  · rw [h]
    exact List.cons_ne_nil _ _

/-- No candidate is listed twice. -/
lemma candidatesFor_nodup (settings : Settings) (manifests : List Manifest) :
    (candidatesFor settings manifests).Nodup := by
  obtain ⟨name, h⟩ | h := candidatesFor_cases settings manifests
  · rw [h]
    refine List.nodup_cons.mpr ⟨?_, (operatorNames_nodup settings).filter _⟩
    simp
  · rw [h]
    exact operatorNames_nodup settings

/-- A deployment that goes by the older of the two conventional names is looked for first. -/
example : candidatesFor {} [⟨.deployment, none, "activemq-artemis-operator", .object []⟩] =
    ["activemq-artemis-operator", "activemq-artemis-controller-manager"] := by
  decide +kernel

/-- Settings and manifests always describe an operator, with the candidates that they tell. -/
lemma exists_ofSettings (ns : String) (settings : Settings) (manifests : List Manifest) :
    ∃ base, ofSettings ns settings manifests = .ok base ∧
      base.resolver.candidates = candidatesFor settings manifests := by
  unfold ofSettings ofCandidates Resolver.ofCandidates
  rw [dif_neg (candidatesFor_ne_nil settings manifests)]
  exact ⟨_, rfl, rfl⟩

/-- An ambiguity that a call on the resolver, or on an operator of the profile, ends with lists
different candidates, unless an answer to the call failed with it. -/
structure ReportsDifferentNames (profile : OperatorProfile) : Prop where
  resolutions : ∀ steps resolver, Resolutions profile.resolver steps resolver →
    ∀ step ∈ steps, ∀ names, step.outcome = .error (.severalNames names) →
      IsAmbiguity profile.resolver.candidates names ∨
        ∃ e ∈ step.questions, e.UnansweredWith (.severalNames names)
  calls : ∀ manifests settings steps operator,
    Lifetime (Operator.ofManifests profile manifests settings) steps operator →
      ∀ step ∈ steps, ∀ names, step.outcome = .error (.severalNames names) →
        IsAmbiguity profile.resolver.candidates names ∨
          ∃ e ∈ step.exchanges, FailsTimed Exchange.FailsWith e (.severalNames names)

/-- Candidates that are listed once are reported once. -/
lemma reportsDifferentNames_of_nodup {profile : OperatorProfile}
    (hnodup : profile.resolver.candidates.Nodup) : profile.ReportsDifferentNames where
  resolutions := by
    intro steps resolver h step hstep names houtcome
    obtain ⟨earlier, later, rfl⟩ := List.append_of_mem hstep
    have hcandidates := h.until_call.candidates_policy_eq.1
    have halong := step.failsAlong houtcome
    rw [hcandidates] at halong
    exact halong.imp (isAmbiguity_of_nodup hnodup) id
  calls := by
    intro manifests settings steps operator h step hstep names houtcome
    obtain ⟨earlier, later, rfl⟩ := List.append_of_mem hstep
    have hcandidates : step.before.profile.resolver.candidates = profile.resolver.candidates :=
      h.until_call.candidates_eq
    have halong := step.failsAlong houtcome
    rw [hcandidates] at halong
    exact halong.imp (isAmbiguity_of_nodup hnodup) id

/-- Settings and install manifests always describe an operator.  Its candidates are the two
conventional names, behind the name of the first deployment among the manifests if it is installed
from them; there is always one, and none is listed twice.  Therefore an ambiguity that is reported
under these candidates lists different ones of them: by each call on the resolver, and by each call
on an operator with this profile, made one of the whole cluster or not. -/
theorem ofSettings_lists_different_names (ns : String) (settings : Settings)
    (manifests : List Manifest) :
    ∃ base, ofSettings ns settings manifests = .ok base ∧
      base.resolver.candidates ≠ [] ∧ base.resolver.candidates.Nodup ∧
      (∀ before first behind, settings.installMethod = .manifestFile →
        manifests = before ++ first :: behind → first.kind.name = "Deployment" →
          (∀ manifest ∈ before, manifest.kind.name ≠ "Deployment") →
            base.resolver.candidates = first.name ::
              [settings.operatorBaseName ++ "-controller-manager",
                settings.operatorBaseName ++ "-operator"].filter (· ≠ first.name)) ∧
      ((settings.installMethod = .manifestFile →
          ∀ manifest ∈ manifests, manifest.kind.name ≠ "Deployment") →
        base.resolver.candidates =
          [settings.operatorBaseName ++ "-controller-manager",
            settings.operatorBaseName ++ "-operator"]) ∧
      ∀ profile, (profile = base ∨ ∃ watched, profile = base.clusterWide watched) →
        profile.ReportsDifferentNames := by
  obtain ⟨base, hbase, hcandidates⟩ := exists_ofSettings ns settings manifests
  have hnodup : base.resolver.candidates.Nodup := by
    rw [hcandidates]
    exact candidatesFor_nodup settings manifests
  refine ⟨base, hbase, base.resolver.candidates_ne_nil, hnodup, ?_, ?_, ?_⟩
  · intro before first behind hmethod hsplit hkind hbefore
    exact hcandidates.trans (candidatesFor_of_split hmethod hsplit hkind hbefore)
  · intro hnone
    exact hcandidates.trans (candidatesFor_of_none hnone)
  · intro profile hprofile
    refine reportsDifferentNames_of_nodup ?_
    obtain rfl | ⟨watched, rfl⟩ := hprofile
    · exact hnodup
    · exact hnodup

end OperatorProfile

/-! ### Deployments under both conventional names -/

namespace Candidates.Sample

def settings : Settings := { namePolicy := .requireUnique }

def conventional : List String :=
  ["activemq-artemis-controller-manager", "activemq-artemis-operator"]

def base : OperatorProfile where
  deploymentNamespace := "broker"
  isNamespaced := true
  watchedNamespaces := ["broker"]
  resolver := ⟨conventional, .requireUnique, none, Resolver.pair_ne_nil _ _⟩
  installMethod := .manifestFile

lemma ofSettings_eq_base : OperatorProfile.ofSettings "broker" settings [] = .ok base := by
  have hcandidates : OperatorProfile.candidatesFor settings [] = conventional := by
    decide +kernel
  unfold OperatorProfile.ofSettings
  rw [hcandidates]
  rfl

/-- Both candidates exist. -/
def ambiguous : Resolution where
  before := base.resolver
  questions := conventional.map presenceOf
  outcome := .error (.severalNames conventional)
  after := base.resolver
  run := .ask (.ask (.done _))

lemma calls : Resolutions base.resolver [ambiguous] base.resolver :=
  @Resolutions.call base.resolver [] ambiguous .begin

end Candidates.Sample

open Candidates in
/-- Of an operator without install manifests, the conventional names that both exist are reported,
and they are different. -/
theorem conventional_names_reported_as_different :
    OperatorProfile.ofSettings "broker" Sample.settings [] = .ok Sample.base ∧
      Resolutions Sample.base.resolver [Sample.ambiguous] Sample.base.resolver ∧
      Sample.ambiguous.outcome = .error (.severalNames Sample.conventional) ∧
      IsAmbiguity Sample.base.resolver.candidates Sample.conventional := by
  obtain ⟨base, hbase, -, -, -, -, hreports⟩ :=
    OperatorProfile.ofSettings_lists_different_names "broker" Sample.settings []
  obtain rfl : Sample.base = base := Except.ok.inj (Sample.ofSettings_eq_base.symm.trans hbase)
  refine ⟨hbase, Sample.calls, rfl, ?_⟩
  have hlisted := (hreports Sample.base (.inl rfl)).resolutions _ _ Sample.calls
    Sample.ambiguous (List.mem_singleton_self _) Sample.conventional rfl
  obtain hdifferent | ⟨e, he, hfails⟩ := hlisted
  · exact hdifferent
  · -- Both questions are answered, so none of them fails.
    obtain ⟨name, -, rfl⟩ := List.mem_map.mp he
    cases hfails

end BrokerHarness
