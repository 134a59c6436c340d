import BrokerHarness.Proofs.NameResolution
import BrokerHarness.Proofs.Operator.Sweep

/-!
# Waiting for an operator to be deployed

A deployment that waits has three stages: the manifests are applied, the operator's deployment is
looked for under the candidates, and the one that was found is looked at until it is rolled out.
The name goes from the second stage to the third and is kept.

`existingDeployment_yields_reached_iff` says what the evaluation that finds the name was answered
under each policy, and `readyDeployment_yields_reached_iff` what the look-up shows that ends the
last stage.  A new operator keeps no name (`OperatorProfile.IsNew`), so a deployment that is
accepted always searches for it: no call before it can have changed the operator
(`Lifetime.eq_start_of_notDeployed`).
-/

namespace BrokerHarness

/-! ### New operators -/

/-- The profiles that operators begin with. -/
inductive OperatorProfile.IsNew : OperatorProfile → Prop where
  | ofCandidates {ns : String} {method : InstallMethod} {candidates : List String}
      {policy : NamePolicy} {profile : OperatorProfile}
      (made : OperatorProfile.ofCandidates ns method candidates policy = .ok profile) :
      IsNew profile
  | clusterWide {profile : OperatorProfile} (watched : List String) (base : IsNew profile) :
      IsNew (profile.clusterWide watched)

/-- A new operator keeps no name yet. -/
lemma OperatorProfile.IsNew.resolvedName_eq_none {profile : OperatorProfile}
    (h : profile.IsNew) : profile.resolvedName = none := by
  induction h with
  | @ofCandidates ns method candidates policy profile made =>
    unfold OperatorProfile.ofCandidates Resolver.ofCandidates at made
    by_cases hcandidates : candidates = []
    · simp [hcandidates, bind, Except.bind] at made
    · simp only [hcandidates, dite_false, bind, Except.bind, pure, Except.pure,
        Except.ok.injEq] at made
      rw [← made]
      rfl
  | clusterWide watched base ih => exact ih

/-- As long as an operator is not deployed, no call has changed it. -/
lemma Lifetime.eq_start_of_notDeployed {start operator : Operator} {steps : List OperatorStep}
    (h : Lifetime start steps operator) (hphase : operator.phase = .notDeployed) :
    operator = start := by
  induction h with
  | begin => rfl
  | @call steps step _ ih =>
    have hkept : step.after = step.before → step.after = start := by
      intro hunchanged
      rw [hunchanged] at hphase ⊢
      exact ih hphase
    cases step.effect with
    | refused _ _ _ unchanged | lookup _ _ unchanged => exact hkept unchanged
    | deploy _ _ ends | undeploy _ _ _ ends =>
      obtain ⟨-, hafter⟩ | ⟨-, hafter⟩ := ends <;> rw [hafter] at hphase <;> cases hphase

/-! ### What a rolled out deployment shows -/

/-- The body of a deployment whose status is about its current generation, and of which as many
replicas are ready as are desired.  One replica is desired if the body does not say how many, and
none is ready if it does not say so. -/
structure IsRolledOut (body : Json) : Prop where
  generation : ∀ g, body.int64At? ["metadata", "generation"] = some g →
    ∃ o, body.int64At? ["status", "observedGeneration"] = some o ∧ g ≤ o
  replicas : (body.int64At? ["spec", "replicas"]).getD 1 ≤
    (body.int64At? ["status", "readyReplicas"]).getD 0

/-- A condition without a value is reached if it holds. -/
lemma Finding.ofBool_eq_reached_iff {holds : Bool} {observed : String} :
    ofBool holds observed = .reached () ↔ holds = true := by
  cases holds <;> simp [ofBool]

/-- The question for the operator's deployment under a name, with the answer that there is none. -/
def deploymentAbsent (ns name : String) : Exchange controlPlane :=
  ⟨.get .deployment ns name, .ok none⟩

/-- The question for the operator's deployment under a name, with the deployment as the answer. -/
def deploymentFound (ns name : String) (found : Snapshot) : Exchange controlPlane :=
  ⟨.get .deployment ns name, .ok (some found)⟩

namespace Operator

variable {operator : Operator} {name : String} {asked : List (Exchange controlPlane)}
  {t : List (Exchange controlPlane.timed)}

/-- A generation is not behind another exactly if it is there and at least the other. -/
lemma all_lt_eq_false_iff {observed : Option Int64} {generation : Int64} :
    observed.all (· < generation) = false ↔ ∃ o, observed = some o ∧ generation ≤ o := by
  cases observed with
  | none => simp
  | some o => simp [Int64.not_lt]

/-- The wait for readiness ends exactly with a body that is rolled out. -/
lemma rollout_eq_reached_iff {body : Json} : rollout body = .reached () ↔ IsRolledOut body := by
  unfold rollout
  cases hgeneration : body.int64At? ["metadata", "generation"] with
  | none =>
    simp only [Finding.ofBool_eq_reached_iff, decide_eq_true_eq]
    constructor
    · intro h
      exact ⟨by simp [hgeneration], h⟩
    · exact IsRolledOut.replicas
  | some g =>
    cases hbehind : (body.int64At? ["status", "observedGeneration"]).all (· < g) with
    | true =>
      simp only [hbehind, if_true, reduceCtorEq, false_iff]
      intro h
      have hcurrent := all_lt_eq_false_iff.mpr (h.generation g hgeneration)
      rw [hbehind] at hcurrent
      cases hcurrent
    | false =>
      simp only [hbehind, Bool.false_eq_true, if_false, Finding.ofBool_eq_reached_iff,
        decide_eq_true_eq]
      constructor
      · intro h
        refine ⟨fun g' hg' => ?_, h⟩
        obtain rfl : g = g' := Option.some.inj (hgeneration.symm.trans hg')
        exact all_lt_eq_false_iff.mp hbehind
      · exact IsRolledOut.replicas

/-! ### Evaluations -/

/-- The questions whether candidates exist, carried out by look-ups of deployments in a
namespace. -/
def AskedIn (ns : String) (questions : List (Exchange existence))
    (asked : List (Exchange controlPlane)) : Prop :=
  Program.Interpreted (I := existence) (J := controlPlane)
    (fun name => (ControlPlane.isPresent .deployment ns name).run) questions asked

/-- A check for a name is a look-up of the deployment under this name. -/
lemma askedIn_cons_iff {ns : String} {present : Bool} {questions : List (Exchange existence)} :
    AskedIn ns (⟨name, .ok present⟩ :: questions) asked ↔
      ∃ found rest, asked = ⟨.get .deployment ns name, .ok found⟩ :: rest ∧
        present = found.isSome ∧ AskedIn ns questions rest := by
  refine Program.Interpreted.cons_iff.trans ?_
  constructor
  · rintro ⟨t₁, rest, rfl, head, hrest⟩
    obtain ⟨found, rfl, hpresent⟩ := ControlPlane.isPresent_yields_ok_iff.mp head
    exact ⟨found, rest, rfl, hpresent, hrest⟩
  · rintro ⟨found, rest, rfl, hpresent, hrest⟩
    refine ⟨[_], rest, rfl, ?_, hrest⟩
    exact ControlPlane.isPresent_yields_ok_iff.mpr ⟨found, rfl, hpresent⟩

/-- Checks that find nothing are look-ups that find no deployment. -/
lemma askedIn_absence_iff {ns : String} {names : List String} :
    AskedIn ns (names.map absenceOf) asked ↔ asked = names.map (deploymentAbsent ns) := by
  induction names generalizing asked with
  | nil => exact Program.Interpreted.nil_iff
  | cons name names ih =>
    refine askedIn_cons_iff.trans ?_
    constructor
    · rintro ⟨found, rest, rfl, hfound, hrest⟩
      have hnone : found = none := by simpa using hfound
      rw [hnone, ih.mp hrest]
      rfl
    · rintro rfl
      exact ⟨none, _, rfl, rfl, ih.mpr rfl⟩

/-- A check that finds the name is a look-up that finds the deployment. -/
lemma askedIn_presence_iff {ns : String} {questions : List (Exchange existence)} :
    AskedIn ns (presenceOf name :: questions) asked ↔
      ∃ found rest, asked = deploymentFound ns name found :: rest ∧ AskedIn ns questions rest := by
  refine askedIn_cons_iff.trans ?_
  constructor
  · rintro ⟨found, rest, rfl, hfound, hrest⟩
    obtain ⟨snapshot, rfl⟩ := Option.isSome_iff_exists.mp hfound.symm
    exact ⟨snapshot, rest, rfl, hrest⟩
  · rintro ⟨snapshot, rest, rfl, hrest⟩
    exact ⟨some snapshot, rest, rfl, rfl, hrest⟩

/-- What an evaluation asks that finds a name behind some candidates and before others. -/
def resolution (profile : OperatorProfile) (before : List String) (name : String)
    (found : Snapshot) (behind : List String) : List (Exchange controlPlane) :=
  before.map (deploymentAbsent profile.deploymentNamespace) ++
    deploymentFound profile.deploymentNamespace name found ::
      (profile.resolver.policy.askedBehind behind).map
        (deploymentAbsent profile.deploymentNamespace)

/-- An evaluation finds the name that an attempt to resolve it finds. -/
lemma existingDeployment_yields_iff_attempt :
    operator.existingDeployment.Yields asked (.ok (.reached name)) ↔
      ∃ questions, AskedIn operator.deploymentNamespace questions asked ∧
        operator.profile.resolver.attempt.Yields questions (.ok (some name)) := by
  refine Action.yields_bind_ok_iff.trans ?_
  constructor
  · rintro ⟨t₁, t₂, found, rfl, hsearch, hfound⟩
    cases found with
    | none =>
      have hnotYet := (Action.yields_pure_iff.mp hfound).2
      cases hnotYet
    | some other =>
      obtain ⟨rfl, hreached⟩ := Action.yields_pure_iff.mp hfound
      cases hreached
      rw [List.append_nil]
      exact Program.yields_interpret_iff.mp hsearch
  · intro h
    exact ⟨asked, [], some name, (List.append_nil asked).symm,
      Program.yields_interpret_iff.mpr h, Action.yields_pure_iff.mpr ⟨rfl, rfl⟩⟩

/-- An evaluation that finds a name was told of the candidates before it that they are absent, and
of those behind it too if the name has to be unique. -/
lemma existingDeployment_yields_reached_iff (hname : operator.profile.resolvedName = none) :
    operator.existingDeployment.Yields asked (.ok (.reached name)) ↔
      ∃ before found behind, operator.profile.resolver.candidates = before ++ name :: behind ∧
        asked = resolution operator.profile before name found behind := by
  rw [existingDeployment_yields_iff_attempt]
  constructor
  · rintro ⟨questions, hasked, hquestions⟩
    obtain ⟨before, behind, hcandidates, rfl⟩ :=
      (Resolver.attempt_yields_some_iff hname).mp hquestions
    obtain ⟨t₁, t₂, rfl, hbefore, hrest⟩ := Program.Interpreted.append_iff.mp hasked
    obtain ⟨found, t₃, rfl, hbehind⟩ := askedIn_presence_iff.mp hrest
    refine ⟨before, found, behind, hcandidates, ?_⟩
    rw [askedIn_absence_iff.mp hbefore, askedIn_absence_iff.mp hbehind]
    rfl
  · rintro ⟨before, found, behind, hcandidates, rfl⟩
    have hattempt := (Resolver.attempt_yields_some_iff hname).mpr ⟨before, behind, hcandidates, rfl⟩
    refine ⟨_, Program.Interpreted.append_iff.mpr ⟨_, _, rfl, ?_, ?_⟩, hattempt⟩
    · exact askedIn_absence_iff.mpr rfl
    · exact askedIn_presence_iff.mpr ⟨found, _, rfl, askedIn_absence_iff.mpr rfl⟩

/-- An evaluation that finds a deployment ready was shown it rolled out. -/
lemma readyDeployment_yields_reached_iff :
    (operator.readyDeployment name).Yields asked (.ok (.reached ())) ↔
      ∃ snapshot, asked = [deploymentFound operator.deploymentNamespace name snapshot] ∧
        IsRolledOut snapshot.body := by
  refine Action.yields_bind_ok_iff.trans ?_
  constructor
  · rintro ⟨t₁, t₂, found, rfl, hget, hfound⟩
    obtain rfl := ControlPlane.get_yields_iff.mp hget
    cases found with
    | none =>
      have hnotYet := (Action.yields_pure_iff.mp hfound).2
      cases hnotYet
    | some snapshot =>
      obtain ⟨rfl, hreached⟩ := Action.yields_pure_iff.mp hfound
      exact ⟨snapshot, rfl, rollout_eq_reached_iff.mp (Except.ok.inj hreached).symm⟩
  · rintro ⟨snapshot, rfl, hrolledOut⟩
    refine ⟨[_], [], some snapshot, rfl, ControlPlane.get_yields_iff.mpr rfl, ?_⟩
    rw [← rollout_eq_reached_iff] at hrolledOut
    exact Action.yields_pure_iff.mpr ⟨rfl, congrArg Except.ok hrolledOut.symm⟩

/-! ### The two waits -/

/-- The wait for a name ends with the round that finds it. -/
lemma awaitExistence_yields_ok (hname : operator.profile.resolvedName = none)
    (h : operator.awaitExistence.Yields t (.ok name)) :
    ∃ before found behind, operator.profile.resolver.candidates = before ++ name :: behind ∧
      ∃ start undecided, RoundsOf operator.pollInterval operator.existingDeployment start
        (undecided ++ [.reached (resolution operator.profile before name found behind) name])
        t := by
  obtain ⟨start, undecided, asked, hrounds, -⟩ := poll_account_of_ok h
  have hasked : operator.existingDeployment.Yields asked (.ok (.reached name)) :=
    hrounds.evaluates (.reached asked name) (by simp)
  obtain ⟨before, found, behind, hcandidates, rfl⟩ :=
    (existingDeployment_yields_reached_iff hname).mp hasked
  exact ⟨before, found, behind, hcandidates, start, undecided, hrounds⟩

/-- The wait for readiness ends with a look-up that shows the deployment rolled out. -/
lemma awaitReadiness_yields_ok (h : (operator.awaitReadiness name).Yields t (.ok ())) :
    ∃ earlier snapshot,
      t = earlier ++ [(deploymentFound operator.deploymentNamespace name snapshot).timed] ∧
      IsRolledOut snapshot.body := by
  obtain ⟨earlier, asked, rfl, hasked⟩ := poll_ends_with_reached h
  obtain ⟨snapshot, rfl, hrolledOut⟩ := readyDeployment_yields_reached_iff.mp hasked
  exact ⟨earlier, snapshot, rfl, hrolledOut⟩

end Operator

/-! ### The deployment -/

/-- Whatever calls a new operator took before, a deployment that waits succeeds only if it applied
the prepared manifests once each and in their order, then found the deployment under one of the
candidates, and at last saw this deployment rolled out.  The round that found the name was told that
the candidates before it are absent, and those behind it too if the name has to be unique.  The
answers may be any that a clock allows which never goes back (`Interface.timed`). -/
theorem Lifetime.deploy_ends_rolled_out {profile : OperatorProfile} {manifests : List Manifest}
    {settings : Settings} {steps : List OperatorStep} {operator after : Operator}
    {t : List (Exchange controlPlane.timed)} (hnew : profile.IsNew)
    (hlife : Lifetime (Operator.ofManifests profile manifests settings) steps operator)
    (h : Operator.Yields (Operator.deploy true) operator t (.ok ()) after) :
    ∃ applications search watch name before found behind snapshot,
      t = applications.map Exchange.timed ++
        (search ++ (watch ++ [(deploymentFound profile.deploymentNamespace name snapshot).timed])) ∧
      List.Forall₂ Applies (manifests.map (Installation.prepare profile)) applications ∧
      (∀ e ∈ search ++ watch, TimedRequest.Within ControlPlaneRequest.IsLookup e.request) ∧
      after.profile.resolvedName = some name ∧
      profile.resolver.candidates = before ++ name :: behind ∧
      (∃ start undecided, RoundsOf operator.pollInterval operator.existingDeployment start
        (undecided ++ [.reached (Operator.resolution profile before name found behind) name])
        search) ∧
      IsRolledOut snapshot.body := by
  obtain ⟨hphase, hrun⟩ | ⟨-, -, hrefused, -⟩ := Operator.deploy_yields_iff.mp h
  · -- No earlier call got as far as to keep a name, so there is one to be searched for.
    obtain rfl := hlife.eq_start_of_notDeployed hphase
    have hname : profile.resolvedName = none := hnew.resolvedName_eq_none
    cases hrun with
    | @ready t₁ t₂ t₃ name apply existence readiness =>
      obtain ⟨applications, rfl, hloop⟩ := Operator.applyAll_timed_yields_iff.mp apply
      obtain ⟨before, found, behind, hcandidates, hsearch⟩ :=
        Operator.awaitExistence_yields_ok hname existence
      have hexistence := poll_asksOnly (Operator.existingDeployment_asksOnly _) _ _ existence
      have hreadiness := poll_asksOnly (Operator.readyDeployment_asksOnly _ name) _ _ readiness
      obtain ⟨watch, snapshot, rfl, hrolledOut⟩ := Operator.awaitReadiness_yields_ok readiness
      have hwatch := (List.forall_mem_append.mp hreadiness).1
      refine ⟨applications, t₂, watch, name, before, found, behind, snapshot, rfl, hloop.forall₂,
        List.forall_mem_append.mpr ⟨hexistence, hwatch⟩, ?_, hcandidates, hsearch, hrolledOut⟩
      have hkept : profile.resolver.resolved = none := hname
      change some (profile.resolver.resolved.getD name) = some name
      rw [hkept]
      rfl
  · cases hrefused

/-! ### A deployment that is found under the second candidate -/

namespace Rollout.Sample

def profile : OperatorProfile where
  deploymentNamespace := "broker"
  isNamespaced := true
  watchedNamespaces := ["broker"]
  resolver := ⟨["manager", "operator"], .preferNewest, none, Resolver.pair_ne_nil _ _⟩
  installMethod := .manifestFile

lemma profile_isNew : profile.IsNew := by
  have hmade : OperatorProfile.ofCandidates "broker" .manifestFile ["manager", "operator"]
      .preferNewest = .ok profile := rfl
  exact .ofCandidates hmade

def operator : Operator := Operator.ofManifests profile [Lifetime.Sample.manifest] {}

def prepared : Manifest := Installation.prepare profile Lifetime.Sample.manifest

/-- The deployment before anything is reported about it. -/
def stored : Snapshot := ⟨.deployment, some "broker", "operator", some 2, .object []⟩

def rolledOut : Snapshot where
  kind := .deployment
  scope := some "broker"
  name := "operator"
  generation := some 2
  body := .object [
    ("metadata", .object [("generation", .int 2)]),
    ("status", .object [("observedGeneration", .int 2), ("readyReplicas", .int 1)])]

def search : List (Exchange controlPlane.timed) :=
  .reading 0 ::
    (Operator.resolution profile ["manager"] "operator" stored []).map Exchange.timed

def watch : List (Exchange controlPlane.timed) :=
  [.reading 0, (deploymentFound "broker" "operator" rolledOut).timed]

def exchanges : List (Exchange controlPlane.timed) :=
  ⟨.other (.apply prepared), .ok stored⟩ :: (search ++ watch)

lemma isRolledOut : IsRolledOut rolledOut.body := Operator.rollout_eq_reached_iff.mp rfl

lemma deploy_yields : Operator.Yields (Operator.deploy true) operator exchanges (.ok ())
    ((operator.withName "operator").inPhase .deployed) := by
  have happly : (Operator.applyAll operator.manifests).timed.Yields
      [⟨.other (.apply prepared), .ok stored⟩] (.ok ()) := .ask (.done _)
  have hfound : operator.existingDeployment.Yields
      (Operator.resolution profile ["manager"] "operator" stored [])
      (.ok (.reached "operator")) :=
    (Operator.existingDeployment_yields_reached_iff rfl).mpr ⟨["manager"], stored, [], rfl, rfl⟩
  have hready : (operator.readyDeployment "operator").Yields
      [deploymentFound "broker" "operator" rolledOut] (.ok (.reached ())) :=
    Operator.readyDeployment_yields_reached_iff.mpr ⟨rolledOut, rfl, isRolledOut⟩
  have hsearch : operator.awaitExistence.Yields search (.ok "operator") := by
    refine (poll_yields_iff_of_lt (by decide) (by decide)).mpr ?_
    exact Polling.run_yields_iff.mpr ⟨0, _, _, rfl, .reached hfound⟩
  have hwatch : (operator.awaitReadiness "operator").Yields watch (.ok ()) := by
    refine (poll_yields_iff_of_lt (by decide) (by decide)).mpr ?_
    exact Polling.run_yields_iff.mpr ⟨0, _, _, rfl, .reached hready⟩
  exact Operator.deploy_yields_iff.mpr (.inl ⟨rfl, .ready happly hsearch hwatch⟩)

end Rollout.Sample

open Rollout in
/-- The deployment of the second candidate is found by a round that found none of the first one, and
is rolled out. -/
theorem deploy_ends_rolled_out_under_second_candidate :
    Operator.Yields (Operator.deploy true) Sample.operator Sample.exchanges (.ok ())
        ((Sample.operator.withName "operator").inPhase .deployed) ∧
      ∃ before found behind, ["manager", "operator"] = before ++ "operator" :: behind ∧
        ∃ search start undecided,
          RoundsOf Sample.operator.pollInterval Sample.operator.existingDeployment start
            (undecided ++
              [.reached (Operator.resolution Sample.profile before "operator" found behind)
                "operator"]) search := by
  refine ⟨Sample.deploy_yields, ?_⟩
  obtain ⟨applications, search, watch, name, before, found, behind, snapshot, -, -, -, hname,
      hcandidates, ⟨start, undecided, hrounds⟩, -⟩ :=
    Lifetime.deploy_ends_rolled_out Sample.profile_isNew .begin Sample.deploy_yields
  obtain rfl : "operator" = name := Option.some.inj hname
  exact ⟨before, found, behind, hcandidates, search, start, undecided, hrounds⟩

end BrokerHarness
