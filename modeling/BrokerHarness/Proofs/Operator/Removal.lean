import BrokerHarness.Proofs.History
import BrokerHarness.Proofs.Operator.Sweep

/-!
# Waiting for an operator to stop

An evaluation of this wait goes through the names that are waited for and looks up the deployment
and the pods of each, up to the first object that it is shown.  So it finds the operator stopped
exactly if it has asked for both under every name and was shown nothing at all
(`stoppedUnder_yields_reached_iff`): the answers of different evaluations are never combined.

`Operator.Watch` accounts for the whole wait of an undeployment.  The names in it are those of
`OperatorProfile.Awaits`, and depend on whether an earlier deployment settled the name.
-/

namespace BrokerHarness

/-- The names that an undeployment waits for: the name that was found, or else every candidate. -/
inductive OperatorProfile.Awaits (profile : OperatorProfile) : List String → Prop where
  | found {name : String} (resolved : profile.resolvedName = some name) : Awaits profile [name]
  | unsettled (resolved : profile.resolvedName = none) :
      Awaits profile profile.resolver.candidates

/-- Once the name is found, nothing else is waited for. -/
lemma OperatorProfile.Awaits.eq_of_resolved {profile : OperatorProfile} {names : List String}
    {name : String} (h : profile.Awaits names) (hname : profile.resolvedName = some name) :
    names = [name] := by
  cases h with
  | found resolved =>
    rw [resolved] at hname
    cases hname
    rfl
  | unsettled resolved =>
    rw [resolved] at hname
    cases hname

/-- As long as no name is found, every candidate is waited for. -/
lemma OperatorProfile.Awaits.eq_of_unsettled {profile : OperatorProfile} {names : List String}
    (h : profile.Awaits names) (hname : profile.resolvedName = none) :
    names = profile.resolver.candidates := by
  cases h with
  | found resolved =>
    rw [resolved] at hname
    cases hname
  | unsettled => rfl

/-- The look-ups of the deployment and of the pods of each name, with the answers that there is
none. -/
def goneUnder (ns : String) (names : List String) : List (Exchange controlPlane) :=
  names.flatMap fun name => [⟨.get .deployment ns name, .ok none⟩, ⟨.list .pod ns name, .ok []⟩]

/-- A look-up whose answer shows an object. -/
inductive Exchange.ShowsObject : Exchange controlPlane → Prop where
  | found (kind : ObjectKind) (ns name : String) (snapshot : Snapshot) :
      ShowsObject ⟨.get kind ns name, .ok (some snapshot)⟩
  | listed (kind : ObjectKind) (ns stem : String) (first : Snapshot) (rest : List Snapshot) :
      ShowsObject ⟨.list kind ns stem, .ok (first :: rest)⟩

namespace Operator

variable {operator : Operator} {ns name : String} {names : List String}
  {asked : List (Exchange controlPlane)} {watch : List (Exchange controlPlane.timed)}
  {r : Except Failure Unit}

/-- The names that are looked up are those that have to be gone. -/
lemma awaits_awaitedNames (operator : Operator) :
    operator.profile.Awaits operator.awaitedNames := by
  unfold awaitedNames
  cases hname : operator.profile.resolvedName with
  | some name => exact .found hname
  | none => exact .unsettled hname

/-! ### One evaluation -/

/-- Behind a name, an evaluation goes on to the next one only if it was shown nothing. -/
lemma stoppedUnder_cons_yields_ok_iff {finding : Finding Unit} :
    (stoppedUnder ns (name :: names)).Yields asked (.ok finding) ↔
      (∃ snapshot, asked = [⟨.get .deployment ns name, .ok (some snapshot)⟩] ∧
        finding = .notYet s!"deployment {name} still present") ∨
      (∃ first rest, asked = [⟨.get .deployment ns name, .ok none⟩,
          ⟨.list .pod ns name, .ok (first :: rest)⟩] ∧
        finding = .notYet s!"{(first :: rest).length} pods of {name} remain") ∨
      ∃ further, asked = ⟨.get .deployment ns name, .ok none⟩ ::
          ⟨.list .pod ns name, .ok []⟩ :: further ∧
        (stoppedUnder ns names).Yields further (.ok finding) := by
  refine Action.yields_bind_ok_iff.trans ?_
  simp only [ControlPlane.isPresent_yields_ok_iff]
  constructor
  · rintro ⟨_, t, _, rfl, ⟨found, rfl, rfl⟩, h⟩
    cases found with
    | some snapshot =>
      obtain ⟨rfl, hfinding⟩ := Action.yields_pure_iff.mp h
      exact .inl ⟨snapshot, rfl, Except.ok.inj hfinding⟩
    | none =>
      obtain ⟨_, further, pods, rfl, hlist, hpods⟩ := Action.yields_bind_ok_iff.mp h
      obtain rfl := ControlPlane.list_yields_iff.mp hlist
      cases pods with
      | nil => exact .inr (.inr ⟨further, rfl, hpods⟩)
      | cons first rest =>
        obtain ⟨rfl, hfinding⟩ := Action.yields_pure_iff.mp hpods
        exact .inr (.inl ⟨first, rest, rfl, Except.ok.inj hfinding⟩)
  · rintro (⟨snapshot, rfl, rfl⟩ | ⟨first, rest, rfl, rfl⟩ | ⟨further, rfl, h⟩)
    · exact ⟨[_], [], true, rfl, ⟨some snapshot, rfl, rfl⟩,
        Action.yields_pure_iff.mpr ⟨rfl, rfl⟩⟩
    · refine ⟨[_], [_], false, rfl, ⟨none, rfl, rfl⟩, Action.yields_bind_ok_iff.mpr ?_⟩
      exact ⟨[_], [], first :: rest, rfl, ControlPlane.list_yields_iff.mpr rfl,
        Action.yields_pure_iff.mpr ⟨rfl, rfl⟩⟩
    · refine ⟨[_], _, false, rfl, ⟨none, rfl, rfl⟩, Action.yields_bind_ok_iff.mpr ?_⟩
      exact ⟨[_], further, [], rfl, ControlPlane.list_yields_iff.mpr rfl, h⟩

/-- An evaluation finds the operator stopped exactly if it was shown nothing under any name. -/
lemma stoppedUnder_yields_reached_iff :
    (stoppedUnder ns names).Yields asked (.ok (.reached ())) ↔ asked = goneUnder ns names := by
  induction names generalizing asked with
  | nil => simp [stoppedUnder, goneUnder]
  | cons name names ih =>
    rw [stoppedUnder_cons_yields_ok_iff]
    simp only [reduceCtorEq, and_false, exists_false, false_or, ih]
    constructor
    · rintro ⟨further, rfl, rfl⟩
      rfl
    · rintro rfl
      exact ⟨goneUnder ns names, rfl, rfl⟩

/-- An evaluation that finds the operator running was shown an object. -/
lemma exists_showsObject_of_notYet {observed : String}
    (h : (stoppedUnder ns names).Yields asked (.ok (.notYet observed))) :
    ∃ e ∈ asked, e.ShowsObject := by
  induction names generalizing asked with
  | nil =>
    have hfinding := (Action.yields_pure_iff.mp h).2
    cases hfinding
  | cons name names ih =>
    obtain ⟨snapshot, rfl, -⟩ | ⟨first, rest, rfl, -⟩ | ⟨further, rfl, hfurther⟩ :=
      stoppedUnder_cons_yields_ok_iff.mp h
    · exact ⟨_, List.mem_cons_self, .found _ _ _ snapshot⟩
    · exact ⟨_, List.mem_cons_of_mem _ List.mem_cons_self, .listed _ _ _ first rest⟩
    · obtain ⟨e, he, hshows⟩ := ih hfurther
      exact ⟨e, List.mem_cons_of_mem _ (List.mem_cons_of_mem _ he), hshows⟩

/-! ### The whole wait -/

/-- The account of a wait that began at `start` for the objects under the names to go.  Every round
but the last was shown an object and ended before the deadline, and the last one decides the wait:
it ends well exactly if this round asked for the deployment and the pods of every name and all of
them were gone. -/
structure Watch (operator : Operator) (names : List String) (start : Nat)
    (undecided : List (Round controlPlane Unit)) (last : Round controlPlane Unit)
    (watch : List (Exchange controlPlane.timed)) (r : Except Failure Unit) : Prop where
  rounds : RoundsOf operator.pollInterval (stoppedUnder operator.deploymentNamespace names) start
    (undecided ++ [last]) watch
  lookups : ∀ e ∈ watch, TimedRequest.Within ControlPlaneRequest.IsLookup e.request
  running : ∀ round ∈ undecided, (∃ e ∈ round.asked, e.ShowsObject) ∧
    ∃ observed time, round = .pending round.asked observed time ∧ time - start < operator.timeout
  decides : last.verdict s!"waiting for operator in {operator.deploymentNamespace} to stop"
    operator.timeout start = some r
  gone : r = .ok () ↔ last.asked = goneUnder operator.deploymentNamespace names

/-- A wait with parameters that allow for one accounts for its rounds. -/
lemma awaitStopped_watch (hpos : 0 < operator.pollInterval)
    (hlt : operator.pollInterval < operator.timeout) (h : operator.awaitStopped.Yields watch r) :
    ∃ start undecided last,
      operator.Watch operator.awaitedNames start undecided last watch r := by
  have hlookups : ∀ e ∈ watch, TimedRequest.Within ControlPlaneRequest.IsLookup e.request :=
    poll_asksOnly (stoppedUnder_asksOnly _ _) watch r h
  obtain ⟨start, undecided, last, hrounds, hundecided, hlast⟩ := poll_account hpos hlt h
  have hevaluates : (stoppedUnder operator.deploymentNamespace operator.awaitedNames).Yields
      last.asked last.outcome := hrounds.evaluates last (by simp)
  refine ⟨start, undecided, last, hrounds, hlookups, ?_, hlast, ?_⟩
  · intro round hround
    obtain ⟨asked, observed, time, rfl, hearly⟩ :=
      Round.verdict_eq_none_iff.mp (hundecided round hround)
    have hnotYet : (stoppedUnder operator.deploymentNamespace operator.awaitedNames).Yields asked
        (.ok (.notYet observed)) := hrounds.evaluates _ (List.mem_append_left _ hround)
    exact ⟨exists_showsObject_of_notYet hnotYet, observed, time, rfl, hearly⟩
  · constructor
    · rintro rfl
      obtain ⟨asked, rfl⟩ := Round.verdict_eq_ok_iff.mp hlast
      exact stoppedUnder_yields_reached_iff.mp hevaluates
    · intro hgone
      have hreached := stoppedUnder_yields_reached_iff.mpr hgone
      have houtcome : last.outcome = .ok (.reached ()) := hevaluates.unique hreached
      cases last with
      | failed asked failure => cases houtcome
      | pending asked observed time => cases houtcome
      | reached asked value => exact (Option.some.inj hlast).symm

/-! ### The undeployment -/

/-- The refusal of the wait for the operator to stop. -/
def stopRefusal (operator : Operator) : Failure :=
  .badSettings (Polling.fault s!"waiting for operator in {operator.deploymentNamespace} to stop"
    operator.pollInterval operator.timeout)

/-- The ways in which an undeployment that waits ends without a look at the cluster: what it asked
until then, and the failure that it ends with. -/
inductive EndsUnwatched (operator : Operator) :
    List (Exchange controlPlane.timed) → Failure → Prop where
  /-- The call does not fit the phase of the operator. -/
  | refused (unfit : operator.phase.canUndeploy = false) :
      EndsUnwatched operator [] (.wrongPhase "undeploy" operator.phase.text)
  /-- A deletion fails, and it is not that the object is absent. -/
  | deleteFailed {deletions : List (Exchange controlPlane)} {failure : Failure}
      (failed : Action.LoopRun Deletes FailsToDelete
        (operator.manifests.reverse.map Manifest.address) deletions (.error failure)) :
      EndsUnwatched operator (deletions.map Exchange.timed) failure
  /-- The deletions go through, but the settings of the operator do not allow for a wait. -/
  | unwaited {deletions : List (Exchange controlPlane)}
      (passed : List.Forall₂ Deletes (operator.manifests.reverse.map Manifest.address) deletions)
      (faulty : Polling.IsFaulty operator.pollInterval operator.timeout) :
      EndsUnwatched operator (deletions.map Exchange.timed) operator.stopRefusal

/-- An undeployment that waits deletes the objects and then accounts for its wait by rounds, unless
it ends without looking at the cluster. -/
lemma UndeployRun.exists_watch {t : List (Exchange controlPlane.timed)} {after : Operator}
    (h : UndeployRun operator true t r after) :
    (∃ deletions start undecided last watch, t = deletions.map Exchange.timed ++ watch ∧
      List.Forall₂ Deletes (operator.manifests.reverse.map Manifest.address) deletions ∧
      operator.Watch operator.awaitedNames start undecided last watch r) ∨
    ∃ failure, operator.EndsUnwatched t failure ∧ r = .error failure ∧
      ∀ e ∈ t, TimedRequest.Within ControlPlaneRequest.IsDelete e.request := by
  have hdeletes := (deleteAll_asksOnly (operator.manifests.reverse.map Manifest.address)).timed
  cases h with
  | deleteFailed delete =>
    have hdeleted := hdeletes _ _ delete
    obtain ⟨deletions, rfl, hloop⟩ := deleteAll_timed_yields_iff.mp delete
    exact .inr ⟨_, .deleteFailed hloop, rfl, hdeleted⟩
  | @running t₁ t₂ e delete removal =>
    have hdeleted := hdeletes _ _ delete
    obtain ⟨deletions, rfl, hloop⟩ := deleteAll_timed_yields_iff.mp delete
    by_cases hfaulty : Polling.IsFaulty operator.pollInterval operator.timeout
    · -- Faulty settings fail before the first evaluation.
      obtain ⟨rfl, hrefusal⟩ := (poll_yields_iff_of_isFaulty hfaulty).mp removal
      obtain rfl := Except.error.inj hrefusal
      rw [List.append_nil]
      exact .inr ⟨_, .unwaited hloop.forall₂ hfaulty, rfl, hdeleted⟩
    · obtain ⟨hpos, hlt⟩ := Polling.not_isFaulty_iff.mp hfaulty
      obtain ⟨start, undecided, last, hwatch⟩ := awaitStopped_watch hpos hlt removal
      exact .inl ⟨deletions, start, undecided, last, t₂, rfl, hloop.forall₂, hwatch⟩
  | @stopped t₁ t₂ delete removal =>
    obtain ⟨hpos, hlt⟩ := poll_parameters_of_ok removal
    obtain ⟨deletions, rfl, hloop⟩ := deleteAll_timed_yields_iff.mp delete
    obtain ⟨start, undecided, last, hwatch⟩ := awaitStopped_watch hpos hlt removal
    exact .inl ⟨deletions, start, undecided, last, t₂, rfl, hloop.forall₂, hwatch⟩

/-- An undeployment does not change what the operator is called. -/
lemma UndeployRun.profile_eq {awaitRemoval : Bool} {t : List (Exchange controlPlane.timed)}
    {after : Operator} (h : UndeployRun operator awaitRemoval t r after) :
    after.profile = operator.profile := by
  cases h <;> rfl

/-- If a cluster answers as an evaluation was answered that found everything gone under the name of
the operator, then it shows no pod of the operator. -/
lemma firstPod_under_of_gone {cluster : (q : controlPlane.Request) → controlPlane.Answer q}
    (hname : operator.profile.resolvedName = some name)
    (hcluster : ∀ e ∈ goneUnder operator.deploymentNamespace [name],
      cluster e.request = e.answer) :
    operator.firstPod.under cluster =
      .error (.notFound ObjectKind.pod.name operator.deploymentNamespace name) := by
  have hlist : (ControlPlane.list .pod operator.deploymentNamespace name).under cluster = .ok [] :=
    hcluster ⟨.list .pod operator.deploymentNamespace name, .ok []⟩ (by simp [goneUnder])
  unfold firstPod
  rw [hname]
  exact (Action.under_bind_ok hlist).trans (Action.under_throw _)

/-- However an operator got where it is, an undeployment that waits comes to an end.  If its
deletions go through and its settings allow for a wait, it ends well at the first evaluation that
finds everything gone, which no evaluation before it did, and the operator's pod is then not found
on a cluster that does not change any more.  Otherwise it fails without looking at the cluster,
with the failure that `EndsUnwatched` tells.  The deadline is measured by a clock that never goes
back (`Interface.timed`). -/
theorem undeploy_ends_when_gone (operator : Operator) :
    (∀ (σ : Type) (answer : (q : controlPlane.timed.Request) → σ → controlPlane.timed.Answer q × σ)
      (s : σ), ∃ t r after, Yields (undeploy true) operator t r after ∧
        Program.Answered answer s t) ∧
    ∀ t r after, Yields (undeploy true) operator t r after →
      (∃ names deletions start undecided last watch, operator.profile.Awaits names ∧
        t = deletions.map Exchange.timed ++ watch ∧
        List.Forall₂ Deletes (operator.manifests.reverse.map Manifest.address) deletions ∧
        operator.Watch names start undecided last watch r ∧
        (r = .ok () → ∀ name, operator.profile.resolvedName = some name →
          ∀ cluster : (q : controlPlane.Request) → controlPlane.Answer q,
            (∀ e ∈ last.asked, cluster e.request = e.answer) →
              after.firstPod.under cluster =
                .error (.notFound ObjectKind.pod.name operator.deploymentNamespace name))) ∨
      ∃ failure, operator.EndsUnwatched t failure ∧ r = .error failure ∧
        ∀ e ∈ t, TimedRequest.Within ControlPlaneRequest.IsDelete e.request := by
  constructor
  · exact fun σ answer s => exists_yields (undeploy true) operator answer s
  · intro t r after h
    obtain ⟨-, hrun⟩ | ⟨hunfit, rfl, rfl, -⟩ := undeploy_yields_iff.mp h
    · obtain ⟨deletions, start, undecided, last, watch, rfl, hdeletions, hwatch⟩ | hfailed :=
        hrun.exists_watch
      · have hawaits := operator.awaits_awaitedNames
        refine .inl ⟨_, deletions, start, undecided, last, watch, hawaits, rfl, hdeletions, hwatch,
          ?_⟩
        intro hok name hname cluster hcluster
        rw [hwatch.gone.mp hok, hawaits.eq_of_resolved hname] at hcluster
        have hns : after.deploymentNamespace = operator.deploymentNamespace :=
          congrArg OperatorProfile.deploymentNamespace hrun.profile_eq
        rw [← hns] at hcluster ⊢
        rw [← hrun.profile_eq] at hname
        exact firstPod_under_of_gone hname hcluster
      · exact .inr hfailed
    · exact .inr ⟨_, .refused hunfit, rfl, by simp⟩

end Operator

/-! ### Undeployments that wait for a second evaluation -/

namespace Removal.Sample

/-- A deployed operator whose name is settled. -/
def settled : Operator := (Lifetime.Sample.operator.withName "operator").inPhase .deployed

/-- An operator whose deployment ended before a name was found. -/
def unsettled : Operator where
  profile :=
    { Lifetime.Sample.profile with
      resolver := ⟨["manager", "operator"], .preferNewest, none, by simp⟩ }
  manifests := Lifetime.Sample.operator.manifests
  phase := .deploying
  pollInterval := Lifetime.Sample.operator.pollInterval
  timeout := Lifetime.Sample.operator.timeout

def running : Snapshot := ⟨.deployment, some "broker", "operator", some 1, .object []⟩

def pod : Snapshot := ⟨.pod, some "broker", "manager-0", none, .object []⟩

/-- A cluster on which there is nothing. -/
def vacant : (q : controlPlane.Request) → controlPlane.Answer q
  | .apply manifest => .error (.malformed manifest.name)
  | .delete _ => .ok ()
  | .get .. => .ok none
  | .list .. => .ok []

/-- A wait whose first evaluation asks `asked`, and whose second one is shown nothing under the
names. -/
def watch (operator : Operator) (asked : List (Exchange controlPlane)) (names : List String) :
    List (Exchange controlPlane.timed) :=
  .reading 0 :: (asked.map Exchange.timed ++
    .reading 1 :: ⟨.sleep operator.pollInterval, ()⟩ ::
      (goneUnder "broker" names).map Exchange.timed)

/-- An undeployment that deletes the deployment, and its wait. -/
def exchanges (operator : Operator) (asked : List (Exchange controlPlane)) (names : List String) :
    List (Exchange controlPlane.timed) :=
  ⟨.other (.delete Sweep.Sample.preparedDeployment.address), .ok ()⟩ :: watch operator asked names

/-- The deployment of the only name is still there. -/
def shownDeployment : List (Exchange controlPlane) :=
  [⟨.get .deployment "broker" "operator", .ok (some running)⟩]

/-- The deployment of the first candidate is gone, but a pod of it is left. -/
def shownPod : List (Exchange controlPlane) :=
  [⟨.get .deployment "broker" "manager", .ok none⟩, ⟨.list .pod "broker" "manager", .ok [pod]⟩]

/-- An undeployment whose first evaluation finds the operator running ends well with the second
one. -/
lemma undeploy_yields {operator : Operator} {asked : List (Exchange controlPlane)}
    {names : List String} {observed : String}
    (hns : operator.deploymentNamespace = "broker") (hnames : operator.awaitedNames = names)
    (hphase : operator.phase.canUndeploy = true)
    (hmanifests : operator.manifests = Lifetime.Sample.operator.manifests)
    (hpos : 0 < operator.pollInterval) (hlt : operator.pollInterval < operator.timeout)
    (hrunning : (Operator.stoppedUnder "broker" names).Yields asked (.ok (.notYet observed))) :
    Operator.Yields (Operator.undeploy true) operator (exchanges operator asked names) (.ok ())
      (operator.inPhase .undeployed) := by
  have hdelete : (Operator.deleteAll (operator.manifests.reverse.map Manifest.address)).timed.Yields
      [⟨.other (.delete Sweep.Sample.preparedDeployment.address), .ok ()⟩] (.ok ()) := by
    rw [hmanifests]
    exact .ask (.done _)
  have hgone : (Operator.stoppedUnder "broker" names).Yields
      (goneUnder "broker" names) (.ok (.reached ())) :=
    Operator.stoppedUnder_yields_reached_iff.mpr rfl
  have hearly : 1 < 0 + operator.timeout := by omega
  have hwait : operator.awaitStopped.Yields (watch operator asked names) (.ok ()) := by
    unfold Operator.awaitStopped
    rw [hns, hnames]
    refine (poll_yields_iff_of_lt hpos hlt).mpr (Polling.run_yields_iff.mpr ?_)
    exact ⟨0, _, _, rfl, .again hrunning (Nat.zero_le 1) hearly (.reached hgone)⟩
  exact Operator.undeploy_yields_iff.mpr (.inl ⟨hphase, .stopped hdelete hwait⟩)

/-- The deployment of the only name goes away between two evaluations. -/
lemma settled_yields : Operator.Yields (Operator.undeploy true) settled
    (exchanges settled shownDeployment ["operator"]) (.ok ()) (settled.inPhase .undeployed) := by
  have hrunning : (Operator.stoppedUnder "broker" ["operator"]).Yields shownDeployment
      (.ok (.notYet "deployment operator still present")) :=
    Operator.stoppedUnder_cons_yields_ok_iff.mpr (.inl ⟨running, rfl, rfl⟩)
  exact undeploy_yields rfl rfl rfl rfl (by decide) (by decide) hrunning

/-- The last pod of the first candidate goes away between two evaluations. -/
lemma unsettled_yields : Operator.Yields (Operator.undeploy true) unsettled
    (exchanges unsettled shownPod ["manager", "operator"]) (.ok ())
    (unsettled.inPhase .undeployed) := by
  have hrunning : (Operator.stoppedUnder "broker" ["manager", "operator"]).Yields shownPod
      (.ok (.notYet "1 pods of manager remain")) :=
    Operator.stoppedUnder_cons_yields_ok_iff.mpr (.inr (.inl ⟨pod, [], rfl, rfl⟩))
  exact undeploy_yields rfl rfl rfl rfl (by decide) (by decide) hrunning

end Removal.Sample

open Removal in
/-- An operator with a settled name is gone when this name is, and one without a name when all
candidates are; each at the second evaluation, since the first one was shown an object. -/
theorem undeploy_ends_behind_running_deployment :
    (Operator.Yields (Operator.undeploy true) Sample.settled
        (Sample.exchanges Sample.settled Sample.shownDeployment ["operator"]) (.ok ())
        (Sample.settled.inPhase .undeployed) ∧
      ∃ start undecided last watch,
        Sample.settled.Watch ["operator"] start undecided last watch (.ok ()) ∧
        (Sample.settled.inPhase .undeployed).firstPod.under Sample.vacant =
          .error (.notFound "Pod" "broker" "operator")) ∧
      Operator.Yields (Operator.undeploy true) Sample.unsettled
        (Sample.exchanges Sample.unsettled Sample.shownPod ["manager", "operator"]) (.ok ())
        (Sample.unsettled.inPhase .undeployed) ∧
      ∃ start undecided last watch,
        Sample.unsettled.Watch ["manager", "operator"] start undecided last watch (.ok ()) ∧
        last.asked = [⟨.get .deployment "broker" "manager", .ok none⟩,
          ⟨.list .pod "broker" "manager", .ok []⟩,
          ⟨.get .deployment "broker" "operator", .ok none⟩,
          ⟨.list .pod "broker" "operator", .ok []⟩] := by
  refine ⟨⟨Sample.settled_yields, ?_⟩, Sample.unsettled_yields, ?_⟩
  · obtain ⟨names, deletions, start, undecided, last, watch, hnames, -, -, hwatch, hpod⟩ |
        ⟨failure, -, hfailure, -⟩ :=
      (Operator.undeploy_ends_when_gone Sample.settled).2 _ _ _ Sample.settled_yields
    · obtain rfl : names = ["operator"] := hnames.eq_of_resolved rfl
      refine ⟨start, undecided, last, watch, hwatch, hpod rfl "operator" rfl Sample.vacant ?_⟩
      rw [hwatch.gone.mp rfl]
      exact List.forall_mem_cons.mpr ⟨rfl, List.forall_mem_singleton.mpr rfl⟩
    · cases hfailure
  · obtain ⟨names, deletions, start, undecided, last, watch, hnames, -, -, hwatch, -⟩ |
        ⟨failure, -, hfailure, -⟩ :=
      (Operator.undeploy_ends_when_gone Sample.unsettled).2 _ _ _ Sample.unsettled_yields
    · obtain rfl : names = ["manager", "operator"] := hnames.eq_of_unsettled rfl
      exact ⟨start, undecided, last, watch, hwatch, hwatch.gone.mp rfl⟩
    · cases hfailure

end BrokerHarness
