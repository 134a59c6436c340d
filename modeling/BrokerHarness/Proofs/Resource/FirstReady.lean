import BrokerHarness.Proofs.Polling.Tick
import BrokerHarness.Proofs.Resource.Readiness

/-!
# When a creation or an update ends

On a history of the cluster a creation or an update that waits looks at its object when it was
applied and then once per interval.  It ends at the first of these ticks at which the object is
there and ready, with the resource that is read from it at this tick, and misses the deadline at the
last tick if there is none.  In between the object may get ready and unready again, vanish and
return: only the ticks count.

`Resource.isReady_iff_observe` ties the readiness of a resource to what a look at the object finds,
and `pendingAt_of_not_showsReady` says that a legible object that is not ready leaves the wait
pending rather than failing it.
-/

namespace BrokerHarness

/-- A resource can be read from the snapshot: it has a namespace, and its conditions can be
decoded. -/
def Snapshot.IsLegible (snapshot : Snapshot) : Prop :=
  snapshot.scope ≠ none ∧ ∃ conditions, snapshot.statusConditions = .ok conditions

/-- A snapshot that is legible is a resource. -/
lemma Snapshot.IsLegible.exists_resource {snapshot : Snapshot} (h : snapshot.IsLegible) :
    ∃ resource, Resource.ofSnapshot snapshot = .ok resource := by
  obtain ⟨hscope, conditions, hconditions⟩ := h
  obtain ⟨ns, hns⟩ := Option.ne_none_iff_exists'.mp hscope
  exact ⟨_, Resource.ofSnapshot_eq_ok_iff.mpr ⟨ns, conditions, hns, hconditions, rfl⟩⟩

/-- A look at an object finds it ready exactly if the resource that it is read as is ready. -/
lemma Resource.isReady_iff_observe {snapshot : Snapshot} {resource : Resource}
    (hresource : ofSnapshot snapshot = .ok resource) :
    resource.IsReady ↔ Readiness.observe snapshot = .ok (.reached snapshot) := by
  constructor
  · intro h
    obtain ⟨hconditions, hgeneration, hbody⟩ := ofSnapshot_eq_ok hresource
    have hmissing : Readiness.missing snapshot.generation resource.conditions
        Readiness.requiredTypes = none := by
      rw [Readiness.missing_eq_none_iff, ← hgeneration]
      exact h.conditions
    have hstatus : IsCurrent (snapshot.body.int64At? ["status", "observedGeneration"])
        snapshot.generation := by
      rw [← hbody, ← hgeneration]
      exact h.status
    exact Readiness.observe_eq_reached_iff.mpr ⟨rfl, hstatus, _, hconditions, hmissing⟩
  · intro h
    exact isReady_ofSnapshot h hresource

/-- A look at an object whose conditions can be decoded does not fail. -/
lemma Readiness.exists_observe {snapshot : Snapshot} {conditions : List Condition}
    (h : snapshot.statusConditions = .ok conditions) :
    ∃ finding, observe snapshot = .ok finding := by
  unfold observe
  cases isBehind (snapshot.body.int64At? ["status", "observedGeneration"]) snapshot.generation with
  | some pair => exact ⟨_, rfl⟩
  | none =>
    rw [h]
    cases hmissing : missing snapshot.generation conditions requiredTypes with
    | some text => exact ⟨.notYet text, by simp [bind, Except.bind, pure, Except.pure, hmissing]⟩
    | none => exact ⟨.reached snapshot, by simp [bind, Except.bind, pure, Except.pure, hmissing]⟩

/-! ### What a tick shows -/

namespace ClusterHistory

/-- What the cluster holds at a time under the kind, namespace and name of an object that was
applied. -/
def objectOf (history : ClusterHistory) (applied : Snapshot) (time : Nat) : Option Snapshot :=
  history.object time applied.kind (applied.scope.getD "") applied.name

/-- The object that was applied is there at a time and is ready, and reads as the resource. -/
def ShowsReady (history : ClusterHistory) (applied : Snapshot) (time : Nat) (resource : Resource) :
    Prop :=
  ∃ snapshot, history.objectOf applied time = some snapshot ∧
    Resource.ofSnapshot snapshot = .ok resource ∧ resource.IsReady

/-- The object that was applied is legible whenever a wait from `start` on looks at it: at each tick
up to the deadline before which no tick shows it ready. -/
def LegibleUntilReady (history : ClusterHistory) (applied : Snapshot)
    (start interval timeout : Nat) : Prop :=
  ∀ k ≤ ⌈(timeout : ℚ) / interval⌉₊,
    (∀ j < k, ¬ ∃ resource, history.ShowsReady applied (start + j * interval) resource) →
      ∀ snapshot, history.objectOf applied (start + k * interval) = some snapshot →
        snapshot.IsLegible

variable {history : ClusterHistory} {applied snapshot : Snapshot} {time : Nat} {resource : Resource}

/-- A look at an object that is there judges its snapshot. -/
lemma observeReadiness_under_of_some (h : history.objectOf applied time = some snapshot) :
    (Provisioning.observeReadiness applied.kind (applied.scope.getD "") applied.name).under
      (history.answer time) = Readiness.observe snapshot := by
  have hget : (ControlPlane.get applied.kind (applied.scope.getD "") applied.name).under
      (history.answer time) = .ok (some snapshot) := by
    rw [get_under]
    exact congrArg Except.ok h
  unfold Provisioning.observeReadiness
  rw [Action.under_bind_ok hget]
  exact Action.under_ofExcept _

/-- A look at an object that is not there leaves the wait pending. -/
lemma observeReadiness_under_of_none (h : history.objectOf applied time = none) :
    (Provisioning.observeReadiness applied.kind (applied.scope.getD "") applied.name).under
      (history.answer time) = .ok (.notYet "object not found") := by
  have hget : (ControlPlane.get applied.kind (applied.scope.getD "") applied.name).under
      (history.answer time) = .ok none := by
    rw [get_under]
    exact congrArg Except.ok h
  unfold Provisioning.observeReadiness
  rw [Action.under_bind_ok hget]
  exact Action.under_pure _

/-- A look at an object that is ready reaches its snapshot. -/
lemma ShowsReady.reached (h : history.ShowsReady applied time resource) :
    ∃ snapshot, Resource.ofSnapshot snapshot = .ok resource ∧
      (Provisioning.observeReadiness applied.kind (applied.scope.getD "") applied.name).under
        (history.answer time) = .ok (.reached snapshot) := by
  obtain ⟨snapshot, hobject, hresource, hready⟩ := h
  refine ⟨snapshot, hresource, ?_⟩
  rw [observeReadiness_under_of_some hobject]
  exact (Resource.isReady_iff_observe hresource).mp hready

/-- An object that is not there, or is legible and not ready, leaves the wait pending. -/
lemma pendingAt_of_not_showsReady
    (hlegible : ∀ snapshot, history.objectOf applied time = some snapshot → snapshot.IsLegible)
    (hnot : ¬ ∃ resource, history.ShowsReady applied time resource) :
    PendingAt history.answer
      (Provisioning.observeReadiness applied.kind (applied.scope.getD "") applied.name) time := by
  cases hobject : history.objectOf applied time with
  | none => exact ⟨_, observeReadiness_under_of_none hobject⟩
  | some snapshot =>
    have hsnapshot : snapshot.IsLegible := hlegible snapshot hobject
    obtain ⟨resource, hresource⟩ := hsnapshot.exists_resource
    obtain ⟨-, conditions, hconditions⟩ := hsnapshot
    obtain ⟨finding, hfinding⟩ := Readiness.exists_observe hconditions
    cases finding with
    | notYet observed =>
      exact ⟨observed, (observeReadiness_under_of_some hobject).trans hfinding⟩
    | reached seen =>
      obtain ⟨rfl, -⟩ := Readiness.observe_eq_reached_iff.mp hfinding
      have hready : resource.IsReady := (Resource.isReady_iff_observe hresource).mpr hfinding
      exact absurd ⟨resource, seen, hobject, hresource, hready⟩ hnot

end ClusterHistory

/-! ### The end of a wait -/

/-- What a wait for an applied object to get ready is for, as told in its failure. -/
def readinessText (applied : Snapshot) : String :=
  let ns := applied.scope.getD ""
  s!"waiting for {applied.kind.name} {ns}/{applied.name} to be ready"

/-- An operation on an object that was applied at `start` ends as its history says: at the first
tick up to the deadline at which the object is there and ready, with what is read from it at this
tick, and at the last tick with a missed deadline if there is none.  `view` is the resource in what
the operation gives. -/
structure EndsWhenReady {α : Type} (view : α → Resource) (history : ClusterHistory)
    (applied : Snapshot) (start interval timeout : Nat) (outcome : Except Failure α × Nat) :
    Prop where
  ready : ∀ k ≤ ⌈(timeout : ℚ) / interval⌉₊, ∀ resource,
    history.ShowsReady applied (start + k * interval) resource →
    (∀ j < k, ¬ ∃ earlier, history.ShowsReady applied (start + j * interval) earlier) →
      ∃ result, view result = resource ∧ outcome = (.ok result, start + k * interval)
  late : (∀ k ≤ ⌈(timeout : ℚ) / interval⌉₊,
      ¬ ∃ resource, history.ShowsReady applied (start + k * interval) resource) →
    ∃ observed, outcome =
      (.error (.deadlinePassed (readinessText applied) (⌈(timeout : ℚ) / interval⌉₊ * interval)
          observed),
        start + ⌈(timeout : ℚ) / interval⌉₊ * interval)

namespace Provisioning

variable {α : Type} {provisioning : Provisioning} {history : ClusterHistory} {manifest : Manifest}
  {options : WaitOptions} {start timeout defaultTimeout : Nat}

/-- Applying takes no time, and the wait begins with what was stored. -/
lemma submit_during (hawait : options.awaitReady = true)
    (htimeout : options.timeout.getD defaultTimeout = timeout) :
    (provisioning.submit manifest options defaultTimeout).during history.answer start =
      (provisioning.awaitReadiness (history.stored start manifest) timeout).during history.answer
        start := by
  have happly : (ControlPlane.apply manifest).timed.during history.answer start =
      (.ok (history.stored start manifest), start) := by
    rw [Action.during_timed, ClusterHistory.apply_under]
  unfold submit
  rw [Action.during_bind_ok happly, if_pos hawait, htimeout]

/-- An operation that submits a manifest and reads the resource from what it waited for, without
taking time for it, ends when the resource is ready. -/
lemma endsWhenReady_of_submit {view : α → Resource} {read : Snapshot → Action controlPlane.timed α}
    (hpos : 0 < provisioning.pollInterval) (hlt : provisioning.pollInterval < timeout)
    (hawait : options.awaitReady = true)
    (htimeout : options.timeout.getD defaultTimeout = timeout)
    (hlegible : history.LegibleUntilReady (history.stored start manifest) start
      provisioning.pollInterval timeout)
    (hread : ∀ snapshot resource time, Resource.ofSnapshot snapshot = .ok resource →
      ∃ result, view result = resource ∧
        (read snapshot).during history.answer time = (.ok result, time)) :
    EndsWhenReady view history (history.stored start manifest) start provisioning.pollInterval
      timeout
      ((provisioning.submit manifest options defaultTimeout >>= read).during history.answer
        start) where
  ready := by
    intro k hk resource hready hearlier
    obtain ⟨snapshot, hresource, hreached⟩ := hready.reached
    have hpending : ∀ j < k, PendingAt history.answer
        (observeReadiness (history.stored start manifest).kind
          ((history.stored start manifest).scope.getD "") (history.stored start manifest).name)
        (start + j * provisioning.pollInterval) := by
      intro j hj
      have hlooked := hlegible j (hj.le.trans hk) fun i hi => hearlier i (hi.trans hj)
      exact ClusterHistory.pendingAt_of_not_showsReady hlooked (hearlier j hj)
    have hwait := (submit_during hawait htimeout).trans
      (poll_during_reached hpos hlt hk hpending hreached)
    obtain ⟨result, hview, hresult⟩ :=
      hread snapshot resource (start + k * provisioning.pollInterval) hresource
    exact ⟨result, hview, (Action.during_bind_ok hwait).trans hresult⟩
  late := by
    intro hnever
    obtain ⟨observed, -, hlate⟩ := poll_during_deadline hpos hlt fun k hk =>
      ClusterHistory.pendingAt_of_not_showsReady
        (hlegible k hk fun j hj => hnever j (hj.le.trans hk)) (hnever k hk)
    have hwait := (submit_during hawait htimeout).trans hlate
    exact ⟨observed, Action.during_bind_error hwait⟩

/-- On a history, the claims of a broker are listed without failing. -/
lemma exists_unresizedClaims_under (history : ClusterHistory) (snapshot : Snapshot) (time : Nat) :
    ∃ claims, (unresizedClaims snapshot).under (history.answer time) = .ok claims := by
  unfold unresizedClaims
  split
  · exact ⟨_, Action.under_pure _⟩
  split
  · exact ⟨_, Action.under_pure _⟩
  · exact ⟨_, Action.under_bind_ok (ClusterHistory.list_under _ _ _)⟩

/-- A creation and an update that wait end when the object is ready on the cluster: at the first
tick at which it is there and ready, and with a missed deadline at the last tick if it is not at
any.  The clock of a history is exact, so the ticks are at the multiples of the poll interval. -/
theorem create_update_end_when_ready (provisioning : Provisioning) (history : ClusterHistory)
    (start timeout : Nat) (hpos : 0 < provisioning.pollInterval)
    (hlt : provisioning.pollInterval < timeout) :
    (∀ ns manifest options, options.awaitReady = true →
      options.timeout.getD provisioning.readyTimeout = timeout →
      history.LegibleUntilReady (history.stored start (manifest.movedTo ns)) start
        provisioning.pollInterval timeout →
      EndsWhenReady id history (history.stored start (manifest.movedTo ns)) start
        provisioning.pollInterval timeout
        ((provisioning.create ns manifest options).during history.answer start)) ∧
    (∀ resource options, options.awaitReady = true →
      options.timeout.getD provisioning.updateTimeout = timeout →
      history.LegibleUntilReady (history.stored start resource.desired) start
        provisioning.pollInterval timeout →
      EndsWhenReady Update.resource history (history.stored start resource.desired) start
        provisioning.pollInterval timeout
        ((provisioning.update resource options).during history.answer start)) := by
  constructor
  · intro ns manifest options hawait htimeout hlegible
    refine endsWhenReady_of_submit hpos hlt hawait htimeout hlegible ?_
    intro snapshot resource time hresource
    refine ⟨resource, rfl, ?_⟩
    rw [Action.during_ofExcept, hresource]
  · intro resource options hawait htimeout hlegible
    refine endsWhenReady_of_submit hpos hlt hawait htimeout hlegible ?_
    intro snapshot read time hresource
    obtain ⟨claims, hclaims⟩ := exists_unresizedClaims_under history snapshot time
    have hlist : (unresizedClaims snapshot).timed.during history.answer time =
        (.ok claims, time) := by
      rw [Action.during_timed, hclaims]
    have hread : (Action.ofExcept (Resource.ofSnapshot snapshot) :
        Action controlPlane.timed Resource).during history.answer time = (.ok read, time) := by
      rw [Action.during_ofExcept, hresource]
    refine ⟨⟨read, claims⟩, rfl, ?_⟩
    exact (Action.during_bind_ok hlist).trans (Action.during_bind_ok hread)

end Provisioning

/-! ### A creation whose object gets ready late -/

namespace Provisioning.Sample

/-- The sample's object gets ready between two ticks, is gone at the next one, and is back and ready
at the last, which the deadline comes before. -/
def flapping : ClusterHistory where
  stored _ _ := applied
  object time _ _ _ :=
    if time < 6 then some applied
    else if time < 10 then some ready
    else if time < 15 then none
    else some ready
  listed _ _ _ _ := []

/-- The sample's object is legible at all times. -/
lemma flapping_legible {time : Nat} {snapshot : Snapshot}
    (h : flapping.objectOf applied time = some snapshot) : snapshot.IsLegible := by
  have happlied : applied.IsLegible := ⟨by simp [applied], _, rfl⟩
  have hready : ready.IsLegible := ⟨by simp [ready], _, rfl⟩
  have hcases : snapshot = applied ∨ snapshot = ready := by
    simp only [ClusterHistory.objectOf, flapping] at h
    grind
  obtain rfl | rfl := hcases
  · exact happlied
  · exact hready

/-- Before anything is reported about it, the object is not ready. -/
lemma not_isReady_applied {resource : Resource} (h : Resource.ofSnapshot applied = .ok resource) :
    ¬ resource.IsReady := by
  intro hready
  have hobserve := (Resource.isReady_iff_observe h).mp hready
  have hpending : Readiness.observe applied = .ok (.notYet (Condition.listText [])) := rfl
  rw [hpending] at hobserve
  cases hobserve

/-- Up to the third tick the object is not there and ready. -/
lemma flapping_not_showsReady {k : Nat} (hk : k < 3) :
    ¬ ∃ resource, flapping.ShowsReady applied (0 + k * provisioning.pollInterval) resource := by
  rintro ⟨resource, snapshot, hobject, hresource, hready⟩
  have hshown : flapping.objectOf applied (0 + k * 5) = some snapshot := hobject
  -- The first two ticks show the object as it was applied, and the third one does not show it.
  obtain rfl | rfl | rfl : k = 0 ∨ k = 1 ∨ k = 2 := by omega
  · cases hshown
    exact not_isReady_applied hresource hready
  · cases hshown
    exact not_isReady_applied hresource hready
  · cases hshown

end Provisioning.Sample

open Provisioning in
/-- A creation whose object is ready at the fourth tick, which is the last and comes behind the
deadline. -/
theorem create_ends_at_last_tick : ∃ resource, resource.IsReady ∧
    (Sample.provisioning.create "test" Sample.manifest { timeout := some 12 }).during
      Sample.flapping.answer 0 = (.ok resource, 15) := by
  obtain ⟨resource, hresource⟩ : ∃ resource, Resource.ofSnapshot Sample.ready = .ok resource :=
    ⟨_, rfl⟩
  have hready : resource.IsReady := (Resource.isReady_iff_observe hresource).mpr rfl
  have hlast : 3 ≤ ⌈((12 : Nat) : ℚ) / Sample.provisioning.pollInterval⌉₊ :=
    (lt_ceil_div_iff (by decide)).mpr (by decide)
  have hends := (create_update_end_when_ready Sample.provisioning Sample.flapping 0 12 (by decide)
    (by decide)).1 "test" Sample.manifest { timeout := some 12 } rfl rfl
    (fun _ _ _ _ h => Sample.flapping_legible h)
  obtain ⟨result, hresult, hcreate⟩ := hends.ready 3 hlast resource
    ⟨Sample.ready, rfl, hresource, hready⟩ (fun j hj => Sample.flapping_not_showsReady hj)
  obtain rfl : result = resource := hresult
  exact ⟨result, hready, hcreate⟩

end BrokerHarness
