import BrokerHarness.Proofs.Condition.Judgement
import BrokerHarness.Proofs.ControlPlane
import BrokerHarness.Proofs.Polling.Decision
import BrokerHarness.Proofs.Resource.Snapshot
import BrokerHarness.Resource.Provisioning

/-!
# Readiness of created and updated resources

A creation or an update that waits gives a resource only by a polling whose last evaluation looks
the object up and finds it ready.  What that look-up showed is what the resource is read from, so
the resource is ready in itself (`Resource.IsReady`), and neither its status nor one of the
conditions that make it ready was reported for an older generation than its own.

`Readiness.missing` and `Readiness.observe` stop at the first fault.  `missing_eq_none_iff` and
`observe_eq_reached_iff` say what it means that there is none.
-/

namespace BrokerHarness

/-! ### What readiness means -/

/-- What was observed for one generation is not behind another; a missing one is not. -/
def IsCurrent (observed generation : Option Int64) : Prop :=
  ∀ o g, observed = some o → generation = some g → g ≤ o

/-- The conditions that count show the resource as deployed and ready, and nothing that was observed
is behind its generation. -/
structure Resource.IsReady (resource : Resource) : Prop where
  conditions : ∀ type ∈ ["Deployed", "Ready"], ∃ c,
    Condition.latest type resource.conditions = some c ∧ c.status = .holds ∧
      IsCurrent c.observedGeneration resource.generation
  status : IsCurrent (resource.body.int64At? ["status", "observedGeneration"]) resource.generation

namespace Readiness

variable {generation : Option Int64} {conditions : List Condition} {types : List String}

/-- A generation that was observed is not behind exactly if it is current. -/
lemma isBehind_eq_none_iff {observed current : Option Int64} :
    isBehind observed current = none ↔ IsCurrent observed current := by
  unfold isBehind IsCurrent
  cases observed with
  | none => simp
  | some o =>
    cases current with
    | none => simp
    | some c => simp

/-- Nothing is missing if every required condition holds and is about the generation. -/
lemma missing_eq_none_iff :
    missing generation conditions types = none ↔ ∀ type ∈ types, ∃ c,
      Condition.latest type conditions = some c ∧ c.status = .holds ∧
        IsCurrent c.observedGeneration generation := by
  induction types with
  | nil => simp [missing]
  | cons type rest ih =>
    rw [List.forall_mem_cons, ← ih, missing]
    cases hjudge : ({ type } : Expectation).judge conditions with
    | matched c =>
      obtain ⟨hlatest, haccepts⟩ := Expectation.judge_eq_matched_iff.mp hjudge
      have hholds : c.status = .holds := Expectation.accepts_type_iff.mp haccepts
      cases hbehind : isBehind c.observedGeneration generation with
      | none =>
        have hcurrent := isBehind_eq_none_iff.mp hbehind
        simp [hbehind, hlatest, hholds, hcurrent]
      | some pair =>
        have hcurrent : ¬ IsCurrent c.observedGeneration generation := by
          rw [← isBehind_eq_none_iff, hbehind]
          simp
        simp [hbehind, hlatest, hcurrent]
    -- Neither verdict is possible when the condition that counts holds.
    | mismatch _ | absent =>
      simp only [reduceCtorEq, false_iff, not_and]
      rintro ⟨c, hlatest, hholds, -⟩
      have hmatched : ({ type } : Expectation).judge conditions = .matched c :=
        Expectation.judge_eq_matched_iff.mpr ⟨hlatest, Expectation.accepts_type_iff.mpr hholds⟩
      rw [hjudge] at hmatched
      cases hmatched

/-- A snapshot shows a ready resource, and is the finding itself, if its status is about its
generation and no required condition is missing. -/
lemma observe_eq_reached_iff {snapshot s : Snapshot} :
    observe snapshot = .ok (.reached s) ↔ s = snapshot ∧
      IsCurrent (snapshot.body.int64At? ["status", "observedGeneration"]) snapshot.generation ∧
      ∃ conditions, snapshot.statusConditions = .ok conditions ∧
        missing snapshot.generation conditions requiredTypes = none := by
  unfold observe
  rw [← isBehind_eq_none_iff]
  cases isBehind (snapshot.body.int64At? ["status", "observedGeneration"])
      snapshot.generation with
  | some pair => simp
  | none =>
    cases hconditions : snapshot.statusConditions with
    | error e => simp [bind, Except.bind]
    | ok conditions =>
      cases hmissing : missing snapshot.generation conditions requiredTypes with
      | some text => simp [bind, Except.bind, pure, Except.pure, hmissing]
      | none => simp [bind, Except.bind, pure, Except.pure, hmissing, eq_comm]

end Readiness

/-- The resource that is read from a snapshot that shows it as ready is ready. -/
lemma Resource.isReady_ofSnapshot {snapshot s : Snapshot} {resource : Resource}
    (hready : Readiness.observe snapshot = .ok (.reached s))
    (hresource : ofSnapshot snapshot = .ok resource) : resource.IsReady := by
  obtain ⟨-, hstatus, conditions, hconditions, hmissing⟩ :=
    Readiness.observe_eq_reached_iff.mp hready
  obtain ⟨hread, hgeneration, hbody⟩ := Resource.ofSnapshot_eq_ok hresource
  obtain rfl : conditions = resource.conditions :=
    Except.ok.inj (hconditions.symm.trans hread)
  rw [← hgeneration] at hstatus hmissing
  rw [← hbody] at hstatus
  exact ⟨Readiness.missing_eq_none_iff.mp hmissing, hstatus⟩

/-! ### The last look-up -/

/-- Whether an exchange lists objects. -/
def Exchange.IsList (e : Exchange controlPlane.timed) : Prop :=
  ∃ kind ns stem, e.request = .other (ControlPlaneRequest.list kind ns stem)

/-- The look-up of an object that was applied, with a snapshot as its answer. -/
def lookupOf (applied snapshot : Snapshot) : Exchange controlPlane.timed :=
  ⟨.other (.get applied.kind (applied.scope.getD "") applied.name), .ok (some snapshot)⟩

namespace Provisioning

variable {provisioning : Provisioning} {applied snapshot : Snapshot} {manifest : Manifest}
  {options : WaitOptions}

/-- An evaluation that finds an object ready is one look-up of it. -/
lemma observeReadiness_yields_reached {kind : ObjectKind} {ns name : String}
    {t : List (Exchange controlPlane)}
    (h : (observeReadiness kind ns name).Yields t (.ok (.reached snapshot))) :
    t = [⟨.get kind ns name, .ok (some snapshot)⟩] ∧
      Readiness.observe snapshot = .ok (.reached snapshot) := by
  obtain ⟨t₁, t₂, found, rfl, hget, hfound⟩ := Action.yields_bind_ok_iff.mp h
  obtain rfl := ControlPlane.get_yields_iff.mp hget
  cases found with
  | none => simp at hfound
  | some seen =>
    obtain ⟨rfl, hobserve⟩ := Action.yields_ofExcept_iff.mp hfound
    obtain ⟨rfl, -⟩ := Readiness.observe_eq_reached_iff.mp hobserve.symm
    exact ⟨rfl, hobserve.symm⟩

variable {t : List (Exchange controlPlane.timed)}

/-- The wait for readiness ends with the look-up of the snapshot that it gives. -/
lemma awaitReadiness_yields_ok {timeout : Nat}
    (h : (provisioning.awaitReadiness applied timeout).Yields t (.ok snapshot)) :
    ∃ earlier, t = earlier ++ [lookupOf applied snapshot] ∧
      Readiness.observe snapshot = .ok (.reached snapshot) := by
  obtain ⟨earlier, asked, rfl, hasked⟩ := poll_ends_with_reached h
  obtain ⟨rfl, hready⟩ := observeReadiness_yields_reached hasked
  exact ⟨earlier, rfl, hready⟩

/-- A manifest that is submitted is applied first, and what the cluster made of it is looked up
last. -/
lemma submit_yields_ok {defaultTimeout : Nat} (hawait : options.awaitReady = true)
    (h : (provisioning.submit manifest options defaultTimeout).Yields t (.ok snapshot)) :
    ∃ applied earlier,
      t = ⟨.other (.apply manifest), .ok applied⟩ :: (earlier ++ [lookupOf applied snapshot]) ∧
        Readiness.observe snapshot = .ok (.reached snapshot) := by
  obtain ⟨t₁, t₂, applied, rfl, happly, hwait⟩ := Action.yields_bind_ok_iff.mp h
  obtain ⟨asked, rfl, hasked⟩ := Action.yields_timed_iff.mp happly
  obtain rfl := ControlPlane.apply_yields_iff.mp hasked
  rw [if_pos hawait] at hwait
  obtain ⟨earlier, rfl, hready⟩ := awaitReadiness_yields_ok hwait
  exact ⟨applied, earlier, rfl, hready⟩

/-- The claims are found out by lists only. -/
lemma unresizedClaims_lists {r : Except Failure (List String)}
    (h : (unresizedClaims snapshot).timed.Yields t r) : ∀ e ∈ t, e.IsList := by
  obtain ⟨asked, rfl, hasked⟩ := Action.yields_timed_iff.mp h
  refine List.forall_mem_map.mpr fun e he => ?_
  unfold unresizedClaims at hasked
  split at hasked
  · obtain ⟨rfl, -⟩ := Action.yields_pure_iff.mp hasked
    cases he
  split at hasked
  · obtain ⟨rfl, -⟩ := Action.yields_pure_iff.mp hasked
    cases he
  obtain ⟨failure, hlist, -⟩ | ⟨t₁, t₂, claims, rfl, hlist, hrest⟩ :=
    Action.yields_bind_iff.mp hasked
  · obtain rfl := ControlPlane.list_yields_iff.mp hlist
    obtain rfl := List.mem_singleton.mp he
    exact ⟨_, _, _, rfl⟩
  · obtain rfl := ControlPlane.list_yields_iff.mp hlist
    obtain ⟨rfl, -⟩ := Action.yields_pure_iff.mp hrest
    obtain rfl := List.mem_singleton.mp he
    exact ⟨_, _, _, rfl⟩

/-- A creation or an update that waits gives a resource only if its last look-up of the object shows
exactly this resource, and the resource is ready in it.  An update only lists volume claims
behind.  The answers may be any that a clock allows which never goes back (`Interface.timed`). -/
theorem ready_in_last_lookup (provisioning : Provisioning) :
    (∀ ns manifest options t resource, options.awaitReady = true →
      (provisioning.create ns manifest options).Yields t (.ok resource) →
        ∃ applied snapshot earlier,
          t = ⟨.other (.apply (manifest.movedTo ns)), .ok applied⟩ ::
            (earlier ++ [lookupOf applied snapshot]) ∧
          Resource.ofSnapshot snapshot = .ok resource ∧ resource.IsReady) ∧
    (∀ resource options t update, options.awaitReady = true →
      (provisioning.update resource options).Yields t (.ok update) →
        ∃ applied snapshot earlier later,
          t = ⟨.other (.apply resource.desired), .ok applied⟩ ::
            (earlier ++ lookupOf applied snapshot :: later) ∧
          (∀ e ∈ later, e.IsList) ∧
          Resource.ofSnapshot snapshot = .ok update.resource ∧ update.resource.IsReady) := by
  constructor
  · intro ns manifest options t resource hawait h
    obtain ⟨t₁, t₂, snapshot, rfl, hsubmit, hread⟩ := Action.yields_bind_ok_iff.mp h
    obtain ⟨applied, earlier, rfl, hready⟩ := submit_yields_ok hawait hsubmit
    obtain ⟨rfl, hresource⟩ := Action.yields_ofExcept_iff.mp hread
    refine ⟨applied, snapshot, earlier, List.append_nil _, hresource.symm, ?_⟩
    exact Resource.isReady_ofSnapshot hready hresource.symm
  · intro resource options t update hawait h
    obtain ⟨t₁, t₂, snapshot, rfl, hsubmit, hrest⟩ := Action.yields_bind_ok_iff.mp h
    obtain ⟨applied, earlier, rfl, hready⟩ := submit_yields_ok hawait hsubmit
    obtain ⟨t₂, t₃, claims, rfl, hclaims, hread⟩ := Action.yields_bind_ok_iff.mp hrest
    obtain ⟨t₃, t₄, read, rfl, hofSnapshot, hpure⟩ := Action.yields_bind_ok_iff.mp hread
    obtain ⟨rfl, hresource⟩ := Action.yields_ofExcept_iff.mp hofSnapshot
    obtain ⟨rfl, hupdate⟩ := Action.yields_pure_iff.mp hpure
    cases hupdate
    refine ⟨applied, snapshot, earlier, t₂, by simp, unresizedClaims_lists hclaims,
      hresource.symm, ?_⟩
    exact Resource.isReady_ofSnapshot hready hresource.symm

end Provisioning

/-! ### A creation whose object gets ready -/

namespace Provisioning.Sample

def provisioning : Provisioning := ⟨5, 180, 120⟩

def manifest : Manifest := ⟨.broker, some "test", "broker", .object []⟩

def applied : Snapshot := ⟨.broker, some "test", "broker", some 2, .object []⟩

def condition (type : String) : Json :=
  .object [("observedGeneration", .int 2), ("status", .string "True"), ("type", .string type)]

def ready : Snapshot where
  kind := .broker
  scope := some "test"
  name := "broker"
  generation := some 2
  body := .object [("status", .object [
    ("conditions", .array [condition "Deployed", condition "Ready"]),
    ("observedGeneration", .int 2)])]

/-- The object with a status of the generation before. -/
def outdated : Snapshot where
  kind := .broker
  scope := some "test"
  name := "broker"
  generation := some 2
  body := .object [("status", .object [
    ("conditions", .array [condition "Deployed", condition "Ready"]),
    ("observedGeneration", .int 1)])]

/-- The manifest is applied, and the object is looked at twice. -/
def exchanges : List (Exchange controlPlane.timed) :=
  [⟨.other (.apply (manifest.movedTo "test")), .ok applied⟩, .reading 0,
    lookupOf applied outdated, .reading 1, ⟨.sleep 5, ()⟩, lookupOf applied ready]

/-- A look at the object finds what its snapshot shows. -/
lemma observeReadiness_yields (snapshot : Snapshot) :
    (observeReadiness .broker "test" "broker").Yields
      [⟨.get .broker "test" "broker", .ok (some snapshot)⟩] (Readiness.observe snapshot) := by
  refine Action.yields_bind_iff.mpr (.inr ⟨[_], [], some snapshot, rfl, ?_, ?_⟩)
  · exact ControlPlane.get_yields_iff.mpr rfl
  · exact Action.yields_ofExcept_iff.mpr ⟨rfl, rfl⟩

/-- The object is applied, and the second look finds it ready. -/
lemma submit_yields :
    (provisioning.submit (manifest.movedTo "test") {} 180).Yields exchanges (.ok ready) := by
  refine Action.yields_bind_iff.mpr (.inr ⟨[_], [_, _, _, _, _], applied, rfl, ?_, ?_⟩)
  · exact Action.yields_timed_iff.mpr ⟨[_], rfl, ControlPlane.apply_yields_iff.mpr rfl⟩
  · refine (poll_yields_iff_of_lt (by decide) (by decide)).mpr ?_
    exact Polling.run_yields_iff.mpr ⟨0, _, _, rfl,
      .again (observeReadiness_yields outdated) (Nat.zero_le 1) (by decide)
        (.reached (observeReadiness_yields ready))⟩

end Provisioning.Sample

open Provisioning in
/-- The broker is ready in the second look-up, which is the last one.  It is not in the first one:
both conditions are reported there, but by a status of the generation before. -/
theorem ready_sample_in_last_lookup : ∃ resource,
    (Sample.provisioning.create "test" Sample.manifest {}).Yields Sample.exchanges (.ok resource) ∧
      resource.IsReady ∧
      Readiness.observe Sample.outdated =
        .ok (.notYet "status observed generation 1, current 2") := by
  obtain ⟨resource, hresource⟩ : ∃ resource, Resource.ofSnapshot Sample.ready = .ok resource :=
    ⟨_, rfl⟩
  have hcreate : (Sample.provisioning.create "test" Sample.manifest {}).Yields Sample.exchanges
      (.ok resource) := by
    refine Action.yields_bind_iff.mpr (.inr ⟨_, [], Sample.ready, rfl, Sample.submit_yields, ?_⟩)
    exact Action.yields_ofExcept_iff.mpr ⟨rfl, hresource.symm⟩
  obtain ⟨-, -, -, -, -, hready⟩ := (ready_in_last_lookup Sample.provisioning).1 "test"
    Sample.manifest {} Sample.exchanges resource rfl hcreate
  exact ⟨resource, hcreate, hready, rfl⟩

end BrokerHarness
