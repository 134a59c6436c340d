import BrokerHarness.ControlPlane
import BrokerHarness.Proofs.Polling.Round

/-!
# Runs of the requests to a control plane

Each request is one exchange, and its answer is the result.  `IsLookup` and `IsDelete` are the
classes of requests by which later statements say what an operation may ask.
-/

namespace BrokerHarness

namespace ControlPlaneRequest

/-- Whether the request only looks at objects. -/
def IsLookup : ControlPlaneRequest → Prop
  | get .. | list .. => True
  | apply _ | delete _ => False

/-- Whether the request is for the deletion of an object. -/
def IsDelete : ControlPlaneRequest → Prop
  | delete _ => True
  | apply _ | get .. | list .. => False

end ControlPlaneRequest

/-- Whether an exchange is about a manifest to be applied. -/
def Exchange.IsApply (e : Exchange controlPlane.timed) : Prop :=
  ∃ manifest, e.request = .other (ControlPlaneRequest.apply manifest)

lemma Exchange.not_isApply_of_isLookup {e : Exchange controlPlane.timed}
    (h : TimedRequest.Within ControlPlaneRequest.IsLookup e.request) : ¬ e.IsApply := by
  rintro ⟨manifest, he⟩
  rw [he] at h
  exact h

lemma Exchange.not_isApply_of_isDelete {e : Exchange controlPlane.timed}
    (h : TimedRequest.Within ControlPlaneRequest.IsDelete e.request) : ¬ e.IsApply := by
  rintro ⟨manifest, he⟩
  rw [he] at h
  exact h

namespace ControlPlane

open BrokerHarness.Action

variable {kind : ObjectKind} {ns name : String} {target : ObjectAddress} {manifest : Manifest}
  {t : List (Exchange controlPlane)}

/-- An application is one exchange, and its result is the answer. -/
lemma apply_yields_iff {r : Except Failure Snapshot} :
    (apply manifest).Yields t r ↔ t = [⟨.apply manifest, r⟩] :=
  Program.yields_request_iff

/-- A deletion is one exchange, and its result is the answer. -/
lemma delete_yields_iff {r : Except Failure Unit} :
    (delete target).Yields t r ↔ t = [⟨.delete target, r⟩] :=
  Program.yields_request_iff

/-- A look-up is one exchange, and its result is the answer. -/
lemma get_yields_iff {r : Except Failure (Option Snapshot)} :
    (get kind ns name).Yields t r ↔ t = [⟨.get kind ns name, r⟩] :=
  Program.yields_request_iff

/-- A list is one exchange, and its result is the answer. -/
lemma list_yields_iff {r : Except Failure (List Snapshot)} :
    (list kind ns name).Yields t r ↔ t = [⟨.list kind ns name, r⟩] :=
  Program.yields_request_iff

/-- An object is present exactly if its look-up finds one. -/
lemma isPresent_yields_ok_iff {present : Bool} :
    (isPresent kind ns name).Yields t (.ok present) ↔
      ∃ found, t = [⟨.get kind ns name, .ok found⟩] ∧ present = found.isSome := by
  refine yields_bind_ok_iff.trans ?_
  constructor
  · rintro ⟨t₁, t₂, found, rfl, hget, hpure⟩
    obtain rfl := get_yields_iff.mp hget
    obtain ⟨rfl, hpresent⟩ := yields_pure_iff.mp hpure
    exact ⟨found, rfl, Except.ok.inj hpresent⟩
  · rintro ⟨found, rfl, rfl⟩
    exact ⟨[_], [], found, rfl, get_yields_iff.mpr rfl, yields_pure_iff.mpr ⟨rfl, rfl⟩⟩

lemma delete_asksOnly : AsksOnly ControlPlaneRequest.IsDelete (delete target) := by
  intro t r h
  obtain rfl := delete_yields_iff.mp h
  simp [ControlPlaneRequest.IsDelete]

lemma get_asksOnly : AsksOnly ControlPlaneRequest.IsLookup (get kind ns name) := by
  intro t r h
  obtain rfl := get_yields_iff.mp h
  simp [ControlPlaneRequest.IsLookup]

lemma list_asksOnly : AsksOnly ControlPlaneRequest.IsLookup (list kind ns name) := by
  intro t r h
  obtain rfl := list_yields_iff.mp h
  simp [ControlPlaneRequest.IsLookup]

/-- A check for an object looks it up. -/
lemma isPresent_asksOnly : AsksOnly ControlPlaneRequest.IsLookup (isPresent kind ns name) :=
  get_asksOnly.bind fun _ => asksOnly_pure _

end ControlPlane

end BrokerHarness
