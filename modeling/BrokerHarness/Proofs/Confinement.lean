import BrokerHarness.Proofs.Polling.Decision

/-!
# What actions ask of trusted surroundings

What an action asks may depend on what it was answered: an object is looked up under the name that
the answer to an earlier request carries.  So an action may keep to certain requests only as long as
the answers can be trusted.  `Action.Confined` says that it does, together with what is then known
of its value, and is kept by the ways in which actions are put together.

The requests to which programs keep are all that their runs depend on: two surroundings that agree
on them (`Program.AgreeOn`) answer with the same exchanges (`AgreeOn.answered`), and the same
exchanges lead to the same results (`Interpreted.eq_of_answered`).
-/

namespace BrokerHarness

/-- Beside a clock, the exchanges with the interface itself are trusted as they are without one. -/
def TrustedTimed {I : Interface} (trusted : Exchange I → Prop) : Exchange I.timed → Prop
  | ⟨.other r, x⟩ => trusted ⟨r, x⟩
  | ⟨.clock _, _⟩ | ⟨.sleep _, _⟩ => True

/-- What does not use the clock is trusted as without one. -/
lemma trustedTimed_map_iff {I : Interface} {trusted : Exchange I → Prop}
    {asked : List (Exchange I)} :
    (∀ e ∈ asked.map Exchange.timed, TrustedTimed trusted e) ↔ ∀ e ∈ asked, trusted e :=
  List.forall_mem_map

/-- What is within narrow bounds is within wider ones. -/
lemma TimedRequest.Within.mono {I : Interface} {allowed wider : I.Request → Prop}
    (hwider : ∀ q, allowed q → wider q) {q : TimedRequest I} (h : q.Within allowed) :
    q.Within wider := by
  cases q with
  | clock since => trivial
  | sleep time => trivial
  | other q => exact hwider q h

namespace Action

variable {I : Interface} {α β : Type} {trusted : Exchange I → Prop}
  {allowed wider : I.Request → Prop} {post : α → Prop} {action : Action I α}

/-- An action that keeps to few requests keeps to more. -/
lemma AsksOnly.mono (h : action.AsksOnly allowed) (hwider : ∀ q, allowed q → wider q) :
    action.AsksOnly wider :=
  fun t r hr e he => hwider _ (h t r hr e he)

/-- An action that asks only one request keeps to every class of requests that holds it. -/
lemma AsksOnly.within {action : Action I.timed α} {q : I.Request}
    (h : AsksOnly (I := I.timed) (TimedRequest.Within (· = q)) action) (hq : allowed q) :
    AsksOnly (I := I.timed) (TimedRequest.Within allowed) action := by
  refine h.mono fun _ => TimedRequest.Within.mono ?_
  rintro _ rfl
  exact hq

/-! ### Confined actions -/

/-- In every run whose exchanges can be trusted, the action asks allowed requests only, and what it
gives is as stated. -/
def Confined (trusted : Exchange I → Prop) (allowed : I.Request → Prop) (post : α → Prop)
    (action : Action I α) : Prop :=
  ∀ t r, action.Yields t r → (∀ e ∈ t, trusted e) →
    (∀ e ∈ t, allowed e.request) ∧ ∀ a, r = .ok a → post a

/-- An action that keeps to its requests whatever is answered does so for trusted answers. -/
lemma AsksOnly.confined (h : action.AsksOnly allowed) :
    action.Confined trusted allowed fun _ => True :=
  fun t r hr _ => ⟨h t r hr, fun _ _ => trivial⟩

lemma confined_pure {a : α} (h : post a) : (pure a : Action I α).Confined trusted allowed post := by
  intro t r hr _
  obtain ⟨rfl, rfl⟩ := yields_pure_iff.mp hr
  refine ⟨by simp, fun b hb => ?_⟩
  obtain rfl := Except.ok.inj hb
  exact h

/-- An action that is confined to few requests is confined to more. -/
lemma Confined.mono (h : action.Confined trusted allowed post) (hwider : ∀ q, allowed q → wider q) :
    action.Confined trusted wider post := by
  intro t r hr htrusted
  obtain ⟨hasks, hpost⟩ := h t r hr htrusted
  exact ⟨fun e he => hwider _ (hasks e he), hpost⟩

/-- What follows an action is confined for the values that the action gives then. -/
lemma Confined.bind {f : α → Action I β} {after : β → Prop}
    (h : action.Confined trusted allowed post)
    (hf : ∀ a, post a → (f a).Confined trusted allowed after) :
    (action >>= f).Confined trusted allowed after := by
  intro t r hr htrusted
  obtain ⟨e, hfail, rfl⟩ | ⟨t₁, t₂, a, rfl, h₁, h₂⟩ := yields_bind_iff.mp hr
  · exact ⟨(h t _ hfail htrusted).1, fun b hb => by cases hb⟩
  · obtain ⟨htrusted₁, htrusted₂⟩ := List.forall_mem_append.mp htrusted
    obtain ⟨hasks₁, hpost⟩ := h t₁ _ h₁ htrusted₁
    obtain ⟨hasks₂, hafter⟩ := hf a (hpost a rfl) t₂ r h₂ htrusted₂
    exact ⟨List.forall_mem_append.mpr ⟨hasks₁, hasks₂⟩, hafter⟩

/-- An action with a clock is confined as it is without one. -/
lemma Confined.timed (h : action.Confined trusted allowed post) :
    Confined (I := I.timed) (TrustedTimed trusted) (TimedRequest.Within allowed) post
      action.timed := by
  intro t r hr htrusted
  obtain ⟨asked, rfl, hasked⟩ := yields_timed_iff.mp hr
  obtain ⟨hasks, hpost⟩ := h asked r hasked (trustedTimed_map_iff.mp htrusted)
  exact ⟨List.forall_mem_map.mpr hasks, hpost⟩

/-- A polling is confined as its condition is, and gives what a trusted evaluation reaches. -/
lemma poll_confined {condition : Action I (Finding α)} {description : String}
    {interval timeout : Nat} (hasks : condition.AsksOnly allowed)
    (hreached : ∀ asked value, condition.Yields asked (.ok (.reached value)) →
      (∀ e ∈ asked, trusted e) → post value) :
    Confined (I := I.timed) (TrustedTimed trusted) (TimedRequest.Within allowed) post
      (poll description interval timeout condition) := by
  intro t r hr htrusted
  refine ⟨poll_asksOnly hasks t r hr, ?_⟩
  rintro value rfl
  obtain ⟨earlier, asked, rfl, hasked⟩ := poll_ends_with_reached hr
  have hlast := (List.forall_mem_append.mp htrusted).2
  exact hreached asked value hasked (trustedTimed_map_iff.mp hlast)

/-! ### Actions that begin with a request -/

/-- Every run of the action begins with the request, and asks allowed requests only behind it. -/
def BeginsWith (first : I.Request) (allowed : I.Request → Prop) (action : Action I α) : Prop :=
  ∀ t r, action.Yields t r → ∃ x rest, t = ⟨first, x⟩ :: rest ∧ ∀ e ∈ rest, allowed e.request

/-- What follows does not change how an action begins. -/
lemma BeginsWith.bind {first : I.Request} {f : α → Action I β}
    (h : action.BeginsWith first allowed) (hf : ∀ a, (f a).AsksOnly allowed) :
    (action >>= f).BeginsWith first allowed := by
  intro t r hr
  obtain ⟨e, hfail, rfl⟩ | ⟨t₁, t₂, a, rfl, h₁, h₂⟩ := yields_bind_iff.mp hr
  · exact h t _ hfail
  · obtain ⟨x, rest, rfl, hrest⟩ := h t₁ _ h₁
    refine ⟨x, rest ++ t₂, rfl, List.forall_mem_append.mpr ⟨hrest, hf a t₂ r h₂⟩⟩

end Action

/-! ### Surroundings that agree -/

namespace Program

variable {I J : Interface} {α σ τ : Type} {f : (r : I.Request) → σ → I.Answer r × σ}
  {g : (r : I.Request) → τ → I.Answer r × τ} {allowed : I.Request → Prop} {related : σ → τ → Prop}

/-- Two surroundings agree on requests: in related states they answer an allowed request alike, and
are in related states behind it. -/
def AgreeOn (allowed : I.Request → Prop) (related : σ → τ → Prop)
    (f : (r : I.Request) → σ → I.Answer r × σ) (g : (r : I.Request) → τ → I.Answer r × τ) : Prop :=
  ∀ r s u, allowed r → related s u → (f r s).1 = (g r u).1 ∧ related (f r s).2 (g r u).2

/-- Surroundings that agree on the requests of some exchanges make the same exchanges. -/
lemma AgreeOn.answered (h : AgreeOn allowed related f g) {t : List (Exchange I)} {s : σ} {u : τ}
    (hrelated : related s u) (ht : Answered f s t) (hallowed : ∀ e ∈ t, allowed e.request) :
    Answered g u t := by
  induction t generalizing s u with
  | nil => trivial
  | cons e t ih =>
    obtain ⟨hfirst, hrest⟩ := List.forall_mem_cons.mp hallowed
    obtain ⟨hanswer, hbehind⟩ := h e.request s u hfirst hrelated
    exact ⟨hanswer.symm.trans ht.1, ih hbehind ht.2 hrest⟩

/-- Two runs of a program in the same surroundings are the same, and leave them in one state. -/
lemma Yields.eq_of_answered {p : Program I α} {t₁ t₂ rest₁ rest₂ : List (Exchange I)} {a b : α}
    {s : σ} (h₁ : p.Yields t₁ a) (h₂ : p.Yields t₂ b) (ha₁ : Answered f s (t₁ ++ rest₁))
    (ha₂ : Answered f s (t₂ ++ rest₂)) :
    t₁ = t₂ ∧ a = b ∧ ∃ s', Answered f s' rest₁ ∧ Answered f s' rest₂ := by
  induction h₁ generalizing t₂ s with
  | done a =>
    obtain ⟨rfl, rfl⟩ := yields_done_iff.mp h₂
    exact ⟨rfl, rfl, s, ha₁, ha₂⟩
  | @ask r next x t a run ih =>
    obtain ⟨y, t₂, rfl, hnext⟩ := yields_ask_iff.mp h₂
    obtain rfl : x = y := ha₁.1.symm.trans ha₂.1
    obtain ⟨rfl, rfl, hstate⟩ := ih hnext ha₁.2 ha₂.2
    exact ⟨rfl, rfl, hstate⟩

variable {perform : (r : J.Request) → Program I (J.Answer r)}

/-- In the same surroundings, the same requests carried out one after the other have the same
answers, and the same exchanges are made for them. -/
theorem Interpreted.eq_of_answered {asked₁ asked₂ : List (Exchange J)} {t₁ t₂ : List (Exchange I)}
    {s : σ} (h₁ : Interpreted perform asked₁ t₁) (h₂ : Interpreted perform asked₂ t₂)
    (hrequests : asked₁.map Exchange.request = asked₂.map Exchange.request)
    (ha₁ : Answered f s t₁) (ha₂ : Answered f s t₂) : asked₁ = asked₂ ∧ t₁ = t₂ := by
  induction h₁ generalizing asked₂ t₂ s with
  | nil =>
    obtain rfl : asked₂ = [] := List.map_eq_nil_iff.mp hrequests.symm
    exact ⟨rfl, (nil_iff.mp h₂).symm⟩
  | cons head rest ih =>
    cases h₂ with
    | nil => simp at hrequests
    | cons head₂ rest₂ =>
      obtain ⟨hfirst, hbehind⟩ := List.cons.inj hrequests
      dsimp only at hfirst
      subst hfirst
      obtain ⟨rfl, rfl, s', hs₁, hs₂⟩ := head.eq_of_answered head₂ ha₁ ha₂
      obtain ⟨rfl, rfl⟩ := ih rest₂ hbehind hs₁ hs₂
      exact ⟨rfl, rfl⟩

/-- In all surroundings, requests can be carried out one after the other. -/
lemma exists_interpreted (perform : (r : J.Request) → Program I (J.Answer r))
    (f : (r : I.Request) → σ → I.Answer r × σ) (requests : List J.Request) (s : σ) :
    ∃ asked t, asked.map Exchange.request = requests ∧ Interpreted perform asked t ∧
      Answered f s t := by
  induction requests generalizing s with
  | nil => exact ⟨[], [], rfl, .nil, trivial⟩
  | cons r requests ih =>
    obtain ⟨t₁, run, hbehind⟩ := exists_yields_append (perform r) f s
    obtain ⟨asked, t₂, rfl, rest, hrest⟩ := ih ((perform r).runWith f s).2
    exact ⟨⟨r, ((perform r).runWith f s).1⟩ :: asked, t₁ ++ t₂, rfl, .cons run rest,
      hbehind t₂ hrest⟩

/-- The exchanges of requests that are carried out one after the other are those of the first
request, those of the second one, and so on. -/
lemma Interpreted.exists_pieces {asked : List (Exchange J)} {t : List (Exchange I)}
    (h : Interpreted perform asked t) : ∃ pieces : List (List (Exchange I)), t = pieces.flatten ∧
      List.Forall₂ (fun e piece => (perform e.request).Yields piece e.answer) asked pieces := by
  induction h with
  | nil => exact ⟨[], rfl, .nil⟩
  | cons head rest ih =>
    obtain ⟨pieces, rfl, hpieces⟩ := ih
    exact ⟨_ :: pieces, rfl, .cons head hpieces⟩

end Program

end BrokerHarness
