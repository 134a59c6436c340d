import BrokerHarness.Proofs.NameResolution.Repeated
import Mathlib.Logic.Relation

/-!
# Shared resolvers

Calls on one resolver may overlap: each looks at the resolver when it begins, asks its questions one
by one, and at last keeps what it found unless another call was faster.  Only the look at the
beginning and the end with the return are steps that touch the resolver, and each of them is atomic.
`SharedResolver.Step` is one step of one of the calls, and any number of calls may be under way.

Two calls may well find different names.  The invariant `SharedResolver.IsCoherent` therefore does
not speak of what the calls have in mind, but of the one name that is kept: it was affirmed to some
call, it is the name that every call returned, and what a call that is under way may still find is
either this name or affirmed to the call itself.  From it `SharedResolver.agrees_on_name` follows:
the calls return one name, and no call that begins later asks for anything.
-/

namespace BrokerHarness

/-! ### Calls that overlap -/

/-- How far a call on a shared resolver got. -/
inductive CallStage where
  /-- It goes on with the rest of its attempt. -/
  | running (rest : Program existence (Except Failure (Option String)))
  /-- It has asked a question, and the answer selects how it goes on. -/
  | asking (name : String) (next : existence.Answer name →
      Program existence (Except Failure (Option String)))
  /-- It has returned. -/
  | returned (outcome : Except Failure (Option String))

/-- A call on a shared resolver: the questions that were answered to it, and how far it got. -/
structure SharedCall where
  questions : List (Exchange existence)
  stage : CallStage

/-- A resolver and the calls that were begun on it, in the order in which they began. -/
structure SharedResolver where
  resolver : Resolver
  calls : List SharedCall

namespace SharedResolver

/-- One step of one of the calls.  The others stay where they are. -/
inductive Step : SharedResolver → SharedResolver → Prop where
  /-- A call begins, with a look at the name that is kept. -/
  | begin (s : SharedResolver) :
      Step s ⟨s.resolver, s.calls ++ [⟨[], .running s.resolver.attempt.run⟩]⟩
  /-- A call asks a question. -/
  | ask {s : SharedResolver} {k : Nat} {questions : List (Exchange existence)} {name : String}
      {next : existence.Answer name → Program existence (Except Failure (Option String))}
      (call : s.calls[k]? = some ⟨questions, .running (.ask name next)⟩) :
      Step s ⟨s.resolver, s.calls.set k ⟨questions, .asking name next⟩⟩
  /-- A question is answered, or fails. -/
  | answer {s : SharedResolver} {k : Nat} {questions : List (Exchange existence)} {name : String}
      {next : existence.Answer name → Program existence (Except Failure (Option String))}
      (call : s.calls[k]? = some ⟨questions, .asking name next⟩) (x : existence.Answer name) :
      Step s ⟨s.resolver, s.calls.set k ⟨questions ++ [⟨name, x⟩], .running (next x)⟩⟩
  /-- A call at the end of its attempt keeps what it found unless a name is kept already, and
  returns what is kept then. -/
  | finish {s : SharedResolver} {k : Nat} {questions : List (Exchange existence)}
      {found : Except Failure (Option String)}
      (call : s.calls[k]? = some ⟨questions, .running (.done found)⟩) :
      Step s ⟨(s.resolver.settle found).2,
        s.calls.set k ⟨questions, .returned (s.resolver.settle found).1⟩⟩

/-- Any number of steps of the calls, in any order. -/
abbrev Reaches : SharedResolver → SharedResolver → Prop := Relation.ReflTransGen Step

end SharedResolver

namespace SharedCall

/-- The call returned a name. -/
def Returns (call : SharedCall) (name : String) : Prop :=
  call.stage = .returned (.ok (some name))

/-- The call asks, or has asked, whether a name exists. -/
def Asks (call : SharedCall) : Prop :=
  call.questions ≠ [] ∨ ∃ name next, call.stage = .asking name next

/-- With these further questions and answers the call finds a name. -/
inductive MayFind : SharedCall → List (Exchange existence) → String → Prop where
  | running {questions t : List (Exchange existence)} {name : String}
      {rest : Program existence (Except Failure (Option String))}
      (run : rest.Yields t (.ok (some name))) : MayFind ⟨questions, .running rest⟩ t name
  | asking {questions t : List (Exchange existence)} {name asked : String}
      {next : existence.Answer asked → Program existence (Except Failure (Option String))}
      {x : existence.Answer asked} (run : (next x).Yields t (.ok (some name))) :
      MayFind ⟨questions, .asking asked next⟩ (⟨asked, x⟩ :: t) name

/-- A call agrees with the name that is kept, as far as it got: a name that it returned is the one
that is kept, and a name that it may still find is so too, unless it is a candidate that was, or is
going to be, affirmed to the call itself. -/
structure AgreesWith (call : SharedCall) (resolver : Resolver) : Prop where
  returned : ∀ name, call.Returns name → resolver.resolved = some name
  pending : ∀ t name, call.MayFind t name → resolver.resolved = some name ∨
    (name ∈ resolver.candidates ∧ presenceOf name ∈ call.questions ++ t)

variable {call : SharedCall} {resolver later : Resolver} {questions : List (Exchange existence)}
  {name : String}

/-- Agreement lasts as long as a name that is kept stays. -/
lemma AgreesWith.mono (h : call.AgreesWith resolver)
    (hkept : ∀ name, resolver.resolved = some name → later.resolved = some name)
    (hcandidates : later.candidates = resolver.candidates) : call.AgreesWith later where
  returned := fun name hname => hkept name (h.returned name hname)
  pending := by
    intro t name hfind
    obtain hname | hasked := h.pending t name hfind
    · exact .inl (hkept name hname)
    · rw [hcandidates]
      exact .inr hasked

/-- A call that begins has asked nothing yet, and goes on as an attempt of the resolver does. -/
lemma agreesWith_begin (resolver : Resolver) :
    AgreesWith ⟨[], .running resolver.attempt.run⟩ resolver where
  returned := by
    intro name hreturns
    cases hreturns
  pending := by
    intro t name hfind
    cases hfind with
    | running run =>
      cases hkept : resolver.resolved with
      | some kept =>
        rw [Resolver.attempt_of_resolved hkept] at run
        obtain ⟨-, hname⟩ := Program.yields_done_iff.mp run
        cases hname
        exact .inl rfl
      | none =>
        obtain ⟨before, behind, hsplit, rfl⟩ := (Resolver.attempt_yields_some_iff hkept).mp run
        refine .inr ⟨?_, by simp⟩
        rw [hsplit]
        simp

/-- A question that is asked waits for its answer. -/
lemma AgreesWith.ask {next : existence.Answer name →
      Program existence (Except Failure (Option String))}
    (h : AgreesWith ⟨questions, .running (.ask name next)⟩ resolver) :
    AgreesWith ⟨questions, .asking name next⟩ resolver where
  returned := by
    intro found hreturns
    cases hreturns
  pending := by
    intro t found hfind
    cases hfind with
    | asking run => exact h.pending _ found (.running (.ask run))

/-- Whatever the answer, the call goes on as an attempt that was answered so. -/
lemma AgreesWith.answer {next : existence.Answer name →
      Program existence (Except Failure (Option String))}
    (h : AgreesWith ⟨questions, .asking name next⟩ resolver) (x : existence.Answer name) :
    AgreesWith ⟨questions ++ [⟨name, x⟩], .running (next x)⟩ resolver where
  returned := by
    intro found hreturns
    cases hreturns
  pending := by
    intro t found hfind
    cases hfind with
    | running run =>
      rw [List.append_assoc]
      exact h.pending (⟨name, x⟩ :: t) found (.asking run)

end SharedCall

namespace SharedResolver

variable {s later : SharedResolver} {name : String}

/-! ### What is kept -/

/-- A name that is kept is never changed. -/
lemma settle_resolved (resolver : Resolver) (found : Except Failure (Option String))
    (h : resolver.resolved = some name) : (resolver.settle found).2.resolved = some name := by
  rcases found with e | _ | other
  · exact h
  · exact h
  · rw [Resolver.settle_of_resolved h]
    exact h

/-- Some call was told that an object with the name exists. -/
def Affirms (s : SharedResolver) (name : String) : Prop :=
  ∃ call ∈ s.calls, presenceOf name ∈ call.questions

/-- What was affirmed stays affirmed when a call goes on. -/
lemma Affirms.set {resolver : Resolver} {k : Nat} {old new : SharedCall} (h : s.Affirms name)
    (hcall : s.calls[k]? = some old) (hquestions : ∀ e ∈ old.questions, e ∈ new.questions) :
    Affirms ⟨resolver, s.calls.set k new⟩ name := by
  obtain ⟨call, hmem, haffirmed⟩ := h
  obtain ⟨i, hi⟩ := List.mem_iff_getElem?.mp hmem
  by_cases hik : k = i
  · subst hik
    obtain rfl : old = call := Option.some.inj (hcall.symm.trans hi)
    have hk : k < s.calls.length := (List.getElem?_eq_some_iff.mp hcall).1
    exact ⟨new, List.mem_set hk new, hquestions _ haffirmed⟩
  · refine ⟨call, List.mem_iff_getElem?.mpr ⟨i, ?_⟩, haffirmed⟩
    exact (List.getElem?_set_ne hik).trans hi

/-- The invariant of the steps. -/
structure IsCoherent (s : SharedResolver) : Prop where
  /-- A name that is kept is a candidate that was affirmed to some call. -/
  kept : ∀ name, s.resolver.resolved = some name → name ∈ s.resolver.candidates ∧ s.Affirms name
  /-- Every call agrees with the name that is kept. -/
  agreed : ∀ call ∈ s.calls, call.AgreesWith s.resolver

/-- A call that goes on without touching the resolver keeps the invariant if it still agrees. -/
lemma IsCoherent.set {k : Nat} {old new : SharedCall} (h : s.IsCoherent)
    (hcall : s.calls[k]? = some old) (hquestions : ∀ e ∈ old.questions, e ∈ new.questions)
    (hnew : new.AgreesWith s.resolver) : IsCoherent ⟨s.resolver, s.calls.set k new⟩ where
  kept := by
    intro name hname
    obtain ⟨hcandidate, haffirmed⟩ := h.kept name hname
    exact ⟨hcandidate, haffirmed.set hcall hquestions⟩
  agreed := by
    intro call hmem
    obtain hmem | rfl := List.mem_or_eq_of_mem_set hmem
    · exact h.agreed call hmem
    · exact hnew

/-- A call that keeps what it found and returns keeps the invariant. -/
lemma IsCoherent.finish {k : Nat} {questions : List (Exchange existence)}
    {found : Except Failure (Option String)} (h : s.IsCoherent)
    (hcall : s.calls[k]? = some ⟨questions, .running (.done found)⟩) :
    IsCoherent ⟨(s.resolver.settle found).2,
      s.calls.set k ⟨questions, .returned (s.resolver.settle found).1⟩⟩ where
  kept := by
    intro name hname
    have haffirmed : ∀ name, s.resolver.resolved = some name →
        name ∈ s.resolver.candidates ∧ Affirms ⟨(s.resolver.settle found).2,
          s.calls.set k ⟨questions, .returned (s.resolver.settle found).1⟩⟩ name := by
      intro name hname
      obtain ⟨hcandidate, haffirmed⟩ := h.kept name hname
      exact ⟨hcandidate, haffirmed.set hcall fun e he => he⟩
    rw [Resolver.settle_candidates]
    cases hkept : s.resolver.resolved with
    | some kept =>
      have hsame := settle_resolved s.resolver found hkept
      obtain rfl : kept = name := Option.some.inj (hsame.symm.trans hname)
      exact haffirmed kept hkept
    | none =>
      -- Nothing is kept yet, so the name is the one that this call found, which was affirmed to it.
      obtain rfl := ((Resolver.settle_of_unresolved hkept).2 name).mp hname
      have hagrees := h.agreed _ (List.mem_of_getElem? hcall)
      obtain hresolved | ⟨hcandidate, hasked⟩ := hagrees.pending [] name (.running (.done _))
      · rw [hkept] at hresolved
        cases hresolved
      · have hk : k < s.calls.length := (List.getElem?_eq_some_iff.mp hcall).1
        rw [List.append_nil] at hasked
        exact ⟨hcandidate, _, List.mem_set hk _, hasked⟩
  agreed := by
    intro call hmem
    obtain hmem | rfl := List.mem_or_eq_of_mem_set hmem
    · exact (h.agreed call hmem).mono (fun name hname => settle_resolved s.resolver found hname)
        Resolver.settle_candidates
    · refine ⟨fun name hname => ?_, fun t name hfind => by cases hfind⟩
      have houtcome : (s.resolver.settle found).1 = .ok (some name) := CallStage.returned.inj hname
      rcases found with e | _ | other
      · cases houtcome
      · cases houtcome
      · exact Except.ok.inj houtcome

/-- Every step keeps the invariant. -/
lemma IsCoherent.step (h : s.IsCoherent) (hstep : Step s later) : later.IsCoherent := by
  cases hstep with
  | begin =>
    constructor
    · intro name hname
      obtain ⟨hcandidate, call, hcall, haffirmed⟩ := h.kept name hname
      exact ⟨hcandidate, call, List.mem_append_left _ hcall, haffirmed⟩
    · refine List.forall_mem_append.mpr ⟨h.agreed, List.forall_mem_singleton.mpr ?_⟩
      exact SharedCall.agreesWith_begin s.resolver
  | ask call => exact h.set call (fun e he => he) (h.agreed _ (List.mem_of_getElem? call)).ask
  | answer call x =>
    refine h.set call (fun e he => List.mem_append_left _ he) ?_
    exact (h.agreed _ (List.mem_of_getElem? call)).answer x
  | finish call => exact h.finish call

/-- Every state that is reached is coherent. -/
lemma IsCoherent.reaches (h : s.IsCoherent) (hreaches : Reaches s later) : later.IsCoherent := by
  induction hreaches with
  | refl => exact h
  | tail _ hstep ih => exact ih.step hstep

/-- No step changes the candidates. -/
lemma Reaches.candidates_eq (h : Reaches s later) :
    later.resolver.candidates = s.resolver.candidates := by
  induction h with
  | refl => rfl
  | tail _ hstep ih =>
    cases hstep with
    | begin | ask | answer => exact ih
    | finish => exact Resolver.settle_candidates.trans ih

/-- A resolver that keeps no name is coherent as long as no call was begun. -/
lemma isCoherent_of_unresolved {resolver : Resolver} (h : resolver.resolved = none) :
    IsCoherent ⟨resolver, []⟩ where
  kept := by
    intro name hname
    rw [h] at hname
    cases hname
  agreed := by simp

/-! ### Calls that begin late -/

/-- A name is kept, and the calls from the given one on only repeat it: they have asked nothing, and
they have returned the name or are about to. -/
structure RepeatsFrom (first : Nat) (name : String) (s : SharedResolver) : Prop where
  kept : s.resolver.resolved = some name
  repeats : ∀ k, first ≤ k → ∀ call, s.calls[k]? = some call → call.questions = [] ∧
    (call.stage = .running (.done (.ok (some name))) ∨ call.stage = .returned (.ok (some name)))

/-- A call that takes a step leaves the calls from the given one on as they are, if it is not one of
them. -/
lemma RepeatsFrom.set {first k : Nat} {new : SharedCall} {resolver : Resolver}
    (h : s.RepeatsFrom first name) (hkept : resolver.resolved = some name)
    (hnew : first ≤ k → new.questions = [] ∧
      (new.stage = .running (.done (.ok (some name))) ∨
        new.stage = .returned (.ok (some name)))) :
    RepeatsFrom first name ⟨resolver, s.calls.set k new⟩ where
  kept := hkept
  repeats := by
    intro i hi call hcall
    by_cases hik : k = i
    · subst hik
      obtain rfl : call = new := by
        have hk : k < (s.calls.set k new).length := (List.getElem?_eq_some_iff.mp hcall).1
        rw [List.length_set] at hk
        exact Option.some.inj (hcall.symm.trans (List.getElem?_set_self hk))
      exact hnew hi
    · exact h.repeats i hi call ((List.getElem?_set_ne hik).symm.trans hcall)

/-- Every step keeps the name, and the later calls ask nothing. -/
lemma RepeatsFrom.step {first : Nat} (h : s.RepeatsFrom first name) (hstep : Step s later) :
    later.RepeatsFrom first name := by
  cases hstep with
  | begin =>
    refine ⟨h.kept, fun k hk call hcall => ?_⟩
    replace hcall : (s.calls ++ [⟨[], .running s.resolver.attempt.run⟩])[k]? = some call := hcall
    by_cases hold : k < s.calls.length
    · rw [List.getElem?_append_left hold] at hcall
      exact h.repeats k hk call hcall
    · rw [List.getElem?_append_right (Nat.not_lt.mp hold)] at hcall
      obtain rfl := List.mem_singleton.mp (List.mem_of_getElem? hcall)
      refine ⟨rfl, .inl ?_⟩
      rw [Resolver.attempt_of_resolved h.kept]
      rfl
  | ask call =>
    -- A late call does not get to a question.
    refine h.set h.kept fun hk => ?_
    obtain ⟨-, hstage | hstage⟩ := h.repeats _ hk _ call <;> cases hstage
  | answer call x =>
    refine h.set h.kept fun hk => ?_
    obtain ⟨-, hstage | hstage⟩ := h.repeats _ hk _ call <;> cases hstage
  | finish call =>
    refine h.set (settle_resolved _ _ h.kept) fun hk => ?_
    obtain ⟨hquestions, hstage | hstage⟩ := h.repeats _ hk _ call
    · cases hstage
      refine ⟨hquestions, .inr ?_⟩
      rw [Resolver.settle_of_resolved h.kept]
    · cases hstage

/-- A name that is kept is repeated from then on. -/
lemma RepeatsFrom.reaches {first : Nat} (h : s.RepeatsFrom first name)
    (hreaches : Reaches s later) : later.RepeatsFrom first name := by
  induction hreaches with
  | refl => exact h
  | tail _ hstep ih => exact ih.step hstep

/-! ### The name of all calls -/

/-- A call that nothing interrupts goes as `Resolver.resolve` does. -/
theorem reaches_of_resolve {t : List (Exchange existence)} {r : Except Failure (Option String)}
    {after : Resolver} (h : s.resolver.resolve.Yields t (r, after)) :
    Reaches s ⟨after, s.calls ++ [⟨t, .returned r⟩]⟩ := by
  have hlast : ∀ call : SharedCall, (s.calls ++ [call])[s.calls.length]? = some call := by simp
  have hset : ∀ old new : SharedCall,
      (s.calls ++ [old]).set s.calls.length new = s.calls ++ [new] := by simp
  have hquestions : ∀ (p : Program existence (Except Failure (Option String)))
      (t asked : List (Exchange existence)) (found : Except Failure (Option String)),
      p.Yields t found → Reaches ⟨s.resolver, s.calls ++ [⟨asked, .running p⟩]⟩
        ⟨s.resolver, s.calls ++ [⟨asked ++ t, .running (.done found)⟩]⟩ := by
    intro p t asked found hrun
    induction hrun generalizing asked with
    | done found => rw [List.append_nil]
    | @ask name next x t found _ ih =>
      have hask := Step.ask (s := ⟨s.resolver, _⟩) (hlast ⟨asked, .running (.ask name next)⟩)
      rw [hset] at hask
      have hanswer := Step.answer (s := ⟨s.resolver, _⟩) (hlast ⟨asked, .asking name next⟩) x
      rw [hset] at hanswer
      have hrest := ih (asked ++ [⟨name, x⟩])
      rw [List.append_assoc] at hrest
      exact .head hask (.head hanswer hrest)
  obtain ⟨t₁, t₂, found, rfl, hattempt, hsettle⟩ := Program.yields_bind_iff.mp h
  obtain ⟨rfl, hr⟩ := Program.yields_done_iff.mp hsettle
  obtain ⟨rfl, rfl⟩ : r = (s.resolver.settle found).1 ∧ after = (s.resolver.settle found).2 :=
    ⟨congrArg Prod.fst hr, congrArg Prod.snd hr⟩
  have hfinish := Step.finish (s := ⟨s.resolver, _⟩) (hlast ⟨t₁, .running (.done found)⟩)
  rw [hset] at hfinish
  rw [List.append_nil]
  exact .head (.begin s) ((hquestions _ t₁ [] found hattempt).tail hfinish)

/-- However many calls overlap on a new resolver, in whatever order they take their steps and
whatever their questions are answered, all calls that return a name return the same one, which is a
candidate that was affirmed to one of them.  From the first such return on this name is kept for
good, and a call that begins later asks for nothing. -/
theorem agrees_on_name {candidates : List String} {policy : NamePolicy} {resolver : Resolver}
    (hnew : Resolver.ofCandidates candidates policy = .ok resolver)
    (h : Reaches ⟨resolver, []⟩ s) :
    (∀ first ∈ s.calls, ∀ second ∈ s.calls, ∀ name other,
      first.Returns name → second.Returns other → name = other) ∧
    (∀ call ∈ s.calls, ∀ name, call.Returns name →
      name ∈ candidates ∧ ∃ asker ∈ s.calls, presenceOf name ∈ asker.questions) ∧
    (∀ call ∈ s.calls, ∀ name, call.Returns name → ∀ later, Reaches s later →
      later.resolver.resolved = some name ∧
        ∀ call ∈ later.calls.drop s.calls.length, ¬ call.Asks) := by
  obtain ⟨hcandidates, -, hunresolved⟩ := Resolver.fields_of_ofCandidates hnew
  have hcoherent : s.IsCoherent := (isCoherent_of_unresolved hunresolved).reaches h
  have hkept : ∀ call ∈ s.calls, ∀ name, call.Returns name → s.resolver.resolved = some name :=
    fun call hcall => (hcoherent.agreed call hcall).returned
  refine ⟨?_, ?_, ?_⟩
  · intro first hfirst second hsecond name other hname hother
    have hresolved := hkept first hfirst name hname
    exact Option.some.inj (hresolved.symm.trans (hkept second hsecond other hother))
  · intro call hcall name hname
    rw [← hcandidates, ← Reaches.candidates_eq h]
    exact hcoherent.kept name (hkept call hcall name hname)
  · intro call hcall name hname later hlater
    -- There is no call yet from the number of the next call on.
    have hrepeats : s.RepeatsFrom s.calls.length name := by
      refine ⟨hkept call hcall name hname, fun k hk call hmem => ?_⟩
      exact absurd (List.getElem?_eq_some_iff.mp hmem).1 (Nat.not_lt.mpr hk)
    have hlast := hrepeats.reaches hlater
    refine ⟨hlast.kept, fun call hlate => ?_⟩
    obtain ⟨k, hk⟩ := List.mem_iff_getElem?.mp hlate
    rw [List.getElem?_drop] at hk
    obtain ⟨hquestions, hstage⟩ := hlast.repeats _ (Nat.le_add_right _ k) call hk
    rintro (hasked | ⟨asked, next, hasking⟩)
    · exact hasked hquestions
    · rw [hasking] at hstage
      obtain hstage | hstage := hstage <;> cases hstage

/-! ### Two calls that find different names -/

namespace Sample

def resolver : Resolver := ⟨["manager", "operator"], .preferNewest, none, Resolver.pair_ne_nil _ _⟩

/-- The call that was told that the first candidate does not exist, and the second one does. -/
def slow : SharedCall :=
  ⟨[absenceOf "manager", presenceOf "operator"], .returned (.ok (some "operator"))⟩

/-- The call that was told that the first candidate exists. -/
def quick : SharedCall := ⟨[presenceOf "manager"], .returned (.ok (some "operator"))⟩

/-- The call that began behind both of them. -/
def late : SharedCall := ⟨[], .returned (.ok (some "operator"))⟩

/-- Both calls begin before either of them asks, and the first one ends first. -/
lemma reaches_race :
    Reaches ⟨resolver, []⟩ ⟨resolver.keep "operator", [slow, quick]⟩ := by
  refine .head (.begin _) (.head (.begin _) ?_)
  refine .head (.ask (k := 0) rfl) (.head (.answer (k := 0) rfl (.ok false)) ?_)
  refine .head (.ask (k := 0) rfl) (.head (.ask (k := 1) rfl) ?_)
  refine .head (.answer (k := 1) rfl (.ok true)) (.head (.answer (k := 0) rfl (.ok true)) ?_)
  exact .head (.finish (k := 0) rfl) (.head (.finish (k := 1) rfl) .refl)

/-- Two calls search at once and the quick one settles the name; a third one comes late. -/
lemma reaches_late :
    Reaches ⟨resolver, []⟩ ⟨resolver.keep "operator", [slow, quick, late]⟩ := by
  refine reaches_race.trans (reaches_of_resolve (s := ⟨resolver.keep "operator", [slow, quick]⟩) ?_)
  exact (Resolver.resolve_yields_iff_of_resolved rfl).mpr ⟨rfl, rfl, rfl⟩

end Sample

/-- Two calls race for the name, and from then on it is the one that was settled first. -/
theorem agrees_on_name_in_race :
    Resolver.ofCandidates ["manager", "operator"] .preferNewest = .ok Sample.resolver ∧
      Reaches ⟨Sample.resolver, []⟩
        ⟨Sample.resolver.keep "operator", [Sample.slow, Sample.quick, Sample.late]⟩ ∧
      ∀ later,
        Reaches ⟨Sample.resolver.keep "operator", [Sample.slow, Sample.quick, Sample.late]⟩ later →
          later.resolver.resolved = some "operator" ∧
            ∀ call ∈ later.calls.drop 3, ¬ call.Asks := by
  have hnew : Resolver.ofCandidates ["manager", "operator"] .preferNewest = .ok Sample.resolver :=
    rfl
  obtain ⟨-, -, hlater⟩ := agrees_on_name hnew Sample.reaches_late
  exact ⟨hnew, Sample.reaches_late, hlater Sample.quick (by simp) "operator" rfl⟩

end SharedResolver

end BrokerHarness
