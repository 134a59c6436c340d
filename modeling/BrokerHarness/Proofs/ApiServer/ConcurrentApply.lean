import BrokerHarness.Proofs.ApiServer.Apply
import Mathlib.Data.Set.Basic
import Mathlib.Logic.Relation

/-!
# Applications that race for one object

Several applications may be under way for one object, and others may write and delete it.  Between
the two requests of an application the object may be changed in any way.

What the server does is a parameter.  `ObjectServer.IsVersioned` is what is relied on: a write gives
the object a version that it never had, a look-up shows the version that is stored, and a request
that writes is accepted only on its condition.  `World.Step` is one step of one of the parties, and
the log of a world tells what happened to the object, in the order in which the server did it.

A version that is not stored any more does not come back (`Gone.trajectory`).  So if the object has
one version at two times, nothing happened to it in between (`Trajectory.kept`), and a replacement
that is accepted replaces exactly what the look-up of the same application has shown.  With this
`applications_lose_no_write` says how each application ends.
-/

namespace BrokerHarness

namespace ApiServer

/-! ### The server -/

/-- An API server, as far as one object is concerned, with a state. -/
structure ObjectServer (σ : Type) where
  /-- A request is served with an answer, which is lost if there is none. -/
  serves : σ → ApiRequest → Option ApiReply → σ → Prop
  /-- Something else happens: what others ask for, and what the cluster does by itself. -/
  moves : σ → σ → Prop
  /-- The object as it is stored. -/
  stored : σ → Option StoredObject
  /-- The versions that the object was given so far, also before it was deleted. -/
  issued : σ → Set String

namespace ObjectServer

variable {σ : Type} {server : ObjectServer σ} {s s' : σ} {v : String}

/-- The object is written, which gives it a version that it never had. -/
def Writes (server : ObjectServer σ) (s s' : σ) : Prop :=
  ∃ object v, server.stored s' = some object ∧ object.metadata.resourceVersion = some v ∧
    v ∉ server.issued s ∧ v ∈ server.issued s'

/-- The object stays as it is. -/
def Keeps (server : ObjectServer σ) (s s' : σ) : Prop := server.stored s' = server.stored s

/-- The object stays as it is, is removed, or is written. -/
def Proceeds (server : ObjectServer σ) (s s' : σ) : Prop :=
  server.issued s ⊆ server.issued s' ∧
    (server.Keeps s s' ∨ server.stored s' = none ∨ server.Writes s s')

/-- What is relied on of a server that keeps the object under a name in a collection. -/
structure IsVersioned (server : ObjectServer σ) (objects : Collection) (name : String) : Prop where
  /-- What is stored has a version, which it was given. -/
  version : ∀ s object, server.stored s = some object →
    ∃ v ∈ server.issued s, object.metadata.resourceVersion = some v
  /-- Others change the object only by a write or by its removal. -/
  moves : ∀ s s', server.moves s s' → server.Proceeds s s'
  /-- So does every request. -/
  serves : ∀ s q x s', server.serves s q x s' → server.Proceeds s s'
  /-- No answer is lost. -/
  answers : ∀ s q x s', server.serves s q x s' → x ≠ none
  /-- Reading changes nothing.  It is answered with the absence of an object that is absent, and
  otherwise shows the version that is stored, if it shows anything. -/
  read : ∀ s reply s', server.serves s (.read objects name) (some reply) s' →
    server.Keeps s s' ∧ (reply.SaysAbsent ↔ server.stored s = none) ∧
      ∀ shown, reply.Shows shown → ∃ current, server.stored s = some current ∧
        shown.metadata.resourceVersion = current.metadata.resourceVersion
  /-- A creation is accepted only if the object is absent, and otherwise changes nothing. -/
  create : ∀ s body reply s', server.serves s (.create objects body) (some reply) s' →
    body.stringAt? ["metadata", "name"] = some name →
      if reply.isRefusal then server.Keeps s s' else server.stored s = none ∧ server.Writes s s'
  /-- A replacement is accepted only at the version that is stored, and otherwise changes
  nothing. -/
  replace : ∀ s body reply s', server.serves s (.replace objects name body) (some reply) s' →
    if reply.isRefusal then server.Keeps s s' else
      (∃ current, server.stored s = some current ∧
        body.stringAt? ["metadata", "resourceVersion"] = current.metadata.resourceVersion) ∧
      server.Writes s s'

/-- The object was given a version, and does not have it any more. -/
def Gone (server : ObjectServer σ) (v : String) (s : σ) : Prop :=
  v ∈ server.issued s ∧
    ∀ object, server.stored s = some object → object.metadata.resourceVersion ≠ some v

/-- A version that the object was given is gone behind a removal, and behind another write. -/
lemma gone_of_removed_or_written (hissued : v ∈ server.issued s)
    (hmono : server.issued s ⊆ server.issued s')
    (h : server.stored s' = none ∨ server.Writes s s') : server.Gone v s' := by
  refine ⟨hmono hissued, fun object hobject hv => ?_⟩
  obtain hremoved | ⟨written, w, hwritten, hw, hfresh, -⟩ := h
  · rw [hremoved] at hobject
    cases hobject
  · cases hobject.symm.trans hwritten
    cases hv.symm.trans hw
    exact hfresh hissued

/-- A version that is gone stays so. -/
lemma Gone.proceeds (h : server.Gone v s) (hstep : server.Proceeds s s') : server.Gone v s' := by
  obtain ⟨hissued, hgone⟩ := h
  obtain ⟨hmono, hkeeps | hchanged⟩ := hstep
  · refine ⟨hmono hissued, fun object hobject => ?_⟩
    rw [hkeeps] at hobject
    exact hgone object hobject
  · exact gone_of_removed_or_written hissued hmono hchanged

end ObjectServer

/-! ### What happened -/

/-- Something that the server did: for a request of one of the applications, with its answer, or for
something else. -/
structure Event (σ : Type) where
  cause : Option (Nat × Exchange apiServer)
  before : σ
  after : σ

namespace Event

variable {σ : Type} {server : ObjectServer σ} {e : Event σ} {k : Nat} {x : Exchange apiServer}

/-- The exchange of an application that the event belongs to, if it belongs to one of this
application. -/
def exchangeOf (k : Nat) (e : Event σ) : Option (Exchange apiServer) :=
  match e.cause with
  | some (j, x) => if j = k then some x else none
  | none => none

lemma exchangeOf_self {s s' : σ} : exchangeOf k ⟨some (k, x), s, s'⟩ = some x := if_pos rfl

lemma exchangeOf_of_ne {j : Nat} {s s' : σ} (h : j ≠ k) :
    exchangeOf k ⟨some (j, x), s, s'⟩ = none := if_neg h

/-- The server does what happens in the event. -/
def IsOf (server : ObjectServer σ) (e : Event σ) : Prop :=
  match e.cause with
  | some (_, x) => server.serves e.before x.request x.answer e.after
  | none => server.moves e.before e.after

/-- The exchanges of an application are answered by the server. -/
lemma IsOf.serves (h : e.IsOf server) (hx : e.exchangeOf k = some x) :
    server.serves e.before x.request x.answer e.after := by
  unfold exchangeOf at hx
  unfold IsOf at h
  split at hx
  · next j y hcause =>
    rw [hcause] at h
    split at hx
    · cases hx
      exact h
    · cases hx
  · cases hx

/-- Whatever the cause of an event, the versions go on. -/
lemma IsOf.proceeds {objects : Collection} {name : String} (h : e.IsOf server)
    (hserver : server.IsVersioned objects name) : server.Proceeds e.before e.after := by
  unfold IsOf at h
  split at h
  · exact hserver.serves _ _ _ _ h
  · exact hserver.moves _ _ h

end Event

/-- Events that lead from one state to another. -/
inductive Trajectory {σ : Type} (server : ObjectServer σ) : σ → List (Event σ) → σ → Prop where
  | nil (s : σ) : Trajectory server s [] s
  | cons {e : Event σ} {log : List (Event σ)} {s' : σ} (first : e.IsOf server)
      (rest : Trajectory server e.after log s') : Trajectory server e.before (e :: log) s'

namespace Trajectory

variable {σ : Type} {server : ObjectServer σ} {s s' : σ} {log log₁ log₂ : List (Event σ)}
  {e : Event σ}

/-- The first event begins where the trajectory does. -/
lemma cons_iff : Trajectory server s (e :: log) s' ↔
    e.before = s ∧ e.IsOf server ∧ Trajectory server e.after log s' := by
  constructor
  · intro h
    cases h with
    | cons first rest => exact ⟨rfl, first, rest⟩
  · rintro ⟨rfl, first, rest⟩
    exact .cons first rest

/-- A trajectory can be cut between any two of its events. -/
lemma append_iff : Trajectory server s (log₁ ++ log₂) s' ↔
    ∃ between, Trajectory server s log₁ between ∧ Trajectory server between log₂ s' := by
  induction log₁ generalizing s with
  | nil =>
    constructor
    · intro h
      exact ⟨s, .nil s, h⟩
    · rintro ⟨between, hnil, h⟩
      cases hnil
      exact h
  | cons e log₁ ih =>
    simp only [List.cons_append, cons_iff, ih]
    constructor
    · rintro ⟨hs, first, between, h₁, h₂⟩
      exact ⟨between, ⟨hs, first, h₁⟩, h₂⟩
    · rintro ⟨between, ⟨hs, first, h₁⟩, h₂⟩
      exact ⟨hs, first, between, h₁, h₂⟩

/-- One more event behind the others. -/
lemma snoc (h : Trajectory server s log e.before) (he : e.IsOf server) :
    Trajectory server s (log ++ [e]) e.after :=
  append_iff.mpr ⟨e.before, h, .cons he (.nil e.after)⟩

/-- All events of a trajectory are of the server. -/
lemma isOf (h : Trajectory server s log s') : ∀ e ∈ log, e.IsOf server := by
  induction h with
  | nil => simp
  | cons first rest ih => exact List.forall_mem_cons.mpr ⟨first, ih⟩

end Trajectory

section Versions

variable {σ : Type} {server : ObjectServer σ} {s s' : σ} {log : List (Event σ)}
  {objects : Collection} {name v : String}

/-- A version that is gone does not come back. -/
lemma ObjectServer.Gone.trajectory (h : server.Gone v s)
    (hserver : server.IsVersioned objects name) (hlog : Trajectory server s log s') :
    server.Gone v s' := by
  induction hlog with
  | nil => exact h
  | cons first rest ih => exact ih (h.proceeds (first.proceeds hserver))

/-- If the object has the same version before and behind some events, nothing happened to it in
any of them. -/
theorem Trajectory.kept (hlog : Trajectory server s log s')
    (hserver : server.IsVersioned objects name) {first last : StoredObject}
    (hfirst : server.stored s = some first) (hlast : server.stored s' = some last)
    (hversion : last.metadata.resourceVersion = first.metadata.resourceVersion) :
    (∀ e ∈ log, server.Keeps e.before e.after) ∧ server.Keeps s s' := by
  obtain ⟨v, hissued, hv⟩ := hserver.version s first hfirst
  induction hlog with
  | nil => exact ⟨by simp, rfl⟩
  | @cons e log s' happened rest ih =>
    by_cases hkeeps : server.Keeps e.before e.after
    · have hafter : server.stored e.after = some first := hkeeps.trans hfirst
      have hissued' : v ∈ server.issued e.after := (happened.proceeds hserver).1 hissued
      obtain ⟨hall, hrest⟩ := ih hafter hlast hissued'
      exact ⟨List.forall_mem_cons.mpr ⟨hkeeps, hall⟩, hrest.trans hkeeps⟩
    · obtain ⟨hmono, hchanged⟩ := happened.proceeds hserver
      have hgone : server.Gone v e.after :=
        ObjectServer.gone_of_removed_or_written hissued hmono (hchanged.resolve_left hkeeps)
      exact absurd (hversion.trans hv) ((hgone.trajectory hserver rest).2 last hlast)

end Versions

/-! ### Applications that are under way -/

/-- The exchanges of an application in a log. -/
def exchangesOf {σ : Type} (k : Nat) (log : List (Event σ)) : List (Exchange apiServer) :=
  log.filterMap (Event.exchangeOf k)

section Exchanges

variable {σ : Type} {k : Nat} {log : List (Event σ)} {e : Event σ} {x : Exchange apiServer}

/-- An event of the application adds its exchange. -/
lemma exchangesOf_append_of_some (h : e.exchangeOf k = some x) :
    exchangesOf k (log ++ [e]) = exchangesOf k log ++ [x] := by
  unfold exchangesOf
  rw [List.filterMap_append, List.filterMap_cons_some h, List.filterMap_nil]

/-- An event of something else adds nothing. -/
lemma exchangesOf_append_of_none (h : e.exchangeOf k = none) :
    exchangesOf k (log ++ [e]) = exchangesOf k log := by
  unfold exchangesOf
  rw [List.filterMap_append, List.filterMap_cons_none h, List.filterMap_nil, List.append_nil]

/-- The exchange of an event is among those of its application. -/
lemma mem_exchangesOf (he : e ∈ log) (h : e.exchangeOf k = some x) : x ∈ exchangesOf k log :=
  List.mem_filterMap.mpr ⟨e, he, h⟩

/-- Two exchanges of an application split the log, and no other event is one of its. -/
lemma split_of_exchangesOf {first second : Exchange apiServer}
    (h : exchangesOf k log = [first, second]) :
    ∃ before looked between wrote behind,
      log = before ++ looked :: (between ++ wrote :: behind) ∧
      looked.exchangeOf k = some first ∧ wrote.exchangeOf k = some second ∧
      ∀ e ∈ before ++ between ++ behind, e.exchangeOf k = none := by
  obtain ⟨before, looked, rest, rfl, hbefore, hlooked, hrest⟩ := List.filterMap_eq_cons_iff.mp h
  obtain ⟨between, wrote, behind, rfl, hbetween, hwrote, hbehind⟩ :=
    List.filterMap_eq_cons_iff.mp hrest
  refine ⟨before, looked, between, wrote, behind, rfl, hlooked, hwrote, ?_⟩
  simp only [List.forall_mem_append]
  exact ⟨⟨hbefore, hbetween⟩, List.filterMap_eq_nil_iff.mp hbehind⟩

end Exchanges

/-- The manifest can be decoded, and describes the object with the name in the collection. -/
structure Describes (objects : Collection) (name : String) (manifest : Manifest)
    (object : StoredObject) : Prop where
  objects_eq : collection manifest = objects
  name_eq : manifest.name = name
  decoded : desired manifest = .ok object
  named : object.metadata.name = some name

/-- An application, with what is left of it. -/
structure Application where
  manifest : Manifest
  rest : Program apiServer (Except Failure Snapshot)

/-- A server, the applications that were begun, in the order in which they began, and what happened
so far. -/
structure World (σ : Type) where
  state : σ
  applications : List Application
  log : List (Event σ)

namespace World

variable {σ : Type}

/-- One step of one of the parties.  The others stay where they are. -/
inductive Step (server : ObjectServer σ) (objects : Collection) (name : String) :
    World σ → World σ → Prop where
  /-- An application of a manifest of the object begins. -/
  | begin {w : World σ} {manifest : Manifest} {object : StoredObject}
      (describes : Describes objects name manifest object) :
      Step server objects name w
        { w with applications := w.applications ++ [⟨manifest, (apply manifest).run⟩] }
  /-- The server serves the next request of an application. -/
  | serve {w : World σ} {k : Nat} {manifest : Manifest} {q : ApiRequest}
      {next : Option ApiReply → Program apiServer (Except Failure Snapshot)}
      {x : Option ApiReply} {s' : σ}
      (application : w.applications[k]? = some ⟨manifest, .ask (I := apiServer) q next⟩)
      (serves : server.serves w.state q x s') :
      Step server objects name w
        ⟨s', w.applications.set k ⟨manifest, next x⟩,
          w.log ++ [⟨some (k, ⟨q, x⟩), w.state, s'⟩]⟩
  /-- Something else happens. -/
  | move {w : World σ} {s' : σ} (moves : server.moves w.state s') :
      Step server objects name w ⟨s', w.applications, w.log ++ [⟨none, w.state, s'⟩]⟩

/-- Any number of steps of the parties, in any order. -/
abbrev Reaches (server : ObjectServer σ) (objects : Collection) (name : String) :
    World σ → World σ → Prop := Relation.ReflTransGen (Step server objects name)

/-- The log leads to where the server is, and every application goes on as one that had the
exchanges of the log. -/
structure IsCoherent (server : ObjectServer σ) (objects : Collection) (name : String) (start : σ)
    (w : World σ) : Prop where
  trajectory : Trajectory server start w.log w.state
  applications : ∀ k application, w.applications[k]? = some application →
    (∃ object, Describes objects name application.manifest object) ∧
      ∀ t r, application.rest.Yields t r →
        (apply application.manifest).Yields (exchangesOf k w.log ++ t) r
  fresh : ∀ k, w.applications.length ≤ k → exchangesOf k w.log = []

variable {server : ObjectServer σ} {objects : Collection} {name : String} {start : σ}
  {w w' : World σ}

/-- An application that begins goes on with all of itself, and has had no exchange yet. -/
lemma IsCoherent.begin (h : w.IsCoherent server objects name start) {manifest : Manifest}
    {object : StoredObject} (hdescribes : Describes objects name manifest object) :
    IsCoherent server objects name start
      { w with applications := w.applications ++ [⟨manifest, (apply manifest).run⟩] } where
  trajectory := h.trajectory
  applications := by
    intro k application hk
    rcases Nat.lt_trichotomy k w.applications.length with hlt | rfl | hgt
    · rw [List.getElem?_append_left hlt] at hk
      exact h.applications k application hk
    · rw [List.getElem?_concat_length] at hk
      cases hk
      refine ⟨⟨object, hdescribes⟩, fun t r hrun => ?_⟩
      rw [h.fresh _ le_rfl]
      exact hrun
    · rw [List.getElem?_eq_none (by simpa using Nat.succ_le_of_lt hgt)] at hk
      cases hk
  fresh := by
    intro k hk
    rw [List.length_append, List.length_singleton] at hk
    exact h.fresh k (Nat.le_of_succ_le hk)

/-- The exchange of a request that is served is one more exchange of its application, and of no
other. -/
lemma IsCoherent.serve (h : w.IsCoherent server objects name start) {k : Nat} {manifest : Manifest}
    {q : ApiRequest} {next : Option ApiReply → Program apiServer (Except Failure Snapshot)}
    {x : Option ApiReply} {s' : σ}
    (happlication : w.applications[k]? = some ⟨manifest, .ask (I := apiServer) q next⟩)
    (hserves : server.serves w.state q x s') :
    IsCoherent server objects name start
      ⟨s', w.applications.set k ⟨manifest, next x⟩,
        w.log ++ [⟨some (k, ⟨q, x⟩), w.state, s'⟩]⟩ where
  trajectory := h.trajectory.snoc (e := ⟨some (k, ⟨q, x⟩), w.state, s'⟩) hserves
  applications := by
    intro j application hj
    by_cases hjk : j = k
    · subst hjk
      obtain ⟨hdescribes, hgoes⟩ := h.applications j _ happlication
      rw [List.getElem?_set_self (List.getElem?_eq_some_iff.mp happlication).1] at hj
      cases hj
      refine ⟨hdescribes, fun t r hrun => ?_⟩
      rw [exchangesOf_append_of_some Event.exchangeOf_self, List.append_assoc]
      exact hgoes (⟨q, x⟩ :: t) r (.ask hrun)
    · rw [List.getElem?_set_ne (Ne.symm hjk)] at hj
      rw [exchangesOf_append_of_none (Event.exchangeOf_of_ne (Ne.symm hjk))]
      exact h.applications j application hj
  fresh := by
    intro j hj
    rw [List.length_set] at hj
    have hk : k < w.applications.length := (List.getElem?_eq_some_iff.mp happlication).1
    have hne : k ≠ j := (hk.trans_le hj).ne
    rw [exchangesOf_append_of_none (Event.exchangeOf_of_ne hne)]
    exact h.fresh j hj

/-- What happens beside the applications keeps a world coherent. -/
lemma IsCoherent.move (h : w.IsCoherent server objects name start) {s' : σ}
    (hmoves : server.moves w.state s') :
    IsCoherent server objects name start
      ⟨s', w.applications, w.log ++ [⟨none, w.state, s'⟩]⟩ where
  trajectory := h.trajectory.snoc (e := ⟨none, w.state, s'⟩) hmoves
  applications := by
    intro k application hk
    rw [exchangesOf_append_of_none rfl]
    exact h.applications k application hk
  fresh := by
    intro k hk
    rw [exchangesOf_append_of_none rfl]
    exact h.fresh k hk

/-- Every step of one of the parties keeps a world coherent. -/
lemma IsCoherent.step (h : w.IsCoherent server objects name start)
    (hstep : Step server objects name w w') : w'.IsCoherent server objects name start := by
  cases hstep with
  | begin describes => exact h.begin describes
  | serve application serves => exact h.serve application serves
  | move moves => exact h.move moves

/-- Every world that is reached is coherent. -/
lemma IsCoherent.reaches (h : w.IsCoherent server objects name start)
    (hreaches : Reaches server objects name w w') : w'.IsCoherent server objects name start := by
  induction hreaches with
  | refl => exact h
  | tail _ hstep ih => exact ih.step hstep

/-- The server may go on with the request with which a run of the rest of an application begins. -/
lemma reaches_serve {before : World σ} (h : Reaches server objects name before w) {k : Nat}
    {manifest : Manifest} {rest : Program apiServer (Except Failure Snapshot)} {q : ApiRequest}
    {x : Option ApiReply} {t : List (Exchange apiServer)} {r : Except Failure Snapshot} {s' : σ}
    (happlication : w.applications[k]? = some ⟨manifest, rest⟩) (hrun : rest.Yields (⟨q, x⟩ :: t) r)
    (hserves : server.serves w.state q x s') : ∃ rest', rest'.Yields t r ∧
      Reaches server objects name before ⟨s', w.applications.set k ⟨manifest, rest'⟩,
        w.log ++ [⟨some (k, ⟨q, x⟩), w.state, s'⟩]⟩ := by
  cases hrun with
  | ask hrest => exact ⟨_, hrest, h.tail (.serve happlication hserves)⟩

end World

/-! ### How applications end -/

/-- How an application ended, by what happened at the server. -/
inductive ApplicationEnd {σ : Type} (server : ObjectServer σ) (objects : Collection) (name : String)
    (k : Nat) (log : List (Event σ)) : Except Failure Snapshot → Prop where
  /-- It replaced the object exactly as its look-up had shown it: the object was not changed in
  between, and the application did nothing else. -/
  | replaced {before between behind : List (Event σ)} {looked wrote : Event σ}
      {reply answer : ApiReply} {shown current : StoredObject} {body : Json}
      {r : Except Failure Snapshot}
      (split : log = before ++ looked :: (between ++ wrote :: behind))
      (look : looked.exchangeOf k = some ⟨.read objects name, some reply⟩)
      (shows : reply.Shows shown)
      (write : wrote.exchangeOf k = some ⟨.replace objects name body, some answer⟩)
      (accepted : answer.isRefusal = false)
      (looks : server.stored looked.before = some current)
      (version : shown.metadata.resourceVersion = current.metadata.resourceVersion)
      (carries : body.stringAt? ["metadata", "resourceVersion"] = current.metadata.resourceVersion)
      (unchanged : ∀ e ∈ looked :: between, server.Keeps e.before e.after)
      (overwrites : server.stored wrote.before = some current)
      (writes : server.Writes wrote.before wrote.after)
      (only : ∀ e ∈ before ++ between ++ behind, e.exchangeOf k = none) :
      ApplicationEnd server objects name k log r
  /-- It created the object, which was absent when it looked, and when it was created. -/
  | created {before between behind : List (Event σ)} {looked wrote : Event σ}
      {reply answer : ApiReply} {body : Json} {r : Except Failure Snapshot}
      (split : log = before ++ looked :: (between ++ wrote :: behind))
      (look : looked.exchangeOf k = some ⟨.read objects name, some reply⟩)
      (tells : reply.SaysAbsent)
      (write : wrote.exchangeOf k = some ⟨.create objects body, some answer⟩)
      (accepted : answer.isRefusal = false)
      (unchanged : server.Keeps looked.before looked.after)
      (looks : server.stored looked.before = none)
      (absent : server.stored wrote.before = none)
      (writes : server.Writes wrote.before wrote.after)
      (only : ∀ e ∈ before ++ between ++ behind, e.exchangeOf k = none) :
      ApplicationEnd server objects name k log r
  /-- It failed with a failure of the API server, and changed nothing. -/
  | failed {code : Option Nat} {report : String}
      (unchanged : ∀ e ∈ log, e.exchangeOf k ≠ none → server.Keeps e.before e.after) :
      ApplicationEnd server objects name k log (.error (.apiServer code report))

section Ends

variable {σ : Type} {server : ObjectServer σ} {objects : Collection} {name : String} {k : Nat}
  {manifest : Manifest} {object : StoredObject} {e : Event σ}

/-- A look-up changes nothing. -/
lemma keeps_of_read (hserver : server.IsVersioned objects name) (he : e.IsOf server)
    {x : Option ApiReply} (hx : e.exchangeOf k = some ⟨.read objects name, x⟩) :
    server.Keeps e.before e.after := by
  have hserves := he.serves hx
  obtain ⟨reply, rfl⟩ := Option.ne_none_iff_exists'.mp (hserver.answers _ _ _ _ hserves)
  exact (hserver.read _ _ _ hserves).1

/-- A request that writes and is not accepted changes nothing. -/
lemma keeps_of_refused (hserver : server.IsVersioned objects name)
    (hdescribes : Describes objects name manifest object) (he : e.IsOf server)
    {existing : Option StoredObject} {y : Option ApiReply} (hy : ¬ IsAccepted y)
    (hx : e.exchangeOf k = some ⟨write manifest object existing, y⟩) :
    server.Keeps e.before e.after := by
  obtain ⟨rfl, rfl, -, hnamed⟩ := hdescribes
  have hserves := he.serves hx
  obtain ⟨reply, rfl⟩ := Option.ne_none_iff_exists'.mp (hserver.answers _ _ _ _ hserves)
  have hrefusal : reply.isRefusal = true :=
    Bool.not_eq_false _ ▸ fun haccepted => hy ⟨reply, rfl, haccepted⟩
  cases existing with
  | some shown =>
    have hreplace := hserver.replace _ _ _ _ hserves
    rwa [if_pos hrefusal] at hreplace
  | none =>
    have hcreate := hserver.create _ _ _ _ hserves (StoredObject.stringAt?_name.trans hnamed)
    rwa [if_pos hrefusal] at hcreate

/-- An application ends without a change if none of its exchanges is a change. -/
lemma failed_of_keeps {log : List (Event σ)} {asked : List (Exchange apiServer)}
    (hexchanges : exchangesOf k log = asked)
    (hkeeps : ∀ e ∈ log, ∀ x ∈ asked, e.exchangeOf k = some x → server.Keeps e.before e.after)
    {code : Option Nat} {report : String} :
    ApplicationEnd server objects name k log (.error (.apiServer code report)) := by
  refine .failed fun e he hne => ?_
  obtain ⟨x, hx⟩ := Option.ne_none_iff_exists'.mp hne
  exact hkeeps e he x (hexchanges ▸ mem_exchangesOf he hx) hx

/-- An application whose replacement is accepted replaces what it was shown. -/
lemma applicationEnd_of_replaced (hserver : server.IsVersioned objects name)
    (hdescribes : Describes objects name manifest object) {start finish : σ} {log : List (Event σ)}
    (hlog : Trajectory server start log finish) {reply answer : ApiReply} {shown : StoredObject}
    (hshows : reply.Shows shown) (haccepted : answer.isRefusal = false)
    (hexchanges : exchangesOf k log = [⟨.read objects name, some reply⟩,
      ⟨write manifest object (some shown), some answer⟩]) (r : Except Failure Snapshot) :
    ApplicationEnd server objects name k log r := by
  obtain ⟨rfl, rfl, -, -⟩ := hdescribes
  obtain ⟨before, looked, between, wrote, behind, rfl, hlooked, hwrote, honly⟩ :=
    split_of_exchangesOf hexchanges
  obtain ⟨_, -, hlog⟩ := Trajectory.append_iff.mp hlog
  obtain ⟨rfl, hlookedOf, hlog⟩ := Trajectory.cons_iff.mp hlog
  obtain ⟨_, hbetween, hlog⟩ := Trajectory.append_iff.mp hlog
  obtain ⟨rfl, hwroteOf, -⟩ := Trajectory.cons_iff.mp hlog
  obtain ⟨hkeeps, -, hshown⟩ := hserver.read _ _ _ (hlookedOf.serves hlooked)
  obtain ⟨current, hcurrent, hversion⟩ := hshown shown hshows
  have hreplace := hserver.replace _ _ _ _ (hwroteOf.serves hwrote)
  rw [if_neg (Bool.eq_false_iff.mp haccepted)] at hreplace
  obtain ⟨⟨last, hlast, hcarries⟩, hwrites⟩ := hreplace
  -- The version that the replacement carries is the one that was shown, and is the stored one.
  have hbody : (object.atVersion shown.metadata.resourceVersion).toJson.stringAt?
      ["metadata", "resourceVersion"] = current.metadata.resourceVersion :=
    StoredObject.stringAt?_resourceVersion.trans hversion
  have hafter : server.stored looked.after = some current := hkeeps.trans hcurrent
  obtain ⟨hall, hkept⟩ := hbetween.kept hserver hafter hlast (hcarries.symm.trans hbody)
  exact .replaced rfl hlooked hshows hwrote haccepted hcurrent hversion hbody
    (List.forall_mem_cons.mpr ⟨hkeeps, hall⟩) (hkept.trans hafter) hwrites honly

/-- An application whose creation is accepted creates an object that is absent. -/
lemma applicationEnd_of_created (hserver : server.IsVersioned objects name)
    (hdescribes : Describes objects name manifest object) {start finish : σ} {log : List (Event σ)}
    (hlog : Trajectory server start log finish) {reply answer : ApiReply}
    (htells : reply.SaysAbsent) (haccepted : answer.isRefusal = false)
    (hexchanges : exchangesOf k log = [⟨.read objects name, some reply⟩,
      ⟨write manifest object none, some answer⟩]) (r : Except Failure Snapshot) :
    ApplicationEnd server objects name k log r := by
  obtain ⟨rfl, rfl, -, hnamed⟩ := hdescribes
  obtain ⟨before, looked, between, wrote, behind, rfl, hlooked, hwrote, honly⟩ :=
    split_of_exchangesOf hexchanges
  have hof := hlog.isOf
  have hlookedOf : looked.IsOf server := hof looked (by simp)
  have hwroteOf : wrote.IsOf server := hof wrote (by simp)
  obtain ⟨hkeeps, habsent, -⟩ := hserver.read _ _ _ (hlookedOf.serves hlooked)
  have hcreate := hserver.create _ _ _ _ (hwroteOf.serves hwrote)
    (StoredObject.stringAt?_name.trans hnamed)
  rw [if_neg (Bool.eq_false_iff.mp haccepted)] at hcreate
  exact .created rfl hlooked htells hwrote haccepted hkeeps (habsent.mp htells) hcreate.1 hcreate.2
    honly

/-- Applications that race for an object, with each other and with others, lose no write: each that
ended replaced the object exactly as its look-up had shown it, or created it where it was absent, or
failed and changed nothing. -/
theorem applications_lose_no_write (server : ObjectServer σ) (objects : Collection) (name : String)
    (hserver : server.IsVersioned objects name) (start : σ) (w : World σ)
    (hreaches : World.Reaches server objects name ⟨start, [], []⟩ w) :
    Trajectory server start w.log w.state ∧
      ∀ k application r, w.applications[k]? = some application → application.rest = .done r →
        ApplicationEnd server objects name k w.log r := by
  have hstart : World.IsCoherent server objects name start ⟨start, [], []⟩ :=
    ⟨.nil start, by simp, fun _ _ => rfl⟩
  have hcoherent := hstart.reaches hreaches
  refine ⟨hcoherent.trajectory, fun k application r hk hdone => ?_⟩
  obtain ⟨⟨object, hdescribes⟩, hgoes⟩ := hcoherent.applications k application hk
  have hyields := hgoes [] r (by rw [hdone]; exact .done r)
  rw [List.append_nil] at hyields
  have hrun := applyRun_of_yields hdescribes.decoded hyields
  have hof := hcoherent.trajectory.isOf
  have hread : ∀ e ∈ w.log, ∀ x, e.exchangeOf k =
      some ⟨.read (collection application.manifest) application.manifest.name, x⟩ →
        server.Keeps e.before e.after := by
    rw [hdescribes.objects_eq, hdescribes.name_eq]
    exact fun e he x hx => keeps_of_read hserver (hof e he) hx
  generalize hexchanges : exchangesOf k w.log = asked at hrun
  cases hrun with
  | unsent => exact failed_of_keeps hexchanges (by simp)
  | unwritten =>
    refine failed_of_keeps hexchanges fun e he => ?_
    exact List.forall_mem_singleton.mpr (hread e he _)
  | refused found refused =>
    refine failed_of_keeps hexchanges fun e he => ?_
    refine List.forall_mem_cons.mpr ⟨hread e he _, List.forall_mem_singleton.mpr ?_⟩
    exact keeps_of_refused hserver hdescribes (hof e he) refused
  | written found accepted =>
    rw [hdescribes.objects_eq, hdescribes.name_eq] at hexchanges
    obtain ⟨reply, rfl, ⟨rfl, htells⟩ | ⟨shown, rfl, hshows⟩⟩ := exists_reply_of_foundBy found
    · exact applicationEnd_of_created hserver hdescribes hcoherent.trajectory htells accepted
        hexchanges r
    · exact applicationEnd_of_replaced hserver hdescribes hcoherent.trajectory hshows accepted
        hexchanges r

end Ends

/-! ### Two applications of which one replaces -/

namespace Race

def objects : Collection := ⟨.broker, some "test"⟩

def object (version : Option String) : StoredObject :=
  { metadata := { name := some "broker", resourceVersion := version }, rest := [] }

def manifest : Manifest := ⟨.broker, some "test", "broker", (object none).toJson⟩

/-- The version of the object, before and behind the replacement. -/
def version (replaced : Bool) : String := if replaced then "2" else "1"

def shown (replaced : Bool) : ApiReply where
  status := 200
  text := "\x7b\"metadata\":\x7b\"name\":\"broker\",\"resourceVersion\":\"" ++ version replaced ++
    "\"\x7d\x7d"

/-- The refusal of a replacement at another version than the stored one. -/
def conflict : ApiReply where
  status := 409
  text := "\x7b\"status\":\"Failure\",\"reason\":\"Conflict\",\"code\":409," ++
    "\"message\":\"the object has been modified\"\x7d"

/-- The object is there, and is replaced once, at its first version. -/
inductive Serves : Bool → ApiRequest → Option ApiReply → Bool → Prop where
  | read (s : Bool) : Serves s (.read objects "broker") (some (shown s)) s
  | replace {body : Json} (current : body.stringAt? ["metadata", "resourceVersion"] = some "1") :
      Serves false (.replace objects "broker" body) (some (shown true)) true
  | stale {s : Bool} {body : Json}
      (stale : body.stringAt? ["metadata", "resourceVersion"] ≠ some (version s)) :
      Serves s (.replace objects "broker" body) (some conflict) s
  | taken {s : Bool} {body : Json} : Serves s (.create objects body) (some conflict) s

def server : ObjectServer Bool where
  serves := Serves
  moves _ _ := False
  stored s := some (object (some (version s)))
  issued s := { v | v = "1" ∨ (s = true ∧ v = "2") }

/-- The reply to a look-up shows the object at its version, and nothing else. -/
lemma shows_shown_iff {s : Bool} {found : StoredObject} :
    (shown s).Shows found ↔ found = object (some (version s)) := by
  have hread : (Json.Document.parse? (shown s).text).bind StoredObject.ofDocument? =
      some (object (some (version s))) := by
    cases s <;> decide +kernel
  unfold ApiReply.Shows
  rw [hread]
  constructor
  · rintro ⟨-, hfound⟩
    exact (Option.some.inj hfound).symm
  · rintro rfl
    exact ⟨rfl, rfl⟩

/-- The replacement gives the object a version that was never used. -/
lemma writes : server.Writes false true :=
  ⟨object (some "2"), "2", rfl, rfl, by simp [server], by simp [server]⟩

/-- The server replaces an object at its own version only, and never uses a version twice. -/
lemma server_isVersioned : server.IsVersioned objects "broker" where
  version := by
    rintro s _ ⟨⟩
    cases s
    · exact ⟨"1", .inl rfl, rfl⟩
    · exact ⟨"2", .inr ⟨rfl, rfl⟩, rfl⟩
  moves := fun _ _ h => h.elim
  serves := by
    intro s q x s' h
    cases h with
    | read | stale | taken => exact ⟨subset_rfl, .inl rfl⟩
    | replace => exact ⟨fun v hv => .inl (by simpa [server] using hv), .inr (.inr writes)⟩
  answers := by
    intro s q x s' h
    cases h <;> simp
  read := by
    intro s reply s' h
    cases h
    refine ⟨rfl, ⟨fun habsent => ?_, fun habsent => ?_⟩, fun found hfound => ?_⟩
    · cases habsent.1
    · cases habsent
    · rw [shows_shown_iff.mp hfound]
      exact ⟨_, rfl, rfl⟩
  create := by
    intro s body reply s' h _
    cases h
    exact rfl
  replace := by
    intro s body reply s' h
    cases h with
    | replace current => exact ⟨⟨_, rfl, current⟩, writes⟩
    | stale => exact rfl

lemma describes : Describes objects "broker" manifest (object none) where
  objects_eq := rfl
  name_eq := rfl
  named := rfl
  decoded := by
    have hread : StoredObject.ofJson? manifest.body = some (object none) := by
      decide +kernel
    unfold desired
    rw [hread]
    rfl

/-- The request by which both applications want to replace the object. -/
def replacement : ApiRequest := .replace objects "broker" (object (some "1")).toJson

/-- The replacement is at the first version. -/
lemma replacement_version :
    (object (some "1")).toJson.stringAt? ["metadata", "resourceVersion"] = some "1" :=
  StoredObject.stringAt?_resourceVersion

/-- At the first version the replacement is carried out. -/
lemma replacement_accepted : Serves false replacement (some (shown true)) true :=
  .replace replacement_version

/-- At another version the replacement is a conflict. -/
lemma replacement_refused : Serves true replacement (some conflict) true :=
  .stale fun h => absurd (replacement_version.symm.trans h) (by decide)

/-- The object behind the replacement, as the first application is told. -/
def replaced : Snapshot := ⟨.broker, none, "broker", none, (object (some "2")).toJson⟩

/-- What the second application is told. -/
def conflictFailure : Failure :=
  .apiServer (some 409) "the object has been modified: Conflict"

lemma ofReply_conflict :
    Refusal.ofReply conflict = ⟨409, "Conflict", "the object has been modified"⟩ := by
  decide +kernel

/-- An application that is shown the first version goes on to replace it, and its result is read
from the answer. -/
lemma application_yields (y : Option ApiReply) :
    (apply manifest).Yields [⟨.read objects "broker", some (shown false)⟩, ⟨replacement, y⟩]
      (receivedBy StoredObject.ofDocument? (.ofReply y) >>= snapshot .broker) := by
  have hfound : foundBy (.ofReply (some (shown false))) = .ok (some (object (some "1"))) :=
    foundBy_of_shows (shows_shown_iff.mpr rfl)
  exact apply_yields_of_foundBy describes.decoded (by decide +kernel) (by decide +kernel) hfound

/-- The run of the application whose replacement is accepted. -/
lemma first_yields : (apply manifest).Yields
    [⟨.read objects "broker", some (shown false)⟩, ⟨replacement, some (shown true)⟩]
    (.ok replaced) := by
  have hreceived : receivedBy StoredObject.ofDocument? (.ofReply (some (shown true))) =
      .ok (object (some (version true))) :=
    receivedBy_eq_ok_iff.mpr ⟨shown true, rfl, shows_shown_iff.mpr rfl⟩
  have happly := application_yields (some (shown true))
  rw [hreceived] at happly
  exact happly

/-- The run of the application whose replacement is refused. -/
lemma second_yields : (apply manifest).Yields
    [⟨.read objects "broker", some (shown false)⟩, ⟨replacement, some conflict⟩]
    (.error conflictFailure) := by
  have hreceived : receivedBy StoredObject.ofDocument? (.ofReply (some conflict)) =
      .error conflictFailure := by
    rw [ofReply_of_refusal rfl, ofReply_conflict]
    rfl
  have happly := application_yields (some conflict)
  rw [hreceived] at happly
  exact happly

/-- The world behind the race: both applications were shown the first version before either of them
wrote, the first replaced it, and the second was refused. -/
def ended : World Bool where
  state := true
  applications := [⟨manifest, .done (.ok replaced)⟩, ⟨manifest, .done (.error conflictFailure)⟩]
  log := [
    ⟨some (0, ⟨.read objects "broker", some (shown false)⟩), false, false⟩,
    ⟨some (1, ⟨.read objects "broker", some (shown false)⟩), false, false⟩,
    ⟨some (0, ⟨replacement, some (shown true)⟩), false, true⟩,
    ⟨some (1, ⟨replacement, some conflict⟩), true, true⟩]

/-- Both applications look, then the first writes, and then the second one is refused. -/
lemma reaches_ended : World.Reaches server objects "broker" ⟨false, [], []⟩ ended := by
  have hbegun : World.Reaches server objects "broker" ⟨false, [], []⟩
      ⟨false, [⟨manifest, (apply manifest).run⟩, ⟨manifest, (apply manifest).run⟩], []⟩ :=
    .tail (.tail .refl (.begin describes)) (.begin describes)
  obtain ⟨first, hfirst, hlooked⟩ := World.reaches_serve (k := 0) hbegun rfl first_yields
    (.read false)
  obtain ⟨second, hsecond, hlooked⟩ := World.reaches_serve (k := 1) hlooked rfl second_yields
    (.read false)
  obtain ⟨first, hfirst, hwrote⟩ := World.reaches_serve (k := 0) hlooked rfl hfirst
    replacement_accepted
  obtain ⟨second, hsecond, hwrote⟩ := World.reaches_serve (k := 1) hwrote rfl hsecond
    replacement_refused
  cases hfirst
  cases hsecond
  exact hwrote

end Race

open Race in
/-- Of two applications that are both shown the first version, the first replaces exactly this
version, and the second fails with the conflict and changes nothing. -/
theorem second_of_two_applications_fails :
    World.Reaches server objects "broker" ⟨false, [], []⟩ ended ∧
      (ApplicationEnd server objects "broker" 0 ended.log (.ok replaced) ∧
        exchangesOf 0 ended.log = [⟨.read objects "broker", some (shown false)⟩,
          ⟨.replace objects "broker" (object (some "1")).toJson, some (shown true)⟩] ∧
        server.Writes false true) ∧
      ApplicationEnd server objects "broker" 1 ended.log (.error conflictFailure) ∧
        ∀ e ∈ ended.log, e.exchangeOf 1 ≠ none → server.Keeps e.before e.after := by
  obtain ⟨-, hends⟩ := applications_lose_no_write server objects "broker" server_isVersioned false
    ended reaches_ended
  refine ⟨reaches_ended, ⟨hends 0 _ _ rfl rfl, rfl, writes⟩, hends 1 _ _ rfl rfl, ?_⟩
  -- The only event that changes the object belongs to the first application.
  intro e he hne
  simp only [ended, List.mem_cons, List.not_mem_nil, or_false] at he
  obtain rfl | rfl | rfl | rfl := he
  · exact rfl
  · exact rfl
  · exact absurd rfl hne
  · exact rfl

end ApiServer

end BrokerHarness
