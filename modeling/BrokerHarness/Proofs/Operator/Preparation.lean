import BrokerHarness.Proofs.Object.Placement
import BrokerHarness.Proofs.Operator.Sweep

/-!
# Preparing the install manifests

A prepared manifest differs from the given one at two kinds of places only: the namespace in its
metadata, and the environment lists of the containers of a deployment that has to be told what to
watch.  Preparing it again changes nothing (`Installation.prepare_changes_targets_only`).  The two
changes stand under different members of the body, so they can be made in either order, and each of
them made twice is made once.

What becomes of one container is `SetsWatch`.  Its consequence for a deployment: of the manifests
that are applied, every container that lists its environment, or leaves it out, has one entry for
the watch variable.  A container whose environment is neither, which includes one that is null, has
none (`Operator.deploy_tells_listing_containers`).
-/

namespace BrokerHarness

namespace Installation

variable {profile : OperatorProfile} {manifest : Manifest} {text : String} {container body : Json}

/-! ### One container -/

/-- Whether an entry of an environment list is for the watch variable. -/
def IsWatchEntry (entry : Json) : Prop := entry.get? "name" = some (.string "WATCH_NAMESPACE")

instance : DecidablePred IsWatchEntry := fun entry =>
  inferInstanceAs (Decidable (entry.get? "name" = some (.string "WATCH_NAMESPACE")))

/-- The entry that tells what to watch. -/
def watchEntry (text : String) : Json :=
  .object [("name", .string "WATCH_NAMESPACE"), ("value", .string text)]

/-- The environment list of a container, empty if it has none. -/
def environment (container : Json) : List Json := ((container.get? "env").bind Json.array?).getD []

/-- The entries of a container's environment list for the watch variable. -/
def watchEntriesOf (container : Json) : List Json := (environment container).filter IsWatchEntry

/-- The container is an object that lists its environment or leaves it out. -/
def ListsEnvironment (container : Json) : Prop :=
  ∃ fields, container = .object fields ∧
    (container.get? "env" = none ∨ ∃ entries, container.get? "env" = some (.array entries))

/-- The prepared container is the given one with the watch variable set: behind the other entries of
an environment list, or alone if there was no environment.  Anything else is left as it is. -/
structure SetsWatch (text : String) (given prepared : Json) : Prop where
  frame : Json.DiffersOnlyAt {[.member "env"]} given prepared
  listed : ∀ entries, given.get? "env" = some (.array entries) →
    prepared.get? "env" =
      some (.array (entries.filter (fun entry => ¬ IsWatchEntry entry) ++ [watchEntry text]))
  missing : ∀ fields, given = .object fields → given.get? "env" = none →
    prepared.get? "env" = some (.array [watchEntry text])
  unlisted : ¬ ListsEnvironment given → prepared = given

/-- The container has one entry for the watch variable, with the given text, exactly if it listed
its environment or left it out, and otherwise has none. -/
structure ToldWhereListed (text : String) (given applied : Json) : Prop where
  told_iff : watchEntriesOf applied = [watchEntry text] ↔ ListsEnvironment given
  untold : ¬ ListsEnvironment given → watchEntriesOf applied = []

/-- The name of an entry is looked at as a text. -/
lemma isNamed_watchVariable_iff {entry : Json} :
    isNamed watchVariable entry = true ↔ IsWatchEntry entry := by
  unfold isNamed IsWatchEntry
  rw [decide_eq_true_iff]
  cases entry.get? "name" with
  | none => simp
  | some name => cases name <;> simp [Json.string?, watchVariable]

lemma isWatchEntry_watchEntry (text : String) : IsWatchEntry (watchEntry text) := by
  simp [IsWatchEntry, watchEntry, Json.get?, Json.lookup]

/-- The entry that is written is the one that is looked for. -/
lemma ofFields_eq_watchEntry (text : String) :
    Json.ofFields [("name", .string watchVariable), ("value", .string text)] =
      watchEntry text := by
  have hbehind : ¬ "value" < "name" := by decide
  simp [Json.ofFields, Json.sortFields, Json.insertField, hbehind, watchEntry, watchVariable]

/-- Entries of the variable are taken out, wherever they stand, and one is added at the end. -/
lemma watchEnv_eq (text : String) (entries : List Json) :
    watchEnv text entries =
      entries.filter (fun entry => ¬ IsWatchEntry entry) ++ [watchEntry text] := by
  unfold watchEnv
  simp only [isNamed_watchVariable_iff, ofFields_eq_watchEntry]

/-- Of the variable there is one entry, and it has the text. -/
lemma filter_watchEnv (text : String) (entries : List Json) :
    (watchEnv text entries).filter IsWatchEntry = [watchEntry text] := by
  have hothers :
      (entries.filter (fun entry => ¬ IsWatchEntry entry)).filter IsWatchEntry = [] := by
    simp [List.filter_filter]
  rw [watchEnv_eq, List.filter_append, hothers, List.nil_append]
  exact List.filter_eq_self.mpr (by simp [isWatchEntry_watchEntry])

/-- Setting the variable once more changes nothing. -/
lemma watchEnv_watchEnv (text : String) (entries : List Json) :
    watchEnv text (watchEnv text entries) = watchEnv text entries := by
  have hsame : (watchEnv text entries).filter (fun entry => ¬ IsWatchEntry entry) =
      entries.filter (fun entry => ¬ IsWatchEntry entry) := by
    rw [watchEnv_eq, List.filter_append, List.filter_filter]
    simp [isWatchEntry_watchEntry]
  rw [watchEnv_eq text (watchEnv text entries), hsame, ← watchEnv_eq]

/-- A container with a list of entries lists its environment. -/
lemma listsEnvironment_of_get? {entries : List Json}
    (h : container.get? "env" = some (.array entries)) : ListsEnvironment container := by
  obtain ⟨fields, hfields⟩ := Json.exists_fields_of_get? h
  exact ⟨fields, hfields, .inr ⟨entries, h⟩⟩

/-- A container whose `env` is no list has no entries. -/
lemma environment_of_not_listsEnvironment (h : ¬ ListsEnvironment container) :
    environment container = [] := by
  unfold environment
  cases henv : container.get? "env" with
  | none => rfl
  | some env =>
    cases env with
    | array entries => exact absurd (listsEnvironment_of_get? henv) h
    | _ => rfl

/-- A container that lists its environment, or has none, gets the entry. -/
lemma watchContainer_of_listsEnvironment (text : String) (h : ListsEnvironment container) :
    watchContainer text container =
      container.insert "env" (.array (watchEnv text (environment container))) := by
  obtain ⟨fields, rfl, henv⟩ := h
  have hentries : (Json.lookup "env" fields).getD (.array []) =
      .array (environment (.object fields)) := by
    unfold environment
    obtain hnone | ⟨entries, hentries⟩ := henv
    · rw [hnone, show Json.lookup "env" fields = none from hnone]
      rfl
    · rw [hentries, show Json.lookup "env" fields = some (.array entries) from hentries]
      rfl
  simp only [watchContainer, hentries, Json.insert]

/-- A container whose `env` is no list stays as it is, also with a null. -/
lemma watchContainer_of_not_listsEnvironment (h : ¬ ListsEnvironment container) :
    watchContainer text container = container := by
  cases container with
  | object fields =>
    cases henv : Json.lookup "env" fields with
    | none => exact absurd ⟨fields, rfl, .inl henv⟩ h
    | some env =>
      cases env with
      | array entries => exact absurd ⟨fields, rfl, .inr ⟨entries, henv⟩⟩ h
      | _ => simp only [watchContainer, henv, Option.getD_some]
  | _ => rfl

/-- Behind the change the environment is a list that ends with the entry. -/
lemma get?_env_watchContainer (text : String) (h : ListsEnvironment container) :
    (watchContainer text container).get? "env" =
      some (.array (watchEnv text (environment container))) := by
  rw [watchContainer_of_listsEnvironment text h]
  obtain ⟨fields, rfl, -⟩ := h
  exact Json.get?_insert_self fields

/-- The other entries of a container stay, in their order. -/
lemma environment_watchContainer (h : ListsEnvironment container) :
    environment (watchContainer text container) = watchEnv text (environment container) := by
  rw [environment, get?_env_watchContainer text h]
  rfl

/-- A container that was given the entry lists its environment. -/
lemma listsEnvironment_watchContainer (h : ListsEnvironment container) :
    ListsEnvironment (watchContainer text container) := by
  have henv := get?_env_watchContainer text h
  have hinsert := watchContainer_of_listsEnvironment text h
  obtain ⟨fields, rfl, -⟩ := h
  exact ⟨_, hinsert, .inr ⟨_, henv⟩⟩

/-- Telling a container once more changes nothing. -/
lemma watchContainer_watchContainer (text : String) (container : Json) :
    watchContainer text (watchContainer text container) = watchContainer text container := by
  by_cases h : ListsEnvironment container
  · rw [watchContainer_of_listsEnvironment text (listsEnvironment_watchContainer h),
      environment_watchContainer h, watchEnv_watchEnv, watchContainer_of_listsEnvironment text h,
      Json.insert_insert]
  · rw [watchContainer_of_not_listsEnvironment h, watchContainer_of_not_listsEnvironment h]

/-- A container that lists its environment, or has none, is told the namespaces, and any other is
left as it is. -/
lemma setsWatch_watchContainer (text : String) (container : Json) :
    SetsWatch text container (watchContainer text container) where
  frame := by
    by_cases h : ListsEnvironment container
    · rw [watchContainer_of_listsEnvironment text h]
      exact Json.differsOnlyAt_insert _ _ _
    · rw [watchContainer_of_not_listsEnvironment h]
      exact .refl _ _
  listed entries hentries := by
    have henvironment : environment container = entries := by
      rw [environment, hentries]
      rfl
    rw [get?_env_watchContainer text (listsEnvironment_of_get? hentries), henvironment, watchEnv_eq]
  missing fields hfields hnone := by
    have henvironment : environment container = [] := by
      rw [environment, hnone]
      rfl
    rw [get?_env_watchContainer text ⟨fields, hfields, .inl hnone⟩, henvironment, watchEnv_eq]
    rfl
  unlisted h := watchContainer_of_not_listsEnvironment h

/-- A container is told the namespaces where it can be, and else stays as it is. -/
lemma toldWhereListed_watchContainer (text : String) (container : Json) :
    ToldWhereListed text container (watchContainer text container) := by
  have huntold : ¬ ListsEnvironment container →
      watchEntriesOf (watchContainer text container) = [] := by
    intro h
    rw [watchContainer_of_not_listsEnvironment h, watchEntriesOf,
      environment_of_not_listsEnvironment h]
    rfl
  refine ⟨⟨fun htold => ?_, fun h => ?_⟩, huntold⟩
  · by_contra h
    rw [huntold h] at htold
    cases htold
  · rw [watchEntriesOf, environment_watchContainer h, filter_watchEnv]

/-! ### The body of a deployment -/

/-- The containers that a body lists. -/
def containersOf (body : Json) : List Json :=
  ((body.at? ["spec", "template", "spec", "containers"]).bind Json.array?).getD []

/-- A list of containers with the watch variable set in each; any other value unchanged. -/
def watchContainers (text : String) : Json → Json
  | .array items => .array (items.map (watchContainer text))
  | other => other

/-- Of a body only the list of containers is changed. -/
lemma watchBody_eq (text : String) (body : Json) :
    watchBody text body = body.modifyAt containersPath (watchContainers text) :=
  rfl

/-- Every container is told, and none is added or moved. -/
lemma containersOf_watchBody (text : String) (body : Json) :
    containersOf (watchBody text body) = (containersOf body).map (watchContainer text) := by
  have hat := Json.at?_modifyAt (v := body) (f := watchContainers text) containersPath
  rw [← watchBody_eq] at hat
  unfold containersOf
  rw [show (watchBody text body).at? ["spec", "template", "spec", "containers"] = _ from hat,
    containersPath]
  cases body.at? ["spec", "template", "spec", "containers"] with
  | none => rfl
  | some containers => cases containers <;> rfl

/-- Telling a body once more changes nothing. -/
lemma watchBody_watchBody (text : String) (body : Json) :
    watchBody text (watchBody text body) = watchBody text body := by
  have htwice : (fun containers => watchContainers text (watchContainers text containers)) =
      watchContainers text := by
    funext containers
    cases containers with
    | array items =>
      simp only [watchContainers, List.map_map]
      refine congrArg Json.array (List.map_congr_left fun item _ => ?_)
      exact watchContainer_watchContainer text item
    | _ => rfl
  rw [watchBody_eq, watchBody_eq, Json.modifyAt_modifyAt, htwice]

/-- Where a body lists the environments of its containers. -/
def environmentPlaces : Set (List Json.Step) :=
  {place | ∃ index, place =
    Json.memberPath ["spec", "template", "spec", "containers"] ++ [.item index, .member "env"]}

/-- A body that is told the namespaces differs in environments of containers only. -/
lemma watchBody_differsOnlyAt (text : String) (body : Json) :
    Json.DiffersOnlyAt environmentPlaces body (watchBody text body) := by
  let inItems : Set (List Json.Step) :=
    {path | ∃ index, ∃ target ∈ ({[.member "env"]} : Set (List Json.Step)),
      path = .item index :: target}
  have hne : inItems.Nonempty := ⟨[.item 0, .member "env"], 0, [.member "env"], rfl, rfl⟩
  have hitems : ∀ containers,
      Json.DiffersOnlyAt inItems containers (watchContainers text containers) := by
    intro containers
    cases containers with
    | array items =>
      exact Json.differsOnlyAt_map (Set.singleton_nonempty _)
        fun item _ => (setsWatch_watchContainer text item).frame
    | _ => exact .refl _ _
  have hbody := Json.differsOnlyAt_modifyAt body containersPath hne
    fun containers _ => hitems containers
  refine hbody.mono ?_
  rintro place ⟨_, ⟨index, _, rfl, rfl⟩, rfl⟩
  exact ⟨index, rfl⟩

/-! ### Placing and telling -/

/-- The manifest with the watch variable set in every container of its body. -/
def tell (profile : OperatorProfile) (manifest : Manifest) : Manifest :=
  { manifest with body := watchBody profile.watchText manifest.body }

/-- Whether the operator has to be told what to watch by this manifest. -/
def TellsOperator (profile : OperatorProfile) (manifest : Manifest) : Prop :=
  profile.isNamespaced = false ∧ profile.installMethod = .manifestFile ∧
    manifest.kind = .deployment

/-- A manifest of the whole cluster stays where it is. -/
lemma place_of_cluster (h : manifest.kind.belongsToCluster = true) :
    place profile manifest = manifest :=
  if_pos h

/-- Every other manifest is moved to the namespace of the operator. -/
lemma place_of_namespaced (h : ¬ manifest.kind.belongsToCluster = true) :
    place profile manifest = manifest.movedTo profile.deploymentNamespace :=
  if_neg h

/-- Of the address, placing a manifest changes the namespace only. -/
lemma place_address (profile : OperatorProfile) (manifest : Manifest) :
    (place profile manifest).address =
      ⟨manifest.kind,
        if manifest.kind.belongsToCluster then manifest.scope
          else some profile.deploymentNamespace,
        manifest.name⟩ := by
  by_cases h : manifest.kind.belongsToCluster = true
  · rw [place_of_cluster h, if_pos h]
    rfl
  · rw [place_of_namespaced h, if_neg h]
    rfl

lemma place_kind (profile : OperatorProfile) (manifest : Manifest) :
    (place profile manifest).kind = manifest.kind :=
  congrArg ObjectAddress.kind (place_address profile manifest)

/-- Only the deployment of an operator of the whole cluster is told what to watch. -/
lemma isWatching_iff : isWatching profile manifest = true ↔ TellsOperator profile manifest := by
  simp [isWatching, TellsOperator]

/-- The deployment of an operator of the whole cluster is placed and then told. -/
lemma prepare_of_tellsOperator (h : TellsOperator profile manifest) :
    prepare profile manifest = tell profile (place profile manifest) := by
  have hwatching : isWatching profile (place profile manifest) = true :=
    isWatching_iff.mpr ⟨h.1, h.2.1, (place_kind profile manifest).trans h.2.2⟩
  unfold prepare
  rw [if_pos hwatching]
  rfl

/-- Every other manifest is only placed. -/
lemma prepare_of_not_tellsOperator (h : ¬ TellsOperator profile manifest) :
    prepare profile manifest = place profile manifest := by
  have hwatching : ¬ isWatching profile (place profile manifest) = true := by
    intro hwatching
    obtain ⟨hscope, hmethod, hkind⟩ := isWatching_iff.mp hwatching
    exact h ⟨hscope, hmethod, (place_kind profile manifest).symm.trans hkind⟩
  unfold prepare
  rw [if_neg hwatching]

/-- A prepared manifest has the kind and the name of the given one, and the operator's namespace
unless its kind belongs to the whole cluster. -/
lemma prepare_address (profile : OperatorProfile) (manifest : Manifest) :
    (prepare profile manifest).address =
      ⟨manifest.kind,
        if manifest.kind.belongsToCluster then manifest.scope
          else some profile.deploymentNamespace,
        manifest.name⟩ := by
  rw [← place_address]
  by_cases h : TellsOperator profile manifest
  · rw [prepare_of_tellsOperator h]
    rfl
  · rw [prepare_of_not_tellsOperator h]

lemma prepare_kind (profile : OperatorProfile) (manifest : Manifest) :
    (prepare profile manifest).kind = manifest.kind :=
  congrArg ObjectAddress.kind (prepare_address profile manifest)

/-- A prepared manifest is in the namespace of the operator, unless it is of the whole cluster. -/
lemma prepare_scope (profile : OperatorProfile) (manifest : Manifest) :
    (prepare profile manifest).scope =
      if manifest.kind.belongsToCluster then manifest.scope
        else some profile.deploymentNamespace :=
  congrArg ObjectAddress.scope (prepare_address profile manifest)

/-- A manifest that is placed stays where it is. -/
lemma place_place (profile : OperatorProfile) (manifest : Manifest) :
    place profile (place profile manifest) = place profile manifest := by
  by_cases h : manifest.kind.belongsToCluster = true
  · rw [place_of_cluster h, place_of_cluster h]
  · have hagain : ¬ (place profile manifest).kind.belongsToCluster = true := by
      rwa [place_kind]
    rw [place_of_namespaced hagain, place_of_namespaced h]
    exact Manifest.movedTo_movedTo manifest _ _

/-- A deployment that is told stays as it is. -/
lemma tell_tell (profile : OperatorProfile) (manifest : Manifest) :
    tell profile (tell profile manifest) = tell profile manifest :=
  congrArg (Manifest.mk manifest.kind manifest.scope manifest.name) (watchBody_watchBody _ _)

/-- The namespace and the containers stand under different members of a body. -/
lemma place_tell (profile : OperatorProfile) (manifest : Manifest) :
    place profile (tell profile manifest) = tell profile (place profile manifest) := by
  by_cases h : manifest.kind.belongsToCluster = true
  · have htold : (tell profile manifest).kind.belongsToCluster = true := h
    rw [place_of_cluster htold, place_of_cluster h]
  · have htold : ¬ (tell profile manifest).kind.belongsToCluster = true := h
    rw [place_of_namespaced htold, place_of_namespaced h]
    refine congrArg
      (Manifest.mk manifest.kind (some profile.deploymentNamespace) manifest.name) ?_
    exact Json.modify_comm_of_ne (by decide)

/-- Preparing a manifest once more changes nothing. -/
lemma prepare_prepare (profile : OperatorProfile) (manifest : Manifest) :
    prepare profile (prepare profile manifest) = prepare profile manifest := by
  have hkind := prepare_kind profile manifest
  by_cases h : TellsOperator profile manifest
  · have hagain : TellsOperator profile (prepare profile manifest) :=
      ⟨h.1, h.2.1, hkind.trans h.2.2⟩
    rw [prepare_of_tellsOperator hagain, prepare_of_tellsOperator h, place_tell, place_place,
      tell_tell]
  · have hagain : ¬ TellsOperator profile (prepare profile manifest) :=
      fun hagain => h ⟨hagain.1, hagain.2.1, hkind.symm.trans hagain.2.2⟩
    rw [prepare_of_not_tellsOperator hagain, prepare_of_not_tellsOperator h, place_place]

/-! ### What preparing changes -/

/-- The places at which a prepared manifest may differ from the given one. -/
def preparedPlaces (profile : OperatorProfile) (manifest : Manifest) : Set (List Json.Step) :=
  {place | (manifest.kind.belongsToCluster = false ∧
      place = Json.memberPath ["metadata", "namespace"]) ∨
    (TellsOperator profile manifest ∧ place ∈ environmentPlaces)}

/-- A manifest that is placed differs in the namespace of its metadata only. -/
lemma place_differsOnlyAt (profile : OperatorProfile) (manifest : Manifest) :
    Json.DiffersOnlyAt (preparedPlaces profile manifest) manifest.body
      (place profile manifest).body := by
  by_cases h : manifest.kind.belongsToCluster = true
  · rw [place_of_cluster h]
    exact .refl _ _
  · rw [place_of_namespaced h]
    refine (Manifest.movedTo_differsOnlyAt manifest _).mono ?_
    rintro place rfl
    exact .inl ⟨by simpa using h, rfl⟩

/-- Placing a manifest leaves its containers alone. -/
lemma containersOf_place (profile : OperatorProfile) (manifest : Manifest) :
    containersOf (place profile manifest).body = containersOf manifest.body := by
  by_cases h : manifest.kind.belongsToCluster = true
  · rw [place_of_cluster h]
  · have hspec : (place profile manifest).body.get? "spec" = manifest.body.get? "spec" := by
      rw [place_of_namespaced h]
      exact Json.get?_modify_of_ne (by decide)
    unfold containersOf
    rw [Json.at?, Json.at?, hspec]

/-- Preparing the deployment of an operator of the whole cluster tells every container. -/
lemma containersOf_prepare (h : TellsOperator profile manifest) :
    containersOf (prepare profile manifest).body =
      (containersOf manifest.body).map (watchContainer profile.watchText) := by
  rw [prepare_of_tellsOperator h, ← containersOf_place profile manifest]
  exact containersOf_watchBody _ _

/-- Containers are prepared one by one. -/
lemma forall₂_containersOf_prepare {R : Json → Json → Prop} (h : TellsOperator profile manifest)
    (hR : ∀ container, R container (watchContainer profile.watchText container)) :
    List.Forall₂ R (containersOf manifest.body)
      (containersOf (prepare profile manifest).body) := by
  rw [containersOf_prepare h, List.forall₂_map_right_iff]
  exact List.forall₂_same.mpr fun container _ => hR container

/-- Preparing a manifest again changes nothing.  A prepared manifest has the kind and name of the
given one, and its body differs at the given places only: the namespace in the metadata, unless the
kind belongs to the whole cluster, and the environments of the containers, if the manifest tells an
operator of the whole cluster what to watch.  In that case each container has the watch variable set
in its environment and is otherwise as it was. -/
theorem prepare_changes_targets_only (profile : OperatorProfile) (manifest : Manifest) :
    prepare profile (prepare profile manifest) = prepare profile manifest ∧
      (prepare profile manifest).kind = manifest.kind ∧
      (prepare profile manifest).name = manifest.name ∧
      (prepare profile manifest).scope =
        (if manifest.kind.belongsToCluster then manifest.scope
          else some profile.deploymentNamespace) ∧
      Json.DiffersOnlyAt (preparedPlaces profile manifest) manifest.body
        (prepare profile manifest).body ∧
      (TellsOperator profile manifest →
        List.Forall₂ (SetsWatch profile.watchText) (containersOf manifest.body)
          (containersOf (prepare profile manifest).body)) := by
  have haddress := prepare_address profile manifest
  have hplace := place_differsOnlyAt profile manifest
  refine ⟨prepare_prepare profile manifest, congrArg ObjectAddress.kind haddress,
    congrArg ObjectAddress.name haddress, congrArg ObjectAddress.scope haddress, ?_, ?_⟩
  · by_cases h : TellsOperator profile manifest
    · have htell := watchBody_differsOnlyAt profile.watchText (place profile manifest).body
      rw [prepare_of_tellsOperator h]
      exact hplace.trans (htell.mono fun place hplaced => .inr ⟨h, hplaced⟩)
    · rw [prepare_of_not_tellsOperator h]
      exact hplace
  · intro h
    exact forall₂_containersOf_prepare h (setsWatch_watchContainer profile.watchText)

end Installation

/-! ### What a deployment applies -/

/-- The loop of applications applies each manifest in the exchange at its position. -/
lemma Action.LoopRun.request_at {manifests : List Manifest} {asked : List (Exchange controlPlane)}
    {r : Except Failure Unit} {manifest : Manifest} {i : ℕ}
    (h : Action.LoopRun Applies FailsToApply manifests asked r)
    (hmanifest : manifests[i]? = some manifest) :
    (r = .ok () → i < asked.length) ∧
      ∀ e, asked[i]? = some e → e.request = ControlPlaneRequest.apply manifest := by
  -- The first exchange is about the first manifest, whether the loop passes it or stops there.
  induction manifests generalizing asked i with
  | nil => simp at hmanifest
  | cons head manifests ih =>
    rcases Action.LoopRun.cons_iff.mp h with ⟨x, failure, rfl, hstop, rfl⟩ |
      ⟨x, rest, rfl, hpass, hrest⟩
    · refine ⟨nofun, fun e he => ?_⟩
      cases i with
      | zero =>
        obtain rfl : head = manifest := by simpa using hmanifest
        obtain rfl : x = e := by simpa using he
        cases hstop
        rfl
      | succ i => simp at he
    · cases i with
      | zero =>
        obtain rfl : head = manifest := by simpa using hmanifest
        refine ⟨fun _ => Nat.succ_pos _, fun e he => ?_⟩
        obtain rfl : x = e := by simpa using he
        cases hpass
        rfl
      | succ i =>
        obtain ⟨hlength, hrequest⟩ := ih hrest (by simpa using hmanifest)
        exact ⟨fun hr => Nat.succ_lt_succ (hlength hr), fun e he => hrequest e (by simpa using he)⟩

/-- A sweep of applications applies each manifest in the exchange at its position. -/
lemma Sweep.request_at {manifests : List Manifest} {t : List (Exchange controlPlane.timed)}
    {r : Except Failure Unit} {manifest : Manifest} {i : ℕ}
    (h : Sweep Applies FailsToApply manifests t r) (hmanifest : manifests[i]? = some manifest) :
    (r = .ok () → i < t.length) ∧
      ∀ e, t[i]? = some e → e.request = .other (ControlPlaneRequest.apply manifest) := by
  cases h with
  | @stopped asked failure loop =>
    obtain ⟨-, hrequest⟩ := loop.request_at hmanifest
    refine ⟨nofun, fun e he => ?_⟩
    rw [List.getElem?_map] at he
    obtain ⟨x, hx, rfl⟩ := Option.map_eq_some_iff.mp he
    exact congrArg TimedRequest.other (hrequest x hx)
  | @completed asked rest r loop lookups =>
    obtain ⟨hlength, hrequest⟩ := loop.request_at hmanifest
    have hi : i < asked.length := hlength rfl
    have hi' : i < (asked.map Exchange.timed).length := by simpa using hi
    refine ⟨fun _ => by rw [List.length_append]; omega, fun e he => ?_⟩
    rw [List.getElem?_append_left hi', List.getElem?_map] at he
    obtain ⟨x, hx, rfl⟩ := Option.map_eq_some_iff.mp he
    exact congrArg TimedRequest.other (hrequest x hx)

namespace Operator

open Installation

/-- What an operator of the whole cluster is told: the namespaces, separated by commas, or a star if
there are none. -/
lemma watchText_clusterWide (profile : OperatorProfile) (watched : List String) :
    (profile.clusterWide watched).watchText =
      if watched = [] then "*" else ",".intercalate watched := by
  unfold OperatorProfile.watchText OperatorProfile.clusterWide
  simp only [List.isEmpty_iff]

/-- An operator of the whole cluster that is installed from manifests is deployed by applying each
manifest in its place, unless an earlier one fails.  Of a deployment among them the body that is
applied has the containers of the given one.  Each that lists its environment, or leaves it out, has
exactly one entry for the watch variable, with the watched namespaces or a star; every other one has
none. -/
theorem deploy_tells_listing_containers {profile : OperatorProfile} {watched : List String}
    {manifests : List Manifest} {settings : Settings} {awaitReady : Bool}
    {t : List (Exchange controlPlane.timed)} {r : Except Failure Unit} {after : Operator} {i : ℕ}
    {manifest : Manifest} (hmethod : profile.installMethod = .manifestFile)
    (hrun : Operator.Yields (deploy awaitReady)
      (ofManifests (profile.clusterWide watched) manifests settings) t r after)
    (hmanifest : manifests[i]? = some manifest) (hkind : manifest.kind = .deployment) :
    (r = .ok () → i < t.length) ∧
      ∀ e, t[i]? = some e →
        ∃ applied, e.request = .other (ControlPlaneRequest.apply applied) ∧
          List.Forall₂
            (ToldWhereListed (if watched = [] then "*" else ",".intercalate watched))
            (containersOf manifest.body) (containersOf applied.body) := by
  obtain ⟨-, hdeploy⟩ | ⟨hnot, -⟩ := deploy_yields_iff.mp hrun
  · have hprepared : (manifests.map (prepare (profile.clusterWide watched)))[i]? =
        some (prepare (profile.clusterWide watched) manifest) := by
      rw [List.getElem?_map, hmanifest]
      rfl
    obtain ⟨hlength, hrequest⟩ := hdeploy.sweep.request_at hprepared
    have htells : TellsOperator (profile.clusterWide watched) manifest := ⟨rfl, hmethod, hkind⟩
    refine ⟨hlength, fun e he => ⟨_, hrequest e he, ?_⟩⟩
    rw [← watchText_clusterWide profile watched]
    exact forall₂_containersOf_prepare htells (toldWhereListed_watchContainer _)
  · exact absurd rfl hnot

end Operator

namespace Preparation.Sample

/-- A container that lists its environment, with two entries for the watch variable. -/
def listing : Json := .object [
  ("env", .array [
    .object [("name", .string "WATCH_NAMESPACE"), ("value", .string "old")],
    .object [("name", .string "MODE"), ("value", .string "test")],
    .object [("name", .string "WATCH_NAMESPACE"), ("valueFrom", .object [])]]),
  ("name", .string "manager")]

/-- A container whose environment is null. -/
def null : Json := .object [("env", .null), ("name", .string "proxy")]

def bare : Json := .object [("name", .string "logger")]

def deploymentOf (containers : List Json) : Manifest where
  kind := .deployment
  scope := none
  name := "operator"
  body := .object [
    ("metadata", .object [("name", .string "operator")]),
    ("spec", .object [("template", .object [("spec", .object [
      ("containers", .array containers)])])])]

def account : Manifest := ⟨.ofApiVersion "v1" "ServiceAccount", none, "operator", .object []⟩

/-- An operator that is installed from manifests and watches the given namespaces. -/
def operator (watched : List String) (manifests : List Manifest) : Operator :=
  Operator.ofManifests (Lifetime.Sample.profile.clusterWide watched) manifests {}

def applied (watched : List String) (manifest : Manifest) : Manifest :=
  Installation.prepare (Lifetime.Sample.profile.clusterWide watched) manifest

/-- The manifest is applied and stored. -/
def application (watched : List String) (manifest : Manifest) : Exchange controlPlane.timed :=
  ⟨.other (.apply (applied watched manifest)),
    .ok ⟨manifest.kind, some "broker", manifest.name, some 1, (applied watched manifest).body⟩⟩

/-- Both entries for the variable go, and the other one stays. -/
example : Installation.containersOf
    (applied ["a", "b"] (deploymentOf [listing, bare, .string "proxy"])).body =
      [.object [
          ("env", .array [
            .object [("name", .string "MODE"), ("value", .string "test")],
            .object [("name", .string "WATCH_NAMESPACE"), ("value", .string "a,b")]]),
          ("name", .string "manager")],
        .object [
          ("env", .array [
            .object [("name", .string "WATCH_NAMESPACE"), ("value", .string "a,b")]]),
          ("name", .string "logger")],
        .string "proxy"] := by
  decide

lemma deployment (watched : List String) (manifest : Manifest) :
    Operator.Yields (Operator.deploy false) (operator watched [account, manifest])
      [application watched account, application watched manifest] (.ok ())
      ((operator watched [account, manifest]).inPhase .deployed) :=
  .ask (.ask (.done _))

end Preparation.Sample

open Preparation in
/-- The operator watches all namespaces, but the container whose environment is null is not told. -/
theorem deploy_leaves_null_environment_untold :
    Operator.Yields (Operator.deploy false)
        (Sample.operator [] [Sample.account, Sample.deploymentOf [Sample.null]])
        [Sample.application [] Sample.account,
          Sample.application [] (Sample.deploymentOf [Sample.null])] (.ok ())
        ((Sample.operator [] [Sample.account, Sample.deploymentOf [Sample.null]]).inPhase
          .deployed) ∧
      Installation.containersOf (Sample.applied [] (Sample.deploymentOf [Sample.null])).body =
        [Sample.null] ∧
      Sample.null.get? "env" = some .null ∧ Installation.watchEntriesOf Sample.null = [] :=
  ⟨Sample.deployment [] _, by decide, rfl, rfl⟩

open Preparation in
/-- Behind a service account, the containers of the deployment are told the namespaces: the one that
lists its environment and the one without, but not the one with a null. -/
theorem deploy_tells_second_manifest_containers :
    Operator.Yields (Operator.deploy false)
        (Sample.operator ["a", "b"]
          [Sample.account, Sample.deploymentOf [Sample.listing, Sample.null, Sample.bare]])
        [Sample.application ["a", "b"] Sample.account,
          Sample.application ["a", "b"]
            (Sample.deploymentOf [Sample.listing, Sample.null, Sample.bare])] (.ok ())
        ((Sample.operator ["a", "b"]
          [Sample.account, Sample.deploymentOf [Sample.listing, Sample.null, Sample.bare]]).inPhase
            .deployed) ∧
      ∃ applied, (Sample.application ["a", "b"]
          (Sample.deploymentOf [Sample.listing, Sample.null, Sample.bare])).request =
            .other (ControlPlaneRequest.apply applied) ∧
        List.Forall₂ (Installation.ToldWhereListed "a,b")
          [Sample.listing, Sample.null, Sample.bare] (Installation.containersOf applied.body) := by
  have hrun := Sample.deployment ["a", "b"]
    (Sample.deploymentOf [Sample.listing, Sample.null, Sample.bare])
  have htold := (Operator.deploy_tells_listing_containers (i := 1) rfl hrun rfl rfl).2 _ rfl
  exact ⟨hrun, htold⟩

end BrokerHarness
