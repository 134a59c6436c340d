import BrokerHarness.Proofs.Json.Edit
import Mathlib.Data.Set.Insert

/-!
# What a change leaves alone

A place in a value is reached by steps into the members of objects and the items of lists.  Two
values differ only at some places (`DiffersOnlyAt`) if they agree at every depth everywhere else:
whatever stands beside these places is equal, and whatever stands above them has the same shape, so
no list gets longer and no object turns into something else on the way.

A place that is missing in one of the values and there in the other counts as a difference, so the
relation covers insertions and removals too.  It is proved one step at a time (`of_steps`); each
change of a value then has one lemma, and a chain of changes is put together by `trans` and `mono`.
-/

namespace BrokerHarness.Json

/-! ### Places -/

/-- A step from a value into one of its parts. -/
inductive Step where
  /-- Into the value under a key of an object. -/
  | member (key : String)
  /-- Into an item of a list. -/
  | item (index : Nat)
deriving DecidableEq

/-- The part that a step leads to. -/
def step? : Step → Json → Option Json
  | .member key, v => v.get? key
  | .item index, v => v.array?.bind fun items => items[index]?

/-- The value at the end of a path of steps. -/
def follow? : List Step → Json → Option Json
  | [], v => some v
  | step :: path, v => (v.step? step).bind (follow? path)

/-- The path into the members of objects with the given keys. -/
def memberPath (path : List String) : List Step := path.map .member

/-- The outermost layer of a value: a scalar itself, a list by its length, an object as one. -/
def shape : Json → Json
  | .array items => .array (items.map fun _ => .null)
  | .object _ => .object []
  | v => v

/-- The values agree everywhere but at the target places and below them. -/
structure DiffersOnlyAt (targets : Set (List Step)) (old new : Json) : Prop where
  /-- Beside the targets the values are equal. -/
  beside : ∀ path, (∀ target ∈ targets, ¬ target <+: path ∧ ¬ path <+: target) →
    new.follow? path = old.follow? path
  /-- Above the targets the values have the same shape. -/
  above : ∀ path, (∀ target ∈ targets, ¬ target <+: path) →
    (new.follow? path).map shape = (old.follow? path).map shape

variable {targets larger : Set (List Step)} {old mid new v : Json} {f : Json → Json} {key : String}

/-- A path of keys is followed like any other. -/
lemma follow?_memberPath (path : List String) (v : Json) :
    v.follow? (memberPath path) = v.at? path := by
  induction path generalizing v with
  | nil => rfl
  | cons key path ih =>
    change (v.get? key).bind (follow? (memberPath path)) = (v.get? key).bind (at? path)
    exact Option.bind_congr fun w _ => ih w

namespace DiffersOnlyAt

/-! ### The relation -/

lemma refl (targets : Set (List Step)) (v : Json) : DiffersOnlyAt targets v v :=
  ⟨fun _ _ => rfl, fun _ _ => rfl⟩

/-- What two changes leave alone is left alone by both, one after the other. -/
lemma trans (h : DiffersOnlyAt targets old mid) (h' : DiffersOnlyAt targets mid new) :
    DiffersOnlyAt targets old new where
  beside path hpath := (h'.beside path hpath).trans (h.beside path hpath)
  above path hpath := (h'.above path hpath).trans (h.above path hpath)

/-- A change that is confined to some places is confined to more. -/
lemma mono (h : DiffersOnlyAt targets old new) (hsub : targets ⊆ larger) :
    DiffersOnlyAt larger old new where
  beside path hpath := h.beside path fun target htarget => hpath target (hsub htarget)
  above path hpath := h.above path fun target htarget => hpath target (hsub htarget)

/-- Beside the targets the same stands behind keys. -/
lemma at?_eq (h : DiffersOnlyAt targets old new) {path : List String}
    (hpath : ∀ target ∈ targets, ¬ target <+: memberPath path ∧ ¬ memberPath path <+: target) :
    new.at? path = old.at? path := by
  rw [← follow?_memberPath, ← follow?_memberPath]
  exact h.beside _ hpath

/-- Values of one shape differ at targets only if each step leads to a target, or to equal parts, or
to parts that differ at the rest of the targets behind the step. -/
lemma of_steps (hne : targets.Nonempty) (hshape : new.shape = old.shape)
    (hsteps : ∀ step, [step] ∈ targets ∨ new.step? step = old.step? step ∨
      ∃ a b, old.step? step = some a ∧ new.step? step = some b ∧
        DiffersOnlyAt {path | step :: path ∈ targets} a b) :
    DiffersOnlyAt targets old new := by
  constructor
  · intro path hpath
    cases path with
    -- The empty path stands above every target, and there is one.
    | nil =>
      obtain ⟨target, htarget⟩ := hne
      exact absurd List.nil_prefix (hpath target htarget).2
    | cons step path =>
      rcases hsteps step with htarget | hsame | ⟨a, b, ha, hb, hdiffers⟩
      · have hreached : [step] <+: step :: path := List.prefix_append [step] path
        exact absurd hreached (hpath _ htarget).1
      · rw [follow?, follow?, hsame]
      · rw [follow?, follow?, ha, hb]
        refine hdiffers.beside path fun target htarget => ?_
        obtain ⟨hbelow, habove⟩ := hpath _ htarget
        rw [List.cons_prefix_cons] at hbelow habove
        exact ⟨fun h => hbelow ⟨rfl, h⟩, fun h => habove ⟨rfl, h⟩⟩
  · intro path hpath
    cases path with
    | nil => simp [follow?, hshape]
    | cons step path =>
      rcases hsteps step with htarget | hsame | ⟨a, b, ha, hb, hdiffers⟩
      · have hreached : [step] <+: step :: path := List.prefix_append [step] path
        exact absurd hreached (hpath _ htarget)
      · rw [follow?, follow?, hsame]
      · rw [follow?, follow?, ha, hb]
        refine hdiffers.above path fun target htarget hbelow => ?_
        exact hpath _ htarget (List.cons_prefix_cons.mpr ⟨rfl, hbelow⟩)

end DiffersOnlyAt

/-! ### The changes -/

open DiffersOnlyAt in
/-- Objects that agree under all other keys differ under the key only. -/
lemma differsOnlyAt_member {fields fields' : List (String × Json)}
    (h : ∀ other, other ≠ key → lookup other fields' = lookup other fields) :
    DiffersOnlyAt {[.member key]} (.object fields) (.object fields') := by
  refine of_steps (Set.singleton_nonempty _) rfl fun step => ?_
  cases step with
  | item index => exact .inr (.inl rfl)
  | member other =>
    by_cases hother : other = key
    · subst hother
      exact .inl rfl
    · exact .inr (.inl (h other hother))

/-- An insertion changes the inserted field only. -/
lemma differsOnlyAt_insert (v : Json) (key : String) (value : Json) :
    DiffersOnlyAt {[.member key]} v (v.insert key value) := by
  cases v with
  | object fields =>
    exact differsOnlyAt_member fun other hother => lookup_insertField_of_ne hother value fields
  | _ => exact .refl _ _

/-- An erasure changes the erased field only. -/
lemma differsOnlyAt_erase (v : Json) (key : String) :
    DiffersOnlyAt {[.member key]} v (v.erase key) := by
  cases v with
  | object fields =>
    exact differsOnlyAt_member fun other hother => lookup_eraseField_of_ne hother fields
  | _ => exact .refl _ _

/-- Erasures one after the other change the erased fields only. -/
lemma differsOnlyAt_foldl_erase (keys : List String) (v : Json) :
    DiffersOnlyAt {path | ∃ key ∈ keys, path = [.member key]} v
      (keys.foldl (fun acc key => acc.erase key) v) := by
  induction keys generalizing v with
  | nil => exact .refl _ _
  | cons key keys ih =>
    have hfirst := differsOnlyAt_erase v key
    have hrest := ih (v.erase key)
    refine (hfirst.mono ?_).trans (hrest.mono ?_)
    · rintro path rfl
      exact ⟨key, List.mem_cons_self, rfl⟩
    · rintro path ⟨other, hother, rfl⟩
      exact ⟨other, List.mem_cons_of_mem _ hother, rfl⟩

/-- A change under a key changes the places below the key that the change of the field does. -/
lemma differsOnlyAt_modify (v : Json) (key : String) (hne : targets.Nonempty)
    (h : ∀ w, v.get? key = some w → DiffersOnlyAt targets w (f w)) :
    DiffersOnlyAt {path | ∃ target ∈ targets, path = .member key :: target} v
      (v.modify key f) := by
  obtain ⟨target, htarget⟩ := hne
  have hshape : (v.modify key f).shape = v.shape := by cases v <;> rfl
  refine .of_steps ⟨_, target, htarget, rfl⟩ hshape fun step => .inr ?_
  cases step with
  | item index =>
    left
    cases v <;> rfl
  | member other =>
    by_cases hother : other = key
    · subst hother
      cases hv : v.get? other with
      | none => exact .inl (by simp [step?, hv])
      | some w =>
        refine .inr ⟨w, f w, hv, by simp [step?, hv], (h w hv).mono ?_⟩
        exact fun target htarget => ⟨target, htarget, rfl⟩
    · exact .inl (get?_modify_of_ne hother)

/-- A change at a path changes the places below it that the change of the value there does. -/
lemma differsOnlyAt_modifyAt (v : Json) (path : List String) (hne : targets.Nonempty)
    (h : ∀ w, v.at? path = some w → DiffersOnlyAt targets w (f w)) :
    DiffersOnlyAt {place | ∃ target ∈ targets, place = memberPath path ++ target} v
      (v.modifyAt path f) := by
  induction path generalizing v with
  | nil => exact (h v rfl).mono fun target htarget => ⟨target, htarget, rfl⟩
  | cons key path ih =>
    have hbehind : {place | ∃ target ∈ targets, place = memberPath path ++ target}.Nonempty := by
      obtain ⟨target, htarget⟩ := hne
      exact ⟨memberPath path ++ target, target, htarget, rfl⟩
    have hinner : ∀ w, v.get? key = some w →
        DiffersOnlyAt {place | ∃ target ∈ targets, place = memberPath path ++ target} w
          (w.modifyAt path f) := by
      intro w hw
      exact ih w fun x hx => h x (by rw [at?, hw]; exact hx)
    refine (differsOnlyAt_modify v key hbehind hinner).mono ?_
    rintro place ⟨_, ⟨target, htarget, rfl⟩, rfl⟩
    exact ⟨target, htarget, rfl⟩

/-- A change of all items of a list changes the places in each of them that the change of the item
does. -/
lemma differsOnlyAt_map {items : List Json} (hne : targets.Nonempty)
    (h : ∀ item ∈ items, DiffersOnlyAt targets item (f item)) :
    DiffersOnlyAt {path | ∃ index, ∃ target ∈ targets, path = .item index :: target}
      (.array items) (.array (items.map f)) := by
  obtain ⟨target, htarget⟩ := hne
  have hshape : (array (items.map f)).shape = (array items).shape := by
    simp only [shape, List.map_map, Function.comp_def]
  refine .of_steps ⟨_, 0, target, htarget, rfl⟩ hshape fun step => .inr ?_
  cases step with
  | member key => exact .inl rfl
  | item index =>
    have hnew : (array (items.map f)).step? (.item index) = items[index]?.map f :=
      List.getElem?_map
    cases hitem : items[index]? with
    | none =>
      rw [hitem] at hnew
      exact .inl (hnew.trans hitem.symm)
    | some item =>
      rw [hitem] at hnew
      refine .inr ⟨item, f item, hitem, hnew, ?_⟩
      refine (h item (List.mem_of_getElem? hitem)).mono ?_
      exact fun target htarget => ⟨index, target, htarget, rfl⟩

end BrokerHarness.Json
