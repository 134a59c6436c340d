import BrokerHarness.Program
import BrokerHarness.Text.Lowercase

/-!
# Name resolution

An object may go by one of several names, depending on the release that made it. A resolver looks
for the name among candidates, newest convention first. Once it has found the name it keeps it and
asks nothing any more, whatever exists by then; until then every attempt starts afresh.
-/

namespace BrokerHarness

/-- What to do when more than one candidate exists. -/
inductive NamePolicy where
  /-- The first candidate that exists is the name. -/
  | preferNewest
  /-- Every candidate is checked, and more than one that exists is a failure. -/
  | requireUnique
deriving DecidableEq, Repr

/-- The policy with a name, in any case. -/
def NamePolicy.ofText (text : String) : Except Failure NamePolicy :=
  let lower := Text.lowercase text
  if lower = "prefer-newest" ∨ lower = "newest" then .ok .preferNewest
  else if lower = "require-unique" ∨ lower = "unique" then .ok .requireUnique
  else .error (.badSettings (.unknownNamePolicy lower))

/-- The question whether an object with a name exists. -/
def existence : Interface := ⟨String, fun _ => Except Failure Bool⟩

/-- Asks whether an object with a name exists. -/
def askExists (name : String) : Action existence Bool :=
  ExceptT.mk (Program.request (I := existence) name)

/-- The first name that exists; names behind it are not asked for. -/
def firstExisting : List String → Action existence (Option String)
  | [] => return none
  | name :: rest => do
    if ← askExists name then return some name else firstExisting rest

/-- All names that exist, in their order; each is asked for. -/
def allExisting : List String → Action existence (List String)
  | [] => return []
  | name :: rest => do
    if ← askExists name then return name :: (← allExisting rest) else allExisting rest

/-- The name that a policy selects among candidates, none if no candidate exists. -/
def NamePolicy.search (policy : NamePolicy) (candidates : List String) :
    Action existence (Option String) :=
  match policy with
  | .preferNewest => firstExisting candidates
  | .requireUnique => do
    match ← allExisting candidates with
    | [] => return none
    | [name] => return some name
    | several => throw (.severalNames several)

/-- A resolver: its candidates, the newest convention first, what to do when several of them exist,
and the name once it is found. -/
structure Resolver where
  candidates : List String
  policy : NamePolicy
  resolved : Option String := none
  candidates_ne_nil : candidates ≠ []

namespace Resolver

/-- The resolver for candidates, of which there must be one. -/
def ofCandidates (candidates : List String) (policy : NamePolicy) : Except Failure Resolver :=
  if h : candidates = [] then .error (.badSettings .noCandidates)
  else .ok { candidates, policy, candidates_ne_nil := h }

/-- One attempt to find the name: the name that is kept, without a question, or else the outcome of
a search, none if no candidate exists yet. -/
def attempt (resolver : Resolver) : Action existence (Option String) :=
  match resolver.resolved with
  | some name => return some name
  | none => resolver.policy.search resolver.candidates

/-- The resolver with a name that was found, unless it keeps one already. -/
def keep (resolver : Resolver) (name : String) : Resolver :=
  { resolver with resolved := some (resolver.resolved.getD name) }

/-- The end of an attempt: a name that was found is kept unless another attempt was faster, and the
name that is kept is the result. -/
def settle (resolver : Resolver) :
    Except Failure (Option String) → Except Failure (Option String) × Resolver
  | .error failure => (.error failure, resolver)
  | .ok none => (.ok none, resolver)
  | .ok (some name) => (.ok (resolver.keep name).resolved, resolver.keep name)

/-- Attempts to find the name and keeps it. -/
def resolve (resolver : Resolver) :
    Program existence (Except Failure (Option String) × Resolver) :=
  resolver.attempt.run.bind fun found => .done (resolver.settle found)

end Resolver

end BrokerHarness
