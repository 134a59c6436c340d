import BrokerHarness.NameResolution

/-!
# Simulated existence checks

The names that exist at one moment, as a resolver finds them by its checks.
-/

namespace BrokerHarness

/-- The names that exist at one moment, and those whose check fails. -/
structure KnownNames where
  existing : List String
  failing : List (String × Failure) := []

namespace KnownNames

/-- The outcome of the check of one name. -/
def check (known : KnownNames) (name : String) : Except Failure Bool :=
  match known.failing.find? (·.1 = name) with
  | some (_, failure) => .error failure
  | none => .ok (known.existing.contains name)

/-- Answers the check of a name and keeps the name, behind those that were asked before. -/
def answer (known : KnownNames) (name : String) (asked : List String) :
    Except Failure Bool × List String :=
  (known.check name, asked ++ [name])

/-- One attempt of a resolver: its outcome, the resolver behind it, and the names that were
asked. -/
def resolve (known : KnownNames) (resolver : Resolver) :
    (Except Failure (Option String) × Resolver) × List String :=
  resolver.resolve.runWith known.answer []

end KnownNames

end BrokerHarness
