/-!
# Request targets

A target says where a request goes, and what it asks for in a query behind a question mark. What
follows a number sign is no part of it. Targets are written as they are, so a name may bring a query
of its own into a target, or end it early. A character that has no place in a target is not encoded,
and makes the whole text none.
-/

namespace BrokerHarness

/-- Where a request goes: a path, and a query, which may be empty. -/
structure Target where
  path : String
  query : String
deriving DecidableEq, Repr

namespace Target

/-- The greatest size of a text of a target, in bytes. -/
def greatestSize : Nat := 65534

/-- Whether a character may stand somewhere in a target: it is neither a blank nor a control
character of ASCII, nor an angle bracket. -/
def isTargetChar (c : Char) : Bool := '!' ≤ c && c ≠ '<' && c ≠ '>' && c ≠ '\x7f'

/-- Whether a character may stand in a path. -/
def isPathChar (c : Char) : Bool := isTargetChar c && c ≠ '\x60'

/-- Whether a character may stand in a query. -/
def isQueryChar (c : Char) : Bool := isTargetChar c && c ≠ '"'

/-- The target that a text denotes. -/
def ofText? (text : String) : Option Target :=
  let cs := text.toList
  let path := cs.takeWhile fun c => c ≠ '?' ∧ c ≠ '#'
  let query := match cs.drop path.length with
    | '?' :: rest => rest.takeWhile (· ≠ '#')
    | _ => []
  if text.utf8ByteSize ≤ greatestSize ∧ path.all isPathChar ∧ query.all isQueryChar then
    some { path := .ofList path, query := .ofList query }
  else none

/-- A text cut at every `mark`. -/
def cut (mark : Char) : List Char → List (List Char)
  | [] => [[]]
  | c :: rest =>
    if c = mark then [] :: cut mark rest
    else match cut mark rest with
      | piece :: pieces => (c :: piece) :: pieces
      | [] => [[c]]

/-- The items of a query that are not empty, in their order. -/
def items (target : Target) : List String :=
  ((cut '&' target.query.toList).filter fun item => ¬ item.isEmpty).map String.ofList

end Target

end BrokerHarness
