import BrokerHarness.Text.Lowercase
import BrokerHarness.Text.Occurrence

/-!
# Kinds and addresses of objects

A kind is known by its group, version, name and plural. For kinds that the library does not know the
plural is guessed from the name by the rules of English spelling.
-/

namespace BrokerHarness

/-- A type of objects on a cluster. The group is empty for the core group, and the plural stands in
addresses. -/
structure ObjectKind where
  group : String
  version : String
  name : String
  plural : String
deriving DecidableEq, Repr

namespace ObjectKind

/-- Deployments. -/
def deployment : ObjectKind := ⟨"apps", "v1", "Deployment", "deployments"⟩

/-- Pods. -/
def pod : ObjectKind := ⟨"", "v1", "Pod", "pods"⟩

/-- Stateful sets. -/
def statefulSet : ObjectKind := ⟨"apps", "v1", "StatefulSet", "statefulsets"⟩

/-- Claims to persistent volumes. -/
def persistentVolumeClaim : ObjectKind :=
  ⟨"", "v1", "PersistentVolumeClaim", "persistentvolumeclaims"⟩

/-- Brokers. -/
def broker : ObjectKind := ⟨"broker.amq.io", "v1beta1", "ActiveMQArtemis", "activemqartemises"⟩

/-- Addresses of brokers. -/
def brokerAddress : ObjectKind :=
  ⟨"broker.amq.io", "v1beta1", "ActiveMQArtemisAddress", "activemqartemisaddresses"⟩

/-- Whether a text ends in one of the given ways. -/
def endsInAny (endings : List String) (cs : List Char) : Bool :=
  endings.any fun ending => ending.toList.isSuffixOf cs

/-- The plural of a word in lower case: `es` behind a hissing sound, `ies` for a `y` behind a
consonant, else `s`. -/
def pluralOf (cs : List Char) : List Char :=
  if endsInAny ["s", "x", "ch", "sh"] cs then cs ++ ['e', 's']
  else
    match Text.stripEnd? ['y'] cs with
    | some stem =>
      if endsInAny ["a", "e", "i", "o", "u"] stem then cs ++ ['s'] else stem ++ ['i', 'e', 's']
    | none => cs ++ ['s']

/-- The kind with an API version, which is a version behind its group and a slash, or a version of
the core group alone. The plural is guessed. -/
def ofApiVersion (apiVersion name : String) : ObjectKind :=
  let cs := apiVersion.toList
  let plural := String.ofList (pluralOf (Text.lowerChars false name.toList))
  match cs.dropWhile (· ≠ '/') with
  | [] => { group := "", version := apiVersion, name, plural }
  | _ :: version =>
    { group := String.ofList (cs.takeWhile (· ≠ '/'))
      version := String.ofList version
      name, plural }

/-- The API version: group and version with a slash, the version alone for the core group. -/
def apiVersion (kind : ObjectKind) : String :=
  if kind.group.isEmpty then kind.version else kind.group ++ "/" ++ kind.version

end ObjectKind

/-- The address of one object. It has no scope if it is an object of the whole cluster, and else a
namespace. -/
structure ObjectAddress where
  kind : ObjectKind
  scope : Option String
  name : String
deriving DecidableEq, Repr

/-- The text of an address: kind, namespace and name. -/
def ObjectAddress.text (target : ObjectAddress) : String :=
  match target.scope with
  | some ns => s!"{target.kind.name} {ns}/{target.name}"
  | none => s!"{target.kind.name} {target.name}"

end BrokerHarness
