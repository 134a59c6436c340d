import BrokerHarness.Duration

/-!
# Failures

Everything that can go wrong in an operation, by cause. `Failure.message` gives the wording. The two
failures that come from the API server and from typed decoding have no wording of their own: they
carry what their source reports. A report is handed on as it is, and nothing depends on what it
says.
-/

namespace BrokerHarness

/-- Why settings or arguments are refused. -/
inductive SettingsFault where
  /-- A name is to be resolved among no candidates. -/
  | noCandidates
  /-- The time between two evaluations is zero. -/
  | pollNotPositive (description : String)
  /-- The deadline leaves no room for a second evaluation. -/
  | timeoutTooShort (timeout poll : Nat) (description : String)
  /-- No naming policy has this name. -/
  | unknownNamePolicy (text : String)
  /-- No install method has this name. -/
  | unknownInstallMethod (text : String)
  /-- A fault that a collaborator reports in its own words. -/
  | reported (text : String)
deriving DecidableEq, Repr

/-- The wording of a settings fault. -/
def SettingsFault.text : SettingsFault → String
  | noCandidates => "at least one naming candidate is required"
  | pollNotPositive description => s!"poll interval must be positive ({description})"
  | timeoutTooShort timeout poll description =>
    "timeout " ++ Duration.text timeout ++ " must exceed poll interval " ++ Duration.text poll ++
      s!" ({description})"
  | unknownNamePolicy text => s!"unknown name policy '{text}'"
  | unknownInstallMethod text => s!"unknown operator install method '{text}'"
  | reported text => text

/-- Why an object body is no manifest. -/
inductive ManifestFault where
  /-- There is no text, or an empty one, at the end of this path. -/
  | missing (path : List String)
  /-- The object has no namespace. -/
  | notNamespaced (kind name : String)
  /-- A fault that a collaborator reports in its own words. -/
  | reported (text : String)
deriving DecidableEq, Repr

/-- The wording of a manifest fault. -/
def ManifestFault.text : ManifestFault → String
  | missing path => "missing " ++ String.join (path.map ("/" ++ ·))
  | notNamespaced kind name => s!"{kind} {name} is not namespaced"
  | reported text => text

/-- What can go wrong in an operation. -/
inductive Failure where
  /-- Settings or arguments are refused. -/
  | badSettings (fault : SettingsFault)
  /-- A condition was not met before the deadline. -/
  | deadlinePassed (description : String) (elapsed : Nat) (lastObserved : String)
  /-- Several objects exist where one name is looked for. -/
  | severalNames (candidates : List String)
  /-- A status condition is not the expected one. -/
  | conditionDiffers (conditionType expected observed : String)
  /-- The object is not on the cluster. -/
  | notFound (kind ns name : String)
  /-- The operation does not fit the state of the operator. -/
  | wrongPhase (operation state : String)
  /-- A body cannot be addressed as an object. -/
  | badManifest (fault : ManifestFault)
  /-- The API server refused a request with this code, or a request got no usable answer. -/
  | apiServer (code : Option Nat) (report : String)
  /-- A value does not fit the typed structure that it is read as. -/
  | malformed (report : String)
deriving DecidableEq, Repr

namespace Failure

/-- Whether a failure is a missed deadline. -/
def isDeadlinePassed : Failure → Bool
  | deadlinePassed .. => true
  | _ => false

/-- Whether a failure says that an object is not on the cluster. -/
def isNotFound : Failure → Bool
  | notFound .. => true
  | _ => false

/-- The wording of a failure that has one. -/
def message : Failure → Option String
  | badSettings fault => some ("Invalid configuration: " ++ fault.text)
  | deadlinePassed description elapsed lastObserved =>
    some ("Timed out after " ++ Duration.text elapsed ++
      s!" {description} (last observed: {lastObserved})")
  | severalNames candidates =>
    some ("Ambiguous name, several candidates exist: " ++ ", ".intercalate candidates)
  | conditionDiffers conditionType expected observed =>
    some s!"Condition {conditionType} does not match: expected {expected}, observed {observed}"
  | notFound kind ns name => some s!"{kind} {ns}/{name} not found"
  | wrongPhase operation state => some s!"Cannot {operation} while operator is {state}"
  | badManifest fault => some ("Invalid manifest: " ++ fault.text)
  | apiServer .. => none
  | malformed _ => none

end Failure

end BrokerHarness
