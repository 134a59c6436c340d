import BrokerHarness.Duration
import BrokerHarness.NameResolution
import BrokerHarness.Text.Digits

/-!
# Settings

The settings of a test suite, with their defaults. Environment variables override them, which is how
slower clusters get longer deadlines. A variable whose value cannot be read leaves the default.
-/

namespace BrokerHarness

/-- How the operator gets onto the cluster. -/
inductive InstallMethod where
  /-- Through a package manager on the cluster. -/
  | packageManaged
  /-- From the operator's install manifests. -/
  | manifestFile
deriving DecidableEq, Repr

/-- The install method with a name, in any case. -/
def InstallMethod.ofText (text : String) : Except Failure InstallMethod :=
  let lower := Text.lowercase text
  if ["olm", "bundle", "package", "package-managed"].contains lower then .ok .packageManaged
  else if ["manifest", "file", "manifest-file"].contains lower then .ok .manifestFile
  else .error (.badSettings (.unknownInstallMethod lower))

/-- The settings of a test suite. All times are in seconds. The poll interval lies between two looks
at what is waited for, the timeout of the operator is the deadline of each stage of its deployment
and of its undeployment, and the other timeouts are the deadlines for a resource that is created,
updated or deleted. -/
structure Settings where
  pollIntervalSecs : Nat := 5
  operatorTimeoutSecs : Nat := 180
  readyTimeoutSecs : Nat := 180
  updateTimeoutSecs : Nat := 120
  deleteTimeoutSecs : Nat := 180
  operatorBaseName : String := "activemq-artemis"
  installMethod : InstallMethod := .manifestFile
  namePolicy : NamePolicy := .preferNewest
  logsDir : String := "test-logs"
  collectTestData : Bool := true
  logLevel : String := "INFO"
  logFormat : String := "text"
deriving DecidableEq, Repr

namespace Settings

/-- The time between two looks at what is waited for. -/
def pollInterval (settings : Settings) : Nat := Duration.ofSeconds settings.pollIntervalSecs

/-- The deadline of each stage of deploying the operator, and of undeploying it. -/
def operatorTimeout (settings : Settings) : Nat := Duration.ofSeconds settings.operatorTimeoutSecs

/-- The deadline for a created resource to get ready. -/
def readyTimeout (settings : Settings) : Nat := Duration.ofSeconds settings.readyTimeoutSecs

/-- The deadline for an updated resource to get ready again. -/
def updateTimeout (settings : Settings) : Nat := Duration.ofSeconds settings.updateTimeoutSecs

/-- The deadline for a deleted resource to disappear. -/
def deleteTimeout (settings : Settings) : Nat := Duration.ofSeconds settings.deleteTimeoutSecs

/-- The names that the operator's deployment may go by, the newest convention first. -/
def operatorNames (settings : Settings) : List String :=
  [settings.operatorBaseName ++ "-controller-manager", settings.operatorBaseName ++ "-operator"]

/-- Reads a number of seconds: decimal digits, perhaps behind a plus sign, of at most 64 bits. -/
def seconds? (text : String) : Option Nat :=
  let digits := match text.toList with
    | '+' :: rest => rest
    | cs => cs
  if digits.isEmpty ∨ ¬ digits.all Char.isDigit then none
  else
    let n := Text.digitsValue digits
    if n < 18446744073709551616 then some n else none

/-- Reads a switch; every text that does not turn it on turns it off. -/
def switch (text : String) : Bool := ["true", "1", "yes", "on"].contains (Text.lowercase text)

/-- The settings that environment variables give; `env` looks up a variable that is set. -/
def ofEnvironment (env : String → Option String) : Settings :=
  let defaults : Settings := {}
  let secs (name : String) (default : Nat) : Nat := ((env name).bind seconds?).getD default
  { pollIntervalSecs := secs "POLL_INTERVAL_SECS" defaults.pollIntervalSecs
    operatorTimeoutSecs := secs "OPERATOR_TIMEOUT_SECS" defaults.operatorTimeoutSecs
    readyTimeoutSecs := secs "RESOURCE_READY_TIMEOUT_SECS" defaults.readyTimeoutSecs
    updateTimeoutSecs := secs "RESOURCE_UPDATE_TIMEOUT_SECS" defaults.updateTimeoutSecs
    deleteTimeoutSecs := secs "RESOURCE_DELETE_TIMEOUT_SECS" defaults.deleteTimeoutSecs
    operatorBaseName := (env "OPERATOR_BASE_NAME").getD defaults.operatorBaseName
    installMethod :=
      ((env "OPERATOR_INSTALL_METHOD").bind fun text =>
        (InstallMethod.ofText text).toOption).getD defaults.installMethod
    namePolicy :=
      ((env "OPERATOR_NAME_POLICY").bind fun text =>
        (NamePolicy.ofText text).toOption).getD defaults.namePolicy
    logsDir := (env "LOGS_DIR").getD defaults.logsDir
    collectTestData :=
      ((env "COLLECT_TEST_DATA").map switch).getD defaults.collectTestData
    logLevel := (env "LOG_LEVEL").getD defaults.logLevel
    logFormat := (env "LOG_FORMAT").getD defaults.logFormat }

end Settings

end BrokerHarness
