import BrokerHarness.Artifact.FileTree
import BrokerHarness.Settings

/-!
# Artifact directories

Each test leaves its data in a directory of its own below the directory for test data, named for the
class and the method of the test. Nothing is made when tests leave no data.
-/

namespace BrokerHarness

/-- A test, with what the settings say about the data that it leaves. -/
structure TestContext where
  className : String
  method : String
  logsDir : String
  collectTestData : Bool
deriving DecidableEq, Repr

/-- What preparing the directory of a test leads to. -/
inductive ArtifactPreparation where
  /-- Tests leave no data. -/
  | switchedOff
  /-- The directory at this path is there. -/
  | ready (path : String)
  /-- The directory could not be made. -/
  | failed
deriving DecidableEq, Repr

namespace TestContext

/-- A test under the settings. -/
def ofSettings (className method : String) (settings : Settings) : TestContext where
  className := className
  method := method
  logsDir := settings.logsDir
  collectTestData := settings.collectTestData

/-- The directory of the test. -/
def directory (context : TestContext) : String :=
  FilePath.join (FilePath.join context.logsDir context.className) context.method

/-- Makes the directory of the test, if tests leave data. -/
def prepare (context : TestContext) (tree : FileTree) :
    ArtifactPreparation × FileTree :=
  if context.collectTestData then
    match tree.ensure context.directory with
    | (true, left) => (.ready context.directory, left)
    | (false, left) => (.failed, left)
  else (.switchedOff, tree)

end TestContext

end BrokerHarness
