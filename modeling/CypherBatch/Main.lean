import CypherBatch.CommandLine
import Std.Time.DateTime.Timestamp

/-!
# The loader as a program

Loads a graph document named on the command line.  A dry run prints the
statements.  The program has no network of its own: outside a dry run, every
request meets a server that refuses the connection.
-/

namespace CypherBatch
namespace Loader

def Error.message : Error → String
  | .noFile => "the document cannot be read"
  | .directory => "the document is a directory"
  | .unreadable _ => "the document is not JSON"
  | .notObject => "an object is expected"
  | .notItems => "a list is expected"
  | .itemCount => "an entry has the wrong number of items"
  | .identity e => e.message?.getD "the name of a field is expected"
  | .compose (.shape e) => e.message
  | .compose (.label e) => e.message
  | .compose (.groupCount given) =>
      "an edge has three groups, not " ++ Decimal.naturalText given
  | .start e => e.message?.getD "the address of the server cannot be used"
  | .submit .badAddress => "the address of the server cannot be used"
  | .submit .timeout => "the server does not answer"
  | .submit .refused => "the connection is refused"
  | .submit (.status code) => "the server answers with status " ++ Decimal.integerText code
  | .submit (.unreadable _) => "the statements or the answer are not JSON"
  | .submit (.invalid _) => "the answer has another form than expected"
  | .submit e => e.message?.getD "the statements cannot be run"

end Loader

namespace Program

/-- The environment variables that hold settings. -/
def environment : IO (List (String × String)) := do
  let names := Settings.fieldNames.map fun name => "NEO4J_" ++ name.map Char.toUpper
  let values ← names.mapM fun name => return (name, ← IO.getEnv name)
  return values.filterMap fun (name, value) => value.map fun value => (name, value)

def now : IO Instant := do
  let t ← Std.Time.Timestamp.now
  return ⟨t.toNanosecondsSinceUnixEpoch.val / 1000⟩

/-- What is found under a path. -/
def source (path : String) : IO Loader.Source := do
  try return .file (← IO.FS.readFile path)
  catch
    | .inappropriateType .. => return .directory
    | _ => return .nothing

def load (path : String) (options : Loader.Options) : IO UInt32 := do
  match Settings.load (← environment) [] with
  | .error issues =>
      for issue in issues do
        IO.eprintln ("settings: " ++ issue.kind.name)
      return 1
  | .ok settings =>
      let report := Loader.load settings options (← now) [.refused, .refused] (← source path)
      for line in report.log do
        IO.eprintln line.text
      for query in report.printed do
        IO.println query
      match report.result with
      | .ok _ => return 0
      | .error e =>
          IO.eprintln e.message
          return 1

end Program
end CypherBatch

open CypherBatch in
def main (args : List String) : IO UInt32 := do
  match CommandLine.parse args with
  | .error e =>
      IO.eprintln CommandLine.usage
      IO.eprintln ("error: " ++ e.message)
      return 2
  | .ok .help =>
      IO.println CommandLine.usage
      return 0
  | .ok (.load path options) => Program.load path options
