import StackPanel.CommandLine.Program
import StackPanel.Text.Pieces

/-! The file that a pod description is read from. -/

namespace StackPanel.CommandLine

/-- Where a pod description comes from. -/
inductive PodSpecFile where
  | input
  | file (path : String)
  deriving DecidableEq

namespace PodSpecFile

/-- Whether a path is a single dash, up to separators and dots at its end. -/
def isDash (path : String) : Bool :=
  match Text.splitOn '/' path.toList with
  | ['-'] :: rest => rest.all fun part => part.isEmpty || part = ['.']
  | _ => false

/-- The source of a path: a dash stands for whatever is typed. -/
def ofPath (path : String) : PodSpecFile :=
  if isDash path then .input else .file path

/-- The wording when a source cannot be read. -/
def failure : PodSpecFile → String
  | .input => "Failed to read pod spec from stdin"
  | .file path => "Failed to read pod spec at " ++ path

/-- The text that was found, or the wording of the failure. -/
def take (source : PodSpecFile) : Reading → Except String String
  | .content text => .ok text
  | _ => .error source.failure

/-- Reads a pod description. -/
def read (source : PodSpecFile) : Program (Except String String) :=
  match source with
  | .input => .readInput fun found => .done (source.take found)
  | .file path => .read path fun found => .done (source.take found)

end PodSpecFile

end StackPanel.CommandLine
