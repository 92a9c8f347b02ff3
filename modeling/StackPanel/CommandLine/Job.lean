import StackPanel.Action.Dispatcher
import StackPanel.CommandLine.Arguments
import StackPanel.CommandLine.PodSpecFile

/-! Carrying out a single action from the command line. -/

namespace StackPanel.CommandLine

namespace Job

/-- The action of a job. -/
def action : Job → ActionId
  | .health => .health
  | .stats => .stats
  | .list => .listStacks
  | .get _ => .getStack
  | .status _ => .getStatus
  | .delete _ => .deleteStack
  | .create _ _ => .createStack

/-- The file that a job takes a pod description from. -/
def podSpecFile? : Job → Option PodSpecFile
  | .create _ (some path) => some (.ofPath path)
  | _ => none

/-- The field that a job puts its argument into, and the argument. -/
def input? : Job → Option (Field × String)
  | .health | .stats | .list => none
  | .get id | .status id | .delete id => some (.stackId, id)
  | .create ports _ => some (.targetPort, ports)

/-- Puts a text into a field of a panel, if there is one. A choice that this changes is written to
its file. -/
def fill (path : String) (panel : Panel) : Option (Field × String) → Program Panel
  | none => .done panel
  | some (field, text) => Program.save path (panel.setInput field text)

/-- Fills in the fields of a panel for a job: first its argument, then the pod description that it
reads, if it reads one. -/
def prepare (job : Job) (path : String) (panel : Panel) : Program (Except String Panel) :=
  (fill path panel job.input?).bind fun panel =>
    match job.podSpecFile? with
    | none => .done (.ok panel)
    | some source => source.read.bind fun
      | .error message => .done (.error message)
      | .ok text => (fill path panel (some (.podSpec, text))).bind fun panel => .done (.ok panel)

end Job

/-- How a job ended. -/
structure Report where
  /-- Whether its action succeeded. -/
  succeeded : Bool
  /-- What to print. -/
  text : String
  deriving DecidableEq

/-- The report of a job once its action has ended: the record, and after a creation the new id. -/
def Job.report (job : Job) (panel : Panel) : Report :=
  let record := panel.console.text ++ "\n"
  if panel.console.state = .error then { succeeded := false, text := record }
  else if job.action = .createStack && !panel.inputs.lastStackId.isEmpty then
    { succeeded := true, text := record ++ "\nstack_id: " ++ panel.inputs.lastStackId ++ "\n" }
  else { succeeded := true, text := record }

/-- Starts a job's action, makes its requests and reports. -/
def Job.perform (job : Job) (panel : Panel) : Program Report :=
  .now fun started =>
    match Dispatcher.standard.dispatch panel started { id := job.action } with
    | (panel, none) => .done (job.report panel)
    | (panel, some pending) =>
      (Program.ofExchange pending.exchange).bind fun outcome =>
        .now fun ended => .done (job.report (panel.complete ended (pending.completion outcome)))

/-- Prepares a new panel for a job and carries the job out on it, or says why it cannot. The choices
are kept in a file. -/
def Job.run (job : Job) (path : String) (settings : Settings) (preferences : Preferences) :
    Program (Except String Report) :=
  (job.prepare path (Panel.start settings preferences)).bind fun
    | .error message => .done (.error message)
    | .ok panel => (job.perform panel).bind fun report => .done (.ok report)

end StackPanel.CommandLine
