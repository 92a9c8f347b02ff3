import StackPanel.Instant.Value
import StackPanel.Panel.Preferences
import StackPanel.Reading
import StackPanel.Service.Exchange

/-! Programs as the steps they take in the world around them. -/

namespace StackPanel.CommandLine

/-- A program that ends in a result, with every step that reaches outside spelled out. -/
inductive Program (α : Type) where
  /-- Nothing more to do. -/
  | done (result : α)
  /-- Prints a text. -/
  | print (text : String) (next : Program α)
  /-- Prints a text where complaints go. -/
  | complain (text : String) (next : Program α)
  /-- Looks whether there is anything at a path. -/
  | look (path : String) (next : Bool → Program α)
  /-- Reads a file. -/
  | read (path : String) (next : Reading → Program α)
  /-- Reads everything that is typed. -/
  | readInput (next : Reading → Program α)
  /-- Makes a directory and those above it; goes on with the reason if that fails. -/
  | makeDirectory (path : String) (next : Option String → Program α)
  /-- Writes a file; goes on with the reason if that fails. -/
  | write (path text : String) (next : Option String → Program α)
  /-- Opens a file to log events to, and tells whether that worked. -/
  | openLog (path : String) (next : Bool → Program α)
  /-- Reads the clock. -/
  | now (next : Instant → Program α)
  /-- Sends a request. -/
  | send (request : Request) (next : Reply → Program α)

namespace Program

variable {α β : Type}

/-- Goes on with another program after the first is done. -/
def bind (first : Program α) (continuation : α → Program β) : Program β :=
  match first with
  | .done result => continuation result
  | .print text next => .print text (next.bind continuation)
  | .complain text next => .complain text (next.bind continuation)
  | .look path next => .look path fun found => (next found).bind continuation
  | .read path next => .read path fun found => (next found).bind continuation
  | .readInput next => .readInput fun found => (next found).bind continuation
  | .makeDirectory path next => .makeDirectory path fun reason => (next reason).bind continuation
  | .write path text next => .write path text fun reason => (next reason).bind continuation
  | .openLog path next => .openLog path fun works => (next works).bind continuation
  | .now next => .now fun instant => (next instant).bind continuation
  | .send request next => .send request fun reply => (next reply).bind continuation

/-- Makes the requests of an exchange; one that crashes has no result. -/
def ofExchange : Exchange α → Program (Option α)
  | .done result => .done (some result)
  | .send request next => .send request fun reply => ofExchange (next reply)
  | .crash => .done none

/-- Writes to a file what is to be saved, if anything is, and goes on from whether that worked. -/
def save (path : String) (saving : Saving α) : Program α :=
  match saving.text with
  -- Nothing is written, so nothing can have failed.
  | none => .done (saving.result true)
  | some text => .write path text fun reason => .done (saving.result reason.isNone)

/-- The world around a program, as a state and how each step answers and changes it. -/
structure Host (σ : Type) where
  /-- Whether there is anything at a path. -/
  look : σ → String → Bool
  /-- What reading a file finds. -/
  read : σ → String → Reading
  /-- What is typed. -/
  input : σ → Reading
  /-- The clock. -/
  now : σ → Instant
  /-- Makes a directory, or gives the reason why not. -/
  makeDirectory : σ → String → Option String × σ
  /-- Writes a file, or gives the reason why not. -/
  write : σ → String → String → Option String × σ
  /-- Opens a log, if that works. -/
  openLog : σ → String → Bool × σ
  /-- Answers a request. -/
  answer : σ → Request → Reply × σ

/-- What running a program leaves. -/
structure Run (σ α : Type) where
  /-- The result. -/
  result : α
  /-- All that was printed. -/
  printed : String
  /-- All complaints. -/
  complaints : String
  /-- The requests sent, in order. -/
  sent : List Request
  /-- The world afterwards. -/
  final : σ

/-- Runs a program in a world. -/
def run {σ : Type} (host : Host σ) (state : σ) : Program α → Run σ α
  | .done result => { result, printed := "", complaints := "", sent := [], final := state }
  | .print text next =>
    let rest := run host state next
    { rest with printed := text ++ rest.printed }
  | .complain text next =>
    let rest := run host state next
    { rest with complaints := text ++ rest.complaints }
  | .look path next => run host state (next (host.look state path))
  | .read path next => run host state (next (host.read state path))
  | .readInput next => run host state (next (host.input state))
  | .makeDirectory path next =>
    let answer := host.makeDirectory state path
    run host answer.2 (next answer.1)
  | .write path text next =>
    let answer := host.write state path text
    run host answer.2 (next answer.1)
  | .openLog path next =>
    let answer := host.openLog state path
    run host answer.2 (next answer.1)
  | .now next => run host state (next (host.now state))
  | .send request next =>
    let answer := host.answer state request
    let rest := run host answer.2 (next answer.1)
    { rest with sent := request :: rest.sent }

end Program

end StackPanel.CommandLine
