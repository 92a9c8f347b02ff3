import StackPanel.Service.Response

/-! Sequences of requests whose course depends on the replies. -/

namespace StackPanel

/-- What sending one request leads to. -/
inductive Reply where
  /-- A response with its status and its raw text. -/
  | answer (status : Nat) (text : String)
  /-- No response, and why. -/
  | failure (message : String)
  deriving DecidableEq

/-- Requests to send one after another, each chosen from the replies so far. -/
inductive Exchange (α : Type) where
  /-- Nothing more to send. -/
  | done (result : α)
  /-- A request to send, and how to go on from its reply. -/
  | send (request : Request) (next : Reply → Exchange α)
  /-- An end without a result. -/
  | crash

namespace Exchange

variable {α β : Type}

/-- Goes on with another exchange after the first is done. -/
def bind (first : Exchange α) (next : α → Exchange β) : Exchange β :=
  match first with
  | .done result => next result
  | .send request later => .send request fun reply => (later reply).bind next
  | .crash => .crash

/-- Changes the result of an exchange. -/
def map (change : α → β) (exchange : Exchange α) : Exchange β :=
  exchange.bind fun result => .done (change result)

/-- What running an exchange leaves. -/
structure Run (σ α : Type) where
  /-- The result, unless the exchange crashed. -/
  result : Option α
  /-- The requests sent, in order. -/
  sent : List Request
  /-- The state of whatever answered them. -/
  final : σ

/-- Runs an exchange against something that answers requests. -/
def run {σ : Type} (answer : σ → Request → Reply × σ) (state : σ) : Exchange α → Run σ α
  | .done result => { result := some result, sent := [], final := state }
  | .send request next =>
    let reply := answer state request
    let later := run answer reply.2 (next reply.1)
    { later with sent := request :: later.sent }
  | .crash => { result := none, sent := [], final := state }

/-- Answers from a script in order; a request past its end gets no response. -/
def scripted (script : List Reply) (_ : Request) : Reply × List Reply :=
  match script with
  | [] => (.failure "no scripted reply", [])
  | reply :: rest => (reply, rest)

end Exchange

namespace Call

/-- Whether a status means success. -/
def succeeded (status : Nat) : Bool :=
  200 ≤ status && status < 300

/-- The outcome of a request for its reply: any response becomes a payload, a result if its status
means success and an error if not. -/
def outcome (request : Request) : Reply → Except ActionError Payload
  | .failure message => .error (.transport message)
  | .answer status text =>
    let payload : Payload := {
      method := request.method
      url := request.url
      status
      ok := succeeded status
      body := ResponseBody.parse text }
    if payload.ok then .ok payload else .error (.response payload)

/-- Performs one call. -/
def perform (call : Call) (connection : Connection) : Exchange (Except ActionError Payload) :=
  let request := call.request connection
  .send request fun reply => .done (outcome request reply)

end Call

end StackPanel
