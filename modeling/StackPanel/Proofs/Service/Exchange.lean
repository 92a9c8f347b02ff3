import StackPanel.Service.Exchange

/-! What passes between the panel and the service while an exchange runs. -/

namespace StackPanel

/-- The text of a response whose status means success. -/
def Reply.successText? : Reply → Option String
  | .answer status text => if 200 ≤ status ∧ status < 300 then some text else none
  | .failure _ => none

namespace Exchange

variable {α β σ : Type}

/-- The requests of an exchange, each with the reply that it got. -/
def transcript (answer : σ → Request → Reply × σ) (state : σ) :
    Exchange α → List (Request × Reply)
  | .done _ => []
  | .send request next =>
    let reply := answer state request
    (request, reply.1) :: transcript answer reply.2 (next reply.1)
  | .crash => []

/-- A transcript lists the requests that were sent, in order. -/
theorem map_fst_transcript (answer : σ → Request → Reply × σ) (exchange : Exchange α) :
    ∀ state,
      (exchange.transcript answer state).map Prod.fst = (exchange.run answer state).sent := by
  -- Both recursions ask for the same replies.
  induction exchange with
  -- Where nothing is sent both lists are empty.
  | done result => intro state; rfl
  | crash => intro state; rfl
  | send request next ih =>
    -- The reply decides how the exchange goes on, and it is the same reply on both sides.
    intro state
    simp [transcript, run, ih]

/-- Whether every request that an exchange can send has a property, whatever the replies are. -/
def Sends (allowed : Request → Prop) : Exchange α → Prop
  | .done _ => True
  | .send request next => allowed request ∧ ∀ reply, (next reply).Sends allowed
  | .crash => True

variable {allowed : Request → Prop}

/-- An exchange sends what its first part sends and what each way to go on sends. -/
theorem Sends.bind {first : Exchange α} (sends : first.Sends allowed) {next : α → Exchange β}
    (later : ∀ result, (next result).Sends allowed) : (first.bind next).Sends allowed := by
  -- The second part takes the place of each end of the first.
  induction first with
  | done result => exact later result
  | crash => trivial
  | send request after ih => exact ⟨sends.1, fun reply => ih reply (sends.2 reply)⟩

/-- Changing the result of an exchange leaves its requests as they are. -/
theorem Sends.map {exchange : Exchange α} (sends : exchange.Sends allowed) (change : α → β) :
    (exchange.map change).Sends allowed :=
  sends.bind fun _ => trivial

/-- The requests of a run are among those that the exchange can send. -/
theorem Sends.of_mem_sent {exchange : Exchange α} (sends : exchange.Sends allowed)
    (answer : σ → Request → Reply × σ) :
    ∀ state, ∀ request ∈ (exchange.run answer state).sent, allowed request := by
  induction exchange with
  | done result => intro state request sent; simp [run] at sent
  | crash => intro state request sent; simp [run] at sent
  | send first next ih =>
    -- The first request is allowed itself, and its reply leads to an exchange that is.
    intro state request sent
    rcases List.mem_cons.mp sent with rfl | later
    · exact sends.1
    · exact ih _ (sends.2 _) _ request later

end Exchange

namespace Call

/-- A call sends its own request and no other. -/
theorem sends_perform {allowed : Request → Prop} {call : Call} {connection : Connection}
    (own : allowed (call.request connection)) : (call.perform connection).Sends allowed :=
  ⟨own, fun _ => trivial⟩

/-- The payload that a reply's text makes for a request. -/
def payload (request : Request) (status : Nat) (text : String) : Payload :=
  { method := request.method, url := request.url, status, ok := true, body := .parse text }

/-- A call whose reply means success ends in the payload of that reply. -/
theorem outcome_of_success (request : Request) {reply : Reply} {text : String}
    (answered : reply.successText? = some text) :
    ∃ status, outcome request reply = .ok (payload request status text) := by
  -- Only a response with a status in the range of success has such a text.
  cases reply with
  | failure message => simp [Reply.successText?] at answered
  | answer status raw =>
    simp only [Reply.successText?, Option.ite_none_right_eq_some, Option.some.injEq] at answered
    obtain ⟨range, rfl⟩ := answered
    exact ⟨status, by simp [outcome, succeeded, payload, range]⟩

/-- A call whose reply means anything else ends in an error. -/
theorem outcome_of_failure (request : Request) {reply : Reply}
    (refused : reply.successText? = none) : ∃ error, outcome request reply = .error error := by
  -- Without a response the error is one of transport, and otherwise it carries the response.
  cases reply with
  | failure message => exact ⟨_, rfl⟩
  | answer status raw =>
    have outside : ¬(200 ≤ status ∧ status < 300) := by
      simpa [Reply.successText?] using refused
    have notOk : succeeded status = false := by
      simpa [succeeded] using outside
    simp [outcome, notOk]

end Call

end StackPanel
