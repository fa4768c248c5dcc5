import VerdictRisk.Tracing
import VerdictRisk.State

/-!
# Webhook events

`webhook.py`: the emitter that posts a risk event until one attempt succeeds. The client, the
validation and serialisation of an event, and `asyncio.sleep` are not part of the source: what the
attempts meet is an argument, and so is the payload that an event is dumped to. Opening a client of
its own is taken to succeed.
-/

namespace VerdictRisk

open Python Effects

/-- The proposed trade of an event; its floats are validated to be finite. -/
structure ProposedTradeInfo where
  targetFamily : String
  proposedCost : FiniteFloat
  expectedValue : FiniteFloat

/-- An event as it is validated. -/
structure RiskEvent where
  timestamp : DateTime
  decisionApproved : Bool
  reasonCode : String
  suggestedSize : FiniteFloat
  proposedTrade : ProposedTradeInfo

/-- What is raised while an event is emitted. -/
inductive Raised (Failure : Type) where
  /-- An `Exception` -/
  | failure (failure : Failure)
  /-- Any other `BaseException`, such as a cancellation -/
  | interrupt (failure : Failure)

/-- Asynchronous emitter to broadcast trade risk events. -/
structure WebhookEmitter where
  endpointUrl : String
  /-- Whether a client was given. -/
  client : Bool
  maxAttempts : ℤ
  timeoutSeconds : PyNum
  retryDelaySeconds : PyNum
  attempts : ¬ maxAttempts < 1
  timeout : ¬ timeoutSeconds.exact.le 0 = true
  delay : ¬ retryDelaySeconds.exact.lt 0 = true

/-- The constructor. -/
def WebhookEmitter.new (endpointUrl : String) (client : Bool) (maxAttempts : ℤ)
    (timeoutSeconds retryDelaySeconds : PyNum) : Except PyError WebhookEmitter :=
  if attempts : maxAttempts < 1 then .error (.valueError "max_attempts must be >= 1")
  else if timeout : timeoutSeconds.exact.le 0 = true then
    .error (.valueError "timeout_seconds must be > 0")
  else if delay : retryDelaySeconds.exact.lt 0 = true then
    .error (.valueError "retry_delay_seconds must be >= 0")
  else .ok ⟨endpointUrl, client, maxAttempts, timeoutSeconds, retryDelaySeconds, attempts, timeout,
    delay⟩

/-- A post. -/
structure Request (Payload : Type) where
  url : String
  json : Payload
  headers : List (String × String)
  timeout : PyNum

/-- What an emitter does to its surroundings. -/
inductive WebhookEffect (Payload Failure : Type) where
  | tracer (call : TracerCall (Raised Failure))
  | openClient
  | closeClient
  | post (request : Request Payload)
  /-- `logger.error`, with the arguments of its message -/
  | logError (url : String) (attempt maxAttempts : ℤ) (failure : Failure)
  | sleep (seconds : PyNum)

/-- What the attempts of an emission meet. -/
structure Surroundings (Response Failure : Type) where
  /-- The end of the post of an attempt -/
  post : ℕ → Except (Raised Failure) Response
  /-- `response.raise_for_status()` -/
  raiseForStatus : Response → Except (Raised Failure) Unit
  /-- `response.status_code` -/
  statusCode : Response → ℤ
  /-- The end of `asyncio.sleep` after an attempt -/
  sleep : ℕ → Except (Raised Failure) Unit

namespace WebhookEmitter

variable {Payload Response Failure : Type}

/-- A computation of the emitter. -/
abbrev Emission (Payload Failure Value : Type) : Type :=
  Run (WebhookEffect Payload Failure) (Raised Failure) Value

/-- Attributes of the span `emit_webhook`. -/
def setSpan (attrs : List (String × AttributeValue)) : Emission Payload Failure Unit :=
  .perform (attrs.map fun (key, value) => .tracer (.setAttribute "emit_webhook" key value))

/-- The post of an event. -/
def request (emitter : WebhookEmitter) (payload : Payload) : Request Payload where
  url := emitter.endpointUrl
  json := payload
  headers := [("Content-Type", "application/json")]
  timeout := emitter.timeoutSeconds

/-- `_post_once`: with the given client, or with one that is closed again. -/
def postOnce (emitter : WebhookEmitter) (surroundings : Surroundings Response Failure)
    (payload : Payload) (attempt : ℕ) : Emission Payload Failure Response :=
  let post : Emission Payload Failure Response := do
    Run.perform [.post (emitter.request payload)]
    Run.lift (surroundings.post attempt)
  if emitter.client then post else Run.within .openClient (fun _ => .closeClient) post

/-- The `except` branch of an attempt. -/
def afterFailure (emitter : WebhookEmitter) (surroundings : Surroundings Response Failure)
    (attempt : ℕ) (failure : Failure) : Emission Payload Failure (Option Bool) := do
  Run.perform [.logError emitter.endpointUrl attempt emitter.maxAttempts failure]
  Run.perform [.tracer (.recordException "emit_webhook" (.failure failure))]
  setSpan [("webhook.attempts", .int attempt)]
  if emitter.maxAttempts ≤ attempt then
    setSpan [("webhook.success", .bool false)]
    return some false
  if (0 : PyFloat).lt emitter.retryDelaySeconds.exact then
    Run.perform [.sleep emitter.retryDelaySeconds]
    Run.lift (surroundings.sleep attempt)
  return none

/-- The body of the loop over the attempts: it returns from the loop with a result, or not at
all. -/
def emitAttempt (emitter : WebhookEmitter) (surroundings : Surroundings Response Failure)
    (payload : Payload) (attempt : ℕ) : Emission Payload Failure (Option Bool) :=
  Run.recover
    (do
      let response ← emitter.postOnce surroundings payload attempt
      Run.lift (surroundings.raiseForStatus response)
      setSpan [("webhook.status_code", .int (surroundings.statusCode response))]
      setSpan [("webhook.attempts", .int attempt)]
      setSpan [("webhook.success", .bool true)]
      return some true)
    fun raised => match raised with
      | .interrupt _ => none
      | .failure failure => some (emitter.afterFailure surroundings attempt failure)

/-- Send the risk event to the configured webhook endpoint URL. -/
def emit (emitter : WebhookEmitter) (surroundings : Surroundings Response Failure)
    (modelDump : RiskEvent → Payload) (event : RiskEvent) : Emission Payload Failure Bool :=
  Run.within (.tracer (.start "emit_webhook"))
    (fun raised => .tracer (.finish "emit_webhook" raised)) do
    setSpan [("webhook.url", .str emitter.endpointUrl)]
    setSpan [("webhook.event.approved", .bool event.decisionApproved)]
    setSpan [("webhook.event.reason_code", .str event.reasonCode)]
    let payload := modelDump event
    -- `range(1, self.max_attempts + 1)`
    Run.loop (emitter.emitAttempt surroundings payload) false
      (List.range' 1 emitter.maxAttempts.toNat)

end WebhookEmitter

end VerdictRisk
