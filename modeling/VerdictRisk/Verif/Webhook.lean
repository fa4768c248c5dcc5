import VerdictRisk.Webhook
import Mathlib.Data.List.Range

/-!
# Emissions of an event

An emission is a run of attempts of which all but the last fail. Everything that it does to its
surroundings, the posts, the messages, the pauses and what is told to the tracer, is determined by
how the posts and the pauses end.
-/

namespace VerdictRisk

open Python Effects

namespace WebhookEmitter

variable {Payload Response Failure : Type} {emitter : WebhookEmitter}
variable {surroundings : Surroundings Response Failure}

/-- How an attempt ends: its post, and then the check of the status. -/
def verdict (surroundings : Surroundings Response Failure) (attempt : ℕ) :
    Except (Raised Failure) ℤ := do
  let response ← surroundings.post attempt
  surroundings.raiseForStatus response
  return surroundings.statusCode response

/-- How the pause after an attempt ends. -/
def pause (emitter : WebhookEmitter) (surroundings : Surroundings Response Failure)
    (attempt : ℕ) : Except (Raised Failure) Unit :=
  if (0 : PyFloat).lt emitter.retryDelaySeconds.exact then surroundings.sleep attempt else .ok ()

/-- An attempt fails. -/
def Fails (surroundings : Surroundings Response Failure) (attempt : ℕ) : Prop :=
  ∃ failure, verdict surroundings attempt = .error (.failure failure)

/-- The calls that make one post. -/
def postCalls (emitter : WebhookEmitter) (payload : Payload) :
    List (WebhookEffect Payload Failure) :=
  if emitter.client then [.post (emitter.request payload)]
  else [.openClient, .post (emitter.request payload), .closeClient]

/-- What follows the post of an attempt. -/
def resultCalls (emitter : WebhookEmitter) (attempt : ℕ) :
    Except (Raised Failure) ℤ → List (WebhookEffect Payload Failure)
  | .ok status =>
    [.tracer (.setAttribute "emit_webhook" "webhook.status_code" (.int status)),
      .tracer (.setAttribute "emit_webhook" "webhook.attempts" (.int attempt)),
      .tracer (.setAttribute "emit_webhook" "webhook.success" (.bool true))]
  | .error (.interrupt _) => []
  | .error (.failure failure) =>
    [.logError emitter.endpointUrl attempt emitter.maxAttempts failure,
      .tracer (.recordException "emit_webhook" (.failure failure)),
      .tracer (.setAttribute "emit_webhook" "webhook.attempts" (.int attempt))] ++
    if emitter.maxAttempts ≤ attempt then
      [.tracer (.setAttribute "emit_webhook" "webhook.success" (.bool false))]
    else if (0 : PyFloat).lt emitter.retryDelaySeconds.exact then [.sleep emitter.retryDelaySeconds]
    else []

/-- Whether an attempt returns from the loop, and with what. -/
def resultOf (emitter : WebhookEmitter) (surroundings : Surroundings Response Failure)
    (attempt : ℕ) : Except (Raised Failure) (Option Bool) :=
  match verdict surroundings attempt with
  | .ok _ => .ok (some true)
  | .error (.interrupt raised) => .error (.interrupt raised)
  | .error (.failure _) =>
    if emitter.maxAttempts ≤ attempt then .ok (some false)
    else (emitter.pause surroundings attempt).map fun _ => none

/-- A failure is reported, and then the loop is left or the next attempt follows after a pause. -/
theorem afterFailure_eq (emitter : WebhookEmitter)
    (surroundings : Surroundings Response Failure) (attempt : ℕ) (failure : Failure) :
    (emitter.afterFailure surroundings attempt failure : Emission Payload Failure _) =
      ⟨emitter.resultCalls attempt (.error (.failure failure)),
        if emitter.maxAttempts ≤ attempt then .ok (some false)
        else (emitter.pause surroundings attempt).map fun _ => none⟩ := by
  unfold afterFailure resultCalls pause
  split
  · rfl
  · split
    · cases surroundings.sleep attempt <;> rfl
    · rfl

/-- One attempt is its post and what follows it. -/
theorem emitAttempt_eq (emitter : WebhookEmitter) (surroundings : Surroundings Response Failure)
    (payload : Payload) (attempt : ℕ) :
    emitter.emitAttempt surroundings payload attempt =
      ⟨emitter.postCalls payload ++
          emitter.resultCalls attempt (verdict surroundings attempt),
        emitter.resultOf surroundings attempt⟩ := by
  have posted : emitter.postOnce surroundings payload attempt =
      ⟨emitter.postCalls payload, surroundings.post attempt⟩ := by
    unfold postOnce postCalls
    split <;> rfl
  unfold emitAttempt resultOf verdict
  rw [posted]
  rcases surroundings.post attempt with (failure | raised) | response
  · simp [bind, Run.andThen, Run.recover, Except.bind, afterFailure_eq]
  · simp [bind, Run.andThen, Run.recover, Except.bind, resultCalls]
  · rcases checked : surroundings.raiseForStatus response with (failure | raised) | _
    · simp [bind, Run.andThen, Run.recover, Except.bind, Run.lift, checked, afterFailure_eq]
    · simp [bind, Run.andThen, Run.recover, Except.bind, Run.lift, checked, resultCalls]
    · simp [bind, Run.andThen, Run.recover, Except.bind, Run.lift, checked, resultCalls, setSpan,
        Run.perform, pure, Except.pure]

/-- The next attempt follows one that failed, was not the last, and whose pause was not cut
short. -/
theorem resultOf_continues {attempt : ℕ} (next : emitter.resultOf surroundings attempt = .ok none) :
    Fails surroundings attempt ∧ (attempt : ℤ) < emitter.maxAttempts ∧
      emitter.pause surroundings attempt = .ok () := by
  unfold resultOf at next
  rcases ended : verdict surroundings attempt with (failure | raised) | status
  · simp only [ended] at next
    split at next
    · simp at next
    · rename_i early
      refine ⟨⟨failure, ended⟩, not_le.mp early, ?_⟩
      cases paused : emitter.pause surroundings attempt with
      | error raised => simp [paused, Except.map] at next
      | ok _ => rfl
  · simp [ended] at next
  · simp [ended] at next

/-- The calls before the first attempt. -/
def eventCalls (emitter : WebhookEmitter) (event : RiskEvent) :
    List (WebhookEffect Payload Failure) :=
  [.tracer (.setAttribute "emit_webhook" "webhook.url" (.str emitter.endpointUrl)),
    .tracer (.setAttribute "emit_webhook" "webhook.event.approved" (.bool event.decisionApproved)),
    .tracer (.setAttribute "emit_webhook" "webhook.event.reason_code" (.str event.reasonCode))]

/-- The calls of the first attempts. -/
def attemptCalls (emitter : WebhookEmitter) (surroundings : Surroundings Response Failure)
    (payload : Payload) (made : ℕ) : List (WebhookEffect Payload Failure) :=
  (List.range' 1 made).flatMap fun attempt =>
    emitter.postCalls payload ++ emitter.resultCalls attempt (verdict surroundings attempt)

/-- So many attempts are made: each fails before the next, and the last ends the emission. -/
structure Made (emitter : WebhookEmitter) (surroundings : Surroundings Response Failure)
    (made : ℕ) : Prop where
  some : 1 ≤ made
  within : (made : ℤ) ≤ emitter.maxAttempts
  failed : ∀ attempt, 1 ≤ attempt → attempt < made →
    Fails surroundings attempt ∧ emitter.pause surroundings attempt = .ok ()
  ends : emitter.resultOf surroundings made ≠ .ok none

/-- An emission makes its attempts within its span and ends as the last of them does. -/
theorem emit_eq (emitter : WebhookEmitter) (surroundings : Surroundings Response Failure)
    (modelDump : RiskEvent → Payload) (event : RiskEvent) :
    ∃ made, Made emitter surroundings made ∧
      emitter.emit surroundings modelDump event =
        let outcome := (emitter.resultOf surroundings made).map fun returned =>
          returned.getD false
        ⟨.tracer (.start "emit_webhook") :: (emitter.eventCalls event ++
            emitter.attemptCalls surroundings (modelDump event) made ++
            [.tracer (.finish "emit_webhook" (Run.raised outcome))]), outcome⟩ := by
  have positive := emitter.attempts
  have continues : ∀ attempt, Run.goesOn (emitter.emitAttempt surroundings (modelDump event))
      attempt = true ↔ emitter.resultOf surroundings attempt = .ok none := by
    intro attempt
    rw [Run.goesOn, emitAttempt_eq]
    rcases emitter.resultOf surroundings attempt with raised | - | result <;> simp
  have unfolded : emitter.emit surroundings modelDump event =
      let run := Run.loop (emitter.emitAttempt surroundings (modelDump event)) false
        (List.range' 1 emitter.maxAttempts.toNat)
      ⟨.tracer (.start "emit_webhook") :: (emitter.eventCalls event ++ run.effects ++
        [.tracer (.finish "emit_webhook" (Run.raised run.outcome))]), run.outcome⟩ := by
    rfl
  rcases Run.loop_cases (emitter.emitAttempt surroundings (modelDump event)) false
      (List.range' 1 emitter.maxAttempts.toNat) with
    ⟨all, _⟩ | ⟨before, last, rest, split, all, stops, same⟩
  · have mem : emitter.maxAttempts.toNat ∈ List.range' 1 emitter.maxAttempts.toNat := by
      rw [List.mem_range'_1]
      omega
    have early := (resultOf_continues ((continues _).mp (all _ mem))).2.1
    omega
  · obtain ⟨earlier, few, rfl, later⟩ := List.range'_eq_append_iff.mp split
    obtain ⟨rfl, more, -⟩ := List.range'_eq_cons_iff.mp later.symm
    have index : 1 + earlier * 1 = earlier + 1 := by omega
    have made : List.range' 1 (earlier + 1) = List.range' 1 earlier ++ [earlier + 1] := by
      rw [List.range'_1_concat, Nat.add_comm 1]
    rw [index] at stops same
    refine ⟨earlier + 1, ⟨by omega, by omega, ?_, ?_⟩, ?_⟩
    · intro attempt first before
      have mem : attempt ∈ List.range' 1 earlier := by
        rw [List.mem_range'_1]
        omega
      have next := resultOf_continues ((continues attempt).mp (all attempt mem))
      exact ⟨next.1, next.2.2⟩
    · intro next
      rw [(continues _).mpr next] at stops
      contradiction
    · rw [unfolded, same, attemptCalls, made]
      simp only [emitAttempt_eq]

/-- How an emission of so many attempts ends. -/
inductive Ends (emitter : WebhookEmitter) (surroundings : Surroundings Response Failure)
    (made : ℕ) : Except (Raised Failure) Bool → Prop
  | delivered {status : ℤ} (answered : verdict surroundings made = .ok status) :
      Ends emitter surroundings made (.ok true)
  | exhausted (failed : Fails surroundings made) (last : (made : ℤ) = emitter.maxAttempts) :
      Ends emitter surroundings made (.ok false)
  | interrupted {raised : Failure}
      (broken : verdict surroundings made = .error (.interrupt raised)) :
      Ends emitter surroundings made (.error (.interrupt raised))
  | stopped {raised : Raised Failure} (failed : Fails surroundings made)
      (early : (made : ℤ) < emitter.maxAttempts)
      (cut : emitter.pause surroundings made = .error raised) :
      Ends emitter surroundings made (.error raised)

/-- The last attempt ends the emission. -/
theorem Made.end_cases {made : ℕ} (attempts : Made emitter surroundings made) :
    Ends emitter surroundings made
      ((emitter.resultOf surroundings made).map fun returned => returned.getD false) := by
  have ends := attempts.ends
  unfold resultOf at ends ⊢
  rcases ended : verdict surroundings made with (failure | raised) | status
  · simp only [ended] at ends ⊢
    by_cases last : emitter.maxAttempts ≤ made
    · rw [if_pos last]
      exact .exhausted ⟨failure, ended⟩ (le_antisymm attempts.within last)
    · rw [if_neg last] at ends ⊢
      cases paused : emitter.pause surroundings made with
      | error raised => exact .stopped ⟨failure, ended⟩ (not_le.mp last) paused
      | ok _ => exact absurd (by rw [paused]; rfl) ends
  · exact .interrupted ended
  · exact .delivered ended

/-- The posts among some calls. -/
def posts (effects : List (WebhookEffect Payload Failure)) : List (Request Payload) :=
  effects.filterMap fun effect => match effect with
    | .post request => some request
    | _ => none

/-- The messages among some calls. -/
def messages (effects : List (WebhookEffect Payload Failure)) :
    List (String × ℤ × ℤ × Failure) :=
  effects.filterMap fun effect => match effect with
    | .logError url attempt maxAttempts failure => some (url, attempt, maxAttempts, failure)
    | _ => none

/-- The exceptions that are recorded on the span. -/
def recorded (effects : List (WebhookEffect Payload Failure)) : List (Raised Failure) :=
  effects.filterMap fun effect => match effect with
    | .tracer (.recordException _ raised) => some raised
    | _ => none

/-- The pauses among some calls. -/
def pauses (effects : List (WebhookEffect Payload Failure)) : List PyNum :=
  effects.filterMap fun effect => match effect with
    | .sleep seconds => some seconds
    | _ => none

/-- What is read off the calls of the attempts is read off each attempt in turn. -/
theorem read_attemptCalls {Item : Type} (read : WebhookEffect Payload Failure → Option Item)
    (payload : Payload) (made : ℕ) :
    (emitter.attemptCalls surroundings payload made).filterMap read =
      (List.range' 1 made).flatMap fun attempt => (emitter.postCalls payload).filterMap read ++
        (emitter.resultCalls attempt (verdict surroundings attempt)).filterMap read := by
  simp only [attemptCalls, List.filterMap_flatMap, List.filterMap_append]

/-- What is read off an emission is read off its attempts, unless it is about the span. -/
theorem read_emission {Item : Type} {read : WebhookEffect Payload Failure → Option Item}
    (started : read (.tracer (.start "emit_webhook")) = none)
    (set : ∀ key value, read (.tracer (.setAttribute "emit_webhook" key value)) = none)
    (finished : ∀ raised, read (.tracer (.finish "emit_webhook" raised)) = none)
    (event : RiskEvent) (calls : List (WebhookEffect Payload Failure))
    (raised : Option (Raised Failure)) :
    (.tracer (.start "emit_webhook") :: (emitter.eventCalls event ++ calls ++
        [.tracer (.finish "emit_webhook" raised)])).filterMap read = calls.filterMap read := by
  simp [eventCalls, started, set, finished]

/-- Every attempt posts once. -/
theorem posts_attemptCalls (payload : Payload) (made : ℕ) :
    posts (emitter.attemptCalls surroundings payload made) =
      List.replicate made (emitter.request payload) := by
  have own : posts (emitter.postCalls payload : List (WebhookEffect Payload Failure)) =
      [emitter.request payload] := by
    unfold postCalls
    split <;> rfl
  have others : ∀ attempt, posts (emitter.resultCalls attempt (verdict surroundings attempt) :
      List (WebhookEffect Payload Failure)) = [] := by
    intro attempt
    rcases verdict surroundings attempt with (failure | raised) | status
    · unfold resultCalls
      split_ifs <;> rfl
    · rfl
    · rfl
  rw [posts] at own ⊢
  rw [read_attemptCalls, own]
  simp only [posts] at others
  simp only [others, List.append_nil, ← List.map_eq_flatMap, List.map_const', List.length_range']

/-- An event is posted at least once and at most as often as allowed, each time the same, until an
attempt succeeds; `True` is returned exactly when one did, and `False` when all that are allowed
failed. -/
theorem emission_posts (emitter : WebhookEmitter) (surroundings : Surroundings Response Failure)
    (modelDump : RiskEvent → Payload) (event : RiskEvent) :
    let run := emitter.emit surroundings modelDump event
    ∃ made, Made emitter surroundings made ∧ Ends emitter surroundings made run.outcome ∧
      posts run.effects = List.replicate made (emitter.request (modelDump event)) := by
  obtain ⟨made, attempts, same⟩ := emit_eq emitter surroundings modelDump event
  refine ⟨made, attempts, ?_, ?_⟩
  · rw [same]
    exact attempts.end_cases
  · rw [same]
    exact (read_emission rfl (fun _ _ => rfl) (fun _ => rfl) _ _ _).trans (posts_attemptCalls _ _)

/-- The failure of an attempt that fails. -/
def failureOf (surroundings : Surroundings Response Failure) (attempt : ℕ) : Option Failure :=
  match verdict surroundings attempt with
  | .error (.failure failure) => some failure
  | _ => none

/-- The failed attempts in order, each with its failure. -/
def failures (surroundings : Surroundings Response Failure) (made : ℕ) : List (ℕ × Failure) :=
  (List.range' 1 made).filterMap fun attempt =>
    (failureOf surroundings attempt).map fun failure => (attempt, failure)

/-- What is told about failures only is told about each of them. -/
theorem read_failures {Item : Type} {read : WebhookEffect Payload Failure → Option Item}
    {payload : Payload} (tell : ℕ → Failure → Item)
    (posted : (emitter.postCalls payload).filterMap read = [])
    (told : ∀ attempt, (emitter.resultCalls attempt (verdict surroundings attempt)).filterMap read =
      ((failureOf surroundings attempt).map (tell attempt)).toList) (made : ℕ) :
    (emitter.attemptCalls surroundings payload made).filterMap read =
      (failures surroundings made).map fun failed => tell failed.1 failed.2 := by
  simp only [read_attemptCalls, posted, told, List.nil_append, failures,
    ← List.filterMap_eq_flatMap_toList, List.map_filterMap, Option.map_map, Function.comp_def]

/-- Every failure is logged. -/
theorem messages_attemptCalls (payload : Payload) (made : ℕ) :
    messages (emitter.attemptCalls surroundings payload made) =
      (failures surroundings made).map fun failed =>
        (emitter.endpointUrl, (failed.1 : ℤ), emitter.maxAttempts, failed.2) := by
  refine read_failures (fun attempt failure =>
    (emitter.endpointUrl, (attempt : ℤ), emitter.maxAttempts, failure)) ?_ ?_ made
  · unfold postCalls
    split <;> rfl
  · intro attempt
    unfold failureOf
    rcases verdict surroundings attempt with (failure | raised) | status
    · unfold resultCalls
      split_ifs <;> rfl
    · rfl
    · rfl

/-- Every failure is recorded. -/
theorem recorded_attemptCalls (payload : Payload) (made : ℕ) :
    recorded (emitter.attemptCalls surroundings payload made) =
      (failures surroundings made).map fun failed => .failure failed.2 := by
  refine read_failures (fun _ failure => Raised.failure failure) ?_ ?_ made
  · unfold postCalls
    split <;> rfl
  · intro attempt
    unfold failureOf
    rcases verdict surroundings attempt with (failure | raised) | status
    · unfold resultCalls
      split_ifs <;> rfl
    · rfl
    · rfl

/-- The last attempt comes after the others. -/
theorem attemptCalls_last {made : ℕ} (some : 1 ≤ made) (payload : Payload) :
    emitter.attemptCalls surroundings payload made =
      emitter.attemptCalls surroundings payload (made - 1) ++ (emitter.postCalls payload ++
        emitter.resultCalls made (verdict surroundings made)) := by
  have index : List.range' 1 made = List.range' 1 (made - 1) ++ [made] := by
    obtain ⟨earlier, rfl⟩ := Nat.exists_eq_add_of_le' some
    rw [List.range'_1_concat, Nat.add_comm 1, Nat.add_sub_cancel]
  rw [attemptCalls, index, List.flatMap_append, List.flatMap_singleton, attemptCalls]

/-- After an emission that returns there was a pause after every attempt but the last, if any is
configured. -/
theorem pauses_attemptCalls {made : ℕ} (attempts : Made emitter surroundings made)
    (payload : Payload) {returned : Bool}
    (ended : Ends emitter surroundings made (.ok returned)) :
    pauses (emitter.attemptCalls surroundings payload made) =
      if (0 : PyFloat).lt emitter.retryDelaySeconds.exact then
        List.replicate (made - 1) emitter.retryDelaySeconds
      else [] := by
  have posted : pauses (emitter.postCalls payload : List (WebhookEffect Payload Failure)) = [] := by
    unfold postCalls
    split <;> rfl
  have earlier : ∀ attempt ∈ List.range' 1 (made - 1),
      pauses (emitter.resultCalls attempt (verdict surroundings attempt) :
        List (WebhookEffect Payload Failure)) =
      if (0 : PyFloat).lt emitter.retryDelaySeconds.exact then [emitter.retryDelaySeconds]
      else [] := by
    intro attempt mem
    rw [List.mem_range'_1] at mem
    obtain ⟨⟨failure, failed⟩, _⟩ := attempts.failed attempt mem.1 (by omega)
    have early : ¬ emitter.maxAttempts ≤ attempt := by
      have within := attempts.within
      omega
    rw [failed, resultCalls, if_neg early]
    split <;> rfl
  have last : pauses (emitter.resultCalls made (verdict surroundings made) :
      List (WebhookEffect Payload Failure)) = [] := by
    cases ended with
    | delivered answered =>
      rw [answered]
      rfl
    | exhausted failed last =>
      obtain ⟨failure, failed⟩ := failed
      rw [failed, resultCalls, if_pos (le_of_eq last.symm)]
      rfl
  have before : pauses (emitter.attemptCalls surroundings payload (made - 1)) =
      if (0 : PyFloat).lt emitter.retryDelaySeconds.exact then
        List.replicate (made - 1) emitter.retryDelaySeconds
      else [] := by
    rw [pauses, read_attemptCalls]
    simp only [pauses] at posted earlier
    rw [posted]
    simp only [List.nil_append]
    rw [List.flatMap_congr earlier]
    split
    · rw [← List.map_eq_flatMap, List.map_const', List.length_range']
    · simp
  rw [attemptCalls_last attempts.some]
  simp only [pauses, List.filterMap_append] at before posted last ⊢
  rw [before, posted, last, List.append_nil, List.append_nil]

/-- What is set on the span. -/
def spanAttribute (key : String) : WebhookEffect Payload Failure → Option AttributeValue
  | .tracer (.setAttribute _ key' value) => if key' = key then some value else none
  | _ => none

/-- After an emission that returns, the span tells its result and the number of attempts. -/
theorem latest_attemptCalls {made : ℕ} (attempts : Made emitter surroundings made)
    (payload : Payload) {returned : Bool}
    (ended : Ends emitter surroundings made (.ok returned)) :
    latest (spanAttribute "webhook.success")
        (emitter.attemptCalls surroundings payload made) = some (.bool returned) ∧
      latest (spanAttribute "webhook.attempts")
        (emitter.attemptCalls surroundings payload made) = some (.int made) := by
  rw [attemptCalls_last attempts.some]
  cases ended with
  | delivered answered =>
    rw [answered]
    simp [resultCalls, spanAttribute]
  | exhausted failed last =>
    obtain ⟨failure, failed⟩ := failed
    rw [failed, resultCalls, if_pos (le_of_eq last.symm)]
    simp [spanAttribute]

/-- The blocks of an emitter are its spans and the clients that it opens. -/
def role : WebhookEffect Payload Failure → Role String
  | .tracer call => call.role
  | .openClient => .opens "client"
  | .closeClient => .closes "client"
  | .post _ | .logError _ _ _ _ | .sleep _ => .plain

/-- Every client that an attempt opens is closed. -/
theorem balanced_attemptCalls (payload : Payload) (made : ℕ) :
    Balanced role (emitter.attemptCalls surroundings payload made) := by
  refine balanced_flatMap fun attempt _ => balanced_append ?_ (balanced_plain ?_)
  · unfold postCalls
    split
    · exact balanced_plain (by simp [role])
    · have opened : Balanced role ((.openClient : WebhookEffect Payload Failure) ::
          ([.post (emitter.request payload)] ++ [.closeClient])) :=
        balanced_block rfl rfl (balanced_plain (by simp [role]))
      exact opened
  · rcases verdict surroundings attempt with (failure | raised) | status
    · unfold resultCalls
      split_ifs <;> simp [role, TracerCall.role]
    · simp [resultCalls]
    · simp [resultCalls, role, TracerCall.role]

/-- However an emission ends, its span and the clients that it opened are closed, and every failed
attempt is logged and recorded once, in order. If it returns, it paused after every attempt but the
last, and its span tells the result and the number of attempts. -/
theorem emission_observed (emitter : WebhookEmitter)
    (surroundings : Surroundings Response Failure) (modelDump : RiskEvent → Payload)
    (event : RiskEvent) :
    let run := emitter.emit surroundings modelDump event
    Balanced role run.effects ∧ ∃ made, Made emitter surroundings made ∧
      messages run.effects = ((failures surroundings made).map fun failed =>
        (emitter.endpointUrl, (failed.1 : ℤ), emitter.maxAttempts, failed.2)) ∧
      recorded run.effects = ((failures surroundings made).map fun failed => .failure failed.2) ∧
      ∀ returned, run.outcome = .ok returned →
        pauses run.effects = (if (0 : PyFloat).lt emitter.retryDelaySeconds.exact then
          List.replicate (made - 1) emitter.retryDelaySeconds else []) ∧
        latest (spanAttribute "webhook.success") run.effects = some (.bool returned) ∧
        latest (spanAttribute "webhook.attempts") run.effects = some (.int made) := by
  obtain ⟨made, attempts, same⟩ := emit_eq emitter surroundings modelDump event
  have ends := attempts.end_cases
  dsimp only
  rw [same]
  constructor
  · refine balanced_block rfl rfl (balanced_append (balanced_plain ?_) (balanced_attemptCalls _ _))
    simp [eventCalls, role, TracerCall.role]
  refine ⟨made, attempts, ?_, ?_, fun returned ended => ?_⟩
  · exact (read_emission rfl (fun _ _ => rfl) (fun _ => rfl) _ _ _).trans
      (messages_attemptCalls _ _)
  · exact (read_emission rfl (fun _ _ => rfl) (fun _ => rfl) _ _ _).trans
      (recorded_attemptCalls _ _)
  · dsimp only at ended
    rw [ended] at ends
    obtain ⟨success, count⟩ := latest_attemptCalls attempts (modelDump event) ends
    refine ⟨?_, ?_, ?_⟩
    · rw [← pauses_attemptCalls attempts (modelDump event) ends]
      exact read_emission rfl (fun _ _ => rfl) (fun _ => rfl) _ _ _
    · simp [success, spanAttribute]
    · simp [count, spanAttribute]

end WebhookEmitter

end VerdictRisk
