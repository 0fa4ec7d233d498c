import AgentPlatform.Base.Raising
import AgentPlatform.ModelGateway.Gateway

/-! # Concurrent generations

`generate` as a program of steps between which the other calls of a gateway may run. All calls share the
ledgers of the budget; everything else answers each call as it likes. -/

namespace AgentPlatform.ModelGateway.Concurrent

open Interleaving Safety

inductive Telemetry where
  | pii (entityTypes : List String) (action : String)
  | contentSafety (categories : List String) (action : String)
  | success (tenant : String) (result : ModelGenerationResult)
  | failure (tenant model provider : String) (outcome : CallOutcome) (duration : Rat)

def Telemetry.action : Telemetry → GatewayAction
  | .pii entityTypes action => .recordedPii entityTypes action
  | .contentSafety categories action => .recordedContentSafety categories action
  | .success tenant result => .recordedSuccess tenant result
  | .failure tenant model provider outcome duration => .recordedFailure tenant model provider outcome duration

inductive Command where
  | scan (text : String)
  | check (text : String)
  | reserve (tenant : String) (cost : Rat)
  | call (request : ModelGenerationRequest)
  | readPerfCounter
  | record (telemetry : Telemetry)

def Reply : Command → Type
  | .scan _ => Except GatewayException PiiScanResult
  | .check _ => Except GatewayException (List ContentSafetyFinding)
  | .reserve .. => Except GatewayException Unit
  | .call _ => Except GatewayException ModelGenerationResult
  | .readPerfCounter => Rat
  | .record _ => Unit

abbrev Generation (α : Type) := Program Command Reply (Except GatewayException α)

def recordMasked (scan : PiiScanResult) : Generation Unit :=
  if scan.findings ≠ [] then
    .command (.record (.pii (scan.findings.map PiiFinding.entityType) "masked")) fun _ => .done (.ok ())
  else .done (.ok ())

def scanAndRecord (text : String) : Generation String :=
  .command (.scan text) fun
    | .ok scan => (recordMasked scan).andThen fun _ => .done (.ok scan.sanitizedText)
    | .error (.piiBlocked error) =>
      .command (.record (.pii error.entityTypes "blocked")) fun _ => .done (.error (.piiBlocked error))
    | .error error => .done (.error error)

def sanitizeMessages : List ChatMessage → Generation (List ChatMessage)
  | [] => .done (.ok [])
  | message :: messages =>
    (scanAndRecord message.content).andThen fun content =>
      (sanitizeMessages messages).andThen fun rest => .done (.ok ({ message with content := content } :: rest))

def checkTexts (policy : ContentSafetyPolicy) : List String → Generation Unit
  | [] => .done (.ok ())
  | text :: texts =>
    if text = "" then checkTexts policy texts
    else
      .command (.check text) fun
        | .ok findings =>
          let blocked := policy.blockedFindings findings
          if blocked ≠ [] then
            .command (.record (.contentSafety (blocked.map fun finding => finding.category.name) "blocked")) fun _ =>
              .done (.error (.contentSafetyBlocked (.violation blocked)))
          else checkTexts policy texts
        | .error (.interrupted name) => .done (.error (.interrupted name))
        | .error _ =>
          .command (.record (.contentSafety ["_unavailable"] "provider_error")) fun _ =>
            .done (.error (.contentSafetyBlocked .unavailable))

section

variable {σ : Type} (gateway : ModelGateway σ)

def checkAllowlist (model : String) : Generation Unit :=
  match gateway.allowlist.check model with
  | .ok () => .done (.ok ())
  | .error error => .done (.error (.modelNotAllowed error))

def applyPiiGuardToRequest (request : ModelGenerationRequest) : Generation ModelGenerationRequest :=
  match gateway.piiControl with
  | some _ => (sanitizeMessages request.messages).andThen fun messages => .done (.ok { request with messages := messages })
  | none => .done (.ok request)

def applyPiiGuardToText (text : String) : Generation String :=
  match gateway.piiControl with
  | some _ => scanAndRecord text
  | none => .done (.ok text)

def applyContentSafetyGuard (texts : List String) : Generation Unit :=
  match gateway.contentSafetyControl with
  | some (_, policy) => checkTexts policy texts
  | none => .done (.ok ())

def checkAndReserve (tenant : String) (cost : Rat) : Generation Unit := .command (.reserve tenant cost) .done

def preflight (request : ModelGenerationRequest) : Generation ModelGenerationRequest :=
  (checkAllowlist gateway request.model).andThen fun _ =>
    (applyPiiGuardToRequest gateway request).andThen fun sanitized =>
      (applyContentSafetyGuard gateway (sanitized.messages.map ChatMessage.content)).andThen fun _ =>
        (checkAndReserve request.tenant (gateway.preflightCost request.model sanitized)).andThen fun _ =>
          .done (.ok sanitized)

def callProvider (sanitized : ModelGenerationRequest) : Generation ModelGenerationResult := .command (.call sanitized) .done

def attempt (sanitized : ModelGenerationRequest) : Generation ModelGenerationResult :=
  (callProvider sanitized).andThen fun raw =>
    (applyPiiGuardToText gateway raw.content).andThen fun content =>
      (applyContentSafetyGuard gateway [content]).andThen fun _ =>
        .done (.ok { raw with
          content := content
          estimatedCostGbp := gateway.pricing.estimateCostGbp raw.model raw.usage })

def attempts (sanitized : ModelGenerationRequest) :
    Nat → CallOutcome → Generation (Except GatewayException ModelGenerationResult × CallOutcome)
  | 0, outcome => .done (.ok (.error (.providerFailure "Model provider timed out on every attempt"), outcome))
  | left + 1, outcome =>
    (attempt gateway sanitized).bind fun
      | .ok result => .done (.ok (.ok result, .success))
      | .error .timeout => attempts sanitized left .timeout
      | .error (.piiBlocked error) => .done (.ok (.error (.piiBlocked error), .piiBlocked))
      | .error (.contentSafetyBlocked error) => .done (.ok (.error (.contentSafetyBlocked error), .contentSafetyBlocked))
      | .error (.providerFailure message) =>
        if left = 0 then .done (.ok (.error (.providerFailure message), .providerError))
        else attempts sanitized left .providerError
      | .error error => .done (.ok (.error error, outcome))

def finish (request sanitized : ModelGenerationRequest) (started : Rat) :
    Except GatewayException ModelGenerationResult × CallOutcome → Generation ModelGenerationResult
  | (.ok result, .success) => .command (.record (.success sanitized.tenant result)) fun _ => .done (.ok result)
  | (result, outcome) =>
    .command .readPerfCounter fun (now : Rat) =>
      .command (.record (.failure request.tenant request.model gateway.providerName outcome (now - started))) fun _ =>
        .done result

def complete (request sanitized : ModelGenerationRequest) : Generation ModelGenerationResult :=
  .command .readPerfCounter fun started =>
    (attempts gateway sanitized gateway.maxAttempts .error).andThen (finish gateway request sanitized started)

def generate (request : ModelGenerationRequest) : Generation ModelGenerationResult :=
  (preflight gateway request).andThen (complete gateway request)

end

/-! ## The program of a call and its computation -/

variable {σ : Type} (gateway : ModelGateway σ)

/-- There is no detector to ask where the guard is off. -/
def performScan (text : String) : GatewayEffect σ (Except GatewayException PiiScanResult) :=
  match gateway.piiControl with
  | some (detector, policy) => Effect.capture (consult detector (text, policy) (.scanned text))
  | none => pure (.error (.raised "AttributeError"))

def performCheck (text : String) : GatewayEffect σ (Except GatewayException (List ContentSafetyFinding)) :=
  match gateway.contentSafetyControl with
  | some (provider, _) => Effect.capture (consult provider text (.checked text))
  | none => pure (.error (.raised "AttributeError"))

/-- A command of a call that runs alone. -/
def perform : (c : Command) → GatewayEffect σ (Reply c)
  | .scan text => performScan gateway text
  | .check text => performCheck gateway text
  | .reserve tenant cost => Effect.capture (gateway.checkAndReserve tenant cost)
  | .call request => Effect.capture (consult gateway.provider request (.called request))
  | .readPerfCounter => gateway.readPerfCounter
  | .record telemetry => Effect.emit telemetry.action

theorem performScan_some {detector : Oracle σ (String × PiiPolicy) PiiScanResult} {policy : PiiPolicy}
    (on : gateway.piiControl = some (detector, policy)) (text : String) :
    performScan gateway text = Effect.capture (consult detector (text, policy) (.scanned text)) := by
  rw [performScan, on]

theorem performCheck_some {provider : Oracle σ String (List ContentSafetyFinding)} {policy : ContentSafetyPolicy}
    (on : gateway.contentSafetyControl = some (provider, policy)) (text : String) :
    performCheck gateway text = Effect.capture (consult provider text (.checked text)) := by
  rw [performCheck, on]

theorem perform_total (c : Command) (world : World σ) (error : GatewayException) (final : World σ)
    (log : List GatewayAction) : perform gateway c world ≠ (.error error, final, log) := by
  intro raised
  cases c with
  | scan text =>
    change performScan gateway text world = _ at raised
    rcases control : gateway.piiControl with _ | ⟨detector, policy⟩ <;> rw [performScan, control] at raised <;> cases raised
  | check text =>
    change performCheck gateway text world = _ at raised
    rcases control : gateway.contentSafetyControl with _ | ⟨provider, policy⟩ <;>
      rw [performCheck, control] at raised <;> cases raised
  | reserve => cases raised
  | call => cases raised
  | readPerfCounter => cases raised
  | record => cases raised

/-- A computation that handles what it captures is the one that handles what it raises. -/
theorem capture_bind_handle {α β : Type} {body : GatewayEffect σ α} {next : Except GatewayException α → GatewayEffect σ β}
    {handler : GatewayException → GatewayEffect σ α} {rest : α → GatewayEffect σ β}
    (returned : ∀ value, next (.ok value) = rest value)
    (raised : ∀ error, next (.error error) = handler error >>= rest) :
    Effect.capture body >>= next = Effect.handle body handler >>= rest := by
  unfold Effect.handle
  rw [Effect.bind_assoc]
  refine congrArg _ (funext fun outcome => ?_)
  cases outcome with
  | ok value => exact (returned value).trans (Effect.pure_bind value rest).symm
  | error error => exact raised error

theorem interpret_command (c : Command) {α : Type} (next : Reply c → Generation α) :
    (Program.command c next).interpret (perform gateway) =
      perform gateway c >>= fun reply => (next reply).interpret (perform gateway) := rfl

theorem interpret_recordMasked (scan : PiiScanResult) :
    (recordMasked scan).interpret (perform gateway) = ModelGateway.recordMasked scan := by
  unfold recordMasked ModelGateway.recordMasked
  split
  · rfl
  · rfl

theorem interpret_scanAndRecord {detector : Oracle σ (String × PiiPolicy) PiiScanResult} {policy : PiiPolicy}
    (on : gateway.piiControl = some (detector, policy)) (text : String) :
    (scanAndRecord text).interpret (perform gateway) = ModelGateway.scanAndRecord detector policy text := by
  unfold scanAndRecord ModelGateway.scanAndRecord
  rw [interpret_command]
  change performScan gateway text >>= _ = _
  rw [performScan_some gateway on]
  refine capture_bind_handle (fun scan => ?_) fun error => ?_
  · change ((recordMasked scan).andThen _).interpret _ = _
    rw [Program.interpret_andThen, interpret_recordMasked]
    rfl
  · cases error <;> rfl

theorem interpret_sanitizeMessages {detector : Oracle σ (String × PiiPolicy) PiiScanResult} {policy : PiiPolicy}
    (on : gateway.piiControl = some (detector, policy)) (messages : List ChatMessage) :
    (sanitizeMessages messages).interpret (perform gateway) = ModelGateway.sanitizeMessages detector policy messages := by
  induction messages with
  | nil => rfl
  | cons message messages ih =>
    unfold sanitizeMessages ModelGateway.sanitizeMessages
    rw [Program.interpret_andThen, interpret_scanAndRecord gateway on]
    refine congrArg _ (funext fun content => ?_)
    rw [Program.interpret_andThen, ih]
    rfl

theorem interpret_applyPiiGuardToRequest (request : ModelGenerationRequest) :
    (applyPiiGuardToRequest gateway request).interpret (perform gateway) = gateway.applyPiiGuardToRequest request := by
  unfold applyPiiGuardToRequest ModelGateway.applyPiiGuardToRequest
  rcases on : gateway.piiControl with _ | ⟨detector, policy⟩
  · rfl
  · dsimp only
    rw [Program.interpret_andThen, interpret_sanitizeMessages gateway on]
    rfl

theorem interpret_applyPiiGuardToText (text : String) :
    (applyPiiGuardToText gateway text).interpret (perform gateway) = gateway.applyPiiGuardToText text := by
  unfold applyPiiGuardToText ModelGateway.applyPiiGuardToText
  rcases on : gateway.piiControl with _ | ⟨detector, policy⟩
  · rfl
  · exact interpret_scanAndRecord gateway on text

theorem interpret_checkTexts {provider : Oracle σ String (List ContentSafetyFinding)} {policy : ContentSafetyPolicy}
    (on : gateway.contentSafetyControl = some (provider, policy)) (texts : List String) :
    (checkTexts policy texts).interpret (perform gateway) = ModelGateway.checkTexts provider policy texts := by
  induction texts with
  | nil => rfl
  | cons text texts ih =>
    unfold checkTexts ModelGateway.checkTexts
    split
    · exact ih
    · rw [interpret_command]
      change performCheck gateway text >>= _ = _
      rw [performCheck_some gateway on]
      refine capture_bind_handle (fun findings => ?_) fun error => ?_
      · dsimp only
        split
        · rfl
        · exact ih
      · cases error <;> rfl

theorem interpret_applyContentSafetyGuard (texts : List String) :
    (applyContentSafetyGuard gateway texts).interpret (perform gateway) = gateway.applyContentSafetyGuard texts := by
  unfold applyContentSafetyGuard ModelGateway.applyContentSafetyGuard
  rcases on : gateway.contentSafetyControl with _ | ⟨provider, policy⟩
  · rfl
  · exact interpret_checkTexts gateway on texts

theorem interpret_checkAllowlist (model : String) :
    (checkAllowlist gateway model).interpret (perform gateway) = gateway.checkAllowlist model := by
  unfold checkAllowlist ModelGateway.checkAllowlist
  cases gateway.allowlist.check model <;> rfl

/-- A command that only captures stands for the computation it captures. -/
theorem captured_eq {α : Type} (body : GatewayEffect σ α) :
    (Effect.capture body >>= fun answer => (.done answer : Program Command Reply (Except GatewayException α)).interpret (perform gateway)) =
      body := by
  funext world
  change Effect.bind (Effect.capture body) _ world = body world
  unfold Effect.bind Effect.capture
  rcases body world with ⟨result, final, log⟩
  cases result with
  | ok value =>
    change (_, _, log ++ []) = _
    rw [List.append_nil]
  | error error =>
    change (_, _, log ++ []) = _
    rw [List.append_nil]

theorem interpret_checkAndReserve (tenant : String) (cost : Rat) :
    (checkAndReserve tenant cost).interpret (perform gateway) = gateway.checkAndReserve tenant cost :=
  captured_eq gateway (gateway.checkAndReserve tenant cost)

theorem interpret_callProvider (sanitized : ModelGenerationRequest) :
    (callProvider sanitized).interpret (perform gateway) = consult gateway.provider sanitized (.called sanitized) :=
  captured_eq gateway (consult gateway.provider sanitized (.called sanitized))

theorem interpret_preflight (request : ModelGenerationRequest) :
    (preflight gateway request).interpret (perform gateway) = gateway.preflight request := by
  unfold preflight ModelGateway.preflight
  rw [Program.interpret_andThen, interpret_checkAllowlist]
  refine congrArg _ (funext fun _ => ?_)
  rw [Program.interpret_andThen, interpret_applyPiiGuardToRequest]
  refine congrArg _ (funext fun sanitized => ?_)
  rw [Program.interpret_andThen, interpret_applyContentSafetyGuard]
  refine congrArg _ (funext fun _ => ?_)
  rw [Program.interpret_andThen, interpret_checkAndReserve]
  rfl

theorem interpret_attempt (sanitized : ModelGenerationRequest) :
    (attempt gateway sanitized).interpret (perform gateway) = gateway.attempt sanitized := by
  unfold attempt ModelGateway.attempt
  rw [Program.interpret_andThen, interpret_callProvider]
  refine congrArg _ (funext fun raw => ?_)
  rw [Program.interpret_andThen, interpret_applyPiiGuardToText]
  refine congrArg _ (funext fun content => ?_)
  rw [Program.interpret_andThen, interpret_applyContentSafetyGuard]
  rfl

theorem interpret_attempts (sanitized : ModelGenerationRequest) (left : Nat) (outcome : CallOutcome) :
    (attempts gateway sanitized left outcome).interpret (perform gateway) = gateway.attempts sanitized left outcome := by
  induction left generalizing outcome with
  | zero => rfl
  | succ left ih =>
    unfold attempts ModelGateway.attempts
    rw [Program.interpret_bind _ (perform_total gateway), interpret_attempt]
    refine congrArg _ (funext fun answer => ?_)
    cases answer with
    | ok result => rfl
    | error error =>
      cases error with
      | timeout => exact ih _
      | providerFailure message =>
        dsimp only
        split
        · rfl
        · exact ih _
      | _ => rfl

theorem interpret_finish (request sanitized : ModelGenerationRequest) (started : Rat)
    (ended : Except GatewayException ModelGenerationResult × CallOutcome) :
    (finish gateway request sanitized started ended).interpret (perform gateway) =
      gateway.finish request sanitized started ended := by
  obtain ⟨result, outcome⟩ := ended
  cases result <;> cases outcome <;> rfl

/-- The computation of the program of a call is `generate`. -/
theorem interpret_generate (request : ModelGenerationRequest) :
    (generate gateway request).interpret (perform gateway) = gateway.generate request := by
  unfold generate ModelGateway.generate
  rw [Program.interpret_andThen, interpret_preflight]
  refine congrArg _ (funext fun sanitized => ?_)
  unfold complete ModelGateway.complete
  rw [interpret_command]
  refine congrArg _ (funext fun started => ?_)
  rw [Program.interpret_andThen, interpret_attempts]
  exact congrArg _ (funext fun ended => interpret_finish gateway request sanitized started ended)

end AgentPlatform.ModelGateway.Concurrent
