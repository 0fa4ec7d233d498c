import AgentPlatform.Base.History
import AgentPlatform.ModelGateway.Gateway

/-! # Mediation

Every control of the gateway stands between a request and the provider, and between the provider's
answer and the caller. -/

set_option linter.dupNamespace false

namespace AgentPlatform.ModelGateway

open Effect Safety

def GatewayAction.OfScan : GatewayAction → Prop
  | .scanned .. | .recordedPii .. => True
  | _ => False

def GatewayAction.OfCheck : GatewayAction → Prop
  | .checked .. | .recordedContentSafety .. => True
  | _ => False

def GatewayAction.OfGuard (action : GatewayAction) : Prop := action.OfScan ∨ action.OfCheck

/-- A call of the provider, or a reservation that the budget accepted. -/
def GatewayAction.Admits : GatewayAction → Prop
  | .called .. | .reserved _ _ _ (.ok ()) => True
  | _ => False

/-- Every check that was made answered, with nothing at or above its threshold. -/
def Passed (policy : ContentSafetyPolicy) (log : List GatewayAction) : Prop :=
  ∀ text result, .checked text result ∈ log →
    ∃ findings, result = .ok findings ∧ policy.blockedFindings findings = []

namespace ModelGateway

variable {σ : Type} (gateway : ModelGateway σ)

/-- The text is what the detector made of another one, when the guard is on. -/
def ScannedAs (log : List GatewayAction) (text clean : String) : Prop :=
  match gateway.piiControl with
  | some _ => ∃ scan, .scanned text (.ok scan) ∈ log ∧ scan.sanitizedText = clean
  | none => clean = text

/-- Every check that was made passed, when the guard is on. -/
def AllPassed (log : List GatewayAction) : Prop :=
  ∀ control ∈ gateway.contentSafetyControl, Passed control.2 log

/-- The texts passed the content safety check, and so did every other, when the guard is on. -/
structure Safe (log : List GatewayAction) (texts : List String) : Prop where
  allPassed : gateway.AllPassed log
  checked : ∀ control ∈ gateway.contentSafetyControl, ∀ text ∈ texts, text ≠ "" →
    ∃ findings, .checked text (.ok findings) ∈ log ∧ control.2.blockedFindings findings = []

/-- The request that goes out is the one that came in, message by message sanitized. -/
structure Sanitized (log : List GatewayAction) (request sent : ModelGenerationRequest) : Prop where
  rest : sent = { request with messages := sent.messages }
  messages : List.Forall₂ (fun original message => message.role = original.role ∧
    gateway.ScannedAs log original.content message.content) request.messages sent.messages

/-- What was done before a request may reach the provider. -/
structure Cleared (request : ModelGenerationRequest) (before : List GatewayAction)
    (sent : ModelGenerationRequest) : Prop where
  allowed : sent.model ∈ gateway.allowlist.allowed
  sanitized : gateway.Sanitized before request sent
  safe : gateway.Safe before (sent.messages.map ChatMessage.content)
  reserved : ∃ now, .reserved now request.tenant (gateway.preflightCost request.model sent) (.ok ()) ∈ before

end ModelGateway

section

variable {σ : Type} {world final : World σ} {log : List GatewayAction}

theorem consult_confined {α β : Type} {oracle : Oracle σ α β} {input : α}
    {action : Except GatewayException β → GatewayAction} {Allowed : GatewayAction → Prop}
    (allowed : ∀ result, Allowed (action result)) :
    Confined World.spend Allowed (consult oracle input action) := by
  intro world result final log ran
  cases ran
  exact ⟨rfl, fun _ member => List.mem_singleton.mp member ▸ allowed _⟩

theorem consult_log {α β : Type} {oracle : Oracle σ α β} {input : α}
    {action : Except GatewayException β → GatewayAction} {result : Except GatewayException β}
    (ran : consult oracle input action world = (result, final, log)) : log = [action result] := by
  cases ran
  rfl

namespace ModelGateway

variable {gateway : ModelGateway σ}

theorem recordMasked_confined (scan : PiiScanResult) :
    Confined World.spend GatewayAction.OfScan (recordMasked scan : GatewayEffect σ Unit) := by
  unfold recordMasked
  split
  · exact Confined.emit trivial
  · exact Confined.pure ()

theorem scanAndRecord_confined (detector : Oracle σ (String × PiiPolicy) PiiScanResult)
    (policy : PiiPolicy) (text : String) :
    Confined World.spend GatewayAction.OfScan (scanAndRecord detector policy text) := by
  refine Confined.bind (Confined.handle (consult_confined fun _ => trivial) fun error => ?_)
    fun scan => (recordMasked_confined scan).bind fun _ => Confined.pure _
  cases error with
  | piiBlocked blocked => exact (Confined.emit trivial).bind fun _ => Confined.raise _
  | _ => exact Confined.raise _

theorem sanitizeMessages_confined (detector : Oracle σ (String × PiiPolicy) PiiScanResult)
    (policy : PiiPolicy) (messages : List ChatMessage) :
    Confined World.spend GatewayAction.OfScan (sanitizeMessages detector policy messages) := by
  induction messages with
  | nil => exact Confined.pure _
  | cons message messages ih =>
    exact (scanAndRecord_confined detector policy message.content).bind fun _ =>
      ih.bind fun _ => Confined.pure _

theorem applyPiiGuardToRequest_confined (gateway : ModelGateway σ) (request : ModelGenerationRequest) :
    Confined World.spend GatewayAction.OfScan (gateway.applyPiiGuardToRequest request) := by
  unfold applyPiiGuardToRequest
  split
  · exact (sanitizeMessages_confined _ _ _).bind fun _ => Confined.pure _
  · exact Confined.pure _

theorem applyPiiGuardToText_confined (gateway : ModelGateway σ) (text : String) :
    Confined World.spend GatewayAction.OfScan (gateway.applyPiiGuardToText text) := by
  unfold applyPiiGuardToText
  split
  · exact scanAndRecord_confined _ _ _
  · exact Confined.pure _

theorem checkTexts_confined (provider : Oracle σ String (List ContentSafetyFinding))
    (policy : ContentSafetyPolicy) (texts : List String) :
    Confined World.spend GatewayAction.OfCheck (checkTexts provider policy texts) := by
  induction texts with
  | nil => exact Confined.pure _
  | cons text texts ih =>
    unfold checkTexts
    split
    · exact ih
    · refine Confined.bind (Confined.handle (consult_confined fun _ => trivial) fun error => ?_)
        fun findings => ?_
      · cases error with
        | interrupted name => exact Confined.raise _
        | _ => exact (Confined.emit trivial).bind fun _ => Confined.raise _
      · dsimp only
        split
        · exact (Confined.emit trivial).bind fun _ => Confined.raise _
        · exact ih

theorem applyContentSafetyGuard_confined (gateway : ModelGateway σ) (texts : List String) :
    Confined World.spend GatewayAction.OfCheck (gateway.applyContentSafetyGuard texts) := by
  unfold applyContentSafetyGuard
  split
  · exact checkTexts_confined _ _ _
  · exact Confined.pure _

theorem scanAndRecord_ok {detector : Oracle σ (String × PiiPolicy) PiiScanResult} {policy : PiiPolicy}
    {text clean : String} (ran : scanAndRecord detector policy text world = (.ok clean, final, log)) :
    ∃ scan, .scanned text (.ok scan) ∈ log ∧ scan.sanitizedText = clean := by
  obtain ⟨scan, middle, before, after, scanned, recorded, rfl⟩ := bind_ok ran
  have asked := handle_ok (fun error state final log ran => by
    cases error with
    | piiBlocked blocked =>
      obtain ⟨_, _, _, _, _, raised, _⟩ := bind_ok ran
      cases (raise_eq.mp raised).1
    | _ => cases (raise_eq.mp ran).1) scanned
  obtain ⟨_, _, _, _, _, returned, _⟩ := bind_ok recorded
  have same := (pure_eq.mp returned).1
  refine ⟨scan, ?_, (Except.ok.inj same).symm⟩
  rw [consult_log asked]
  simp

theorem applyPiiGuardToText_ok {text clean : String}
    (ran : gateway.applyPiiGuardToText text world = (.ok clean, final, log)) :
    gateway.ScannedAs log text clean := by
  unfold applyPiiGuardToText at ran
  unfold ScannedAs
  cases control : gateway.piiControl with
  | none =>
    rw [control] at ran
    exact Except.ok.inj (pure_eq.mp ran).1
  | some pair =>
    rw [control] at ran
    exact scanAndRecord_ok ran

theorem sanitizeMessages_ok {detector : Oracle σ (String × PiiPolicy) PiiScanResult} {policy : PiiPolicy}
    {messages clean : List ChatMessage}
    (ran : sanitizeMessages detector policy messages world = (.ok clean, final, log)) :
    List.Forall₂ (fun original message => message.role = original.role ∧
      ∃ scan, .scanned original.content (.ok scan) ∈ log ∧ scan.sanitizedText = message.content)
      messages clean := by
  induction messages generalizing world final log clean with
  | nil =>
    cases (pure_eq.mp ran).1
    exact List.Forall₂.nil
  | cons message messages ih =>
    obtain ⟨content, _, before, rest, scanned, onward, rfl⟩ := bind_ok ran
    obtain ⟨others, _, middle, after, sanitized, returned, rfl⟩ := bind_ok onward
    cases (pure_eq.mp returned).1
    obtain ⟨scan, member, same⟩ := scanAndRecord_ok scanned
    refine List.Forall₂.cons ⟨rfl, scan, List.mem_append_left _ member, same⟩ ?_
    refine (ih sanitized).imp ?_
    rintro original sent ⟨role, scan, member, same⟩
    exact ⟨role, scan, List.mem_append_right _ (List.mem_append_left _ member), same⟩

theorem applyPiiGuardToRequest_ok {request sanitized : ModelGenerationRequest}
    (ran : gateway.applyPiiGuardToRequest request world = (.ok sanitized, final, log)) :
    gateway.Sanitized log request sanitized := by
  unfold applyPiiGuardToRequest at ran
  cases control : gateway.piiControl with
  | none =>
    rw [control] at ran
    cases (pure_eq.mp ran).1
    refine ⟨rfl, List.forall₂_same.mpr fun message _ => ⟨rfl, ?_⟩⟩
    simp only [ScannedAs, control]
  | some pair =>
    rw [control] at ran
    obtain ⟨messages, _, _, _, sanitizing, returned, rfl⟩ := bind_ok ran
    obtain ⟨same, _, rfl⟩ := pure_eq.mp returned
    cases same
    refine ⟨rfl, (sanitizeMessages_ok sanitizing).imp ?_⟩
    rintro original message ⟨role, scan, member, same⟩
    refine ⟨role, ?_⟩
    simp only [ScannedAs, control, List.append_nil]
    exact ⟨scan, member, same⟩

theorem checkTexts_ok {provider : Oracle σ String (List ContentSafetyFinding)} {policy : ContentSafetyPolicy}
    {texts : List String} (ran : checkTexts provider policy texts world = (.ok (), final, log)) :
    Passed policy log ∧ ∀ text ∈ texts, text ≠ "" →
      ∃ findings, .checked text (.ok findings) ∈ log ∧ policy.blockedFindings findings = [] := by
  induction texts generalizing world final log with
  | nil =>
    obtain ⟨_, _, rfl⟩ := pure_eq.mp ran
    exact ⟨fun _ _ member => absurd member List.not_mem_nil, by simp⟩
  | cons text texts ih =>
    unfold checkTexts at ran
    by_cases empty : text = ""
    · rw [if_pos empty] at ran
      obtain ⟨passed, checked⟩ := ih ran
      refine ⟨passed, fun other member nonempty => ?_⟩
      rcases List.mem_cons.mp member with rfl | later
      · exact absurd empty nonempty
      · exact checked other later nonempty
    · rw [if_neg empty] at ran
      obtain ⟨findings, middle, before, after, asked, onward, rfl⟩ := bind_ok ran
      have answered := handle_ok (fun error state final log ran => by
        cases error with
        | interrupted name => cases (raise_eq.mp ran).1
        | _ =>
          obtain ⟨_, _, _, _, _, raised, _⟩ := bind_ok ran
          cases (raise_eq.mp raised).1) asked
      have first := consult_log answered
      subst first
      by_cases blocked : policy.blockedFindings findings = []
      · rw [if_neg (not_not_intro blocked)] at onward
        obtain ⟨passed, checked⟩ := ih onward
        constructor
        · intro other result member
          rcases List.mem_append.mp member with here | later
          · cases List.mem_singleton.mp here
            exact ⟨findings, rfl, blocked⟩
          · exact passed other result later
        · intro other member nonempty
          rcases List.mem_cons.mp member with rfl | later
          · exact ⟨findings, by simp, blocked⟩
          · obtain ⟨found, inside, clear⟩ := checked other later nonempty
            exact ⟨found, List.mem_append_right _ inside, clear⟩
      · rw [if_pos blocked] at onward
        obtain ⟨_, _, _, _, _, raised, _⟩ := bind_ok onward
        cases (raise_eq.mp raised).1

theorem checkTexts_error {provider : Oracle σ String (List ContentSafetyFinding)}
    {policy : ContentSafetyPolicy} {texts : List String} {error : GatewayException}
    (ran : checkTexts provider policy texts world = (.error error, final, log)) :
    (∃ blocked, error = .contentSafetyBlocked blocked) ∨ ∃ name, error = .interrupted name := by
  induction texts generalizing world final log with
  | nil => cases (pure_eq.mp ran).1
  | cons text texts ih =>
    unfold checkTexts at ran
    by_cases empty : text = ""
    · rw [if_pos empty] at ran
      exact ih ran
    · rw [if_neg empty] at ran
      rcases bind_eq.mp ran with ⟨raised, asked, same⟩ | ⟨findings, _, _, _, _, onward, rfl⟩
      · cases same
        rcases handle_eq.mp asked with ⟨_, _, absurd⟩ | ⟨cause, _, _, _, _, handled, rfl⟩
        · cases absurd
        · cases cause with
          | interrupted name =>
            cases (raise_eq.mp handled).1
            exact .inr ⟨name, rfl⟩
          | _ =>
            rcases bind_eq.mp handled with ⟨_, emitted, _⟩ | ⟨_, _, _, _, _, raising, rfl⟩
            · cases (emit_eq.mp emitted).1
            · cases (raise_eq.mp raising).1
              exact .inl ⟨_, rfl⟩
      · by_cases blocked : policy.blockedFindings findings = []
        · rw [if_neg (not_not_intro blocked)] at onward
          exact ih onward
        · rw [if_pos blocked] at onward
          rcases bind_eq.mp onward with ⟨_, emitted, _⟩ | ⟨_, _, _, _, _, raising, rfl⟩
          · cases (emit_eq.mp emitted).1
          · cases (raise_eq.mp raising).1
            exact .inl ⟨_, rfl⟩

theorem applyContentSafetyGuard_error {texts : List String} {error : GatewayException}
    (ran : gateway.applyContentSafetyGuard texts world = (.error error, final, log)) :
    (∃ blocked, error = .contentSafetyBlocked blocked) ∨ ∃ name, error = .interrupted name := by
  unfold applyContentSafetyGuard at ran
  cases on : gateway.contentSafetyControl with
  | none =>
    rw [on] at ran
    cases (pure_eq.mp ran).1
  | some pair =>
    rw [on] at ran
    exact checkTexts_error ran

theorem applyContentSafetyGuard_ok {texts : List String}
    (ran : gateway.applyContentSafetyGuard texts world = (.ok (), final, log)) : gateway.Safe log texts := by
  unfold applyContentSafetyGuard at ran
  cases on : gateway.contentSafetyControl with
  | none => exact ⟨fun control found => by simp [on] at found, fun control found => by simp [on] at found⟩
  | some pair =>
    rw [on] at ran
    obtain ⟨passed, checked⟩ := checkTexts_ok ran
    constructor <;>
    · intro control found
      rw [on, Option.mem_some_iff] at found
      subst found
      assumption

theorem checkAllowlist_eq {model : String} {result : Except GatewayException Unit}
    (ran : gateway.checkAllowlist model world = (result, final, log)) :
    final = world ∧ log = [] ∧ (result = .ok () ↔ model ∈ gateway.allowlist.allowed) := by
  unfold checkAllowlist ModelAllowlist.check at ran
  by_cases allowed : model ∈ gateway.allowlist.allowed
  · rw [if_pos allowed] at ran
    obtain ⟨rfl, rfl, rfl⟩ := pure_eq.mp ran
    exact ⟨rfl, rfl, by simp [allowed]⟩
  · rw [if_neg allowed] at ran
    obtain ⟨rfl, rfl, rfl⟩ := raise_eq.mp ran
    exact ⟨rfl, rfl, by simp [allowed]⟩

theorem checkAndReserve_cases {tenant : String} {cost : Rat} {result : Except GatewayException Unit}
    (ran : gateway.checkAndReserve tenant cost world = (result, final, log)) :
    ∃ now answer, log = [.reserved now tenant cost answer] ∧
      gateway.budget.checkAndReserve world.spend now tenant cost = (answer, final.spend) ∧
      result = answer.mapError .budgetExceeded := by
  refine ⟨gateway.monotonic world.env, ?_⟩
  rcases answered : gateway.budget.checkAndReserve world.spend (gateway.monotonic world.env) tenant cost
    with ⟨answer, spend⟩
  cases answer <;>
  · simp only [checkAndReserve, answered] at ran
    cases ran
    exact ⟨_, rfl, rfl, rfl⟩

theorem ScannedAs.mono {log more : List GatewayAction} {text clean : String}
    (scanned : gateway.ScannedAs log text clean) (wider : log ⊆ more) :
    gateway.ScannedAs more text clean := by
  unfold ScannedAs at *
  cases on : gateway.piiControl with
  | none => rwa [on] at scanned
  | some pair =>
    rw [on] at scanned
    obtain ⟨scan, member, same⟩ := scanned
    exact ⟨scan, wider member, same⟩

theorem Sanitized.mono {log more : List GatewayAction} {request sent : ModelGenerationRequest}
    (sanitized : gateway.Sanitized log request sent) (wider : log ⊆ more) :
    gateway.Sanitized more request sent where
  rest := sanitized.rest
  messages := sanitized.messages.imp fun _ _ both => ⟨both.1, both.2.mono wider⟩

theorem allPassed_append {first second : List GatewayAction} :
    gateway.AllPassed (first ++ second) ↔ gateway.AllPassed first ∧ gateway.AllPassed second := by
  unfold AllPassed Passed
  constructor
  · intro passed
    exact ⟨fun control on text result member => passed control on text result (List.mem_append_left _ member),
      fun control on text result member => passed control on text result (List.mem_append_right _ member)⟩
  · rintro ⟨passed, passed'⟩ control on text result member
    exact (List.mem_append.mp member).elim (passed control on text result) (passed' control on text result)

theorem allPassed_of_scans {log : List GatewayAction} (scans : ∀ action ∈ log, action.OfScan) :
    gateway.AllPassed log :=
  fun _ _ _ _ member => (scans _ member).elim

theorem allPassed_reserved (now : Rat) (tenant : String) (cost : Rat)
    (answer : Except ModelBudgetExceeded Unit) :
    gateway.AllPassed [.reserved now tenant cost answer] := by
  intro control _ text result member
  cases List.mem_singleton.mp member

theorem allPassed_called (sent : ModelGenerationRequest)
    (answer : Except GatewayException ModelGenerationResult) :
    gateway.AllPassed [.called sent answer] := by
  intro control _ text result member
  cases List.mem_singleton.mp member

theorem Safe.mono {log more : List GatewayAction} {texts : List String} (safe : gateway.Safe log texts)
    (wider : log ⊆ more) (passed : gateway.AllPassed more) : gateway.Safe more texts where
  allPassed := passed
  checked control on text member nonempty := by
    obtain ⟨findings, inside, clear⟩ := safe.checked control on text member nonempty
    exact ⟨findings, wider inside, clear⟩

theorem Cleared.extend {request sent : ModelGenerationRequest} {before more : List GatewayAction}
    (cleared : gateway.Cleared request before sent) (passed : gateway.AllPassed more) :
    gateway.Cleared request (before ++ more) sent where
  allowed := cleared.allowed
  sanitized := cleared.sanitized.mono (List.subset_append_left _ _)
  safe := cleared.safe.mono (List.subset_append_left _ _)
    (allPassed_append.mpr ⟨cleared.safe.allPassed, passed⟩)
  reserved := cleared.reserved.imp fun _ member => List.mem_append_left _ member

theorem preflight_cases {request : ModelGenerationRequest}
    {result : Except GatewayException ModelGenerationRequest}
    (ran : gateway.preflight request world = (result, final, log)) :
    (∃ error, result = .error error ∧ (∀ action ∈ log, action.OfGuard) ∧ final.spend = world.spend) ∨
    ∃ sanitized guards now answer,
      log = guards ++ [.reserved now request.tenant (gateway.preflightCost request.model sanitized) answer] ∧
      (∀ action ∈ guards, action.OfGuard) ∧
      gateway.budget.checkAndReserve world.spend now request.tenant
        (gateway.preflightCost request.model sanitized) = (answer, final.spend) ∧
      (result = match answer with
        | .ok () => .ok sanitized
        | .error error => .error (.budgetExceeded error)) ∧
      request.model ∈ gateway.allowlist.allowed ∧ gateway.Sanitized guards request sanitized ∧
      gateway.Safe guards (sanitized.messages.map ChatMessage.content) := by
  rcases bind_eq.mp ran with ⟨error, listed, rfl⟩ | ⟨_, middle, before, after, listed, guarded, rfl⟩
  · obtain ⟨rfl, rfl, _⟩ := checkAllowlist_eq listed
    exact .inl ⟨error, rfl, by simp, rfl⟩
  obtain ⟨rfl, rfl, allowed⟩ := checkAllowlist_eq listed
  have allowed := allowed.mp rfl
  rw [List.nil_append]
  rcases bind_eq.mp guarded with ⟨error, scanned, rfl⟩ | ⟨sanitized, middle, scans, rest, scanned, checking, rfl⟩
  · obtain ⟨spend, scans⟩ := applyPiiGuardToRequest_confined gateway request scanned
    exact .inl ⟨error, rfl, fun action member => .inl (scans action member), spend⟩
  obtain ⟨spend, ofScan⟩ := applyPiiGuardToRequest_confined gateway request scanned
  have clean := applyPiiGuardToRequest_ok scanned
  rcases bind_eq.mp checking with ⟨error, checked, rfl⟩ | ⟨_, last, checks, tail, checked, reserving, rfl⟩
  · obtain ⟨spend', ofCheck⟩ := applyContentSafetyGuard_confined gateway _ checked
    refine .inl ⟨error, rfl, fun action member => ?_, spend'.trans spend⟩
    exact (List.mem_append.mp member).imp (ofScan action) (ofCheck action)
  obtain ⟨spend', ofCheck⟩ := applyContentSafetyGuard_confined gateway _ checked
  have safe := applyContentSafetyGuard_ok checked
  have ofGuard : ∀ action ∈ scans ++ checks, action.OfGuard :=
    fun action member => (List.mem_append.mp member).imp (ofScan action) (ofCheck action)
  have clean' := clean.mono (List.subset_append_left scans checks)
  have safe' := safe.mono (List.subset_append_right scans checks)
    (allPassed_append.mpr ⟨allPassed_of_scans ofScan, safe.allPassed⟩)
  right
  rcases bind_eq.mp reserving with ⟨error, reserved, rfl⟩ | ⟨_, end_, entry, none, reserved, returned, rfl⟩
  · obtain ⟨now, answer, rfl, answered, same⟩ := checkAndReserve_cases reserved
    rw [spend', spend] at answered
    refine ⟨sanitized, scans ++ checks, now, answer, by simp, ofGuard, answered, ?_, allowed, clean', safe'⟩
    cases answer with
    | ok _ => cases same
    | error _ =>
      cases same
      rfl
  · obtain ⟨now, answer, rfl, answered, same⟩ := checkAndReserve_cases reserved
    obtain ⟨rfl, rfl, rfl⟩ := pure_eq.mp returned
    rw [spend', spend] at answered
    refine ⟨sanitized, scans ++ checks, now, answer, by simp, ofGuard, answered, ?_, allowed, clean', safe'⟩
    cases answer with
    | ok _ => rfl
    | error _ => cases same

/-- The failures that the loop answers with another attempt. -/
def Retried : GatewayException → Prop
  | .timeout | .providerFailure _ => True
  | _ => False

/-- An attempt calls the provider once, with the sanitized request; a result it returns went through both
    guards, and a failure it may be retried after left no failed check. -/
theorem attempt_cases {sanitized : ModelGenerationRequest}
    {result : Except GatewayException ModelGenerationResult}
    (ran : gateway.attempt sanitized world = (result, final, log)) :
    ∃ answer rest, log = .called sanitized answer :: rest ∧ (∀ action ∈ rest, action.OfGuard) ∧
      final.spend = world.spend ∧
      (∀ value, result = .ok value → ∃ raw scans checks, answer = .ok raw ∧ rest = scans ++ checks ∧
        gateway.ScannedAs scans raw.content value.content ∧ gateway.Safe checks [value.content] ∧
        value = { raw with content := value.content,
                           estimatedCostGbp := gateway.pricing.estimateCostGbp raw.model raw.usage }) ∧
      ∀ error, result = .error error → Retried error → gateway.AllPassed rest := by
  have called {answer : Except GatewayException ModelGenerationResult} {after : World σ}
      {before : List GatewayAction}
      (asked : consult gateway.provider sanitized (.called sanitized) world = (answer, after, before)) :
      after.spend = world.spend ∧ before = [.called sanitized answer] :=
    ⟨((consult_confined fun _ => trivial : Confined World.spend (fun _ => True) _) asked).1, consult_log asked⟩
  rcases bind_eq.mp ran with ⟨error, asked, rfl⟩ | ⟨raw, after, before, rest, asked, scanning, rfl⟩
  · obtain ⟨spend, rfl⟩ := called asked
    exact ⟨_, [], rfl, by simp, spend, by simp, fun _ _ _ => allPassed_of_scans (by simp)⟩
  obtain ⟨spend, rfl⟩ := called asked
  rcases bind_eq.mp scanning with ⟨error, scanned, rfl⟩ | ⟨content, middle, scans, tail, scanned, checking, rfl⟩
  · obtain ⟨spend', ofScan⟩ := applyPiiGuardToText_confined gateway _ scanned
    exact ⟨_, rest, rfl, fun action member => .inl (ofScan action member), spend'.trans spend, by simp,
      fun _ _ _ => allPassed_of_scans ofScan⟩
  obtain ⟨spend', ofScan⟩ := applyPiiGuardToText_confined gateway _ scanned
  rcases bind_eq.mp checking with ⟨error, checked, rfl⟩ | ⟨_, last, checks, none, checked, returned, rfl⟩
  · obtain ⟨spend'', ofCheck⟩ := applyContentSafetyGuard_confined gateway _ checked
    refine ⟨_, scans ++ tail, rfl, fun action member => ?_, spend''.trans (spend'.trans spend), by simp, ?_⟩
    · exact (List.mem_append.mp member).imp (ofScan action) (ofCheck action)
    · intro raised same retried
      cases same
      rcases applyContentSafetyGuard_error checked with ⟨_, rfl⟩ | ⟨_, rfl⟩ <;> cases retried
  · obtain ⟨spend'', ofCheck⟩ := applyContentSafetyGuard_confined gateway _ checked
    obtain ⟨rfl, rfl, rfl⟩ := pure_eq.mp returned
    rw [List.append_nil]
    refine ⟨_, scans ++ checks, rfl, fun action member => ?_, spend''.trans (spend'.trans spend), ?_, by simp⟩
    · exact (List.mem_append.mp member).imp (ofScan action) (ofCheck action)
    · intro value same
      cases same
      exact ⟨raw, scans, checks, rfl, rfl, applyPiiGuardToText_ok scanned,
        applyContentSafetyGuard_ok checked, rfl⟩

theorem attempts_succ {sanitized : ModelGenerationRequest} {left : Nat} {outcome : CallOutcome}
    {result : Except GatewayException (Except GatewayException ModelGenerationResult × CallOutcome)}
    (ran : gateway.attempts sanitized (left + 1) outcome world = (result, final, log)) :
    (∃ error middle first rest outcome', gateway.attempt sanitized world = (.error error, middle, first) ∧
      Retried error ∧ gateway.attempts sanitized left outcome' middle = (result, final, rest) ∧
      log = first ++ rest) ∨
    ∃ inner label, gateway.attempt sanitized world = (inner, final, log) ∧ result = .ok (inner, label) ∧
      ∀ value, inner = .ok value → label = .success := by
  unfold attempts at ran
  rcases bind_eq.mp ran with ⟨_, captured, _⟩ | ⟨inner, middle, first, rest, captured, next, rfl⟩
  · obtain ⟨_, absurd, _⟩ := capture_eq.mp captured
    cases absurd
  obtain ⟨_, same, attempted⟩ := capture_eq.mp captured
  cases same
  have left_with {label : CallOutcome}
      (returned : (pure (inner, label) : GatewayEffect σ _) middle = (result, final, rest))
      (success : ∀ value, inner = .ok value → label = .success) :
      ∃ inner label, gateway.attempt sanitized world = (inner, final, first ++ rest) ∧
        result = .ok (inner, label) ∧ ∀ value, inner = .ok value → label = .success := by
    obtain ⟨rfl, rfl, rfl⟩ := pure_eq.mp returned
    rw [List.append_nil]
    exact ⟨inner, label, attempted, rfl, success⟩
  cases inner with
  | ok value => exact .inr (left_with next fun _ _ => rfl)
  | error error =>
    cases error with
    | timeout => exact .inl ⟨_, middle, first, rest, _, attempted, trivial, next, rfl⟩
    | providerFailure message =>
      by_cases last : left = 0
      · simp only [if_pos last] at next
        exact .inr (left_with next (by simp))
      · simp only [if_neg last] at next
        exact .inl ⟨_, middle, first, rest, _, attempted, trivial, next, rfl⟩
    | _ => exact .inr (left_with next (by simp))

theorem attempts_returns {sanitized : ModelGenerationRequest} {left : Nat} {outcome : CallOutcome}
    {result : Except GatewayException (Except GatewayException ModelGenerationResult × CallOutcome)}
    (ran : gateway.attempts sanitized left outcome world = (result, final, log)) :
    ∃ ended, result = .ok ended := by
  induction left generalizing outcome world log with
  | zero => exact ⟨_, (pure_eq.mp ran).1⟩
  | succ left ih =>
    rcases attempts_succ ran with ⟨_, _, _, _, _, _, _, onward, _⟩ | ⟨inner, label, _, same, _⟩
    · exact ih onward
    · exact ⟨_, same⟩

/-- A result that the retry loop leaves with came from its last call and went through both guards. -/
def Returned (gateway : ModelGateway σ) (log : List GatewayAction) (sanitized : ModelGenerationRequest)
    (value : ModelGenerationResult) : Prop :=
  ∃ earlier raw scans checks, log = earlier ++ .called sanitized (.ok raw) :: (scans ++ checks) ∧
    gateway.ScannedAs scans raw.content value.content ∧ gateway.Safe checks [value.content] ∧
    value = { raw with content := value.content,
                       estimatedCostGbp := gateway.pricing.estimateCostGbp raw.model raw.usage }

/-- Whenever the provider is called, after what was done before, the request was cleared. -/
def CallsCleared (gateway : ModelGateway σ) (request : ModelGenerationRequest)
    (before log : List GatewayAction) : Prop :=
  Throughout (fun earlier action => ∀ sent answer, action = .called sent answer →
    gateway.Cleared request (before ++ earlier) sent) log

theorem attempts_spec {request sanitized : ModelGenerationRequest} {before : List GatewayAction}
    (cleared : gateway.Cleared request before sanitized) {left : Nat} {outcome : CallOutcome}
    {ended : Except GatewayException ModelGenerationResult × CallOutcome}
    (ran : gateway.attempts sanitized left outcome world = (.ok ended, final, log)) :
    final.spend = world.spend ∧
      (∀ action ∈ log, action.OfGuard ∨ ∃ answer, action = .called sanitized answer) ∧
      gateway.CallsCleared request before log ∧
      ∀ value, ended.1 = .ok value → ended.2 = .success ∧ gateway.Returned log sanitized value := by
  induction left generalizing before outcome world log with
  | zero =>
    obtain ⟨same, rfl, rfl⟩ := pure_eq.mp ran
    cases same
    exact ⟨rfl, by simp, Throughout.nil _, by simp⟩
  | succ left ih =>
    have calls {answer : Except GatewayException ModelGenerationResult} {rest : List GatewayAction}
        (ofGuard : ∀ action ∈ rest, action.OfGuard) :
        gateway.CallsCleared request before (.called sanitized answer :: rest) := by
      refine Throughout.cons ?_ (Throughout.of_forall_mem fun action member _ sent answer same => ?_)
      · intro sent answer same
        cases same
        rwa [List.append_nil]
      · subst same
        exact (ofGuard _ member).elim False.elim False.elim
    have actions {answer : Except GatewayException ModelGenerationResult} {rest : List GatewayAction}
        (ofGuard : ∀ action ∈ rest, action.OfGuard) :
        ∀ action ∈ GatewayAction.called sanitized answer :: rest,
          action.OfGuard ∨ ∃ answer, action = .called sanitized answer := by
      intro action member
      rcases List.mem_cons.mp member with rfl | later
      · exact .inr ⟨answer, rfl⟩
      · exact .inl (ofGuard action later)
    rcases attempts_succ ran with
      ⟨error, middle, first, rest, outcome', attempted, retried, onward, rfl⟩ |
      ⟨inner, label, attempted, same, success⟩
    · obtain ⟨answer, tail, rfl, ofGuard, spend, _, passed⟩ := attempt_cases attempted
      have passed : gateway.AllPassed ([.called sanitized answer] ++ tail) :=
        allPassed_append.mpr ⟨allPassed_called _ _, passed error rfl retried⟩
      obtain ⟨spend', ofAttempt, later, returned⟩ := ih (cleared.extend passed) onward
      refine ⟨spend'.trans spend, ?_, ?_, fun value same => ?_⟩
      · intro action member
        exact (List.mem_append.mp member).elim (actions ofGuard action) (ofAttempt action)
      · refine Throughout.append (calls ofGuard) ?_
        simpa only [CallsCleared, List.append_assoc, List.singleton_append] using later
      · obtain ⟨label, earlier, raw, scans, checks, rfl, facts⟩ := returned value same
        exact ⟨label, _, raw, scans, checks, by rw [← List.append_assoc], facts⟩
    · cases same
      obtain ⟨answer, tail, rfl, ofGuard, spend, returned, _⟩ := attempt_cases attempted
      refine ⟨spend, actions ofGuard, calls ofGuard, fun value same => ?_⟩
      obtain ⟨raw, scans, checks, rfl, rfl, facts⟩ := returned value same
      exact ⟨success value same, [], raw, scans, checks, rfl, facts⟩

/-- `complete` leaves the loop's result, and adds the telemetry of the call to what the loop did. -/
theorem complete_cases {request sanitized : ModelGenerationRequest}
    {result : Except GatewayException ModelGenerationResult}
    (ran : gateway.complete request sanitized world = (result, final, log)) :
    ∃ ended attempted record, gateway.attempts sanitized gateway.maxAttempts .error world =
        (.ok ended, final, attempted) ∧ log = attempted ++ [record] ∧ result = ended.1 ∧
      ((∃ value, ended = (.ok value, .success) ∧ record = .recordedSuccess sanitized.tenant value) ∨
        (∀ value, ended ≠ (.ok value, .success)) ∧ ∃ duration, record =
          .recordedFailure request.tenant request.model gateway.providerName ended.2 duration) := by
  have clock {world after : World σ} {log : List GatewayAction} {result : Except GatewayException Rat}
      (read : gateway.readPerfCounter world = (result, after, log)) :
      (∃ value, result = .ok value) ∧ after = world ∧ log = [] := by
    cases read
    exact ⟨⟨_, rfl⟩, rfl, rfl⟩
  rcases bind_eq.mp ran with ⟨_, read, _⟩ | ⟨started, _, _, _, read, onward, rfl⟩
  · obtain ⟨⟨_, absurd⟩, _⟩ := clock read
    cases absurd
  obtain ⟨_, rfl, rfl⟩ := clock read
  rcases bind_eq.mp onward with ⟨_, looped, _⟩ | ⟨ended, after, attempted, tail, looped, finished, rfl⟩
  · obtain ⟨_, absurd⟩ := attempts_returns looped
    cases absurd
  unfold finish at finished
  split at finished
  · rename_i value
    rcases bind_eq.mp finished with ⟨_, emitted, _⟩ | ⟨_, _, _, _, emitted, returned, rfl⟩
    · cases (emit_eq.mp emitted).1
    · obtain ⟨_, rfl, rfl⟩ := emit_eq.mp emitted
      obtain ⟨rfl, rfl, rfl⟩ := pure_eq.mp returned
      exact ⟨_, attempted, _, looped, rfl, rfl, .inl ⟨value, rfl, rfl⟩⟩
  · rename_i inner label failed
    have failed : ∀ value, (inner, label) ≠ (.ok value, .success) := by
      intro value same
      cases same
      exact failed value rfl rfl
    rcases bind_eq.mp finished with ⟨_, read, _⟩ | ⟨now, _, _, _, read, recording, rfl⟩
    · obtain ⟨⟨_, absurd⟩, _⟩ := clock read
      cases absurd
    obtain ⟨_, rfl, rfl⟩ := clock read
    rcases bind_eq.mp recording with ⟨_, emitted, _⟩ | ⟨_, _, _, _, emitted, leaving, rfl⟩
    · cases (emit_eq.mp emitted).1
    obtain ⟨_, rfl, rfl⟩ := emit_eq.mp emitted
    cases inner with
    | ok value =>
      obtain ⟨rfl, rfl, rfl⟩ := pure_eq.mp leaving
      exact ⟨_, attempted, .recordedFailure _ _ _ label (now - started), looped, rfl, rfl,
        .inr ⟨failed, _, rfl⟩⟩
    | error error =>
      obtain ⟨rfl, rfl, rfl⟩ := raise_eq.mp leaving
      exact ⟨_, attempted, .recordedFailure _ _ _ label (now - started), looped, rfl, rfl,
        .inr ⟨failed, _, rfl⟩⟩

end ModelGateway

end

/-- What the controls make sure of in one call of `generate`, from its start to its end. -/
structure ModelGateway.Mediated {σ : Type} (gateway : ModelGateway σ) (request : ModelGenerationRequest)
    (start : World σ)
    (run : Except GatewayException ModelGenerationResult × World σ × List GatewayAction) : Prop where
  calls : ∀ before sent answer after, run.2.2 = before ++ .called sent answer :: after →
    gateway.Cleared request before sent
  returned : ∀ value, run.1 = .ok value → ∃ before sent after,
    run.2.2 = before ++ after ++ [.recordedSuccess request.tenant value] ∧
      gateway.Returned after sent value
  reserves : (∃ before sent now after,
      run.2.2 = before ++ .reserved now request.tenant (gateway.preflightCost request.model sent) (.ok ()) ::
        after ∧
      gateway.budget.checkAndReserve start.spend now request.tenant
        (gateway.preflightCost request.model sent) = (.ok (), run.2.1.spend)) ∨
    (∀ action ∈ run.2.2, ¬ action.Admits) ∧ ∀ tenant, run.2.1.spend tenant <:+ start.spend tenant
  rejected : ∀ error after log, gateway.preflight request start = (.error error, after, log) →
    run = (.error error, after, log) ∧ (∀ action ∈ log, ¬ action.Admits) ∧
      ∀ tenant, after.spend tenant <:+ start.spend tenant

theorem ModelGateway.preflight_rejects {σ : Type} {gateway : ModelGateway σ}
    {request : ModelGenerationRequest} {start after : World σ} {error : GatewayException}
    {log : List GatewayAction} (ran : gateway.preflight request start = (.error error, after, log)) :
    (∀ action ∈ log, ¬ action.Admits) ∧ ∀ tenant, after.spend tenant <:+ start.spend tenant := by
  have guards_admit_nothing : ∀ action : GatewayAction, action.OfGuard → ¬ action.Admits := by
    rintro action (scan | check) admits
    all_goals cases action <;> first | exact scan | exact check | exact admits
  rcases preflight_cases ran with
    ⟨_, _, ofGuard, spend⟩ | ⟨sanitized, guards, now, answer, rfl, ofGuard, answered, same, _⟩
  · rw [spend]
    exact ⟨fun action member => guards_admit_nothing action (ofGuard action member), fun _ => List.suffix_rfl⟩
  · cases answer with
    | ok _ => cases same
    | error refusal =>
      refine ⟨fun action member => ?_, TenantBudgetPolicy.refused_suffix answered⟩
      rcases List.mem_append.mp member with guard | last
      · exact guards_admit_nothing action (ofGuard action guard)
      · rw [List.mem_singleton.mp last]
        exact id

/-- What the provider is offered was cleared, and its reservation was accepted. -/
theorem ModelGateway.preflight_admits {σ : Type} {gateway : ModelGateway σ}
    {request sanitized : ModelGenerationRequest} {start after : World σ} {log : List GatewayAction}
    (ran : gateway.preflight request start = (.ok sanitized, after, log)) :
    ∃ guards now, log = guards ++
        [.reserved now request.tenant (gateway.preflightCost request.model sanitized) (.ok ())] ∧
      (∀ action ∈ guards, action.OfGuard) ∧
      gateway.budget.checkAndReserve start.spend now request.tenant
        (gateway.preflightCost request.model sanitized) = (.ok (), after.spend) ∧
      gateway.Cleared request log sanitized := by
  rcases preflight_cases ran with
    ⟨_, absurd, _⟩ | ⟨other, guards, now, answer, rfl, ofGuard, answered, same, allowed, clean, safe⟩
  · cases absurd
  cases answer with
  | error _ => cases same
  | ok _ =>
    cases same
    refine ⟨guards, now, rfl, ofGuard, answered, ?_, clean.mono (List.subset_append_left _ _), ?_, now, by simp⟩
    · rw [clean.rest]
      exact allowed
    · exact safe.mono (List.subset_append_left _ _)
        (allPassed_append.mpr ⟨safe.allPassed, allPassed_reserved _ _ _ _⟩)

/-- Complete mediation, for every configuration, request and behaviour of the environment. -/
theorem ModelGateway.generate_mediated {σ : Type} (gateway : ModelGateway σ)
    (request : ModelGenerationRequest) (start : World σ) :
    gateway.Mediated request start (gateway.generate request start) := by
  rcases ran : gateway.generate request start with ⟨result, final, trace⟩
  rcases bind_eq.mp ran with ⟨error, stopped, rfl⟩ | ⟨sanitized, middle, first, second, passed, completed, rfl⟩
  · obtain ⟨nothing, ledgers⟩ := preflight_rejects stopped
    refine ⟨?_, by simp, .inr ⟨nothing, ledgers⟩, ?_⟩
    · intro before sent answer after same
      dsimp only at same
      exact absurd trivial (nothing (.called sent answer) (by rw [same]; simp))
    · intro error' after log stopped'
      rw [stopped] at stopped'
      cases stopped'
      exact ⟨rfl, nothing, ledgers⟩
  · obtain ⟨guards, now, rfl, ofGuard, answered, cleared⟩ := preflight_admits passed
    obtain ⟨ended, attempted, record, looped, rfl, rfl, telemetry⟩ := complete_cases completed
    obtain ⟨spend, _, calls, returned⟩ := attempts_spec cleared looped
    have cleared_calls : gateway.CallsCleared request [] (guards ++ [.reserved now request.tenant
        (gateway.preflightCost request.model sanitized) (.ok ())] ++ (attempted ++ [record])) := by
      refine Throughout.append (Throughout.of_forall_mem ?_) (Throughout.append ?_ ?_)
      · rintro action member before sent answer rfl
        rcases List.mem_append.mp member with guard | last
        · exact (ofGuard _ guard).elim False.elim False.elim
        · cases List.mem_singleton.mp last
      · exact calls
      · refine Throughout.of_forall_mem ?_
        rintro action member before sent answer rfl
        cases List.mem_singleton.mp member
        rcases telemetry with ⟨_, _, absurd⟩ | ⟨_, _, absurd⟩ <;> cases absurd
    refine ⟨?_, ?_, .inl ⟨guards, sanitized, now, attempted ++ [record], by simp, ?_⟩, ?_⟩
    · intro before sent answer after same
      exact cleared_calls before (.called sent answer) after same sent answer rfl
    · intro value same
      obtain ⟨success, from_call⟩ := returned value same
      rcases telemetry with ⟨value', rfl, rfl⟩ | ⟨failed, _⟩
      · cases same
        refine ⟨guards ++ [.reserved now request.tenant (gateway.preflightCost request.model sanitized) (.ok ())],
          sanitized, attempted, ?_, from_call⟩
        have tenant : sanitized.tenant = request.tenant := by rw [cleared.sanitized.rest]
        simp only [tenant, List.append_assoc]
      · exact absurd (Prod.ext same success) (failed value)
    · rw [spend]
      exact answered
    · intro error after log stopped
      rw [passed] at stopped
      cases stopped

end AgentPlatform.ModelGateway
