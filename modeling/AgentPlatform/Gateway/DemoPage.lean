import AgentPlatform.Base.Html
import AgentPlatform.Gateway.Investigate
import AgentPlatform.Gateway.ModelRoutes

/-! # The demo page

The forms and results that the gateway shows to a browser, for any tenants, queries, evidence and answers. -/

namespace AgentPlatform.Gateway

open Html McpBoundary ModelGateway Orchestration Python Rag Rag.AzureSearch State Tenancy

/-- `html.escape`. -/
def htmlEscape (text : String) : String :=
  replaceChar '\'' "&#x27;" (replaceChar '"' "&quot;" (replaceChar '>' "&gt;" (replaceChar '<' "&lt;"
    (replaceChar '&' "&amp;" text))))

def sourceTypeName : EvidenceSource → String
  | .customer => "customer"
  | .account => "account"
  | .transaction => "transaction"
  | .policy => "policy"

/-- `str` of a boolean. -/
def boolText (value : Bool) : String := if value then "True" else "False"

/-- What `create_app` keeps for the demo page, with the formats of Python that it uses. -/
structure DemoSite where
  apiPrefix : String
  registry : TenantRegistry
  /-- `str` of an exception. -/
  describe : GatewayException → String
  /-- The format `.2f`. -/
  twoDecimals : Rat → String

namespace DemoSite

variable (site : DemoSite)

/-! ## The texts of the page -/

def pageHead : String :=
  "<!doctype html>\n<html lang=\"en\">\n<head><meta charset=\"utf-8\"><title>NovaBank AI Agent Platform — Demo</title></head>\n<body>\n<h1>NovaBank AI Agent Platform — Live Demo</h1>\n<p>"

def pageIntroduction : String :=
  "Synthetic data only. Requests here run as a fixed demo user identity\n(subject=browser-demo, roles=agent.invoke) acting on behalf of whichever\ntenant you pick below; access to this deployment is controlled by IP\nrestriction, not this form. Switching the tenant changes what the same\nquestion can retrieve — that isolation is enforced server-side, not by\nthis form hiding options."

def investigateTitle : String := "</p>\n\n<h2>Investigate a customer</h2>\n"

def formOpening : String := "<form method=\"post\" action=\""

def investigateAction : String := "/demo/investigate\">"

def selectOpening : String := "\n  <label>Tenant: <select name=\"tenant\">"

def investigateQuery : String :=
  "</select></label>\n  <label>Query:\n    <input type=\"text\" name=\"query\" size=\"60\"\n           value=\"Look up account status for customer CUST-1098\">\n  </label>\n  <button type=\"submit\">Investigate</button>\n</form>\n"

def ragTitle : String := "\n<h2>Ask a policy question</h2>\n"

def ragAction : String := "/demo/rag\">"

def ragQuery : String :=
  "</select></label>\n  <label>Query:\n    <input type=\"text\" name=\"query\" size=\"60\"\n           value=\"What is required before a refund above GBP 100 can be approved?\">\n  </label>\n  <button type=\"submit\">Ask</button>\n</form>\n\n"

def pageEnd : String := "\n</body>\n</html>"

/-- `_demo_tenant_options`. -/
def tenantOptions : String :=
  String.join ((sorted site.registry.names.val).map fun name =>
    "<option value=\"" ++ htmlEscape name ++ "\">" ++ htmlEscape name ++ "</option>")

/-- `_demo_page`. -/
def demoPage (resultHtml : String) : String :=
  pageHead ++ pageIntroduction ++ investigateTitle ++ formOpening ++ site.apiPrefix ++ investigateAction ++
    selectOpening ++ site.tenantOptions ++ investigateQuery ++ ragTitle ++ formOpening ++ site.apiPrefix ++ ragAction ++
    selectOpening ++ site.tenantOptions ++ ragQuery ++ resultHtml ++ pageEnd

def evidenceItems (evidence : List Evidence) : String :=
  String.join (evidence.map fun item =>
    "<li>" ++ htmlEscape item.sourceId ++ " (" ++ htmlEscape (sourceTypeName item.sourceType) ++ "): " ++
      htmlEscape item.detail ++ "</li>")

/-- The page of an investigation. -/
def investigationPage (decision : RoutingDecision) (result : AgentResult) : String :=
  site.demoPage ("\n<h2>Result</h2>\n<p><b>Route:</b> " ++ htmlEscape decision.route.name ++ "\n   — " ++
    htmlEscape decision.reason ++ "</p>\n<p><b>Agent:</b> " ++ htmlEscape result.agent.name ++
    "</p>\n<p><b>Summary:</b> " ++ htmlEscape result.summary ++ "</p>\n<ul>" ++ evidenceItems result.evidence ++
    "</ul>\n<p><b>Requires human approval:</b> " ++ boolText result.requiresHumanApproval ++ "</p>\n")

def noVisibleText : String :=
  "<i>(the model returned no visible text — its response budget was spent on internal reasoning; see docs/portfolio/live-verification.md)</i>"

def answerHtml (answer : String) : String :=
  if htmlEscape answer = "" then noVisibleText else htmlEscape answer

def citationItems (chunkIds : List String) : String :=
  String.join (chunkIds.map fun chunkId => "<li>" ++ htmlEscape chunkId ++ "</li>")

/-- The page of an answer. -/
def answerPage (answer : DemoAnswer) : String :=
  site.demoPage ("\n<h2>Answer</h2>\n<p>" ++ answerHtml answer.answer ++ "</p>\n<p><b>Grounded:</b> " ++
    boolText answer.isGrounded ++ "\n   (term overlap " ++ site.twoDecimals answer.termOverlapScore ++ ")</p>\n<ul>" ++
    citationItems answer.chunkIds ++ "</ul>\n")

def refusalPage (error : GatewayException) : String :=
  site.demoPage ("<h2>Blocked</h2><p>" ++ htmlEscape (site.describe error) ++ "</p>")

/-- The page of a reply of `demo_rag`. -/
def ragPage : RouteReply → Option String
  | .page (.ok answer) => some (site.answerPage answer)
  | .page (.error error) => some (site.refusalPage error)
  | _ => none

/-! ## Their segments -/

/-- The names of the elements and attributes of the page. -/
def vocabulary : List (List Char) :=
  [['d', 'o', 'c', 't', 'y', 'p', 'e'], ['h', 't', 'm', 'l'], ['l', 'a', 'n', 'g'], ['h', 'e', 'a', 'd'],
    ['m', 'e', 't', 'a'], ['c', 'h', 'a', 'r', 's', 'e', 't'], ['t', 'i', 't', 'l', 'e'], ['b', 'o', 'd', 'y'],
    ['h', '1'], ['h', '2'], ['p'], ['f', 'o', 'r', 'm'],
    ['m', 'e', 't', 'h', 'o', 'd'], ['a', 'c', 't', 'i', 'o', 'n'], ['l', 'a', 'b', 'e', 'l'], ['s', 'e', 'l', 'e', 'c', 't'],
    ['n', 'a', 'm', 'e'], ['o', 'p', 't', 'i', 'o', 'n'], ['v', 'a', 'l', 'u', 'e'], ['i', 'n', 'p', 'u', 't'],
    ['t', 'y', 'p', 'e'], ['s', 'i', 'z', 'e'], ['b', 'u', 't', 't', 'o', 'n'], ['u', 'l'],
    ['l', 'i'], ['b'], ['i']]

def optionSegments (name : String) : List Segment :=
  markup "<option value=\"" ++ content name ++ markup "\">" ++ content name ++ markup "</option>"

def optionsSegments : List Segment := (sorted site.registry.names.val).flatMap optionSegments

def formSegments (action query : String) : List Segment :=
  markup formOpening ++ markup site.apiPrefix ++ markup action ++ markup selectOpening ++ site.optionsSegments ++
    markup query

def pageSegments (result : List Segment) : List Segment :=
  markup pageHead ++ markup pageIntroduction ++ markup investigateTitle ++
    site.formSegments investigateAction investigateQuery ++ markup ragTitle ++ site.formSegments ragAction ragQuery ++
    result ++ markup pageEnd

def evidenceSegments (item : Evidence) : List Segment :=
  markup "<li>" ++ content item.sourceId ++ markup " (" ++ content (sourceTypeName item.sourceType) ++
    markup "): " ++ content item.detail ++ markup "</li>"

def investigationSegments (decision : RoutingDecision) (result : AgentResult) : List Segment :=
  markup "\n<h2>Result</h2>\n<p><b>Route:</b> " ++ content decision.route.name ++ markup "\n   — " ++
    content decision.reason ++ markup "</p>\n<p><b>Agent:</b> " ++ content result.agent.name ++
    markup "</p>\n<p><b>Summary:</b> " ++ content result.summary ++ markup "</p>\n<ul>" ++
    result.evidence.flatMap evidenceSegments ++ markup "</ul>\n<p><b>Requires human approval:</b> " ++
    content (boolText result.requiresHumanApproval) ++ markup "</p>\n"

@[irreducible] def answerSegments (answer : String) : List Segment :=
  if htmlEscape answer = "" then markup noVisibleText else content answer

def citationSegments (chunkId : String) : List Segment := markup "<li>" ++ content chunkId ++ markup "</li>"

def ragSegments (answer : DemoAnswer) : List Segment :=
  markup "\n<h2>Answer</h2>\n<p>" ++ answerSegments answer.answer ++ markup "</p>\n<p><b>Grounded:</b> " ++
    content (boolText answer.isGrounded) ++ markup "\n   (term overlap " ++
    content (site.twoDecimals answer.termOverlapScore) ++ markup ")</p>\n<ul>" ++
    answer.chunkIds.flatMap citationSegments ++ markup "</ul>\n"

def refusalSegments (error : GatewayException) : List Segment :=
  markup "<h2>Blocked</h2><p>" ++ content (site.describe error) ++ markup "</p>"

theorem htmlEscape_toList (text : String) : (htmlEscape text).toList = escape text.toList := by
  have ampersand : "&amp;".toList = ['&', 'a', 'm', 'p', ';'] := toList_spelled rfl
  have less : "&lt;".toList = ['&', 'l', 't', ';'] := toList_spelled rfl
  have greater : "&gt;".toList = ['&', 'g', 't', ';'] := toList_spelled rfl
  have double : "&quot;".toList = ['&', 'q', 'u', 'o', 't', ';'] := toList_spelled rfl
  have single : "&#x27;".toList = ['&', '#', 'x', '2', '7', ';'] := toList_spelled rfl
  unfold htmlEscape replaceChar
  simp only [String.toList_ofList, List.flatMap_assoc, ampersand, less, greater, double, single]
  apply List.flatMap_congr
  intro c _
  by_cases special : entity c = none
  · obtain ⟨first, second, third, fourth, fifth⟩ := special_of_entity special
    simp [escapeChar, special, first, second, third, fourth, fifth]
  · obtain ⟨name, named⟩ := Option.ne_none_iff_exists'.mp special
    rw [escapeChar_of_entity named]
    rcases entity_cases named with ⟨rfl, rfl⟩ | ⟨rfl, rfl⟩ | ⟨rfl, rfl⟩ | ⟨rfl, rfl⟩ | ⟨rfl, rfl⟩ <;> rfl

/-! ## What a reader gets -/

theorem tenantOptions_render : site.tenantOptions.toList = render site.optionsSegments := by
  apply toList_join_map
  intro name
  simp only [optionSegments, String.toList_append, render_append, render_markup, render_content, htmlEscape_toList]

theorem demoPage_render {resultHtml : String} {result : List Segment} (rendered : resultHtml.toList = render result) :
    (site.demoPage resultHtml).toList = render (site.pageSegments result) := by
  delta demoPage pageSegments formSegments
  simp only [String.toList_append, render_append, render_markup, tenantOptions_render, rendered, List.append_assoc]

theorem evidenceItems_render (evidence : List Evidence) :
    (evidenceItems evidence).toList = render (evidence.flatMap evidenceSegments) := by
  apply toList_join_map
  intro item
  simp only [evidenceSegments, String.toList_append, render_append, render_markup, render_content, htmlEscape_toList]

theorem boolText_escape (value : Bool) : escape (boolText value).toList = (boolText value).toList := by
  cases value with
  | false => rw [show (boolText false).toList = ['F', 'a', 'l', 's', 'e'] from toList_spelled rfl]; rfl
  | true => rw [show (boolText true).toList = ['T', 'r', 'u', 'e'] from toList_spelled rfl]; rfl

theorem investigationPage_render (decision : RoutingDecision) (result : AgentResult) :
    (site.investigationPage decision result).toList =
      render (site.pageSegments (investigationSegments decision result)) := by
  apply demoPage_render
  simp only [investigationSegments, String.toList_append, render_append, render_markup, render_content,
    htmlEscape_toList, evidenceItems_render, boolText_escape]

theorem answerHtml_render (answer : String) : (answerHtml answer).toList = render (answerSegments answer) := by
  unfold answerHtml answerSegments
  split
  · exact (render_markup noVisibleText).symm
  · rw [render_content, htmlEscape_toList]

theorem citationItems_render (chunkIds : List String) :
    (citationItems chunkIds).toList = render (chunkIds.flatMap citationSegments) := by
  apply toList_join_map
  intro chunkId
  simp only [citationSegments, String.toList_append, render_append, render_markup, render_content, htmlEscape_toList]

theorem answerPage_render {answer : DemoAnswer}
    (numeric : ∀ c ∈ (site.twoDecimals answer.termOverlapScore).toList, entity c = none) :
    (site.answerPage answer).toList = render (site.pageSegments (site.ragSegments answer)) := by
  apply demoPage_render
  simp only [ragSegments, String.toList_append, render_append, render_markup, render_content, answerHtml_render,
    citationItems_render, boolText_escape, escape_plain numeric]

theorem refusalPage_render (error : GatewayException) :
    (site.refusalPage error).toList = render (site.pageSegments (site.refusalSegments error)) := by
  apply demoPage_render
  simp only [refusalSegments, String.toList_append, render_append, render_markup, render_content, htmlEscape_toList]

set_option maxRecDepth 8000 in
theorem pageHead_within : Within vocabulary (markup pageHead) := within_markup rfl rfl

set_option maxRecDepth 8000 in
theorem pageIntroduction_within : Within vocabulary (markup pageIntroduction) := within_markup rfl rfl

set_option maxRecDepth 8000 in
theorem investigateQuery_within : Within vocabulary (markup investigateQuery) := within_markup rfl rfl

set_option maxRecDepth 8000 in
theorem ragQuery_within : Within vocabulary (markup ragQuery) := within_markup rfl rfl

theorem options_within : Within vocabulary site.optionsSegments := by
  apply Within.flatMap
  intro name _
  have value : Within vocabulary (markup "<option value=\"" ++ content name ++ markup "\">") :=
    within_value (enclosed_content name) rfl rfl rfl
  exact (value.append (within_content name)).append (within_markup rfl rfl)

variable {site}

theorem form_within {action query : String} {chars : List Char} (plain : ∀ c ∈ site.apiPrefix.toList, c ≠ '&' ∧ c ≠ '"')
    (spelled : action = String.ofList chars) (closes : encloses vocabulary formOpening.toList chars = true)
    (asks : Within vocabulary (markup query)) : Within vocabulary (site.formSegments action query) := by
  have value : Within vocabulary (markup formOpening ++ markup site.apiPrefix ++ markup action) :=
    within_value (enclosed_markup plain) String.ofList_toList.symm spelled closes
  have opening : Within vocabulary (markup selectOpening) := within_markup rfl rfl
  exact ((value.append opening).append site.options_within).append asks

theorem page_within {result : List Segment} (plain : ∀ c ∈ site.apiPrefix.toList, c ≠ '&' ∧ c ≠ '"')
    (within : Within vocabulary result) : Within vocabulary (site.pageSegments result) := by
  have heading : Within vocabulary (markup investigateTitle) := within_markup rfl rfl
  have head := (pageHead_within.append pageIntroduction_within).append heading
  have investigate : Within vocabulary (site.formSegments investigateAction investigateQuery) :=
    form_within plain rfl rfl investigateQuery_within
  have title : Within vocabulary (markup ragTitle) := within_markup rfl rfl
  have ask : Within vocabulary (site.formSegments ragAction ragQuery) := form_within plain rfl rfl ragQuery_within
  have ending : Within vocabulary (markup pageEnd) := within_markup rfl rfl
  exact ((((head.append investigate).append title).append ask).append within).append ending

theorem evidence_within (item : Evidence) : Within vocabulary (evidenceSegments item) := by
  unfold evidenceSegments
  repeat' apply Within.append
  all_goals first | exact within_content _ | exact within_markup rfl rfl

theorem investigation_within (decision : RoutingDecision) (result : AgentResult) :
    Within vocabulary (investigationSegments decision result) := by
  have items : Within vocabulary (result.evidence.flatMap evidenceSegments) :=
    Within.flatMap fun item _ => evidence_within item
  unfold investigationSegments
  repeat' apply Within.append
  all_goals first | exact within_content _ | exact items | exact within_markup rfl rfl

set_option maxRecDepth 8000 in
theorem noVisibleText_within : Within vocabulary (markup noVisibleText) := within_markup rfl rfl

theorem answer_within (answer : String) : Within vocabulary (answerSegments answer) := by
  unfold answerSegments
  split
  · exact noVisibleText_within
  · exact within_content answer

theorem rag_within (answer : DemoAnswer) : Within vocabulary (site.ragSegments answer) := by
  have prose := answer_within answer.answer
  have items : Within vocabulary (answer.chunkIds.flatMap citationSegments) := by
    apply Within.flatMap
    intro chunkId _
    have opening : Within vocabulary (markup "<li>") := within_markup rfl rfl
    exact (opening.append (within_content chunkId)).append (within_markup rfl rfl)
  unfold ragSegments
  repeat' apply Within.append
  all_goals first | exact within_content _ | exact prose | exact items | exact within_markup rfl rfl

theorem refusal_within (error : GatewayException) : Within vocabulary (site.refusalSegments error) := by
  unfold refusalSegments
  repeat' apply Within.append
  all_goals first | exact within_content _ | exact within_markup rfl rfl

theorem contents_page {result : List Segment} {text : String} (member : text ∈ contents result) :
    text ∈ contents (site.pageSegments result) := by
  rw [pageSegments, contents_append, contents_append]
  exact List.mem_append_left _ (List.mem_append_right _ member)

theorem contents_investigation (decision : RoutingDecision) (result : AgentResult) :
    contents (investigationSegments decision result) = [decision.route.name, decision.reason, result.agent.name,
      result.summary] ++ (result.evidence.flatMap fun item => [item.sourceId, sourceTypeName item.sourceType, item.detail]) ++
        [boolText result.requiresHumanApproval] := by
  have items : contents (result.evidence.flatMap evidenceSegments) =
      result.evidence.flatMap fun item => [item.sourceId, sourceTypeName item.sourceType, item.detail] := by
    unfold contents
    rw [List.filterMap_flatMap]
    rfl
  simp only [investigationSegments, contents_append, contents_markup, contents_content, items]
  simp only [List.append_nil, List.nil_append, List.cons_append]

theorem contents_answer {answer : String} (shown : answer ≠ "") : contents (answerSegments answer) = [answer] := by
  have escaped : htmlEscape answer ≠ "" := by
    intro blank
    have none : escape answer.toList = [] := by
      rw [← htmlEscape_toList, blank]
      rfl
    exact shown (String.toList_eq_nil_iff.mp (escape_eq_nil none))
  unfold answerSegments
  rw [if_neg escaped]
  rfl

theorem contents_rag (answer : DemoAnswer) :
    contents (site.ragSegments answer) = contents (answerSegments answer.answer) ++
      [boolText answer.isGrounded, site.twoDecimals answer.termOverlapScore] ++ answer.chunkIds := by
  have items : contents (answer.chunkIds.flatMap citationSegments) = answer.chunkIds := by
    unfold contents
    rw [List.filterMap_flatMap]
    exact List.flatMap_singleton' answer.chunkIds
  simp only [ragSegments, contents_append, contents_markup, contents_content, items]
  simp only [List.append_nil, List.nil_append, List.append_assoc, List.cons_append]

theorem inert_page {references : References} {page : String} {result : List Segment} {texts : List String}
    (plain : ∀ c ∈ site.apiPrefix.toList, c ≠ '&' ∧ c ≠ '"') (within : Within vocabulary result)
    (rendered : page.toList = render (site.pageSegments result)) (listed : ∀ text ∈ texts, text ≠ "" → text ∈ contents result) :
    Inert references vocabulary page texts := by
  have whole : Inert references vocabulary page (contents (site.pageSegments result)) :=
    inert_render (page_within plain within) rendered
  constructor
  · exact whole.known
  · intro text member settled
    by_cases blank : text = ""
    · subst blank
      exact ⟨.text, by decide, [], _, rfl⟩
    · exact whole.verbatim text (contents_page (listed text member blank)) settled

end DemoSite

/-! ## The routes of the demo -/

def demoPrincipal : Principal := ⟨"browser-demo", {"agent.invoke"}⟩

/-- The `HTTPException` for a tenant that the registry does not know, or what the workflow raises. -/
inductive DemoRefusal where
  | unknownTenant (error : UnknownTenant)
  | workflow (error : WorkflowError)

def demoInvestigate {m : Type → Type} [Monad m] (site : DemoSite) (operations : OperationsWorkflow m)
    (query tenant requestId : String) (uuid4 : Uuid) (now : Datetime) :
    m (Except DemoRefusal (List Operation × String)) :=
  match site.registry.get tenant with
  | .error unknown => pure (.error (.unknownTenant unknown))
  | .ok bundle => do
    match ← operations.investigate query demoPrincipal.subject (demoPrincipal.roles ∪ bundle.entitlements) requestId with
    | .error error => pure (.error (.workflow error))
    | .ok outcome =>
      if outcome.result.requiresHumanApproval then
        pure (.ok ([.createPending requestId demoPrincipal.subject query tenant uuid4 now],
          site.investigationPage outcome.decision outcome.result))
      else pure (.ok ([], site.investigationPage outcome.decision outcome.result))

/-- The texts that the page of an investigation shows. -/
def investigationTexts (decision : RoutingDecision) (result : AgentResult) : List String :=
  [decision.route.name, decision.reason, result.agent.name, result.summary] ++
    result.evidence.flatMap fun item => [item.sourceId, sourceTypeName item.sourceType, item.detail]

def ragTexts (site : DemoSite) : RouteReply → List String
  | .page (.ok answer) => answer.answer :: answer.chunkIds
  | .page (.error error) => [site.describe error]
  | _ => []

section

variable {site : DemoSite} {references : References}

theorem investigationPage_inert (plain : ∀ c ∈ site.apiPrefix.toList, c ≠ '&' ∧ c ≠ '"') (decision : RoutingDecision)
    (result : AgentResult) : Inert references DemoSite.vocabulary (site.investigationPage decision result)
      (investigationTexts decision result) := by
  apply DemoSite.inert_page plain (DemoSite.investigation_within decision result)
    (site.investigationPage_render decision result)
  intro text member _
  rw [DemoSite.contents_investigation]
  exact List.mem_append_left _ member

theorem ragPage_inert (plain : ∀ c ∈ site.apiPrefix.toList, c ≠ '&' ∧ c ≠ '"')
    (numeric : ∀ score, ∀ c ∈ (site.twoDecimals score).toList, entity c = none) {reply : RouteReply} {page : String}
    (answered : site.ragPage reply = some page) : Inert references DemoSite.vocabulary page (ragTexts site reply) := by
  unfold DemoSite.ragPage at answered
  split at answered
  · rename_i answer
    rw [← Option.some.inj answered]
    apply DemoSite.inert_page plain (DemoSite.rag_within answer) (site.answerPage_render (numeric _))
    intro text member nonempty
    rw [DemoSite.contents_rag]
    rcases List.mem_cons.mp member with rfl | listed
    · rw [DemoSite.contents_answer nonempty]
      exact List.mem_cons_self
    · exact List.mem_append_right _ listed
  · rename_i error
    rw [← Option.some.inj answered]
    apply DemoSite.inert_page plain (DemoSite.refusal_within error) (site.refusalPage_render error)
    intro text member _
    exact member
  · cases answered

section

variable {operations : OperationsWorkflow Id} {query tenant requestId : String} {uuid4 : Uuid} {now : Datetime}

theorem demoInvestigate_ended {bundle : TenantBundle} {outcome : OperationsResult}
    (known : site.registry.get tenant = .ok bundle)
    (ended : operations.investigate query demoPrincipal.subject (demoPrincipal.roles ∪ bundle.entitlements) requestId =
      .ok outcome) :
    demoInvestigate site operations query tenant requestId uuid4 now = .ok
      ((investigationAnswer outcome query demoPrincipal ⟨tenant, bundle⟩ requestId uuid4 now).1,
        site.investigationPage outcome.decision outcome.result) := by
  unfold demoInvestigate investigationAnswer
  rw [known]
  dsimp only
  rw [ended]
  change (if outcome.result.requiresHumanApproval = true then _ else _) = _
  split <;> rfl

theorem demoInvestigate_shows (plain : ∀ c ∈ site.apiPrefix.toList, c ≠ '&' ∧ c ≠ '"') {page : String}
    {created : List Operation}
    (answered : demoInvestigate site operations query tenant requestId uuid4 now = pure (.ok (created, page))) :
    ∃ bundle outcome, site.registry.get tenant = .ok bundle ∧
      operations.investigate query demoPrincipal.subject (demoPrincipal.roles ∪ bundle.entitlements) requestId =
        pure (.ok outcome) ∧
      Inert references DemoSite.vocabulary page (investigationTexts outcome.decision outcome.result) ∧
      ∀ payload, RouteRequest.make query = some payload → trim query = query → ∃ response,
        investigateWorkflow operations payload demoPrincipal ⟨tenant, bundle⟩ requestId uuid4 now =
          pure (.ok (created, response)) ∧
        response.decision = outcome.decision ∧ response.result = outcome.result := by
  cases known : site.registry.get tenant with
  | error unknown =>
    rw [demoInvestigate, known] at answered
    cases answered
  | ok bundle =>
    cases ended : operations.investigate query demoPrincipal.subject (demoPrincipal.roles ∪ bundle.entitlements)
        requestId with
    | error error =>
      rw [demoInvestigate, known] at answered
      dsimp only at answered
      rw [ended] at answered
      cases answered
    | ok outcome =>
      rw [demoInvestigate_ended known ended] at answered
      have same := Prod.mk.inj (Except.ok.inj answered)
      refine ⟨bundle, outcome, rfl, ended, ?_, ?_⟩
      · rw [← same.2]
        exact investigationPage_inert plain outcome.decision outcome.result
      · intro payload made whole
        have asked : payload.query = query := (RouteRequest.make_query made).trans whole
        refine ⟨(investigationAnswer outcome query demoPrincipal ⟨tenant, bundle⟩ requestId uuid4 now).2, ?_,
          investigationAnswer_outcome _ _ _ _ _ _ _⟩
        rw [← same.1, investigateWorkflow, asked]
        dsimp only
        rw [ended]
        rfl

end

/-- Whatever tenants, queries, evidence, answers and errors a demo page shows, its tags hold the words of the page
    alone, and a reader gets what it shows character by character, but for carriage returns and null characters. An
    investigation of a query that the API accepts as it is comes to the result of the API, with the same calls on the
    approval store. -/
theorem demo_inert (references : References) (site : DemoSite) (plain : ∀ c ∈ site.apiPrefix.toList, c ≠ '&' ∧ c ≠ '"')
    (numeric : ∀ score, ∀ c ∈ (site.twoDecimals score).toList, entity c = none) :
    (∀ (operations : OperationsWorkflow Id) query tenant requestId uuid4 now created page,
      demoInvestigate site operations query tenant requestId uuid4 now = pure (.ok (created, page)) →
      ∃ bundle outcome, site.registry.get tenant = .ok bundle ∧
        operations.investigate query demoPrincipal.subject (demoPrincipal.roles ∪ bundle.entitlements) requestId =
          pure (.ok outcome) ∧
        Inert references DemoSite.vocabulary page (investigationTexts outcome.decision outcome.result) ∧
        ∀ payload, RouteRequest.make query = some payload → trim query = query → ∃ response,
          investigateWorkflow operations payload demoPrincipal ⟨tenant, bundle⟩ requestId uuid4 now =
            pure (.ok (created, response)) ∧
          response.decision = outcome.decision ∧ response.result = outcome.result) ∧
    ∀ reply page, site.ragPage reply = some page →
      Inert references DemoSite.vocabulary page (ragTexts site reply) :=
  ⟨fun _ _ _ _ _ _ _ _ answered => demoInvestigate_shows plain answered,
    fun _ _ answered => ragPage_inert plain numeric answered⟩

end

theorem deskBundles_distinct : ([⟨"payment-disputes", {"transactions"}⟩] : List TenantBundle).map TenantBundle.name |>.Nodup :=
  List.nodup_singleton _

def deskRegistry : TenantRegistry := ⟨_, deskBundles_distinct, List.cons_ne_nil _ _⟩

def deskSite : DemoSite := ⟨"/api/v1", deskRegistry, fun _ => "Model is not allowed", fun _ => "0.50"⟩

def scriptAnswer : DemoAnswer := ⟨"<script>alert(\"1\")</script>", true, 1 / 2, ["POL-PAY-001#chunk-2"]⟩

theorem deskSite_plain : ∀ c ∈ deskSite.apiPrefix.toList, c ≠ '&' ∧ c ≠ '"' := by
  have spelled : deskSite.apiPrefix.toList = ['/', 'a', 'p', 'i', '/', 'v', '1'] := toList_spelled rfl
  rw [spelled]
  simp

theorem deskSite_numeric (score : Rat) : ∀ c ∈ (deskSite.twoDecimals score).toList, entity c = none := by
  have spelled : (deskSite.twoDecimals score).toList = ['0', '.', '5', '0'] := toList_spelled rfl
  rw [spelled]
  simp [entity]

theorem deskSite_investigate : ∃ page, demoInvestigate deskSite paymentsWorkflow "TXN-1001" "payment-disputes"
    "request-1" firstUuid noon = pure (.ok ([], page)) := by
  let outcome : Except WorkflowError OperationsResult :=
    paymentsWorkflow.investigate "TXN-1001" demoPrincipal.subject (demoPrincipal.roles ∪ {"transactions"}) "request-1"
  have ended : outcome = .ok ⟨paymentsDecision, paymentsResult, 2, Nat.le_refl 2⟩ := by decide +kernel
  have known : deskSite.registry.get "payment-disputes" = .ok ⟨"payment-disputes", {"transactions"}⟩ := by decide
  exact ⟨_, demoInvestigate_ended known ended⟩

theorem transactionQuestion_made : RouteRequest.make "TXN-1001" = some transactionQuestion :=
  RouteRequest.make_of_trim transactionQuestion_stripped

theorem demo_inert_desk :
    Inert References.special DemoSite.vocabulary (deskSite.answerPage scriptAnswer)
      ["<script>alert(\"1\")</script>", "POL-PAY-001#chunk-2"] ∧
    ∃ page, ∃ outcome : OperationsResult, ∃ response,
      demoInvestigate deskSite paymentsWorkflow "TXN-1001" "payment-disputes" "request-1" firstUuid noon =
        pure (.ok ([], page)) ∧
      Inert References.special DemoSite.vocabulary page (investigationTexts outcome.decision outcome.result) ∧
      investigateWorkflow paymentsWorkflow transactionQuestion demoPrincipal
        ⟨"payment-disputes", ⟨"payment-disputes", {"transactions"}⟩⟩ "request-1" firstUuid noon =
          pure (.ok ([], response)) ∧
      response.decision = outcome.decision ∧ response.result = outcome.result := by
  obtain ⟨shown, answered⟩ := demo_inert References.special deskSite deskSite_plain deskSite_numeric
  obtain ⟨page, returned⟩ := deskSite_investigate
  obtain ⟨bundle, outcome, known, -, inert, api⟩ := shown _ _ _ _ _ _ _ _ returned
  obtain rfl : bundle = ⟨"payment-disputes", {"transactions"}⟩ := Except.ok.inj (known.symm.trans (by decide))
  obtain ⟨response, same, decision, result⟩ := api transactionQuestion transactionQuestion_made (by decide)
  exact ⟨answered (.page (.ok scriptAnswer)) _ rfl, page, outcome, response, returned, inert, same, decision, result⟩

end AgentPlatform.Gateway
