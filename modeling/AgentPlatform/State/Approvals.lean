import AgentPlatform.Base.Interleaving
import AgentPlatform.State.Records

/-! # Approvals as one register of decisions

What an approval store is for, whatever keeps it: each record is written once as pending and decided at
most once, and every read sees the last write. The stores are related to it through what their calls
do and answer. -/

namespace AgentPlatform.State

open Interleaving

/-- What a command of a store does: it writes a record, reads one under an optional tenant, reads or
    writes rows in a statement under the setting of its transaction, changes the gauge of a client, or
    raises. -/
inductive Effect where
  | wrote (before : Option ApprovalRecord) (after : ApprovalRecord)
  | read (approvalId : String) (scope : Option String) (found : Option ApprovalRecord)
  | touched (setting : Option String) (rows : List ApprovalRecord)
  | counted (client : Nat) (tenant : String) (change : Int)
  | failed
  /-- The server does not take the texts of the statement. -/
  | rejected
  /-- The transaction of the connection is aborted. -/
  | blocked
  /-- The key holds a value of another type. -/
  | mistyped (key : String)
  /-- The new identifier has been used. -/
  | taken
  /-- What the call has done before is left as it is, with no handler to undo it. -/
  | uncovered
deriving DecidableEq

def writeOf (externals : Externals) (before : Option StoredRecord) (after : StoredRecord) : List Effect :=
  match after.validate externals with
  | some record => [.wrote (before.bind (StoredRecord.validate externals)) record]
  | none => []

abbrev StoreObservation := Observation StoreCall Effect (Except StoreError Answer)

def written (approvalId : String) : StoreObservation → Option ApprovalRecord
  | .did _ (.wrote _ after) => if after.approvalId = approvalId then some after else none
  | _ => none

def latest (log : List StoreObservation) (approvalId : String) : Option ApprovalRecord :=
  (log.filterMap (written approvalId)).getLast?

/-- Whether a tenant, if one is given, owns the record. -/
def inScope (scope : Option String) (record : ApprovalRecord) : Bool :=
  scope.all fun tenant => record.tenant = tenant

theorem inScope_some (tenant : String) : inScope (some tenant) = fun record => decide (record.tenant = tenant) :=
  rfl

/-- An approval is decided by a decision on its pending record, and nothing else of it changes. -/
def Decides (old new : ApprovalRecord) : Prop :=
  old.status = .pending ∧ ∃ decision reviewer reason now, new = old.decide decision reviewer reason now

/-- What an effect may be after the observations before it. `resolve` tells which approval a text
    names. -/
def Lawful (resolve : String → Option String) (before : List StoreObservation) : StoreObservation → Prop
  | .did _ (.wrote none record) => latest before record.approvalId = none ∧ record.status = .pending
  | .did _ (.wrote (some old) new) => latest before new.approvalId = some old ∧ Decides old new
  | .did _ (.read approvalId scope found) =>
    found = ((resolve approvalId).bind (latest before)).filter (inScope scope)
  | _ => True

/-- What the answer of a call tells of what the call did before. -/
def Explains (resolve : String → Option String) (before : List StoreObservation) (id : Nat) :
    Operation → Except StoreError Answer → Prop
  | .createPending _ _ _ tenant uuid4 _, .ok (.created record) =>
    record.approvalId = uuid4.text ∧ record.tenant = tenant
  | .createPending .., .error _ => True
  | .decide approvalId decision reviewer reason tenant _, .ok (.decided record) =>
    ∃ decidedAt old, resolve approvalId = some record.approvalId ∧ old.tenant = tenant ∧
      old.status = .pending ∧ record = old.decide decision reviewer reason decidedAt ∧
      .did id (.wrote (some old) record) ∈ before
  | .decide .., .error error => error = .undecidable ∧ ∀ old new, .did id (.wrote old new) ∉ before
  | .get approvalId tenant, .ok (.got found) =>
    ∃ scope seen, (∀ owner, scope = some owner → owner = tenant) ∧
      .did id (.read approvalId scope seen) ∈ before ∧ found = seen.filter (·.tenant = tenant)
  | .listPending _, .ok (.listed _) | .listPending _, .error _ => True
  | _, _ => False

def Answers (resolve : String → Option String) (before : List StoreObservation) : StoreObservation → Prop
  | .responded id answer =>
    ∃ call, .invoked id call ∈ before ∧ Explains resolve before id call.operation answer
  | _ => True

/-- The records of a store are what its history tells. -/
structure Recorded (resolve : String → Option String) (records : String → Option ApprovalRecord)
    (log : List StoreObservation) : Prop where
  replayed : ∀ approvalId, records approvalId = latest log approvalId
  lawful : Throughout (Lawful resolve) log
  answers : Throughout (Answers resolve) log

/-! ## Histories of writes -/

theorem latest_append (first second : List StoreObservation) (approvalId : String) :
    latest (first ++ second) approvalId = (latest second approvalId).or (latest first approvalId) := by
  rw [latest, List.filterMap_append, List.getLast?_append]
  rfl

theorem latest_snoc (log : List StoreObservation) (observation : StoreObservation) (approvalId : String) :
    latest (log ++ [observation]) approvalId = (written approvalId observation).or (latest log approvalId) := by
  rw [latest_append]
  cases wrote : written approvalId observation with
  | none => simp [latest, wrote]
  | some record => simp [latest, wrote]

theorem Decides.approvalId {old new : ApprovalRecord} (decides : Decides old new) :
    new.approvalId = old.approvalId := by
  obtain ⟨-, decision, reviewer, reason, now, rfl⟩ := decides
  rfl

theorem Decides.not_pending {old new : ApprovalRecord} (decides : Decides old new) : new.status ≠ .pending := by
  obtain ⟨-, decision, reviewer, reason, now, rfl⟩ := decides
  cases decision
  · simp [ApprovalRecord.decide, Decision.status]
  · simp [ApprovalRecord.decide, Decision.status]

theorem of_written {approvalId : String} {observation : StoreObservation} {record : ApprovalRecord}
    (wrote : written approvalId observation = some record) :
    ∃ id before, observation = .did id (.wrote before record) ∧ record.approvalId = approvalId := by
  unfold written at wrote
  split at wrote
  · rename_i id before after
    obtain ⟨same, rfl⟩ := Option.ite_none_right_eq_some.mp wrote |>.imp_right Option.some.inj
    exact ⟨id, before, rfl, same⟩
  · cases wrote

theorem latest_approvalId {log : List StoreObservation} {approvalId : String} {record : ApprovalRecord}
    (found : latest log approvalId = some record) : record.approvalId = approvalId := by
  obtain ⟨observation, -, wrote⟩ := List.mem_filterMap.mp (List.mem_of_getLast? found)
  obtain ⟨-, -, -, same⟩ := of_written wrote
  exact same

variable {resolve : String → Option String}

theorem not_lawful_of_decided {log : List StoreObservation} {id : Nat} {old : Option ApprovalRecord}
    {record new : ApprovalRecord} (last : latest log record.approvalId = some new)
    (final : new.status ≠ .pending) : ¬ Lawful resolve log (.did id (.wrote old record)) := by
  intro lawful
  cases old with
  | none =>
    rw [lawful.1] at last
    cases last
  | some old =>
    cases lawful.1.symm.trans last
    exact final lawful.2.1

theorem latest_of_decided {log : List StoreObservation} (lawful : Throughout (Lawful resolve) log) {id : Nat}
    {old new : ApprovalRecord} (decided : .did id (.wrote (some old) new) ∈ log) :
    latest log new.approvalId = some new := by
  induction log using List.reverseRecOn with
  | nil => cases decided
  | append_singleton log observation ih =>
    rw [latest_snoc]
    rcases List.mem_append.mp decided with earlier | here
    · have unchanged := ih lawful.prefix earlier
      obtain ⟨before, after, -, -, decides⟩ := lawful.of_mem decided
      cases wrote : written new.approvalId observation with
      | none => exact unchanged
      | some record =>
        obtain ⟨other, before, rfl, same⟩ := of_written wrote
        rw [← same] at unchanged
        exact absurd (lawful log _ [] rfl) (not_lawful_of_decided unchanged decides.not_pending)
    · rw [← List.mem_singleton.mp here]
      simp [written]

theorem decided_unique {log : List StoreObservation} (lawful : Throughout (Lawful resolve) log)
    {id₁ id₂ : Nat} {old₁ old₂ new₁ new₂ : ApprovalRecord}
    (decided₁ : .did id₁ (.wrote (some old₁) new₁) ∈ log)
    (decided₂ : .did id₂ (.wrote (some old₂) new₂) ∈ log) (same : new₁.approvalId = new₂.approvalId) :
    id₁ = id₂ := by
  have excluded {id id' : Nat} {old old' new new' : ApprovalRecord} {before after : List StoreObservation}
      (split : log = before ++ .did id' (.wrote (some old') new') :: after)
      (earlier : .did id (.wrote (some old) new) ∈ before) (same : new.approvalId = new'.approvalId) : False := by
    have lawful_before : Throughout (Lawful resolve) before := by
      rw [split] at lawful
      exact lawful.prefix
    obtain ⟨_, _, -, -, decides⟩ := lawful_before.of_mem earlier
    have last := latest_of_decided lawful_before earlier
    rw [same] at last
    exact not_lawful_of_decided last decides.not_pending (lawful before _ after split)
  rcases eq_or_earlier decided₁ decided₂ with equal | ⟨before, after, split, earlier⟩ |
    ⟨before, after, split, earlier⟩
  · cases equal
    rfl
  · exact (excluded split earlier same).elim
  · exact (excluded split earlier same.symm).elim

theorem Recorded.snoc {records after : String → Option ApprovalRecord} {log : List StoreObservation}
    {observation : StoreObservation} (recorded : Recorded resolve records log)
    (lawful : Lawful resolve log observation) (answers : Answers resolve log observation)
    (updated : ∀ approvalId, after approvalId = (written approvalId observation).or (records approvalId)) :
    Recorded resolve after (log ++ [observation]) where
  replayed approvalId := by rw [updated, latest_snoc, recorded.replayed]
  lawful := recorded.lawful.snoc lawful
  answers := recorded.answers.snoc answers

theorem Recorded.initial (resolve : String → Option String) : Recorded resolve (fun _ => none) [] where
  replayed _ := rfl
  lawful := .nil _
  answers := .nil _

def Idle (id : Nat) (log : List StoreObservation) : Prop := ∀ old new, .did id (.wrote old new) ∉ log

theorem Idle.append {id : Nat} {log out : List StoreObservation} (idle : Idle id log)
    (others : ∀ old new, .did id (.wrote old new) ∉ out) : Idle id (log ++ out) :=
  fun old new wrote => (List.mem_append.mp wrote).elim (idle old new) (others old new)

theorem latest_decided_inScope {log : List StoreObservation} (lawful : Throughout (Lawful resolve) log) {id : Nat}
    {old : ApprovalRecord} {decision : Decision} {reviewer reason tenant : String} {now : Datetime}
    (owned : old.tenant = tenant)
    (decided : .did id (.wrote (some old) (old.decide decision reviewer reason now)) ∈ log) :
    (latest log old.approvalId).filter (inScope (some tenant)) =
      some (old.decide decision reviewer reason now) := by
  rw [show latest log old.approvalId = some (old.decide decision reviewer reason now) from
    latest_of_decided lawful decided]
  simp [Option.filter, inScope, ApprovalRecord.decide, owned]

/-! ## Decisions -/

/-- At most one decide call returns for an approval, and only on its pending record of the tenant; the
    others raise and write nothing; what was decided stays, and every later get of the owner reads it. -/
structure DecisionsHold (resolve : String → Option String) (records : String → Option ApprovalRecord)
    (log : List StoreObservation) : Prop where
  single : ∀ id₁ id₂ record₁ record₂, .responded id₁ (.ok (.decided record₁)) ∈ log →
    .responded id₂ (.ok (.decided record₂)) ∈ log → record₁.approvalId = record₂.approvalId → id₁ = id₂
  returned : Throughout (fun before observation => ∀ id record,
    observation = .responded id (.ok (.decided record)) →
    ∃ client approvalId decision reviewer reason tenant now decidedAt old,
      .invoked id ⟨client, .decide approvalId decision reviewer reason tenant now⟩ ∈ before ∧
      resolve approvalId = some record.approvalId ∧ old.tenant = tenant ∧ old.status = .pending ∧
      record = old.decide decision reviewer reason decidedAt ∧
      ∃ earlier later, before = earlier ++ .did id (.wrote (some old) record) :: later ∧
        latest earlier record.approvalId = some old) log
  refused : ∀ id client approvalId decision reviewer reason tenant now answer,
    .invoked id ⟨client, .decide approvalId decision reviewer reason tenant now⟩ ∈ log →
    .responded id answer ∈ log → (∃ record, answer = .ok (.decided record)) ∨
      (answer = .error .undecidable ∧ ∀ old new, .did id (.wrote old new) ∉ log)
  replayed : ∀ approvalId, records approvalId = latest log approvalId
  kept : ∀ id record, .responded id (.ok (.decided record)) ∈ log →
    records record.approvalId = some record
  final : ∀ first rest id record reader client approvalId answer,
    log = first ++ .responded id (.ok (.decided record)) :: rest →
    .invoked reader ⟨client, .get approvalId record.tenant⟩ ∈ rest →
    resolve approvalId = some record.approvalId → .responded reader answer ∈ rest →
    answer = .ok (.got (some record))

section

variable {σ κ : Type} {Reply : κ → Type} {state : State σ κ Reply (Except StoreError Answer)}
  {log : List StoreObservation}

theorem explained (orderly : Orderly state log) (answers : Throughout (Answers resolve) log) {id : Nat}
    {call : StoreCall} {answer : Except StoreError Answer} (invoked : .invoked id call ∈ log)
    (responded : .responded id answer ∈ log) :
    ∃ before after, log = before ++ .responded id answer :: after ∧
      Explains resolve before id call.operation answer := by
  obtain ⟨before, after, rfl, own, seen, explains⟩ := answers.of_mem responded
  cases orderly.invoked_unique invoked (List.mem_append_left _ seen)
  exact ⟨before, after, rfl, explains⟩

theorem answer_of_get (orderly : Orderly state log) (answers : Throughout (Answers resolve) log)
    {id client : Nat} {approvalId tenant : String} {answer : Except StoreError Answer}
    (invoked : .invoked id ⟨client, .get approvalId tenant⟩ ∈ log) (responded : .responded id answer ∈ log) :
    ∃ scope seen, (∀ owner, scope = some owner → owner = tenant) ∧
      .did id (.read approvalId scope seen) ∈ log ∧ answer = .ok (.got (seen.filter (·.tenant = tenant))) := by
  obtain ⟨before, after, rfl, explains⟩ := explained orderly answers invoked responded
  rcases answer with error | answer
  · exact explains.elim
  · cases answer with
    | got found =>
      obtain ⟨scope, seen, own, read, shown⟩ := explains
      exact ⟨scope, seen, own, List.mem_append_left _ read, by rw [shown]⟩
    | _ => exact explains.elim

theorem answer_of_decide (orderly : Orderly state log) (answers : Throughout (Answers resolve) log)
    {id client : Nat} {approvalId reviewer reason tenant : String} {decision : Decision} {now : Datetime}
    {answer : Except StoreError Answer}
    (invoked : .invoked id ⟨client, .decide approvalId decision reviewer reason tenant now⟩ ∈ log)
    (responded : .responded id answer ∈ log) :
    (∃ record, answer = .ok (.decided record)) ∨
      (answer = .error .undecidable ∧ ∀ old new, .did id (.wrote old new) ∉ log) := by
  obtain ⟨before, after, rfl, explains⟩ := explained orderly answers invoked responded
  rcases answer with error | answer
  · obtain ⟨same, idle⟩ := explains
    refine .inr ⟨by rw [same], fun old new wrote => ?_⟩
    rcases List.mem_append.mp wrote with seen | seen
    · exact idle old new seen
    · rcases List.mem_cons.mp seen with other | seen
      · cases other
      · exact orderly.not_after_answer seen rfl
  · cases answer with
    | decided record => exact .inl ⟨record, rfl⟩
    | _ => exact explains.elim

theorem Answers.of_decided {before : List StoreObservation} {id : Nat} {record : ApprovalRecord}
    (answers : Answers resolve before (.responded id (.ok (.decided record)))) :
    ∃ client approvalId decision reviewer reason tenant now decidedAt old,
      .invoked id ⟨client, .decide approvalId decision reviewer reason tenant now⟩ ∈ before ∧
      resolve approvalId = some record.approvalId ∧ old.tenant = tenant ∧ old.status = .pending ∧
      record = old.decide decision reviewer reason decidedAt ∧ .did id (.wrote (some old) record) ∈ before := by
  obtain ⟨⟨client, operation⟩, invoked, explains⟩ := answers
  cases operation with
  | decide approvalId decision reviewer reason tenant now =>
    obtain ⟨decidedAt, old, decided⟩ := explains
    exact ⟨client, approvalId, decision, reviewer, reason, tenant, now, decidedAt, old, invoked, decided⟩
  | _ => exact explains.elim

theorem decided_of_returned (answers : Throughout (Answers resolve) log) {id : Nat} {record : ApprovalRecord}
    (returned : .responded id (.ok (.decided record)) ∈ log) :
    ∃ old, .did id (.wrote (some old) record) ∈ log := by
  obtain ⟨before, after, rfl, answered⟩ := answers.of_mem returned
  obtain ⟨_, _, _, _, _, _, _, _, old, _, _, _, _, _, decided⟩ := answered.of_decided
  exact ⟨old, List.mem_append_left _ decided⟩

theorem get_after_decision (orderly : Orderly state log) (lawful : Throughout (Lawful resolve) log)
    (answers : Throughout (Answers resolve) log) {first rest : List StoreObservation} {id reader client : Nat}
    {record : ApprovalRecord} {approvalId : String} {answer : Except StoreError Answer}
    (split : log = first ++ .responded id (.ok (.decided record)) :: rest)
    (invoked : .invoked reader ⟨client, .get approvalId record.tenant⟩ ∈ rest)
    (named : resolve approvalId = some record.approvalId) (responded : .responded reader answer ∈ rest) :
    answer = .ok (.got (some record)) := by
  have whole {observation : StoreObservation} (seen : observation ∈ rest) : observation ∈ log := by
    rw [split]
    exact List.mem_append_right _ (List.mem_cons_of_mem _ seen)
  obtain ⟨scope, seen, own, read, rfl⟩ := answer_of_get orderly answers (whole invoked) (whole responded)
  obtain ⟨_, _, _, _, _, _, _, _, old, _, _, _, _, _, decided⟩ :=
    (answers first _ rest split).of_decided
  -- the read comes after its invocation, hence after the decision
  obtain ⟨between, onward, rfl⟩ := List.append_of_mem invoked
  have start : log = (first ++ .responded id (.ok (.decided record)) :: between) ++
      .invoked reader ⟨client, .get approvalId record.tenant⟩ :: onward := by
    rw [split]
    simp
  have fresh := orderly.invokedFirst _ _ _ start reader _ rfl
  have later : .did reader (.read approvalId scope seen) ∈ onward := by
    rw [start] at read
    rcases List.mem_append.mp read with early | late
    · exact absurd rfl (fresh _ early)
    · simpa using late
  obtain ⟨middle, final, rfl⟩ := List.append_of_mem later
  have position : log = (first ++ .responded id (.ok (.decided record)) :: between ++
      .invoked reader ⟨client, .get approvalId record.tenant⟩ :: middle) ++
      .did reader (.read approvalId scope seen) :: final := by
    rw [start]
    simp
  have past : latest (first ++ .responded id (.ok (.decided record)) :: between ++
      .invoked reader ⟨client, .get approvalId record.tenant⟩ :: middle) record.approvalId = some record := by
    refine latest_of_decided (by rw [position] at lawful; exact lawful.prefix)
      (List.mem_append_left _ (List.mem_append_left _ decided))
  have found := lawful _ _ _ position
  simp only [Lawful, named, Option.bind_some, past] at found
  have inside : inScope scope record = true := by
    simp only [inScope, Option.all_eq_true, decide_eq_true_eq]
    exact fun tenant given => (own tenant given).symm
  simp [found, Option.filter, inside]

/-- The decisions of a store whose records are what its history tells. -/
theorem Recorded.decisionsHold {records : String → Option ApprovalRecord} (orderly : Orderly state log)
    (recorded : Recorded resolve records log) : DecisionsHold resolve records log where
  single id₁ id₂ record₁ record₂ returned₁ returned₂ same := by
    obtain ⟨old₁, decided₁⟩ := decided_of_returned recorded.answers returned₁
    obtain ⟨old₂, decided₂⟩ := decided_of_returned recorded.answers returned₂
    exact decided_unique recorded.lawful decided₁ decided₂ same
  returned := by
    intro before observation after split id record same
    subst same
    obtain ⟨client, approvalId, decision, reviewer, reason, tenant, now, decidedAt, old, invoked, named,
      owned, pending, changed, decided⟩ := (recorded.answers before _ after split).of_decided
    obtain ⟨earlier, later, rfl⟩ := List.append_of_mem decided
    have was := recorded.lawful earlier (.did id (.wrote (some old) record))
      (later ++ .responded id (.ok (.decided record)) :: after) (by rw [split]; simp)
    exact ⟨client, approvalId, decision, reviewer, reason, tenant, now, decidedAt, old, invoked, named,
      owned, pending, changed, earlier, later, rfl, was.1⟩
  refused _ _ _ _ _ _ _ _ _ invoked responded := answer_of_decide orderly recorded.answers invoked responded
  replayed := recorded.replayed
  kept id record returned := by
    obtain ⟨old, decided⟩ := decided_of_returned recorded.answers returned
    rw [recorded.replayed]
    exact latest_of_decided recorded.lawful decided
  final _ _ _ _ _ _ _ _ split invoked named responded :=
    get_after_decision orderly recorded.lawful recorded.answers split invoked named responded

end

end AgentPlatform.State
