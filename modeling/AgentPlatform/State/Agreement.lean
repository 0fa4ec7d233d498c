import AgentPlatform.State.PostgresRegister
import AgentPlatform.State.RedisRegister
import AgentPlatform.State.SQLiteRegister

/-! # Agreement of the stores

One client calls a store of each kind in the same way, and the answers differ in identifiers and instants only. -/

namespace AgentPlatform.State

open Interleaving

/-- The identifier of the client's own that a reference is. -/
def Reference.texts : Reference → List String
  | .created _ => []
  | .text approvalId => [approvalId]

/-- The texts of a request that a store keeps or compares. -/
def Request.texts : Request → List String
  | .createPending requestId requester _ tenant => [requestId, requester, tenant]
  | .decide reference _ reviewer reason tenant => reference.texts ++ [reviewer, reason, tenant]
  | .get reference tenant => reference.texts ++ [tenant]
  | .listPending tenant => [tenant]

/-- An identifier of the client's own is the text of a `UUID`. -/
def Identified (request : Request) : Prop :=
  ∀ text tenant, request.named = some (.text text, tenant) → (canonical text).isSome

/-- The instants and identifiers of the three stores. -/
structure Environments where
  sqlite : Environment
  postgres : Environment
  redis : Environment

/-- The stores take the texts of a request, and none of them is the identifier of a record of the tenant. -/
structure Neutral (environments : Environments) (ledger : Ledger) (request : Request) : Prop where
  plain : ∀ text ∈ request.texts, Postgres.Plain text
  identified : Identified request
  drawn : Drawn ledger request
  sqlite : Foreign environments.sqlite some ledger request
  postgres : Foreign environments.postgres canonical ledger request
  redis : Foreign environments.redis some ledger request

section

variable (externals : Externals) (keyPrefix : String) (poolSize : Nat → Nat) (client : Nat)
  (environments : Environments) (requests : List Request) (reports : List Report)

/-- Each store serves the requests when no call of it fails, and answers as is reported. -/
structure StoresReport : Prop where
  sqlite : Realizes (SQLite.backend externals) (SQLite.program externals) (· = .answered)
    (Reports environments.sqlite) 0 (SQLite.backend externals).init
    (operations (Ledger.step externals.sha256) (environments.sqlite.call client) .empty requests) reports
  postgres : Realizes (Postgres.backend poolSize) (Postgres.program externals) Postgres.Answered
    (Reports environments.postgres) 0 (Postgres.backend poolSize).init
    (operations (Ledger.step externals.sha256) (environments.postgres.call client) .empty requests) reports
  redis : Realizes (Redis.backend externals keyPrefix) (Redis.program externals) (· ≠ .failed)
    (Reports environments.redis) 0 (Redis.backend externals keyPrefix).init
    (operations (Ledger.step externals.sha256) (environments.redis.call client) .empty requests) reports

end

section

variable {externals : Externals} {keyPrefix : String} {poolSize : Nat → Nat} {client : Nat} {environments : Environments}
  {environment : Environment} {ledger : Ledger} {request : Request} {requests : List Request}

/-- No index has the text of a `UUID` for its name. -/
theorem canonical_pendingIndex (owner : String) : canonical ("pending-index:" ++ owner) = none := by
  have text : ("pending-index:" ++ owner).toList = 'p' :: 'e' :: 'n' :: 'd' :: ("ing-index:".toList ++ owner.toList) := by
    rw [String.toList_append]
    rfl
  have letter : hexValue 'p' = none := by decide
  have unbraced : ¬ 'p' = Char.ofNat 123 := by decide
  simp [canonical, uuidIn, text, readGroups, readGroup, letter, unbraced]

theorem identified_reference (identified : Identified request) {reference : Reference} {tenant : String}
    (named : request.named = some (reference, tenant)) : (canonical (environment.text reference)).isSome := by
  cases reference with
  | created number => exact Option.isSome_of_eq_some (canonical_text _)
  | text text => exact identified text tenant named

theorem plain_reference {reference : Reference} (plain : ∀ text ∈ reference.texts, Postgres.Plain text) :
    Postgres.Plain (environment.text reference) := by
  cases reference with
  | created number => exact Postgres.plain_text _
  | text text => exact plain text (List.mem_singleton_self _)

theorem storable_operation (hexadecimal : ∀ query, Postgres.Plain (externals.sha256 query))
    (plain : ∀ text ∈ request.texts, Postgres.Plain text) (identified : Identified request) :
    Postgres.Storable externals (environment.operation ledger request) := by
  cases request with
  | createPending requestId requester query tenant =>
    simp only [Request.texts, List.forall_mem_cons] at plain
    exact ⟨plain.1, plain.2.1, plain.2.2.1, hexadecimal query⟩
  | decide reference decision reviewer reason tenant =>
    simp only [Request.texts, List.forall_mem_append, List.forall_mem_cons] at plain
    exact ⟨identified_reference identified rfl, plain_reference plain.1, plain.2.1, plain.2.2.1, plain.2.2.2.1⟩
  | get reference tenant =>
    simp only [Request.texts, List.forall_mem_append, List.forall_mem_cons] at plain
    exact ⟨identified_reference identified rfl, plain_reference plain.1, plain.2.1⟩
  | listPending tenant =>
    simp only [Request.texts, List.forall_mem_cons] at plain
    exact plain.1

theorem unindexed_operation (identified : Identified request) : Redis.Unindexed (environment.operation ledger request) := by
  have unindexed {reference : Reference} {tenant : String} (named : request.named = some (reference, tenant))
      (owner : String) : environment.text reference ≠ "pending-index:" ++ owner := by
    intro same
    have read := @identified_reference environment _ identified _ _ named
    rw [same, canonical_pendingIndex] at read
    cases read
  cases request with
  | createPending => trivial
  | decide => exact unindexed rfl
  | get => exact unindexed rfl
  | listPending => trivial

theorem Neutral.of_drawn (plain : ∀ text ∈ request.texts, Postgres.Plain text) (drawn : Drawn ledger request)
    (unquoted : ∀ text tenant, request.named ≠ some (.text text, tenant)) : Neutral environments ledger request where
  plain := plain
  identified text tenant named := absurd named (unquoted text tenant)
  drawn := drawn
  sqlite text tenant named := absurd named (unquoted text tenant)
  postgres text tenant named := absurd named (unquoted text tenant)
  redis text tenant named := absurd named (unquoted text tenant)

/-- The stores report the same of every sequence of requests that they treat alike. -/
theorem stores_report (hexadecimal : ∀ query, Postgres.Plain (externals.sha256 query)) (connected : 0 < poolSize client)
    (freshSQLite : environments.sqlite.Fresh requests.length) (freshPostgres : environments.postgres.Fresh requests.length)
    (freshRedis : environments.redis.Fresh requests.length)
    (neutral : Each (Ledger.step externals.sha256) (Neutral environments) .empty requests) :
    StoresReport externals keyPrefix poolSize client environments requests
      (outcomes (Ledger.step externals.sha256) .empty requests) where
  sqlite := by
    have settles : ∀ id database operation, SQLite.Ready externals database → True →
        (∀ requestId requester query tenant uuid4 now,
          operation = .createPending requestId requester query tenant uuid4 now →
            database.record externals uuid4.text = none) →
        Settles (SQLite.backend externals) (· = .answered) id (SQLite.Kept externals database operation)
          (SQLite.program externals ⟨client, operation⟩) database :=
      fun id database operation ready _ unused => SQLite.settles_call ready unused
    exact @realizes_of_settles _ _ _ _ _ _ _ _ _ _ .answered (SQLite.Database.record externals) _ _ _ settles
      (.empty externals) rfl (fun uuid => rfl) _ freshSQLite
      (neutral.imp fun ledger request neutral => ⟨trivial, neutral.drawn, neutral.sqlite⟩)
  postgres := by
    have settles : ∀ id database operation, Postgres.Ready client database → Postgres.Storable externals operation →
        (∀ requestId requester query tenant uuid4 now,
          operation = .createPending requestId requester query tenant uuid4 now →
            database.server.committed.get uuid4.text = none) →
        Settles (Postgres.backend poolSize) Postgres.Answered id (Postgres.Kept externals client database operation)
          (Postgres.program externals ⟨client, operation⟩) database :=
      fun id database operation ready storable unused => Postgres.settles_call ready storable unused
    exact @realizes_of_settles _ _ _ _ _ _ _ _ _ _ ⟨.answered, noon⟩ (fun database => database.server.committed.get) _ _ _
      settles (.empty connected) rfl canonical_text _ freshPostgres
      (neutral.imp fun ledger request neutral =>
        ⟨storable_operation hexadecimal neutral.plain neutral.identified, neutral.drawn, neutral.postgres⟩)
  redis := by
    have settles : ∀ id database operation, Redis.Ready externals keyPrefix database → Redis.Unindexed operation →
        (∀ requestId requester query tenant uuid4 now,
          operation = .createPending requestId requester query tenant uuid4 now →
            database.record externals keyPrefix uuid4.text = none) →
        Settles (Redis.backend externals keyPrefix) (· ≠ .failed) id (Redis.Kept externals keyPrefix database operation)
          (Redis.program externals ⟨client, operation⟩) database :=
      fun id database operation ready unindexed unused => Redis.settles_call ready unindexed unused
    exact @realizes_of_settles _ _ _ _ _ _ _ _ _ _ .failed (Redis.Database.record externals keyPrefix) _ _ _ settles
      .empty rfl (fun uuid => rfl) _ freshRedis
      (neutral.imp fun ledger request neutral =>
        ⟨unindexed_operation neutral.identified, neutral.drawn, neutral.redis⟩)

end

/-! ## An approval in each store -/

def upward : Environment := ⟨fun number => if number = 0 then firstUuid else SQLite.secondUuid, fun _ => noon⟩

def downward : Environment := ⟨fun number => if number = 0 then SQLite.secondUuid else firstUuid, fun _ => SQLite.afterNoon⟩

def sampleEnvironments : Environments := ⟨upward, downward, upward⟩

def approval : List Request :=
  [.createPending "r-1" "alice" "refund" "payments", .decide (.created 0) .approved "carol" "documented" "payments"]

def requested : Entry := ⟨"r-1", "alice", "payments", referenceExternals.sha256 "refund", .pending, none, none⟩

theorem stores_report_approval : StoresReport referenceExternals "approval:" (fun _ => 1) 0 sampleEnvironments approval
    [.created 0 requested, .decided 0 (requested.decide .approved "carol" "documented")] := by
  have hash : Postgres.Plain (referenceExternals.sha256 "refund") := by decide
  have apart : upward.Fresh 2 ∧ downward.Fresh 2 := by
    unfold Environment.Fresh
    decide
  have neutral : Each (Ledger.step referenceExternals.sha256) (Neutral sampleEnvironments) .empty approval := by
    refine ⟨Neutral.of_drawn ?_ ?_ ?_, Neutral.of_drawn ?_ ?_ ?_, trivial⟩
    · simp only [Request.texts, List.forall_mem_cons]
      exact ⟨by decide, by decide, by decide, List.forall_mem_nil _⟩
    · intro number tenant named
      cases named
    · intro text tenant named
      cases named
    · simp only [Request.texts, Reference.texts, List.nil_append, List.forall_mem_cons]
      exact ⟨by decide, by decide, by decide, List.forall_mem_nil _⟩
    · intro number tenant named
      cases named
      exact Nat.one_pos
    · intro text tenant named
      cases named
  exact stores_report (fun query => hash) Nat.one_pos apart.1 apart.2 apart.1 neutral

/-- An identifier that is no `UUID`: one store answers that there is no such approval, another one raises. -/
theorem get_missing_differs :
    (∃ final, ServesAll (SQLite.backend referenceExternals) (SQLite.program referenceExternals) (· = .answered) 0
      (SQLite.backend referenceExternals).init [⟨0, .get "missing" "payment-disputes"⟩] [.ok (.got none)] final) ∧
    (∃ final, ServesAll (Postgres.backend fun _ => 1) (Postgres.program referenceExternals) Postgres.Answered 0
      (Postgres.backend fun _ => 1).init [⟨0, .get "missing" "payment-disputes"⟩] [.error .driver] final) ∧
    ∀ reports, ¬ StoresReport referenceExternals "approval:" (fun _ => 1) 0 sampleEnvironments
      [.get (.text "missing") "payment-disputes"] reports := by
  have found : ∃ final, Serves (SQLite.backend referenceExternals) (SQLite.program referenceExternals) (· = .answered) 0
      (SQLite.backend referenceExternals).init ⟨0, .get "missing" "payment-disputes"⟩ (.ok (.got none)) final := by
    obtain ⟨⟨final, answer⟩, ran, same⟩ := (Option.any_eq_true _ _).mp
      (show (alone (SQLite.backend referenceExternals) 0 (SQLite.program referenceExternals
        ⟨0, .get "missing" "payment-disputes"⟩) [.answered] (SQLite.backend referenceExternals).init).any
          (fun result => result.2 = .ok (.got none)) = true by decide)
    obtain rfl : answer = .ok (.got none) := of_decide_eq_true same
    exact ⟨final, [.answered], List.forall_mem_singleton.mpr rfl, ran⟩
  have raised : ∃ final, Serves (Postgres.backend fun _ => 1) (Postgres.program referenceExternals) Postgres.Answered 0
      (Postgres.backend fun _ => 1).init ⟨0, .get "missing" "payment-disputes"⟩ (.error .driver) final := by
    obtain ⟨⟨final, answer⟩, ran, same⟩ := (Option.any_eq_true _ _).mp
      (show (alone (Postgres.backend fun _ => 1) 0 (Postgres.program referenceExternals
        ⟨0, .get "missing" "payment-disputes"⟩) (List.replicate 5 ⟨.answered, noon⟩) (Postgres.backend fun _ => 1).init).any
          (fun result => result.2 = .error .driver) = true by decide)
    obtain rfl : answer = .error .driver := of_decide_eq_true same
    exact ⟨final, _, fun choice member => by rw [List.eq_of_mem_replicate member]; rfl, ran⟩
  obtain ⟨final, found⟩ := found
  obtain ⟨last, raised⟩ := raised
  refine ⟨⟨final, .cons found .nil⟩, ⟨last, .cons raised .nil⟩, fun reports agree => ?_⟩
  have reported := agree.postgres.reports _ _ (.cons raised .nil)
  cases reported with
  | cons first rest => cases first

end AgentPlatform.State
