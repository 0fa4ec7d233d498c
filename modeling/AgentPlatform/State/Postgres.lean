import AgentPlatform.Base.Interleaving
import AgentPlatform.Base.Ranking
import AgentPlatform.Base.RowSecurity
import AgentPlatform.State.Approvals
import AgentPlatform.State.Identifiers

/-! # The PostgreSQL approval store

Stores of several clients over one server. A store runs its calls under a lock, each on a connection from
its pool and in one transaction; only the policy of the table speaks of tenants. -/

namespace AgentPlatform.State.Postgres

open Interleaving Python RowSecurity

abbrev ApprovalServer : Type := Server (Nat × Nat) String ApprovalRecord String Datetime

abbrev ApprovalTransaction : Type := Transaction String ApprovalRecord String Datetime

/-- The lock with the connection its holder has taken, and the connections in the queue. -/
structure Pool where
  inUse : Option (Nat × Nat)
  queue : List Nat

structure Database where
  server : ApprovalServer
  pools : Nat → Pool
  pendingApprovals : Nat → String → Int

inductive SQL where
  | setConfig (tenant : String)
  | insert (pending : ApprovalRecord)
  | update (decision : Decision) (reviewer reason approvalId : String)
  | selectOne (approvalId : String)
  | selectPending
deriving DecidableEq

/-- The queue is used under the lock only, so `enter` and `leave` do both at once. -/
inductive Command where
  | enter (client : Nat)
  | execute (client : Nat) (sql : SQL)
  | commit (client : Nat)
  | rollback (client : Nat)
  | leave (client : Nat)
  | adjustGauge (client : Nat) (tenant : String) (change : Int)

/-- The rows of a statement, where `none` is an exception, and whether the end of a transaction is
    answered. -/
def Reply : Command → Type
  | .execute .. => Option (List ApprovalRecord)
  | .commit _ | .rollback _ => Bool
  | .enter _ | .leave _ | .adjustGauge .. => Unit

structure Choice where
  outcome : Outcome
  now : Datetime

abbrev StoreProgram := Program Command Reply

/-- The texts of a statement, which may not contain the character zero. -/
def SQL.texts : SQL → List String
  | .setConfig tenant => [tenant]
  | .insert pending => [pending.approvalId, pending.requestId, pending.requester, pending.tenant, pending.querySha256]
  | .update _ reviewer reason approvalId => [reviewer, reason, approvalId]
  | .selectOne approvalId => [approvalId]
  | .selectPending => []

def SQL.storable (sql : SQL) : Bool := sql.texts.all fun text => !text.toList.contains (Char.ofNat 0)

/-- The statement with its identifiers read; `none` where one is no `UUID`. -/
def SQL.statement : SQL → Option (Statement String ApprovalRecord String Datetime)
  | .setConfig tenant => some (.configure tenant)
  | .insert pending =>
    (canonical pending.approvalId).map fun approvalId =>
      .insert approvalId { pending with approvalId := approvalId }
  | .update decision reviewer reason approvalId =>
    (canonical approvalId).map fun approvalId => .update approvalId fun now record =>
      if record.status = .pending then some (record.decide decision reviewer reason now) else none
  | .selectOne approvalId => (canonical approvalId).map .selectOne
  | .selectPending => some (.select fun record => record.status = .pending)

/-- What a statement shows of itself when it took effect. -/
def SQL.effects (setting : Option String) (rows : List ApprovalRecord) : SQL → List Effect
  | .setConfig _ => []
  | .selectOne approvalId => [.touched setting rows, .read approvalId setting rows.head?]
  | .insert _ | .update .. | .selectPending => [.touched setting rows]

/-- A `set_config` that raises after it was sent is outside the `try` block. -/
def SQL.exposed (outcome : Outcome) : SQL → List Effect
  | .setConfig _ => if outcome = .unsent then [] else [.uncovered]
  | .insert _ | .update .. | .selectOne _ | .selectPending => []

/-- `ORDER BY`. -/
def SQL.arrange : SQL → List ApprovalRecord → List ApprovalRecord
  | .selectPending, rows => sortedBy (fun record => record.createdAt.parts) rows
  | _, rows => rows

def published (committed : Table String ApprovalRecord) : List (String × ApprovalRecord) → List Effect
  | [] => []
  | (key, row) :: writes => .wrote (committed.get key) row :: published (committed.set key row) writes

def Database.held (database : Database) (id client : Nat) : Option (Nat × Nat) :=
  match (database.pools client).inUse with
  | some (owner, connection) => if owner = id then some (client, connection) else none
  | none => none

def Database.setPool (database : Database) (client : Nat) (pool : Pool) : Database :=
  { database with pools := Function.update database.pools client pool }

def isAborted : Session String ApprovalRecord String Datetime → Bool
  | .aborted => true
  | .idle | .active _ => false

section

variable (database : Database) (connection : Nat × Nat) (choice : Choice)

def blockedBy : List Effect :=
  if isAborted (database.server.session connection) ∧ choice.outcome ≠ .unsent then [.blocked] else []

def executeSQL (sql : SQL) : Option (Database × Option (List ApprovalRecord) × List Effect) :=
  match if sql.storable then sql.statement else none with
  | none =>
    if choice.outcome = .unsent then some (database, none, [.failed])
    else
      some ({ database with server := database.server.refuse connection }, none,
        .rejected :: sql.exposed choice.outcome ++ blockedBy database connection choice)
  | some statement =>
    (database.server.execute ApprovalRecord.tenant connection choice.now choice.outcome statement).map
      fun executed =>
        ({ database with server := executed.server }, executed.reply.map sql.arrange,
          (executed.touched.elim [] fun touched => sql.effects touched.1 touched.2) ++
            if executed.reply.isNone then
              .failed :: sql.exposed choice.outcome ++ blockedBy database connection choice
            else [])

def executeCommit : Database × Bool × List Effect :=
  let (server, answered) := database.server.commit connection choice.outcome
  let writes := (database.server.session connection).writes
  let taken := choice.outcome = .answered ∨ choice.outcome = .lost
  ({ database with server := server }, answered,
    (if taken then published database.server.committed writes else []) ++ if answered then [] else [.failed])

def executeRollback : Database × Bool × List Effect :=
  let (server, answered) := database.server.rollback connection choice.outcome
  let ended := choice.outcome = .answered ∨ choice.outcome = .lost
  ({ database with server := server }, answered,
    (if answered then [] else [.failed]) ++ if ended then [] else [.uncovered])

end

/-- `none` while the call waits for the lock or for another transaction. -/
def execute (id : Nat) (database : Database) (choice : Choice) :
    (c : Command) → Option (Database × Reply c × List Effect)
  | .enter client =>
    match database.pools client with
    | ⟨none, connection :: queue⟩ => some (database.setPool client ⟨some (id, connection), queue⟩, (), [])
    | ⟨none, []⟩ | ⟨some _, _⟩ => none
  | .execute client sql => (database.held id client).bind fun connection => executeSQL database connection choice sql
  | .commit client => (database.held id client).map fun connection => executeCommit database connection choice
  | .rollback client => (database.held id client).map fun connection => executeRollback database connection choice
  | .leave client =>
    (database.held id client).map fun connection =>
      (database.setPool client ⟨none, (database.pools client).queue ++ [connection.2]⟩, (), [])
  | .adjustGauge client tenant change =>
    let gauge := database.pendingApprovals client
    some ({ database with
      pendingApprovals := Function.update database.pendingApprovals client
        (Function.update gauge tenant (gauge tenant + change)) }, (), [])

/-- The store of each client has a pool of its own. -/
def backend (poolSize : Nat → Nat) : Backend Database Command Choice Effect Reply where
  init := ⟨⟨∅, ∅⟩, fun client => ⟨none, List.range (poolSize client)⟩, fun _ _ => 0⟩
  exec := execute

section

variable (externals : Externals) (client : Nat)

def abandon : StoreProgram (Option (List ApprovalRecord)) :=
  .command (.rollback client) fun _ => .command (.leave client) fun _ => .done none

/-- `_tenant_scoped_cursor` around one statement. -/
def tenantScoped (tenant : String) (body : SQL) : StoreProgram (Option (List ApprovalRecord)) :=
  .command (.enter client) fun _ =>
    .command (.execute client (.setConfig tenant)) fun
      | none => .command (.leave client) fun _ => .done none
      | some _ =>
        .command (.execute client body) fun
          | none => abandon client
          | some rows =>
            .command (.commit client) fun
              | true => .command (.leave client) fun _ => .done (some rows)
              | false => abandon client

def createPending (requestId requester query tenant : String) (uuid4 : Uuid) (now : Datetime) :
    StoreProgram (Except StoreError Answer) :=
  let pending := buildPendingRecord externals requestId requester query tenant uuid4 now
  (tenantScoped client tenant (.insert pending)).bind fun
    | none => .done (.error .driver)
    | some _ => .command (.adjustGauge client tenant 1) fun _ => .done (.ok (.created pending))

def decide (approvalId : String) (decision : Decision) (reviewer reason tenant : String) :
    StoreProgram (Except StoreError Answer) :=
  (tenantScoped client tenant (.update decision reviewer reason approvalId)).bind fun
    | none => .done (.error .driver)
    | some [] => .done (.error .undecidable)
    | some (record :: _) => .command (.adjustGauge client tenant (-1)) fun _ => .done (.ok (.decided record))

def get (approvalId tenant : String) : StoreProgram (Except StoreError Answer) :=
  (tenantScoped client tenant (.selectOne approvalId)).bind fun
    | none => .done (.error .driver)
    | some rows => .done (.ok (.got rows.head?))

def listPending (tenant : String) : StoreProgram (Except StoreError Answer) :=
  (tenantScoped client tenant .selectPending).bind fun
    | none => .done (.error .driver)
    | some rows => .done (.ok (.listed rows))

end

/-- The clock of a decision is that of the server. -/
def program (externals : Externals) (call : StoreCall) : StoreProgram (Except StoreError Answer) :=
  match call.operation with
  | .createPending requestId requester query tenant uuid4 now =>
    createPending externals call.client requestId requester query tenant uuid4 now
  | .decide approvalId decision reviewer reason tenant _ =>
    decide call.client approvalId decision reviewer reason tenant
  | .get approvalId tenant => get call.client approvalId tenant
  | .listPending tenant => listPending call.client tenant

def store (externals : Externals) (poolSize : Nat → Nat) :
    Machine (Interleaving.State Database Command Reply (Except StoreError Answer)) (Event StoreCall Choice)
      StoreObservation :=
  machine (backend poolSize) (program externals)

end AgentPlatform.State.Postgres
