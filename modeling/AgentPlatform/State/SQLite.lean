import AgentPlatform.Base.Interleaving
import AgentPlatform.Base.Table
import AgentPlatform.State.Approvals

/-! # The SQLite approval store

Every statement runs under the lock of the store and in a transaction of its own. -/

namespace AgentPlatform.State.SQLite

open Interleaving Python

/-- A statement answers, or the driver raises and nothing took effect. -/
inductive Outcome where
  | answered
  | failed
deriving DecidableEq, Repr

inductive Command where
  | insert (row : StoredRecord)
  | update (decision : Decision) (reviewer reason decidedAt approvalId tenant : String)
  | selectOne (approvalId tenant : String)
  | selectPending (tenant : String)
  | adjustGauge (client : Nat) (tenant : String) (change : Int)

/-- The answer of a statement, where `none` is an error of the driver; an update answers the number of
    rows it changed. -/
def Reply : Command → Type
  | .insert _ => Option Unit
  | .update .. => Option Nat
  | .selectOne .. => Option (Option StoredRecord)
  | .selectPending _ => Option (List StoredRecord)
  | .adjustGauge .. => Unit

structure Database where
  approvals : Table String StoredRecord
  pendingApprovals : Nat → String → Int

abbrev StoreProgram := Program Command Reply

/-- A statement either takes effect as a whole or fails. -/
def execute (externals : Externals) (database : Database) :
    (c : Command) → Database × Reply c × List Effect
  | .insert row =>
    match database.approvals.get row.approvalId with
    | some _ => (database, none, [.failed])
    | none =>
      ({ database with approvals := database.approvals.set row.approvalId row }, some (),
        writeOf externals none row)
  | .update decision reviewer reason decidedAt approvalId tenant =>
    match database.approvals.get approvalId with
    | none => (database, some 0, [])
    | some row =>
      if row.status = .pending ∧ row.tenant = tenant then
        let updated := row.decide decision reviewer reason decidedAt
        ({ database with approvals := database.approvals.set approvalId updated }, some 1,
          writeOf externals (some row) updated)
      else (database, some 0, [])
  | .selectOne approvalId tenant =>
    let found := (database.approvals.get approvalId).filter fun row => row.tenant = tenant
    (database, some found,
      [.read approvalId (some tenant) (found.bind (StoredRecord.validate externals))])
  | .selectPending tenant =>
    let matching := database.approvals.rows.filter fun row => row.tenant = tenant ∧ row.status = .pending
    (database, some (sortedBy StoredRecord.createdAt matching), [])
  | .adjustGauge client tenant change =>
    let gauge := database.pendingApprovals client
    ({ database with
        pendingApprovals := Function.update database.pendingApprovals client
          (Function.update gauge tenant (gauge tenant + change)) }, (), [])

/-- What a statement answers when the driver raises. -/
def failure : (c : Command) → Option (Reply c)
  | .insert _ | .update .. | .selectOne .. | .selectPending _ => some none
  | .adjustGauge .. => none

def backend (externals : Externals) : Backend Database Command Outcome Effect Reply where
  init := ⟨∅, fun _ _ => 0⟩
  exec _ database outcome c :=
    match outcome with
    | .answered => some (execute externals database c)
    | .failed => (failure c).map fun reply => (database, reply, [.failed])

section

variable (externals : Externals) (client : Nat)

def get (approvalId tenant : String) : StoreProgram (Except StoreError (Option ApprovalRecord)) :=
  .command (.selectOne approvalId tenant) fun
    | none => .done (.error .driver)
    | some none => .done (.ok none)
    | some (some row) =>
      match row.validate externals with
      | none => .done (.error .validation)
      | some record => .done (.ok (some record))

def createPending (requestId requester query tenant : String) (uuid4 : Uuid) (now : Datetime) :
    StoreProgram (Except StoreError Answer) :=
  let pending := buildPendingRecord externals requestId requester query tenant uuid4 now
  .command (.insert (pending.stored pending.createdAt.isoformat)) fun
    | none => .done (.error .driver)
    | some () => (get externals pending.approvalId tenant).bind fun
      | .error error => .done (.error error)
      | .ok none => .done (.error (.runtimeError "Approval record was not persisted"))
      | .ok (some record) =>
        .command (.adjustGauge client record.tenant 1) fun _ => .done (.ok (.created record))

def decide (approvalId : String) (decision : Decision) (reviewer reason tenant : String) (now : Datetime) :
    StoreProgram (Except StoreError Answer) :=
  .command (.update decision reviewer reason now.isoformat approvalId tenant) fun
    | none => .done (.error .driver)
    | some rowcount =>
      if rowcount ≠ 1 then .done (.error .undecidable)
      else (get externals approvalId tenant).bind fun
        | .error error => .done (.error error)
        | .ok none => .done (.error (.runtimeError "Approval decision was not persisted"))
        | .ok (some record) =>
          .command (.adjustGauge client record.tenant (-1)) fun _ => .done (.ok (.decided record))

def listPending (tenant : String) : StoreProgram (Except StoreError Answer) :=
  .command (.selectPending tenant) fun
    | none => .done (.error .driver)
    | some rows =>
      match rows.mapM (StoredRecord.validate externals) with
      | none => .done (.error .validation)
      | some records => .done (.ok (.listed records))

end

def program (externals : Externals) (call : StoreCall) : StoreProgram (Except StoreError Answer) :=
  match call.operation with
  | .createPending requestId requester query tenant uuid4 now =>
    createPending externals call.client requestId requester query tenant uuid4 now
  | .decide approvalId decision reviewer reason tenant now =>
    decide externals call.client approvalId decision reviewer reason tenant now
  | .get approvalId tenant => (get externals approvalId tenant).bind fun found => .done (found.map .got)
  | .listPending tenant => listPending externals tenant

/-- Any number of calls of any clients, a statement at a time. -/
def store (externals : Externals) :
    Machine (Interleaving.State Database Command Reply (Except StoreError Answer)) (Event StoreCall Outcome)
      StoreObservation :=
  machine (backend externals) (program externals)

end AgentPlatform.State.SQLite
