import AgentPlatform.Base.Interleaving
import AgentPlatform.Base.Ranking
import AgentPlatform.Base.Table
import AgentPlatform.State.Approvals
import Mathlib.Data.Finset.Basic
import Mathlib.Data.Finset.Dedup

/-! # The Redis approval store

Records and, for each tenant, a set of identifiers, all under keys with one prefix. Every command is
atomic, and a call takes several of them. -/

namespace AgentPlatform.State.Redis

open Interleaving Python

inductive Value where
  | record (stored : StoredRecord)
  | members (approvalIds : Finset String)
deriving DecidableEq

structure Database where
  keyspace : Table String Value
  pendingApprovals : Nat → String → Int

/-- The commands on the keys of an approval or of the index of a tenant. -/
inductive Command where
  | set (approvalId : String) (value : StoredRecord)
  | sadd (tenant approvalId : String)
  | eval (approvalId : String) (decision : Decision) (reviewer reason decidedAt tenant : String)
  | srem (tenant approvalId : String)
  | get (approvalId : String)
  | smembers (tenant : String)
  | adjustGauge (client : Nat) (tenant : String) (change : Int)

/-- The answer of a command, where `none` is an exception. -/
def Reply : Command → Type
  | .set .. => Option Bool
  | .sadd .. | .srem .. => Option Unit
  | .eval .. | .get _ => Option (Option StoredRecord)
  | .smembers _ => Option (List String)
  | .adjustGauge .. => Unit

/-- A command answers, with the members of a set in some order, or it raises and nothing took effect. -/
inductive Choice where
  | answered (order : List String)
  | failed
deriving DecidableEq

abbrev StoreProgram := Program Command Reply

section

variable (keyPrefix : String)

def key (approvalId : String) : String := keyPrefix ++ approvalId

def tenantPendingKey (tenant : String) : String := keyPrefix ++ "pending-index:" ++ tenant

/-- The script of a decision, on the value that is there. -/
def decideScript (decision : Decision) (reviewer reason decidedAt tenant : String) (current : StoredRecord) :
    Option StoredRecord :=
  if current.status ≠ .pending then none
  else if current.tenant ≠ tenant then none
  else some (current.decide decision reviewer reason decidedAt)

end

section

variable (externals : Externals) (keyPrefix : String) (database : Database)

def Database.put (key : String) (value : Value) : Database :=
  { database with keyspace := database.keyspace.set key value }

/-- A set without members is no key. -/
def Database.putMembers (key : String) (approvalIds : Finset String) : Database :=
  { database with keyspace :=
      if approvalIds = ∅ then database.keyspace.remove key else database.keyspace.set key (.members approvalIds) }

/-- `none` where the members are listed in an order that is none of theirs. -/
def execute (order : List String) : (c : Command) → Option (Database × Reply c × List Effect)
  | .set approvalId value =>
    match database.keyspace.get (key keyPrefix approvalId) with
    | some _ => some (database, some false, [.taken])
    | none =>
      some (database.put (key keyPrefix approvalId) (.record value), some true, writeOf externals none value)
  | .sadd tenant approvalId =>
    match database.keyspace.get (tenantPendingKey keyPrefix tenant) with
    | none => some (database.putMembers (tenantPendingKey keyPrefix tenant) {approvalId}, some (), [])
    | some (.members approvalIds) =>
      some (database.putMembers (tenantPendingKey keyPrefix tenant) (insert approvalId approvalIds), some (), [])
    | some (.record _) => some (database, none, [.mistyped (tenantPendingKey keyPrefix tenant), .uncovered])
  | .eval approvalId decision reviewer reason decidedAt tenant =>
    match database.keyspace.get (key keyPrefix approvalId) with
    | none => some (database, some none, [])
    | some (.members _) => some (database, none, [.mistyped (key keyPrefix approvalId)])
    | some (.record current) =>
      match decideScript decision reviewer reason decidedAt tenant current with
      | none => some (database, some none, [])
      | some updated =>
        some (database.put (key keyPrefix approvalId) (.record updated), some (some updated),
          writeOf externals (some current) updated)
  | .srem tenant approvalId =>
    match database.keyspace.get (tenantPendingKey keyPrefix tenant) with
    | none => some (database, some (), [])
    | some (.members approvalIds) =>
      some (database.putMembers (tenantPendingKey keyPrefix tenant) (approvalIds.erase approvalId), some (), [])
    | some (.record _) => some (database, none, [.mistyped (tenantPendingKey keyPrefix tenant), .uncovered])
  | .get approvalId =>
    match database.keyspace.get (key keyPrefix approvalId) with
    | none => some (database, some none, [.read approvalId none none])
    | some (.members _) => some (database, none, [.mistyped (key keyPrefix approvalId)])
    | some (.record current) =>
      some (database, some (some current), [.read approvalId none (current.validate externals)])
  | .smembers tenant =>
    match database.keyspace.get (tenantPendingKey keyPrefix tenant) with
    | none => if order = [] then some (database, some [], []) else none
    | some (.members approvalIds) =>
      if order.Nodup ∧ order.toFinset = approvalIds then some (database, some order, []) else none
    | some (.record _) => some (database, none, [.mistyped (tenantPendingKey keyPrefix tenant)])
  | .adjustGauge client tenant change =>
    let gauge := database.pendingApprovals client
    some ({ database with
      pendingApprovals := Function.update database.pendingApprovals client
        (Function.update gauge tenant (gauge tenant + change)) }, (), [.counted client tenant change])

end

/-- What a command answers when it raises; nothing undoes what came before an `SADD` or `SREM`. -/
def failure : (c : Command) → Option (Reply c × List Effect)
  | .sadd .. | .srem .. => some (none, [.failed, .uncovered])
  | .set .. | .eval .. | .get _ | .smembers _ => some (none, [.failed])
  | .adjustGauge .. => none

def backend (externals : Externals) (keyPrefix : String) : Backend Database Command Choice Effect Reply where
  init := ⟨∅, fun _ _ => 0⟩
  exec _ database choice c :=
    match choice with
    | .answered order => execute externals keyPrefix database order c
    | .failed => (failure c).map fun (reply, out) => (database, reply, out)

section

variable (externals : Externals) (client : Nat)

def createPending (requestId requester query tenant : String) (uuid4 : Uuid) (now : Datetime) :
    StoreProgram (Except StoreError Answer) :=
  let pending := buildPendingRecord externals requestId requester query tenant uuid4 now
  .command (.set pending.approvalId (pending.stored (externals.dumpDatetime pending.createdAt))) fun
    | none => .done (.error .driver)
    | some false => .done (.error (.runtimeError "Approval record was not persisted"))
    | some true =>
      .command (.sadd tenant pending.approvalId) fun
        | none => .done (.error .driver)
        | some () => .command (.adjustGauge client tenant 1) fun _ => .done (.ok (.created pending))

def decide (approvalId : String) (decision : Decision) (reviewer reason tenant : String) (now : Datetime) :
    StoreProgram (Except StoreError Answer) :=
  .command (.eval approvalId decision reviewer reason now.isoformat tenant) fun
    | none => .done (.error .driver)
    | some none => .done (.error .undecidable)
    | some (some result) =>
      match result.validate externals with
      | none => .done (.error .validation)
      | some record =>
        .command (.srem record.tenant approvalId) fun
          | none => .done (.error .driver)
          | some () => .command (.adjustGauge client record.tenant (-1)) fun _ => .done (.ok (.decided record))

def get (approvalId tenant : String) : StoreProgram (Except StoreError (Option ApprovalRecord)) :=
  .command (.get approvalId) fun
    | none => .done (.error .driver)
    | some none => .done (.ok none)
    | some (some value) =>
      match value.validate externals with
      | none => .done (.error .validation)
      | some record => .done (.ok (if record.tenant = tenant then some record else none))

/-- The records of some approvals, one after the other. -/
def getAll (tenant : String) : List String → StoreProgram (Except StoreError (List (Option ApprovalRecord)))
  | [] => .done (.ok [])
  | approvalId :: approvalIds =>
    (get externals approvalId tenant).bind fun
      | .error error => .done (.error error)
      | .ok found => (getAll tenant approvalIds).bind fun rest => .done (rest.map (found :: ·))

def listPending (tenant : String) : StoreProgram (Except StoreError Answer) :=
  .command (.smembers tenant) fun
    | none => .done (.error .driver)
    | some approvalIds =>
      (getAll externals tenant approvalIds).bind fun records => .done (records.map fun records =>
        .listed (sortedBy (fun record => record.createdAt.parts)
          ((records.filterMap id).filter fun record => record.status = .pending)))

end

def program (externals : Externals) (call : StoreCall) : StoreProgram (Except StoreError Answer) :=
  match call.operation with
  | .createPending requestId requester query tenant uuid4 now =>
    createPending externals call.client requestId requester query tenant uuid4 now
  | .decide approvalId decision reviewer reason tenant now =>
    decide externals call.client approvalId decision reviewer reason tenant now
  | .get approvalId tenant => (get externals approvalId tenant).bind fun found => .done (found.map .got)
  | .listPending tenant => listPending externals tenant

def store (externals : Externals) (keyPrefix : String) :
    Machine (Interleaving.State Database Command Reply (Except StoreError Answer)) (Event StoreCall Choice)
      StoreObservation :=
  machine (backend externals keyPrefix) (program externals)

end AgentPlatform.State.Redis
