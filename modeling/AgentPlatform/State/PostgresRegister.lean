import AgentPlatform.State.PostgresSessions
import AgentPlatform.State.Register

/-! # The PostgreSQL store as a register -/

namespace AgentPlatform.State.Postgres

open Interleaving Python RowSecurity

/-- A request is answered, whatever the clock of the server. -/
def Answered (choice : Choice) : Prop := choice.outcome = .answered

/-- The character zero is not in a text. -/
def Plain (text : String) : Prop := text.toList.contains (Char.ofNat 0) = false

instance : DecidablePred Plain := fun text => inferInstanceAs (Decidable (text.toList.contains (Char.ofNat 0) = false))

/-- The server takes the texts of an operation. -/
def Storable (externals : Externals) : Operation → Prop
  | .createPending requestId requester query tenant _ _ =>
    Plain requestId ∧ Plain requester ∧ Plain tenant ∧ Plain (externals.sha256 query)
  | .decide approvalId _ reviewer reason tenant _ =>
    (canonical approvalId).isSome ∧ Plain approvalId ∧ Plain reviewer ∧ Plain reason ∧ Plain tenant
  | .get approvalId tenant => (canonical approvalId).isSome ∧ Plain approvalId ∧ Plain tenant
  | .listPending tenant => Plain tenant

/-- No transaction is open, and the client has a connection to take. -/
structure Quiet (client : Nat) (database : Database) : Prop where
  free : ∃ connection queue, database.pools client = ⟨none, connection :: queue⟩
  idle : ∀ connection, database.server.session connection = .idle

/-- The rows stand under their identifiers, between the calls of a client. -/
structure Ready (client : Nat) (database : Database) : Prop extends Quiet client database where
  keyed : ∀ approvalId record, database.server.committed.get approvalId = some record → record.approvalId = approvalId

def Kept (externals : Externals) (client : Nat) (database : Database) (operation : Operation) (after : Database)
    (answer : Except StoreError Answer) : Prop :=
  Behaves externals canonical database.server.committed.get operation answer after.server.committed.get ∧
    Ready client after

section

variable {externals : Externals} {poolSize : Nat → Nat} {database : Database} {id client : Nat} {tenant : String}

theorem Ready.empty (positive : 0 < poolSize client) : Ready client (backend poolSize).init where
  free := by
    obtain ⟨size, same⟩ := Nat.exists_eq_succ_of_ne_zero (Nat.ne_of_gt positive)
    have queue : List.range (poolSize client) = 0 :: (List.range size).map Nat.succ := by
      rw [same, List.range_succ_eq_map]
    exact ⟨0, _, congrArg (Pool.mk none) queue⟩
  idle connection := by rw [backend, Server.session]; rfl
  keyed approvalId record found := by
    rw [backend, Table.get_empty] at found
    cases found

theorem settles_command {α : Type} {c : Command} {next : Reply c → StoreProgram α} {Post : Database → α → Prop}
    (runs : ∀ now, ∃ after reply out, execute id database ⟨.answered, now⟩ c = some (after, reply, out) ∧
      Settles (backend poolSize) Answered id Post (next reply) after) :
    Settles (backend poolSize) Answered id Post (.command c next) database := by
  constructor
  · obtain ⟨after, reply, out, ran, -⟩ := runs noon
    exact ⟨⟨.answered, noon⟩, rfl, Option.isSome_of_eq_some ran⟩
  · intro choice after reply out answered ran
    obtain ⟨outcome, now⟩ := choice
    obtain rfl : outcome = .answered := answered
    obtain ⟨after', reply', out', ran', onward⟩ := runs now
    cases ran.symm.trans ran'
    exact onward

/-! ## One transaction -/

theorem commit_active {server : ApprovalServer} {connection : Nat × Nat} {transaction : ApprovalTransaction}
    (active : server.session connection = .active transaction) :
    server.commit connection .answered =
      ({ server.put connection .idle with committed := server.committed.overlay transaction.writes }, true) := by
  simp [Server.commit, active]

/-- What a statement reads and writes where no other transaction is open. -/
def Performs (database : Database) (tenant : String) (statement : Statement String ApprovalRecord String Datetime)
    (writes : Datetime → List (String × ApprovalRecord)) (rows : Datetime → List ApprovalRecord) : Prop :=
  ∀ server : ApprovalServer, ∀ connection now, server.committed = database.server.committed →
    (∀ key, server.locked connection key = false) →
      server.perform ApprovalRecord.tenant connection ⟨now, some tenant, []⟩ statement =
        .ran ⟨now, some tenant, writes now⟩ (rows now)

/-- `_tenant_scoped_cursor` publishes what its statement writes, and leaves the store as it found it. -/
theorem settles_tenantScoped (quiet : Quiet client database) {body : SQL}
    {statement : Statement String ApprovalRecord String Datetime} {writes : Datetime → List (String × ApprovalRecord)}
    {rows : Datetime → List ApprovalRecord} (named : (SQL.setConfig tenant).storable = true)
    (storable : body.storable = true) (read : body.statement = some statement)
    (performs : Performs database tenant statement writes rows) :
    Settles (backend poolSize) Answered id
      (fun after reply => Quiet client after ∧ ∃ now, reply = some (body.arrange (rows now)) ∧
        after.server.committed = database.server.committed.overlay (writes now))
      (tenantScoped client tenant body) database := by
  obtain ⟨connection, queue, free⟩ := quiet.free
  have held {server : ApprovalServer} {gauges : Nat → String → Int} : Database.held
      ⟨server, Function.update database.pools client ⟨some (id, connection), queue⟩, gauges⟩ id client =
        some (client, connection) := by
    simp [Database.held]
  apply settles_command
  intro _
  refine ⟨_, _, _, execute_enter_free free, ?_⟩
  apply settles_command
  intro now
  have began : (database.server.session (client, connection)).begin now = some ⟨now, none, []⟩ := by
    rw [quiet.idle]
    rfl
  have configured := @executeSQL_ran (database.setPool client ⟨some (id, connection), queue⟩) ⟨.answered, now⟩
    (client, connection) (.setConfig tenant) _ _ _ _ (if_pos named) began rfl rfl
  refine ⟨_, _, _, (execute_sql_held held _).trans configured, ?_⟩
  let opened := database.server.put (client, connection) (.active ⟨now, some tenant, []⟩)
  apply settles_command
  intro later
  have unlocked (key : String) : opened.locked (client, connection) key = false := by
    apply Bool.eq_false_iff.mpr
    intro locked
    obtain ⟨other, apart, write, written, -⟩ := locked_iff.mp locked
    rw [session_put, if_neg apart, quiet.idle] at written
    cases written
  have begun : (opened.session (client, connection)).begin later = some ⟨now, some tenant, []⟩ := by
    rw [session_put, if_pos rfl]
    rfl
  have ran := @executeSQL_ran ⟨opened, Function.update database.pools client ⟨some (id, connection), queue⟩,
    database.pendingApprovals⟩ ⟨.answered, later⟩ (client, connection) body _ _ _ _ ((if_pos storable).trans read) begun
      (performs opened (client, connection) now rfl unlocked) rfl
  refine ⟨_, _, _, (execute_sql_held held _).trans ran, ?_⟩
  apply settles_command
  intro last
  let closing := opened.put (client, connection) (.active ⟨now, some tenant, writes now⟩)
  have active : closing.session (client, connection) = .active ⟨now, some tenant, writes now⟩ := by
    rw [session_put, if_pos rfl]
  have committed := commit_active active
  refine ⟨_, _, _, execute_commit_answered held (by rw [committed]), ?_⟩
  apply settles_command
  intro _
  refine ⟨_, _, _, execute_leave_held held, ⟨?_, ?_⟩, now, rfl, ?_⟩
  · cases queue with
    | nil => exact ⟨connection, [], by simp [Database.setPool]⟩
    | cons first rest => exact ⟨first, rest ++ [connection], by simp [Database.setPool]⟩
  · intro other
    dsimp only [Database.setPool]
    rw [committed]
    change (closing.put (client, connection) .idle).session other = .idle
    rw [session_put, session_put, session_put, quiet.idle]
    split <;> rfl
  · dsimp only [Database.setPool]
    rw [committed]
    rfl

/-! ## The operations -/

theorem storable_iff {sql : SQL} : sql.storable = true ↔ ∀ text ∈ sql.texts, Plain text := by
  simp [SQL.storable, Plain]

theorem plain_iff {text : String} : Plain text ↔ Char.ofNat 0 ∉ text.toList := by
  rw [Plain, ← Bool.not_eq_true, List.contains_iff_mem]

theorem plain_text (uuid : Uuid) : Plain uuid.text := by
  apply plain_iff.mpr
  intro member
  have digit : ∀ digit, hexDigit digit ≠ Char.ofNat 0 := by decide
  have hyphen : '-' ≠ Char.ofNat 0 := by decide
  have unread (digits : List Char) (part : digits.Sublist (uuid.digits.map hexDigit)) : Char.ofNat 0 ∉ digits := by
    intro among
    obtain ⟨value, -, same⟩ := List.mem_map.mp (part.subset among)
    exact digit value same
  simp only [Uuid.text, String.toList_ofList, List.mem_append, List.mem_cons, hyphen.symm, false_or,
    or_assoc] at member
  have take (skip width : Nat) : (((uuid.digits.map hexDigit).drop skip).take width).Sublist (uuid.digits.map hexDigit) :=
    (List.take_sublist _ _).trans (List.drop_sublist _ _)
  rcases member with first | second | third | fourth | fifth
  · exact unread _ (take 0 8) first
  · exact unread _ (take 8 4) second
  · exact unread _ (take 12 4) third
  · exact unread _ (take 16 4) fourth
  · exact unread _ (List.drop_sublist _ _) fifth

theorem plain_setConfig (plain : Plain tenant) : (SQL.setConfig tenant).storable = true :=
  storable_iff.mpr (List.forall_mem_singleton.mpr plain)

theorem get_overlay_single (committed : Table String ApprovalRecord) (key : String) (row : ApprovalRecord) :
    (committed.overlay [(key, row)]).get = Function.update committed.get key (some row) := by
  funext other
  rw [Table.overlay_cons, Table.overlay_nil, Table.get_set]
  by_cases same : other = key
  · rw [if_pos same, same, Function.update_self]
  · rw [if_neg same, Function.update_of_ne same]

theorem Ready.write (ready : Ready client database) {after : Database} {key : String} {row : ApprovalRecord}
    (quiet : Quiet client after) (named : row.approvalId = key)
    (committed : after.server.committed = database.server.committed.overlay [(key, row)]) : Ready client after where
  toQuiet := quiet
  keyed approvalId record found := by
    rw [committed, get_overlay_single] at found
    by_cases same : approvalId = key
    · rw [same, Function.update_self] at found
      rw [← Option.some.inj found, named, same]
    · rw [Function.update_of_ne same] at found
      exact ready.keyed approvalId record found

theorem Ready.unwritten (ready : Ready client database) {after : Database} (quiet : Quiet client after)
    (committed : after.server.committed = database.server.committed.overlay []) : Ready client after where
  toQuiet := quiet
  keyed approvalId record found := by
    rw [committed] at found
    exact ready.keyed approvalId record found

theorem settles_createPending (ready : Ready client database) {requestId requester query : String} {uuid4 : Uuid}
    {now : Datetime} (fresh : database.server.committed.get uuid4.text = none)
    (storable : Storable externals (.createPending requestId requester query tenant uuid4 now)) :
    Settles (backend poolSize) Answered id
      (Kept externals client database (.createPending requestId requester query tenant uuid4 now))
      (createPending externals client requestId requester query tenant uuid4 now) database := by
  obtain ⟨plainRequest, plainRequester, plainTenant, plainHash⟩ := storable
  let pending := buildPendingRecord externals requestId requester query tenant uuid4 now
  have plain : (SQL.insert pending).storable = true := by
    apply storable_iff.mpr
    simp only [SQL.texts, List.forall_mem_cons]
    exact ⟨plain_text uuid4, plainRequest, plainRequester, plainTenant, plainHash, List.forall_mem_nil _⟩
  have read : (SQL.insert pending).statement = some (.insert uuid4.text pending) := by
    change (canonical uuid4.text).map _ = _
    rw [canonical_text]
    rfl
  have performs : Performs database tenant (.insert uuid4.text pending) (fun _ => [(uuid4.text, pending)])
      (fun _ => [pending]) := by
    intro server connection started committed unlocked
    have own : (Transaction.mk started (some tenant) [] : ApprovalTransaction).sees ApprovalRecord.tenant pending = true :=
      sees_iff.mpr rfl
    simp [Server.perform, own, unlocked, committed, fresh]
  refine settles_bind.mpr ((settles_tenantScoped ready.toQuiet (plain_setConfig plainTenant) plain read performs).imp
    fun after reply given => ?_)
  obtain ⟨quiet, _, rfl, committed⟩ := given
  have changed := congrArg Table.get committed
  rw [get_overlay_single] at changed
  have kept := @Ready.write _ _ ready after uuid4.text pending quiet rfl committed
  apply settles_command
  intro _
  refine ⟨_, _, _, rfl, ?_, ⟨kept.free, kept.idle⟩, kept.keyed⟩
  dsimp only
  rw [changed]
  exact .created

theorem sees_own (started : Datetime) (record : ApprovalRecord) :
    (Transaction.mk started (some tenant) [] : ApprovalTransaction).sees ApprovalRecord.tenant record =
      Decidable.decide (record.tenant = tenant) := by
  rw [Transaction.sees]
  exact decide_eq_decide.mpr ⟨fun same => (Option.some.inj same).symm, fun same => by rw [same]⟩

theorem settles_decide (ready : Ready client database) {approvalId reviewer reason : String} {decision : Decision}
    {now : Datetime} (storable : Storable externals (.decide approvalId decision reviewer reason tenant now)) :
    Settles (backend poolSize) Answered id
      (Kept externals client database (.decide approvalId decision reviewer reason tenant now))
      (decide client approvalId decision reviewer reason tenant) database := by
  obtain ⟨named, plainId, plainReviewer, plainReason, plainTenant⟩ := storable
  obtain ⟨key, names⟩ := Option.isSome_iff_exists.mp named
  let change : Datetime → ApprovalRecord → Option ApprovalRecord := fun started record =>
    if record.status = .pending then some (record.decide decision reviewer reason started) else none
  have plain : (SQL.update decision reviewer reason approvalId).storable = true := by
    apply storable_iff.mpr
    simp only [SQL.texts, List.forall_mem_cons]
    exact ⟨plainReviewer, plainReason, plainId, List.forall_mem_nil _⟩
  have read : (SQL.update decision reviewer reason approvalId).statement = some (.update key change) := by
    rw [SQL.statement, names]
    rfl
  have visible (server : ApprovalServer) (started : Datetime) (committed : server.committed = database.server.committed) :
      ((server.committed.overlay []).get key).filter
          ((Transaction.mk started (some tenant) [] : ApprovalTransaction).sees ApprovalRecord.tenant) =
        recordOf canonical database.server.committed.get approvalId tenant := by
    rw [recordOf, names, Option.bind_some, funext (sees_own started), committed]
    rfl
  have refused (closed : ∀ old, recordOf canonical database.server.committed.get approvalId tenant = some old →
      old.status ≠ .pending) :
      Settles (backend poolSize) Answered id
        (Kept externals client database (.decide approvalId decision reviewer reason tenant now))
        (decide client approvalId decision reviewer reason tenant) database := by
    have performs : Performs database tenant (.update key change) (fun _ => []) (fun _ => []) := by
      intro server connection started committed unlocked
      rw [Server.perform, visible server started committed]
      cases found : recordOf canonical database.server.committed.get approvalId tenant with
      | none => rfl
      | some old => simp [change, closed old found]
    refine settles_bind.mpr ((settles_tenantScoped ready.toQuiet (plain_setConfig plainTenant) plain read performs).imp
      fun after reply given => ?_)
    obtain ⟨quiet, _, rfl, committed⟩ := given
    refine ⟨?_, ready.unwritten quiet committed⟩
    rw [committed]
    exact .refused closed
  cases found : recordOf canonical database.server.committed.get approvalId tenant with
  | none =>
    apply refused
    intro old known
    rw [found] at known
    cases known
  | some old =>
    by_cases pending : old.status = .pending
    · have own : old.tenant = tenant := of_decide_eq_true (Option.filter_eq_some_iff.mp found).2
      obtain ⟨key', names', stored⟩ := Option.bind_eq_some_iff.mp (Option.filter_eq_some_iff.mp found).1
      obtain rfl : key' = key := Option.some.inj (names'.symm.trans names)
      have performs : Performs database tenant (.update key' change)
          (fun started => [(key', old.decide decision reviewer reason started)])
          (fun started => [old.decide decision reviewer reason started]) := by
        intro server connection started committed unlocked
        have still : (Transaction.mk started (some tenant) [] : ApprovalTransaction).sees ApprovalRecord.tenant
            (old.decide decision reviewer reason started) = true :=
          sees_iff.mpr (congrArg some own.symm)
        rw [Server.perform, visible server started committed, found]
        simp [change, pending, unlocked, still]
      refine settles_bind.mpr ((settles_tenantScoped ready.toQuiet (plain_setConfig plainTenant) plain read performs).imp
        fun after reply given => ?_)
      obtain ⟨quiet, decidedAt, rfl, committed⟩ := given
      have same := ready.keyed key' old stored
      have changed := congrArg Table.get committed
      rw [get_overlay_single] at changed
      have kept := @Ready.write _ _ ready after key' (old.decide decision reviewer reason decidedAt) quiet same committed
      apply settles_command
      intro _
      refine ⟨_, _, _, rfl, ?_, ⟨kept.free, kept.idle⟩, kept.keyed⟩
      dsimp only
      rw [changed, ← same]
      exact .decided found pending
    · apply refused
      intro other known
      rw [← Option.some.inj (found.symm.trans known)]
      exact pending

theorem settles_get (ready : Ready client database) {approvalId : String}
    (storable : Storable externals (.get approvalId tenant)) :
    Settles (backend poolSize) Answered id (Kept externals client database (.get approvalId tenant))
      (get client approvalId tenant) database := by
  obtain ⟨named, plainId, plainTenant⟩ := storable
  obtain ⟨key, names⟩ := Option.isSome_iff_exists.mp named
  have plain : (SQL.selectOne approvalId).storable = true := storable_iff.mpr (List.forall_mem_singleton.mpr plainId)
  have read : (SQL.selectOne approvalId).statement = some (.selectOne key) := by
    rw [SQL.statement, names]
    rfl
  have performs : Performs database tenant (.selectOne key) (fun _ => [])
      (fun _ => (recordOf canonical database.server.committed.get approvalId tenant).toList) := by
    intro server connection started committed unlocked
    rw [Server.perform, recordOf, names, Option.bind_some, funext (sees_own started), committed]
    rfl
  refine settles_bind.mpr ((settles_tenantScoped ready.toQuiet (plain_setConfig plainTenant) plain read performs).imp
    fun after reply given => ?_)
  obtain ⟨quiet, _, rfl, committed⟩ := given
  refine ⟨?_, ready.unwritten quiet committed⟩
  have first : (SQL.arrange (.selectOne approvalId)
      (recordOf canonical database.server.committed.get approvalId tenant).toList).head? =
        recordOf canonical database.server.committed.get approvalId tenant := by
    cases recordOf canonical database.server.committed.get approvalId tenant with
    | none => rfl
    | some record => rfl
  rw [committed, first]
  exact .got

theorem settles_listPending (ready : Ready client database) (storable : Storable externals (.listPending tenant)) :
    Settles (backend poolSize) Answered id (Kept externals client database (.listPending tenant))
      (listPending client tenant) database := by
  let pending := database.server.committed.rows.filter fun record => record.tenant = tenant ∧ record.status = .pending
  have performs : Performs database tenant (.select fun record => record.status = .pending) (fun _ => [])
      (fun _ => pending) := by
    intro server connection started committed unlocked
    simp only [Server.perform, sees_own, committed, Table.overlay_nil, ← Bool.decide_and]
    rfl
  have plain : SQL.selectPending.storable = true := rfl
  refine settles_bind.mpr ((settles_tenantScoped ready.toQuiet (plain_setConfig storable) plain rfl performs).imp
    fun after reply given => ?_)
  obtain ⟨quiet, _, rfl, committed⟩ := given
  refine ⟨?_, ready.unwritten quiet committed⟩
  rw [committed]
  refine .listed ?_ (fun record => ?_) (sortedBy_ordered _ _)
  · apply (sortedBy_perm _ _).nodup_iff.mpr
    apply List.Nodup.filter
    apply Table.nodup_rows
    intro key other record found found'
    rw [← ready.keyed key record found, ready.keyed other record found']
  · simp only [SQL.arrange]
    rw [mem_sortedBy, List.mem_filter, decide_eq_true_eq, Table.mem_rows]
    apply and_congr_left
    intro _
    constructor
    · intro present
      obtain ⟨key, found⟩ := present
      rw [ready.keyed key record found]
      exact found
    · exact fun found => ⟨_, found⟩

theorem settles_call {operation : Operation} (ready : Ready client database) (storable : Storable externals operation)
    (fresh : ∀ requestId requester query tenant uuid4 now,
      operation = .createPending requestId requester query tenant uuid4 now →
        database.server.committed.get uuid4.text = none) :
    Settles (backend poolSize) Answered id (Kept externals client database operation)
      (program externals ⟨client, operation⟩) database := by
  cases operation with
  | createPending => exact settles_createPending ready (fresh _ _ _ _ _ _ rfl) storable
  | decide => exact settles_decide ready storable
  | get => exact settles_get ready storable
  | listPending => exact settles_listPending ready storable

end

end AgentPlatform.State.Postgres
