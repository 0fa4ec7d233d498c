import AgentPlatform.State.Chronology
import AgentPlatform.State.Register

/-! # The SQLite store as a register -/

namespace AgentPlatform.State.SQLite

open Interleaving Python

variable {externals : Externals} {database : Database} {id : Nat}

/-- Each row is that of a record under its identifier, with the text of an instant. -/
structure Ready (externals : Externals) (database : Database) : Prop where
  valid : ∀ approvalId row, database.approvals.get approvalId = some row →
    ∃ record, row.validate externals = some record ∧ record.approvalId = approvalId
  dated : database.Dated

def Kept (externals : Externals) (database : Database) (operation : Operation) (after : Database)
    (answer : Except StoreError Answer) : Prop :=
  Behaves externals some (database.record externals) operation answer (after.record externals) ∧ Ready externals after

theorem Ready.empty (externals : Externals) : Ready externals (backend externals).init where
  valid approvalId row found := by
    rw [backend, Table.get_empty] at found
    cases found
  dated approvalId row found := by
    rw [backend, Table.get_empty] at found
    cases found

theorem settles_command {α : Type} {c : Command} {next : Reply c → StoreProgram α} {Post : Database → α → Prop}
    {after : Database} {reply : Reply c} {out : List Effect} (ran : execute externals database c = (after, reply, out))
    (onward : Settles (backend externals) (· = .answered) id Post (next reply) after) :
    Settles (backend externals) (· = .answered) id Post (.command c next) database := by
  refine ⟨⟨.answered, rfl, rfl⟩, fun choice after' reply' out' answered ran' => ?_⟩
  subst answered
  cases ran.symm.trans (Option.some.inj ran')
  exact onward

theorem record_of_get {approvalId : String} {row : StoredRecord} (found : database.approvals.get approvalId = some row) :
    database.record externals approvalId = row.validate externals := by
  rw [Database.record, found, Option.bind_some]

theorem record_set (approvalId : String) {row : StoredRecord} {record : ApprovalRecord}
    (valid : row.validate externals = some record) (gauge : Nat → String → Int) :
    Database.record externals ⟨database.approvals.set approvalId row, gauge⟩ =
      Function.update (database.record externals) approvalId (some record) := by
  funext other
  by_cases same : other = approvalId
  · rw [same, Function.update_self, Database.record, Table.get_set, if_pos rfl, Option.bind_some, valid]
  · rw [Function.update_of_ne same, Database.record, Table.get_set, if_neg same, Database.record]

theorem Ready.set (ready : Ready externals database) {approvalId : String} {row : StoredRecord} {record : ApprovalRecord}
    (valid : row.validate externals = some record) (named : record.approvalId = approvalId) (dated : row.Dated)
    (gauge : Nat → String → Int) : Ready externals ⟨database.approvals.set approvalId row, gauge⟩ where
  valid other row' found := by
    rw [Table.get_set] at found
    split at found
    · rename_i same
      cases found
      exact ⟨record, valid, named.trans same.symm⟩
    · exact ready.valid other row' found
  dated other row' found := by
    rw [Table.get_set] at found
    split at found
    · cases found
      exact dated
    · exact ready.dated other row' found

theorem settles_get (ready : Ready externals database) (approvalId tenant : String) :
    Settles (backend externals) (· = .answered) id
      (fun after found => after = database ∧
        found = .ok (recordOf some (database.record externals) approvalId tenant))
      (get externals approvalId tenant) database := by
  apply settles_command rfl
  cases found : database.approvals.get approvalId with
  | none =>
    simp only [recordOf, Database.record, Option.bind_some, found, Option.bind_none, Option.filter_none]
    exact ⟨rfl, rfl⟩
  | some row =>
    obtain ⟨record, valid, -⟩ := ready.valid approvalId row found
    obtain ⟨-, sameTenant, -⟩ := StoredRecord.validate_fields valid
    by_cases own : row.tenant = tenant
    · simp only [recordOf, Database.record, Option.bind_some, found, valid, Option.filter_some, sameTenant, own,
        decide_true, if_true]
      exact ⟨rfl, rfl⟩
    · simp only [recordOf, Database.record, Option.bind_some, found, valid, Option.filter_some, sameTenant, own,
        decide_false, Bool.false_eq_true, if_false]
      exact ⟨rfl, rfl⟩

theorem settles_createPending (ready : Ready externals database) {client : Nat} {requestId requester query tenant : String}
    {uuid4 : Uuid} {now : Datetime} (fresh : database.record externals uuid4.text = none) :
    Settles (backend externals) (· = .answered) id
      (Kept externals database (.createPending requestId requester query tenant uuid4 now))
      (createPending externals client requestId requester query tenant uuid4 now) database := by
  let pending := buildPendingRecord externals requestId requester query tenant uuid4 now
  let row := pending.stored pending.createdAt.isoformat
  have valid : row.validate externals = some pending := StoredRecord.validate_stored externals pending (externals.parse_isoformat _)
  have absent : database.approvals.get row.approvalId = none := by
    cases found : database.approvals.get row.approvalId with
    | none => rfl
    | some old =>
      obtain ⟨record, validOld, -⟩ := ready.valid _ old found
      have known : database.record externals uuid4.text = some record := (record_of_get found).trans validOld
      rw [fresh] at known
      cases known
  have inserted : execute externals database (.insert row) =
      (⟨database.approvals.set row.approvalId row, database.pendingApprovals⟩, some (), writeOf externals none row) := by
    simp only [execute, absent]
    rfl
  have changed := @record_set externals database row.approvalId row pending valid
  have stored := @Ready.set externals database ready row.approvalId row pending valid rfl ⟨now, rfl⟩
  apply settles_command inserted
  refine settles_bind.mpr ((settles_get (stored _) pending.approvalId tenant).imp fun after found given => ?_)
  obtain ⟨rfl, rfl⟩ := given
  have read : recordOf some (Function.update (database.record externals) row.approvalId (some pending))
      pending.approvalId tenant = some pending := by
    rw [recordOf, Option.bind_some, show row.approvalId = pending.approvalId from rfl, Function.update_self,
      Option.filter_some]
    exact if_pos (decide_eq_true rfl)
  rw [changed, read]
  apply settles_command rfl
  refine ⟨?_, stored _⟩
  rw [changed]
  exact .created

theorem settles_decide (ready : Ready externals database) {client : Nat} {approvalId reviewer reason tenant : String}
    {decision : Decision} {now : Datetime} :
    Settles (backend externals) (· = .answered) id
      (Kept externals database (.decide approvalId decision reviewer reason tenant now))
      (decide externals client approvalId decision reviewer reason tenant now) database := by
  have refused (unchanged : execute externals database
        (.update decision reviewer reason now.isoformat approvalId tenant) = (database, some 0, []))
      (closed : ∀ old, recordOf some (database.record externals) approvalId tenant = some old → old.status ≠ .pending) :
      Settles (backend externals) (· = .answered) id
        (Kept externals database (.decide approvalId decision reviewer reason tenant now))
        (decide externals client approvalId decision reviewer reason tenant now) database :=
    settles_command unchanged ⟨.refused closed, ready⟩
  cases found : database.approvals.get approvalId with
  | none =>
    apply refused
    · simp only [execute, found]
      rfl
    · intro old recorded
      simp [recordOf, Database.record, found] at recorded
  | some row =>
    obtain ⟨old, valid, named⟩ := ready.valid approvalId row found
    obtain ⟨-, sameTenant, sameStatus⟩ := StoredRecord.validate_fields valid
    have recorded : recordOf some (database.record externals) approvalId tenant =
        if old.tenant = tenant then some old else none := by
      simp [recordOf, record_of_get found, valid, Option.filter_some]
    by_cases decidable : row.status = .pending ∧ row.tenant = tenant
    · have own : old.tenant = tenant := sameTenant.trans decidable.2
      have updated := StoredRecord.validate_decide valid decision reviewer reason now
      have changed := @record_set externals database approvalId _ _ updated
      have stored := @Ready.set externals database ready approvalId _ _ updated named (ready.dated approvalId row found)
      have ran : execute externals database (.update decision reviewer reason now.isoformat approvalId tenant) =
          (⟨database.approvals.set approvalId (row.decide decision reviewer reason now.isoformat),
            database.pendingApprovals⟩, some 1,
            writeOf externals (some row) (row.decide decision reviewer reason now.isoformat)) := by
        simp only [execute, found, decidable, and_self, if_true]
        rfl
      apply settles_command ran
      refine settles_bind.mpr ((settles_get (stored _) approvalId tenant).imp fun after read given => ?_)
      obtain ⟨rfl, rfl⟩ := given
      have read : recordOf some
          (Function.update (database.record externals) approvalId (some (old.decide decision reviewer reason now)))
          approvalId tenant = some (old.decide decision reviewer reason now) := by
        rw [recordOf, Option.bind_some, Function.update_self, Option.filter_some]
        exact if_pos (decide_eq_true own)
      rw [changed, read]
      apply settles_command rfl
      refine ⟨?_, stored _⟩
      rw [changed]
      subst named
      rw [if_pos own] at recorded
      exact .decided recorded (sameStatus.trans decidable.1)
    · apply refused
      · simp only [execute, found, decidable, if_false]
        rfl
      · intro other recorded' pending
        rw [recorded] at recorded'
        obtain ⟨own, rfl⟩ := Option.ite_none_right_eq_some.mp recorded' |>.imp_right Option.some.inj
        exact decidable ⟨sameStatus.symm.trans pending, sameTenant.symm.trans own⟩

theorem exists_mapM_validate {rows : List StoredRecord}
    (valid : ∀ row ∈ rows, ∃ record, row.validate externals = some record) :
    ∃ records, rows.mapM (StoredRecord.validate externals) = some records ∧
      List.Forall₂ (fun record row => row.validate externals = some record) records rows := by
  induction rows with
  | nil => exact ⟨[], rfl, .nil⟩
  | cons row rows ih =>
    obtain ⟨record, here⟩ := valid row List.mem_cons_self
    obtain ⟨records, others, related⟩ := ih fun other member => valid other (List.mem_cons_of_mem _ member)
    refine ⟨record :: records, ?_, .cons here related⟩
    rw [List.mapM_cons, here, others]
    rfl

theorem Ready.keyed (ready : Ready externals database) {row : StoredRecord} {record : ApprovalRecord}
    (member : row ∈ database.approvals.rows) (valid : row.validate externals = some record) :
    database.approvals.get record.approvalId = some row := by
  obtain ⟨approvalId, found⟩ := Table.mem_rows.mp member
  obtain ⟨other, valid', named⟩ := ready.valid approvalId row found
  rw [Option.some.inj (valid.symm.trans valid'), named, found]

theorem settles_listPending (ready : Ready externals database) {tenant : String} :
    Settles (backend externals) (· = .answered) id (Kept externals database (.listPending tenant))
      (listPending externals tenant) database := by
  let rows := sortedBy StoredRecord.createdAt
    (database.approvals.rows.filter fun row => row.tenant = tenant ∧ row.status = .pending)
  have ran : execute externals database (.selectPending tenant) = (database, some rows, []) := rfl
  have listed : ∀ row, row ∈ rows ↔ row ∈ database.approvals.rows ∧ row.tenant = tenant ∧ row.status = .pending := by
    intro row
    rw [mem_sortedBy, List.mem_filter, decide_eq_true_eq]
  have distinct : rows.Nodup := by
    apply (sortedBy_perm _ _).nodup_iff.mpr
    apply List.Nodup.filter
    apply Table.nodup_rows
    intro approvalId other row found found'
    obtain ⟨record, valid, named⟩ := ready.valid approvalId row found
    obtain ⟨record', valid', named'⟩ := ready.valid other row found'
    rw [← named, ← named', Option.some.inj (valid.symm.trans valid')]
  have present : ∀ row ∈ rows, ∃ record, row.validate externals = some record := by
    intro row member
    obtain ⟨approvalId, found⟩ := Table.mem_rows.mp ((listed row).mp member).1
    obtain ⟨record, valid, -⟩ := ready.valid approvalId row found
    exact ⟨record, valid⟩
  obtain ⟨records, validated, related⟩ := exists_mapM_validate present
  apply settles_command ran
  simp only [validated]
  refine ⟨.listed ?_ (fun record => ?_) ?_, ready⟩
  · apply nodup_of_forall₂ related distinct
    intro record row member row' member' valid valid'
    have found := ready.keyed ((listed row).mp member).1 valid
    have found' := ready.keyed ((listed row').mp member').1 valid'
    exact Option.some.inj (found.symm.trans found')
  · constructor
    · intro member
      obtain ⟨row, among, valid⟩ := exists_of_mapM_validate validated member
      obtain ⟨stored, own, pending⟩ := (listed row).mp among
      obtain ⟨-, sameTenant, sameStatus⟩ := StoredRecord.validate_fields valid
      exact ⟨(record_of_get (ready.keyed stored valid)).trans valid, sameTenant.trans own, sameStatus.trans pending⟩
    · rintro ⟨registered, own, pending⟩
      obtain ⟨row, found, valid⟩ := Option.bind_eq_some_iff.mp registered
      obtain ⟨-, sameTenant, sameStatus⟩ := StoredRecord.validate_fields valid
      have among : row ∈ rows := (listed row).mpr
        ⟨Table.mem_rows.mpr ⟨_, found⟩, sameTenant.symm.trans own, sameStatus.symm.trans pending⟩
      obtain ⟨record', member, valid'⟩ := exists_related related.flip among
      rw [Option.some.inj (valid.symm.trans valid')]
      exact member
  · apply chronological_of_mapM_validate (sortedBy_ordered _ _) _ validated
    intro row member
    obtain ⟨approvalId, found⟩ := Table.mem_rows.mp ((listed row).mp member).1
    exact ready.dated approvalId row found

theorem settles_call {client : Nat} {operation : Operation} (ready : Ready externals database)
    (fresh : ∀ requestId requester query tenant uuid4 now,
      operation = .createPending requestId requester query tenant uuid4 now →
        database.record externals uuid4.text = none) :
    Settles (backend externals) (· = .answered) id (Kept externals database operation)
      (program externals ⟨client, operation⟩) database := by
  cases operation with
  | createPending => exact settles_createPending ready (fresh _ _ _ _ _ _ rfl)
  | decide => exact settles_decide ready
  | get approvalId tenant =>
    refine settles_bind.mpr ((settles_get ready approvalId tenant).imp fun after found given => ?_)
    obtain ⟨rfl, rfl⟩ := given
    exact ⟨.got, ready⟩
  | listPending => exact settles_listPending ready

end AgentPlatform.State.SQLite
