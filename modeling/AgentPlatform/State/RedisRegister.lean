import AgentPlatform.State.RedisFailures
import AgentPlatform.State.Register

/-! # The Redis store as a register -/

namespace AgentPlatform.State.Redis

open Interleaving Python

/-- Each key holds what it is for, and an index the identifiers of what is pending. -/
structure Ready (externals : Externals) (keyPrefix : String) (database : Database) : Prop where
  typed : Typed externals keyPrefix database
  indexed : ∀ tenant approvalId, approvalId ∈ database.index keyPrefix tenant ↔
    ∃ record, database.record externals keyPrefix approvalId = some record ∧ pendingFor tenant record

def Kept (externals : Externals) (keyPrefix : String) (database : Database) (operation : Operation) (after : Database)
    (answer : Except StoreError Answer) : Prop :=
  Behaves externals some (database.record externals keyPrefix) operation answer (after.record externals keyPrefix) ∧
    Ready externals keyPrefix after

/-- An identifier of the client's own names no index. -/
def Unindexed : Operation → Prop
  | .decide approvalId .. | .get approvalId _ => ∀ owner, approvalId ≠ "pending-index:" ++ owner
  | .createPending .. | .listPending _ => True

section

variable {externals : Externals} {keyPrefix : String} {database : Database} {id client : Nat} {tenant : String}

theorem Ready.empty : Ready externals keyPrefix (backend externals keyPrefix).init where
  typed := by
    constructor
    · intro name stored found
      rw [backend, Table.get_empty] at found
      cases found
    · intro name members found
      rw [backend, Table.get_empty] at found
      cases found
  indexed tenant approvalId := by
    simp [backend, Database.index, Database.record]

theorem Ready.owned (ready : Ready externals keyPrefix database) (tenant : String) :
    ∀ approvalId ∈ database.index keyPrefix tenant, Owned externals keyPrefix database approvalId tenant := by
  intro approvalId member
  obtain ⟨record, found, own, -⟩ := (ready.indexed tenant approvalId).mp member
  exact ⟨record, found, own⟩

theorem Typed.named (typed : Typed externals keyPrefix database) {approvalId : String} {record : ApprovalRecord}
    (found : database.record externals keyPrefix approvalId = some record) : record.approvalId = approvalId := by
  obtain ⟨stored, present, valid⟩ := record_found found
  obtain ⟨uuid, record', -, valid', same, -⟩ := typed.record_of_found present
  rw [Option.some.inj (valid.symm.trans valid'), same]

theorem Ready.change (ready : Ready externals keyPrefix database) {uuid : Uuid} {stored : StoredRecord}
    {record : ApprovalRecord} (valid : stored.validate externals = some record) (named : record.approvalId = uuid.text)
    {approvalIds : Finset String}
    (others : ∀ tenant, tenant ≠ record.tenant → uuid.text ∉ database.index keyPrefix tenant)
    (members : ∀ approvalId, approvalId ∈ approvalIds ↔
      if approvalId = uuid.text then record.status = .pending else approvalId ∈ database.index keyPrefix record.tenant) :
    Ready externals keyPrefix ((database.put (key keyPrefix uuid.text) (.record stored)).putMembers
        (tenantPendingKey keyPrefix record.tenant) approvalIds) ∧
      ((database.put (key keyPrefix uuid.text) (.record stored)).putMembers
        (tenantPendingKey keyPrefix record.tenant) approvalIds).record externals keyPrefix =
        Function.update (database.record externals keyPrefix) uuid.text (some record) := by
  have typed := ready.typed.put valid named
  have recorded : ((database.put (key keyPrefix uuid.text) (.record stored)).putMembers
      (tenantPendingKey keyPrefix record.tenant) approvalIds).record externals keyPrefix =
        Function.update (database.record externals keyPrefix) uuid.text (some record) := by
    funext approvalId
    rw [typed.record_putMembers, record_put, valid]
    by_cases same : approvalId = uuid.text
    · rw [if_pos same, same, Function.update_self]
    · rw [if_neg same, Function.update_of_ne same]
  refine ⟨⟨typed.putMembers _ _, fun tenant approvalId => ?_⟩, recorded⟩
  rw [recorded, index_putMembers, index_put]
  by_cases own : tenant = record.tenant
  · rw [if_pos own, members]
    by_cases same : approvalId = uuid.text
    · rw [if_pos same, same, Function.update_self]
      constructor
      · exact fun pending => ⟨record, rfl, own.symm, pending⟩
      · intro present
        obtain ⟨other, found, -, pending⟩ := present
        rw [Option.some.inj found]
        exact pending
    · rw [if_neg same, Function.update_of_ne same, ← own]
      exact ready.indexed tenant approvalId
  · rw [if_neg own]
    by_cases same : approvalId = uuid.text
    · rw [same, Function.update_self]
      constructor
      · exact fun among => absurd among (others tenant own)
      · intro present
        obtain ⟨other, found, foreign, -⟩ := present
        rw [← Option.some.inj found] at foreign
        exact absurd foreign.symm own
    · rw [Function.update_of_ne same]
      exact ready.indexed tenant approvalId

theorem settles_createPending (ready : Ready externals keyPrefix database) {requestId requester query : String} {uuid4 : Uuid}
    {now : Datetime} (fresh : database.record externals keyPrefix uuid4.text = none) :
    Settles (backend externals keyPrefix) (· ≠ .failed) id
      (Kept externals keyPrefix database (.createPending requestId requester query tenant uuid4 now))
      (createPending externals client requestId requester query tenant uuid4 now) database := by
  let pending := buildPendingRecord externals requestId requester query tenant uuid4 now
  let stored := pending.stored (externals.dumpDatetime pending.createdAt)
  have valid : stored.validate externals = some pending := StoredRecord.validate_stored externals pending (externals.parse_dump _)
  have absent : database.keyspace.get (key keyPrefix uuid4.text) = none := by
    cases found : database.keyspace.get (key keyPrefix uuid4.text) with
    | none => rfl
    | some value =>
      cases value with
      | record old =>
        obtain ⟨-, record, -, -, -, recorded⟩ := ready.typed.record_of_found found
        rw [fresh] at recorded
        cases recorded
      | members approvalIds =>
        obtain ⟨owner, same⟩ := ready.typed.members _ _ found
        exact absurd same (key_ne_tenantPendingKey keyPrefix uuid4 owner)
  have unlisted (owner : String) : uuid4.text ∉ database.index keyPrefix owner := by
    intro among
    obtain ⟨record, found, -⟩ := (ready.indexed owner _).mp among
    rw [fresh] at found
    cases found
  have set (order : List String) : execute externals keyPrefix database order (.set uuid4.text stored) =
      some (database.put (key keyPrefix uuid4.text) (.record stored), some true, writeOf externals none stored) := by
    simp only [execute, absent]
    rfl
  have typed := @Typed.put _ _ _ ready.typed uuid4 stored pending valid rfl
  obtain ⟨kept, changed⟩ := @Ready.change _ _ _ ready uuid4 stored pending valid rfl
    (insert uuid4.text (database.index keyPrefix tenant)) (fun owner _ => unlisted owner) fun approvalId => by
      by_cases same : approvalId = uuid4.text
      · simp [same, pending, buildPendingRecord]
      · simp [same, pending, buildPendingRecord]
  apply settles_ran set
  apply settles_ran (fun order => execute_sadd typed order tenant uuid4.text)
  apply settles_ran (fun order => rfl)
  rw [index_put]
  refine ⟨?_, ⟨kept.typed.records, kept.typed.members⟩, kept.indexed⟩
  exact (congrArg (Behaves externals some _ _ _) changed).mpr .created

theorem settles_decide (ready : Ready externals keyPrefix database) {approvalId reviewer reason : String}
    {decision : Decision} {now : Datetime} (unindexed : ∀ owner, approvalId ≠ "pending-index:" ++ owner) :
    Settles (backend externals keyPrefix) (· ≠ .failed) id
      (Kept externals keyPrefix database (.decide approvalId decision reviewer reason tenant now))
      (decide externals client approvalId decision reviewer reason tenant now) database := by
  have refused (unchanged : ∀ order, execute externals keyPrefix database order
        (.eval approvalId decision reviewer reason now.isoformat tenant) = some (database, some none, []))
      (closed : ∀ old, recordOf some (database.record externals keyPrefix) approvalId tenant = some old →
        old.status ≠ .pending) :
      Settles (backend externals keyPrefix) (· ≠ .failed) id
        (Kept externals keyPrefix database (.decide approvalId decision reviewer reason tenant now))
        (decide externals client approvalId decision reviewer reason tenant now) database :=
    settles_ran unchanged ⟨.refused closed, ready⟩
  cases found : database.keyspace.get (key keyPrefix approvalId) with
  | none =>
    apply refused
    · intro order
      simp only [execute, found]
      rfl
    · intro old recorded
      simp [recordOf, Database.record, found] at recorded
  | some value =>
    cases value with
    | members approvalIds =>
      obtain ⟨owner, same⟩ := ready.typed.members _ _ found
      rw [tenantPendingKey_eq] at same
      exact absurd (key_injective same) (unindexed owner)
    | record current =>
      obtain ⟨uuid, old, rfl, valid, named, recorded⟩ := ready.typed.record_of_found found
      obtain ⟨-, sameTenant, sameStatus⟩ := StoredRecord.validate_fields valid
      have known : recordOf some (database.record externals keyPrefix) uuid.text tenant =
          if old.tenant = tenant then some old else none := by
        simp [recordOf, recorded, Option.filter_some]
      by_cases decidable : current.status = .pending ∧ current.tenant = tenant
      · have own : old.tenant = tenant := sameTenant.trans decidable.2
        have pending : old.status = .pending := sameStatus.trans decidable.1
        let stored := current.decide decision reviewer reason now.isoformat
        let decided := old.decide decision reviewer reason now
        have updated : stored.validate externals = some decided := StoredRecord.validate_decide valid decision reviewer reason now
        have closed : decided.status ≠ .pending := Decides.not_pending ⟨pending, _, _, _, _, rfl⟩
        have ran (order : List String) : execute externals keyPrefix database order
            (.eval uuid.text decision reviewer reason now.isoformat tenant) =
              some (database.put (key keyPrefix uuid.text) (.record stored), some (some stored),
                writeOf externals (some current) stored) := by
          simp only [execute, found, decideScript, decidable, ne_eq, not_true_eq_false, if_false]
          rfl
        have typed := ready.typed.put updated named
        obtain ⟨kept, changed⟩ := @Ready.change _ _ _ ready uuid stored decided updated named
          ((database.index keyPrefix decided.tenant).erase uuid.text)
          (fun owner apart among => by
            obtain ⟨record, present, foreign, -⟩ := (ready.indexed owner _).mp among
            rw [recorded] at present
            exact apart (by rw [← foreign, ← Option.some.inj present]; rfl))
          fun other => by
            by_cases same : other = uuid.text
            · simp [same, closed]
            · simp [same]
        have listed : uuid.text ∈ database.index keyPrefix decided.tenant :=
          (ready.indexed _ _).mpr ⟨old, recorded, rfl, pending⟩
        have removed (order : List String) : execute externals keyPrefix
            (database.put (key keyPrefix uuid.text) (.record stored)) order (.srem decided.tenant uuid.text) =
              some ((database.put (key keyPrefix uuid.text) (.record stored)).putMembers
                (tenantPendingKey keyPrefix decided.tenant) ((database.index keyPrefix decided.tenant).erase uuid.text),
                some (), []) := by
          rcases typed.index_cases decided.tenant with ⟨-, empty⟩ | members
          · rw [index_put] at empty
            rw [empty] at listed
            exact absurd listed (Finset.notMem_empty _)
          · rw [index_put] at members
            simp only [execute, members]
            rfl
        apply settles_ran ran
        dsimp only
        rw [updated]
        apply settles_ran removed
        apply settles_ran (fun order => rfl)
        refine ⟨?_, ⟨kept.typed.records, kept.typed.members⟩, kept.indexed⟩
        rw [if_pos own] at known
        have behaves := @Behaves.decided externals some _ _ reviewer reason _ decision now now _ known pending
        rw [named] at behaves
        exact (congrArg (Behaves externals some _ _ _) changed).mpr behaves
      · apply refused
        · intro order
          have script : decideScript decision reviewer reason now.isoformat tenant current = none := by
            rw [decideScript]
            by_cases pending : current.status = .pending
            · rw [if_neg (not_not_intro pending), if_pos fun own => decidable ⟨pending, own⟩]
            · rw [if_pos pending]
          simp only [execute, found, script]
          rfl
        · intro other recorded' pending
          rw [known] at recorded'
          obtain ⟨own, rfl⟩ := Option.ite_none_right_eq_some.mp recorded' |>.imp_right Option.some.inj
          exact decidable ⟨sameStatus.symm.trans pending, sameTenant.symm.trans own⟩

theorem kept_listPending (ready : Ready externals keyPrefix database) {order : List String} (distinct : order.Nodup)
    (members : order.toFinset = database.index keyPrefix tenant) :
    Kept externals keyPrefix database (.listPending tenant) database (.ok (.listed
      (sortedBy (fun record => record.createdAt.parts)
        ((order.filterMap (database.record externals keyPrefix)).filter fun record => record.status = .pending)))) := by
  refine ⟨.listed ?_ (fun record => ?_) (sortedBy_ordered _ _), ready⟩
  · apply (sortedBy_perm _ _).nodup_iff.mpr
    apply List.Nodup.filter
    apply distinct.filterMap
    intro first second record found found'
    exact (ready.typed.named found).symm.trans (ready.typed.named found')
  · rw [mem_sortedBy, List.mem_filter, decide_eq_true_eq, List.mem_filterMap]
    constructor
    · intro among
      obtain ⟨⟨approvalId, inOrder, found⟩, pending⟩ := among
      rw [← List.mem_toFinset, members] at inOrder
      obtain ⟨other, found', own, -⟩ := (ready.indexed tenant approvalId).mp inOrder
      obtain rfl := Option.some.inj (found.symm.trans found')
      exact ⟨by rw [ready.typed.named found, found], own, pending⟩
    · intro present
      obtain ⟨found, own, pending⟩ := present
      refine ⟨⟨record.approvalId, ?_, found⟩, pending⟩
      rw [← List.mem_toFinset, members]
      exact (ready.indexed tenant _).mpr ⟨record, found, own, pending⟩

theorem settles_call {operation : Operation} (ready : Ready externals keyPrefix database)
    (unindexed : Unindexed operation)
    (fresh : ∀ requestId requester query tenant uuid4 now,
      operation = .createPending requestId requester query tenant uuid4 now →
        database.record externals keyPrefix uuid4.text = none) :
    Settles (backend externals keyPrefix) (· ≠ .failed) id (Kept externals keyPrefix database operation)
      (program externals ⟨client, operation⟩) database := by
  cases operation with
  | createPending => exact settles_createPending ready (fresh _ _ _ _ _ _ rfl)
  | decide => exact settles_decide ready unindexed
  | get approvalId tenant =>
    refine settles_bind.mpr ((settles_get ready.typed tenant unindexed).imp fun after found given => ?_)
    obtain ⟨rfl, rfl⟩ := given
    exact ⟨.got, ready⟩
  | listPending tenant =>
    refine (settles_listPending ready.typed (ready.owned tenant)).imp fun after answer given => ?_
    obtain ⟨rfl, order, distinct, members, rfl⟩ := given
    exact kept_listPending ready distinct members

end

end AgentPlatform.State.Redis
