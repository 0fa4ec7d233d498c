import AgentPlatform.State.SQLite

/-! # Decisions of the SQLite store -/

namespace AgentPlatform.State.SQLite

open Interleaving

variable {externals : Externals}

def Database.record (externals : Externals) (database : Database) (approvalId : String) :
    Option ApprovalRecord :=
  (database.approvals.get approvalId).bind (StoredRecord.validate externals)

/-- The rows are the records that the history tells, each under its identifier. -/
structure Consistent (externals : Externals) (database : Database) (log : List StoreObservation) : Prop where
  recorded : Recorded some (database.record externals) log
  valid : ∀ approvalId row, database.approvals.get approvalId = some row →
    ∃ record, row.validate externals = some record ∧ record.approvalId = approvalId

/-- All statements answer; other calls may do to the rows what they like. -/
def discipline (externals : Externals) : Discipline Database StoreCall Effect (Except StoreError Answer) where
  Invariant := Consistent externals
  Guarantee _ _ _ := True
  Allowed effect := effect ≠ .failed
  quiet _ _ := trivial

theorem Consistent.initial : Consistent externals (backend externals).init [] where
  recorded := Recorded.initial some
  valid approvalId row found := by
    simp only [backend, Table.get_empty] at found
    cases found

theorem Consistent.snoc {database : Database} {log : List StoreObservation} {observation : StoreObservation}
    (consistent : Consistent externals database log) (unwritten : ∀ approvalId, written approvalId observation = none)
    (lawful : Lawful some log observation) (answers : Answers some log observation) :
    Consistent externals database (log ++ [observation]) where
  recorded := consistent.recorded.snoc lawful answers fun approvalId => by rw [unwritten, Option.none_or]
  valid := consistent.valid

theorem Consistent.write {database after : Database} {log : List StoreObservation} {id : Nat}
    {row : StoredRecord} {before : Option ApprovalRecord} {record : ApprovalRecord}
    (consistent : Consistent externals database log) (valid : row.validate externals = some record)
    (set : after.approvals = database.approvals.set record.approvalId row)
    (lawful : Lawful some log (.did id (.wrote before record))) :
    Consistent externals after (log ++ [.did id (.wrote before record)]) where
  recorded := by
    refine consistent.recorded.snoc lawful trivial fun approvalId => ?_
    by_cases same : approvalId = record.approvalId
    · simp [Database.record, set, same, valid, written]
    · simp [Database.record, set, same, written, Ne.symm same]
  valid approvalId other found := by
    rw [set, Table.get_set] at found
    split at found
    · rename_i same
      cases found
      exact ⟨record, valid, same.symm⟩
    · exact consistent.valid approvalId other found

theorem exec_answered {id : Nat} {database after : Database} {outcome : Outcome} {c : Command}
    {reply : Reply c} {out : List Effect}
    (ran : (backend externals).exec id database outcome c = some (after, reply, out))
    (allowed : ∀ effect ∈ out, effect ≠ .failed) : execute externals database c = (after, reply, out) := by
  cases outcome with
  | answered => exact Option.some.inj ran
  | failed =>
    simp only [backend, Option.map_eq_some_iff] at ran
    obtain ⟨_, _, same⟩ := ran
    cases same
    exact absurd rfl (allowed .failed (by simp))

theorem execute_insert {database after : Database} {log : List StoreObservation} (id : Nat)
    {row : StoredRecord} {record : ApprovalRecord} {reply : Option Unit} {out : List Effect}
    (consistent : Consistent externals database log) (valid : row.validate externals = some record)
    (pending : record.status = .pending)
    (ran : execute externals database (.insert row) = (after, reply, out))
    (allowed : ∀ effect ∈ out, effect ≠ .failed) :
    Consistent externals after (log ++ out.map (.did id)) := by
  obtain ⟨sameId, -, -⟩ := StoredRecord.validate_fields valid
  simp only [execute] at ran
  split at ran
  · cases ran
    exact absurd rfl (allowed .failed (by simp))
  · rename_i absent
    cases ran
    simp only [writeOf, valid, Option.bind_none, List.map_cons, List.map_nil]
    refine consistent.write valid (by rw [sameId]) ⟨?_, pending⟩
    rw [← consistent.recorded.replayed, Database.record, sameId, absent]
    rfl

theorem execute_update {database after : Database} {log : List StoreObservation} (id : Nat)
    {decision : Decision} {reviewer reason approvalId tenant : String} {now : Datetime}
    {reply : Option Nat} {out : List Effect} (consistent : Consistent externals database log)
    (ran : execute externals database (.update decision reviewer reason now.isoformat approvalId tenant) =
      (after, reply, out)) :
    Consistent externals after (log ++ out.map (.did id)) ∧
      ((reply = some 0 ∧ out = []) ∨
        ∃ old, reply = some 1 ∧ out = [.wrote (some old) (old.decide decision reviewer reason now)] ∧
          old.approvalId = approvalId ∧ old.status = .pending ∧ old.tenant = tenant) := by
  simp only [execute] at ran
  split at ran
  · cases ran
    exact ⟨by simpa using consistent, .inl ⟨rfl, rfl⟩⟩
  · rename_i row found
    obtain ⟨old, valid, sameId⟩ := consistent.valid approvalId row found
    obtain ⟨-, sameTenant, sameStatus⟩ := StoredRecord.validate_fields valid
    have changed := StoredRecord.validate_decide valid decision reviewer reason now
    split at ran
    · rename_i decidable
      cases ran
      have wrote : writeOf externals (some row) (row.decide decision reviewer reason now.isoformat) =
          [.wrote (some old) (old.decide decision reviewer reason now)] := by
        simp only [writeOf, changed, Option.bind_some, valid]
      rw [wrote]
      have pending : old.status = .pending := sameStatus.trans decidable.1
      refine ⟨consistent.write changed (by rw [ApprovalRecord.decide, sameId]) ⟨?_, pending, _, _, _, _, rfl⟩,
        .inr ⟨old, rfl, rfl, sameId, pending, sameTenant.trans decidable.2⟩⟩
      rw [← consistent.recorded.replayed, Database.record, ApprovalRecord.decide, sameId, found]
      exact valid
    · cases ran
      exact ⟨by simpa using consistent, .inl ⟨rfl, rfl⟩⟩

theorem execute_selectOne {database after : Database} {log : List StoreObservation} (id : Nat)
    {approvalId tenant : String} {reply : Option (Option StoredRecord)} {out : List Effect}
    (consistent : Consistent externals database log)
    (ran : execute externals database (.selectOne approvalId tenant) = (after, reply, out)) :
    Consistent externals after (log ++ out.map (.did id)) ∧ ∃ row found, reply = some row ∧
      out = [.read approvalId (some tenant) found] ∧
      found = (latest log approvalId).filter (inScope (some tenant)) ∧
      ((row = none ∧ found = none) ∨ ∃ stored record, row = some stored ∧ found = some record ∧
        stored.validate externals = some record) := by
  cases ran
  have seen : ((database.approvals.get approvalId).filter fun row => row.tenant = tenant).bind
      (StoredRecord.validate externals) = (latest log approvalId).filter (inScope (some tenant)) := by
    rw [← consistent.recorded.replayed, Database.record]
    cases found : database.approvals.get approvalId with
    | none => rfl
    | some row =>
      obtain ⟨record, valid, -⟩ := consistent.valid approvalId row found
      obtain ⟨-, sameTenant, -⟩ := StoredRecord.validate_fields valid
      by_cases own : row.tenant = tenant
      · simp [Option.filter, inScope, own, valid, sameTenant]
      · simp [Option.filter, inScope, own, valid, sameTenant]
  refine ⟨consistent.snoc (fun _ => rfl) ?_ trivial, _, _, rfl, rfl, seen, ?_⟩
  · simpa [Lawful] using seen
  · cases found : (database.approvals.get approvalId).filter fun row => row.tenant = tenant with
    | none => exact .inl ⟨rfl, rfl⟩
    | some row =>
      obtain ⟨record, valid, -⟩ := consistent.valid approvalId row (Option.filter_eq_some_iff.mp found).1
      exact .inr ⟨row, record, rfl, by rw [Option.bind_some, valid], valid⟩

/-! ## Proof outlines -/

/-- An outline of a call from what it has observed so far. -/
abbrev Outlines (externals : Externals) (id : Nat) (call : StoreCall) (facts : List StoreObservation)
    (point : StoreProgram (Except StoreError Answer)) : Prop :=
  Outline (discipline externals) (backend externals) id (Seen (.invoked id call :: facts)) point

section

variable {id : Nat} {call : StoreCall} {facts : List StoreObservation}

theorem outline_done {answer : Except StoreError Answer}
    (explains : ∀ log, facts ⊆ log → Explains some log id call.operation answer) :
    Outlines externals id call facts (.done answer) := by
  refine .done (stable_seen id _) fun _ log consistent seen => ?_
  obtain ⟨invoked, seen⟩ := List.cons_subset.mp seen
  exact consistent.snoc (fun _ => rfl) trivial ⟨call, invoked, explains log seen⟩

theorem outline_command {c : Command} {next : Reply c → StoreProgram (Except StoreError Answer)}
    (kept : ∀ database log after reply out, Consistent externals database log →
      execute externals database c = (after, reply, out) → (∀ effect ∈ out, effect ≠ .failed) →
      Consistent externals after (log ++ out.map (.did id)))
    (onward : ∀ reply, Outlines externals id call facts (next reply)) :
    Outlines externals id call facts (.command c next) := by
  refine .command (fun _ => Seen (.invoked id call :: facts)) (stable_seen id _) ?_ onward
  intro database log outcome after reply out consistent seen ran allowed
  exact ⟨kept database log after reply out consistent (exec_answered ran allowed) allowed, trivial,
    fun _ member => List.mem_append_left _ (seen member)⟩

theorem outline_gauge {client : Nat} {tenant : String} {change : Int} {answer : Except StoreError Answer}
    (explains : ∀ log, facts ⊆ log → Explains some log id call.operation answer) :
    Outlines externals id call facts
      (.command (.adjustGauge client tenant change) fun _ => .done answer) := by
  refine outline_command ?_ fun _ => outline_done explains
  intro database log after reply out consistent ran allowed
  cases ran
  simp only [List.map_nil, List.append_nil]
  exact ⟨consistent.recorded, consistent.valid⟩

/-- `get` within a call: what is known of every history with the facts is known of what it finds. -/
theorem outline_get {approvalId tenant : String} (Known : Option ApprovalRecord → Prop)
    (known : ∀ log, Throughout (Lawful some) log → facts ⊆ log →
      Known ((latest log approvalId).filter (inScope (some tenant))))
    {rest : Except StoreError (Option ApprovalRecord) → StoreProgram (Except StoreError Answer)}
    (onward : ∀ found, Known found → Outlines externals id call
      (.did id (.read approvalId (some tenant) found) :: facts) (rest (.ok found))) :
    Outlines externals id call facts ((get externals approvalId tenant).bind rest) := by
  refine .command (fun reply state log => ∃ found, (Known found ∧ ∃ row, reply = some row ∧
    ((row = none ∧ found = none) ∨ ∃ stored record, row = some stored ∧ found = some record ∧
      stored.validate externals = some record)) ∧
    Seen (.invoked id call :: .did id (.read approvalId (some tenant) found) :: facts) state log)
    (stable_seen id _) ?_ ?_
  · intro database log outcome after reply out consistent seen ran allowed
    obtain ⟨kept, row, found, rfl, rfl, same, shown⟩ :=
      execute_selectOne id consistent (exec_answered ran allowed)
    obtain ⟨invoked, seen⟩ := List.cons_subset.mp seen
    refine ⟨kept, trivial, found, ⟨?_, row, rfl, shown⟩, ?_⟩
    · rw [same]
      exact known log consistent.recorded.lawful seen
    · exact List.cons_subset.mpr ⟨List.mem_append_left _ invoked, List.cons_subset.mpr
        ⟨by simp, fun _ member => List.mem_append_left _ (seen member)⟩⟩
  · refine fun reply => .witness fun found => .given ?_
    rintro ⟨knows, row, rfl, ⟨rfl, rfl⟩ | ⟨stored, record, rfl, rfl, valid⟩⟩
    · exact onward none knows
    · have point := onward (some record) knows
      simp only [Program.bind, valid]
      exact point

end

section

variable {id client : Nat}

theorem outline_createPending {requestId requester query tenant : String} {uuid4 : Uuid} {now : Datetime} :
    Outlines externals id ⟨client, .createPending requestId requester query tenant uuid4 now⟩ []
      (createPending externals client requestId requester query tenant uuid4 now) := by
  refine outline_command ?_ ?_
  · exact fun database log after reply out consistent ran allowed => execute_insert id consistent
      (StoredRecord.validate_stored externals _ (externals.parse_isoformat _)) rfl ran allowed
  · intro reply
    cases reply with
    | none => exact outline_done fun _ _ => trivial
    | some =>
      refine outline_get (fun found => ∀ record, found = some record →
        record.approvalId = uuid4.text ∧ record.tenant = tenant) ?_ fun found known => ?_
      · intro log lawful seen record found
        obtain ⟨last, own⟩ := Option.filter_eq_some_iff.mp found
        exact ⟨latest_approvalId last, by simpa [inScope] using own⟩
      · cases found with
        | none => exact outline_done fun _ _ => trivial
        | some record => exact outline_gauge fun _ _ => known record rfl

theorem outline_decide {approvalId reviewer reason tenant : String} {decision : Decision} {now : Datetime} :
    Outline (discipline externals) (backend externals) id (fun state log => Idle id log ∧
        Seen [.invoked id ⟨client, .decide approvalId decision reviewer reason tenant now⟩] state log)
      (decide externals client approvalId decision reviewer reason tenant now) := by
  have stable : Stable (discipline externals) id (fun state log => Idle id log ∧
      Seen [.invoked id ⟨client, .decide approvalId decision reviewer reason tenant now⟩] state log) := by
    intro other before log after out apart _ _ own ⟨idle, seen⟩
    exact ⟨idle.append fun old new wrote => apart (own _ wrote).symm,
      fun _ member => List.mem_append_left _ (seen member)⟩
  refine .command (Option.elim · (fun _ _ => False) fun rowcount => Nat.casesOn rowcount
      (fun state log => Idle id log ∧
        Seen [.invoked id ⟨client, .decide approvalId decision reviewer reason tenant now⟩] state log)
      fun further state log => ∃ old, (further = 0 ∧ old.approvalId = approvalId ∧
          old.status = .pending ∧ old.tenant = tenant) ∧
        Seen [.invoked id ⟨client, .decide approvalId decision reviewer reason tenant now⟩,
          .did id (.wrote (some old) (old.decide decision reviewer reason now))] state log) stable ?_ ?_
  · rintro database log outcome after reply out consistent ⟨idle, seen⟩ ran allowed
    obtain ⟨kept, ⟨rfl, rfl⟩ | ⟨old, rfl, rfl, named, pending, owned⟩⟩ :=
      execute_update id consistent (exec_answered ran allowed)
    · exact ⟨kept, trivial, by simpa using idle, by simpa [Seen] using seen⟩
    · refine ⟨kept, trivial, old, ⟨rfl, named, pending, owned⟩, ?_⟩
      exact List.cons_subset.mpr ⟨List.mem_append_left _ (seen (by simp)), by simp⟩
  · rintro (_ | _ | rowcount)
    · exact .unreached (fun _ _ => not_false) _
    · refine .done stable fun _ log consistent ⟨idle, seen⟩ => ?_
      exact consistent.snoc (fun _ => rfl) trivial
        ⟨⟨client, .decide approvalId decision reviewer reason tenant now⟩, seen (by simp), rfl, idle⟩
    · refine .witness fun old => .given ?_
      rintro ⟨rfl, rfl, pending, owned⟩
      refine outline_get (fun found => found = some (old.decide decision reviewer reason now)) ?_ ?_
      · exact fun log lawful seen => latest_decided_inScope lawful owned (seen (List.mem_singleton.mpr rfl))
      · rintro found rfl
        exact outline_gauge fun log seen => ⟨now, old, rfl, owned, pending, rfl, seen (by simp)⟩

theorem outline_listPending {tenant : String} :
    Outlines externals id ⟨client, .listPending tenant⟩ [] (listPending externals tenant) := by
  refine outline_command ?_ ?_
  · intro database log after reply out consistent ran allowed
    cases ran
    simpa using consistent
  · intro reply
    cases reply with
    | none => exact outline_done fun _ _ => trivial
    | some rows =>
      dsimp only
      split
      · exact outline_done fun _ _ => trivial
      · exact outline_done fun _ _ => trivial

theorem outline_getCall {approvalId tenant : String} :
    Outlines externals id ⟨client, .get approvalId tenant⟩ []
      (program externals ⟨client, .get approvalId tenant⟩) := by
  refine outline_get (fun found => found = found.filter (·.tenant = tenant)) ?_ fun found own => ?_
  · intro log _ _
    rw [inScope_some, Option.filter_filter]
    simp only [Bool.and_self]
  · refine outline_done fun log seen => ⟨some tenant, found, ?_, seen (by simp), own⟩
    exact fun owner same => (Option.some.inj same).symm

end

theorem governs (externals : Externals) :
    Governs (discipline externals) (backend externals) (program externals) where
  initial := .initial
  invoke database log id call consistent fresh := by
    have invoked : Seen [.invoked id call] database (log ++ [.invoked id call]) := by simp [Seen]
    refine ⟨consistent.snoc (fun _ => rfl) trivial trivial, ?_⟩
    obtain ⟨client, operation⟩ := call
    cases operation with
    | createPending => exact ⟨_, invoked, outline_createPending⟩
    | decide =>
      refine ⟨_, ⟨fun old new wrote => ?_, invoked⟩, outline_decide⟩
      exact fresh _ (by simpa using wrote) rfl
    | get => exact ⟨_, invoked, outline_getCall⟩
    | listPending => exact ⟨_, invoked, outline_listPending⟩

theorem run_decisionsHold {events : List (Event StoreCall Outcome)}
    {final : Interleaving.State Database Command Reply (Except StoreError Answer)}
    {log : List StoreObservation} (ran : (store externals).run events = some (final, log))
    (succeeds : ∀ id, .did id .failed ∉ log) : DecisionsHold some (final.backend.record externals) log := by
  have consistent : Consistent externals final.backend log :=
    run_invariant (governs externals) ran fun id effect seen same => succeeds id (same ▸ seen)
  exact consistent.recorded.decisionsHold (run_orderly ran)

end AgentPlatform.State.SQLite
