import AgentPlatform.State.PostgresSessions

/-! # Decisions of the PostgreSQL store -/

namespace AgentPlatform.State.Postgres.Decisions

open Interleaving Python RowSecurity

/-- The committed rows are the records that the history tells, and open transactions write different ones. -/
structure Consistent (database : Database) (log : List StoreObservation) : Prop where
  clean : Clean database
  coherent : database.server.Coherent ApprovalRecord.tenant
  recorded : Recorded canonical database.server.committed.get log

/-- What a call does to the connections of others and to the rows that they are about to write. -/
structure Respectful (id : Nat) (before after : Database) : Prop where
  undisturbed : Undisturbed id before after
  locked : ∀ holder client connection, holder ≠ id → before.held holder client = some connection →
    ∀ write ∈ (before.server.session connection).writes,
      after.server.committed.get write.1 = before.server.committed.get write.1

def discipline : Discipline Database StoreCall Effect (Except StoreError Answer) where
  Invariant := Consistent
  Guarantee := Respectful
  Allowed effect := effect ≠ .failed ∧ effect ≠ .rejected
  quiet id database := ⟨.refl id database, fun _ _ _ _ _ _ _ => rfl⟩

/-- What a call has observed so far, and whether it has written nothing. -/
structure Told (id : Nat) (idle : Prop) (facts log : List StoreObservation) : Prop where
  idle : idle → Idle id log
  seen : facts ⊆ log

/-- The write of a transaction on the row as it is. -/
def Due (old : Option ApprovalRecord) (write : String × ApprovalRecord) : Prop :=
  write.2.approvalId = write.1 ∧
    match old with
    | none => write.2.status = .pending
    | some old => Decides old write.2

def Asked (id : Nat) (idle : Prop) (facts : List StoreObservation) (_ : Database) (log : List StoreObservation) :
    Prop :=
  Told id idle facts log

def Taken (id client : Nat) (idle : Prop) (facts : List StoreObservation) (database : Database)
    (log : List StoreObservation) : Prop :=
  ∃ connection, database.held id client = some connection ∧ database.server.session connection = .idle ∧
    Told id idle facts log

def Opened (id client : Nat) (tenant : String) (writes : List (String × ApprovalRecord))
    (old : Option ApprovalRecord) (facts : List StoreObservation) (database : Database)
    (log : List StoreObservation) : Prop :=
  ∃ connection transaction, database.held id client = some connection ∧
    database.server.session connection = .active transaction ∧ transaction.setting = some tenant ∧
    transaction.writes = writes ∧ (∀ write ∈ writes, database.server.committed.get write.1 = old) ∧
    Told id True facts log

section

variable {id client : Nat} {idle : Prop} {facts log out : List StoreObservation} {database : Database}
  {tenant : String} {writes : List (String × ApprovalRecord)} {old : Option ApprovalRecord}

theorem Told.append (told : Told id idle facts log) (others : ∀ old new, .did id (.wrote old new) ∉ out) :
    Told id idle facts (log ++ out) :=
  ⟨fun holds => (told.idle holds).append others, fun _ member => List.mem_append_left _ (told.seen member)⟩

theorem not_wrote_of_others {other : Nat} (apart : other ≠ id) (own : ∀ observation ∈ out, observation.id = other)
    (old : Option ApprovalRecord) (new : ApprovalRecord) : .did id (.wrote old new) ∉ out :=
  fun member => apart (own _ member).symm

theorem stable_asked : Stable discipline id (Asked id idle facts) :=
  fun _ _ _ _ _ apart _ _ own told => told.append (not_wrote_of_others apart own)

theorem stable_taken : Stable discipline id (Taken id client idle facts) := by
  rintro other before log after out apart - respectful own ⟨connection, held, now, told⟩
  obtain ⟨held', same⟩ := respectful.undisturbed id client connection apart.symm held
  exact ⟨connection, held', same.trans now, told.append (not_wrote_of_others apart own)⟩

theorem stable_opened : Stable discipline id (Opened id client tenant writes old facts) := by
  rintro other before log after out apart - respectful own
    ⟨connection, transaction, held, active, setting, rfl, rows, told⟩
  obtain ⟨held', same⟩ := respectful.undisturbed id client connection apart.symm held
  refine ⟨connection, transaction, held', same.trans active, setting, rfl, fun write member => ?_,
    told.append (not_wrote_of_others apart own)⟩
  rw [respectful.locked id client connection apart.symm held write (by rw [active]; exact member)]
  exact rows write member

theorem Respectful.of_committed {before after : Database} (undisturbed : Undisturbed id before after)
    (committed : after.server.committed = before.server.committed) : Respectful id before after :=
  ⟨undisturbed, fun _ _ _ _ _ _ _ => by rw [committed]⟩

theorem Consistent.keyed (consistent : Consistent database log) {key : String} {record : ApprovalRecord}
    (found : database.server.committed.get key = some record) : record.approvalId = key := by
  rw [consistent.recorded.replayed] at found
  exact latest_approvalId found

theorem Consistent.snoc {observation : StoreObservation} (consistent : Consistent database log)
    (unwritten : ∀ approvalId, written approvalId observation = none) (lawful : Lawful canonical log observation)
    (answers : Answers canonical log observation) : Consistent database (log ++ [observation]) where
  clean := consistent.clean
  coherent := consistent.coherent
  recorded := consistent.recorded.snoc lawful answers fun approvalId => by rw [unwritten, Option.none_or]

/-! ## The outline of a call -/

variable {poolSize : Nat → Nat} {rest : StoreProgram (Except StoreError Answer)}

theorem outline_leave (onward : Outline discipline (backend poolSize) id (Asked id idle facts) rest) :
    Outline discipline (backend poolSize) id (Taken id client idle facts)
      (.command (.leave client) fun _ => rest) := by
  refine .command (fun _ => Asked id idle facts) stable_taken ?_ fun _ => onward
  rintro database log choice after reply out consistent ⟨connection, held, now, told⟩ ran -
  change execute id database choice (.leave client) = some (after, reply, out) at ran
  rw [execute_leave_held held] at ran
  cases ran
  rw [List.map_nil, List.append_nil]
  exact ⟨⟨Clean.leave consistent.clean held now, consistent.coherent, consistent.recorded⟩,
    .of_committed (undisturbed_leave held) rfl, told⟩

theorem outline_enter {next : Reply (.enter client) → StoreProgram (Except StoreError Answer)}
    (onward : Outline discipline (backend poolSize) id (Taken id client idle facts) (next ())) :
    Outline discipline (backend poolSize) id (Asked id idle facts) (.command (.enter client) next) := by
  refine .command (fun _ => Taken id client idle facts) stable_asked ?_ fun _ => onward
  rintro database log choice after ⟨⟩ out consistent told ran -
  change execute id database choice (.enter client) = some (after, (), out) at ran
  obtain ⟨number, queue, free, rfl, rfl⟩ := execute_enter ran
  rw [List.map_nil, List.append_nil]
  refine ⟨⟨Clean.enter consistent.clean free, consistent.coherent, consistent.recorded⟩,
    .of_committed (undisturbed_enter free) rfl, (client, number), held_eq_some.mpr ⟨rfl, ?_⟩, ?_, told⟩
  · simp [Database.setPool]
  · exact consistent.clean.idle client number (by simp [free])

theorem executeSQL_answered {after : Database} {connection : Nat × Nat} {choice : Choice} {sql : SQL}
    {reply : Option (List ApprovalRecord)} {effects : List Effect}
    (ran : executeSQL database connection choice sql = some (after, reply, effects))
    (allowed : ∀ effect ∈ effects, effect ≠ .failed ∧ effect ≠ .rejected) :
    ∃ statement opened closed rows, sql.statement = some statement ∧
      (database.server.session connection).begin choice.now = some opened ∧
      database.server.perform ApprovalRecord.tenant connection opened statement = .ran closed rows ∧
      after = { database with server := database.server.put connection (.active closed) } ∧
      reply = some (sql.arrange rows) ∧ effects = sql.effects closed.setting rows := by
  rcases executeSQL_cases ran with ⟨-, -, -, -, failed | rejected, -⟩ |
    ⟨statement, opened, closed, rows, -, stated, began, performed, same, ⟨-, answered⟩ | ⟨-, -, rfl⟩⟩
  · exact absurd rfl (allowed _ failed).1
  · exact absurd rfl (allowed _ rejected).2
  · exact ⟨statement, opened, closed, rows, stated, began, performed, same, answered⟩
  · exact absurd rfl (allowed .failed (by simp)).1

theorem Consistent.put {connection : Nat × Nat} {choice : Choice} {sql : SQL} {after : Database}
    {session : Session String ApprovalRecord String Datetime}
    {reply : Option (List ApprovalRecord)} {effects : List Effect} (consistent : Consistent database log)
    (held : database.held id client = some connection)
    (ran : executeSQL database connection choice sql = some (after, reply, effects))
    (same : after = { database with server := database.server.put connection session })
    (recorded : Recorded canonical database.server.committed.get (log ++ effects.map (.did id))) :
    Consistent after (log ++ effects.map (.did id)) ∧ Respectful id database after := by
  have coherent := executeSQL_coherent consistent.coherent ran
  subst same
  have others (other : Nat × Nat) (apart : other ≠ connection) :
      (database.server.put connection session).session other = database.server.session other := by
    rw [session_put, if_neg apart]
  exact ⟨⟨consistent.clean.server held others, coherent, recorded⟩,
    .of_committed (Undisturbed.server held others) rfl⟩

theorem outline_setConfig {next : Reply (.execute client (.setConfig tenant)) → StoreProgram (Except StoreError Answer)}
    (onward : ∀ reply, Outline discipline (backend poolSize) id (Opened id client tenant [] old facts)
      (next (some reply))) :
    Outline discipline (backend poolSize) id (Taken id client True facts)
      (.command (.execute client (.setConfig tenant)) next) := by
  refine .command (Option.elim · (fun _ _ => False) fun _ => Opened id client tenant [] old facts) stable_taken ?_ ?_
  · rintro database log choice after reply out consistent ⟨connection, held, now, told⟩ ran allowed
    change execute id database choice (.execute client (.setConfig tenant)) = some (after, reply, out) at ran
    rw [execute_sql_held held] at ran
    obtain ⟨statement, opened, closed, rows, stated, began, performed, same, rfl, rfl⟩ :=
      executeSQL_answered ran allowed
    cases stated
    cases performed
    rw [now] at began
    cases began
    obtain ⟨kept, respectful⟩ := Consistent.put consistent held ran same
      (by simpa [SQL.effects] using Consistent.recorded consistent)
    subst same
    refine ⟨kept, respectful, connection, _, held, by rw [session_put, if_pos rfl], rfl, rfl, by simp, ?_⟩
    simpa [SQL.effects] using told
  · rintro (_ | reply)
    · exact .unreached (fun _ _ => not_false) _
    · exact onward reply

def reads (id : Nat) (tenant : String) (rows : List ApprovalRecord) : SQL → List StoreObservation
  | .selectOne approvalId => [.did id (.read approvalId (some tenant) rows.head?)]
  | .setConfig _ | .insert _ | .update .. | .selectPending => []

/-- What a statement does in a transaction of the tenant that has written nothing: it answers some rows and
    is to write at most one, over what is committed under its identifier. -/
def Comes (tenant : String) (sql : SQL)
    (outcome : List ApprovalRecord → List (String × ApprovalRecord) → Option ApprovalRecord → Prop) : Prop :=
  ∀ database log connection opened closed rows statement, Consistent database log → sql.statement = some statement →
    opened.setting = some tenant → opened.writes = [] →
    database.server.perform ApprovalRecord.tenant connection opened statement = .ran closed rows →
    closed.setting = some tenant ∧ closed.writes.length ≤ 1 ∧
    (∀ approvalId, sql = .selectOne approvalId →
      rows.head? = ((canonical approvalId).bind database.server.committed.get).filter (inScope (some tenant))) ∧
    ∃ old, outcome (sql.arrange rows) closed.writes old ∧
      ∀ write ∈ closed.writes, database.server.committed.get write.1 = old ∧ Due old write

theorem Consistent.touched {setting : Option String} {rows : List ApprovalRecord}
    (consistent : Consistent database log) (sql : SQL)
    (read : ∀ approvalId, sql = .selectOne approvalId →
      rows.head? = ((canonical approvalId).bind database.server.committed.get).filter (inScope setting)) :
    Consistent database (log ++ (sql.effects setting rows).map (.did id)) := by
  have touched : Consistent database (log ++ [.did id (.touched setting rows)]) :=
    consistent.snoc (fun _ => rfl) trivial trivial
  cases sql with
  | setConfig => simpa [SQL.effects] using consistent
  | insert | update | selectPending => exact touched
  | selectOne approvalId =>
    have found : Consistent database (log ++ [.did id (.touched setting rows)] ++
        [.did id (.read approvalId setting rows.head?)]) := touched.snoc (fun _ => rfl) ?_ trivial
    · simpa [SQL.effects] using found
    · rw [Lawful, read approvalId rfl]
      congr 2
      funext key
      exact touched.recorded.replayed key

theorem effects_told (id : Nat) (tenant : String) (sql : SQL) (rows : List ApprovalRecord) :
    (∀ old new, .did id (.wrote old new) ∉
      ((sql.effects (some tenant) rows).map (.did id) : List StoreObservation)) ∧
      reads id tenant (sql.arrange rows) sql ⊆ (sql.effects (some tenant) rows).map (.did id) := by
  cases sql with
  | setConfig | insert | update | selectPending => simp [SQL.effects, reads]
  | selectOne approvalId => simp [SQL.effects, reads, SQL.arrange]

theorem outline_body {body : SQL} {next : Reply (.execute client body) → StoreProgram (Except StoreError Answer)}
    {outcome : List ApprovalRecord → List (String × ApprovalRecord) → Option ApprovalRecord → Prop}
    (comes : Comes tenant body outcome)
    (onward : ∀ rows writes old, outcome rows writes old → writes.length ≤ 1 → (∀ write ∈ writes, Due old write) →
      Outline discipline (backend poolSize) id
        (Opened id client tenant writes old (facts ++ reads id tenant rows body)) (next (some rows))) :
    Outline discipline (backend poolSize) id (Opened id client tenant [] none facts)
      (.command (.execute client body) next) := by
  refine .command (Option.elim · (fun _ _ => False) fun rows database log =>
      ∃ writes, ∃ old, (outcome rows writes old ∧ writes.length ≤ 1 ∧ ∀ write ∈ writes, Due old write) ∧
        Opened id client tenant writes old (facts ++ reads id tenant rows body) database log) stable_opened ?_ ?_
  · rintro database log choice after reply out consistent
      ⟨connection, transaction, held, active, setting, fresh, -, told⟩ ran allowed
    change execute id database choice (.execute client body) = some (after, reply, out) at ran
    rw [execute_sql_held held] at ran
    obtain ⟨statement, opened, closed, rows, stated, began, performed, same, rfl, rfl⟩ :=
      executeSQL_answered ran allowed
    rw [active] at began
    cases began
    obtain ⟨kept, single, read, old, come, due⟩ := comes database log connection transaction closed rows statement
      consistent stated setting fresh performed
    rw [kept] at ran ⊢
    obtain ⟨consistent', respectful⟩ := Consistent.put consistent held ran same
      (Consistent.touched consistent body read).recorded
    subst same
    refine ⟨consistent', respectful, closed.writes, old, ⟨come, single, fun write member => (due write member).2⟩,
      connection, closed, held, by rw [session_put, if_pos rfl], kept, rfl, fun write member => (due write member).1, ?_⟩
    obtain ⟨silent, shown⟩ := effects_told id tenant body rows
    exact ⟨fun holds => (told.idle holds).append silent,
      List.append_subset.mpr ⟨fun _ member => List.mem_append_left _ (told.seen member),
        fun _ member => List.mem_append_right _ (shown member)⟩⟩
  · rintro (_ | rows)
    · exact .unreached (fun _ _ => not_false) _
    · refine .witness fun writes => .witness fun old => .given ?_
      rintro ⟨come, single, due⟩
      exact onward rows writes old come single due

def commits (id : Nat) (old : Option ApprovalRecord) (writes : List (String × ApprovalRecord)) :
    List StoreObservation :=
  writes.map fun write => .did id (.wrote old write.2)

theorem recorded_commits {records : Table String ApprovalRecord} (recorded : Recorded canonical records.get log)
    (single : writes.length ≤ 1) (due : ∀ write ∈ writes, records.get write.1 = old ∧ Due old write) :
    Recorded canonical (records.overlay writes).get (log ++ commits id old writes) := by
  rcases writes with _ | ⟨⟨key, row⟩, _ | ⟨_, _⟩⟩
  · simpa [commits] using recorded
  · obtain ⟨found, named, lawful⟩ := due (key, row) (by simp)
    refine recorded.snoc (show Lawful canonical log (.did id (.wrote old row)) from ?_) trivial fun approvalId => ?_
    · cases old with
      | none => exact ⟨by rw [← recorded.replayed, named, found], lawful⟩
      | some old => exact ⟨by rw [← recorded.replayed, named, found], lawful⟩
    · rw [Table.overlay_cons, Table.overlay_nil, Table.get_set]
      by_cases same : approvalId = key
      · simp [written, same, show row.approvalId = key from named]
      · simp [written, same, show row.approvalId = key from named, Ne.symm same]
  · simp at single

theorem published_commits {committed : Table String ApprovalRecord} (single : writes.length ≤ 1)
    (due : ∀ write ∈ writes, committed.get write.1 = old) :
    (published committed writes).map (.did id) = commits id old writes := by
  rcases writes with _ | ⟨write, _ | ⟨_, _⟩⟩
  · rfl
  · simp [published, commits, due write (by simp)]
  · simp at single

theorem Consistent.commit {connection : Nat × Nat} {outcome : Outcome} {transaction : ApprovalTransaction}
    (consistent : Consistent database log) (held : database.held id client = some connection)
    (active : database.server.session connection = .active transaction)
    (answered : (database.server.commit connection outcome).2 = true)
    (single : transaction.writes.length ≤ 1)
    (due : ∀ write ∈ transaction.writes, database.server.committed.get write.1 = old ∧ Due old write) :
    Consistent { database with server := (database.server.commit connection outcome).1 }
        (log ++ commits id old transaction.writes) ∧
      Respectful id database { database with server := (database.server.commit connection outcome).1 } := by
  have others (other : Nat × Nat) (apart : other ≠ connection) :
      (database.server.commit connection outcome).1.session other = database.server.session other :=
    commit_session apart
  have committed : (database.server.commit connection outcome).1.committed =
      database.server.committed.overlay transaction.writes := by
    obtain ⟨-, ⟨idle, -⟩ | ⟨other, active', same⟩⟩ := commit_answered answered
    · rw [active] at idle
      cases idle
    · rw [active] at active'
      cases active'
      rw [same]
  refine ⟨⟨consistent.clean.server held others, consistent.coherent.commit, ?_⟩, Undisturbed.server held others, ?_⟩
  · change Recorded canonical (database.server.commit connection outcome).1.committed.get _
    rw [committed]
    exact recorded_commits consistent.recorded single due
  · intro holder client' other apart held' write written
    change (database.server.commit connection outcome).1.committed.get write.1 = _
    rw [committed, Table.get_overlay_of_notMem]
    intro mine member same
    have elsewhere : connection ≠ other := by
      rintro rfl
      exact apart (held_unique held' held)
    exact consistent.coherent.apart connection other elsewhere mine (by rw [active]; exact member) write written same

theorem outline_commit {next : Reply (.commit client) → StoreProgram (Except StoreError Answer)}
    (single : writes.length ≤ 1) (due : ∀ write ∈ writes, Due old write)
    (onward : Outline discipline (backend poolSize) id
      (Taken id client (writes = []) (facts ++ commits id old writes)) (next true)) :
    Outline discipline (backend poolSize) id (Opened id client tenant writes old facts)
      (.command (.commit client) next) := by
  refine .command (cond · (Taken id client (writes = []) (facts ++ commits id old writes)) fun _ _ => False)
    stable_opened ?_ ?_
  · rintro database log choice after reply out consistent ⟨connection, transaction, held, active, -, rfl, rows, told⟩ ran
      allowed
    change execute id database choice (.commit client) = some (after, reply, out) at ran
    obtain ⟨other, held', rfl, answer, rfl⟩ := execute_commit ran
    cases held.symm.trans held'
    have answered : (database.server.commit connection choice.outcome).2 = true := by
      by_contra unanswered
      exact (allowed .failed (by simp [answer, unanswered])).1 rfl
    obtain rfl : reply = true := answer.trans answered
    have outcome := (commit_answered answered).1
    obtain ⟨consistent', respectful⟩ := Consistent.commit consistent held active answered single
      fun write member => ⟨rows write member, due write member⟩
    have out : ((if choice.outcome = Outcome.answered ∨ choice.outcome = Outcome.lost then
        published database.server.committed (database.server.session connection).writes else []) ++
        if true = true then [] else [Effect.failed]).map (.did id) = commits id old transaction.writes := by
      rw [active, if_pos (.inl outcome), if_pos rfl, List.append_nil]
      exact published_commits single rows
    rw [out]
    refine ⟨consistent', respectful, connection, held, commit_idle answered, fun none' => ?_, ?_⟩
    · rw [none']
      simpa [commits] using told.idle trivial
    · exact List.append_subset.mpr ⟨fun _ member => List.mem_append_left _ (told.seen member),
        fun _ member => List.mem_append_right _ member⟩
  · rintro (_ | _)
    · exact .unreached (fun _ _ => not_false) _
    · exact onward

theorem outline_tenantScoped {body : SQL} {rest : Option (List ApprovalRecord) → StoreProgram (Except StoreError Answer)}
    {outcome : List ApprovalRecord → List (String × ApprovalRecord) → Option ApprovalRecord → Prop}
    (comes : Comes tenant body outcome)
    (onward : ∀ rows writes old, outcome rows writes old → Outline discipline (backend poolSize) id
      (Asked id (writes = []) (facts ++ reads id tenant rows body ++ commits id old writes)) (rest (some rows))) :
    Outline discipline (backend poolSize) id (Asked id True facts) ((tenantScoped client tenant body).bind rest) := by
  refine outline_enter (outline_setConfig fun _ => outline_body comes fun rows writes old come single due => ?_)
  exact outline_commit single due (outline_leave (onward rows writes old come))

theorem outline_done {call : StoreCall} {answer : Except StoreError Answer} {read made : List StoreObservation}
    (explains : ∀ log : List StoreObservation, Told id idle ([.invoked id call] ++ read ++ made) log →
      Explains canonical log id call.operation answer) :
    Outline discipline (backend poolSize) id (Asked id idle ([.invoked id call] ++ read ++ made)) (.done answer) := by
  refine .done stable_asked fun _ log consistent told => ?_
  exact Consistent.snoc consistent (fun _ => rfl) trivial ⟨call, told.seen (by simp), explains log told⟩

theorem outline_gauge {change : Int}
    (onward : Outline discipline (backend poolSize) id (Asked id idle facts) rest) :
    Outline discipline (backend poolSize) id (Asked id idle facts)
      (.command (.adjustGauge client tenant change) fun _ => rest) := by
  refine .command (fun _ => Asked id idle facts) stable_asked ?_ fun _ => onward
  rintro database log choice after ⟨⟩ out ⟨⟨distinct, queued⟩, coherent, recorded⟩ told ran -
  cases ran
  rw [List.map_nil, List.append_nil]
  exact ⟨⟨⟨distinct, queued⟩, coherent, recorded⟩, .of_committed (fun _ _ _ _ held => ⟨held, rfl⟩) rfl, told⟩

/-! ## The statements -/

theorem comes_insert {pending : ApprovalRecord} {uuid : Uuid} (named : pending.approvalId = uuid.text)
    (new : pending.status = .pending) :
    Comes tenant (.insert pending) fun rows _ _ => rows = [pending] := by
  intro database log connection opened closed rows statement consistent stated setting fresh performed
  have read : canonical pending.approvalId = some pending.approvalId := by rw [named, canonical_text]
  simp only [SQL.statement, read, Option.map_some, Option.some.injEq] at stated
  subst stated
  obtain ⟨rfl, rfl, absent⟩ := insert_ran performed
  rw [fresh, Table.overlay_nil] at absent
  refine ⟨setting, by simp [fresh], by simp, none, rfl, fun write member => ?_⟩
  rw [fresh, List.nil_append, List.mem_singleton] at member
  subst member
  exact ⟨absent, rfl, new⟩

theorem comes_update {approvalId reviewer reason : String} {decision : Decision} :
    Comes tenant (.update decision reviewer reason approvalId) fun rows writes old =>
      (rows = [] ∧ writes = []) ∨ ∃ key record now, canonical approvalId = some key ∧ record.approvalId = key ∧
        record.tenant = tenant ∧ record.status = .pending ∧ old = some record ∧
        rows = [record.decide decision reviewer reason now] ∧
        writes = [(key, record.decide decision reviewer reason now)] := by
  intro database log connection opened closed rows statement consistent stated setting fresh performed
  obtain ⟨key, named, rfl⟩ := Option.map_eq_some_iff.mp stated
  rcases update_ran performed with ⟨rfl, rfl⟩ | ⟨old, updated, found, seen, changed, rfl, rfl⟩
  · refine ⟨setting, by simp [fresh], by simp, none, .inl ⟨rfl, fresh⟩, ?_⟩
    simp [fresh]
  · obtain ⟨pending, same⟩ := Option.ite_none_right_eq_some.mp changed
    cases same
    rw [fresh, Table.overlay_nil] at found
    have own : old.tenant = tenant := (Option.some.inj (setting.symm.trans seen)).symm
    have identified := consistent.keyed found
    refine ⟨setting, by simp [fresh], by simp, some old,
      .inr ⟨key, old, opened.started, named, identified, own, pending, rfl, rfl, by simp [fresh]⟩, ?_⟩
    intro write member
    rw [fresh, List.nil_append, List.mem_singleton] at member
    subst member
    exact ⟨found, identified, pending, decision, reviewer, reason, opened.started, rfl⟩

theorem comes_selectOne {approvalId : String} :
    Comes tenant (.selectOne approvalId) fun rows writes _ =>
      writes = [] ∧ rows.head? = rows.head?.filter (·.tenant = tenant) := by
  intro database log connection opened closed rows statement consistent stated setting fresh performed
  obtain ⟨key, named, rfl⟩ := Option.map_eq_some_iff.mp stated
  cases performed
  have sight : opened.sees ApprovalRecord.tenant = inScope (some tenant) := by
    funext row
    simp [Transaction.sees, inScope, setting, eq_comm]
  refine ⟨setting, by simp [fresh], ?_, none, ⟨fresh, ?_⟩, by simp [fresh]⟩
  · rintro _ ⟨⟩
    rw [named, fresh, Table.overlay_nil, sight, Option.bind_some, Option.head?_toList]
  · rw [sight, inScope_some]
    simp only [SQL.arrange, Option.head?_toList, Option.filter_filter, Bool.and_self]

theorem comes_selectPending : Comes tenant .selectPending fun _ writes _ => writes = [] := by
  intro database log connection opened closed rows statement consistent stated setting fresh performed
  cases stated
  cases performed
  exact ⟨setting, by simp [fresh], by simp, none, fresh, by simp [fresh]⟩

end

theorem governs (externals : Externals) (poolSize : Nat → Nat) :
    Governs discipline (backend poolSize) (program externals) where
  initial := by
    refine ⟨⟨fun client => List.nodup_range, fun client number _ => rfl⟩, ⟨?_, ?_⟩, .initial canonical⟩
    · exact fun _ _ _ _ member => absurd member List.not_mem_nil
    · exact fun _ _ member => absurd member List.not_mem_nil
  invoke database log id call consistent fresh := by
    refine ⟨Consistent.snoc consistent (fun _ => rfl) trivial trivial, Asked id True [.invoked id call], ?_, ?_⟩
    · exact ⟨fun _ old new wrote => fresh _ (by simpa using wrote) rfl, by simp⟩
    · obtain ⟨client, operation⟩ := call
      cases operation with
      | createPending requestId requester query tenant uuid4 now =>
        refine outline_tenantScoped (comes_insert rfl rfl) fun rows writes old _ => outline_gauge ?_
        exact outline_done fun log _ => ⟨rfl, rfl⟩
      | decide approvalId decision reviewer reason tenant now =>
        refine outline_tenantScoped comes_update fun rows writes old come => ?_
        rcases come with ⟨rfl, rfl⟩ | ⟨key, record, decidedAt, named, rfl, owned, pending, rfl, rfl, rfl⟩
        · exact outline_done fun log told => ⟨rfl, told.idle rfl⟩
        · refine outline_gauge (outline_done fun log told => ?_)
          exact ⟨decidedAt, record, named, owned, pending, rfl, told.seen (by simp [commits])⟩
      | get approvalId tenant =>
        refine outline_tenantScoped comes_selectOne fun rows writes old come => ?_
        refine outline_done fun log told => ⟨some tenant, rows.head?, ?_, told.seen (by simp [reads]), come.2⟩
        exact fun owner same => (Option.some.inj same).symm
      | listPending tenant =>
        exact outline_tenantScoped comes_selectPending fun rows writes old _ => outline_done fun _ _ => trivial

/-- Every run in which the server neither fails nor refuses a command. -/
theorem run_decisionsHold {externals : Externals} {poolSize : Nat → Nat} {events : List (Event StoreCall Choice)}
    {final : Interleaving.State Database Command Reply (Except StoreError Answer)} {log : List StoreObservation}
    (ran : (store externals poolSize).run events = some (final, log))
    (succeeds : ∀ id, .did id .failed ∉ log ∧ .did id .rejected ∉ log) :
    DecisionsHold canonical final.backend.server.committed.get log := by
  have consistent : Consistent final.backend log :=
    run_invariant (governs externals poolSize) ran fun id effect seen =>
      ⟨fun same => (succeeds id).1 (same ▸ seen), fun same => (succeeds id).2 (same ▸ seen)⟩
  exact consistent.recorded.decisionsHold (run_orderly ran)

end AgentPlatform.State.Postgres.Decisions
