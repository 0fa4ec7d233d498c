import AgentPlatform.State.Instants
import AgentPlatform.State.Postgres

/-! # Sessions of the PostgreSQL store

What the connections and their transactions can be at each point of a call, with every failure taken into
account. -/

namespace AgentPlatform.State.Postgres

open Interleaving Python RowSecurity

/-! ## Connections in use -/

theorem held_eq_some {database : Database} {id client : Nat} {connection : Nat × Nat} :
    database.held id client = some connection ↔
      connection.1 = client ∧ (database.pools client).inUse = some (id, connection.2) := by
  obtain ⟨owner, number⟩ := connection
  rw [Database.held]
  split
  · rename_i other k used
    rw [used]
    by_cases same : other = id
    · simp [same, eq_comm]
    · simp [same]
  · rename_i free
    simp [free]

theorem held_unique {database : Database} {first second client client' : Nat} {connection : Nat × Nat}
    (held : database.held first client = some connection)
    (other : database.held second client' = some connection) : first = second := by
  obtain ⟨rfl, used⟩ := held_eq_some.mp held
  obtain ⟨rfl, used'⟩ := held_eq_some.mp other
  rw [used] at used'
  cases used'
  rfl

theorem held_setPool {database : Database} {id client other : Nat} {pool : Pool} (apart : other ≠ client) :
    (database.setPool client pool).held id other = database.held id other := by
  simp only [Database.held, Database.setPool, Function.update_of_ne apart]

/-- What a call does to the connections that others hold. -/
def Undisturbed (id : Nat) (before after : Database) : Prop :=
  ∀ holder client connection, holder ≠ id → before.held holder client = some connection →
    after.held holder client = some connection ∧
      after.server.session connection = before.server.session connection

theorem Undisturbed.refl (id : Nat) (database : Database) : Undisturbed id database database :=
  fun _ _ _ _ held => ⟨held, rfl⟩

theorem Undisturbed.server {id client : Nat} {database : Database} {connection : Nat × Nat}
    {server : ApprovalServer} (held : database.held id client = some connection)
    (others : ∀ other, other ≠ connection → server.session other = database.server.session other) :
    Undisturbed id database { database with server := server } := by
  intro holder client' other apart held'
  refine ⟨held', others other ?_⟩
  rintro rfl
  exact apart (held_unique held' held)

/-- No connection of a queue is in a transaction. -/
structure Clean (database : Database) : Prop where
  distinct : ∀ client, (((database.pools client).inUse.map Prod.snd).toList ++
    (database.pools client).queue).Nodup
  idle : ∀ client, ∀ number ∈ (database.pools client).queue,
    database.server.session (client, number) = .idle

theorem Clean.server {id client : Nat} {database : Database} {connection : Nat × Nat} {server : ApprovalServer}
    (clean : Clean database) (held : database.held id client = some connection)
    (others : ∀ other, other ≠ connection → server.session other = database.server.session other) :
    Clean { database with server := server } := by
  refine ⟨clean.distinct, fun other number queued => ?_⟩
  refine (others _ ?_).trans (clean.idle other number queued)
  rintro rfl
  obtain ⟨rfl, used⟩ := held_eq_some.mp held
  have distinct := clean.distinct other
  rw [used] at distinct
  exact (List.nodup_cons.mp distinct).1 queued

theorem Clean.leave {id client : Nat} {database : Database} {connection : Nat × Nat} (clean : Clean database)
    (held : database.held id client = some connection) (idle : database.server.session connection = .idle) :
    Clean (database.setPool client ⟨none, (database.pools client).queue ++ [connection.2]⟩) := by
  obtain ⟨rfl, used⟩ := held_eq_some.mp held
  obtain ⟨distinct, queued⟩ := clean
  have apart := distinct connection.1
  rw [used] at apart
  refine ⟨fun other => ?_, fun other number member => ?_⟩
  · by_cases same : other = connection.1
    · subst same
      simpa [Database.setPool] using List.nodup_append_comm.mp apart
    · simpa [Database.setPool, Function.update_of_ne same] using distinct other
  · by_cases same : other = connection.1
    · subst same
      simp only [Database.setPool, Function.update_self, List.mem_append, List.mem_singleton] at member
      rcases member with member | rfl
      · exact queued connection.1 number member
      · exact idle
    · simp only [Database.setPool, Function.update_of_ne same] at member
      exact queued other number member

theorem Clean.enter {id client : Nat} {database : Database} {number : Nat} {queue : List Nat}
    (clean : Clean database) (free : database.pools client = ⟨none, number :: queue⟩) :
    Clean (database.setPool client ⟨some (id, number), queue⟩) := by
  obtain ⟨distinct, queued⟩ := clean
  have apart := distinct client
  rw [free] at apart
  refine ⟨fun other => ?_, fun other listed member => ?_⟩
  · by_cases same : other = client
    · subst same
      simpa [Database.setPool] using apart
    · simpa [Database.setPool, Function.update_of_ne same] using distinct other
  · by_cases same : other = client
    · subst same
      simp only [Database.setPool, Function.update_self] at member
      exact queued other listed (by rw [free]; exact List.mem_cons_of_mem _ member)
    · simp only [Database.setPool, Function.update_of_ne same] at member
      exact queued other listed member

theorem undisturbed_leave {id client : Nat} {database : Database} {connection : Nat × Nat} {pool : Pool}
    (held : database.held id client = some connection) :
    Undisturbed id database (database.setPool client pool) := by
  intro holder other taken apart held'
  refine ⟨?_, rfl⟩
  rw [held_setPool]
  · exact held'
  · rintro rfl
    obtain ⟨-, used⟩ := held_eq_some.mp held
    obtain ⟨-, used'⟩ := held_eq_some.mp held'
    rw [used] at used'
    exact apart (Prod.mk.inj (Option.some.inj used')).1.symm

theorem undisturbed_enter {id client : Nat} {database : Database} {number : Nat} {queue : List Nat} {pool : Pool}
    (free : database.pools client = ⟨none, number :: queue⟩) :
    Undisturbed id database (database.setPool client pool) := by
  intro holder other taken apart held
  refine ⟨?_, rfl⟩
  rw [held_setPool]
  · exact held
  · rintro rfl
    obtain ⟨-, used⟩ := held_eq_some.mp held
    rw [free] at used
    cases used

/-! ## Steps -/

theorem execute_enter {id client : Nat} {database after : Database} {choice : Choice} {out : List Effect}
    (ran : execute id database choice (.enter client) = some (after, (), out)) :
    ∃ number queue, database.pools client = ⟨none, number :: queue⟩ ∧
      after = database.setPool client ⟨some (id, number), queue⟩ ∧ out = [] := by
  simp only [execute] at ran
  split at ran
  · rename_i number queue free
    cases ran
    exact ⟨number, queue, free, rfl, rfl⟩
  · cases ran
  · cases ran

theorem execute_commit {id client : Nat} {database after : Database} {choice : Choice} {answered : Bool}
    {out : List Effect} (ran : execute id database choice (.commit client) = some (after, answered, out)) :
    ∃ connection, database.held id client = some connection ∧
      after = { database with server := (database.server.commit connection choice.outcome).1 } ∧
      answered = (database.server.commit connection choice.outcome).2 ∧
      out = (if choice.outcome = .answered ∨ choice.outcome = .lost then
          published database.server.committed (database.server.session connection).writes else []) ++
        if answered then [] else [.failed] := by
  obtain ⟨connection, held, same⟩ := Option.map_eq_some_iff.mp ran
  have answer := congrArg (·.2.1) same
  exact ⟨connection, held, (congrArg Prod.fst same).symm, answer.symm, by
    rw [show answered = _ from answer.symm]; exact (congrArg (·.2.2) same).symm⟩

theorem execute_rollback {id client : Nat} {database after : Database} {choice : Choice} {answered : Bool}
    {out : List Effect} (ran : execute id database choice (.rollback client) = some (after, answered, out)) :
    ∃ connection, database.held id client = some connection ∧
      after = { database with server := (database.server.rollback connection choice.outcome).1 } ∧
      answered = (database.server.rollback connection choice.outcome).2 ∧
      out = (if answered then [] else [.failed]) ++
        if choice.outcome = .answered ∨ choice.outcome = .lost then [] else [.uncovered] := by
  obtain ⟨connection, held, same⟩ := Option.map_eq_some_iff.mp ran
  have answer := congrArg (·.2.1) same
  exact ⟨connection, held, (congrArg Prod.fst same).symm, answer.symm, by
    rw [show answered = _ from answer.symm]; exact (congrArg (·.2.2) same).symm⟩

theorem execute_leave {id client : Nat} {database after : Database} {choice : Choice} {reply : Unit}
    {out : List Effect} (ran : execute id database choice (.leave client) = some (after, reply, out)) :
    ∃ connection, database.held id client = some connection ∧
      after = database.setPool client ⟨none, (database.pools client).queue ++ [connection.2]⟩ ∧ out = [] := by
  obtain ⟨connection, held, same⟩ := Option.map_eq_some_iff.mp ran
  cases same
  exact ⟨connection, held, rfl, rfl⟩

section

variable {id client : Nat} {database : Database} {choice : Choice} {connection : Nat × Nat}

theorem execute_enter_free {number : Nat} {queue : List Nat} (free : database.pools client = ⟨none, number :: queue⟩) :
    execute id database choice (.enter client) =
      some (database.setPool client ⟨some (id, number), queue⟩, (), []) := by
  simp only [execute, free]
  rfl

theorem execute_sql_held (held : database.held id client = some connection) (sql : SQL) :
    execute id database choice (.execute client sql) = executeSQL database connection choice sql := by
  change (database.held id client).bind _ = _
  rw [held]
  rfl

theorem executeSQL_ran {sql : SQL} {statement : Statement String ApprovalRecord String Datetime}
    {opened closed : ApprovalTransaction} {rows : List ApprovalRecord}
    (stated : (if sql.storable then sql.statement else none) = some statement)
    (began : (database.server.session connection).begin choice.now = some opened)
    (performed : database.server.perform ApprovalRecord.tenant connection opened statement = .ran closed rows)
    (answered : choice.outcome = .answered) :
    executeSQL database connection choice sql =
      some ({ database with server := database.server.put connection (.active closed) },
        some (sql.arrange rows), sql.effects closed.setting rows) := by
  simp [executeSQL, stated, Server.execute, answered, began, performed]

theorem execute_commit_answered (held : database.held id client = some connection)
    (answered : (database.server.commit connection choice.outcome).2 = true) :
    execute id database choice (.commit client) =
      some ({ database with server := (database.server.commit connection choice.outcome).1 }, true,
        if choice.outcome = .answered ∨ choice.outcome = .lost then
          published database.server.committed (database.server.session connection).writes else []) := by
  change (database.held id client).map _ = _
  rw [held]
  change some (executeCommit database connection choice) = _
  simp only [executeCommit, answered, if_true, List.append_nil]

theorem execute_rollback_held (held : database.held id client = some connection) :
    execute id database choice (.rollback client) = some (executeRollback database connection choice) := by
  change (database.held id client).map _ = _
  rw [held]
  rfl

theorem execute_leave_held (held : database.held id client = some connection) :
    execute id database choice (.leave client) =
      some (database.setPool client ⟨none, (database.pools client).queue ++ [connection.2]⟩, (), []) := by
  change (database.held id client).map _ = _
  rw [held]
  rfl

end

theorem eq_uncovered_of_exposed {sql : SQL} {outcome : Outcome} {effect : Effect}
    (member : effect ∈ sql.exposed outcome) : effect = .uncovered := by
  cases sql with
  | setConfig tenant =>
    simp only [SQL.exposed] at member
    split at member
    · cases member
    · exact List.mem_singleton.mp member
  | insert | update | selectOne | selectPending => cases member

theorem isAborted_iff {session : Session String ApprovalRecord String Datetime} :
    isAborted session = true ↔ session = .aborted := by
  cases session <;> simp [isAborted]

theorem of_mem_blockedBy {database : Database} {connection : Nat × Nat} {choice : Choice} {effect : Effect}
    (member : effect ∈ blockedBy database connection choice) :
    effect = .blocked ∧ database.server.session connection = .aborted := by
  simp only [blockedBy] at member
  split at member
  · rename_i aborted
    exact ⟨List.mem_singleton.mp member, isAborted_iff.mp aborted.1⟩
  · cases member

theorem refuse_session {server : ApprovalServer} {connection other : Nat × Nat} (apart : other ≠ connection) :
    (server.refuse connection).session other = server.session other := by
  unfold Server.refuse
  split
  · rfl
  · rw [session_put, if_neg apart]
  · rw [session_put, if_neg apart]

theorem refuse_own (server : ApprovalServer) (connection : Nat × Nat) :
    (server.refuse connection).session connection = .aborted := by
  unfold Server.refuse
  split
  · assumption
  · rw [session_put, if_pos rfl]
  · rw [session_put, if_pos rfl]

theorem refuse_committed (server : ApprovalServer) (connection : Nat × Nat) :
    (server.refuse connection).committed = server.committed := by
  unfold Server.refuse
  split <;> rfl

/-- A statement raises without effect, or takes effect in the transaction of its connection. -/
theorem executeSQL_cases {database after : Database} {connection : Nat × Nat} {choice : Choice} {sql : SQL}
    {reply : Option (List ApprovalRecord)} {out : List Effect}
    (ran : executeSQL database connection choice sql = some (after, reply, out)) :
    (reply = none ∧ (choice.outcome = .unsent → after = database) ∧
      (∃ server, after = { database with server := server } ∧ server.committed = database.server.committed ∧
        (∀ other, other ≠ connection → server.session other = database.server.session other) ∧
        (server.session connection = database.server.session connection ∨ server.session connection = .aborted)) ∧
      (∀ effect ∈ out, effect = .failed ∨ effect = .rejected ∨ effect = .uncovered ∨
        effect = .blocked ∧ database.server.session connection = .aborted) ∧
      (.failed ∈ out ∨ .rejected ∈ out) ∧
      (choice.outcome ≠ .unsent → ∀ effect ∈ sql.exposed choice.outcome, effect ∈ out)) ∨
    ∃ statement opened closed rows, sql.storable = true ∧ sql.statement = some statement ∧
      (database.server.session connection).begin choice.now = some opened ∧
      database.server.perform ApprovalRecord.tenant connection opened statement = .ran closed rows ∧
      after = { database with server := database.server.put connection (.active closed) } ∧
      (choice.outcome = .answered ∧ reply = some (sql.arrange rows) ∧ out = sql.effects closed.setting rows ∨
        choice.outcome = .lost ∧ reply = none ∧
          out = sql.effects closed.setting rows ++ .failed :: sql.exposed .lost) := by
  have raises (effect : Effect) (head : effect = .failed ∨ effect = .rejected)
      (server : ApprovalServer) (committed : server.committed = database.server.committed)
      (others : ∀ other, other ≠ connection → server.session other = database.server.session other)
      (own : server.session connection = database.server.session connection ∨ server.session connection = .aborted)
      (kept : choice.outcome = .unsent → server = database.server)
      (same : some ({ database with server := server }, (none : Option (List ApprovalRecord)),
        effect :: sql.exposed choice.outcome ++ blockedBy database connection choice) = some (after, reply, out)) :
      reply = none ∧ (choice.outcome = .unsent → after = database) ∧
      (∃ server, after = { database with server := server } ∧ server.committed = database.server.committed ∧
        (∀ other, other ≠ connection → server.session other = database.server.session other) ∧
        (server.session connection = database.server.session connection ∨ server.session connection = .aborted)) ∧
      (∀ effect ∈ out, effect = .failed ∨ effect = .rejected ∨ effect = .uncovered ∨
        effect = .blocked ∧ database.server.session connection = .aborted) ∧
      (.failed ∈ out ∨ .rejected ∈ out) ∧
      (choice.outcome ≠ .unsent → ∀ effect ∈ sql.exposed choice.outcome, effect ∈ out) := by
    cases same
    refine ⟨rfl, fun unsent => by rw [kept unsent], ⟨server, rfl, committed, others, own⟩, ?_, ?_, ?_⟩
    · intro other member
      rcases List.mem_append.mp member with member | member
      · rcases List.mem_cons.mp member with rfl | member
        · exact head.imp_right .inl
        · exact .inr (.inr (.inl (eq_uncovered_of_exposed member)))
      · exact .inr (.inr (.inr (of_mem_blockedBy member)))
    · rcases head with rfl | rfl
      · exact .inl (by simp)
      · exact .inr (by simp)
    · intro _ other member
      exact List.mem_append_left _ (List.mem_cons_of_mem _ member)
  simp only [executeSQL] at ran
  split at ran
  · split at ran
    · rename_i unsent
      cases ran
      refine .inl ⟨rfl, fun _ => rfl, ⟨_, rfl, rfl, fun _ _ => rfl, .inl rfl⟩, by simp, by simp, fun sent => ?_⟩
      exact absurd unsent sent
    · rename_i sent
      exact .inl (raises .rejected (.inr rfl) _ (refuse_committed _ _) (fun _ apart => refuse_session apart)
        (.inr (refuse_own _ _)) (fun unsent => absurd unsent sent) ran)
  · rename_i statement read
    obtain ⟨storable, stated⟩ := Option.ite_none_right_eq_some.mp read
    obtain ⟨executed, ran, same⟩ := Option.map_eq_some_iff.mp ran
    rcases execute_cases ran with ⟨noReply, untouched, moved⟩ |
      ⟨opened, closed, rows, began, performed, server, touched, answer⟩
    · left
      simp only [noReply, untouched, Option.map_none, Option.elim_none, Option.isNone_none, if_true,
        List.nil_append] at same
      refine raises .failed (.inl rfl) executed.server ?_ ?_ ?_ ?_ (congrArg some same)
      · rcases moved with ⟨-, server⟩ | ⟨-, server⟩
        · rw [server]
        · rw [server, put_committed]
      · intro other apart
        rcases moved with ⟨-, server⟩ | ⟨-, server⟩
        · rw [server]
        · rw [server, session_put, if_neg apart]
      · rcases moved with ⟨-, server⟩ | ⟨-, server⟩
        · exact .inl (by rw [server])
        · exact .inr (by rw [server, session_put, if_pos rfl])
      · intro unsent
        rcases moved with ⟨-, server⟩ | ⟨sent, -⟩
        · exact server
        · exact absurd unsent sent
    · right
      have unblocked : blockedBy database connection choice = [] := by
        have open' : isAborted (database.server.session connection) = false := by
          cases session : database.server.session connection with
          | idle | active => rfl
          | aborted => rw [session] at began; cases began
        simp [blockedBy, open']
      refine ⟨statement, opened, closed, rows, storable, stated, began, performed, ?_⟩
      rcases answer with ⟨answered, reply⟩ | ⟨lost, reply⟩
      · simp only [server, touched, reply, Option.map_some, Option.elim_some, Option.isNone_some] at same
        cases same
        exact ⟨rfl, .inl ⟨answered, rfl, by simp⟩⟩
      · simp only [server, touched, reply, Option.map_none, Option.elim_some, Option.isNone_none, if_true,
          unblocked, lost] at same
        cases same
        exact ⟨rfl, .inr ⟨lost, rfl, by simp⟩⟩

theorem executeSQL_coherent {database after : Database} {connection : Nat × Nat} {choice : Choice} {sql : SQL}
    {reply : Option (List ApprovalRecord)} {out : List Effect}
    (coherent : database.server.Coherent ApprovalRecord.tenant)
    (ran : executeSQL database connection choice sql = some (after, reply, out)) :
    after.server.Coherent ApprovalRecord.tenant := by
  simp only [executeSQL] at ran
  split at ran
  · split at ran
    · cases ran
      exact coherent
    · cases ran
      exact coherent.refuse
  · obtain ⟨executed, answered, same⟩ := Option.map_eq_some_iff.mp ran
    cases same
    exact coherent.execute answered

/-! ## What the observations show -/

/-- A statement took effect under the tenant of its call, and no other row was read, written or answered. -/
def Scoped (before : List StoreObservation) : StoreObservation → Prop
  | .did id (.touched setting rows) =>
    ∃ call, .invoked id call ∈ before ∧ setting = some call.operation.tenant ∧
      ∀ row ∈ rows, row.tenant = call.operation.tenant
  | .responded id (.ok answer) =>
    ∃ call, .invoked id call ∈ before ∧ ∀ record ∈ answer.records, record.tenant = call.operation.tenant
  | _ => True

/-- A commit publishes what its own call wrote, and no statement meets an aborted transaction. -/
def OwnWork (before : List StoreObservation) : StoreObservation → Prop
  | .did id (.wrote _ new) => ∃ setting rows, .did id (.touched setting rows) ∈ before ∧ new ∈ rows
  | .did _ .blocked => False
  | _ => True

/-- `covered` stands for runs in which every exception is handled where the connection can be rolled
    back. -/
structure Sessions (covered : Prop) (database : Database) (log : List StoreObservation) : Prop where
  owned : Throughout Scoped log
  clean : covered → Clean database
  own : covered → Throughout OwnWork log

def discipline (covered : Prop) : Discipline Database StoreCall Effect (Except StoreError Answer) where
  Invariant := Sessions covered
  Guarantee := Undisturbed
  Allowed effect := covered → effect ≠ .uncovered
  quiet := Undisturbed.refl

/-- The call holds a connection in such a session, and the observations have been made. -/
def At (id client : Nat) (session : Session String ApprovalRecord String Datetime → Prop)
    (facts : List StoreObservation) (database : Database) (log : List StoreObservation) : Prop :=
  ∃ connection, database.held id client = some connection ∧ session (database.server.session connection) ∧
    facts ⊆ log

section

variable {covered : Prop} {poolSize : Nat → Nat} {id client : Nat} {database : Database}
  {log out : List StoreObservation} {facts : List StoreObservation}

theorem stable_at (session : Session String ApprovalRecord String Datetime → Prop) :
    Stable (discipline covered) id (At id client session facts) := by
  rintro other before log after out apart - guarantee - ⟨connection, held, now, seen⟩
  obtain ⟨held', same⟩ := guarantee id client connection apart.symm held
  exact ⟨connection, held', same ▸ now, fun _ member => List.mem_append_left _ (seen member)⟩

theorem Sessions.snoc {observation : StoreObservation} (sessions : Sessions covered database log)
    (owned : Scoped log observation) (own : OwnWork log observation) :
    Sessions covered database (log ++ [observation]) :=
  ⟨sessions.owned.snoc owned, sessions.clean, fun holds => (sessions.own holds).snoc own⟩

theorem Sessions.server {connection : Nat × Nat} {server : ApprovalServer}
    (sessions : Sessions covered database log) (held : database.held id client = some connection)
    (others : ∀ other, other ≠ connection → server.session other = database.server.session other)
    (owned : ∀ observation ∈ out, ∀ more, Scoped (log ++ more) observation)
    (own : covered → Throughout OwnWork (log ++ out)) :
    Sessions covered { database with server := server } (log ++ out) :=
  ⟨sessions.owned.append_of_forall owned, fun holds => (sessions.clean holds).server held others, own⟩

theorem Sessions.leave {connection : Nat × Nat} (sessions : Sessions covered database log)
    (held : database.held id client = some connection)
    (idle : covered → database.server.session connection = .idle) :
    Sessions covered
      (database.setPool client ⟨none, (database.pools client).queue ++ [connection.2]⟩) log :=
  ⟨sessions.owned, fun holds => (sessions.clean holds).leave held (idle holds), sessions.own⟩

theorem Sessions.enter (id : Nat) {number : Nat} {queue : List Nat} (sessions : Sessions covered database log)
    (free : database.pools client = ⟨none, number :: queue⟩) :
    Sessions covered (database.setPool client ⟨some (id, number), queue⟩) log ∧
      (covered → database.server.session (client, number) = .idle) :=
  ⟨⟨sessions.owned, fun holds => (sessions.clean holds).enter free, sessions.own⟩,
    fun holds => (sessions.clean holds).idle client number (by rw [free]; exact List.mem_cons_self)⟩

/-! ## The outline of a call -/

theorem rollback_session {server : ApprovalServer} {connection other : Nat × Nat} {outcome : Outcome}
    (apart : other ≠ connection) : (server.rollback connection outcome).1.session other = server.session other := by
  unfold Server.rollback
  split
  · rw [session_put, if_neg apart]
  · rw [session_put, if_neg apart]
  · rfl
  · rfl

/-- Effects that only report an exception. -/
def Reports (effect : Effect) : Prop := effect = .failed ∨ effect = .rejected ∨ effect = .uncovered

theorem Reports.owned {effect : Effect} (reports : Reports effect) (before : List StoreObservation) :
    Scoped before (.did id effect) := by
  rcases reports with rfl | rfl | rfl <;> trivial

theorem Reports.own {effect : Effect} (reports : Reports effect) (before : List StoreObservation) :
    OwnWork before (.did id effect) := by
  rcases reports with rfl | rfl | rfl <;> trivial

theorem Sessions.report {connection : Nat × Nat} {server : ApprovalServer} {effects : List Effect}
    (sessions : Sessions covered database log) (held : database.held id client = some connection)
    (others : ∀ other, other ≠ connection → server.session other = database.server.session other)
    (reports : ∀ effect ∈ effects, Reports effect) :
    Sessions covered { database with server := server } (log ++ effects.map (.did id)) := by
  refine sessions.server held others ?_ fun holds => (sessions.own holds).append_of_forall ?_
  · rintro _ member more
    obtain ⟨effect, listed, rfl⟩ := List.mem_map.mp member
    exact (reports effect listed).owned _
  · rintro _ member more
    obtain ⟨effect, listed, rfl⟩ := List.mem_map.mp member
    exact (reports effect listed).own _

variable {rest : StoreProgram (Except StoreError Answer)}

theorem outline_leave (onward : Outline (discipline covered) (backend poolSize) id (Seen facts) rest) :
    Outline (discipline covered) (backend poolSize) id
      (At id client (fun session => covered → session = .idle) facts)
      (.command (.leave client) fun _ => rest) := by
  refine .command (fun _ => Seen facts) (stable_at _) ?_ fun _ => onward
  rintro state log choice after reply out sessions ⟨connection, held, idle, seen⟩ ran -
  simp only [backend, execute, held, Option.map_some] at ran
  cases ran
  rw [List.map_nil, List.append_nil]
  exact ⟨Sessions.leave sessions held idle, undisturbed_leave held, seen⟩

theorem outline_abandon (onward : Outline (discipline covered) (backend poolSize) id (Seen facts) rest) :
    Outline (discipline covered) (backend poolSize) id (At id client (fun _ => True) facts)
      (.command (.rollback client) fun _ => .command (.leave client) fun _ => rest) := by
  refine .command (fun _ => At id client (fun session => covered → session = .idle) facts) (stable_at _) ?_
    fun _ => outline_leave onward
  rintro state log choice after reply out sessions ⟨connection, held, -, seen⟩ ran allowed
  simp only [backend, execute, held, executeRollback] at ran
  cases ran
  have others (other : Nat × Nat) (apart : other ≠ connection) :
      (state.server.rollback connection choice.outcome).1.session other = state.server.session other :=
    rollback_session apart
  refine ⟨Sessions.report sessions held others ?_, Undisturbed.server held others, connection, held, ?_, ?_⟩
  · intro effect member
    rcases List.mem_append.mp member with member | member
    · split at member
      · cases member
      · exact .inl (List.mem_singleton.mp member)
    · split at member
      · cases member
      · exact .inr (.inr (List.mem_singleton.mp member))
  · intro holds
    cases outcome : choice.outcome with
    | answered | lost => simp [Server.rollback]
    | unsent | failed =>
      refine absurd rfl (allowed .uncovered ?_ holds)
      simp [outcome]
  · exact fun _ member => List.mem_append_left _ (seen member)

theorem of_mem_published {committed : Table String ApprovalRecord} {writes : List (String × ApprovalRecord)}
    {effect : Effect} (member : effect ∈ published committed writes) :
    ∃ old, ∃ write ∈ writes, effect = .wrote old write.2 := by
  induction writes generalizing committed with
  | nil => cases member
  | cons write writes ih =>
    rcases List.mem_cons.mp member with rfl | member
    · exact ⟨_, write, by simp, rfl⟩
    · obtain ⟨old, other, listed, same⟩ := ih member
      exact ⟨old, other, List.mem_cons_of_mem _ listed, same⟩

theorem commit_session {server : ApprovalServer} {connection other : Nat × Nat} {outcome : Outcome}
    (apart : other ≠ connection) : (server.commit connection outcome).1.session other = server.session other := by
  rcases commit_cases server connection outcome with same | same | ⟨transaction, -, same⟩
  · rw [same]
  · rw [same, session_put, if_neg apart]
  · rw [same]
    exact (session_put server connection other .idle).trans (if_neg apart)

theorem commit_idle {server : ApprovalServer} {connection : Nat × Nat} {outcome : Outcome}
    (answered : (server.commit connection outcome).2 = true) :
    (server.commit connection outcome).1.session connection = .idle := by
  obtain ⟨-, ⟨idle, same⟩ | ⟨transaction, -, same⟩⟩ := commit_answered answered
  · rw [same, idle]
  · rw [same]
    exact (session_put server connection connection .idle).trans (if_pos rfl)

/-- The rows that a statement of the call has touched. -/
abbrev Touched (id : Nat) (call : StoreCall) (setting : Option String) (rows : List ApprovalRecord) :
    List StoreObservation :=
  [.invoked id call, .did id (.touched setting rows)]

theorem outline_commit {call : StoreCall} {setting : Option String} {rows : List ApprovalRecord}
    {next : Reply (.commit client) → StoreProgram (Except StoreError Answer)}
    (onward : Outline (discipline covered) (backend poolSize) id
      (At id client (fun session => covered → session = .idle) [.invoked id call]) (next true))
    (failing : Outline (discipline covered) (backend poolSize) id
      (At id client (fun _ => True) [.invoked id call]) (next false)) :
    Outline (discipline covered) (backend poolSize) id
      (At id client (fun session => ∃ transaction, session = .active transaction ∧
        (covered → ∀ write ∈ transaction.writes, write.2 ∈ rows)) (Touched id call setting rows))
      (.command (.commit client) next) := by
  refine .command (cond · (At id client (fun session => covered → session = .idle) [.invoked id call])
      (At id client (fun _ => True) [.invoked id call])) (stable_at _) ?_ ?_
  · rintro state log choice after reply out sessions ⟨connection, held, ⟨transaction, active, own⟩, seen⟩ ran -
    simp only [backend, execute, held, executeCommit] at ran
    cases ran
    have invoked : [Observation.invoked id call] ⊆ log := fun _ member => seen (List.mem_cons.mpr
      ((List.mem_cons.mp member).imp_right fun other => absurd other List.not_mem_nil))
    have touched : .did id (.touched setting rows) ∈ log := seen (by simp)
    refine ⟨Sessions.server sessions held (fun _ => commit_session) ?_ fun holds => ?_,
      Undisturbed.server held fun _ => commit_session, ?_⟩
    · rintro _ member more
      obtain ⟨effect, listed, rfl⟩ := List.mem_map.mp member
      rcases List.mem_append.mp listed with listed | listed
      · split at listed
        · obtain ⟨old, write, -, rfl⟩ := of_mem_published listed
          trivial
        · cases listed
      · split at listed
        · cases listed
        · rw [List.mem_singleton.mp listed]
          trivial
    · refine (Sessions.own sessions holds).append_of_forall ?_
      rintro _ member more
      obtain ⟨effect, listed, rfl⟩ := List.mem_map.mp member
      rcases List.mem_append.mp listed with listed | listed
      · split at listed
        · obtain ⟨old, write, written, rfl⟩ := of_mem_published listed
          rw [active] at written
          exact ⟨setting, rows, List.mem_append_left _ touched, own holds write written⟩
        · cases listed
      · split at listed
        · cases listed
        · rw [List.mem_singleton.mp listed]
          trivial
    · have seen' (out : List StoreObservation) : [Observation.invoked id call] ⊆ log ++ out :=
        fun _ member => List.mem_append_left _ (invoked member)
      cases answered : (state.server.commit connection choice.outcome).2 with
      | true => exact ⟨connection, held, fun _ => commit_idle answered, seen' _⟩
      | false => exact ⟨connection, held, trivial, seen' _⟩
  · rintro (_ | _)
    · exact failing
    · exact onward

theorem mem_arrange {sql : SQL} {rows : List ApprovalRecord} {row : ApprovalRecord} :
    row ∈ sql.arrange rows ↔ row ∈ rows := by
  cases sql with
  | selectPending => exact mem_sortedBy
  | setConfig | insert | update | selectOne => rfl

theorem SQL.of_configure {sql : SQL} {setting : String} (stated : sql.statement = some (.configure setting)) :
    sql = .setConfig setting := by
  cases sql with
  | setConfig tenant =>
    cases stated
    rfl
  | insert | update | selectOne =>
    simp [SQL.statement] at stated
  | selectPending => cases stated

theorem SQL.of_mem_effects {sql : SQL} {setting : Option String} {rows : List ApprovalRecord} {effect : Effect}
    (member : effect ∈ sql.effects setting rows) :
    effect = .touched setting rows ∨ ∃ approvalId, effect = .read approvalId setting rows.head? := by
  cases sql with
  | setConfig => cases member
  | selectOne approvalId =>
    rcases List.mem_cons.mp member with same | member
    · exact .inl same
    · exact .inr ⟨approvalId, List.mem_singleton.mp member⟩
  | insert | update | selectPending => exact .inl (List.mem_singleton.mp member)

theorem SQL.touched_mem {sql : SQL} (data : ∀ tenant, sql ≠ .setConfig tenant) (setting : Option String)
    (rows : List ApprovalRecord) : .touched setting rows ∈ sql.effects setting rows := by
  cases sql with
  | setConfig tenant => exact absurd rfl (data tenant)
  | insert | update | selectOne | selectPending => simp [SQL.effects]

theorem outline_body {call : StoreCall} {body : SQL}
    {next : Reply (.execute client body) → StoreProgram (Except StoreError Answer)}
    (data : ∀ tenant, body ≠ .setConfig tenant)
    (onward : ∀ reply rows, (∀ row ∈ reply, row.tenant = call.operation.tenant) →
      Outline (discipline covered) (backend poolSize) id
        (At id client (fun session => ∃ transaction, session = .active transaction ∧
            (covered → ∀ write ∈ transaction.writes, write.2 ∈ rows))
          (Touched id call (some call.operation.tenant) rows)) (next (some reply)))
    (failing : Outline (discipline covered) (backend poolSize) id
      (At id client (fun _ => True) [.invoked id call]) (next none)) :
    Outline (discipline covered) (backend poolSize) id
      (At id client (fun session => ∃ transaction, session = .active transaction ∧
        transaction.setting = some call.operation.tenant ∧ (covered → transaction.writes = []))
        [.invoked id call])
      (.command (.execute client body) next) := by
  refine .command (Option.elim · (At id client (fun _ => True) [.invoked id call]) fun reply state log =>
      ∃ rows, (∀ row ∈ reply, row.tenant = call.operation.tenant) ∧
        At id client (fun session => ∃ transaction, session = .active transaction ∧
            (covered → ∀ write ∈ transaction.writes, write.2 ∈ rows))
          (Touched id call (some call.operation.tenant) rows) state log) (stable_at _) ?_ ?_
  · rintro state log choice after reply out sessions ⟨connection, held, ⟨transaction, active, setting, fresh⟩, seen⟩
      ran -
    simp only [backend, execute, held] at ran
    have seen' (out : List StoreObservation) : [Observation.invoked id call] ⊆ log ++ out :=
      fun _ member => List.mem_append_left _ (seen member)
    rcases executeSQL_cases ran with ⟨rfl, -, ⟨server, rfl, -, others, -⟩, reports, -, -⟩ |
      ⟨statement, opened, closed, rows, -, stated, began, performed, rfl, answer⟩
    · refine ⟨Sessions.report sessions held others fun effect member => ?_, Undisturbed.server held others,
        connection, held, trivial, seen' _⟩
      rcases reports effect member with same | same | same | ⟨-, aborted⟩
      · exact .inl same
      · exact .inr (.inl same)
      · exact .inr (.inr same)
      · rw [active] at aborted
        cases aborted
    · rw [active] at began
      obtain rfl : transaction = opened := Option.some.inj began
      obtain ⟨-, set, shown, written⟩ := perform_ran performed
      have kept : closed.setting = some call.operation.tenant := by
        rcases set with ⟨other, rfl, -⟩ | same
        · exact absurd (SQL.of_configure stated) (data other)
        · exact same.trans setting
      have mine (row : ApprovalRecord) (member : row ∈ rows) : row.tenant = call.operation.tenant :=
        (Option.some.inj (kept.symm.trans (shown row member))).symm
      have answers : ∀ write ∈ closed.writes, covered → write.2 ∈ rows := by
        intro write member holds
        rcases written with same | ⟨key, row, rfl, same, -⟩
        · rw [same, fresh holds] at member
          cases member
        · rw [same, fresh holds] at member
          simp [List.mem_singleton.mp member]
      have others (other : Nat × Nat) (apart : other ≠ connection) :
          (state.server.put connection (.active closed)).session other = state.server.session other := by
        rw [session_put, if_neg apart]
      have kinds (effect : Effect) (member : effect ∈ out) : effect = .touched closed.setting rows ∨
          (∃ approvalId, effect = .read approvalId closed.setting rows.head?) ∨ Reports effect := by
        rcases answer with ⟨-, -, rfl⟩ | ⟨-, -, rfl⟩
        · exact (SQL.of_mem_effects member).imp_right .inl
        · rcases List.mem_append.mp member with member | member
          · exact (SQL.of_mem_effects member).imp_right .inl
          · rcases List.mem_cons.mp member with rfl | member
            · exact .inr (.inr (.inl rfl))
            · exact .inr (.inr (.inr (.inr (eq_uncovered_of_exposed member))))
      have sessions' : Sessions covered { state with server := state.server.put connection (.active closed) }
          (log ++ out.map (.did id)) := by
        refine Sessions.server sessions held others ?_ fun holds => (Sessions.own sessions holds).append_of_forall ?_
        · rintro _ member more
          obtain ⟨effect, listed, rfl⟩ := List.mem_map.mp member
          rcases kinds effect listed with rfl | ⟨approvalId, rfl⟩ | reports
          · exact ⟨call, List.mem_append_left _ (seen (by simp)), kept, mine⟩
          · trivial
          · exact reports.owned _
        · rintro _ member more
          obtain ⟨effect, listed, rfl⟩ := List.mem_map.mp member
          rcases kinds effect listed with rfl | ⟨approvalId, rfl⟩ | reports
          · trivial
          · trivial
          · exact reports.own _
      refine ⟨sessions', Undisturbed.server held others, ?_⟩
      rcases answer with ⟨-, rfl, rfl⟩ | ⟨-, rfl, rfl⟩
      · refine ⟨rows, fun row member => mine row (mem_arrange.mp member), connection, held,
          ⟨closed, by rw [session_put, if_pos rfl], fun holds write member => answers write member holds⟩, ?_⟩
        refine List.cons_subset.mpr ⟨seen' _ (by simp), List.cons_subset.mpr ⟨List.mem_append_right _ ?_, by simp⟩⟩
        rw [← kept]
        exact List.mem_map_of_mem (SQL.touched_mem data _ _)
      · exact ⟨connection, held, trivial, seen' _⟩
  · rintro (_ | reply)
    · exact failing
    · exact .witness fun rows => .given (onward reply rows)

theorem outline_setConfig {call : StoreCall}
    {next : Reply (.execute client (.setConfig call.operation.tenant)) → StoreProgram (Except StoreError Answer)}
    (onward : ∀ reply, Outline (discipline covered) (backend poolSize) id
      (At id client (fun session => ∃ transaction, session = .active transaction ∧
        transaction.setting = some call.operation.tenant ∧ (covered → transaction.writes = []))
        [.invoked id call]) (next (some reply)))
    (failing : Outline (discipline covered) (backend poolSize) id
      (At id client (fun session => covered → session = .idle) [.invoked id call]) (next none)) :
    Outline (discipline covered) (backend poolSize) id
      (At id client (fun session => covered → session = .idle) [.invoked id call])
      (.command (.execute client (.setConfig call.operation.tenant)) next) := by
  refine .command (Option.elim · (At id client (fun session => covered → session = .idle) [.invoked id call])
      fun _ => At id client (fun session => ∃ transaction, session = .active transaction ∧
        transaction.setting = some call.operation.tenant ∧ (covered → transaction.writes = []))
        [.invoked id call]) (stable_at _) ?_ ?_
  · rintro state log choice after reply out sessions ⟨connection, held, idle, seen⟩ ran allowed
    simp only [backend, execute, held] at ran
    have seen' (out : List StoreObservation) : [Observation.invoked id call] ⊆ log ++ out :=
      fun _ member => List.mem_append_left _ (seen member)
    rcases executeSQL_cases ran with ⟨rfl, unsent, ⟨server, rfl, -, others, -⟩, reports, -, exposed⟩ |
      ⟨statement, opened, closed, rows, -, stated, began, performed, rfl, answer⟩
    · have uncovered (sent : choice.outcome ≠ .unsent) : .uncovered ∈ out :=
        exposed sent _ (by simp [SQL.exposed, sent])
      have unmoved (holds : covered) : choice.outcome = .unsent := by
        by_contra sent
        exact allowed _ (uncovered sent) holds rfl
      refine ⟨⟨?_, fun holds => (Sessions.clean sessions holds).server held others, fun holds => ?_⟩,
        Undisturbed.server held others, connection, held, fun holds => ?_, seen' _⟩
      · refine (Sessions.owned sessions).append_of_forall ?_
        rintro _ member more
        obtain ⟨effect, listed, rfl⟩ := List.mem_map.mp member
        rcases reports effect listed with rfl | rfl | rfl | ⟨rfl, -⟩ <;> trivial
      · refine (Sessions.own sessions holds).append_of_forall ?_
        rintro _ member more
        obtain ⟨effect, listed, rfl⟩ := List.mem_map.mp member
        rcases reports effect listed with rfl | rfl | rfl | ⟨-, aborted⟩
        · trivial
        · trivial
        · trivial
        · rw [idle holds] at aborted
          cases aborted
      · rw [unsent (unmoved holds)]
        exact idle holds
    · cases stated
      cases performed
      have others (other : Nat × Nat) (apart : other ≠ connection)
          (session : Session String ApprovalRecord String Datetime) :
          (state.server.put connection session).session other = state.server.session other := by
        rw [session_put, if_neg apart]
      have reports (effect : Effect) (member : effect ∈ out) : Reports effect := by
        rcases answer with ⟨-, -, rfl⟩ | ⟨-, -, rfl⟩
        · cases member
        · rcases List.mem_cons.mp member with rfl | member
          · exact .inl rfl
          · exact .inr (.inr (eq_uncovered_of_exposed member))
      refine ⟨Sessions.report sessions held (fun other apart => others other apart _) reports,
        Undisturbed.server held fun other apart => others other apart _, ?_⟩
      rcases answer with ⟨-, rfl, -⟩ | ⟨lost, rfl, rfl⟩
      · refine ⟨connection, held, ⟨_, by rw [session_put, if_pos rfl], rfl, fun holds => ?_⟩, seen' _⟩
        rw [idle holds] at began
        cases began
        rfl
      · refine ⟨connection, held, fun holds => ?_, seen' _⟩
        exact absurd rfl (allowed .uncovered (by simp [SQL.exposed]) holds)
  · rintro (_ | reply)
    · exact failing
    · exact onward reply

theorem outline_enter {call : StoreCall} {next : Reply (.enter client) → StoreProgram (Except StoreError Answer)}
    (onward : Outline (discipline covered) (backend poolSize) id
      (At id client (fun session => covered → session = .idle) [.invoked id call]) (next ())) :
    Outline (discipline covered) (backend poolSize) id (Seen [.invoked id call]) (.command (.enter client) next) := by
  refine .command (fun _ => At id client (fun session => covered → session = .idle) [.invoked id call])
    (stable_seen id _) ?_ fun _ => onward
  rintro state log choice after ⟨⟩ out sessions seen ran -
  have entered : execute id state choice (.enter client) = some (after, (), out) := ran
  obtain ⟨number, queue, free, rfl, rfl⟩ := execute_enter entered
  obtain ⟨sessions', idle⟩ := Sessions.enter id sessions free
  rw [List.map_nil, List.append_nil]
  refine ⟨sessions', undisturbed_enter free, (client, number), held_eq_some.mpr ⟨rfl, ?_⟩, idle, seen⟩
  simp [Database.setPool]

theorem outline_tenantScoped {call : StoreCall} {body : SQL}
    {rest : Option (List ApprovalRecord) → StoreProgram (Except StoreError Answer)}
    (data : ∀ tenant, body ≠ .setConfig tenant)
    (onward : ∀ rows, (∀ row ∈ rows, row.tenant = call.operation.tenant) →
      Outline (discipline covered) (backend poolSize) id (Seen [.invoked id call]) (rest (some rows)))
    (failing : Outline (discipline covered) (backend poolSize) id (Seen [.invoked id call]) (rest none)) :
    Outline (discipline covered) (backend poolSize) id (Seen [.invoked id call])
      ((tenantScoped client call.operation.tenant body).bind rest) := by
  refine outline_enter (outline_setConfig (fun _ => ?_) (outline_leave failing))
  refine outline_body data (fun reply rows mine => ?_) (outline_abandon failing)
  exact outline_commit (outline_leave (onward reply mine)) (outline_abandon failing)

theorem outline_done {call : StoreCall} {answer : Except StoreError Answer}
    (own : ∀ value, answer = .ok value → ∀ record ∈ value.records, record.tenant = call.operation.tenant) :
    Outline (discipline covered) (backend poolSize) id (Seen [.invoked id call]) (.done answer) := by
  refine .done (stable_seen id _) fun state log sessions seen => Sessions.snoc sessions ?_ trivial
  cases answer with
  | error error => trivial
  | ok value => exact ⟨call, seen (by simp), own value rfl⟩

theorem outline_raise {call : StoreCall} {error : StoreError} :
    Outline (discipline covered) (backend poolSize) id (Seen [.invoked id call]) (.done (.error error)) :=
  outline_done fun _ raised => by cases raised

theorem outline_gauge {call : StoreCall} {tenant : String} {change : Int}
    (onward : Outline (discipline covered) (backend poolSize) id (Seen [.invoked id call]) rest) :
    Outline (discipline covered) (backend poolSize) id (Seen [.invoked id call])
      (.command (.adjustGauge client tenant change) fun _ => rest) := by
  refine .command (fun _ => Seen [.invoked id call]) (stable_seen id _) ?_ fun _ => onward
  rintro state log choice after ⟨⟩ out sessions seen ran -
  cases ran
  rw [List.map_nil, List.append_nil]
  exact ⟨⟨Sessions.owned sessions, fun holds => ⟨(Sessions.clean sessions holds).distinct,
    (Sessions.clean sessions holds).idle⟩, Sessions.own sessions⟩, fun _ _ _ _ held => ⟨held, rfl⟩, seen⟩

end

theorem governs (covered : Prop) (externals : Externals) (poolSize : Nat → Nat) :
    Governs (discipline covered) (backend poolSize) (program externals) where
  initial := by
    refine ⟨.nil _, fun _ => ⟨fun client => ?_, fun client number _ => rfl⟩, fun _ => .nil _⟩
    exact List.nodup_range
  invoke state log id call sessions _ := by
    refine ⟨Sessions.snoc sessions trivial trivial, Seen [.invoked id call], by simp [Seen], ?_⟩
    obtain ⟨client, operation⟩ := call
    cases operation with
    | createPending requestId requester query tenant uuid4 now =>
      refine outline_tenantScoped (by simp) (fun _ _ => outline_gauge (outline_done ?_)) outline_raise
      rintro value ⟨⟩ record member
      rw [List.mem_singleton.mp member]
      rfl
    | decide approvalId decision reviewer reason tenant now =>
      refine outline_tenantScoped (by simp) (fun rows mine => ?_) outline_raise
      cases rows with
      | nil => exact outline_raise
      | cons row rows =>
        refine outline_gauge (outline_done ?_)
        rintro value ⟨⟩ record member
        rw [List.mem_singleton.mp member]
        exact mine row List.mem_cons_self
    | get approvalId tenant =>
      refine outline_tenantScoped (by simp) (fun rows mine => outline_done ?_) outline_raise
      rintro value ⟨⟩ record member
      exact mine record (List.mem_of_mem_head? (Option.mem_toList.mp member))
    | listPending tenant =>
      refine outline_tenantScoped (by simp) (fun rows mine => outline_done ?_) outline_raise
      rintro value ⟨⟩ record member
      exact mine record member

theorem run_sessions (covered : Prop) {externals : Externals} {poolSize : Nat → Nat}
    {events : List (Event StoreCall Choice)}
    {final : Interleaving.State Database Command Reply (Except StoreError Answer)} {log : List StoreObservation}
    (ran : (store externals poolSize).run events = some (final, log))
    (allowed : covered → ∀ id, .did id .uncovered ∉ log) : Sessions covered final.backend log :=
  run_invariant (governs covered externals poolSize) ran fun id _ seen holds same =>
    allowed holds id (same ▸ seen)

/-! ## Tenants -/

/-- Every statement that takes effect is under the tenant of its call, whatever fails. -/
theorem run_scoped {externals : Externals} {poolSize : Nat → Nat} {events : List (Event StoreCall Choice)}
    {final : Interleaving.State Database Command Reply (Except StoreError Answer)} {log : List StoreObservation}
    (ran : (store externals poolSize).run events = some (final, log)) : Throughout Scoped log :=
  (run_sessions False ran False.elim).owned

/-- A call and the outcomes of its steps. -/
def serve (id : Nat) (operation : Operation) (outcomes : List Outcome) : List (Event StoreCall Choice) :=
  .invoke id ⟨0, operation⟩ :: outcomes.map fun outcome => .advance id ⟨outcome, noon⟩

/-- The answer to the `set_config` of another tenant is lost between two calls of one tenant. -/
def reusedConnection : List (Event StoreCall Choice) :=
  serve 0 (.createPending "r-1" "alice" "refund" "payments" firstUuid noon) (List.replicate 7 .answered) ++
    serve 1 (.get firstUuid.text "cards") [.answered, .lost, .answered, .answered] ++
    serve 2 (.decide firstUuid.text .approved "bob" "ok" "payments" noon) (List.replicate 7 .answered)

theorem reusedConnection_scoped : ∃ final log, (store referenceExternals fun _ => 1).run reusedConnection =
    some (final, log) ∧ Throughout Scoped log := by
  obtain ⟨⟨final, log⟩, ran⟩ := Option.isSome_iff_exists.mp
    (show ((store referenceExternals fun _ => 1).run reusedConnection).isSome = true by decide)
  exact ⟨final, log, ran, run_scoped ran⟩

/-! ## Connections of the queue -/

theorem run_clean {externals : Externals} {poolSize : Nat → Nat} {events : List (Event StoreCall Choice)}
    {final : Interleaving.State Database Command Reply (Except StoreError Answer)} {log : List StoreObservation}
    (ran : (store externals poolSize).run events = some (final, log)) (covered : ∀ id, .did id .uncovered ∉ log) :
    Clean final.backend ∧ Throughout OwnWork log :=
  have sessions := run_sessions True ran fun _ => covered
  ⟨sessions.clean trivial, sessions.own trivial⟩

/-- A commit is refused, and another tenant uses the connection after it is rolled back. -/
def abandonedConnection : List (Event StoreCall Choice) :=
  serve 0 (.createPending "r-1" "alice" "refund" "payments" firstUuid noon)
      [.answered, .answered, .answered, .failed, .answered, .answered, .answered] ++
    serve 1 (.listPending "cards") (List.replicate 6 .answered)

theorem abandonedConnection_clean : ∃ final log, (store referenceExternals fun _ => 1).run abandonedConnection =
    some (final, log) ∧ .did 0 .failed ∈ log ∧ .responded 1 (.ok (.listed [])) ∈ log ∧ Clean final.backend ∧
      Throughout OwnWork log := by
  obtain ⟨⟨final, log⟩, ran, seen⟩ := (Option.any_eq_true _ _).mp
    (show ((store referenceExternals fun _ => 1).run abandonedConnection).any (fun (_, log) =>
      .did 0 .failed ∈ log ∧ .responded 1 (.ok (.listed [])) ∈ log ∧
        ∀ observation ∈ log, observation ≠ .did observation.id .uncovered) = true by decide)
  obtain ⟨failed, listed, covered⟩ := of_decide_eq_true seen
  exact ⟨final, log, ran, failed, listed, run_clean ran fun id uncovered => covered _ uncovered rfl⟩

/-- The `set_config` of one tenant raises, and another tenant takes the connection. -/
def poisonedConnection : List (Event StoreCall Choice) :=
  serve 0 (.listPending "payments") [.answered, .failed, .answered, .answered] ++
    serve 1 (.listPending "cards") (List.replicate 4 .answered)

theorem poisonedConnection_blocks : ∃ final log, (store referenceExternals fun _ => 1).run poisonedConnection =
    some (final, log) ∧ ¬ Clean final.backend ∧ .did 1 .blocked ∈ log ∧ .responded 1 (.error .driver) ∈ log := by
  obtain ⟨⟨final, log⟩, ran, seen⟩ := (Option.any_eq_true _ _).mp
    (show ((store referenceExternals fun _ => 1).run poisonedConnection).any (fun (final, log) =>
      0 ∈ (final.backend.pools 0).queue ∧ isAborted (final.backend.server.session (0, 0)) ∧ .did 1 .blocked ∈ log ∧
        .responded 1 (.error .driver) ∈ log) = true by decide)
  obtain ⟨queued, aborted, blocked, raised⟩ := of_decide_eq_true seen
  refine ⟨final, log, ran, fun clean => ?_, blocked, raised⟩
  rw [clean.idle 0 0 queued] at aborted
  cases aborted

end AgentPlatform.State.Postgres
