import AgentPlatform.Base.Progress
import AgentPlatform.State.PostgresSessions

/-! # Progress of the PostgreSQL store

Calls wait for the lock of their store and for rows that another transaction has written. Neither can last:
whoever is waited for can go on, and every call comes to its answer with its connection back in the queue. -/

namespace AgentPlatform.State.Postgres

open Interleaving Python RowSecurity

/-- Where a call is in the transaction of its store. -/
inductive Phase where
  | outside
  | entered (client : Nat)
  | configured (client : Nat)
  | wrote (client : Nat)
  | ended (client : Nat)

/-- The commands that a call may still issue from a phase. -/
def Follows : Phase → StoreProgram (Except StoreError Answer) → Prop
  | .outside, .done _ => True
  | .outside, .command (.enter client) next => Follows (.entered client) (next ())
  | .outside, .command (.adjustGauge ..) next => Follows .outside (next ())
  | .entered client, .command (.execute other (.setConfig tenant)) next =>
    other = client ∧ (SQL.setConfig tenant).storable = true ∧ Follows (.ended client) (next none) ∧
      ∀ rows, Follows (.configured client) (next (some rows))
  | .configured client, .command (.execute other sql) next =>
    other = client ∧ (∀ tenant, sql ≠ .setConfig tenant) ∧ ∀ reply, Follows (.wrote client) (next reply)
  | .wrote client, .command (.commit other) next =>
    other = client ∧ Follows (.ended client) (next true) ∧ Follows (.wrote client) (next false)
  | .wrote client, .command (.rollback other) next => other = client ∧ ∀ reply, Follows (.ended client) (next reply)
  | .ended client, .command (.leave other) next => other = client ∧ Follows .outside (next ())
  | _, _ => False

/-- The connection of a call is the one it holds, and its session is as the phase says. -/
def Holds (id client : Nat) (database : Database) (session : Session String ApprovalRecord String Datetime → Prop) : Prop :=
  (∃ connection, database.held id client = some connection ∧ session (database.server.session connection)) ∧
    ∀ other, other ≠ client → database.held id other = none

def Unwritten (session : Session String ApprovalRecord String Datetime) : Prop :=
  ∃ transaction, session = .active transaction ∧ transaction.writes = []

def Placed (id : Nat) (database : Database) : Phase → Prop
  | .outside => ∀ client, database.held id client = none
  | .entered client | .ended client => Holds id client database (· = .idle)
  | .configured client => Holds id client database Unwritten
  | .wrote client => Holds id client database fun _ => True

/-- No connection is lost, and a session that is not idle is in use. -/
structure Pooled (poolSize : Nat → Nat) (database : Database) : Prop where
  conserved : ∀ client, (database.pools client).inUse.toList.length + (database.pools client).queue.length =
    poolSize client
  used : ∀ connection : Nat × Nat, database.server.session connection ≠ .idle →
    ∃ id, database.held id connection.1 = some connection

/-- Between the steps of a run, each call is where its phase says. -/
structure Staged (poolSize : Nat → Nat)
    (state : Interleaving.State Database Command Reply (Except StoreError Answer)) : Prop where
  kept : Pooled poolSize state.backend
  known : ∀ call ∈ state.calls, call.id < state.next
  phases : ∃ phase : Nat → Phase, (∀ call ∈ state.calls, Follows (phase call.id) call.program) ∧
    (∀ id, Placed id state.backend (phase id)) ∧ ∀ id, phase id ≠ .outside → ∃ call ∈ state.calls, call.id = id

/-! ## What a call follows -/

section

variable {client : Nat}

theorem follows_abandon {rest : Option (List ApprovalRecord) → StoreProgram (Except StoreError Answer)}
    (failing : Follows .outside (rest none)) : Follows (.wrote client) ((abandon client).bind rest) := by
  refine ⟨rfl, fun reply => ⟨rfl, ?_⟩⟩
  exact failing

theorem follows_tenantScoped {tenant : String} {body : SQL}
    {rest : Option (List ApprovalRecord) → StoreProgram (Except StoreError Answer)}
    (storable : (SQL.setConfig tenant).storable = true) (data : ∀ tenant, body ≠ .setConfig tenant)
    (onward : ∀ reply, Follows .outside (rest reply)) : Follows .outside ((tenantScoped client tenant body).bind rest) := by
  refine ⟨rfl, storable, ⟨rfl, onward none⟩, fun rows => ?_⟩
  refine ⟨rfl, data, fun reply => ?_⟩
  cases reply with
  | none => exact follows_abandon (onward none)
  | some rows => exact ⟨rfl, ⟨rfl, onward (some rows)⟩, follows_abandon (onward none)⟩

end

theorem follows_program (externals : Externals) (call : StoreCall)
    (storable : (SQL.setConfig call.operation.tenant).storable = true) : Follows .outside (program externals call) := by
  obtain ⟨client, operation⟩ := call
  cases operation with
  | createPending requestId requester query tenant uuid4 now =>
    apply follows_tenantScoped storable (by simp)
    intro reply
    cases reply <;> trivial
  | decide approvalId decision reviewer reason tenant now =>
    apply follows_tenantScoped storable (by simp)
    intro reply
    rcases reply with _ | (_ | ⟨row, rows⟩) <;> trivial
  | get approvalId tenant =>
    apply follows_tenantScoped storable (by simp)
    intro reply
    cases reply <;> trivial
  | listPending tenant =>
    apply follows_tenantScoped storable (by simp)
    intro reply
    cases reply <;> trivial

/-! ## What a step keeps -/

/-- A step of one call leaves the connections of the others as they were. -/
def Apart (id : Nat) (before after : Database) : Prop :=
  ∀ holder, holder ≠ id → (∀ client, after.held holder client = before.held holder client) ∧
    ∀ client connection, before.held holder client = some connection →
      after.server.session connection = before.server.session connection

theorem Placed.apart {id other : Nat} {before after : Database} {phase : Phase} (placed : Placed other before phase)
    (apart : Apart id before after) (different : other ≠ id) : Placed other after phase := by
  obtain ⟨held, sessions⟩ := apart other different
  have holds (client : Nat) (session : Session String ApprovalRecord String Datetime → Prop)
      (before : Holds other client before session) : Holds other client after session := by
    obtain ⟨⟨connection, own, now⟩, elsewhere⟩ := before
    refine ⟨⟨connection, (held client).trans own, ?_⟩, fun further others => (held further).trans (elsewhere further others)⟩
    rw [sessions client connection own]
    exact now
  cases phase with
  | outside => exact fun client => (held client).trans (placed client)
  | entered client | ended client => exact holds client (· = .idle) placed
  | configured client => exact holds client Unwritten placed
  | wrote client => exact holds client (fun _ => True) placed

section

variable {poolSize : Nat → Nat} {id client : Nat} {database : Database} {connection : Nat × Nat}

theorem Apart.server {server : ApprovalServer} (held : database.held id client = some connection)
    (others : ∀ other, other ≠ connection → server.session other = database.server.session other) :
    Apart id database { database with server := server } := by
  intro holder different
  refine ⟨fun client => rfl, fun client' other own => others other ?_⟩
  rintro rfl
  exact different (held_unique own held)

theorem Pooled.server {server : ApprovalServer} (kept : Pooled poolSize database)
    (held : database.held id client = some connection)
    (others : ∀ other, other ≠ connection → server.session other = database.server.session other) :
    Pooled poolSize { database with server := server } := by
  refine ⟨kept.conserved, fun other busy => ?_⟩
  by_cases same : other = connection
  · subst same
    obtain ⟨rfl, -⟩ := held_eq_some.mp held
    exact ⟨id, held⟩
  · apply kept.used other
    rwa [← others other same]

theorem Holds.server {server : ApprovalServer} {before after : Session String ApprovalRecord String Datetime → Prop}
    (holds : Holds id client database before)
    (moved : ∀ connection, database.held id client = some connection → before (database.server.session connection) →
      after (server.session connection)) : Holds id client { database with server := server } after := by
  obtain ⟨⟨connection, held, now⟩, elsewhere⟩ := holds
  exact ⟨⟨connection, held, moved connection held now⟩, elsewhere⟩

theorem free_idle {number : Nat} (kept : Pooled poolSize database) (free : (database.pools client).inUse = none) :
    database.server.session (client, number) = .idle := by
  by_contra busy
  obtain ⟨owner, held⟩ := kept.used (client, number) busy
  obtain ⟨-, used⟩ := held_eq_some.mp held
  rw [free] at used
  cases used

theorem enter_pooled {number : Nat} {queue : List Nat} (kept : Pooled poolSize database)
    (free : database.pools client = ⟨none, number :: queue⟩) :
    Pooled poolSize (database.setPool client ⟨some (id, number), queue⟩) := by
  refine ⟨fun other => ?_, fun other busy => ?_⟩
  · by_cases same : other = client
    · subst same
      have conserved := kept.conserved other
      simp only [free, Option.toList_none, List.length_nil, List.length_cons] at conserved
      simp only [Database.setPool, Function.update_self, Option.toList_some, List.length_singleton]
      omega
    · simpa only [Database.setPool, Function.update_of_ne same] using kept.conserved other
  · have away : other.1 ≠ client := by
      rintro rfl
      have idle : database.server.session other = .idle := free_idle kept (by rw [free])
      exact busy idle
    obtain ⟨owner, held⟩ := kept.used other busy
    exact ⟨owner, by rw [held_setPool away]; exact held⟩

theorem leave_pooled (kept : Pooled poolSize database) (held : database.held id client = some connection)
    (idle : database.server.session connection = .idle) :
    Pooled poolSize (database.setPool client ⟨none, (database.pools client).queue ++ [connection.2]⟩) := by
  obtain ⟨rfl, used⟩ := held_eq_some.mp held
  refine ⟨fun other => ?_, fun other busy => ?_⟩
  · by_cases same : other = connection.1
    · subst same
      have conserved := kept.conserved connection.1
      simp only [used, Option.toList_some, List.length_singleton] at conserved
      simp only [Database.setPool, Function.update_self, Option.toList_none, List.length_nil, List.length_append,
        List.length_singleton]
      omega
    · simpa only [Database.setPool, Function.update_of_ne same] using kept.conserved other
  · obtain ⟨owner, taken⟩ := kept.used other busy
    have away : other.1 ≠ connection.1 := by
      intro same
      obtain ⟨-, used'⟩ := held_eq_some.mp taken
      rw [same, used] at used'
      have number : connection.2 = other.2 := (Prod.mk.inj (Option.some.inj used')).2
      have whole : other = connection := Prod.ext same number.symm
      rw [whole] at busy
      exact busy idle
    exact ⟨owner, by rw [held_setPool away]; exact taken⟩

theorem enter_apart {number : Nat} {queue : List Nat} (free : database.pools client = ⟨none, number :: queue⟩) :
    Apart id database (database.setPool client ⟨some (id, number), queue⟩) := by
  intro holder different
  refine ⟨fun other => ?_, fun _ _ _ => rfl⟩
  by_cases same : other = client
  · subst same
    simp [Database.held, Database.setPool, free, different.symm]
  · exact held_setPool same

theorem leave_apart (held : database.held id client = some connection) {queue : List Nat} :
    Apart id database (database.setPool client ⟨none, queue⟩) := by
  obtain ⟨rfl, used⟩ := held_eq_some.mp held
  intro holder different
  refine ⟨fun other => ?_, fun _ _ _ => rfl⟩
  by_cases same : other = connection.1
  · subst same
    simp [Database.held, Database.setPool, used, different.symm]
  · exact held_setPool same

end

/-- What one step of a call makes of its phase. -/
def Moves (poolSize : Nat → Nat) (id : Nat) (before after : Database)
    (program : StoreProgram (Except StoreError Answer)) : Prop :=
  Pooled poolSize after ∧ Apart id before after ∧ ∃ phase, Follows phase program ∧ Placed id after phase

section

variable {poolSize : Nat → Nat} {id client : Nat} {database after : Database} {choice : Choice} {out : List Effect}

theorem enter_moves {next : Reply (.enter client) → StoreProgram (Except StoreError Answer)} {reply : Unit}
    (kept : Pooled poolSize database) (placed : Placed id database .outside)
    (follows : Follows (.entered client) (next ())) (ran : execute id database choice (.enter client) = some (after, reply, out)) :
    Moves poolSize id database after (next reply) := by
  obtain ⟨number, queue, free, rfl, -⟩ := execute_enter ran
  have idle : database.server.session (client, number) = .idle := free_idle kept (by rw [free])
  refine ⟨enter_pooled kept free, enter_apart free, .entered client, follows, ⟨(client, number), ?_, idle⟩, ?_⟩
  · apply held_eq_some.mpr
    simp [Database.setPool]
  · intro other away
    rw [held_setPool away]
    exact placed other

theorem setConfig_moves {tenant : String}
    {next : Reply (.execute client (.setConfig tenant)) → StoreProgram (Except StoreError Answer)}
    {reply : Option (List ApprovalRecord)} (kept : Pooled poolSize database) (placed : Placed id database (.entered client))
    (failing : Follows (.ended client) (next none)) (onward : ∀ rows, Follows (.configured client) (next (some rows)))
    (ran : execute id database choice (.execute client (.setConfig tenant)) = some (after, reply, out))
    (covered : .uncovered ∉ out) : Moves poolSize id database after (next reply) := by
  obtain ⟨⟨connection, held, idle⟩, elsewhere⟩ := placed
  rw [execute_sql_held held] at ran
  rcases executeSQL_cases ran with ⟨rfl, unsent, -, -, -, exposed⟩ |
    ⟨statement, opened, closed, rows, -, stated, began, performed, rfl, answer⟩
  · have unmoved : choice.outcome = .unsent := by
      by_contra sent
      exact covered (exposed sent _ (by simp [SQL.exposed, sent]))
    rw [unsent unmoved]
    exact ⟨kept, fun _ _ => ⟨fun _ => rfl, fun _ _ _ => rfl⟩, .ended client, failing, ⟨connection, held, idle⟩, elsewhere⟩
  · cases stated
    cases performed
    rcases answer with ⟨-, rfl, -⟩ | ⟨-, -, rfl⟩
    · have others (other : Nat × Nat) (away : other ≠ connection) (session : Session String ApprovalRecord String Datetime) :
          (database.server.put connection session).session other = database.server.session other := by
        rw [session_put, if_neg away]
      refine ⟨kept.server held fun other away => others other away _, .server held fun other away => others other away _,
        .configured client, onward _, ⟨connection, held, _, by rw [session_put, if_pos rfl], ?_⟩, elsewhere⟩
      rw [idle] at began
      cases began
      rfl
    · exact absurd (by simp [SQL.exposed]) covered

theorem body_moves {sql : SQL} {next : Reply (.execute client sql) → StoreProgram (Except StoreError Answer)}
    {reply : Option (List ApprovalRecord)} (kept : Pooled poolSize database) (placed : Placed id database (.configured client))
    (onward : ∀ reply, Follows (.wrote client) (next reply))
    (ran : execute id database choice (.execute client sql) = some (after, reply, out)) :
    Moves poolSize id database after (next reply) := by
  obtain ⟨⟨connection, held, -⟩, elsewhere⟩ := placed
  rw [execute_sql_held held] at ran
  have moved : ∃ server, after = { database with server := server } ∧
      ∀ other, other ≠ connection → server.session other = database.server.session other := by
    rcases executeSQL_cases ran with ⟨-, -, ⟨server, same, -, others, -⟩, -⟩ | ⟨_, _, closed, _, -, -, -, -, same, -⟩
    · exact ⟨server, same, others⟩
    · refine ⟨_, same, fun other away => ?_⟩
      rw [session_put, if_neg away]
  obtain ⟨server, rfl, others⟩ := moved
  exact ⟨kept.server held others, .server held others, .wrote client, onward reply, ⟨connection, held, trivial⟩, elsewhere⟩

theorem commit_moves {next : Reply (.commit client) → StoreProgram (Except StoreError Answer)} {reply : Bool}
    (kept : Pooled poolSize database) (placed : Placed id database (.wrote client))
    (committed : Follows (.ended client) (next true)) (refused : Follows (.wrote client) (next false))
    (ran : execute id database choice (.commit client) = some (after, reply, out)) :
    Moves poolSize id database after (next reply) := by
  obtain ⟨⟨own, held', -⟩, elsewhere⟩ := placed
  obtain ⟨connection, held, rfl, answered, -⟩ := execute_commit ran
  have others (other : Nat × Nat) (away : other ≠ connection) :
      (database.server.commit connection choice.outcome).1.session other = database.server.session other := commit_session away
  refine ⟨kept.server held others, .server held others, ?_⟩
  cases reply with
  | true => exact ⟨.ended client, committed, ⟨connection, held, commit_idle answered.symm⟩, elsewhere⟩
  | false => exact ⟨.wrote client, refused, ⟨connection, held, trivial⟩, elsewhere⟩

theorem rollback_moves {next : Reply (.rollback client) → StoreProgram (Except StoreError Answer)} {reply : Bool}
    (kept : Pooled poolSize database) (placed : Placed id database (.wrote client))
    (onward : ∀ reply, Follows (.ended client) (next reply))
    (ran : execute id database choice (.rollback client) = some (after, reply, out)) (covered : .uncovered ∉ out) :
    Moves poolSize id database after (next reply) := by
  obtain ⟨⟨own, held', -⟩, elsewhere⟩ := placed
  obtain ⟨connection, held, rfl, -, effects⟩ := execute_rollback ran
  have others (other : Nat × Nat) (away : other ≠ connection) :
      (database.server.rollback connection choice.outcome).1.session other = database.server.session other :=
    rollback_session away
  refine ⟨kept.server held others, .server held others, .ended client, onward reply, ⟨connection, held, ?_⟩, elsewhere⟩
  cases outcome : choice.outcome with
  | answered | lost => simp [Server.rollback]
  | unsent | failed => exact absurd (by simp [effects, outcome]) covered

theorem leave_moves {next : Reply (.leave client) → StoreProgram (Except StoreError Answer)} {reply : Unit}
    (kept : Pooled poolSize database) (placed : Placed id database (.ended client)) (follows : Follows .outside (next ()))
    (ran : execute id database choice (.leave client) = some (after, reply, out)) :
    Moves poolSize id database after (next reply) := by
  obtain ⟨⟨own, held', idle⟩, elsewhere⟩ := placed
  obtain ⟨connection, held, rfl, -⟩ := execute_leave ran
  rw [held] at held'
  cases held'
  refine ⟨leave_pooled kept held idle, leave_apart held, .outside, follows, fun other => ?_⟩
  by_cases same : other = client
  · subst same
    simp [Database.held, Database.setPool]
  · rw [held_setPool same]
    exact elsewhere other same

/-- Each step takes a call to the next of its phases, where no exception escapes the handling of its transaction. -/
theorem execute_moves {c : Command} {next : Reply c → StoreProgram (Except StoreError Answer)} {reply : Reply c} {phase : Phase}
    (kept : Pooled poolSize database) (placed : Placed id database phase) (follows : Follows phase (.command c next))
    (ran : execute id database choice c = some (after, reply, out)) (covered : .uncovered ∉ out) :
    Moves poolSize id database after (next reply) := by
  cases c with
  | enter other =>
    cases phase with
    | outside => exact enter_moves kept placed follows ran
    | entered | configured | wrote | ended => cases follows
  | execute other sql =>
    cases phase with
    | outside | wrote | ended => cases sql <;> cases follows
    | entered client =>
      cases sql with
      | setConfig tenant =>
        obtain ⟨rfl, -, failing, onward⟩ := follows
        exact setConfig_moves kept placed failing onward ran covered
      | insert | update | selectOne | selectPending => cases follows
    | configured client =>
      obtain ⟨rfl, -, onward⟩ := follows
      exact body_moves kept placed onward ran
  | commit other =>
    cases phase with
    | wrote client =>
      obtain ⟨rfl, committed, refused⟩ := follows
      exact commit_moves kept placed committed refused ran
    | outside | entered | configured | ended => cases follows
  | rollback other =>
    cases phase with
    | wrote client =>
      obtain ⟨rfl, onward⟩ := follows
      exact rollback_moves kept placed onward ran covered
    | outside | entered | configured | ended => cases follows
  | leave other =>
    cases phase with
    | ended client =>
      obtain ⟨rfl, onward⟩ := follows
      exact leave_moves kept placed onward ran
    | outside | entered | configured | wrote => cases follows
  | adjustGauge other tenant change =>
    cases phase with
    | outside =>
      cases ran
      exact ⟨⟨kept.conserved, kept.used⟩, fun _ _ => ⟨fun _ => rfl, fun _ _ _ => rfl⟩, .outside, follows, placed⟩
    | entered | configured | wrote | ended => cases follows

end

/-- No exception escapes the handling of a transaction, and `PostgreSQL` can store the tenants as text. -/
structure Ordinary (log : List StoreObservation) : Prop where
  covered : ∀ id, .did id .uncovered ∉ log
  storable : ∀ id call, .invoked id call ∈ log → (SQL.setConfig call.operation.tenant).storable = true

def usual : StoreObservation → Bool
  | .invoked _ call => (SQL.setConfig call.operation.tenant).storable
  | .did _ effect => effect ≠ .uncovered
  | .responded .. => true

theorem ordinary_of_usual {log : List StoreObservation} (each : log.all usual = true) : Ordinary log := by
  have holds := List.all_eq_true.mp each
  refine ⟨fun id member => ?_, fun id call member => holds _ member⟩
  have apart : (Effect.uncovered ≠ Effect.uncovered) := of_decide_eq_true (holds _ member)
  exact apart rfl

section

variable {poolSize : Nat → Nat} {externals : Externals}
  {state next : Interleaving.State Database Command Reply (Except StoreError Answer)} {out : List StoreObservation}

theorem initial_staged (externals : Externals) (poolSize : Nat → Nat) : Staged poolSize (store externals poolSize).init := by
  refine ⟨⟨fun client => ?_, fun connection busy => absurd rfl busy⟩, fun _ waiting => absurd waiting List.not_mem_nil, ?_⟩
  · change 0 + (List.range (poolSize client)).length = poolSize client
    rw [List.length_range, Nat.zero_add]
  · exact ⟨fun _ => .outside, fun _ waiting => absurd waiting List.not_mem_nil, fun _ _ => rfl, fun _ busy => absurd rfl busy⟩

theorem step_staged {event : Event StoreCall Choice} (staged : Staged poolSize state)
    (stepped : (store externals poolSize).step state event = some (next, out)) (ordinary : Ordinary out) :
    Staged poolSize next := by
  obtain ⟨kept, known, phase, follows, placed, busy⟩ := staged
  rcases machine_step_cases stepped with ⟨id, call, fresh, rfl, rfl⟩ | ⟨id, answer, member, rfl, -⟩ |
    ⟨id, c, onward, choice, after, reply, effects, member, ran, rfl, rfl⟩
  · have idle : phase id = .outside := by
      by_contra inside
      obtain ⟨other, waiting, same⟩ := busy id inside
      have older := known other waiting
      omega
    refine ⟨kept, ?_, phase, ?_, placed, fun holder inside => ?_⟩
    · intro other waiting
      rcases List.mem_cons.mp waiting with rfl | waiting
      · exact Nat.lt_succ_self id
      · have older := known other waiting
        change other.id < id + 1
        omega
    · intro other waiting
      rcases List.mem_cons.mp waiting with rfl | waiting
      · rw [idle]
        exact follows_program externals call (ordinary.storable id call (by simp))
      · exact follows other waiting
    · obtain ⟨other, waiting, same⟩ := busy holder inside
      exact ⟨other, List.mem_cons_of_mem _ waiting, same⟩
  · have outside : phase id = .outside := by
      have point : Follows (phase id) (.done answer) := follows _ member
      generalize phase id = current at point ⊢
      cases current with
      | outside => rfl
      | entered | configured | wrote | ended => cases point
    refine ⟨kept, fun other waiting => known other (List.mem_filter.mp waiting).1, phase,
      fun other waiting => follows other (List.mem_filter.mp waiting).1, placed, fun holder inside => ?_⟩
    obtain ⟨other, waiting, same⟩ := busy holder inside
    refine ⟨other, List.mem_filter.mpr ⟨waiting, ?_⟩, same⟩
    have apart : other.id ≠ id := by
      rw [same]
      rintro rfl
      exact inside outside
    simpa using apart
  · have covered : .uncovered ∉ effects := by
      intro uncovered
      exact ordinary.covered id (List.mem_map_of_mem uncovered)
    obtain ⟨kept', apart, moved, follows', placed'⟩ := execute_moves kept (placed id) (follows _ member) ran covered
    refine ⟨kept', ?_, Function.update phase id moved, ?_, fun holder => ?_, fun holder inside => ?_⟩
    · intro other waiting
      rcases List.mem_cons.mp waiting with rfl | waiting
      · exact known ⟨id, .command c onward⟩ member
      · exact known other (List.mem_filter.mp waiting).1
    · intro other waiting
      rcases List.mem_cons.mp waiting with rfl | waiting
      · rw [Function.update_self]
        exact follows'
      · obtain ⟨waiting, different⟩ := List.mem_filter.mp waiting
        rw [Function.update_of_ne (by simpa using different)]
        exact follows other waiting
    · by_cases own : holder = id
      · subst own
        rw [Function.update_self]
        exact placed'
      · rw [Function.update_of_ne own]
        exact (placed holder).apart apart own
    · by_cases own : holder = id
      · exact ⟨⟨id, onward reply⟩, List.mem_cons_self, own.symm⟩
      · rw [Function.update_of_ne own] at inside
        obtain ⟨other, waiting, same⟩ := busy holder inside
        refine ⟨other, List.mem_cons_of_mem _ (List.mem_filter.mpr ⟨waiting, ?_⟩), same⟩
        simpa [same] using own

/-! ## Some call can step -/

theorem perform_goes {server : ApprovalServer} {connection : Nat × Nat} {transaction : ApprovalTransaction}
    (unlocked : ∀ key, server.locked connection key = false)
    (statement : Statement String ApprovalRecord String Datetime) :
    server.perform ApprovalRecord.tenant connection transaction statement ≠ .waits := by
  cases statement with
  | configure setting => simp [Server.perform]
  | insert key row =>
    simp only [Server.perform, unlocked, Bool.false_eq_true, if_false]
    split
    · simp
    · split <;> simp
  | update key change =>
    simp only [Server.perform, unlocked, Bool.false_eq_true, if_false]
    split
    · simp
    · split
      · simp
      · split <;> simp
  | selectOne key => simp [Server.perform]
  | select condition => simp [Server.perform]

theorem executeSQL_goes {database : Database} {connection : Nat × Nat} {choice : Choice} {sql : SQL}
    (unlocked : ∀ key, database.server.locked connection key = false) :
    (executeSQL database connection choice sql).isSome = true := by
  simp only [executeSQL]
  split
  · split <;> rfl
  · rename_i statement _
    rw [Option.isSome_map]
    unfold Server.execute
    split
    · rfl
    · split
      · rfl
      · rename_i transaction _
        split
        · rfl
        · have goes := @perform_goes database.server connection transaction unlocked statement
          split
          · rename_i waits
            exact absurd waits goes
          · rfl
          · rfl

/-- The statement of a body is inside the `try` block. -/
theorem executeSQL_covered {database after : Database} {connection : Nat × Nat} {choice : Choice} {sql : SQL}
    {reply : Option (List ApprovalRecord)} {out : List Effect} (data : ∀ tenant, sql ≠ .setConfig tenant)
    (ran : executeSQL database connection choice sql = some (after, reply, out)) : .uncovered ∉ out := by
  have inside : sql.exposed choice.outcome = [] := by
    cases sql with
    | setConfig tenant => exact absurd rfl (data tenant)
    | insert | update | selectOne | selectPending => rfl
  have shown (setting : Option String) (rows : List ApprovalRecord) : .uncovered ∉ sql.effects setting rows := by
    cases sql <;> simp [SQL.effects]
  have waiting : .uncovered ∉ blockedBy database connection choice := by
    intro member
    cases (of_mem_blockedBy member).1
  simp only [executeSQL, inside] at ran
  split at ran
  · split at ran
    · cases ran
      simp
    · cases ran
      simpa using waiting
  · obtain ⟨executed, -, same⟩ := Option.map_eq_some_iff.mp ran
    cases same
    intro member
    rcases List.mem_append.mp member with member | member
    · cases touched : executed.touched with
      | none => simp [touched] at member
      | some pair =>
        rw [touched] at member
        exact shown pair.1 pair.2 member
    · split at member
      · exact waiting (by simpa using member)
      · cases member

theorem setConfig_goes {database : Database} {connection : Nat × Nat} {tenant : String} {choice : Choice}
    (storable : (SQL.setConfig tenant).storable = true) (idle : database.server.session connection = .idle)
    (answered : choice.outcome = .answered) :
    ∃ after reply, executeSQL database connection choice (.setConfig tenant) = some (after, reply, []) := by
  have stated : (if (SQL.setConfig tenant).storable then (SQL.setConfig tenant).statement else none) =
      some (.configure tenant) := if_pos storable
  have began : (database.server.session connection).begin choice.now = some ⟨choice.now, none, []⟩ := by
    rw [idle]
    rfl
  exact ⟨_, _, executeSQL_ran stated began rfl answered⟩

theorem executeCommit_covered (database : Database) (connection : Nat × Nat) (choice : Choice) :
    .uncovered ∉ (executeCommit database connection choice).2.2 := by
  intro member
  simp only [executeCommit] at member
  rcases List.mem_append.mp member with member | member
  · split at member
    · obtain ⟨_, _, -, same⟩ := of_mem_published member
      cases same
    · cases member
  · split at member
    · cases member
    · cases List.mem_singleton.mp member

theorem executeRollback_covered (database : Database) (connection : Nat × Nat) {choice : Choice}
    (answered : choice.outcome = .answered) : .uncovered ∉ (executeRollback database connection choice).2.2 := by
  simp [executeRollback, Server.rollback, answered]

/-- A call inside its transaction can take its next step, unless it waits for a row. -/
theorem inside_goes {id : Nat} {database : Database} {phase : Phase} {c : Command}
    {onward : Reply c → StoreProgram (Except StoreError Answer)} {choice : Choice} (placed : Placed id database phase)
    (follows : Follows phase (.command c onward)) (inside : phase ≠ .outside) (answered : choice.outcome = .answered)
    (unlocked : (∃ client, phase = .wrote client) ∨ ∀ connection key, database.server.locked connection key = false) :
    ∃ after reply effects, execute id database choice c = some (after, reply, effects) ∧ .uncovered ∉ effects := by
  cases phase with
  | outside => exact absurd rfl inside
  | entered client =>
    obtain ⟨⟨connection, held, idle⟩, -⟩ := placed
    cases c with
    | execute other sql =>
      cases sql with
      | setConfig tenant =>
        obtain ⟨rfl, storable, -⟩ := follows
        obtain ⟨after, reply, ran⟩ := @setConfig_goes database connection tenant choice storable idle answered
        exact ⟨after, reply, [], (execute_sql_held held _).trans ran, List.not_mem_nil⟩
      | insert | update | selectOne | selectPending => cases follows
    | enter | commit | rollback | leave | adjustGauge => cases follows
  | configured client =>
    obtain ⟨⟨connection, held, -⟩, -⟩ := placed
    cases c with
    | execute other sql =>
      obtain ⟨rfl, data, -⟩ := follows
      have free : ∀ key, database.server.locked connection key = false := by
        rcases unlocked with ⟨client, same⟩ | free
        · cases same
        · exact free connection
      obtain ⟨⟨after, reply, effects⟩, ran⟩ :=
        Option.isSome_iff_exists.mp (@executeSQL_goes database connection choice sql free)
      exact ⟨after, reply, effects, (execute_sql_held held _).trans ran, executeSQL_covered data ran⟩
    | enter | commit | rollback | leave | adjustGauge => cases follows
  | wrote client =>
    obtain ⟨⟨connection, held, -⟩, -⟩ := placed
    cases c with
    | commit other =>
      obtain ⟨rfl, -⟩ := follows
      have ran : execute id database choice (.commit other) = some (executeCommit database connection choice) := by
        change (database.held id other).map _ = _
        rw [held]
        rfl
      exact ⟨_, _, _, ran, executeCommit_covered database connection choice⟩
    | rollback other =>
      obtain ⟨rfl, -⟩ := follows
      exact ⟨_, _, _, execute_rollback_held held, executeRollback_covered database connection answered⟩
    | enter | execute | leave | adjustGauge => cases follows
  | ended client =>
    obtain ⟨⟨connection, held, -⟩, -⟩ := placed
    cases c with
    | leave other =>
      obtain ⟨rfl, -⟩ := follows
      exact ⟨_, _, _, execute_leave_held held, List.not_mem_nil⟩
    | enter | execute | commit | rollback | adjustGauge => cases follows

end

section

variable {poolSize : Nat → Nat} {externals : Externals}
  {state : Interleaving.State Database Command Reply (Except StoreError Answer)}

theorem step_goes {id : Nat} {choice : Choice} (flight : ∃ call ∈ state.calls, call.id = id)
    (goes : ∀ c onward, (⟨id, .command c onward⟩ : Call Command Reply (Except StoreError Answer)) ∈ state.calls →
      ∃ after reply effects, execute id state.backend choice c = some (after, reply, effects) ∧ .uncovered ∉ effects) :
    ∃ next out, (store externals poolSize).step state (.advance id choice) = some (next, out) ∧ Ordinary out := by
  obtain ⟨call, found⟩ : ∃ call, state.calls.find? (fun call => call.id = id) = some call := by
    rw [← Option.isSome_iff_exists, List.find?_isSome]
    obtain ⟨call, waiting, same⟩ := flight
    exact ⟨call, waiting, by simpa using same⟩
  have member := List.mem_of_find?_eq_some found
  obtain ⟨own, point⟩ := call
  obtain rfl : own = id := by simpa using List.find?_some found
  simp only [store, machine, found, Option.bind_some]
  cases point with
  | done answer =>
    refine ⟨_, _, rfl, fun other member => ?_, fun other call member => ?_⟩
    · cases List.mem_singleton.mp member
    · cases List.mem_singleton.mp member
  | command c onward =>
    obtain ⟨after, reply, effects, ran, covered⟩ := goes c onward member
    have ran : (backend poolSize).exec own state.backend choice c = some (after, reply, effects) := ran
    simp only [advance, ran, Option.map_some]
    refine ⟨_, _, rfl, fun other member => ?_, fun other call member => ?_⟩
    · obtain ⟨effect, listed, same⟩ := List.mem_map.mp member
      cases same
      exact covered listed
    · obtain ⟨effect, -, same⟩ := List.mem_map.mp member
      cases same

/-- Only calls that have written keep others from a row. -/
theorem unlocked_of_phases {phase : Nat → Phase} {database : Database} (kept : Pooled poolSize database)
    (placed : ∀ id, Placed id database (phase id)) (none : ∀ id client, phase id ≠ .wrote client) (connection : Nat × Nat)
    (key : String) : database.server.locked connection key = false := by
  by_contra locked
  obtain ⟨other, -, write, written, -⟩ := locked_iff.mp (Bool.eq_true_of_not_eq_false locked)
  have busy : database.server.session other ≠ .idle := by
    intro idle
    rw [idle] at written
    cases written
  obtain ⟨owner, held⟩ := kept.used other busy
  have own := placed owner
  have never := none owner
  generalize phase owner = current at own never
  have session {state : Session String ApprovalRecord String Datetime → Prop} {client : Nat}
      (holds : Holds owner client database state) : state (database.server.session other) := by
    obtain ⟨⟨mine, taken, now⟩, elsewhere⟩ := holds
    have same : other.1 = client := by
      by_contra apart
      rw [elsewhere other.1 apart] at held
      cases held
    rw [same, taken] at held
    cases held
    exact now
  cases current with
  | outside =>
    rw [own other.1] at held
    cases held
  | entered client | ended client => exact busy (@session (· = .idle) client own)
  | configured client =>
    obtain ⟨transaction, active, clean⟩ := @session Unwritten client own
    rw [active] at written
    simp only [Session.writes, clean] at written
    cases written
  | wrote client => exact never client rfl

/-- Where no call is in a transaction, every lock is free. -/
theorem enter_free {database : Database} {client : Nat} (nonempty : ∀ client, 1 ≤ poolSize client)
    (kept : Pooled poolSize database) (outside : ∀ id, Placed id database .outside) :
    ∃ number queue, database.pools client = ⟨none, number :: queue⟩ := by
  have conserved := kept.conserved client
  have enough := nonempty client
  have unheld (id : Nat) : database.held id client = none := outside id client
  simp only [Database.held] at unheld
  generalize database.pools client = pool at conserved unheld ⊢
  obtain ⟨inUse, queue⟩ := pool
  cases inUse with
  | some holder =>
    have own := unheld holder.1
    simp at own
  | none =>
    cases queue with
    | nil =>
      simp only [Option.toList_none, List.length_nil] at conserved
      omega
    | cons number queue => exact ⟨number, queue, rfl⟩

/-- While calls are in flight, one of them can step: the one that others wait for. -/
theorem staged_goes (nonempty : ∀ client, 1 ≤ poolSize client) (staged : Staged poolSize state) (busy : state.calls ≠ []) :
    ∃ id choice next out, choice.outcome = .answered ∧
      (store externals poolSize).step state (.advance id choice) = some (next, out) ∧ Ordinary out := by
  obtain ⟨kept, known, phase, follows, placed, inside⟩ := staged
  let choice : Choice := ⟨.answered, noon⟩
  by_cases writer : ∃ id client, phase id = .wrote client
  · obtain ⟨id, client, wrote⟩ := writer
    have within : phase id ≠ .outside := by simp [wrote]
    obtain ⟨next, out, stepped, ordinary⟩ := @step_goes poolSize externals state id choice (inside id within)
      fun c onward member => inside_goes (placed id) (follows _ member) within rfl (.inl ⟨client, wrote⟩)
    exact ⟨id, choice, next, out, rfl, stepped, ordinary⟩
  · have unlocked := unlocked_of_phases kept placed fun id client wrote => writer ⟨id, client, wrote⟩
    have goes (id : Nat) (within : phase id ≠ .outside) : ∃ next out,
        (store externals poolSize).step state (.advance id choice) = some (next, out) ∧ Ordinary out :=
      step_goes (inside id within) fun c onward member =>
        inside_goes (placed id) (follows _ member) within rfl (.inr unlocked)
    by_cases someone : ∃ id, phase id ≠ .outside
    · obtain ⟨id, within⟩ := someone
      obtain ⟨next, out, stepped, ordinary⟩ := goes id within
      exact ⟨id, choice, next, out, rfl, stepped, ordinary⟩
    · have outside : ∀ id, phase id = .outside := fun id => by
        by_contra within
        exact someone ⟨id, within⟩
      obtain ⟨call, waiting⟩ := List.exists_mem_of_ne_nil _ busy
      have steps := @step_goes poolSize externals state call.id choice ⟨call, waiting, rfl⟩ fun c onward member => by
        have point := follows _ member
        rw [outside] at point
        cases c with
        | enter client =>
          obtain ⟨number, queue, free⟩ := enter_free nonempty kept fun id => outside id ▸ placed id
          exact ⟨_, _, _, execute_enter_free free, List.not_mem_nil⟩
        | adjustGauge client tenant change => exact ⟨_, _, _, rfl, List.not_mem_nil⟩
        | execute client sql => cases sql <;> cases point
        | commit | rollback | leave => cases point
      obtain ⟨next, out, stepped, ordinary⟩ := steps
      exact ⟨call.id, choice, next, out, rfl, stepped, ordinary⟩

end

/-! ## Every call comes to its answer -/

theorem brief_tenantScoped {client : Nat} {tenant : String} {body : SQL}
    {rest : Option (List ApprovalRecord) → StoreProgram (Except StoreError Answer)} (raised : Brief 0 (rest none))
    (onward : ∀ rows, Brief 1 (rest (some rows))) : Brief 6 ((tenantScoped client tenant body).bind rest) := by
  have counts (c : Command) {count : Nat} {next : Reply c → StoreProgram (Except StoreError Answer)}
      (each : ∀ reply, Brief count (next reply)) : Brief (count + 1) (.command c next) :=
    ⟨trivial, Nat.le_add_left 1 count, each⟩
  have leaving {count : Nat} : Brief (count + 1) (.command (.leave client) fun _ => rest none) :=
    counts _ fun _ => raised.mono (Nat.zero_le count)
  have abandoning : Brief 2 ((abandon client).bind rest) := counts _ fun _ => leaving
  refine counts _ fun _ => counts _ fun reply => ?_
  cases reply with
  | none => exact leaving
  | some _ =>
    refine counts _ fun reply => ?_
    cases reply with
    | none => exact abandoning.mono (by omega)
    | some rows =>
      refine counts _ fun answered => ?_
      cases answered with
      | true => exact counts _ fun _ => onward rows
      | false => exact abandoning

theorem brief_program (externals : Externals) (call : StoreCall) : Brief 6 (program externals call) := by
  obtain ⟨client, operation⟩ := call
  cases operation with
  | createPending requestId requester query tenant uuid4 now =>
    exact brief_tenantScoped trivial fun _ => ⟨trivial, Nat.le_refl 1, fun _ => trivial⟩
  | decide approvalId decision reviewer reason tenant now =>
    refine brief_tenantScoped trivial fun rows => ?_
    cases rows with
    | nil => trivial
    | cons row rows => exact ⟨trivial, Nat.le_refl 1, fun _ => trivial⟩
  | get approvalId tenant => exact brief_tenantScoped trivial fun _ => trivial
  | listPending tenant => exact brief_tenantScoped trivial fun _ => trivial

theorem Staged.drained {poolSize : Nat → Nat}
    {state : Interleaving.State Database Command Reply (Except StoreError Answer)} (staged : Staged poolSize state)
    (idle : state.calls = []) (client : Nat) :
    (state.backend.pools client).inUse = none ∧ (state.backend.pools client).queue.length = poolSize client ∧
      ∀ number, state.backend.server.session (client, number) = .idle := by
  obtain ⟨kept, -, phase, -, placed, inside⟩ := staged
  have unheld (id : Nat) : state.backend.held id client = none := by
    have outside : phase id = .outside := by
      by_contra within
      obtain ⟨call, waiting, -⟩ := inside id within
      rw [idle] at waiting
      cases waiting
    have own := placed id
    rw [outside] at own
    exact own client
  have free : (state.backend.pools client).inUse = none := by
    cases used : (state.backend.pools client).inUse with
    | none => rfl
    | some holder =>
      have own := unheld holder.1
      simp [Database.held, used] at own
  have conserved := kept.conserved client
  rw [free, Option.toList_none, List.length_nil, Nat.zero_add] at conserved
  exact ⟨free, conserved, fun number => free_idle kept free⟩

/-- From any point of a run, the calls in flight can all be answered, which gives every connection back idle; and no
    order of their steps is longer than seven steps each. -/
theorem run_drains {externals : Externals} {poolSize : Nat → Nat} {events : List (Event StoreCall Choice)}
    {final : Interleaving.State Database Command Reply (Except StoreError Answer)} {log : List StoreObservation}
    (nonempty : ∀ client, 1 ≤ poolSize client) (ran : (store externals poolSize).run events = some (final, log))
    (ordinary : Ordinary log) :
    (∃ more last rest, Advances (fun choice => choice.outcome = .answered) more ∧
      (store externals poolSize).runFrom final more = some (last, rest) ∧ last.calls = [] ∧
      ∀ client, (last.backend.pools client).inUse = none ∧ (last.backend.pools client).queue.length = poolSize client ∧
        ∀ number, last.backend.server.session (client, number) = .idle) ∧
    ∀ more last rest, Advances (fun _ => True) more →
      (store externals poolSize).runFrom final more = some (last, rest) → more.length ≤ 7 * final.calls.length := by
  have staged : Staged poolSize final := by
    refine Machine.run_invariant (fun state log => Ordinary log → Staged poolSize state)
      (fun _ => initial_staged externals poolSize) ?_ ran ordinary
    intro state log event next out holds stepped ordinary
    have earlier : Ordinary log := ⟨fun id member => ordinary.covered id (List.mem_append_left _ member),
      fun id call member => ordinary.storable id call (List.mem_append_left _ member)⟩
    have own : Ordinary out := ⟨fun id member => ordinary.covered id (List.mem_append_right _ member),
      fun id call member => ordinary.storable id call (List.mem_append_right _ member)⟩
    exact step_staged (holds earlier) stepped own
  have affords : Affords final.calls (7 * final.calls.length) := run_affords (brief_program externals) ran
  constructor
  · have progress (state : Interleaving.State Database Command Reply (Except StoreError Answer)) (staged : Staged poolSize state)
        (busy : state.calls ≠ []) : ∃ id choice next out, choice.outcome = .answered ∧
          (store externals poolSize).step state (.advance id choice) = some (next, out) ∧ Staged poolSize next := by
      obtain ⟨id, choice, next, out, answered, stepped, own⟩ := @staged_goes poolSize externals state nonempty staged busy
      exact ⟨id, choice, next, out, answered, stepped, step_staged staged stepped own⟩
    obtain ⟨more, last, rest, advances, continued, drained, kept⟩ :=
      exists_drained (fun choice : Choice => choice.outcome = .answered) (Staged poolSize) progress staged affords
    exact ⟨more, last, rest, advances, continued, drained, kept.drained drained⟩
  · intro more last rest advances continued
    exact runFrom_bounded affords advances continued

/-- One call waits for the lock while another has registered a request and not committed, and a third of another client
    waits for its row. -/
def crowdedStore : List (Event StoreCall Choice) :=
  [.invoke 0 ⟨0, .createPending "r-1" "alice" "refund" "payments" firstUuid noon⟩, .invoke 1 ⟨0, .listPending "cards"⟩,
    .invoke 2 ⟨1, .createPending "r-2" "bob" "refund" "payments" firstUuid noon⟩] ++
    [0, 0, 0, 2, 2].map fun id => .advance id ⟨.answered, noon⟩

theorem crowdedStore_drains : ∃ final log, (store referenceExternals fun _ => 1).run crowdedStore = some (final, log) ∧
    ((store referenceExternals fun _ => 1).step final (.advance 1 ⟨.answered, noon⟩)).isNone ∧
    ((store referenceExternals fun _ => 1).step final (.advance 2 ⟨.answered, noon⟩)).isNone ∧
    ∃ more last rest, Advances (fun choice => choice.outcome = .answered) more ∧
      (store referenceExternals fun _ => 1).runFrom final more = some (last, rest) ∧ last.calls = [] := by
  obtain ⟨⟨final, log⟩, ran, seen⟩ := (Option.any_eq_true _ _).mp
    (show ((store referenceExternals fun _ => 1).run crowdedStore).any (fun (final, log) =>
      ((store referenceExternals fun _ => 1).step final (.advance 1 ⟨.answered, noon⟩)).isNone ∧
        ((store referenceExternals fun _ => 1).step final (.advance 2 ⟨.answered, noon⟩)).isNone ∧
        log.all usual) = true by decide)
  obtain ⟨first, second, each⟩ := of_decide_eq_true seen
  obtain ⟨⟨more, last, rest, answered, continued, drained, -⟩, -⟩ :=
    run_drains (fun _ => Nat.le_refl 1) ran (ordinary_of_usual each)
  exact ⟨final, log, ran, first, second, more, last, rest, answered, continued, drained⟩

end AgentPlatform.State.Postgres
