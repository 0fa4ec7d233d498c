import AgentPlatform.State.PostgresSessions
import AgentPlatform.State.SQLiteIsolation

/-! # Tenants of the PostgreSQL store

The policy shows a transaction the rows of its setting only. Without the calls for other tenants a call may
run on another connection, but on one in the same session, and it sees the same rows. -/

namespace AgentPlatform.State.Postgres

open Interleaving Python RowSecurity

/-! ## What every step keeps -/

/-- No connection is lost or made, and open transactions write different rows. -/
structure Sound (poolSize : Nat → Nat) (database : Database) : Prop where
  coherent : database.server.Coherent ApprovalRecord.tenant
  pooled : ∀ client number, database.server.session (client, number) ≠ .idle →
    number ∈ (database.pools client).queue ∨ ∃ id, (database.pools client).inUse = some (id, number)
  sized : ∀ client, (database.pools client).inUse.toList.length + (database.pools client).queue.length =
    poolSize client

section

variable {poolSize : Nat → Nat} {database after : Database} {id client : Nat} {connection : Nat × Nat}
  {choice : Choice}

theorem Sound.server {server : ApprovalServer} (sound : Sound poolSize database)
    (held : database.held id client = some connection) (coherent : server.Coherent ApprovalRecord.tenant)
    (others : ∀ other, other ≠ connection → server.session other = database.server.session other) :
    Sound poolSize { database with server := server } := by
  refine ⟨coherent, fun other number busy => ?_, sound.sized⟩
  by_cases own : (other, number) = connection
  · obtain ⟨rfl, used⟩ := held_eq_some.mp held
    obtain ⟨rfl, rfl⟩ := Prod.mk.inj own
    exact .inr ⟨id, used⟩
  · rw [others _ own] at busy
    exact sound.pooled other number busy

theorem Sound.setPool {pool : Pool} (sound : Sound poolSize database)
    (sized : pool.inUse.toList.length + pool.queue.length =
      (database.pools client).inUse.toList.length + (database.pools client).queue.length)
    (pooled : ∀ number, (number ∈ (database.pools client).queue ∨
        ∃ id, (database.pools client).inUse = some (id, number)) →
      number ∈ pool.queue ∨ ∃ id, pool.inUse = some (id, number)) :
    Sound poolSize (database.setPool client pool) := by
  refine ⟨sound.coherent, fun other number busy => ?_, fun other => ?_⟩
  · by_cases same : other = client
    · subst same
      simp only [Database.setPool, Function.update_self]
      exact pooled number (sound.pooled other number busy)
    · simp only [Database.setPool, Function.update_of_ne same]
      exact sound.pooled other number busy
  · by_cases same : other = client
    · subst same
      simp only [Database.setPool, Function.update_self]
      exact sized.trans (sound.sized other)
    · simp only [Database.setPool, Function.update_of_ne same]
      exact sound.sized other

theorem execute_sound {c : Command} {reply : Reply c} {out : List Effect} (sound : Sound poolSize database)
    (ran : execute id database choice c = some (after, reply, out)) : Sound poolSize after := by
  cases c with
  | enter client =>
    obtain ⟨number, queue, free, rfl, -⟩ := execute_enter ran
    refine sound.setPool (by simp [free, Nat.add_comm]) fun other => ?_
    rw [free]
    rintro (queued | ⟨_, used⟩)
    · rcases List.mem_cons.mp queued with rfl | queued
      · exact .inr ⟨id, rfl⟩
      · exact .inl queued
    · cases used
  | execute client sql =>
    obtain ⟨connection, held, ran⟩ := Option.bind_eq_some_iff.mp ran
    have coherent := executeSQL_coherent sound.coherent ran
    rcases executeSQL_cases ran with ⟨-, -, ⟨server, rfl, -, others, -⟩, -⟩ | ⟨_, _, closed, _, -, -, -, -, rfl, -⟩
    · exact sound.server held coherent others
    · exact sound.server held coherent fun other apart => by rw [session_put, if_neg apart]
  | commit client =>
    obtain ⟨connection, held, rfl, -, -⟩ := execute_commit ran
    exact sound.server held sound.coherent.commit fun other apart => commit_session apart
  | rollback client =>
    obtain ⟨connection, held, rfl, -, -⟩ := execute_rollback ran
    exact sound.server held sound.coherent.rollback fun other apart => rollback_session apart
  | leave client =>
    obtain ⟨connection, held, rfl, -⟩ := execute_leave ran
    obtain ⟨rfl, used⟩ := held_eq_some.mp held
    refine sound.setPool (by simp [used, Nat.add_comm]) fun number => ?_
    rw [used]
    rintro (queued | ⟨other, same⟩)
    · exact .inl (List.mem_append_left _ queued)
    · cases same
      exact .inl (by simp)
  | adjustGauge client tenant change =>
    cases ran
    exact ⟨sound.coherent, sound.pooled, sound.sized⟩

theorem run_sound {externals : Externals} {events : List (Event StoreCall Choice)}
    {final : Interleaving.State Database Command Reply (Except StoreError Answer)} {log : List StoreObservation}
    (ran : (store externals poolSize).run events = some (final, log)) : Sound poolSize final.backend := by
  refine Machine.run_invariant (fun state _ => Sound poolSize state.backend) ?_ ?_ ran
  · refine ⟨⟨fun _ _ _ write member => ?_, fun _ write member => ?_⟩, fun _ _ busy => absurd rfl busy, fun client => ?_⟩
    · cases member
    · cases member
    · exact (Nat.zero_add _).trans List.length_range
  · rintro state log event next out sound stepped
    rcases machine_step_cases stepped with ⟨_, _, -, rfl, -⟩ | ⟨_, _, -, rfl, -⟩ |
      ⟨_, c, _, choice, after, reply, effects, -, ran, rfl, -⟩
    · exact sound
    · exact sound
    · exact execute_sound sound ran

end

/-! ## Two runs -/

/-- A transaction under a setting of the given kind, which has written rows of such tenants. -/
def Concerns (tenants : String → Prop) (session : Session String ApprovalRecord String Datetime) : Prop :=
  ∀ transaction, session = .active transaction → (∀ owner, transaction.setting = some owner → tenants owner) ∧
    ∀ write ∈ transaction.writes, tenants write.2.tenant

def ownedBy (tenant : String) (row : ApprovalRecord) : Bool := row.tenant = tenant

/-- A database and the one that the kept calls alone would have left. -/
structure Separated (tenant : String) (kept : Nat → Bool) (full reduced : Database) : Prop where
  rows : Table.Within (ownedBy tenant) reduced.server.committed full.server.committed
  free : ∀ client, (full.pools client).inUse = none → (reduced.pools client).inUse = none
  own : ∀ id client connection, kept id = true → full.held id client = some connection →
    Concerns (· = tenant) (full.server.session connection) ∧ ∃ connection', reduced.held id client = some connection' ∧
      reduced.server.session connection' = full.server.session connection
  foreign : ∀ id client connection, kept id = false → full.held id client = some connection →
    Concerns (· ≠ tenant) (full.server.session connection) ∧ (reduced.pools client).inUse = none

def tenantView (poolSize : Nat → Nat) (tenant : String) (kept : Nat → Bool) : View Database Effect where
  Alike := Separated tenant kept
  Known database := Clean database ∧ Sound poolSize database
  Allowed _ effect := effect ≠ .failed ∧ effect ≠ .uncovered

def Command.setting : Command → Option String
  | .execute _ (.setConfig tenant) => some tenant
  | _ => none

def Command.Sets (tenants : String → Prop) (c : Command) : Prop := ∀ tenant, c.setting = some tenant → tenants tenant

section

variable {poolSize : Nat → Nat} {tenant : String} {kept : Nat → Bool} {full reduced database after : Database}
  {id client : Nat} {connection : Nat × Nat} {choice : Choice} {sql : SQL}
  {reply : Option (List ApprovalRecord)} {out : List Effect}

theorem Concerns.idle (tenants : String → Prop) : Concerns tenants .idle := by rintro _ ⟨⟩

theorem Concerns.aborted (tenants : String → Prop) : Concerns tenants .aborted := by rintro _ ⟨⟩

theorem Concerns.of_begin {tenants : String → Prop} {session : Session String ApprovalRecord String Datetime}
    {now : Datetime} {transaction : ApprovalTransaction} (concerns : Concerns tenants session)
    (began : session.begin now = some transaction) : Concerns tenants (.active transaction) := by
  cases session with
  | idle =>
    cases began
    rintro _ ⟨⟩
    exact ⟨by simp, by simp⟩
  | active =>
    cases began
    exact concerns
  | aborted => cases began

theorem Concerns.performed {tenants : String → Prop} {server : ApprovalServer} {before closed : ApprovalTransaction}
    {statement : Statement String ApprovalRecord String Datetime} {rows : List ApprovalRecord}
    (concerns : Concerns tenants (.active before))
    (sets : ∀ setting, statement = .configure setting → tenants setting)
    (performed : server.perform ApprovalRecord.tenant connection before statement = .ran closed rows) :
    Concerns tenants (.active closed) := by
  obtain ⟨earlier, written⟩ := concerns before rfl
  obtain ⟨-, set, shown, wrote⟩ := perform_ran performed
  have settings (owner : String) (same : closed.setting = some owner) : tenants owner := by
    rcases set with ⟨setting, configured, now⟩ | unchanged
    · cases now.symm.trans same
      exact sets owner configured
    · exact earlier owner (unchanged ▸ same)
  rintro _ ⟨⟩
  refine ⟨settings, fun write member => ?_⟩
  rcases wrote with same | ⟨key, row, rfl, same, -⟩
  · exact written write (same ▸ member)
  · rw [same] at member
    rcases List.mem_append.mp member with member | member
    · exact written write member
    · rw [List.mem_singleton.mp member]
      exact settings row.tenant (shown row (by simp))

theorem Concerns.executeSQL {tenants : String → Prop}
    (concerns : Concerns tenants (database.server.session connection))
    (sets : ∀ setting, sql = .setConfig setting → tenants setting)
    (ran : executeSQL database connection choice sql = some (after, reply, out)) :
    Concerns tenants (after.server.session connection) := by
  rcases executeSQL_cases ran with ⟨-, -, ⟨server, rfl, -, -, unchanged | aborted⟩, -⟩ |
    ⟨statement, opened, closed, _, -, stated, began, performed, rfl, -⟩
  · change Concerns tenants (server.session connection)
    rwa [unchanged]
  · change Concerns tenants (server.session connection)
    rw [aborted]
    exact .aborted tenants
  · rw [session_put, if_pos rfl]
    refine (concerns.of_begin began).performed (fun setting same => sets setting ?_) performed
    exact SQL.of_configure (same ▸ stated)

/-! ## Calls for other tenants -/

theorem Separated.foreignServer {server : ApprovalServer} (separated : Separated tenant kept full reduced)
    (dropped : kept id = false) (held : full.held id client = some connection)
    (rows : Table.Within (ownedBy tenant) reduced.server.committed server.committed)
    (others : ∀ other, other ≠ connection → server.session other = full.server.session other)
    (concerns : Concerns (· ≠ tenant) (server.session connection)) :
    Separated tenant kept { full with server := server } reduced := by
  refine ⟨rows, separated.free, fun holder client' other keep held' => ?_, fun holder client' other drop held' => ?_⟩
  · have apart : other ≠ connection := by
      rintro rfl
      cases held_unique held' held
      exact absurd keep (by simp [dropped])
    rw [others other apart]
    exact separated.own holder client' other keep held'
  · refine ⟨?_, (separated.foreign holder client' other drop held').2⟩
    by_cases same : other = connection
    · rwa [same]
    · rw [others other same]
      exact (separated.foreign holder client' other drop held').1

theorem Separated.foreignPool {pool : Pool} (separated : Separated tenant kept full reduced)
    (free : (reduced.pools client).inUse = none)
    (idle : ∀ holder number, pool.inUse = some (holder, number) → kept holder = false ∧
      full.server.session (client, number) = .idle) :
    Separated tenant kept (full.setPool client pool) reduced := by
  have used {holder client' : Nat} {other : Nat × Nat} (held : (full.setPool client pool).held holder client' = some other) :
      client' = client ∧ kept holder = false ∧ full.server.session other = .idle ∨
        client' ≠ client ∧ full.held holder client' = some other := by
    by_cases same : client' = client
    · subst same
      obtain ⟨rfl, taken⟩ := held_eq_some.mp held
      simp only [Database.setPool, Function.update_self] at taken
      exact .inl ⟨rfl, idle holder other.2 taken⟩
    · exact .inr ⟨same, held_setPool same ▸ held⟩
  refine ⟨separated.rows, fun other empty => ?_, fun holder client' other keep held => ?_,
    fun holder client' other drop held => ?_⟩
  · by_cases same : other = client
    · rw [same]
      exact free
    · simp only [Database.setPool, Function.update_of_ne same] at empty
      exact separated.free other empty
  · rcases used held with ⟨-, dropped, -⟩ | ⟨-, held⟩
    · exact absurd keep (by simp [dropped])
    · exact separated.own holder client' other keep held
  · rcases used held with ⟨rfl, -, idle⟩ | ⟨-, held⟩
    · refine ⟨?_, free⟩
      change Concerns _ (full.server.session other)
      rw [idle]
      exact .idle _
    · exact separated.foreign holder client' other drop held

theorem hidden_command {c : Command} {reply : Reply c} {out : List Effect} (dropped : kept id = false)
    (sets : c.Sets (· ≠ tenant)) (known : Clean full ∧ Sound poolSize full)
    (separated : Separated tenant kept full reduced)
    (ran : execute id full choice c = some (after, reply, out)) : Separated tenant kept after reduced := by
  cases c with
  | enter client =>
    obtain ⟨number, queue, free, rfl, -⟩ := execute_enter ran
    refine separated.foreignPool (separated.free client (by rw [free])) ?_
    rintro _ _ ⟨⟩
    exact ⟨dropped, known.1.idle client number (by simp [free])⟩
  | execute client sql =>
    obtain ⟨connection, held, ran⟩ := Option.bind_eq_some_iff.mp ran
    have concerns := (separated.foreign id client connection dropped held).1.executeSQL
      (fun setting same => sets setting (by rw [same]; rfl)) ran
    rcases executeSQL_cases ran with ⟨-, -, ⟨server, rfl, committed, others, -⟩, -⟩ |
      ⟨_, _, closed, _, -, -, -, -, rfl, -⟩
    · exact separated.foreignServer dropped held (by rw [committed]; exact separated.rows) others concerns
    · exact separated.foreignServer dropped held separated.rows
        (fun other apart => by rw [session_put, if_neg apart]) concerns
  | commit client =>
    obtain ⟨connection, held, rfl, -, -⟩ := execute_commit ran
    have concerns := (separated.foreign id client connection dropped held).1
    refine separated.foreignServer dropped held ?_ (fun other apart => commit_session apart) ?_
    · rcases commit_cases full.server connection choice.outcome with same | same | ⟨transaction, active, same⟩
      · rw [same]
        exact separated.rows
      · rw [same]
        exact separated.rows
      · rw [same]
        have foreign (write : String × ApprovalRecord) (member : write ∈ transaction.writes) :
            ownedBy tenant write.2 = false := by
          simpa [ownedBy] using (concerns transaction active).2 write member
        refine separated.rows.overlay_dropped foreign fun write member old found => ?_
        have settled := known.2.coherent.settled connection write (by rw [active]; exact member) old found
        simpa [ownedBy, settled] using foreign write member
    · rcases commit_cases full.server connection choice.outcome with same | same | ⟨transaction, active, same⟩
      · rwa [same]
      · rw [same, session_put, if_pos rfl]
        exact .idle _
      · rw [same]
        change Concerns _ ((full.server.put connection .idle).session connection)
        rw [session_put, if_pos rfl]
        exact .idle _
  | rollback client =>
    obtain ⟨connection, held, rfl, -, -⟩ := execute_rollback ran
    have concerns := (separated.foreign id client connection dropped held).1
    refine separated.foreignServer dropped held ?_ (fun other apart => rollback_session apart) ?_
    · cases choice.outcome <;> exact separated.rows
    · cases choice.outcome with
      | answered | lost =>
        simp only [Server.rollback, session_put, if_true]
        exact .idle _
      | unsent | failed => exact concerns
  | leave client =>
    obtain ⟨connection, held, rfl, -⟩ := execute_leave ran
    exact separated.foreignPool (separated.foreign id client connection dropped held).2 (by simp)
  | adjustGauge client tenant change =>
    cases ran
    exact ⟨separated.rows, separated.free, separated.own, separated.foreign⟩

/-! ## Calls for the tenant -/

theorem Separated.ownServer {server server' : ApprovalServer} {connection' : Nat × Nat}
    (separated : Separated tenant kept full reduced) (keep : kept id = true)
    (held : full.held id client = some connection) (held' : reduced.held id client = some connection')
    (rows : Table.Within (ownedBy tenant) server'.committed server.committed)
    (others : ∀ other, other ≠ connection → server.session other = full.server.session other)
    (others' : ∀ other, other ≠ connection' → server'.session other = reduced.server.session other)
    (concerns : Concerns (· = tenant) (server.session connection))
    (same : server'.session connection' = server.session connection) :
    Separated tenant kept { full with server := server } { reduced with server := server' } := by
  refine ⟨rows, separated.free, fun holder client' other keep' taken => ?_, fun holder client' other drop taken => ?_⟩
  · by_cases own : other = connection
    · subst own
      obtain rfl := held_unique taken held
      obtain ⟨rfl, -⟩ := held_eq_some.mp taken
      obtain ⟨rfl, -⟩ := held_eq_some.mp held
      exact ⟨concerns, connection', held', same⟩
    · obtain ⟨concerns', other', taken', same'⟩ := separated.own holder client' other keep' taken
      refine ⟨by rwa [others other own], other', taken', ?_⟩
      rw [others other own, others' other', same']
      rintro rfl
      obtain rfl := held_unique taken' held'
      obtain ⟨rfl, -⟩ := held_eq_some.mp taken'
      obtain ⟨rfl, -⟩ := held_eq_some.mp held'
      exact own (Option.some.inj (taken.symm.trans held))
  · obtain ⟨concerns', free⟩ := separated.foreign holder client' other drop taken
    refine ⟨?_, free⟩
    rw [others other]
    · exact concerns'
    · rintro rfl
      cases held_unique taken held
      exact absurd keep (by simp [drop])

theorem Separated.locked {connection' : Nat × Nat} (separated : Separated tenant kept full reduced)
    (known : Clean reduced ∧ Sound poolSize reduced) (held : full.held id client = some connection)
    (held' : reduced.held id client = some connection') {key : String}
    (locked : reduced.server.locked connection' key = true) : full.server.locked connection key = true := by
  obtain ⟨other, apart, write, written, rfl⟩ := locked_iff.mp locked
  have busy : reduced.server.session other ≠ .idle := by
    intro idle
    rw [idle] at written
    cases written
  rcases known.2.pooled other.1 other.2 busy with queued | ⟨holder, used⟩
  · exact absurd (known.1.idle other.1 other.2 queued) busy
  · cases taken : (full.pools other.1).inUse with
    | none =>
      rw [separated.free other.1 taken] at used
      cases used
    | some taker =>
      have holds : full.held taker.1 other.1 = some (other.1, taker.2) := held_eq_some.mpr ⟨rfl, taken⟩
      cases keep : kept taker.1 with
      | false =>
        rw [(separated.foreign _ _ _ keep holds).2] at used
        cases used
      | true =>
        obtain ⟨-, other', holds', same⟩ := separated.own _ _ _ keep holds
        obtain ⟨first, used'⟩ := held_eq_some.mp holds'
        rw [used] at used'
        obtain rfl : other' = other := Prod.ext first (Prod.mk.inj (Option.some.inj used')).2.symm
        refine locked_iff.mpr ⟨(other'.1, taker.2), ?_, write, same ▸ written, rfl⟩
        rintro rfl
        obtain ⟨-, mine⟩ := held_eq_some.mp held
        obtain ⟨same', mine'⟩ := held_eq_some.mp held'
        obtain ⟨rfl, -⟩ := held_eq_some.mp held
        rw [used] at mine'
        exact apart (Prod.ext same'.symm (Prod.mk.inj (Option.some.inj mine')).2)

theorem executeSQL_allowed (ran : executeSQL database connection choice sql = some (after, reply, out))
    (allowed : ∀ effect ∈ out, effect ≠ .failed ∧ effect ≠ .uncovered) :
    (¬ choice.outcome = .unsent ∧ (if sql.storable then sql.statement else none) = none ∧
      after = { database with server := database.server.refuse connection } ∧ reply = none ∧
      out = .rejected :: sql.exposed choice.outcome ++ blockedBy database connection choice) ∨
    ∃ statement opened closed rows, (if sql.storable then sql.statement else none) = some statement ∧
      (database.server.session connection).begin choice.now = some opened ∧
      database.server.perform ApprovalRecord.tenant connection opened statement = .ran closed rows ∧
      after = { database with server := database.server.put connection (.active closed) } ∧
      choice.outcome = .answered ∧ reply = some (sql.arrange rows) ∧ out = sql.effects closed.setting rows := by
  rcases executeSQL_cases ran with ⟨rfl, -, -, -, reports, -⟩ |
    ⟨statement, opened, closed, rows, storable, stated, began, performed, same, answer⟩
  · have refused : .rejected ∈ out := reports.resolve_left fun failed => absurd rfl (allowed _ failed).1
    simp only [executeSQL] at ran
    split at ran
    · rename_i none'
      split at ran
      · cases ran
        exact absurd rfl (allowed .failed (by simp)).1
      · rename_i sent
        cases ran
        exact .inl ⟨sent, none', rfl, rfl, rfl⟩
    · obtain ⟨executed, -, answered⟩ := Option.map_eq_some_iff.mp ran
      cases reply' : executed.reply with
      | none =>
        simp only [reply', Option.isNone_none, if_true] at answered
        cases answered
        exact absurd rfl (allowed .failed (by simp)).1
      | some rows =>
        rw [reply'] at answered
        cases answered
  · refine .inr ⟨statement, opened, closed, rows, by rw [if_pos storable, stated], began, performed, same, ?_⟩
    rcases answer with answer | ⟨-, -, rfl⟩
    · exact answer
    · exact absurd rfl (allowed .failed (by simp)).1

theorem shown_executeSQL {connection' : Nat × Nat} (separated : Separated tenant kept full reduced)
    (keep : kept id = true) (held : full.held id client = some connection)
    (held' : reduced.held id client = some connection') (known : Clean reduced ∧ Sound poolSize reduced)
    (sets : ∀ setting, sql = .setConfig setting → setting = tenant)
    (ran : executeSQL full connection choice sql = some (after, reply, out))
    (allowed : ∀ effect ∈ out, effect ≠ .failed ∧ effect ≠ .uncovered) :
    ∃ after', executeSQL reduced connection' choice sql = some (after', reply, out) ∧
      Separated tenant kept after after' := by
  obtain ⟨concerns, other, taken, same⟩ := separated.own id client connection keep held
  obtain rfl : other = connection' := Option.some.inj (taken.symm.trans held')
  have concernsAfter := concerns.executeSQL sets ran
  rcases executeSQL_allowed ran allowed with ⟨sent, refused, rfl, rfl, rfl⟩ |
    ⟨statement, opened, closed, rows, stated, began, performed, rfl, answered, rfl, rfl⟩
  · refine ⟨{ reduced with server := reduced.server.refuse other }, ?_, ?_⟩
    · simp [executeSQL, refused, sent, blockedBy, same]
    · refine separated.ownServer keep held held' ?_ (fun _ apart => refuse_session apart)
        (fun _ apart => refuse_session apart) concernsAfter ?_
      · rw [refuse_committed, refuse_committed]
        exact separated.rows
      · rw [refuse_own, refuse_own]
  · obtain ⟨settings, written⟩ := concerns.of_begin began opened rfl
    have performed' : reduced.server.perform ApprovalRecord.tenant other opened statement = .ran closed rows := by
      refine perform_within separated.rows (fun write member => ?_) (fun row visible => ?_)
        (fun key locked => separated.locked known held held' locked) performed
      · exact decide_eq_true (written write member)
      · exact decide_eq_true (settings row.tenant (sees_iff.mp visible))
    refine ⟨_, executeSQL_ran stated (same ▸ began) performed' answered, ?_⟩
    refine separated.ownServer keep held held' separated.rows (fun _ apart => by rw [session_put, if_neg apart])
      (fun _ apart => by rw [session_put, if_neg apart]) concernsAfter ?_
    rw [session_put, session_put, if_pos rfl, if_pos rfl]

theorem Separated.ownPool {pool pool' : Pool} (separated : Separated tenant kept full reduced)
    (free : pool.inUse = none → pool'.inUse = none)
    (own : ∀ holder number, pool.inUse = some (holder, number) → kept holder = true ∧
      full.server.session (client, number) = .idle ∧
      ∃ number', pool'.inUse = some (holder, number') ∧ reduced.server.session (client, number') = .idle) :
    Separated tenant kept (full.setPool client pool) (reduced.setPool client pool') := by
  have apart {holder client' : Nat} {other : Nat × Nat} (same : client' ≠ client)
      (held : (full.setPool client pool).held holder client' = some other) : full.held holder client' = some other :=
    held_setPool same ▸ held
  refine ⟨separated.rows, fun other empty => ?_, fun holder client' other keep held => ?_,
    fun holder client' other drop held => ?_⟩
  · by_cases same : other = client
    · subst same
      simp only [Database.setPool, Function.update_self] at empty ⊢
      exact free empty
    · simp only [Database.setPool, Function.update_of_ne same] at empty ⊢
      exact separated.free other empty
  · by_cases same : client' = client
    · subst same
      obtain ⟨rfl, taken⟩ := held_eq_some.mp held
      simp only [Database.setPool, Function.update_self] at taken
      obtain ⟨-, idle, number', taken', idle'⟩ := own holder other.2 taken
      refine ⟨?_, (other.1, number'), held_eq_some.mpr ⟨rfl, ?_⟩, idle'.trans idle.symm⟩
      · change Concerns _ (full.server.session other)
        rw [idle]
        exact .idle _
      · simp only [Database.setPool, Function.update_self]
        exact taken'
    · rw [held_setPool same]
      exact separated.own holder client' other keep (apart same held)
  · by_cases same : client' = client
    · subst same
      obtain ⟨rfl, taken⟩ := held_eq_some.mp held
      simp only [Database.setPool, Function.update_self] at taken
      exact absurd (own holder other.2 taken).1 (by simp [drop])
    · obtain ⟨concerns, free'⟩ := separated.foreign holder client' other drop (apart same held)
      refine ⟨concerns, ?_⟩
      simpa only [Database.setPool, Function.update_of_ne same] using free'

theorem shown_command {c : Command} {reply : Reply c} {out : List Effect} (keep : kept id = true)
    (sets : c.Sets (· = tenant)) (known : Clean full ∧ Sound poolSize full)
    (known' : Clean reduced ∧ Sound poolSize reduced) (separated : Separated tenant kept full reduced)
    (ran : execute id full choice c = some (after, reply, out))
    (allowed : ∀ effect ∈ out, effect ≠ .failed ∧ effect ≠ .uncovered) :
    ∃ after' out', execute id reduced choice c = some (after', reply, out') ∧
      (∀ effect ∈ out', effect ≠ .failed ∧ effect ≠ .uncovered) ∧ Separated tenant kept after after' := by
  cases c with
  | enter client =>
    obtain ⟨number, queue, free, rfl, rfl⟩ := execute_enter ran
    have free' := separated.free client (by rw [free])
    have sized := known.2.sized client
    have sized' := known'.2.sized client
    rw [← sized, free', free] at sized'
    cases queued : (reduced.pools client).queue with
    | nil =>
      rw [queued] at sized'
      simp at sized'
    | cons number' queue' =>
      have pool : reduced.pools client = ⟨none, number' :: queue'⟩ := by
        rw [← free', ← queued]
      refine ⟨reduced.setPool client ⟨some (id, number'), queue'⟩, [], execute_enter_free pool, List.forall_mem_nil _,
        separated.ownPool (fun empty => absurd empty (Option.some_ne_none _)) ?_⟩
      rintro _ _ ⟨⟩
      exact ⟨keep, known.1.idle client number (by simp [free]), number', rfl,
        known'.1.idle client number' (by simp [pool])⟩
  | execute client sql =>
    obtain ⟨connection, held, ran⟩ := Option.bind_eq_some_iff.mp ran
    obtain ⟨-, connection', held', -⟩ := separated.own id client connection keep held
    obtain ⟨after', ran', separated'⟩ := shown_executeSQL separated keep held held' known'
      (fun setting same => sets setting (by rw [same]; rfl)) ran allowed
    exact ⟨after', out, (execute_sql_held held' sql).trans ran', allowed, separated'⟩
  | commit client =>
    obtain ⟨connection, held, rfl, answer, rfl⟩ := execute_commit ran
    obtain ⟨concerns, connection', held', same⟩ := separated.own id client connection keep held
    have answered : (full.server.commit connection choice.outcome).2 = true := by
      by_contra unanswered
      exact absurd rfl (allowed .failed (by simp [answer, unanswered])).1
    have answered' := (commit_reply same).trans answered
    obtain rfl : reply = true := answer.trans answered
    refine ⟨_, _, execute_commit_answered held' answered', ?_, ?_⟩
    · intro effect member
      split at member
      · obtain ⟨_, _, _, rfl⟩ := of_mem_published member
        exact ⟨by simp, by simp⟩
      · cases member
    · obtain ⟨-, ended⟩ := commit_answered answered
      obtain ⟨-, ended'⟩ := commit_answered answered'
      refine separated.ownServer keep held held' ?_ (fun _ apart => commit_session apart)
        (fun _ apart => commit_session apart) ?_ ?_
      · rcases ended with ⟨idle, unchanged⟩ | ⟨transaction, active, overlaid⟩
        · rcases ended' with ⟨-, unchanged'⟩ | ⟨_, active', -⟩
          · rw [unchanged, unchanged']
            exact separated.rows
          · rw [same, idle] at active'
            cases active'
        · rcases ended' with ⟨idle', -⟩ | ⟨transaction', active', overlaid'⟩
          · rw [same, active] at idle'
            cases idle'
          · rw [same, active] at active'
            cases active'
            rw [overlaid, overlaid']
            exact separated.rows.overlay_kept fun write member =>
              decide_eq_true ((concerns transaction active).2 write member)
      · rw [commit_idle answered]
        exact .idle _
      · rw [commit_idle answered, commit_idle answered']
  | rollback client =>
    obtain ⟨connection, held, rfl, rfl, rfl⟩ := execute_rollback ran
    obtain ⟨concerns, connection', held', same⟩ := separated.own id client connection keep held
    have answered : choice.outcome = .answered := by
      cases outcome : choice.outcome with
      | answered => rfl
      | unsent | failed | lost => exact absurd rfl (allowed .failed (by simp [Server.rollback, outcome])).1
    refine ⟨{ reduced with server := reduced.server.put connection' .idle }, [], ?_, List.forall_mem_nil _, ?_⟩
    · rw [execute_rollback_held held', executeRollback, answered]
      rfl
    · rw [answered]
      refine separated.ownServer keep held held' separated.rows (fun _ apart => ?_) (fun _ apart => ?_) ?_ ?_
      · exact (session_put _ _ _ _).trans (if_neg apart)
      · rw [session_put, if_neg apart]
      · simp only [Server.rollback, session_put, if_true]
        exact .idle _
      · simp only [Server.rollback, session_put, if_true]
  | leave client =>
    obtain ⟨connection, held, rfl, rfl⟩ := execute_leave ran
    obtain ⟨concerns, connection', held', -⟩ := separated.own id client connection keep held
    exact ⟨_, [], execute_leave_held held', List.forall_mem_nil _,
      separated.ownPool (fun _ => rfl) fun _ _ used => absurd used.symm (Option.some_ne_none _)⟩
  | adjustGauge client tenant change =>
    cases ran
    exact ⟨_, [], rfl, List.forall_mem_nil _, separated.rows, separated.free, separated.own, separated.foreign⟩

end

/-! ## Runs -/

theorem Command.Sets.none {tenants : String → Prop} {c : Command} (unset : c.setting = none) : c.Sets tenants := by
  intro tenant same
  rw [unset] at same
  cases same

theorem tenantScoped_issues {tenants : String → Prop} {client : Nat} {tenant : String} {body : SQL}
    (own : tenants tenant) (data : (Command.execute client body).setting = none) :
    Issues (Command.Sets tenants) (tenantScoped client tenant body) := by
  have left (answer : Option (List ApprovalRecord)) :
      Issues (Command.Sets tenants) (.command (.leave client) fun _ => .done answer : StoreProgram _) := ⟨.none rfl, fun _ => trivial⟩
  have abandoned : Issues (Command.Sets tenants) (abandon client) := ⟨.none rfl, fun _ => left none⟩
  refine ⟨.none rfl, fun _ => ⟨fun setting same => ?_, fun reply => ?_⟩⟩
  · cases same
    exact own
  · rcases reply with _ | _
    · exact left none
    · refine ⟨.none data, fun reply => ?_⟩
      rcases reply with _ | rows
      · exact abandoned
      · refine ⟨.none rfl, fun reply => ?_⟩
        rcases reply with _ | _
        · exact abandoned
        · exact left (some rows)

theorem program_issues (externals : Externals) (call : StoreCall) (tenants : String → Prop)
    (own : tenants call.operation.tenant) : Issues (Command.Sets tenants) (program externals call) := by
  obtain ⟨client, operation⟩ := call
  cases operation with
  | createPending requestId requester query tenant uuid4 now =>
    refine Issues.bind (tenantScoped_issues own rfl) fun rows => ?_
    rcases rows with _ | rows
    · trivial
    · exact ⟨.none rfl, fun _ => trivial⟩
  | decide approvalId decision reviewer reason tenant now =>
    refine Issues.bind (tenantScoped_issues own rfl) fun rows => ?_
    rcases rows with _ | _ | ⟨row, rows⟩
    · trivial
    · trivial
    · exact ⟨.none rfl, fun _ => trivial⟩
  | get approvalId tenant =>
    refine Issues.bind (tenantScoped_issues own rfl) fun rows => ?_
    rcases rows with _ | rows <;> trivial
  | listPending tenant =>
    refine Issues.bind (tenantScoped_issues own rfl) fun rows => ?_
    rcases rows with _ | rows <;> trivial

/-- Without the calls for other tenants, a tenant gets the same answers. -/
theorem run_isolated {externals : Externals} {poolSize : Nat → Nat} (tenant : String)
    {events : List (Event StoreCall Choice)}
    {final : Interleaving.State Database Command Reply (Except StoreError Answer)} {log : List StoreObservation}
    (ran : (store externals poolSize).run events = some (final, log))
    (succeeds : ∀ id, .did id .failed ∉ log ∧ .did id .uncovered ∉ log) :
    let own := keptCalls (StoreCall.isFor tenant) events
    ∃ final' log', (store externals poolSize).run (restrict own events) = some (final', log') ∧
      answers own log = answers own log' := by
  refine run_keptCalls (tenantView poolSize tenant (keptCalls (StoreCall.isFor tenant) events)) ?_ ?_ ?_ ?_ ran ?_
  · exact ⟨Table.Within.empty _, fun _ _ => rfl, fun _ _ _ _ held => absurd held (by simp [backend, Database.held]),
      fun _ _ _ _ held => absurd held (by simp [backend, Database.held])⟩
  · intro events final log ran allowed
    exact ⟨(run_clean ran fun id seen => (allowed id _ seen).2 rfl).1, run_sound ran⟩
  · intro id call keep mine
    refine (program_issues externals call (· = tenant) (of_decide_eq_true mine)).shown
      fun c sets full reduced choice after reply out known _ known' alike ran allowed => ?_
    obtain ⟨after', out', ran', allowed', alike'⟩ := shown_command keep sets known known' alike ran allowed
    exact ⟨after', out', ran', allowed', fun _ => alike'⟩
  · intro id call dropped other
    exact (program_issues externals call (· ≠ tenant) (of_decide_eq_false other)).hidden
      fun c sets full reduced choice after reply out known _ _ alike ran _ => hidden_command dropped sets known alike ran
  · rintro id effect seen
    exact ⟨fun same => (succeeds id).1 (same ▸ seen), fun same => (succeeds id).2 (same ▸ seen)⟩

/-- A tenant tries to decide and to read the approval of another one. -/
def guessedIdentifier : List (Event StoreCall Choice) :=
  serve 0 (.createPending "r-1" "alice" "refund" "payments" firstUuid noon) (List.replicate 7 .answered) ++
    serve 1 (.decide firstUuid.text .rejected "mallory" "no" "cards" noon) (List.replicate 6 .answered) ++
    serve 2 (.get firstUuid.text "cards") (List.replicate 6 .answered) ++
    serve 3 (.listPending "payments") (List.replicate 6 .answered)

end AgentPlatform.State.Postgres

namespace AgentPlatform.State

open Interleaving

def SQLite.guessedIdentifier : List (Event StoreCall SQLite.Outcome) :=
  .invoke 0 ⟨0, .createPending "r-1" "alice" "refund" "payments" firstUuid noon⟩ ::
      List.replicate 4 (.advance 0 .answered) ++
    .invoke 1 ⟨0, .decide firstUuid.text .rejected "mallory" "no" "cards" noon⟩ ::
      List.replicate 2 (.advance 1 .answered) ++
    .invoke 2 ⟨0, .get firstUuid.text "cards"⟩ :: List.replicate 2 (.advance 2 .answered) ++
    .invoke 3 ⟨0, .listPending "payments"⟩ :: List.replicate 2 (.advance 3 .answered)

/-- In both stores a tenant gets the answers that it gets without the calls for other tenants. -/
theorem tenants_isolated (externals : Externals) (poolSize : Nat → Nat) (tenant : String) :
    (∀ events final log, (SQLite.store externals).run events = some (final, log) →
      (∀ id, .did id .failed ∉ log) →
      ∃ final' log',
        (SQLite.store externals).run (restrict (keptCalls (StoreCall.isFor tenant) events) events) =
          some (final', log') ∧
        answers (keptCalls (StoreCall.isFor tenant) events) log =
          answers (keptCalls (StoreCall.isFor tenant) events) log') ∧
    ∀ events final log, (Postgres.store externals poolSize).run events = some (final, log) →
      (∀ id, .did id .failed ∉ log ∧ .did id .uncovered ∉ log) →
      ∃ final' log',
        (Postgres.store externals poolSize).run (restrict (keptCalls (StoreCall.isFor tenant) events) events) =
          some (final', log') ∧
        answers (keptCalls (StoreCall.isFor tenant) events) log =
          answers (keptCalls (StoreCall.isFor tenant) events) log' :=
  ⟨fun _ _ _ ran succeeds => SQLite.run_isolated tenant ran succeeds,
    fun _ _ _ ran succeeds => Postgres.run_isolated tenant ran succeeds⟩

theorem tenants_isolated_guess :
    (∃ final log final' log', (SQLite.store referenceExternals).run SQLite.guessedIdentifier = some (final, log) ∧
      (SQLite.store referenceExternals).run
        (restrict (keptCalls (StoreCall.isFor "cards") SQLite.guessedIdentifier) SQLite.guessedIdentifier) =
          some (final', log') ∧
      answers (keptCalls (StoreCall.isFor "cards") SQLite.guessedIdentifier) log =
        answers (keptCalls (StoreCall.isFor "cards") SQLite.guessedIdentifier) log') ∧
    ∃ final log final' log',
      (Postgres.store referenceExternals fun _ => 1).run Postgres.guessedIdentifier = some (final, log) ∧
      (Postgres.store referenceExternals fun _ => 1).run
        (restrict (keptCalls (StoreCall.isFor "cards") Postgres.guessedIdentifier) Postgres.guessedIdentifier) =
          some (final', log') ∧
      answers (keptCalls (StoreCall.isFor "cards") Postgres.guessedIdentifier) log =
        answers (keptCalls (StoreCall.isFor "cards") Postgres.guessedIdentifier) log' := by
  obtain ⟨⟨final, log⟩, ran, succeeds⟩ := (Option.any_eq_true _ _).mp
    (show ((SQLite.store referenceExternals).run SQLite.guessedIdentifier).any (fun (_, log) =>
      ∀ observation ∈ log, observation ≠ .did observation.id .failed) = true by decide)
  obtain ⟨⟨last, seen⟩, ran', succeeds'⟩ := (Option.any_eq_true _ _).mp
    (show ((Postgres.store referenceExternals fun _ => 1).run Postgres.guessedIdentifier).any (fun (_, log) =>
      ∀ observation ∈ log, observation ≠ .did observation.id .failed ∧
        observation ≠ .did observation.id .uncovered) = true by decide)
  have isolated := tenants_isolated referenceExternals (fun _ => 1) "cards"
  obtain ⟨final', log', restricted, same⟩ := isolated.1 _ final log ran fun id failed =>
    of_decide_eq_true succeeds _ failed rfl
  obtain ⟨last', seen', restricted', same'⟩ := isolated.2 _ last seen ran' fun id =>
    ⟨fun failed => (of_decide_eq_true succeeds' _ failed).1 rfl,
      fun uncovered => (of_decide_eq_true succeeds' _ uncovered).2 rfl⟩
  exact ⟨⟨final, log, final', log', ran, restricted, same⟩, last, seen, last', seen', ran', restricted', same'⟩

end AgentPlatform.State
