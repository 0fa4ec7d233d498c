import AgentPlatform.Base.Table

/-! # Row security

A table under transactions at read committed, with a setting that ends with its transaction and a policy
that shows and accepts only the rows whose owner is that setting. -/

namespace RowSecurity

structure Transaction (ι ρ τ θ : Type) where
  started : θ
  setting : Option τ
  writes : List (ι × ρ)

inductive Session (ι ρ τ θ : Type) where
  | idle
  | active (transaction : Transaction ι ρ τ θ)
  | aborted

structure Server (γ ι ρ τ θ : Type) where
  committed : Table ι ρ
  sessions : Table γ (Session ι ρ τ θ)

inductive Statement (ι ρ τ θ : Type) where
  | configure (setting : τ)
  | insert (key : ι) (row : ρ)
  | update (key : ι) (change : θ → ρ → Option ρ)
  | selectOne (key : ι)
  | select (condition : ρ → Bool)

/-- A request is answered; or it raises before it is sent, as the server refuses it, or after it took
    effect. -/
inductive Outcome where
  | answered
  | unsent
  | failed
  | lost
deriving DecidableEq, Repr

/-- What a statement comes to inside a transaction. -/
inductive Step (ι ρ τ θ : Type) where
  | waits
  | refused
  | ran (transaction : Transaction ι ρ τ θ) (rows : List ρ)

/-- `reply` is `none` where the client sees an exception, `touched` where nothing took effect. -/
structure Executed (γ ι ρ τ θ : Type) where
  server : Server γ ι ρ τ θ
  reply : Option (List ρ)
  touched : Option (Option τ × List ρ)

variable {γ ι ρ τ θ : Type} [DecidableEq γ] [DecidableEq ι] [DecidableEq τ]

def Session.writes : Session ι ρ τ θ → List (ι × ρ)
  | .active transaction => transaction.writes
  | .idle | .aborted => []

def Server.session (server : Server γ ι ρ τ θ) (connection : γ) : Session ι ρ τ θ :=
  (server.sessions.get connection).getD .idle

def Server.put (server : Server γ ι ρ τ θ) (connection : γ) (session : Session ι ρ τ θ) :
    Server γ ι ρ τ θ :=
  { server with sessions := server.sessions.set connection session }

/-- Another transaction has written the row and not ended. -/
def Server.locked (server : Server γ ι ρ τ θ) (connection : γ) (key : ι) : Bool :=
  server.sessions.entries.any fun entry =>
    decide (entry.1 ≠ connection) && entry.2.writes.any fun write => decide (write.1 = key)

/-- The first statement begins a transaction, and an aborted one takes no statement. -/
def Session.begin (session : Session ι ρ τ θ) (now : θ) : Option (Transaction ι ρ τ θ) :=
  match session with
  | .idle => some ⟨now, none, []⟩
  | .active transaction => some transaction
  | .aborted => none

section

variable (owner : ρ → τ)

/-- The policy. -/
def Transaction.sees (transaction : Transaction ι ρ τ θ) (row : ρ) : Bool :=
  transaction.setting = some (owner row)

def Server.perform (server : Server γ ι ρ τ θ) (connection : γ) (transaction : Transaction ι ρ τ θ) :
    Statement ι ρ τ θ → Step ι ρ τ θ
  | .configure setting => .ran { transaction with setting := some setting } []
  | .insert key row =>
    if !transaction.sees owner row then .refused
    else if server.locked connection key then .waits
    else if ((server.committed.overlay transaction.writes).get key).isSome then .refused
    else .ran { transaction with writes := transaction.writes ++ [(key, row)] } [row]
  | .update key change =>
    match ((server.committed.overlay transaction.writes).get key).filter (transaction.sees owner) with
    | none => .ran transaction []
    | some row =>
      match change transaction.started row with
      | none => .ran transaction []
      | some updated =>
        if server.locked connection key then .waits
        else if !transaction.sees owner updated then .refused
        else .ran { transaction with writes := transaction.writes ++ [(key, updated)] } [updated]
  | .selectOne key =>
    .ran transaction
      (((server.committed.overlay transaction.writes).get key).filter (transaction.sees owner)).toList
  | .select condition =>
    .ran transaction ((server.committed.overlay transaction.writes).rows.filter fun row =>
      transaction.sees owner row && condition row)

/-- `none` while the statement waits for another transaction. -/
def Server.execute (server : Server γ ι ρ τ θ) (connection : γ) (now : θ) (outcome : Outcome)
    (statement : Statement ι ρ τ θ) : Option (Executed γ ι ρ τ θ) :=
  if outcome = .unsent then some ⟨server, none, none⟩
  else
    match (server.session connection).begin now with
    | none => some ⟨server, none, none⟩
    | some transaction =>
      if outcome = .failed then some ⟨server.put connection .aborted, none, none⟩
      else
        match server.perform owner connection transaction statement with
        | .waits => none
        | .refused => some ⟨server.put connection .aborted, none, none⟩
        | .ran after rows =>
          some ⟨server.put connection (.active after), if outcome = .answered then some rows else none,
            some (after.setting, rows)⟩

end

def Server.refuse (server : Server γ ι ρ τ θ) (connection : γ) : Server γ ι ρ τ θ :=
  match server.session connection with
  | .aborted => server
  | .idle | .active _ => server.put connection .aborted

/-- Whether the commit is answered; an aborted transaction can only be rolled back. -/
def Server.commit (server : Server γ ι ρ τ θ) (connection : γ) (outcome : Outcome) :
    Server γ ι ρ τ θ × Bool :=
  if outcome = .unsent then (server, false)
  else
    match server.session connection with
    | .idle => (server, outcome = .answered)
    | .aborted => (server.put connection .idle, false)
    | .active transaction =>
      if outcome = .failed then (server.put connection .idle, false)
      else
        ({ server.put connection .idle with committed := server.committed.overlay transaction.writes },
          outcome = .answered)

def Server.rollback (server : Server γ ι ρ τ θ) (connection : γ) (outcome : Outcome) :
    Server γ ι ρ τ θ × Bool :=
  match outcome with
  | .answered => (server.put connection .idle, true)
  | .lost => (server.put connection .idle, false)
  | .unsent | .failed => (server, false)

omit [DecidableEq ι] [DecidableEq τ] in
@[simp] theorem put_committed (server : Server γ ι ρ τ θ) (connection : γ) (session : Session ι ρ τ θ) :
    (server.put connection session).committed = server.committed := rfl

omit [DecidableEq ι] [DecidableEq τ] in
@[simp] theorem session_put (server : Server γ ι ρ τ θ) (connection other : γ) (session : Session ι ρ τ θ) :
    (server.put connection session).session other =
      if other = connection then session else server.session other := by
  rw [Server.session, Server.put, Table.get_set]
  split <;> rfl

omit [DecidableEq τ] in
theorem locked_iff {server : Server γ ι ρ τ θ} {connection : γ} {key : ι} :
    server.locked connection key = true ↔
      ∃ other, other ≠ connection ∧ ∃ write ∈ (server.session other).writes, write.1 = key := by
  simp only [Server.locked, List.any_eq_true, Bool.and_eq_true, decide_eq_true_iff]
  constructor
  · rintro ⟨⟨other, session⟩, member, apart, write, written, same⟩
    have found := Table.mem_entries.mp member
    exact ⟨other, apart, write, by rw [Server.session, found]; exact written, same⟩
  · rintro ⟨other, apart, write, written, same⟩
    cases found : server.sessions.get other with
    | none => simp [Server.session, found, Session.writes] at written
    | some session =>
      rw [Server.session, found] at written
      exact ⟨⟨other, session⟩, Table.mem_entries.mpr found, apart, write, written, same⟩

variable {owner : ρ → τ}

omit [DecidableEq ι] in
theorem sees_iff {transaction : Transaction ι ρ τ θ} {row : ρ} :
    transaction.sees owner row = true ↔ transaction.setting = some (owner row) :=
  decide_eq_true_iff

/-- A data statement reads and writes rows of its setting only, and writes nothing that it does not
    answer. -/
theorem perform_ran {server : Server γ ι ρ τ θ} {connection : γ} {before after : Transaction ι ρ τ θ}
    {statement : Statement ι ρ τ θ} {rows : List ρ}
    (ran : server.perform owner connection before statement = .ran after rows) :
    after.started = before.started ∧
      ((∃ setting, statement = .configure setting ∧ after.setting = some setting) ∨
        after.setting = before.setting) ∧
      (∀ row ∈ rows, after.setting = some (owner row)) ∧
      (after.writes = before.writes ∨
        ∃ key row, rows = [row] ∧ after.writes = before.writes ++ [(key, row)] ∧
          server.locked connection key = false ∧
          ∀ old, (server.committed.overlay before.writes).get key = some old → owner old = owner row) := by
  cases statement with
  | configure setting =>
    cases ran
    exact ⟨rfl, .inl ⟨setting, rfl, rfl⟩, by simp, .inl rfl⟩
  | insert key row =>
    simp only [Server.perform] at ran
    split at ran
    · cases ran
    · rename_i own
      split at ran
      · cases ran
      · rename_i unlocked
        split at ran
        · cases ran
        · rename_i absent
          cases ran
          simp only [Bool.not_eq_true', Bool.not_eq_false] at own
          exact ⟨rfl, .inr rfl, by simpa using sees_iff.mp own,
            .inr ⟨key, row, rfl, rfl, by simpa using unlocked, fun old found => absurd (by simp [found]) absent⟩⟩
  | update key change =>
    simp only [Server.perform] at ran
    split at ran
    · cases ran
      exact ⟨rfl, .inr rfl, by simp, .inl rfl⟩
    · rename_i row visible
      obtain ⟨found, seen⟩ := Option.filter_eq_some_iff.mp visible
      split at ran
      · cases ran
        exact ⟨rfl, .inr rfl, by simp, .inl rfl⟩
      · rename_i updated _
        split at ran
        · cases ran
        · rename_i unlocked
          split at ran
          · cases ran
          · rename_i own
            cases ran
            simp only [Bool.not_eq_true', Bool.not_eq_false] at own
            refine ⟨rfl, .inr rfl, by simpa using sees_iff.mp own,
              .inr ⟨key, updated, rfl, rfl, by simpa using unlocked, fun old same => ?_⟩⟩
            cases found.symm.trans same
            exact Option.some.inj ((sees_iff.mp seen).symm.trans (sees_iff.mp own))
  | selectOne key =>
    cases ran
    refine ⟨rfl, .inr rfl, fun row member => ?_, .inl rfl⟩
    exact sees_iff.mp (Option.filter_eq_some_iff.mp (Option.mem_toList.mp member)).2
  | select condition =>
    cases ran
    refine ⟨rfl, .inr rfl, fun row member => ?_, .inl rfl⟩
    exact sees_iff.mp ((Bool.and_eq_true _ _).mp (List.mem_filter.mp member).2).1

section

variable {server : Server γ ι ρ τ θ} {connection : γ} {before after : Transaction ι ρ τ θ} {rows : List ρ}
  {key : ι}

theorem insert_ran {row : ρ} (ran : server.perform owner connection before (.insert key row) = .ran after rows) :
    rows = [row] ∧ after = { before with writes := before.writes ++ [(key, row)] } ∧
      (server.committed.overlay before.writes).get key = none := by
  simp only [Server.perform] at ran
  split at ran
  · cases ran
  · split at ran
    · cases ran
    · split at ran
      · cases ran
      · rename_i absent
        cases ran
        exact ⟨rfl, rfl, Option.not_isSome_iff_eq_none.mp absent⟩

theorem update_ran {change : θ → ρ → Option ρ}
    (ran : server.perform owner connection before (.update key change) = .ran after rows) :
    (rows = [] ∧ after = before) ∨
      ∃ old updated, (server.committed.overlay before.writes).get key = some old ∧
        before.setting = some (owner old) ∧ change before.started old = some updated ∧ rows = [updated] ∧
        after = { before with writes := before.writes ++ [(key, updated)] } := by
  simp only [Server.perform] at ran
  split at ran
  · cases ran
    exact .inl ⟨rfl, rfl⟩
  · rename_i old visible
    obtain ⟨found, seen⟩ := Option.filter_eq_some_iff.mp visible
    split at ran
    · cases ran
      exact .inl ⟨rfl, rfl⟩
    · rename_i updated changed
      split at ran
      · cases ran
      · split at ran
        · cases ran
        · cases ran
          exact .inr ⟨old, updated, found, sees_iff.mp seen, changed, rfl, rfl⟩

end

theorem execute_cases {server : Server γ ι ρ τ θ} {connection : γ} {now : θ} {outcome : Outcome}
    {statement : Statement ι ρ τ θ} {executed : Executed γ ι ρ τ θ}
    (ran : server.execute owner connection now outcome statement = some executed) :
    (executed.reply = none ∧ executed.touched = none ∧
      ((outcome = .unsent ∨ server.session connection = .aborted) ∧ executed.server = server ∨
        outcome ≠ .unsent ∧ executed.server = server.put connection .aborted)) ∨
    ∃ before after rows, (server.session connection).begin now = some before ∧
      server.perform owner connection before statement = .ran after rows ∧
      executed.server = server.put connection (.active after) ∧
      executed.touched = some (after.setting, rows) ∧
      (outcome = .answered ∧ executed.reply = some rows ∨ outcome = .lost ∧ executed.reply = none) := by
  unfold Server.execute at ran
  split at ran
  · rename_i unsent
    cases ran
    exact .inl ⟨rfl, rfl, .inl ⟨.inl unsent, rfl⟩⟩
  · rename_i sent
    split at ran
    · rename_i noTransaction
      cases ran
      refine .inl ⟨rfl, rfl, .inl ⟨.inr ?_, rfl⟩⟩
      cases session : server.session connection with
      | aborted => rfl
      | idle | active => rw [session] at noTransaction; cases noTransaction
    · rename_i before began
      split at ran
      · cases ran
        exact .inl ⟨rfl, rfl, .inr ⟨sent, rfl⟩⟩
      · rename_i accepted
        split at ran
        · cases ran
        · cases ran
          exact .inl ⟨rfl, rfl, .inr ⟨sent, rfl⟩⟩
        · rename_i after rows performed
          cases ran
          refine .inr ⟨before, after, rows, began, performed, rfl, rfl, ?_⟩
          cases outcome with
          | answered => exact .inl ⟨rfl, rfl⟩
          | lost => exact .inr ⟨rfl, rfl⟩
          | unsent => exact absurd rfl sent
          | failed => exact absurd rfl accepted

omit [DecidableEq τ] in
theorem commit_cases (server : Server γ ι ρ τ θ) (connection : γ) (outcome : Outcome) :
    (server.commit connection outcome).1 = server ∨
      (server.commit connection outcome).1 = server.put connection .idle ∨
      ∃ transaction, server.session connection = .active transaction ∧
        (server.commit connection outcome).1 =
          { server.put connection .idle with committed := server.committed.overlay transaction.writes } := by
  unfold Server.commit
  split
  · exact .inl rfl
  · split
    · exact .inl rfl
    · exact .inr (.inl rfl)
    · rename_i transaction active
      split
      · exact .inr (.inl rfl)
      · exact .inr (.inr ⟨transaction, active, rfl⟩)

omit [DecidableEq τ] in
theorem commit_answered {server : Server γ ι ρ τ θ} {connection : γ} {outcome : Outcome}
    (answered : (server.commit connection outcome).2 = true) :
    outcome = .answered ∧
      (server.session connection = .idle ∧ (server.commit connection outcome).1 = server ∨
        ∃ transaction, server.session connection = .active transaction ∧
          (server.commit connection outcome).1 =
            { server.put connection .idle with committed := server.committed.overlay transaction.writes }) := by
  unfold Server.commit at answered ⊢
  by_cases unsent : outcome = .unsent
  · rw [if_pos unsent] at answered
    cases answered
  · rw [if_neg unsent] at answered ⊢
    cases session : server.session connection with
    | idle =>
      rw [session] at answered
      exact ⟨of_decide_eq_true answered, .inl ⟨rfl, rfl⟩⟩
    | aborted =>
      rw [session] at answered
      cases answered
    | active transaction =>
      rw [session] at answered
      by_cases failed : outcome = .failed
      · simp [failed] at answered
      · simp only [if_neg failed] at answered ⊢
        exact ⟨of_decide_eq_true answered, .inr ⟨transaction, rfl, rfl⟩⟩

omit [DecidableEq τ] in
theorem commit_reply {server server' : Server γ ι ρ τ θ} {connection connection' : γ} {outcome : Outcome}
    (same : server'.session connection' = server.session connection) :
    (server'.commit connection' outcome).2 = (server.commit connection outcome).2 := by
  unfold Server.commit
  rw [same]
  split
  · rfl
  · cases server.session connection with
    | idle | aborted => rfl
    | active transaction =>
      dsimp only
      split <;> rfl

/-! ## Row locks -/

/-- Open transactions write different rows, and change no owner. -/
structure Server.Coherent (owner : ρ → τ) (server : Server γ ι ρ τ θ) : Prop where
  apart : ∀ first second, first ≠ second → ∀ write ∈ (server.session first).writes,
    ∀ other ∈ (server.session second).writes, write.1 ≠ other.1
  settled : ∀ connection, ∀ write ∈ (server.session connection).writes, ∀ old,
    server.committed.get write.1 = some old → owner old = owner write.2

section

variable {server : Server γ ι ρ τ θ} {connection : γ} {outcome : Outcome}

omit [DecidableEq τ] in
theorem Server.Coherent.put (coherent : server.Coherent owner) {session : Session ι ρ τ θ}
    (apart : ∀ write ∈ session.writes, ∀ second, second ≠ connection →
      ∀ other ∈ (server.session second).writes, write.1 ≠ other.1)
    (settled : ∀ write ∈ session.writes, ∀ old, server.committed.get write.1 = some old →
      owner old = owner write.2) : (server.put connection session).Coherent owner := by
  constructor
  · intro first second different write written other written'
    rw [session_put] at written written'
    split at written
    · rename_i same
      rw [if_neg (by rintro rfl; exact different same)] at written'
      exact apart write written second (fun same' => different (same.trans same'.symm)) other written'
    · rename_i elsewhere
      split at written'
      · exact (apart other written' first elsewhere write written).symm
      · exact coherent.apart first second different write written other written'
  · intro holder write written old found
    rw [session_put] at written
    split at written
    · exact settled write written old found
    · exact coherent.settled holder write written old found

omit [DecidableEq τ] in
theorem Server.Coherent.put_subset (coherent : server.Coherent owner) {session : Session ι ρ τ θ}
    (fewer : session.writes ⊆ (server.session connection).writes) :
    (server.put connection session).Coherent owner :=
  coherent.put (fun write written second different other written' =>
    coherent.apart connection second different.symm write (fewer written) other written')
    fun write written => coherent.settled connection write (fewer written)

omit [DecidableEq ι] [DecidableEq τ] in
theorem writes_of_begin {session : Session ι ρ τ θ} {now : θ} {transaction : Transaction ι ρ τ θ}
    (began : session.begin now = some transaction) : transaction.writes = session.writes := by
  cases session with
  | idle | active =>
    cases began
    rfl
  | aborted => cases began

theorem Server.Coherent.execute (coherent : server.Coherent owner) {now : θ}
    {statement : Statement ι ρ τ θ} {executed : Executed γ ι ρ τ θ}
    (ran : server.execute owner connection now outcome statement = some executed) :
    executed.server.Coherent owner := by
  rcases execute_cases ran with ⟨-, -, ⟨-, same⟩ | ⟨-, aborted⟩⟩ |
    ⟨before, after, rows, began, performed, server', -, -⟩
  · rwa [same]
  · rw [aborted]
    exact coherent.put_subset (List.nil_subset _)
  · have start := writes_of_begin began
    rw [server']
    obtain ⟨-, -, -, same | ⟨key, row, -, longer, unlocked, owned⟩⟩ := perform_ran performed
    · exact coherent.put_subset (by rw [Session.writes, same, start]; exact List.Subset.refl _)
    · have earlier (write : ι × ρ) (member : write ∈ before.writes) :
          write ∈ (server.session connection).writes := start ▸ member
      have cases' (write : ι × ρ) (member : write ∈ (Session.active after).writes) :
          write ∈ before.writes ∨ write = (key, row) := by
        rw [Session.writes, longer] at member
        exact (List.mem_append.mp member).imp_right List.mem_singleton.mp
      refine coherent.put (fun write written second different other written' => ?_) fun write written old found => ?_
      · rcases cases' write written with member | rfl
        · exact coherent.apart connection second different.symm write (earlier write member) other written'
        · intro same
          have locked := locked_iff.mpr ⟨second, different, other, written', same.symm⟩
          rw [unlocked] at locked
          cases locked
      · rcases cases' write written with member | rfl
        · exact coherent.settled connection write (earlier write member) old found
        · rcases Table.get_overlay_cases before.writes found with kept | ⟨newer, member, kept⟩
          · exact owned old kept
          · exact (coherent.settled connection _ (earlier _ member) old found).trans (owned newer kept)

omit [DecidableEq τ] in
theorem Server.Coherent.refuse (coherent : server.Coherent owner) : (server.refuse connection).Coherent owner := by
  unfold Server.refuse
  split
  · exact coherent
  · exact coherent.put_subset (List.nil_subset _)
  · exact coherent.put_subset (List.nil_subset _)

omit [DecidableEq τ] in
theorem Server.Coherent.rollback (coherent : server.Coherent owner) :
    (server.rollback connection outcome).1.Coherent owner := by
  unfold Server.rollback
  split
  · exact coherent.put_subset (List.nil_subset _)
  · exact coherent.put_subset (List.nil_subset _)
  · exact coherent
  · exact coherent

omit [DecidableEq τ] in
theorem Server.Coherent.commit (coherent : server.Coherent owner) :
    (server.commit connection outcome).1.Coherent owner := by
  unfold Server.commit
  split
  · exact coherent
  · split
    · exact coherent
    · exact coherent.put_subset (List.nil_subset _)
    · rename_i transaction active
      have ended : (server.put connection .idle).Coherent owner := coherent.put_subset (List.nil_subset _)
      split
      · exact ended
      · refine ⟨ended.apart, fun holder write written old found => ?_⟩
        have elsewhere : holder ≠ connection := by
          rintro rfl
          change write ∈ ((server.put holder .idle).session holder).writes at written
          rw [session_put, if_pos rfl] at written
          cases written
        change write ∈ ((server.put connection .idle).session holder).writes at written
        rw [session_put, if_neg elsewhere] at written
        change (server.committed.overlay transaction.writes).get write.1 = some old at found
        rw [Table.get_overlay_of_notMem] at found
        · exact coherent.settled holder write written old found
        · intro other written' same
          refine coherent.apart connection holder elsewhere.symm other ?_ write written same
          rw [active]
          exact written'

/-- On a part of the rows that has all that a transaction sees, a statement runs alike. -/
theorem perform_within {part : Server γ ι ρ τ θ} {other : γ} {keep : ρ → Bool}
    {before after : Transaction ι ρ τ θ} {statement : Statement ι ρ τ θ} {rows : List ρ}
    (within : Table.Within keep part.committed server.committed)
    (written : ∀ write ∈ before.writes, keep write.2 = true)
    (seen : ∀ row, before.sees owner row = true → keep row = true)
    (locks : ∀ key, part.locked other key = true → server.locked connection key = true)
    (ran : server.perform owner connection before statement = .ran after rows) :
    part.perform owner other before statement = .ran after rows := by
  have own := within.overlay_kept written
  have unlocked (key : ι) (free : ¬ server.locked connection key = true) : part.locked other key = false :=
    Bool.eq_false_iff.mpr fun locked => free (locks key locked)
  have sight (key : ι) : ((part.committed.overlay before.writes).get key).filter (before.sees owner) =
      ((server.committed.overlay before.writes).get key).filter (before.sees owner) := by
    rw [own.get_eq, Option.filter_filter]
    congr 1
    funext row
    by_cases visible : before.sees owner row = true
    · rw [visible, seen row visible]
      rfl
    · rw [Bool.eq_false_iff.mpr visible, Bool.and_false]
  cases statement with
  | configure setting => exact ran
  | insert key row =>
    simp only [Server.perform] at ran ⊢
    split at ran
    · cases ran
    · rename_i visible
      split at ran
      · cases ran
      · rename_i free
        split at ran
        · cases ran
        · rename_i absent
          have absent' : (part.committed.overlay before.writes).get key = none := by
            rw [own.get_eq, Option.not_isSome_iff_eq_none.mp absent, Option.filter_none]
          rw [if_neg visible, unlocked key free, absent']
          exact ran
  | update key change =>
    simp only [Server.perform, sight] at ran ⊢
    split at ran
    · exact ran
    · split at ran
      · rename_i unchanged
        simpa only [unchanged] using ran
      · rename_i updated changed
        split at ran
        · cases ran
        · rename_i free
          simpa only [changed, unlocked key free, Bool.false_eq_true, if_false] using ran
  | selectOne key =>
    simp only [Server.perform, sight] at ran ⊢
    exact ran
  | select condition =>
    simp only [Server.perform, own.rows_eq, List.filter_filter] at ran ⊢
    rw [← ran]
    congr 1
    refine List.filter_congr fun row _ => ?_
    by_cases visible : before.sees owner row = true
    · rw [visible, seen row visible, Bool.and_true]
    · rw [Bool.eq_false_iff.mpr visible]
      rfl

end

end RowSecurity
