import AgentPlatform.Base.Unwinding
import AgentPlatform.State.Instants
import AgentPlatform.State.RedisFailures

/-! # Tenants of the Redis store

A tenant works on its own records and its own index, so the calls of the others can be left out of a run, as
long as none of its calls comes upon the index of another. -/

namespace AgentPlatform.State.Redis

open Interleaving Python

def Command.key? (keyPrefix : String) : Command → Option String
  | .set approvalId _ | .eval approvalId _ _ _ _ _ | .get approvalId => some (key keyPrefix approvalId)
  | .sadd tenant _ | .srem tenant _ | .smembers tenant => some (tenantPendingKey keyPrefix tenant)
  | .adjustGauge .. => none

def Command.writer : Command → Option String
  | .set _ value => some value.tenant
  | .sadd tenant _ | .srem tenant _ | .eval _ _ _ _ _ tenant => some tenant
  | .get _ | .smembers _ | .adjustGauge .. => none

/-- The records of a tenant, and its index. -/
def belongs (keyPrefix tenant name : String) : Value → Bool
  | .record stored => stored.tenant = tenant
  | .members _ => name = tenantPendingKey keyPrefix tenant

/-- The tenant sees its own values. -/
def SameFor (keyPrefix tenant : String) (full reduced : Database) : Prop :=
  ∀ name, reduced.keyspace.get name = (full.keyspace.get name).filter (belongs keyPrefix tenant name)

section

variable {externals : Externals} {keyPrefix tenant : String} {full reduced after : Database} {order : List String}
  {c : Command} {reply : Reply c} {out : List Effect}

theorem get_putMembers (database : Database) (name other : String) (approvalIds : Finset String) :
    (database.putMembers name approvalIds).keyspace.get other =
      if other = name then (if approvalIds = ∅ then none else some (.members approvalIds))
      else database.keyspace.get other := by
  unfold Database.putMembers
  by_cases empty : approvalIds = ∅
  · simp [empty]
  · simp [empty]

theorem get_put (database : Database) (name other : String) (value : Value) :
    (database.put name value).keyspace.get other = if other = name then some value else database.keyspace.get other :=
  Table.get_set ..

/-- Two databases change alike under a key, and nowhere else. -/
def ChangeAlike (name : String) (full after reduced after' : Database) : Prop :=
  after'.keyspace.get name = after.keyspace.get name ∧
    ∀ other, other ≠ name → after.keyspace.get other = full.keyspace.get other ∧
      after'.keyspace.get other = reduced.keyspace.get other

theorem ChangeAlike.refl {name : String} (same : reduced.keyspace.get name = full.keyspace.get name) :
    ChangeAlike name full full reduced reduced :=
  ⟨same, fun _ _ => ⟨rfl, rfl⟩⟩

theorem ChangeAlike.put (name : String) (value : Value) (full reduced : Database) :
    ChangeAlike name full (full.put name value) reduced (reduced.put name value) := by
  refine ⟨by rw [get_put, get_put, if_pos rfl, if_pos rfl], fun other apart => ?_⟩
  rw [get_put, get_put, if_neg apart, if_neg apart]
  exact ⟨rfl, rfl⟩

theorem ChangeAlike.putMembers (name : String) (approvalIds : Finset String) (full reduced : Database) :
    ChangeAlike name full (full.putMembers name approvalIds) reduced (reduced.putMembers name approvalIds) := by
  refine ⟨by rw [get_putMembers, get_putMembers, if_pos rfl, if_pos rfl], fun other apart => ?_⟩
  rw [get_putMembers, get_putMembers, if_neg apart, if_neg apart]
  exact ⟨rfl, rfl⟩

theorem execute_local {name : String} (about : c.key? keyPrefix = some name)
    (same : reduced.keyspace.get name = full.keyspace.get name)
    (ran : execute externals keyPrefix full order c = some (after, reply, out)) :
    ∃ after', execute externals keyPrefix reduced order c = some (after', reply, out) ∧
      ChangeAlike name full after reduced after' := by
  have unchanged := ChangeAlike.refl same
  cases c with
  | set approvalId value =>
    cases about
    cases found : full.keyspace.get (key keyPrefix approvalId) with
    | none =>
      simp only [execute, found] at ran
      cases ran
      exact ⟨_, by simp only [execute, same, found], .put ..⟩
    | some current =>
      simp only [execute, found] at ran
      cases ran
      exact ⟨_, by simp only [execute, same, found], unchanged⟩
  | sadd owner approvalId =>
    cases about
    cases found : full.keyspace.get (tenantPendingKey keyPrefix owner) with
    | none =>
      simp only [execute, found] at ran
      cases ran
      exact ⟨_, by simp only [execute, same, found], .putMembers ..⟩
    | some current =>
      cases current with
      | members approvalIds =>
        simp only [execute, found] at ran
        cases ran
        exact ⟨_, by simp only [execute, same, found], .putMembers ..⟩
      | record stored =>
        simp only [execute, found] at ran
        cases ran
        exact ⟨_, by simp only [execute, same, found], unchanged⟩
  | eval approvalId decision reviewer reason decidedAt owner =>
    cases about
    cases found : full.keyspace.get (key keyPrefix approvalId) with
    | none =>
      simp only [execute, found] at ran
      cases ran
      exact ⟨_, by simp only [execute, same, found], unchanged⟩
    | some current =>
      cases current with
      | members approvalIds =>
        simp only [execute, found] at ran
        cases ran
        exact ⟨_, by simp only [execute, same, found], unchanged⟩
      | record stored =>
        cases script : decideScript decision reviewer reason decidedAt owner stored with
        | none =>
          simp only [execute, found, script] at ran
          cases ran
          exact ⟨_, by simp only [execute, same, found, script], unchanged⟩
        | some updated =>
          simp only [execute, found, script] at ran
          cases ran
          exact ⟨_, by simp only [execute, same, found, script], .put ..⟩
  | srem owner approvalId =>
    cases about
    cases found : full.keyspace.get (tenantPendingKey keyPrefix owner) with
    | none =>
      simp only [execute, found] at ran
      cases ran
      exact ⟨_, by simp only [execute, same, found], unchanged⟩
    | some current =>
      cases current with
      | members approvalIds =>
        simp only [execute, found] at ran
        cases ran
        exact ⟨_, by simp only [execute, same, found], .putMembers ..⟩
      | record stored =>
        simp only [execute, found] at ran
        cases ran
        exact ⟨_, by simp only [execute, same, found], unchanged⟩
  | get approvalId =>
    cases about
    cases found : full.keyspace.get (key keyPrefix approvalId) with
    | none =>
      simp only [execute, found] at ran
      cases ran
      exact ⟨_, by simp only [execute, same, found], unchanged⟩
    | some current =>
      cases current with
      | members approvalIds =>
        simp only [execute, found] at ran
        cases ran
        exact ⟨_, by simp only [execute, same, found], unchanged⟩
      | record stored =>
        simp only [execute, found] at ran
        cases ran
        exact ⟨_, by simp only [execute, same, found], unchanged⟩
  | smembers owner =>
    cases about
    cases found : full.keyspace.get (tenantPendingKey keyPrefix owner) with
    | none =>
      simp only [execute, found] at ran
      obtain ⟨empty, answered⟩ := Option.ite_none_right_eq_some.mp ran
      cases answered
      exact ⟨_, by simp only [execute, same, found, empty, if_true], unchanged⟩
    | some current =>
      cases current with
      | members approvalIds =>
        simp only [execute, found] at ran
        obtain ⟨listed, answered⟩ := Option.ite_none_right_eq_some.mp ran
        cases answered
        exact ⟨_, by simp only [execute, same, found, if_pos listed], unchanged⟩
      | record stored =>
        simp only [execute, found] at ran
        cases ran
        exact ⟨_, by simp only [execute, same, found], unchanged⟩
  | adjustGauge => cases about

/-! ## Commands of a tenant and of others -/

theorem decideScript_some {decision : Decision} {reviewer reason decidedAt owner : String}
    {current updated : StoredRecord}
    (script : decideScript decision reviewer reason decidedAt owner current = some updated) :
    current.status = .pending ∧ current.tenant = owner ∧ current.decide decision reviewer reason decidedAt = updated := by
  unfold decideScript at script
  split at script
  · cases script
  · rename_i pending
    split at script
    · cases script
    · rename_i own
      exact ⟨not_not.mp pending, not_not.mp own, Option.some.inj script⟩

theorem belongs_other_index {owner : String} (other : owner ≠ tenant) (approvalIds : Finset String) :
    belongs keyPrefix tenant (tenantPendingKey keyPrefix owner) (.members approvalIds) = false :=
  decide_eq_false (mt tenantPendingKey_injective other)

theorem SameFor.put (same : SameFor keyPrefix tenant full reduced) {name : String} {value : Value}
    (hidden : (full.keyspace.get name).filter (belongs keyPrefix tenant name) = none)
    (foreign : belongs keyPrefix tenant name value = false) : SameFor keyPrefix tenant (full.put name value) reduced := by
  intro other
  rw [same other, get_put]
  split
  · rename_i here
    rw [here, hidden, Option.filter_some, foreign]
    rfl
  · rfl

theorem SameFor.putMembers (same : SameFor keyPrefix tenant full reduced) (typed : Typed externals keyPrefix full)
    {owner : String} (other : owner ≠ tenant) (approvalIds : Finset String) :
    SameFor keyPrefix tenant (full.putMembers (tenantPendingKey keyPrefix owner) approvalIds) reduced := by
  intro name
  rw [same name, get_putMembers]
  split
  · rename_i here
    have before : (full.keyspace.get (tenantPendingKey keyPrefix owner)).filter
        (belongs keyPrefix tenant (tenantPendingKey keyPrefix owner)) = none := by
      rcases typed.index_cases owner with ⟨found, -⟩ | found
      · rw [found]
        rfl
      · rw [found, Option.filter_some, belongs_other_index other]
        rfl
    rw [here, before]
    split
    · rfl
    · rw [Option.filter_some, belongs_other_index other]
      rfl
  · rfl

theorem execute_foreign (typed : Typed externals keyPrefix full)
    (foreign : ∀ writer, c.writer = some writer → writer ≠ tenant) (same : SameFor keyPrefix tenant full reduced)
    (ran : execute externals keyPrefix full order c = some (after, reply, out)) :
    SameFor keyPrefix tenant after reduced := by
  cases c with
  | set approvalId value =>
    simp only [execute] at ran
    split at ran
    · cases ran
      exact same
    · rename_i absent
      cases ran
      refine same.put (by rw [absent]; rfl) ?_
      exact decide_eq_false (foreign value.tenant rfl)
  | sadd owner approvalId =>
    rw [execute_sadd typed] at ran
    cases ran
    exact same.putMembers typed (foreign owner rfl) _
  | eval approvalId decision reviewer reason decidedAt owner =>
    simp only [execute] at ran
    split at ran
    · cases ran
      exact same
    · cases ran
      exact same
    · rename_i current found
      split at ran
      · cases ran
        exact same
      · rename_i updated script
        cases ran
        obtain ⟨-, rfl, rfl⟩ := decideScript_some script
        have other := foreign current.tenant rfl
        refine same.put ?_ (decide_eq_false other)
        rw [found, Option.filter_some, belongs, decide_eq_false other]
        rfl
  | srem owner approvalId =>
    obtain ⟨removed, executed, changed⟩ := execute_srem typed order owner approvalId
    cases executed.symm.trans ran
    rcases changed with rfl | rfl
    · exact same
    · exact same.putMembers typed (foreign owner rfl) _
  | get approvalId =>
    simp only [execute] at ran
    split at ran
    · cases ran
      exact same
    · cases ran
      exact same
    · cases ran
      exact same
  | smembers owner =>
    rw [execute_smembers typed] at ran
    obtain ⟨-, answered⟩ := Option.ite_none_right_eq_some.mp ran
    cases answered
    exact same
  | adjustGauge =>
    cases ran
    exact same

def Command.owner : Command → Option String
  | .set _ value => some value.tenant
  | .sadd tenant _ | .srem tenant _ | .eval _ _ _ _ _ tenant | .smembers tenant => some tenant
  | .get _ | .adjustGauge .. => none

theorem SameFor.of_belongs (same : SameFor keyPrefix tenant full reduced) {name : String}
    (own : ∀ value, full.keyspace.get name = some value → belongs keyPrefix tenant name value = true) :
    reduced.keyspace.get name = full.keyspace.get name := by
  rw [same name]
  cases found : full.keyspace.get name with
  | none => rfl
  | some value => rw [Option.filter_some, own value found, if_pos rfl]

theorem SameFor.change {after' : Database} (same : SameFor keyPrefix tenant full reduced) {name : String}
    (changed : ChangeAlike name full after reduced after')
    (own : ∀ value, after.keyspace.get name = some value → belongs keyPrefix tenant name value = true) :
    SameFor keyPrefix tenant after after' := by
  intro other
  by_cases here : other = name
  · subst here
    rw [changed.1]
    cases found : after.keyspace.get other with
    | none => rfl
    | some value => rw [Option.filter_some, own value found, if_pos rfl]
  · obtain ⟨kept, kept'⟩ := changed.2 other here
    rw [kept, kept', same other]

theorem belongs_own_index (typed : Typed externals keyPrefix full) (value : Value)
    (found : full.keyspace.get (tenantPendingKey keyPrefix tenant) = some value) :
    belongs keyPrefix tenant (tenantPendingKey keyPrefix tenant) value = true := by
  cases value with
  | record stored => exact absurd found (typed.index_ne_record tenant stored)
  | members approvalIds => exact decide_eq_true rfl

/-- What a call of the tenant may not meet: a command that raises, an identifier that is taken, and the index of
    another tenant. -/
def Unhindered (keyPrefix tenant : String) (effect : Effect) : Prop :=
  effect ≠ .failed ∧ effect ≠ .taken ∧ effect ≠ .uncovered ∧
    ∀ owner, owner ≠ tenant → effect ≠ .mistyped (tenantPendingKey keyPrefix owner)

theorem execute_eval_keeps {approvalId reviewer reason decidedAt owner : String} {decision : Decision}
    {reply : Reply (.eval approvalId decision reviewer reason decidedAt owner)}
    (ran : execute externals keyPrefix full order (.eval approvalId decision reviewer reason decidedAt owner) =
      some (after, reply, out)) :
    after = full ∨ ∃ updated : StoredRecord,
      after = full.put (key keyPrefix approvalId) (.record updated) ∧ updated.tenant = owner := by
  simp only [execute] at ran
  split at ran
  · cases ran
    exact .inl rfl
  · cases ran
    exact .inl rfl
  · split at ran
    · cases ran
      exact .inl rfl
    · rename_i updated script
      cases ran
      obtain ⟨-, own, rfl⟩ := decideScript_some script
      exact .inr ⟨_, rfl, own⟩

theorem execute_own (typed : Typed externals keyPrefix full) (own : c.owner = some tenant)
    (same : SameFor keyPrefix tenant full reduced)
    (ran : execute externals keyPrefix full order c = some (after, reply, out))
    (allowed : ∀ effect ∈ out, Unhindered keyPrefix tenant effect) :
    ∃ after', execute externals keyPrefix reduced order c = some (after', reply, out) ∧
      SameFor keyPrefix tenant after after' := by
  have index := same.of_belongs (belongs_own_index typed)
  cases c with
  | set approvalId value =>
    obtain rfl : value.tenant = tenant := Option.some.inj own
    cases found : full.keyspace.get (key keyPrefix approvalId) with
    | some current =>
      simp only [execute, found] at ran
      cases ran
      exact absurd rfl (allowed .taken (List.mem_singleton_self _)).2.1
    | none =>
      obtain ⟨after', ran', changed⟩ := execute_local rfl (same.of_belongs fun value there => by simp [found] at there) ran
      refine ⟨after', ran', same.change changed fun stored there => ?_⟩
      simp only [execute, found] at ran
      cases ran
      rw [get_put, if_pos rfl] at there
      cases there
      exact decide_eq_true rfl
  | sadd owner approvalId =>
    obtain rfl : owner = tenant := Option.some.inj own
    obtain ⟨after', ran', changed⟩ := execute_local rfl index ran
    refine ⟨after', ran', same.change changed fun value there => ?_⟩
    rw [execute_sadd typed] at ran
    cases ran
    rw [get_putMembers, if_pos rfl] at there
    split at there
    · cases there
    · cases there
      exact decide_eq_true rfl
  | eval approvalId decision reviewer reason decidedAt owner =>
    obtain rfl : owner = tenant := Option.some.inj own
    by_cases mine : ∀ value, full.keyspace.get (key keyPrefix approvalId) = some value →
        belongs keyPrefix owner (key keyPrefix approvalId) value = true
    · obtain ⟨after', ran', changed⟩ := execute_local rfl (same.of_belongs mine) ran
      refine ⟨after', ran', same.change changed fun value there => ?_⟩
      rcases execute_eval_keeps ran with rfl | ⟨updated, rfl, own⟩
      · exact mine value there
      · rw [get_put, if_pos rfl] at there
        cases there
        exact decide_eq_true own
    · push Not at mine
      obtain ⟨value, found, foreign⟩ := mine
      cases value with
      | members approvalIds =>
        obtain ⟨other, here⟩ := typed.members _ _ found
        simp only [execute, found] at ran
        cases ran
        have apart : other ≠ owner := by
          rintro rfl
          exact foreign (decide_eq_true here)
        exact absurd (congrArg Effect.mistyped here) ((allowed _ (List.mem_singleton_self _)).2.2.2 other apart)
      | record current =>
        have refused : decideScript decision reviewer reason decidedAt owner current = none := by
          cases script : decideScript decision reviewer reason decidedAt owner current with
          | none => rfl
          | some updated => exact absurd (decide_eq_true (decideScript_some script).2.1) foreign
        have absent : reduced.keyspace.get (key keyPrefix approvalId) = none := by
          rw [same, found, Option.filter_some, if_neg foreign]
        simp only [execute, found, refused] at ran
        cases ran
        exact ⟨reduced, by simp only [execute, absent], same⟩
  | srem owner approvalId =>
    obtain rfl : owner = tenant := Option.some.inj own
    obtain ⟨after', ran', changed⟩ := execute_local rfl index ran
    refine ⟨after', ran', same.change changed fun value there => ?_⟩
    obtain ⟨removed, executed, result⟩ := execute_srem typed order owner approvalId
    cases executed.symm.trans ran
    rcases result with rfl | rfl
    · exact belongs_own_index typed value there
    · rw [get_putMembers, if_pos rfl] at there
      split at there
      · cases there
      · cases there
        exact decide_eq_true rfl
  | smembers owner =>
    obtain rfl : owner = tenant := Option.some.inj own
    obtain ⟨after', ran', changed⟩ := execute_local rfl index ran
    refine ⟨after', ran', same.change changed fun value there => ?_⟩
    rw [execute_smembers typed] at ran
    obtain ⟨-, answered⟩ := Option.ite_none_right_eq_some.mp ran
    cases answered
    exact belongs_own_index typed value there
  | get => cases own
  | adjustGauge => cases own

theorem execute_get_shown (typed : Typed externals keyPrefix full) {approvalId : String} {reply : Reply (.get approvalId)}
    (same : SameFor keyPrefix tenant full reduced)
    (ran : execute externals keyPrefix full order (.get approvalId) = some (after, reply, out))
    (allowed : ∀ effect ∈ out, Unhindered keyPrefix tenant effect) :
    after = full ∧ ∃ reply' out', execute externals keyPrefix reduced order (.get approvalId) = some (reduced, reply', out') ∧
      (∀ effect ∈ out', Unhindered keyPrefix tenant effect) ∧
      (reply' = reply ∨ reply' = some none ∧ ∃ stored record, reply = some (some stored) ∧
        stored.validate externals = some record ∧ record.tenant ≠ tenant) := by
  have unchanged : after = full := by
    simp only [execute] at ran
    split at ran <;> cases ran <;> rfl
  refine ⟨unchanged, ?_⟩
  subst unchanged
  by_cases mine : ∀ value, after.keyspace.get (key keyPrefix approvalId) = some value →
      belongs keyPrefix tenant (key keyPrefix approvalId) value = true
  · obtain ⟨after', ran', -⟩ := execute_local rfl (same.of_belongs mine) ran
    have still : after' = reduced := by
      simp only [execute] at ran'
      split at ran' <;> cases ran' <;> rfl
    exact ⟨reply, out, still ▸ ran', allowed, .inl rfl⟩
  · push Not at mine
    obtain ⟨value, found, foreign⟩ := mine
    cases value with
    | members approvalIds =>
      obtain ⟨other, here⟩ := typed.members _ _ found
      simp only [execute, found] at ran
      cases ran
      have apart : other ≠ tenant := by
        rintro rfl
        exact foreign (decide_eq_true here)
      exact absurd (congrArg Effect.mistyped here) ((allowed _ (List.mem_singleton_self _)).2.2.2 other apart)
    | record stored =>
      obtain ⟨-, record, -, valid, -⟩ := typed.record_of_found found
      have absent : reduced.keyspace.get (key keyPrefix approvalId) = none := by
        rw [same, found, Option.filter_some, if_neg foreign]
      simp only [execute, found] at ran
      cases ran
      refine ⟨some none, [.read approvalId none none], by simp only [execute, absent], ?_,
        .inr ⟨rfl, stored, record, rfl, valid, fun own => ?_⟩⟩
      · simp [Unhindered]
      · exact foreign (decide_eq_true ((StoredRecord.validate_fields valid).2.1.symm.trans own))

end

/-! ## Calls of the tenant and of others -/

/-- What the tenant sees in a run, given the identifiers of its own calls. -/
def tenantView (externals : Externals) (keyPrefix tenant : String) (own : Nat → Bool) : View Database Effect where
  Alike := SameFor keyPrefix tenant
  Known := Typed externals keyPrefix
  Allowed id effect := effect ≠ .failed ∧ effect ≠ .uncovered ∧ (own id = true → Unhindered keyPrefix tenant effect)

section

variable {externals : Externals} {keyPrefix tenant : String} {own : Nat → Bool} {id : Nat} {α β : Type}

theorem exec_answered {database after : Database} {choice : Choice} {c : Command} {reply : Reply c} {out : List Effect}
    (ran : (backend externals keyPrefix).exec id database choice c = some (after, reply, out))
    (succeeds : .failed ∉ out) :
    ∃ order, choice = .answered order ∧ execute externals keyPrefix database order c = some (after, reply, out) := by
  cases choice with
  | answered order => exact ⟨order, rfl, ran⟩
  | failed =>
    obtain ⟨⟨reply', out'⟩, failing, same⟩ := Option.map_eq_some_iff.mp ran
    cases same
    cases c with
    | adjustGauge => cases failing
    | _ =>
      cases failing
      exact absurd (by simp) succeeds

/-- The reply is one that the command gives on some typed database. -/
def Given (externals : Externals) (keyPrefix : String) (c : Command) (reply : Reply c) : Prop :=
  ∃ database order after out, Typed externals keyPrefix database ∧
    execute externals keyPrefix database order c = some (after, reply, out)

theorem shown_own (mine : own id = true) {c : Command} {next : Reply c → StoreProgram α} (owned : c.owner = some tenant)
    (onward : ∀ reply, Given externals keyPrefix c reply →
      Shown (tenantView externals keyPrefix tenant own) (backend externals keyPrefix) id (next reply)) :
    Shown (tenantView externals keyPrefix tenant own) (backend externals keyPrefix) id (.command c next) := by
  intro full reduced choice after reply out known _ _ alike ran allowed
  obtain ⟨order, rfl, executed⟩ := exec_answered ran fun failed => (allowed _ failed).1 rfl
  obtain ⟨after', executed', alike'⟩ := execute_own known owned alike executed fun effect seen =>
    (allowed effect seen).2.2 mine
  exact ⟨after', reply, out, executed', rfl, allowed, fun _ => alike', onward reply ⟨full, order, after, out, known, executed⟩⟩

theorem shown_gauge {client : Nat} {owner : String} {change : Int}
    {next : Reply (.adjustGauge client owner change) → StoreProgram α}
    (onward : ∀ reply, Shown (tenantView externals keyPrefix tenant own) (backend externals keyPrefix) id (next reply)) :
    Shown (tenantView externals keyPrefix tenant own) (backend externals keyPrefix) id
      (.command (.adjustGauge client owner change) next) := by
  intro full reduced choice after reply out _ _ _ alike ran allowed
  obtain ⟨order, rfl, executed⟩ := exec_answered ran fun failed => (allowed _ failed).1 rfl
  cases executed
  exact ⟨_, _, _, rfl, rfl, allowed, fun _ => alike, onward _⟩

theorem shown_get (mine : own id = true) {approvalId : String}
    {rest : Except StoreError (Option ApprovalRecord) → StoreProgram α}
    (onward : ∀ answer, Shown (tenantView externals keyPrefix tenant own) (backend externals keyPrefix) id (rest answer)) :
    Shown (tenantView externals keyPrefix tenant own) (backend externals keyPrefix) id
      ((get externals approvalId tenant).bind rest) := by
  intro full reduced choice after reply out known _ _ alike ran allowed
  obtain ⟨order, rfl, executed⟩ := exec_answered ran fun failed => (allowed _ failed).1 rfl
  obtain ⟨rfl, reply', out', executed', allowed', replied⟩ := execute_get_shown known alike executed
    fun effect seen => (allowed effect seen).2.2 mine
  refine ⟨reduced, reply', out', executed', ?_, fun effect seen => ?_, fun _ => alike, ?_⟩
  · rcases replied with rfl | ⟨rfl, stored, record, rfl, valid, foreign⟩
    · rfl
    · dsimp only
      rw [valid]
      dsimp only
      rw [if_neg foreign]
  · have free := allowed' effect seen
    exact ⟨free.1, free.2.2.1, fun _ => free⟩
  · rcases reply with _ | _ | stored
    · exact onward _
    · exact onward _
    · dsimp only
      split
      · exact onward _
      · exact onward _

theorem shown_getAll (mine : own id = true) {approvalIds : List String}
    {rest : Except StoreError (List (Option ApprovalRecord)) → StoreProgram α}
    (onward : ∀ answer, Shown (tenantView externals keyPrefix tenant own) (backend externals keyPrefix) id (rest answer)) :
    Shown (tenantView externals keyPrefix tenant own) (backend externals keyPrefix) id
      ((getAll externals tenant approvalIds).bind rest) := by
  induction approvalIds generalizing rest with
  | nil => exact onward _
  | cons approvalId approvalIds ih =>
    rw [getAll, Program.bind_assoc]
    refine shown_get mine fun answer => ?_
    cases answer with
    | error error => exact onward _
    | ok found =>
      dsimp only
      rw [Program.bind_assoc]
      exact ih fun answer => onward _

theorem Given.decided {approvalId reviewer reason decidedAt owner : String} {decision : Decision} {stored : StoredRecord}
    (given : Given externals keyPrefix (.eval approvalId decision reviewer reason decidedAt owner) (some (some stored))) :
    stored.tenant = owner := by
  obtain ⟨database, order, after, out, -, executed⟩ := given
  simp only [execute] at executed
  split at executed
  · cases executed
  · cases executed
  · split at executed
    · cases executed
    · rename_i updated script
      cases executed
      obtain ⟨-, rfl, rfl⟩ := decideScript_some script
      rfl

theorem shown_program (mine : own id = true) {call : StoreCall} (isFor : call.operation.tenant = tenant) :
    Shown (tenantView externals keyPrefix tenant own) (backend externals keyPrefix) id (program externals call) := by
  obtain ⟨client, operation⟩ := call
  subst isFor
  cases operation with
  | createPending requestId requester query owner uuid4 now =>
    refine shown_own mine rfl fun reply _ => ?_
    rcases reply with _ | _ | _
    · trivial
    · trivial
    · refine shown_own mine rfl fun reply _ => ?_
      rcases reply with _ | _
      · trivial
      · exact shown_gauge fun _ => trivial
  | decide approvalId decision reviewer reason owner now =>
    refine shown_own mine rfl fun reply given => ?_
    rcases reply with _ | _ | stored
    · trivial
    · trivial
    · have owned := Given.decided given
      dsimp only
      split
      · trivial
      · rename_i record valid
        have same : record.tenant = owner := (StoredRecord.validate_fields valid).2.1.trans owned
        refine shown_own mine (congrArg some same) fun reply _ => ?_
        rcases reply with _ | _
        · trivial
        · exact shown_gauge fun _ => trivial
  | get approvalId owner => exact shown_get mine fun _ => trivial
  | listPending owner =>
    refine shown_own mine rfl fun reply _ => ?_
    rcases reply with _ | approvalIds
    · trivial
    · exact shown_getAll mine fun _ => trivial

theorem hidden_command {c : Command} {next : Reply c → StoreProgram α}
    (foreign : ∀ writer, c.writer = some writer → writer ≠ tenant)
    (onward : ∀ reply, Given externals keyPrefix c reply →
      Hidden (tenantView externals keyPrefix tenant own) (backend externals keyPrefix) id (next reply)) :
    Hidden (tenantView externals keyPrefix tenant own) (backend externals keyPrefix) id (.command c next) := by
  intro full reduced choice after reply out known _ _ alike ran allowed
  obtain ⟨order, -, executed⟩ := exec_answered ran fun failed => (allowed _ failed).1 rfl
  exact ⟨execute_foreign known foreign alike executed, onward reply ⟨full, order, after, out, known, executed⟩⟩

theorem hidden_get {approvalId owner : String} {rest : Except StoreError (Option ApprovalRecord) → StoreProgram α}
    (onward : ∀ answer, Hidden (tenantView externals keyPrefix tenant own) (backend externals keyPrefix) id (rest answer)) :
    Hidden (tenantView externals keyPrefix tenant own) (backend externals keyPrefix) id
      ((get externals approvalId owner).bind rest) := by
  refine hidden_command (by rintro _ ⟨⟩) fun reply _ => ?_
  rcases reply with _ | _ | stored
  · exact onward _
  · exact onward _
  · dsimp only
    split
    · exact onward _
    · exact onward _

theorem hidden_getAll {owner : String} {approvalIds : List String}
    {rest : Except StoreError (List (Option ApprovalRecord)) → StoreProgram α}
    (onward : ∀ answer, Hidden (tenantView externals keyPrefix tenant own) (backend externals keyPrefix) id (rest answer)) :
    Hidden (tenantView externals keyPrefix tenant own) (backend externals keyPrefix) id
      ((getAll externals owner approvalIds).bind rest) := by
  induction approvalIds generalizing rest with
  | nil => exact onward _
  | cons approvalId approvalIds ih =>
    rw [getAll, Program.bind_assoc]
    refine hidden_get fun answer => ?_
    cases answer with
    | error error => exact onward _
    | ok found =>
      dsimp only
      rw [Program.bind_assoc]
      exact ih fun answer => onward _

theorem hidden_program {call : StoreCall} (other : call.operation.tenant ≠ tenant) :
    Hidden (tenantView externals keyPrefix tenant own) (backend externals keyPrefix) id (program externals call) := by
  obtain ⟨client, operation⟩ := call
  cases operation with
  | createPending requestId requester query owner uuid4 now =>
    refine hidden_command (fun writer same => Option.some.inj same ▸ other) fun reply _ => ?_
    rcases reply with _ | _ | _
    · trivial
    · trivial
    · refine hidden_command (fun writer same => Option.some.inj same ▸ other) fun reply _ => ?_
      rcases reply with _ | _
      · trivial
      · exact hidden_command (by rintro _ ⟨⟩) fun _ _ => trivial
  | decide approvalId decision reviewer reason owner now =>
    refine hidden_command (fun writer same => Option.some.inj same ▸ other) fun reply given => ?_
    rcases reply with _ | _ | stored
    · trivial
    · trivial
    · have owned := Given.decided given
      dsimp only
      split
      · trivial
      · rename_i record valid
        have same : record.tenant = owner := (StoredRecord.validate_fields valid).2.1.trans owned
        refine hidden_command (fun writer equal => ?_) fun reply _ => ?_
        · rw [← Option.some.inj equal, same]
          exact other
        · rcases reply with _ | _
          · trivial
          · exact hidden_command (by rintro _ ⟨⟩) fun _ _ => trivial
  | get approvalId owner => exact hidden_get fun _ => trivial
  | listPending owner =>
    refine hidden_command (by rintro _ ⟨⟩) fun reply _ => ?_
    rcases reply with _ | approvalIds
    · trivial
    · exact hidden_getAll fun _ => trivial

end

/-! ## Runs -/

section

variable {externals : Externals} {keyPrefix tenant : String} {events : List (Event StoreCall Choice)}
  {final : Interleaving.State Database Command Reply (Except StoreError Answer)} {log : List StoreObservation}

theorem writeOf_quiet {before : Option StoredRecord} {row : StoredRecord} :
    .uncovered ∉ writeOf externals before row ∧ ∀ name, .mistyped name ∉ writeOf externals before row := by
  unfold writeOf
  split <;> simp

theorem execute_covered {database after : Database} {order : List String} {c : Command} {reply : Reply c}
    {out : List Effect} (typed : Typed externals keyPrefix database)
    (ran : execute externals keyPrefix database order c = some (after, reply, out)) : .uncovered ∉ out := by
  cases c with
  | set approvalId value =>
    simp only [execute] at ran
    split at ran
    · cases ran
      simp
    · cases ran
      exact writeOf_quiet.1
  | sadd owner approvalId =>
    rw [execute_sadd typed] at ran
    cases ran
    simp
  | eval approvalId decision reviewer reason decidedAt owner =>
    simp only [execute] at ran
    split at ran
    · cases ran
      simp
    · cases ran
      simp
    · split at ran
      · cases ran
        simp
      · cases ran
        exact writeOf_quiet.1
  | srem owner approvalId =>
    obtain ⟨removed, executed, -⟩ := execute_srem typed order owner approvalId
    cases executed.symm.trans ran
    simp
  | get approvalId =>
    simp only [execute] at ran
    split at ran <;> cases ran <;> simp
  | smembers owner =>
    rw [execute_smembers typed] at ran
    obtain ⟨-, answered⟩ := Option.ite_none_right_eq_some.mp ran
    cases answered
    simp
  | adjustGauge =>
    cases ran
    simp

/-- Where no command raises, every key holds what it is for. -/
theorem run_typed (ran : (store externals keyPrefix).run events = some (final, log))
    (succeeds : ∀ id, .did id .failed ∉ log) :
    Typed externals keyPrefix final.backend ∧ ∀ id, .did id .uncovered ∉ log := by
  induction events using List.reverseRecOn generalizing final log with
  | nil =>
    cases ran
    exact ⟨(@run_consistent externals keyPrefix [] _ _ rfl (by simp)).typed, by simp⟩
  | append_singleton events event ih =>
    obtain ⟨middle, before, out, reached, stepped, rfl⟩ := Machine.run_concat ran
    obtain ⟨typed, covered⟩ := ih reached fun id failed => succeeds id (List.mem_append_left _ failed)
    have last (id : Nat) : .did id .uncovered ∉ out := by
      rcases machine_step_cases stepped with ⟨_, _, -, -, rfl⟩ | ⟨_, _, -, -, rfl⟩ |
        ⟨caller, c, onward, choice, after, reply, effects, -, executed, -, rfl⟩
      · simp
      · simp
      · intro seen
        obtain ⟨effect, member, same⟩ := List.mem_map.mp seen
        cases same
        obtain ⟨order, -, executed⟩ := exec_answered executed fun failed =>
          succeeds id (List.mem_append_right _ (List.mem_map_of_mem failed))
        exact execute_covered typed executed member
    have all (id : Nat) : .did id .uncovered ∉ before ++ out := fun seen =>
      (List.mem_append.mp seen).elim (covered id) (last id)
    exact ⟨(run_consistent ran all).typed, all⟩

def Command.approval? : Command → Option String
  | .get approvalId | .eval approvalId _ _ _ _ _ => some approvalId
  | _ => none

/-- The approval whose key a call reads next. -/
def reads {α : Type} : StoreProgram α → Option String
  | .command c _ => c.approval?
  | .done _ => none

/-- A call is about to read the key that holds the index of a tenant other than its own. -/
def Stumbles (keyPrefix tenant : String)
    (state : Interleaving.State Database Command Reply (Except StoreError Answer)) (id : Nat) : Prop :=
  ∃ call ∈ state.calls, call.id = id ∧ ∃ owner, owner ≠ tenant ∧ reads call.program = some ("pending-index:" ++ owner) ∧
    state.backend.keyspace.get (tenantPendingKey keyPrefix owner) ≠ none

/-- No step of a call of the tenant comes upon the index of another. -/
def Clear (externals : Externals) (keyPrefix tenant : String) (events : List (Event StoreCall Choice)) : Prop :=
  ∀ before id choice after state log, events = before ++ .advance id choice :: after →
    keptCalls (StoreCall.isFor tenant) events id = true →
    (store externals keyPrefix).run before = some (state, log) → ¬ Stumbles keyPrefix tenant state id

theorem execute_mistyped {database after : Database} {order : List String} {c : Command} {reply : Reply c}
    {out : List Effect} {owner : String} (typed : Typed externals keyPrefix database)
    (ran : execute externals keyPrefix database order c = some (after, reply, out))
    (mistyped : .mistyped (tenantPendingKey keyPrefix owner) ∈ out) :
    c.approval? = some ("pending-index:" ++ owner) ∧
      database.keyspace.get (tenantPendingKey keyPrefix owner) ≠ none := by
  have named {approvalId : String} {value : Value} (found : database.keyspace.get (key keyPrefix approvalId) = some value)
      (here : tenantPendingKey keyPrefix owner = key keyPrefix approvalId) :
      some approvalId = some ("pending-index:" ++ owner) ∧
        database.keyspace.get (tenantPendingKey keyPrefix owner) ≠ none := by
    refine ⟨congrArg some ?_, by simp [here, found]⟩
    rw [tenantPendingKey_eq] at here
    exact (key_injective here).symm
  cases c with
  | set approvalId value =>
    simp only [execute] at ran
    split at ran
    · cases ran
      simp at mistyped
    · cases ran
      exact absurd mistyped (writeOf_quiet.2 _)
  | sadd other approvalId =>
    rw [execute_sadd typed] at ran
    cases ran
    simp at mistyped
  | eval approvalId decision reviewer reason decidedAt other =>
    simp only [execute] at ran
    split at ran
    · cases ran
      simp at mistyped
    · rename_i found
      cases ran
      exact named found (Effect.mistyped.inj (List.mem_singleton.mp mistyped))
    · split at ran
      · cases ran
        simp at mistyped
      · cases ran
        exact absurd mistyped (writeOf_quiet.2 _)
  | srem other approvalId =>
    obtain ⟨removed, executed, -⟩ := execute_srem typed order other approvalId
    cases executed.symm.trans ran
    simp at mistyped
  | get approvalId =>
    simp only [execute] at ran
    split at ran
    · cases ran
      simp at mistyped
    · rename_i found
      cases ran
      exact named found (Effect.mistyped.inj (List.mem_singleton.mp mistyped))
    · cases ran
      simp at mistyped
  | smembers other =>
    rw [execute_smembers typed] at ran
    obtain ⟨-, answered⟩ := Option.ite_none_right_eq_some.mp ran
    cases answered
    simp at mistyped
  | adjustGauge =>
    cases ran
    simp at mistyped

theorem run_allowed {own : Nat → Bool} (ran : (store externals keyPrefix).run events = some (final, log))
    (succeeds : ∀ id, .did id .failed ∉ log) (fresh : ∀ id, .did id .taken ∉ log)
    (clear : ∀ before id choice after state log, events = before ++ .advance id choice :: after → own id = true →
      (store externals keyPrefix).run before = some (state, log) → ¬ Stumbles keyPrefix tenant state id) :
    ∀ id effect, .did id effect ∈ log → (tenantView externals keyPrefix tenant own).Allowed id effect := by
  induction events using List.reverseRecOn generalizing final log with
  | nil =>
    cases ran
    simp
  | append_singleton events event ih =>
    obtain ⟨middle, before, out, reached, stepped, rfl⟩ := Machine.run_concat ran
    have succeeds' (id : Nat) (failed : .did id .failed ∈ before) : False :=
      succeeds id (List.mem_append_left _ failed)
    intro id effect seen
    rcases List.mem_append.mp seen with earlier | last
    · refine ih reached succeeds' (fun id taken => fresh id (List.mem_append_left _ taken)) ?_ id effect earlier
      intro first caller choice rest state seen split mine reached'
      exact clear first caller choice (rest ++ [event]) state seen (by rw [split]; simp) mine reached'
    · have typed := (run_typed reached succeeds').1
      refine ⟨?_, ?_, fun mine => ⟨?_, ?_, ?_, fun owner other => ?_⟩⟩
      · rintro rfl
        exact succeeds id seen
      · rintro rfl
        exact (run_typed ran succeeds).2 id seen
      · rintro rfl
        exact succeeds id seen
      · rintro rfl
        exact fresh id seen
      · rintro rfl
        exact (run_typed ran succeeds).2 id seen
      · rintro rfl
        cases event with
        | invoke caller call =>
          obtain ⟨-, same⟩ := Option.ite_none_right_eq_some.mp stepped
          cases same
          simp at last
        | advance caller choice =>
          obtain ⟨point, waiting, -, moved⟩ := step_advance stepped
          cases point with
          | done answer =>
            cases moved
            simp at last
          | command c next =>
            obtain ⟨⟨after, reply, effects⟩, executed, same⟩ := Option.map_eq_some_iff.mp moved
            cases same
            obtain ⟨effect, member, same⟩ := List.mem_map.mp last
            cases same
            obtain ⟨order, -, executed⟩ := exec_answered executed fun failed =>
              succeeds id (List.mem_append_right _ (List.mem_map_of_mem failed))
            obtain ⟨about, present⟩ := execute_mistyped typed executed member
            exact clear events id choice [] middle before rfl mine reached
              ⟨_, waiting, rfl, owner, other, about, present⟩

/-- Without the calls for other tenants, the tenant gets the same answers, as long as no call of it comes upon the
    index of another tenant. -/
theorem run_clear (ran : (store externals keyPrefix).run events = some (final, log))
    (succeeds : ∀ id, .did id .failed ∉ log) (fresh : ∀ id, .did id .taken ∉ log)
    (clear : Clear externals keyPrefix tenant events) :
    let own := keptCalls (StoreCall.isFor tenant) events
    ∃ final' log', (store externals keyPrefix).run (restrict own events) = some (final', log') ∧
      answers own log = answers own log' := by
  intro own
  refine run_keptCalls (tenantView externals keyPrefix tenant own) (fun _ => rfl) ?_ ?_ ?_ ran
    (run_allowed ran succeeds fresh clear)
  · intro events final log ran allowed
    exact (run_typed ran fun id failed => (allowed id .failed failed).1 rfl).1
  · exact fun id call mine isFor => shown_program mine (of_decide_eq_true isFor)
  · exact fun id call _ other => hidden_program (of_decide_eq_false other)

end

/-- One tenant creates an approval, and another asks for a text. -/
def askedAfterCreation (approvalId : String) : List (Event StoreCall Choice) :=
  serve 0 ⟨0, .createPending "r-1" "alice" "refund" "disputes" firstUuid noon⟩ (List.replicate 3 (.answered []))
      (.answered []) ++
    serve 1 ⟨0, .get approvalId "payments"⟩ [.answered []] (.answered [])

theorem askedAfterCreation_clear :
    Clear referenceExternals "approval:" "payments" (askedAfterCreation firstUuid.text) := by
  have named : ∀ before ∈ (askedAfterCreation firstUuid.text).inits,
      ((store referenceExternals "approval:").run before).all (fun (state, _) =>
        ∀ call ∈ state.calls, reads call.program = none ∨ reads call.program = some firstUuid.text) = true := by
    decide
  intro before id choice after state log split mine ran stumbles
  obtain ⟨call, waiting, -, owner, -, about, -⟩ := stumbles
  have each := named before ((List.mem_inits _ _).mpr ⟨_, split.symm⟩)
  rw [ran, Option.all_some] at each
  rcases of_decide_eq_true each call waiting with idle | uuid
  · rw [idle] at about
    cases about
  · exact text_ne_index firstUuid owner (Option.some.inj (uuid.symm.trans about))

theorem run_clear_identifier :
    ∃ final log final' log',
      (store referenceExternals "approval:").run (askedAfterCreation firstUuid.text) = some (final, log) ∧
      (store referenceExternals "approval:").run
        (restrict (keptCalls (StoreCall.isFor "payments") (askedAfterCreation firstUuid.text))
          (askedAfterCreation firstUuid.text)) = some (final', log') ∧
      answers (keptCalls (StoreCall.isFor "payments") (askedAfterCreation firstUuid.text)) log =
        answers (keptCalls (StoreCall.isFor "payments") (askedAfterCreation firstUuid.text)) log' := by
  obtain ⟨⟨final, log⟩, ran, quiet⟩ := (Option.any_eq_true _ _).mp
    (show ((store referenceExternals "approval:").run (askedAfterCreation firstUuid.text)).any (fun (_, log) =>
      ∀ seen ∈ log, seen ≠ .did seen.id .failed ∧ seen ≠ .did seen.id .taken) = true by decide)
  have silent := of_decide_eq_true quiet
  obtain ⟨final', log', ran', same⟩ := @run_clear referenceExternals "approval:" "payments" _ final log ran
    (fun id failed => (silent _ failed).1 rfl) (fun id taken => (silent _ taken).2 rfl) askedAfterCreation_clear
  exact ⟨final, log, final', log', ran, ran', same⟩

/-- The text names the key of the other tenant's index, and the read tells whether it is empty. -/
theorem index_observed :
    ∃ final log, (store referenceExternals "approval:").run (askedAfterCreation "pending-index:disputes") =
        some (final, log) ∧ (∀ id, .did id .failed ∉ log) ∧ (∀ id, .did id .taken ∉ log) ∧
      ∀ final' log', (store referenceExternals "approval:").run
          (restrict (keptCalls (StoreCall.isFor "payments") (askedAfterCreation "pending-index:disputes"))
            (askedAfterCreation "pending-index:disputes")) = some (final', log') →
        answers (keptCalls (StoreCall.isFor "payments") (askedAfterCreation "pending-index:disputes")) log ≠
          answers (keptCalls (StoreCall.isFor "payments") (askedAfterCreation "pending-index:disputes")) log' := by
  obtain ⟨⟨final, log⟩, ran, quiet⟩ := (Option.any_eq_true _ _).mp
    (show ((store referenceExternals "approval:").run (askedAfterCreation "pending-index:disputes")).any (fun (_, log) =>
      (∀ seen ∈ log, seen ≠ .did seen.id .failed ∧ seen ≠ .did seen.id .taken) ∧
      answers (keptCalls (StoreCall.isFor "payments") (askedAfterCreation "pending-index:disputes")) log =
        [(1, .error .driver)]) = true by decide)
  obtain ⟨silent, raised⟩ := of_decide_eq_true quiet
  refine ⟨final, log, ran, fun id failed => (silent _ failed).1 rfl, fun id taken => (silent _ taken).2 rfl, ?_⟩
  intro final' log' ran' same
  have alone : ((store referenceExternals "approval:").run
      (restrict (keptCalls (StoreCall.isFor "payments") (askedAfterCreation "pending-index:disputes"))
        (askedAfterCreation "pending-index:disputes"))).all (fun (_, log) =>
      answers (keptCalls (StoreCall.isFor "payments") (askedAfterCreation "pending-index:disputes")) log =
        [(1, .ok (.got none))]) = true := by decide
  rw [ran', Option.all_some] at alone
  rw [raised, of_decide_eq_true alone] at same
  cases same

end AgentPlatform.State.Redis
