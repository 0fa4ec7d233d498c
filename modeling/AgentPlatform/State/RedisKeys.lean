import AgentPlatform.State.Identifiers
import AgentPlatform.State.Redis

/-! # Keys of the Redis store

Under one prefix the keys of approvals and of indexes do not meet, so each holds what it is for. -/

namespace AgentPlatform.State.Redis

open Interleaving Python

theorem key_injective {keyPrefix first second : String} (same : key keyPrefix first = key keyPrefix second) :
    first = second :=
  (String.append_right_inj keyPrefix).mp same

theorem tenantPendingKey_eq (keyPrefix tenant : String) :
    tenantPendingKey keyPrefix tenant = key keyPrefix ("pending-index:" ++ tenant) :=
  String.append_assoc

theorem tenantPendingKey_injective {keyPrefix first second : String}
    (same : tenantPendingKey keyPrefix first = tenantPendingKey keyPrefix second) : first = second := by
  rw [tenantPendingKey_eq, tenantPendingKey_eq] at same
  exact (String.append_right_inj _).mp (key_injective same)

theorem text_ne_index (uuid : Uuid) (tenant : String) : uuid.text ≠ "pending-index:" ++ tenant := by
  intro same
  obtain ⟨digit, first⟩ := uuid.text_head
  rw [same, String.toList_append] at first
  have other : ∀ digit, hexDigit digit ≠ 'p' := by decide
  exact other digit (Option.some.inj first).symm

theorem key_ne_tenantPendingKey (keyPrefix : String) (uuid : Uuid) (tenant : String) :
    key keyPrefix uuid.text ≠ tenantPendingKey keyPrefix tenant := by
  rw [tenantPendingKey_eq]
  exact fun same => text_ne_index uuid tenant (key_injective same)

def Database.record (externals : Externals) (keyPrefix : String) (database : Database) (approvalId : String) :
    Option ApprovalRecord :=
  match database.keyspace.get (key keyPrefix approvalId) with
  | some (.record stored) => stored.validate externals
  | _ => none

def Database.index (keyPrefix : String) (database : Database) (tenant : String) : Finset String :=
  match database.keyspace.get (tenantPendingKey keyPrefix tenant) with
  | some (.members approvalIds) => approvalIds
  | _ => ∅

/-- Each key holds what it is for. -/
structure Typed (externals : Externals) (keyPrefix : String) (database : Database) : Prop where
  records : ∀ name stored, database.keyspace.get name = some (.record stored) →
    ∃ uuid : Uuid, ∃ record, name = key keyPrefix uuid.text ∧ stored.validate externals = some record ∧
      record.approvalId = uuid.text
  members : ∀ name approvalIds, database.keyspace.get name = some (.members approvalIds) →
    ∃ tenant, name = tenantPendingKey keyPrefix tenant

section

variable {externals : Externals} {keyPrefix : String} {database : Database}

theorem Typed.index_ne_record (typed : Typed externals keyPrefix database) (tenant : String) (stored : StoredRecord) :
    database.keyspace.get (tenantPendingKey keyPrefix tenant) ≠ some (.record stored) := by
  intro found
  obtain ⟨uuid, -, same, -⟩ := typed.records _ _ found
  exact key_ne_tenantPendingKey keyPrefix uuid tenant same.symm

theorem Typed.record_of_found (typed : Typed externals keyPrefix database) {approvalId : String} {stored : StoredRecord}
    (found : database.keyspace.get (key keyPrefix approvalId) = some (.record stored)) :
    ∃ uuid : Uuid, ∃ record, approvalId = uuid.text ∧ stored.validate externals = some record ∧
      record.approvalId = approvalId ∧ database.record externals keyPrefix approvalId = some record := by
  obtain ⟨uuid, record, same, valid, named⟩ := typed.records _ _ found
  obtain rfl := key_injective same
  exact ⟨uuid, record, rfl, valid, named, by simp only [Database.record, found, valid]⟩

theorem Typed.putMembers (typed : Typed externals keyPrefix database) (tenant : String) (approvalIds : Finset String) :
    Typed externals keyPrefix (database.putMembers (tenantPendingKey keyPrefix tenant) approvalIds) := by
  have changed {name : String} {value : Value}
      (found : (database.putMembers (tenantPendingKey keyPrefix tenant) approvalIds).keyspace.get name = some value) :
      name = tenantPendingKey keyPrefix tenant ∧ value = .members approvalIds ∨
        database.keyspace.get name = some value := by
    unfold Database.putMembers at found
    split at found
    · rw [Table.get_remove] at found
      split at found
      · cases found
      · exact .inr found
    · rw [Table.get_set] at found
      split at found
      · rename_i same
        exact .inl ⟨same, (Option.some.inj found).symm⟩
      · exact .inr found
  refine ⟨fun name stored found => ?_, fun name members found => ?_⟩
  · rcases changed found with ⟨-, other⟩ | found
    · cases other
    · exact typed.records name stored found
  · rcases changed found with ⟨same, -⟩ | found
    · exact ⟨tenant, same⟩
    · exact typed.members name members found

theorem Typed.put (typed : Typed externals keyPrefix database) {uuid : Uuid} {stored : StoredRecord}
    {record : ApprovalRecord} (valid : stored.validate externals = some record) (named : record.approvalId = uuid.text) :
    Typed externals keyPrefix (database.put (key keyPrefix uuid.text) (.record stored)) := by
  refine ⟨fun name other found => ?_, fun name members found => ?_⟩
  · rw [Database.put, Table.get_set] at found
    split at found
    · rename_i same
      cases found
      exact ⟨uuid, record, same, valid, named⟩
    · exact typed.records name other found
  · rw [Database.put, Table.get_set] at found
    split at found
    · cases found
    · exact typed.members name members found

theorem record_put (uuid : Uuid) (stored : StoredRecord) (approvalId : String) :
    (database.put (key keyPrefix uuid.text) (.record stored)).record externals keyPrefix approvalId =
      if approvalId = uuid.text then stored.validate externals else database.record externals keyPrefix approvalId := by
  unfold Database.record Database.put
  by_cases same : approvalId = uuid.text
  · simp [same]
  · simp [same, mt key_injective same]

theorem index_put (uuid : Uuid) (stored : StoredRecord) (tenant : String) :
    (database.put (key keyPrefix uuid.text) (.record stored)).index keyPrefix tenant =
      database.index keyPrefix tenant := by
  unfold Database.index Database.put
  rw [Table.get_set, if_neg (key_ne_tenantPendingKey keyPrefix uuid tenant).symm]

theorem index_putMembers (tenant other : String) (approvalIds : Finset String) :
    (database.putMembers (tenantPendingKey keyPrefix tenant) approvalIds).index keyPrefix other =
      if other = tenant then approvalIds else database.index keyPrefix other := by
  unfold Database.index Database.putMembers
  by_cases same : other = tenant
  · by_cases empty : approvalIds = ∅
    · simp [same, empty]
    · simp [same, empty]
  · by_cases empty : approvalIds = ∅
    · simp [same, empty, mt tenantPendingKey_injective same]
    · simp [same, empty, mt tenantPendingKey_injective same]

/-- A record stands under an identifier, so a change of an index leaves it. -/
theorem Typed.record_putMembers (typed : Typed externals keyPrefix database) (tenant : String)
    (approvalIds : Finset String) (approvalId : String) :
    (database.putMembers (tenantPendingKey keyPrefix tenant) approvalIds).record externals keyPrefix approvalId =
      database.record externals keyPrefix approvalId := by
  unfold Database.record Database.putMembers
  by_cases same : key keyPrefix approvalId = tenantPendingKey keyPrefix tenant
  · have unrecorded := typed.index_ne_record tenant
    rw [same]
    by_cases empty : approvalIds = ∅
    · simp only [empty, if_true, Table.get_remove]
    · simp only [empty, if_false, Table.get_set, if_true]
  · by_cases empty : approvalIds = ∅
    · simp [same, empty]
    · simp [same, empty]

/-! ## Commands on typed keys -/

theorem Typed.index_cases (typed : Typed externals keyPrefix database) (tenant : String) :
    database.keyspace.get (tenantPendingKey keyPrefix tenant) = none ∧ database.index keyPrefix tenant = ∅ ∨
      database.keyspace.get (tenantPendingKey keyPrefix tenant) = some (.members (database.index keyPrefix tenant)) := by
  unfold Database.index
  cases found : database.keyspace.get (tenantPendingKey keyPrefix tenant) with
  | none => exact .inl ⟨rfl, rfl⟩
  | some value =>
    cases value with
    | members => exact .inr rfl
    | record stored => exact absurd found (typed.index_ne_record tenant stored)

theorem execute_sadd (typed : Typed externals keyPrefix database) (order : List String) (tenant approvalId : String) :
    execute externals keyPrefix database order (.sadd tenant approvalId) =
      some (database.putMembers (tenantPendingKey keyPrefix tenant)
        (insert approvalId (database.index keyPrefix tenant)), some (), []) := by
  rcases typed.index_cases tenant with ⟨found, empty⟩ | found
  · simp only [execute, found, empty, insert_empty_eq]
    rfl
  · simp only [execute, found]
    rfl

theorem execute_srem (typed : Typed externals keyPrefix database) (order : List String) (tenant approvalId : String) :
    ∃ after, execute externals keyPrefix database order (.srem tenant approvalId) = some (after, some (), []) ∧
      (after = database ∨ after = database.putMembers (tenantPendingKey keyPrefix tenant)
        ((database.index keyPrefix tenant).erase approvalId)) := by
  rcases typed.index_cases tenant with ⟨found, empty⟩ | found
  · exact ⟨database, by simp only [execute, found]; rfl, .inl rfl⟩
  · exact ⟨_, by simp only [execute, found]; rfl, .inr rfl⟩

theorem execute_smembers (typed : Typed externals keyPrefix database) (order : List String) (tenant : String) :
    execute externals keyPrefix database order (.smembers tenant) =
      if order.Nodup ∧ order.toFinset = database.index keyPrefix tenant then some (database, some order, []) else none := by
  rcases typed.index_cases tenant with ⟨found, empty⟩ | found
  · by_cases none' : order = []
    · simp [execute, found, empty, none']
      rfl
    · simp [execute, found, empty, none']
      rfl
  · simp only [execute, found]
    rfl

theorem execute_get (typed : Typed externals keyPrefix database) (order : List String) (approvalId : String) :
    (∃ stored record, execute externals keyPrefix database order (.get approvalId) =
        some (database, some (some stored), [.read approvalId none (some record)]) ∧
      stored.validate externals = some record ∧ database.record externals keyPrefix approvalId = some record) ∨
    (execute externals keyPrefix database order (.get approvalId) =
        some (database, some none, [.read approvalId none none]) ∧
      database.keyspace.get (key keyPrefix approvalId) = none) ∨
    ∃ tenant, approvalId = "pending-index:" ++ tenant ∧ execute externals keyPrefix database order (.get approvalId) =
      some (database, none, [.mistyped (key keyPrefix approvalId)]) := by
  cases found : database.keyspace.get (key keyPrefix approvalId) with
  | none => exact .inr (.inl ⟨by simp only [execute, found]; rfl, rfl⟩)
  | some value =>
    cases value with
    | record stored =>
      obtain ⟨-, record, -, valid, -, recorded⟩ := typed.record_of_found found
      exact .inl ⟨stored, record, by simp only [execute, found, valid]; rfl, valid, recorded⟩
    | members approvalIds =>
      obtain ⟨tenant, same⟩ := typed.members _ _ found
      rw [tenantPendingKey_eq] at same
      exact .inr (.inr ⟨tenant, key_injective same, by simp only [execute, found]; rfl⟩)

end

end AgentPlatform.State.Redis
