import AgentPlatform.State.RedisKeys
import Mathlib.Algebra.Ring.Int.Defs

/-! # Calls of the Redis store

What a call has done when it answers, and what the index and the gauge have to do with the records
between two calls, where no exception comes after a write. -/

namespace AgentPlatform.State.Redis

open Interleaving Python

def own (id : Nat) (log : List StoreObservation) : List StoreObservation := log.filter fun seen => seen.id = id

def counted (client : Nat) (tenant : String) : StoreObservation → Int
  | .did _ (.counted client' tenant' change) => if client' = client ∧ tenant' = tenant then change else 0
  | _ => 0

/-- An effect that leaves the records and the gauge as they are. -/
def Silent : Effect → Prop
  | .wrote .. | .counted .. => False
  | _ => True

/-- The exception that an operation raises by itself. -/
def Refuses : Operation → StoreError → Prop
  | .decide .., error => error = .undecidable
  | _, _ => False

/-- What a call has done when it answers: a call that raises has changed nothing. -/
def Complete (externals : Externals) (call : StoreCall) (effects : List Effect) :
    Except StoreError Answer → Prop
  | .error error => (∀ effect ∈ effects, Silent effect) ∧
      (Refuses call.operation error ∨ .failed ∈ effects ∨ .taken ∈ effects ∨ ∃ name, .mistyped name ∈ effects)
  | .ok answer =>
    match call.operation, answer with
    | .createPending requestId requester query tenant uuid4 now, .created record =>
      record = buildPendingRecord externals requestId requester query tenant uuid4 now ∧
        effects = [.wrote none record, .counted call.client tenant 1]
    | .decide approvalId decision reviewer reason tenant now, .decided record =>
      ∃ old, old.approvalId = approvalId ∧ old.tenant = tenant ∧ old.status = .pending ∧
        record = old.decide decision reviewer reason now ∧
        effects = [.wrote (some old) record, .counted call.client tenant (-1)]
    | .get approvalId tenant, .got found =>
      ∃ seen, effects = [.read approvalId none seen] ∧ found = seen.filter (·.tenant = tenant)
    | .listPending _, .listed _ => ∀ effect ∈ effects, Silent effect
    | _, _ => False

def Completes (externals : Externals) (before : List StoreObservation) : StoreObservation → Prop
  | .responded id answer =>
    ∃ call effects, own id before = .invoked id call :: effects.map (.did id) ∧
      Complete externals call effects answer
  | _ => True

def Closed (externals : Externals) (keyPrefix : String) (database : Database) (approvalId : String) : Prop :=
  ∃ record, database.record externals keyPrefix approvalId = some record ∧ record.status ≠ .pending

/-- A pending record is in the index of its tenant, unless its creation has not come so far. -/
def Indexed (externals : Externals) (keyPrefix : String) (database : Database) (log : List StoreObservation) : Prop :=
  ∀ approvalId record, database.record externals keyPrefix approvalId = some record → record.status = .pending →
    approvalId ∈ database.index keyPrefix record.tenant ∨
      ∃ id, .did id (.wrote none record) ∈ log ∧ ∀ answer, .responded id answer ∉ log

def Owned (externals : Externals) (keyPrefix : String) (database : Database) (approvalId tenant : String) : Prop :=
  ∃ record, database.record externals keyPrefix approvalId = some record ∧ record.tenant = tenant

structure Consistent (externals : Externals) (keyPrefix : String) (database : Database)
    (log : List StoreObservation) : Prop where
  typed : Typed externals keyPrefix database
  replayed : ∀ approvalId, database.record externals keyPrefix approvalId = latest log approvalId
  lawful : Throughout (Lawful some) log
  complete : Throughout (Completes externals) log
  indexed : Indexed externals keyPrefix database log
  listed : ∀ tenant, ∀ approvalId ∈ database.index keyPrefix tenant, Owned externals keyPrefix database approvalId tenant
  gauge : ∀ client tenant, database.pendingApprovals client tenant = (log.map (counted client tenant)).sum

/-- What a call keeps of records, decisions and indexes. -/
structure Keeps (externals : Externals) (keyPrefix : String) (before after : Database) : Prop where
  owned : ∀ approvalId tenant, Owned externals keyPrefix before approvalId tenant →
    Owned externals keyPrefix after approvalId tenant
  closed : ∀ approvalId, Closed externals keyPrefix before approvalId → Closed externals keyPrefix after approvalId
  indexed : ∀ approvalId tenant, approvalId ∈ before.index keyPrefix tenant →
    approvalId ∈ after.index keyPrefix tenant ∨ Closed externals keyPrefix after approvalId

def discipline (externals : Externals) (keyPrefix : String) :
    Discipline Database StoreCall Effect (Except StoreError Answer) where
  Invariant := Consistent externals keyPrefix
  Guarantee _ := Keeps externals keyPrefix
  Allowed effect := effect ≠ .uncovered
  quiet _ _ := ⟨fun _ _ owned => owned, fun _ closed => closed, fun _ _ member => .inl member⟩

/-- The call has had the effects, and something holds that others keep. -/
def Running (id : Nat) (call : StoreCall) (effects : List Effect) (extra : Database → Prop) (database : Database)
    (log : List StoreObservation) : Prop :=
  own id log = .invoked id call :: effects.map (.did id) ∧ extra database

section

variable {externals : Externals} {keyPrefix : String} {database after : Database} {id : Nat} {call : StoreCall}
  {effects : List Effect} {log out : List StoreObservation}

theorem own_append (id : Nat) (first second : List StoreObservation) :
    own id (first ++ second) = own id first ++ own id second :=
  List.filter_append ..

theorem own_others {other : Nat} (apart : other ≠ id) (others : ∀ observation ∈ out, observation.id = other) :
    own id out = [] :=
  List.filter_eq_nil_iff.mpr fun observation member => by simpa [others observation member] using apart

@[simp] theorem own_did (id : Nat) (effects : List Effect) :
    own id (effects.map (.did id) : List StoreObservation) = effects.map (.did id) :=
  List.filter_eq_self.mpr fun observation member => by simp [mem_map_did member]

theorem mem_of_own {observation : StoreObservation} (member : observation ∈ own id log) : observation ∈ log :=
  (List.mem_filter.mp member).1

theorem mem_own {observation : StoreObservation} (member : observation ∈ log) (same : observation.id = id) :
    observation ∈ own id log :=
  List.mem_filter.mpr ⟨member, by simpa using same⟩

theorem Running.not_responded {extra : Database → Prop} (running : Running id call effects extra database log)
    (answer : Except StoreError Answer) : .responded id answer ∉ log := by
  intro responded
  have member : .responded id answer ∈ own id log := mem_own responded rfl
  rw [running.1] at member
  simp at member

theorem stable_running {extra : Database → Prop}
    (kept : ∀ before after, Keeps externals keyPrefix before after → extra before → extra after) :
    Stable (discipline externals keyPrefix) id (Running id call effects extra) := by
  rintro other before log after out apart - keeps others ⟨mine, holds⟩
  refine ⟨?_, kept before after keeps holds⟩
  rw [own_append, own_others apart others, List.append_nil, mine]

theorem Closed.not_pending {approvalId : String} {record : ApprovalRecord}
    (closed : Closed externals keyPrefix database approvalId)
    (found : database.record externals keyPrefix approvalId = some record) : record.status ≠ .pending := by
  obtain ⟨other, found', decided⟩ := closed
  cases found.symm.trans found'
  exact decided

theorem Consistent.silent (consistent : Consistent externals keyPrefix database log)
    (quiet : ∀ effect ∈ effects, Silent effect ∧ ∀ approvalId scope found, effect = .read approvalId scope found →
      found = (database.record externals keyPrefix approvalId).filter (inScope scope)) :
    Consistent externals keyPrefix database (log ++ effects.map (.did id)) := by
  induction effects using List.reverseRecOn with
  | nil => simpa using consistent
  | append_singleton effects effect ih =>
    have before := ih fun other member => quiet other (List.mem_append_left _ member)
    obtain ⟨still, read⟩ := quiet effect (by simp)
    rw [List.map_append, List.map_singleton, ← List.append_assoc]
    generalize log ++ effects.map (.did id) = log at before
    refine ⟨before.typed, fun approvalId => ?_, before.lawful.snoc ?_, before.complete.snoc trivial, ?_,
      before.listed, ?_⟩
    · rw [before.replayed, latest_snoc]
      cases effect with
      | wrote => exact still.elim
      | _ => rfl
    · cases effect with
      | wrote => exact still.elim
      | read approvalId scope found =>
        rw [Lawful, read approvalId scope found rfl, before.replayed]
        rfl
      | _ => trivial
    · intro approvalId record found pending
      refine (before.indexed approvalId record found pending).imp_right ?_
      rintro ⟨creator, wrote, open'⟩
      exact ⟨creator, List.mem_append_left _ wrote, fun answer seen => open' answer (by simpa using seen)⟩
    · intro client tenant
      rw [List.map_append, List.sum_append, ← before.gauge]
      cases effect with
      | counted => exact still.elim
      | _ => simp [counted]

theorem Consistent.write (consistent : Consistent externals keyPrefix database log) {uuid : Uuid} {stored : StoredRecord}
    {before : Option ApprovalRecord} {record : ApprovalRecord} (valid : stored.validate externals = some record)
    (named : record.approvalId = uuid.text) (lawful : Lawful some log (.did id (.wrote before record)))
    (kept : Keeps externals keyPrefix database (database.put (key keyPrefix uuid.text) (.record stored)))
    (created : record.status = .pending → before = none ∧ ∀ answer, .responded id answer ∉ log) :
    Consistent externals keyPrefix (database.put (key keyPrefix uuid.text) (.record stored))
      (log ++ [.did id (.wrote before record)]) where
  typed := consistent.typed.put valid named
  replayed approvalId := by
    rw [record_put, latest_snoc, ← consistent.replayed, valid]
    by_cases same : approvalId = uuid.text
    · simp [written, same, named]
    · simp [written, same, named, Ne.symm same]
  lawful := consistent.lawful.snoc lawful
  complete := consistent.complete.snoc trivial
  indexed := by
    intro approvalId other found pending
    rw [record_put] at found
    rw [index_put]
    split at found
    · cases valid.symm.trans found
      obtain ⟨rfl, open'⟩ := created pending
      exact .inr ⟨id, by simp, fun answer seen => open' answer (by simpa using seen)⟩
    · refine (consistent.indexed approvalId other found pending).imp_right ?_
      rintro ⟨creator, wrote, open'⟩
      exact ⟨creator, List.mem_append_left _ wrote, fun answer seen => open' answer (by simpa using seen)⟩
  listed tenant approvalId member := by
    rw [index_put] at member
    exact kept.owned approvalId tenant (consistent.listed tenant approvalId member)
  gauge client tenant := by
    rw [List.map_append, List.sum_append, ← consistent.gauge]
    simp [counted, Database.put]

theorem Keeps.put {uuid : Uuid} {stored : StoredRecord} {record : ApprovalRecord}
    (valid : stored.validate externals = some record)
    (was : ∀ old, database.record externals keyPrefix uuid.text = some old →
      old.tenant = record.tenant ∧ (old.status ≠ .pending → record.status ≠ .pending)) :
    Keeps externals keyPrefix database (database.put (key keyPrefix uuid.text) (.record stored)) := by
  refine ⟨?_, ?_, fun approvalId tenant member => .inl (by rwa [index_put])⟩
  · rintro approvalId tenant ⟨old, found, owned⟩
    by_cases same : approvalId = uuid.text
    · subst same
      exact ⟨record, by rw [record_put, if_pos rfl, valid], (was old found).1.symm.trans owned⟩
    · exact ⟨old, by rw [record_put, if_neg same, found], owned⟩
  · rintro approvalId ⟨old, found, decided⟩
    by_cases same : approvalId = uuid.text
    · subst same
      exact ⟨record, by rw [record_put, if_pos rfl, valid], (was old found).2 decided⟩
    · exact ⟨old, by rw [record_put, if_neg same, found], decided⟩

theorem Consistent.members (consistent : Consistent externals keyPrefix database log) {tenant : String}
    (approvalIds : Finset String)
    (dropped : ∀ approvalId ∈ database.index keyPrefix tenant, approvalId ∉ approvalIds →
      Closed externals keyPrefix database approvalId)
    (added : ∀ approvalId ∈ approvalIds, Owned externals keyPrefix database approvalId tenant) :
    Consistent externals keyPrefix (database.putMembers (tenantPendingKey keyPrefix tenant) approvalIds) log ∧
      Keeps externals keyPrefix database
        (database.putMembers (tenantPendingKey keyPrefix tenant) approvalIds) := by
  have same (approvalId : String) := consistent.typed.record_putMembers tenant approvalIds approvalId
  have closed (approvalId : String) (was : Closed externals keyPrefix database approvalId) :
      Closed externals keyPrefix (database.putMembers (tenantPendingKey keyPrefix tenant) approvalIds) approvalId := by
    obtain ⟨record, found, decided⟩ := was
    exact ⟨record, (same approvalId).trans found, decided⟩
  have owned (approvalId other : String) (was : Owned externals keyPrefix database approvalId other) :
      Owned externals keyPrefix (database.putMembers (tenantPendingKey keyPrefix tenant) approvalIds) approvalId
        other := by
    obtain ⟨record, found, own⟩ := was
    exact ⟨record, (same approvalId).trans found, own⟩
  have kept (approvalId other : String) (member : approvalId ∈ database.index keyPrefix other) :
      approvalId ∈ (database.putMembers (tenantPendingKey keyPrefix tenant) approvalIds).index keyPrefix other ∨
        Closed externals keyPrefix database approvalId := by
    rw [index_putMembers]
    split
    · rename_i own
      subst own
      by_cases still : approvalId ∈ approvalIds
      · exact .inl still
      · exact .inr (dropped approvalId member still)
    · exact .inl member
  refine ⟨⟨consistent.typed.putMembers tenant approvalIds, fun approvalId => ?_, consistent.lawful, consistent.complete,
    fun approvalId record found pending => ?_, fun other approvalId member => ?_, consistent.gauge⟩,
    owned, closed, fun approvalId other member => ?_⟩
  · rw [same, consistent.replayed]
  · rw [same] at found
    rcases consistent.indexed approvalId record found pending with member | creator
    · exact (kept approvalId _ member).imp_right fun closed => absurd pending (closed.not_pending found)
    · exact .inr creator
  · rw [index_putMembers] at member
    split at member
    · rename_i own
      subst own
      exact owned approvalId _ (added approvalId member)
    · exact owned approvalId other (consistent.listed other approvalId member)
  · exact (kept approvalId other member).imp_right (closed approvalId)

theorem Consistent.respond {answer : Except StoreError Answer}
    (consistent : Consistent externals keyPrefix database log)
    (mine : own id log = .invoked id call :: effects.map (.did id)) (complete : Complete externals call effects answer)
    (settled : ∀ record, .wrote none record ∈ effects →
      record.approvalId ∈ database.index keyPrefix record.tenant ∨
        Closed externals keyPrefix database record.approvalId) :
    Consistent externals keyPrefix database (log ++ [.responded id answer]) where
  typed := consistent.typed
  replayed approvalId := by
    rw [consistent.replayed, latest_snoc]
    rfl
  lawful := consistent.lawful.snoc trivial
  complete := consistent.complete.snoc ⟨call, effects, mine, complete⟩
  indexed := by
    intro approvalId record found pending
    rcases consistent.indexed approvalId record found pending with member | ⟨creator, wrote, open'⟩
    · exact .inl member
    · by_cases same : creator = id
      · subst same
        have listed : .did creator (.wrote none record) ∈ own creator log := mem_own wrote rfl
        rw [mine] at listed
        obtain ⟨effect, member, same⟩ := List.mem_map.mp ((List.mem_cons.mp listed).resolve_left (by simp))
        cases same
        have named := latest_approvalId ((consistent.replayed approvalId).symm.trans found)
        rcases settled record member with here | closed
        · exact .inl (named ▸ here)
        · exact absurd pending ((named ▸ closed).not_pending found)
      · refine .inr ⟨creator, List.mem_append_left _ wrote, fun other seen => ?_⟩
        rcases List.mem_append.mp seen with seen | seen
        · exact open' other seen
        · cases List.mem_singleton.mp seen
          exact same rfl
  listed := consistent.listed
  gauge client tenant := by
    rw [List.map_append, List.sum_append, ← consistent.gauge]
    simp [counted]

theorem Consistent.invoke (consistent : Consistent externals keyPrefix database log) (id : Nat) (call : StoreCall) :
    Consistent externals keyPrefix database (log ++ [.invoked id call]) where
  typed := consistent.typed
  replayed approvalId := by
    rw [consistent.replayed, latest_snoc]
    rfl
  lawful := consistent.lawful.snoc trivial
  complete := consistent.complete.snoc trivial
  indexed := by
    intro approvalId record found pending
    refine (consistent.indexed approvalId record found pending).imp_right ?_
    rintro ⟨creator, wrote, open'⟩
    exact ⟨creator, List.mem_append_left _ wrote, fun answer seen => open' answer (by simpa using seen)⟩
  listed := consistent.listed
  gauge client tenant := by
    rw [List.map_append, List.sum_append, ← consistent.gauge]
    simp [counted]

/-! ## The outline of a call -/

variable {extra : Database → Prop} {rest : StoreProgram (Except StoreError Answer)}

/-- An outline of a call from what it has done so far. -/
abbrev Outlines (externals : Externals) (keyPrefix : String) (id : Nat) (call : StoreCall) (effects : List Effect)
    (extra : Database → Prop) (point : StoreProgram (Except StoreError Answer)) : Prop :=
  Outline (discipline externals keyPrefix) (backend externals keyPrefix) id (Running id call effects extra) point

theorem Running.append {more : List Effect} (running : Running id call effects extra database log)
    {extra' : Database → Prop} (holds : extra' after) :
    Running id call (effects ++ more) extra' after (log ++ more.map (.did id)) :=
  ⟨by rw [own_append, own_did, running.1, List.map_append, List.cons_append], holds⟩

theorem outline_done {answer : Except StoreError Answer}
    (kept : ∀ before after, Keeps externals keyPrefix before after → extra before → extra after)
    (complete : Complete externals call effects answer)
    (settled : ∀ database, extra database → ∀ record, .wrote none record ∈ effects →
      record.approvalId ∈ database.index keyPrefix record.tenant ∨
        Closed externals keyPrefix database record.approvalId) :
    Outlines externals keyPrefix id call effects extra (.done answer) :=
  .done (stable_running kept) fun database _ consistent running =>
    Consistent.respond consistent running.1 complete (settled database running.2)

theorem outline_raise {error : StoreError} (silent : ∀ effect ∈ effects, Silent effect)
    (reported : Refuses call.operation error ∨ .failed ∈ effects ∨ .taken ∈ effects ∨ ∃ name, .mistyped name ∈ effects) :
    Outlines externals keyPrefix id call effects (fun _ => True) (.done (.error error)) :=
  outline_done (fun _ _ _ _ => trivial) ⟨silent, reported⟩ fun _ _ _ wrote => (silent _ wrote).elim

theorem Keeps.refl (database : Database) : Keeps externals keyPrefix database database :=
  ⟨fun _ _ owned => owned, fun _ closed => closed, fun _ _ member => .inl member⟩

theorem outline_gauge {client : Nat} {tenant : String} {change : Int}
    (kept : ∀ before after, Keeps externals keyPrefix before after → extra before → extra after)
    (onward : Outlines externals keyPrefix id call (effects ++ [.counted client tenant change]) extra rest) :
    Outlines externals keyPrefix id call effects extra
      (.command (.adjustGauge client tenant change) fun _ => rest) := by
  refine .command (fun _ => Running id call (effects ++ [.counted client tenant change]) extra)
    (stable_running kept) ?_ fun _ => onward
  rintro database log choice after reply out consistent running ran -
  cases choice with
  | failed => cases ran
  | answered order =>
    cases ran
    have keeps : Keeps externals keyPrefix database { database with
        pendingApprovals := Function.update database.pendingApprovals client
          (Function.update (database.pendingApprovals client) tenant
            (database.pendingApprovals client tenant + change)) } :=
      ⟨fun _ _ owned => owned, fun _ closed => closed, fun _ _ member => .inl member⟩
    refine ⟨⟨⟨consistent.typed.records, consistent.typed.members⟩, fun approvalId => ?_, consistent.lawful.snoc trivial,
      consistent.complete.snoc trivial, ?_, consistent.listed, fun client' tenant' => ?_⟩, keeps, running.append (kept _ _ keeps running.2)⟩
    · exact (consistent.replayed approvalId).trans (by rw [List.map_singleton, latest_snoc]; rfl)
    · intro approvalId record found pending
      refine (consistent.indexed approvalId record found pending).imp_right ?_
      rintro ⟨creator, wrote, open'⟩
      exact ⟨creator, List.mem_append_left _ wrote, fun answer seen => open' answer (by simpa using seen)⟩
    · rw [List.map_append, List.sum_append, ← consistent.gauge]
      by_cases mine : client' = client
      · subst mine
        by_cases own : tenant' = tenant
        · simp [counted, own]
        · simp [counted, own, Ne.symm own]
      · simp [counted, mine, Ne.symm mine]

theorem outline_sadd {tenant approvalId : String}
    {next : Reply (.sadd tenant approvalId) → StoreProgram (Except StoreError Answer)}
    (kept : ∀ before after, Keeps externals keyPrefix before after → extra before → extra after)
    (owned : ∀ database, extra database → Owned externals keyPrefix database approvalId tenant)
    (onward : Outlines externals keyPrefix id call effects (fun database =>
      approvalId ∈ database.index keyPrefix tenant ∨ Closed externals keyPrefix database approvalId) (next (some ()))) :
    Outlines externals keyPrefix id call effects extra (.command (.sadd tenant approvalId) next) := by
  refine .command (Option.elim · (fun _ _ => False) fun _ => Running id call effects fun database =>
      approvalId ∈ database.index keyPrefix tenant ∨ Closed externals keyPrefix database approvalId)
    (stable_running kept) ?_ ?_
  · rintro database log choice after reply out consistent running ran allowed
    cases choice with
    | failed =>
      cases ran
      exact absurd rfl (allowed .uncovered (by simp))
    | answered order =>
      change execute externals keyPrefix database order (.sadd tenant approvalId) = some (after, reply, out) at ran
      rw [execute_sadd (Consistent.typed consistent)] at ran
      cases ran
      have listed (other : String) (member : other ∈ insert approvalId (database.index keyPrefix tenant)) :
          Owned externals keyPrefix database other tenant := by
        rcases Finset.mem_insert.mp member with rfl | member
        · exact owned database running.2
        · exact Consistent.listed consistent tenant other member
      obtain ⟨consistent', keeps⟩ := Consistent.members consistent
        (insert approvalId (database.index keyPrefix tenant))
        (fun other member absent => absurd (Finset.mem_insert_of_mem member) absent) listed
      rw [List.map_nil, List.append_nil]
      refine ⟨consistent', keeps, running.1, .inl ?_⟩
      rw [index_putMembers, if_pos rfl]
      exact Finset.mem_insert_self _ _
  · rintro (_ | _)
    · exact .unreached (fun _ _ => not_false) _
    · exact onward

theorem outline_srem {tenant approvalId : String}
    {next : Reply (.srem tenant approvalId) → StoreProgram (Except StoreError Answer)}
    (onward : Outlines externals keyPrefix id call effects
      (fun database => Closed externals keyPrefix database approvalId) (next (some ()))) :
    Outlines externals keyPrefix id call effects (fun database => Closed externals keyPrefix database approvalId)
      (.command (.srem tenant approvalId) next) := by
  refine .command (Option.elim · (fun _ _ => False) fun _ =>
      Running id call effects fun database => Closed externals keyPrefix database approvalId)
    (stable_running fun _ _ keeps => keeps.closed approvalId) ?_ ?_
  · rintro database log choice after reply out consistent running ran allowed
    cases choice with
    | failed =>
      cases ran
      exact absurd rfl (allowed .uncovered (by simp))
    | answered order =>
      obtain ⟨removed, executed, changed⟩ :=
        execute_srem (Consistent.typed consistent) order tenant approvalId
      cases executed.symm.trans ran
      rw [List.map_nil, List.append_nil]
      rcases changed with rfl | rfl
      · exact ⟨consistent, .refl _, running.1, running.2⟩
      · obtain ⟨consistent', keeps⟩ := Consistent.members consistent
          ((database.index keyPrefix tenant).erase approvalId)
          (fun other member absent => by
            obtain rfl : other = approvalId := by
              by_contra apart
              exact absent (Finset.mem_erase.mpr ⟨apart, member⟩)
            exact running.2)
          fun other member => Consistent.listed consistent tenant other (Finset.mem_of_mem_erase member)
        exact ⟨consistent', keeps, running.1, keeps.closed approvalId running.2⟩
  · rintro (_ | _)
    · exact .unreached (fun _ _ => not_false) _
    · exact onward

variable {client : Nat}

theorem outline_createPending {requestId requester query tenant : String} {uuid4 : Uuid} {now : Datetime} :
    Outlines externals keyPrefix id ⟨client, .createPending requestId requester query tenant uuid4 now⟩ []
      (fun _ => True) (createPending externals client requestId requester query tenant uuid4 now) := by
  let call : StoreCall := ⟨client, .createPending requestId requester query tenant uuid4 now⟩
  let pending := buildPendingRecord externals requestId requester query tenant uuid4 now
  have valid : (pending.stored (externals.dumpDatetime pending.createdAt)).validate externals = some pending :=
    StoredRecord.validate_stored externals pending (externals.parse_dump now)
  refine .command (Option.elim · (Running id call [.failed] fun _ => True) (cond ·
      (Running id call [.wrote none pending] fun database => Owned externals keyPrefix database pending.approvalId tenant)
      (Running id call [.taken] fun _ => True)))
    (stable_running fun _ _ _ _ => trivial) ?_ ?_
  · rintro database log choice after reply out consistent running ran -
    cases choice with
    | failed =>
      cases ran
      have failing : Running id call [.failed] (fun _ => True) database _ := running.append trivial
      exact ⟨Consistent.silent consistent (by simp [Silent]), .refl _, failing⟩
    | answered order =>
      change execute externals keyPrefix database order (.set pending.approvalId
        (pending.stored (externals.dumpDatetime pending.createdAt))) = some (after, reply, out) at ran
      simp only [execute, writeOf, valid, Option.bind_none] at ran
      split at ran
      · cases ran
        have refused : Running id call [.taken] (fun _ => True) database _ := running.append trivial
        exact ⟨Consistent.silent consistent (by simp [Silent]), .refl _, refused⟩
      · rename_i absent
        cases ran
        have unrecorded : latest log pending.approvalId = none := by
          rw [← Consistent.replayed consistent]
          simp only [Database.record, absent]
        have kept : Keeps externals keyPrefix database (database.put (key keyPrefix uuid4.text)
            (.record (pending.stored (externals.dumpDatetime pending.createdAt)))) := by
          refine Keeps.put valid fun old found => ?_
          rw [Consistent.replayed consistent, show uuid4.text = pending.approvalId from rfl, unrecorded] at found
          cases found
        refine ⟨Consistent.write consistent valid rfl ⟨unrecorded, rfl⟩ kept fun _ => ⟨rfl, running.not_responded⟩,
          kept, ?_⟩
        have owned : Owned externals keyPrefix (database.put (key keyPrefix uuid4.text)
            (.record (pending.stored (externals.dumpDatetime pending.createdAt)))) pending.approvalId tenant :=
          ⟨pending, by rw [record_put, if_pos (show pending.approvalId = uuid4.text from rfl), valid], rfl⟩
        exact (running.append owned :
          Running id call [.wrote none pending] (Owned externals keyPrefix · pending.approvalId tenant) _ _)
  · rintro (_ | _ | _)
    · exact outline_raise (by simp [Silent]) (by simp)
    · exact outline_raise (by simp [Silent]) (by simp)
    · refine outline_sadd (fun before after keeps => keeps.owned _ _) (fun _ owned => owned) ?_
      refine outline_gauge (fun before after keeps => ?_) (outline_done (fun before after keeps => ?_) ⟨rfl, rfl⟩ ?_)
      · exact Or.rec (keeps.indexed _ _) fun closed => .inr (keeps.closed _ closed)
      · exact Or.rec (keeps.indexed _ _) fun closed => .inr (keeps.closed _ closed)
      · intro database holds record wrote
        obtain rfl : record = pending := by simpa using wrote
        exact holds

/-- The exception of a command that changes nothing. -/
def Raised (raised : List Effect) : Prop := raised = [.failed] ∨ ∃ name, raised = [.mistyped name]

theorem Raised.silent {raised : List Effect} (only : Raised raised) : ∀ effect ∈ raised, Silent effect := by
  rcases only with rfl | ⟨name, rfl⟩
  · simp [Silent]
  · simp [Silent]

theorem Raised.reported {raised : List Effect} (only : Raised raised) :
    .failed ∈ raised ∨ .taken ∈ raised ∨ ∃ name, .mistyped name ∈ raised := by
  rcases only with rfl | ⟨name, rfl⟩
  · exact .inl (by simp)
  · exact .inr (.inr ⟨name, by simp⟩)

theorem Consistent.raised {raised : List Effect} (consistent : Consistent externals keyPrefix database log)
    (only : Raised raised) : Consistent externals keyPrefix database (log ++ raised.map (.did id)) := by
  rcases only with rfl | ⟨name, rfl⟩
  · exact consistent.silent (by simp [Silent])
  · exact consistent.silent (by simp [Silent])

theorem execute_eval (typed : Typed externals keyPrefix database) (order : List String) (approvalId : String)
    (decision : Decision) (reviewer reason tenant : String) (now : Datetime) :
    execute externals keyPrefix database order (.eval approvalId decision reviewer reason now.isoformat tenant) =
        some (database, none, [.mistyped (key keyPrefix approvalId)]) ∨
    execute externals keyPrefix database order (.eval approvalId decision reviewer reason now.isoformat tenant) =
        some (database, some none, []) ∨
    ∃ uuid : Uuid, ∃ stored old, approvalId = uuid.text ∧ database.record externals keyPrefix approvalId = some old ∧
      old.approvalId = approvalId ∧ old.status = .pending ∧ old.tenant = tenant ∧
      stored.validate externals = some (old.decide decision reviewer reason now) ∧
      execute externals keyPrefix database order (.eval approvalId decision reviewer reason now.isoformat tenant) =
        some (database.put (key keyPrefix approvalId) (.record stored), some (some stored),
          [.wrote (some old) (old.decide decision reviewer reason now)]) := by
  cases found : database.keyspace.get (key keyPrefix approvalId) with
  | none => exact .inr (.inl (by simp only [execute, found]; rfl))
  | some value =>
    cases value with
    | members => exact .inl (by simp only [execute, found]; rfl)
    | record current =>
      obtain ⟨uuid, old, same, valid, named, recorded⟩ := typed.record_of_found found
      obtain ⟨-, sameTenant, sameStatus⟩ := StoredRecord.validate_fields valid
      have updated := StoredRecord.validate_decide valid decision reviewer reason now
      by_cases pending : current.status = .pending
      · by_cases own : current.tenant = tenant
        · refine .inr (.inr ⟨uuid, _, old, same, recorded, named, sameStatus.trans pending, sameTenant.trans own,
            updated, ?_⟩)
          simp only [execute, found, decideScript, pending, own, writeOf, updated, Option.bind_some, valid, ne_eq,
            not_true_eq_false, if_false]
          rfl
        · exact .inr (.inl (by simp only [execute, found, decideScript, pending, own, ne_eq, not_true_eq_false,
            not_false_eq_true, if_false, if_true]; rfl))
      · exact .inr (.inl (by simp only [execute, found, decideScript, pending, ne_eq, not_false_eq_true, if_true]; rfl))

theorem outline_decide {approvalId reviewer reason tenant : String} {decision : Decision} {now : Datetime} :
    Outlines externals keyPrefix id ⟨client, .decide approvalId decision reviewer reason tenant now⟩ []
      (fun _ => True) (decide externals client approvalId decision reviewer reason tenant now) := by
  let call : StoreCall := ⟨client, .decide approvalId decision reviewer reason tenant now⟩
  refine .command (Option.elim ·
      (fun database log => ∃ raised, Raised raised ∧ Running id call raised (fun _ => True) database log)
      (Option.elim · (Running id call [] fun _ => True) fun result database log =>
        ∃ old, (old.approvalId = approvalId ∧ old.tenant = tenant ∧ old.status = .pending ∧
            result.validate externals = some (old.decide decision reviewer reason now)) ∧
          Running id call [.wrote (some old) (old.decide decision reviewer reason now)]
            (fun database => Closed externals keyPrefix database approvalId) database log))
    (stable_running fun _ _ _ _ => trivial) ?_ ?_
  · rintro database log choice after reply out consistent running ran -
    cases choice with
    | failed =>
      cases ran
      exact ⟨Consistent.raised consistent (.inl rfl), .refl _, _, .inl rfl, running.append trivial⟩
    | answered order =>
      rcases execute_eval (Consistent.typed consistent) order approvalId decision reviewer reason tenant now with
        executed | executed | ⟨uuid, stored, old, rfl, recorded, named, pending, owned, valid, executed⟩
      · cases executed.symm.trans ran
        exact ⟨Consistent.raised consistent (.inr ⟨_, rfl⟩), .refl _, _, .inr ⟨_, rfl⟩, running.append trivial⟩
      · cases executed.symm.trans ran
        exact ⟨by simpa using consistent, .refl _, by simpa using running⟩
      · cases executed.symm.trans ran
        have decides : Decides old (old.decide decision reviewer reason now) :=
          ⟨pending, decision, reviewer, reason, now, rfl⟩
        have lawful : Lawful some log (.did id (.wrote (some old) (old.decide decision reviewer reason now))) := by
          refine ⟨?_, decides⟩
          rw [decides.approvalId, named, ← Consistent.replayed consistent, recorded]
        have kept : Keeps externals keyPrefix database (database.put (key keyPrefix uuid.text) (.record stored)) := by
          refine Keeps.put valid fun other found => ⟨?_, fun _ => decides.not_pending⟩
          cases found.symm.trans recorded
          rfl
        refine ⟨Consistent.write consistent valid (decides.approvalId.trans named) lawful kept
            fun still => absurd still decides.not_pending,
          kept, old, ⟨named, owned, pending, valid⟩, running.append ?_⟩
        exact ⟨_, by rw [record_put, if_pos rfl, valid], decides.not_pending⟩
  · rintro (_ | _ | result)
    · refine .witness fun raised => .given fun only => ?_
      exact outline_raise only.silent (.inr only.reported)
    · exact outline_raise (by simp) (.inl rfl)
    · refine .witness fun old => .given ?_
      rintro ⟨named, owned, pending, valid⟩
      have kept (before after : Database) (keeps : Keeps externals keyPrefix before after)
          (closed : Closed externals keyPrefix before approvalId) := keeps.closed approvalId closed
      dsimp only
      rw [valid]
      refine outline_srem (outline_gauge kept (outline_done kept ⟨old, named, owned, pending, rfl, ?_⟩ ?_))
      · simp only [ApprovalRecord.decide, owned, List.singleton_append]
        rfl
      · simp

theorem Consistent.read {found : Option ApprovalRecord} {approvalId : String}
    (consistent : Consistent externals keyPrefix database log)
    (recorded : database.record externals keyPrefix approvalId = found) :
    Consistent externals keyPrefix database (log ++ [Effect.read approvalId none found].map (.did id)) := by
  refine consistent.silent fun effect member => ?_
  rw [List.mem_singleton.mp member]
  refine ⟨trivial, ?_⟩
  rintro _ _ _ ⟨⟩
  rw [recorded]
  cases found <;> rfl

theorem outline_get {approvalId tenant : String}
    {rest : Except StoreError (Option ApprovalRecord) → StoreProgram (Except StoreError Answer)}
    (found : ∀ seen, Outlines externals keyPrefix id call (effects ++ [.read approvalId none seen]) (fun _ => True)
      (rest (.ok (seen.filter (·.tenant = tenant)))))
    (raised : ∀ raised, Raised raised → Outlines externals keyPrefix id call (effects ++ raised) (fun _ => True)
      (rest (.error .driver))) :
    Outlines externals keyPrefix id call effects (fun _ => True) ((get externals approvalId tenant).bind rest) := by
  refine .command (Option.elim ·
      (fun database log => ∃ raised, Raised raised ∧ Running id call (effects ++ raised) (fun _ => True) database log)
      (Option.elim · (Running id call (effects ++ [.read approvalId none none]) fun _ => True) fun value database log =>
        ∃ record, value.validate externals = some record ∧
          Running id call (effects ++ [.read approvalId none (some record)]) (fun _ => True) database log))
    (stable_running fun _ _ _ _ => trivial) ?_ ?_
  · rintro database log choice after reply out consistent running ran -
    cases choice with
    | failed =>
      cases ran
      exact ⟨Consistent.raised consistent (.inl rfl), .refl _, _, .inl rfl, running.append trivial⟩
    | answered order =>
      rcases execute_get (Consistent.typed consistent) order approvalId with
        ⟨stored, record, executed, valid, recorded⟩ | ⟨executed, absent⟩ | ⟨owner, -, executed⟩
      · cases executed.symm.trans ran
        exact ⟨Consistent.read consistent recorded, .refl _, record, valid, running.append trivial⟩
      · cases executed.symm.trans ran
        have read : Running id call (effects ++ [.read approvalId none none]) (fun _ => True) database _ :=
          running.append trivial
        exact ⟨Consistent.read consistent (by simp only [Database.record, absent]), .refl _, read⟩
      · cases executed.symm.trans ran
        exact ⟨Consistent.raised consistent (.inr ⟨_, rfl⟩), .refl _, _, .inr ⟨_, rfl⟩, running.append trivial⟩
  · rintro (_ | _ | value)
    · exact .witness fun effects => .given fun only => raised effects only
    · exact found none
    · refine .witness fun record => .given fun valid => ?_
      have answer := found (some record)
      have same : (some record).filter (·.tenant = tenant) = if record.tenant = tenant then some record else none := by
        simp only [Option.filter_some, decide_eq_true_eq]
      rw [same] at answer
      dsimp only
      rw [valid]
      exact answer

theorem outline_getAll {tenant : String} {approvalIds : List String}
    {rest : Except StoreError (List (Option ApprovalRecord)) → StoreProgram (Except StoreError Answer)}
    (silent : ∀ effect ∈ effects, Silent effect)
    (found : ∀ effects, (∀ effect ∈ effects, Silent effect) → ∀ records,
      Outlines externals keyPrefix id call effects (fun _ => True) (rest (.ok records)))
    (raised : ∀ effects raised, (∀ effect ∈ effects, Silent effect) → Raised raised →
      Outlines externals keyPrefix id call (effects ++ raised) (fun _ => True) (rest (.error .driver))) :
    Outlines externals keyPrefix id call effects (fun _ => True)
      ((getAll externals tenant approvalIds).bind rest) := by
  induction approvalIds generalizing effects rest with
  | nil => exact found effects silent []
  | cons approvalId approvalIds ih =>
    rw [getAll, Program.bind_assoc]
    refine outline_get (fun seen => ?_) fun error only => raised effects error silent only
    simp only
    rw [Program.bind_assoc]
    refine ih ?_ (fun effects silent records => found effects silent _)
      fun effects error silent only => raised effects error silent only
    intro effect member
    rcases List.mem_append.mp member with member | member
    · exact silent effect member
    · rw [List.mem_singleton.mp member]
      trivial

theorem outline_listPending {tenant : String} :
    Outlines externals keyPrefix id ⟨client, .listPending tenant⟩ [] (fun _ => True)
      (listPending externals tenant) := by
  let call : StoreCall := ⟨client, .listPending tenant⟩
  refine .command (Option.elim ·
      (fun database log => ∃ raised, Raised raised ∧ Running id call raised (fun _ => True) database log)
      fun _ => Running id call [] fun _ => True)
    (stable_running fun _ _ _ _ => trivial) ?_ ?_
  · rintro database log choice after reply out consistent running ran -
    cases choice with
    | failed =>
      cases ran
      exact ⟨Consistent.raised consistent (.inl rfl), .refl _, _, .inl rfl, running.append trivial⟩
    | answered order =>
      change execute externals keyPrefix database order (.smembers tenant) = some (after, reply, out) at ran
      rw [execute_smembers (Consistent.typed consistent)] at ran
      obtain ⟨-, same⟩ := Option.ite_none_right_eq_some.mp ran
      cases same
      exact ⟨by simpa using consistent, .refl _, by simpa using running⟩
  · rintro (_ | approvalIds)
    · refine .witness fun raised => .given fun only => ?_
      exact outline_raise only.silent (.inr only.reported)
    · refine outline_getAll (by simp) (fun effects silent records => ?_) fun effects raised silent only => ?_
      · exact outline_done (fun _ _ _ _ => trivial) silent fun _ _ _ wrote => (silent _ wrote).elim
      · refine outline_raise (fun effect member => ?_) (.inr ?_)
        · exact (List.mem_append.mp member).elim (silent effect) (only.silent effect)
        · exact only.reported.imp (List.mem_append_right effects) (.imp (List.mem_append_right effects)
            (.imp fun _ => List.mem_append_right effects))

theorem outline_getCall {approvalId tenant : String} :
    Outlines externals keyPrefix id ⟨client, .get approvalId tenant⟩ [] (fun _ => True)
      (program externals ⟨client, .get approvalId tenant⟩) := by
  refine outline_get (fun seen => ?_) fun raised only => outline_raise only.silent (.inr only.reported)
  exact outline_done (fun _ _ _ _ => trivial) ⟨seen, rfl, rfl⟩ (by simp)

end

theorem governs (externals : Externals) (keyPrefix : String) :
    Governs (discipline externals keyPrefix) (backend externals keyPrefix) (program externals) where
  initial := {
    typed := { records := by rintro _ _ ⟨⟩, members := by rintro _ _ ⟨⟩ }
    replayed _ := rfl
    lawful := .nil _
    complete := .nil _
    indexed := by rintro _ _ ⟨⟩
    listed := by rintro _ _ ⟨⟩
    gauge _ _ := rfl }
  invoke database log id call consistent fresh := by
    have nothing : own id log = [] := List.filter_eq_nil_iff.mpr fun seen member => by simpa using fresh seen member
    have running : Running id call [] (fun _ => True) database (log ++ [.invoked id call]) := by
      refine ⟨?_, trivial⟩
      rw [own_append, nothing]
      simp [own, Observation.id]
    refine ⟨Consistent.invoke consistent id call, _, running, ?_⟩
    obtain ⟨client, operation⟩ := call
    cases operation with
    | createPending => exact outline_createPending
    | decide => exact outline_decide
    | get => exact outline_getCall
    | listPending => exact outline_listPending

/-- Every run in which no exception comes after a write. -/
theorem run_consistent {externals : Externals} {keyPrefix : String} {events : List (Event StoreCall Choice)}
    {final : Interleaving.State Database Command Reply (Except StoreError Answer)} {log : List StoreObservation}
    (ran : (store externals keyPrefix).run events = some (final, log)) (covered : ∀ id, .did id .uncovered ∉ log) :
    Consistent externals keyPrefix final.backend log :=
  run_invariant (governs externals keyPrefix) ran fun id _ seen same => covered id (same ▸ seen)

end AgentPlatform.State.Redis
