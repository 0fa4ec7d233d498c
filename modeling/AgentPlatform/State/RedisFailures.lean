import AgentPlatform.Base.Sequence
import AgentPlatform.State.Instants
import AgentPlatform.State.RedisCalls
import Mathlib.Algebra.BigOperators.Group.Finset.Piecewise

/-! # Failures of the Redis store

What is left where a command raises: as long as no `SADD` or `SREM` does, a call that raises has
changed nothing, each index lists what is pending and the gauge counts it. -/

namespace AgentPlatform.State.Redis

open Interleaving Python

def calledBy (log : List StoreObservation) (client id : Nat) : Bool :=
  log.any fun
    | .invoked id' call => id' = id && call.client = client
    | _ => false

def creates (log : List StoreObservation) (client : Nat) (tenant : String) : StoreObservation → Bool
  | .did id (.wrote none record) => calledBy log client id && record.tenant = tenant
  | _ => false

def decides (log : List StoreObservation) (client : Nat) (tenant : String) : StoreObservation → Bool
  | .did id (.wrote (some _) record) => calledBy log client id && record.tenant = tenant
  | _ => false

def pendingFor (tenant : String) (record : ApprovalRecord) : Prop := record.tenant = tenant ∧ record.status = .pending

/-- A creation whose call has not come to its end. -/
def Unfinished (log : List StoreObservation) (record : ApprovalRecord) : Prop :=
  ∃ id, .did id (.wrote none record) ∈ log ∧ ∀ answer, .responded id answer ∉ log

/-- What `list_pending` answers when no command of it raises. -/
structure Lists (externals : Externals) (keyPrefix : String) (database : Database) (log : List StoreObservation)
    (tenant : String) : Prop where
  answers : ∀ id, ∃ choices answer, .failed ∉ choices ∧
    alone (backend externals keyPrefix) id (listPending externals tenant) choices database = some (database, answer)
  exactly : ∀ id choices after answer, .failed ∉ choices →
    alone (backend externals keyPrefix) id (listPending externals tenant) choices database = some (after, answer) →
    ∃ records, answer = .ok (.listed records) ∧ records.Nodup ∧
      (∀ record ∈ records, pendingFor tenant record ∧
        database.record externals keyPrefix record.approvalId = some record) ∧
      ∀ approvalId record, database.record externals keyPrefix approvalId = some record → pendingFor tenant record →
        record ∈ records ∨ Unfinished log record

/-- A call that raises changes nothing; what is pending is listed once, and counted. -/
structure FailureAtomic (externals : Externals) (keyPrefix : String)
    (state : Interleaving.State Database Command Reply (Except StoreError Answer)) (log : List StoreObservation) :
    Prop where
  unchanged : ∀ id error effect, .responded id (.error error) ∈ log → .did id effect ∈ log → Silent effect
  records : ∀ approvalId, state.backend.record externals keyPrefix approvalId = latest log approvalId
  lists : ∀ tenant, Lists externals keyPrefix state.backend log tenant
  gauge : state.calls = [] → ∀ client tenant, state.backend.pendingApprovals client tenant =
    log.countP (creates log client tenant) - log.countP (decides log client tenant)

section

variable {externals : Externals} {keyPrefix : String} {database after : Database} {id : Nat} {call : StoreCall}
  {log : List StoreObservation} {choices : List Choice}

/-! ## Calls that are over -/

theorem own_of_answered {state : Interleaving.State Database Command Reply (Except StoreError Answer)}
    (orderly : Orderly state log) (complete : Throughout (Completes externals) log)
    {answer : Except StoreError Answer} (responded : .responded id answer ∈ log) :
    ∃ call effects, own id log = .invoked id call :: effects.map (.did id) ++ [.responded id answer] ∧
      Complete externals call effects answer := by
  obtain ⟨before, after, rfl⟩ := List.append_of_mem responded
  obtain ⟨call, effects, mine, done⟩ := complete before _ after rfl
  refine ⟨call, effects, ?_, done⟩
  have nothing : own id after = [] :=
    List.filter_eq_nil_iff.mpr fun seen member => by simpa using orderly.not_after_answer member
  have last : own id (.responded id answer :: after : List StoreObservation) = [.responded id answer] := by
    rw [← List.singleton_append, own_append, nothing]
    simp [own, Observation.id]
  rw [own_append, mine, last]

theorem sum_own (weight : StoreObservation → Int) {ids : Finset Nat} (all : ∀ seen ∈ log, seen.id ∈ ids) :
    (log.map weight).sum = ∑ id ∈ ids, ((own id log).map weight).sum := by
  induction log with
  | nil => simp [own]
  | cons first rest ih =>
    have split (id : Nat) : ((own id (first :: rest)).map weight).sum =
        (if first.id = id then weight first else 0) + ((own id rest).map weight).sum := by
      by_cases same : first.id = id
      · simp [own, same]
      · simp [own, same]
    rw [List.map_cons, List.sum_cons, ih fun seen member => all seen (List.mem_cons_of_mem _ member)]
    simp only [split, Finset.sum_add_distrib, Finset.sum_ite_eq, all first List.mem_cons_self, if_true]

theorem countP_own (holds : StoreObservation → Bool) {ids : Finset Nat} (all : ∀ seen ∈ log, seen.id ∈ ids) :
    (log.countP holds : Int) = ∑ id ∈ ids, ((own id log).countP holds : Int) := by
  have sum (seen : List StoreObservation) :
      (seen.countP holds : Int) = (seen.map fun observation => if holds observation then (1 : Int) else 0).sum := by
    induction seen with
    | nil => rfl
    | cons first rest ih =>
      rw [List.countP_cons, List.map_cons, List.sum_cons, ← ih]
      split <;> simp [add_comm]
  simp only [sum]
  exact sum_own _ all

theorem calledBy_iff {state : Interleaving.State Database Command Reply (Except StoreError Answer)}
    (orderly : Orderly state log) (invoked : .invoked id call ∈ log) (client : Nat) :
    calledBy log client id = true ↔ call.client = client := by
  simp only [calledBy, List.any_eq_true]
  constructor
  · rintro ⟨seen, member, called⟩
    cases seen with
    | invoked id' other =>
      simp only [Bool.and_eq_true, decide_eq_true_eq] at called
      obtain ⟨rfl, same⟩ := called
      rwa [orderly.invoked_unique invoked member]
    | _ => cases called
  · intro same
    exact ⟨_, invoked, by simp [same]⟩

theorem silent_balance {effects : List Effect} (silent : ∀ effect ∈ effects, Silent effect) (client : Nat)
    (tenant : String) : ((effects.map (.did id)).map (counted client tenant)).sum = 0 ∧
      (effects.map (.did id)).countP (creates log client tenant) = 0 ∧
      (effects.map (.did id)).countP (Redis.decides log client tenant) = 0 := by
  have still (seen : StoreObservation) (member : seen ∈ effects.map (.did id)) : counted client tenant seen = 0 ∧
      creates log client tenant seen = false ∧ Redis.decides log client tenant seen = false := by
    obtain ⟨effect, listed, rfl⟩ := List.mem_map.mp member
    have quiet := silent effect listed
    cases effect with
    | wrote | counted => exact quiet.elim
    | _ => exact ⟨rfl, rfl, rfl⟩
  refine ⟨List.sum_eq_zero fun change member => ?_, List.countP_eq_zero.mpr fun seen member => ?_,
    List.countP_eq_zero.mpr fun seen member => ?_⟩
  · obtain ⟨seen, listed, rfl⟩ := List.mem_map.mp member
    exact (still seen listed).1
  · simp [(still seen member).2.1]
  · simp [(still seen member).2.2]

theorem balance {effects : List Effect} {answer : Except StoreError Answer} {client : Nat} (tenant : String)
    (complete : Complete externals call effects answer)
    (called : calledBy log client id = true ↔ call.client = client) :
    ((effects.map (.did id)).map (counted client tenant)).sum =
      (effects.map (.did id)).countP (creates log client tenant) -
        (effects.map (.did id)).countP (Redis.decides log client tenant) := by
  have quiet (silent : ∀ effect ∈ effects, Silent effect) : ((effects.map (.did id)).map (counted client tenant)).sum =
      ((effects.map (.did id)).countP (creates log client tenant) : Int) -
        (effects.map (.did id)).countP (Redis.decides log client tenant) := by
    obtain ⟨sum, made, settled⟩ : ((effects.map (.did id)).map (counted client tenant)).sum = 0 ∧
        (effects.map (.did id)).countP (creates log client tenant) = 0 ∧
        (effects.map (.did id)).countP (Redis.decides log client tenant) = 0 :=
      silent_balance silent client tenant
    rw [sum, made, settled]
    rfl
  obtain ⟨caller, operation⟩ := call
  cases answer with
  | error error => exact quiet complete.1
  | ok answer =>
    cases operation with
    | createPending requestId requester query owner uuid4 now =>
      cases answer with
      | created record =>
        obtain ⟨rfl, rfl⟩ := complete
        by_cases mine : caller = client
        · have own := called.mpr mine
          by_cases same : owner = tenant
          · simp [counted, creates, Redis.decides, own, mine, same, buildPendingRecord]
          · simp [counted, creates, Redis.decides, own, mine, same, buildPendingRecord]
        · simp [counted, creates, Redis.decides, mt called.mp mine, mine]
      | _ => exact complete.elim
    | decide approvalId decision reviewer reason owner now =>
      cases answer with
      | decided record =>
        obtain ⟨old, -, rfl, -, rfl, rfl⟩ := complete
        by_cases mine : caller = client
        · have own := called.mpr mine
          by_cases same : old.tenant = tenant
          · simp [counted, creates, Redis.decides, own, mine, same, ApprovalRecord.decide]
          · simp [counted, creates, Redis.decides, own, mine, same, ApprovalRecord.decide]
        · simp [counted, creates, Redis.decides, mt called.mp mine, mine]
      | _ => exact complete.elim
    | get approvalId owner =>
      cases answer with
      | got found =>
        obtain ⟨seen, rfl, -⟩ := complete
        exact quiet (by simp [Silent])
      | _ => exact complete.elim
    | listPending owner =>
      cases answer with
      | listed records => exact quiet complete
      | _ => exact complete.elim

/-! ## `list_pending` on its own -/

theorem settles_command {α : Type} {c : Command} {next : Reply c → StoreProgram α} {Post : Database → α → Prop}
    (runs : ∃ order, (execute externals keyPrefix database order c).isSome)
    (onward : ∀ order after reply out, execute externals keyPrefix database order c = some (after, reply, out) →
      Settles (backend externals keyPrefix) (· ≠ .failed) id Post (next reply) after) :
    Settles (backend externals keyPrefix) (· ≠ .failed) id Post (.command c next) database := by
  obtain ⟨order, runs⟩ := runs
  refine ⟨⟨.answered order, by simp, runs⟩, fun choice after reply out succeeds ran => ?_⟩
  cases choice with
  | failed => exact absurd rfl succeeds
  | answered order => exact onward order after reply out ran

theorem settles_ran {α : Type} {c : Command} {next : Reply c → StoreProgram α} {Post : Database → α → Prop}
    {reply : Reply c} {out : List Effect}
    (ran : ∀ order, execute externals keyPrefix database order c = some (after, reply, out))
    (onward : Settles (backend externals keyPrefix) (· ≠ .failed) id Post (next reply) after) :
    Settles (backend externals keyPrefix) (· ≠ .failed) id Post (.command c next) database := by
  refine settles_command ⟨[], Option.isSome_of_eq_some (ran [])⟩ fun order after' reply' out' ran' => ?_
  cases (ran order).symm.trans ran'
  exact onward

theorem settles_get (typed : Typed externals keyPrefix database) {approvalId : String} (tenant : String)
    (unindexed : ∀ owner, approvalId ≠ "pending-index:" ++ owner) :
    Settles (backend externals keyPrefix) (· ≠ .failed) id
      (fun after answer => after = database ∧
        answer = .ok ((database.record externals keyPrefix approvalId).filter (·.tenant = tenant)))
      (get externals approvalId tenant) database := by
  have runs : ∃ order, (execute externals keyPrefix database order (.get approvalId)).isSome := by
    refine ⟨[], ?_⟩
    rcases execute_get typed [] approvalId with ⟨_, _, ran, -⟩ | ⟨ran, -⟩ | ⟨_, -, ran⟩
    · exact Option.isSome_of_eq_some ran
    · exact Option.isSome_of_eq_some ran
    · exact Option.isSome_of_eq_some ran
  refine settles_command runs fun order after reply out ran => ?_
  rcases execute_get typed order approvalId with ⟨stored, record, read, valid, recorded⟩ | ⟨read, absent⟩ | ⟨owner, same, -⟩
  · cases read.symm.trans ran
    dsimp only
    rw [valid]
    refine ⟨rfl, ?_⟩
    rw [recorded, Option.filter_some]
    simp only [decide_eq_true_eq]
  · cases read.symm.trans ran
    exact ⟨rfl, by simp only [Database.record, absent]; rfl⟩
  · exact absurd same (unindexed owner)

theorem record_found {approvalId : String} {record : ApprovalRecord}
    (found : database.record externals keyPrefix approvalId = some record) :
    ∃ stored, database.keyspace.get (key keyPrefix approvalId) = some (.record stored) ∧
      stored.validate externals = some record := by
  unfold Database.record at found
  split at found
  · rename_i stored present
    exact ⟨stored, present, found⟩
  · cases found

theorem settles_getAll (typed : Typed externals keyPrefix database) {tenant : String} {approvalIds : List String}
    (owned : ∀ approvalId ∈ approvalIds, Owned externals keyPrefix database approvalId tenant) :
    Settles (backend externals keyPrefix) (· ≠ .failed) id
      (fun after answer => after = database ∧ answer = .ok (approvalIds.map (database.record externals keyPrefix)))
      (getAll externals tenant approvalIds) database := by
  induction approvalIds with
  | nil => exact ⟨rfl, rfl⟩
  | cons approvalId approvalIds ih =>
    obtain ⟨record, found, own⟩ := owned approvalId List.mem_cons_self
    obtain ⟨stored, present, -⟩ := record_found found
    obtain ⟨uuid, -, rfl, -⟩ := typed.record_of_found present
    refine settles_bind.mpr ((settles_get typed tenant (text_ne_index uuid)).imp fun after answer read => ?_)
    obtain ⟨rfl, rfl⟩ := read
    have rest := ih fun other member => owned other (List.mem_cons_of_mem _ member)
    refine settles_bind.mpr (rest.imp fun after answer reads => ?_)
    obtain ⟨rfl, rfl⟩ := reads
    refine ⟨rfl, ?_⟩
    rw [List.map_cons, found, Option.filter_some, if_pos (decide_eq_true own)]
    rfl

theorem settles_listPending (typed : Typed externals keyPrefix database) {tenant : String}
    (listed : ∀ approvalId ∈ database.index keyPrefix tenant, Owned externals keyPrefix database approvalId tenant) :
    Settles (backend externals keyPrefix) (· ≠ .failed) id
      (fun after answer => after = database ∧ ∃ order : List String, order.Nodup ∧
        order.toFinset = database.index keyPrefix tenant ∧
        answer = .ok (.listed (sortedBy (fun record => record.createdAt.parts)
          ((order.filterMap (database.record externals keyPrefix)).filter fun record => record.status = .pending))))
      (listPending externals tenant) database := by
  have runs : (execute externals keyPrefix database (database.index keyPrefix tenant).toList (.smembers tenant)).isSome := by
    rw [execute_smembers typed, if_pos ⟨Finset.nodup_toList _, Finset.toList_toFinset _⟩]
    rfl
  refine settles_command ⟨_, runs⟩ fun order after reply out ran => ?_
  rw [execute_smembers typed] at ran
  obtain ⟨⟨distinct, members⟩, same⟩ := Option.ite_none_right_eq_some.mp ran
  cases same
  have reads := @settles_getAll _ _ _ id typed tenant order fun approvalId member =>
    listed approvalId (by rw [← members]; exact List.mem_toFinset.mpr member)
  refine settles_bind.mpr (reads.imp fun after answer read => ?_)
  obtain ⟨rfl, rfl⟩ := read
  refine ⟨rfl, order, distinct, members, ?_⟩
  simp only [Except.map, List.filterMap_map]
  rfl

theorem lists (consistent : Consistent externals keyPrefix database log) (tenant : String) :
    Lists externals keyPrefix database log tenant where
  answers id := by
    obtain ⟨choices, succeeds, after, answer, ran⟩ :=
      (@settles_listPending _ _ _ id consistent.typed tenant (consistent.listed tenant)).answers
    obtain ⟨rfl, -⟩ := (settles_listPending consistent.typed (consistent.listed tenant)).exactly succeeds ran
    exact ⟨choices, answer, fun failed => succeeds .failed failed rfl, ran⟩
  exactly id choices after answer succeeds ran := by
    obtain ⟨-, order, distinct, listed, rfl⟩ :=
      (settles_listPending consistent.typed (consistent.listed tenant)).exactly
        (fun choice member failed => succeeds (failed ▸ member)) ran
    have named (approvalId : String) (record : ApprovalRecord)
        (found : database.record externals keyPrefix approvalId = some record) : record.approvalId = approvalId :=
      latest_approvalId ((consistent.replayed approvalId).symm.trans found)
    have member (approvalId : String) : approvalId ∈ order ↔ approvalId ∈ database.index keyPrefix tenant := by
      rw [← listed, List.mem_toFinset]
    refine ⟨_, rfl, ?_, fun record among => ?_, fun approvalId record found pending => ?_⟩
    · refine (sortedBy_perm _ _).nodup_iff.mpr (List.Nodup.filter _ (distinct.filterMap ?_))
      intro first second record found found'
      exact (named first record found).symm.trans (named second record found')
    · obtain ⟨among, pending⟩ := List.mem_filter.mp (mem_sortedBy.mp among)
      obtain ⟨approvalId, inOrder, found⟩ := List.mem_filterMap.mp among
      obtain ⟨other, found', own⟩ := consistent.listed tenant approvalId ((member approvalId).mp inOrder)
      cases found.symm.trans found'
      exact ⟨⟨own, by simpa using pending⟩, by rw [named approvalId _ found, found]⟩
    · refine (consistent.indexed approvalId record found pending.2).imp_left fun indexed => ?_
      refine mem_sortedBy.mpr (List.mem_filter.mpr ⟨List.mem_filterMap.mpr ⟨approvalId, ?_, found⟩, ?_⟩)
      · exact (member approvalId).mpr (pending.1 ▸ indexed)
      · simpa using pending.2

end

/-- Every state that is reached while no `SADD` and no `SREM` raises. -/
theorem run_failureAtomic {externals : Externals} {keyPrefix : String} {events : List (Event StoreCall Choice)}
    {final : Interleaving.State Database Command Reply (Except StoreError Answer)} {log : List StoreObservation}
    (ran : (store externals keyPrefix).run events = some (final, log)) (covered : ∀ id, .did id .uncovered ∉ log) :
    FailureAtomic externals keyPrefix final log := by
  have consistent := run_consistent ran covered
  have orderly := run_orderly ran
  refine ⟨fun id error effect raised did => ?_, consistent.replayed, lists consistent, fun settled client tenant => ?_⟩
  · obtain ⟨call, effects, mine, silent, -⟩ := own_of_answered orderly consistent.complete raised
    have member : .did id effect ∈ own id log := mem_own did rfl
    simp only [mine, List.cons_append, List.mem_cons, List.mem_append, reduceCtorEq, false_or] at member
    obtain ⟨other, listed, same⟩ := List.mem_map.mp (member.resolve_right (by simp))
    cases same
    exact silent effect listed
  · have all (seen : StoreObservation) (member : seen ∈ log) : seen.id ∈ (log.map Observation.id).toFinset :=
      List.mem_toFinset.mpr (List.mem_map_of_mem member)
    rw [consistent.gauge, sum_own _ all, countP_own _ all, countP_own _ all, ← Finset.sum_sub_distrib]
    refine Finset.sum_congr rfl fun id member => ?_
    obtain ⟨seen, listed, rfl⟩ := List.mem_map.mp (List.mem_toFinset.mp member)
    obtain ⟨answer, responded⟩ : ∃ answer, .responded seen.id answer ∈ log := by
      rcases run_waiting ran seen listed with ⟨call, waiting, -⟩ | answered
      · rw [settled] at waiting
        exact absurd waiting List.not_mem_nil
      · exact answered
    obtain ⟨call, effects, mine, done⟩ := own_of_answered orderly consistent.complete responded
    have first : .invoked seen.id call ∈ own seen.id log := by
      rw [mine]
      exact List.mem_cons_self
    have invoked := mem_of_own first
    have balanced := balance tenant done (calledBy_iff orderly invoked client)
    rw [mine]
    simpa [counted, creates, Redis.decides] using balanced

/-- The `SET` of a creation raises, and then another creation succeeds. -/
def failedSet : List (Event StoreCall Choice) :=
  serve 0 ⟨0, .createPending "r-1" "alice" "refund" "payments" firstUuid noon⟩ [.failed] (.answered []) ++
    serve 1 ⟨0, .createPending "r-1" "alice" "refund" "payments" firstUuid noon⟩ (List.replicate 3 (.answered []))
      (.answered [])

theorem failedSet_failureAtomic : ∃ final log, (store referenceExternals "approval:").run failedSet = some (final, log) ∧
    FailureAtomic referenceExternals "approval:" final log := by
  obtain ⟨⟨final, log⟩, ran, covered⟩ := (Option.any_eq_true _ _).mp
    (show ((store referenceExternals "approval:").run failedSet).any (fun (_, log) =>
      ∀ seen ∈ log, seen ≠ .did seen.id .uncovered) = true by decide)
  exact ⟨final, log, ran, run_failureAtomic ran fun id uncovered => of_decide_eq_true covered _ uncovered rfl⟩

/-- The `SADD` of a creation raises. -/
def failedSadd : List (Event StoreCall Choice) :=
  serve 0 ⟨0, .createPending "r-1" "alice" "refund" "payments" firstUuid noon⟩ [.answered [], .failed] (.answered [])

/-- The record stays, and no list has it. -/
theorem failedSadd_loses : ∃ final log, (store referenceExternals "approval:").run failedSadd = some (final, log) ∧
    (alone (backend referenceExternals "approval:") 1 (listPending referenceExternals "payments") [.answered []]
      final.backend).map Prod.snd = some (.ok (.listed [])) ∧
    ¬ FailureAtomic referenceExternals "approval:" final log := by
  let record := buildPendingRecord referenceExternals "r-1" "alice" "refund" "payments" firstUuid noon
  obtain ⟨⟨final, log⟩, ran, seen⟩ := (Option.any_eq_true _ _).mp
    (show ((store referenceExternals "approval:").run failedSadd).any (fun (final, log) =>
      (alone (backend referenceExternals "approval:") 1 (listPending referenceExternals "payments") [.answered []]
        final.backend).map Prod.snd = some (.ok (.listed [])) ∧
      .responded 0 (.error .driver) ∈ log ∧ .did 0 (.wrote none record) ∈ log) = true by decide)
  obtain ⟨listed, raised, wrote⟩ := of_decide_eq_true seen
  exact ⟨final, log, ran, listed, fun atomic => atomic.unchanged 0 _ _ raised wrote⟩

end AgentPlatform.State.Redis
