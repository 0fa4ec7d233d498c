import AgentPlatform.State.PostgresDecisions
import AgentPlatform.State.RedisCalls
import AgentPlatform.State.SQLiteDecisions

/-! # Decisions in every store

The three stores keep decisions by different means, and to the same effect. -/

namespace AgentPlatform.State

open Interleaving

namespace Redis

section

variable {externals : Externals} {keyPrefix : String} {log before : List StoreObservation} {id : Nat} {call : StoreCall}
  {answer : Except StoreError Answer} {effects : List Effect}

/-- No command raises, and a new identifier has not been used. -/
def Unraised : Effect → Prop
  | .failed | .taken | .mistyped _ => False
  | _ => True

instance : DecidablePred Unraised := fun effect => by unfold Unraised; split <;> infer_instance

def unraised : StoreObservation → Bool
  | .did _ effect => Unraised effect
  | _ => true

theorem explains_of_complete (mine : own id before = .invoked id call :: effects.map (.did id))
    (complete : Complete externals call effects answer)
    (succeeds : ∀ effect, .did id effect ∈ before → Unraised effect) :
    Explains some before id call.operation answer := by
  have did (effect : Effect) (member : effect ∈ effects) : .did id effect ∈ before :=
    mem_of_own (mine ▸ List.mem_cons_of_mem _ (List.mem_map_of_mem member))
  obtain ⟨client, operation⟩ := call
  cases answer with
  | error error =>
    obtain ⟨silent, refuses | failed | taken | ⟨name, mistyped⟩⟩ := complete
    · cases operation with
      | decide =>
        refine ⟨refuses, fun old new wrote => ?_⟩
        have member : .did id (.wrote old new) ∈ own id before := mem_own wrote rfl
        rw [mine] at member
        obtain ⟨effect, among, same⟩ := List.mem_map.mp ((List.mem_cons.mp member).resolve_left (by simp))
        cases same
        exact silent _ among
      | _ => exact refuses.elim
    · exact (succeeds _ (did _ failed)).elim
    · exact (succeeds _ (did _ taken)).elim
    · exact (succeeds _ (did _ mistyped)).elim
  | ok answer =>
    cases operation with
    | createPending requestId requester query tenant uuid4 now =>
      cases answer with
      | created record =>
        obtain ⟨rfl, -⟩ := complete
        exact ⟨rfl, rfl⟩
      | _ => exact complete.elim
    | decide approvalId decision reviewer reason tenant now =>
      cases answer with
      | decided record =>
        obtain ⟨old, named, owned, pending, rfl, rfl⟩ := complete
        exact ⟨now, old, congrArg some named.symm, owned, pending, rfl, did _ (by simp)⟩
      | _ => exact complete.elim
    | get approvalId tenant =>
      cases answer with
      | got found =>
        obtain ⟨seen, rfl, rfl⟩ := complete
        exact ⟨none, seen, by simp, did _ (by simp), rfl⟩
      | _ => exact complete.elim
    | listPending tenant =>
      cases answer with
      | listed records => trivial
      | _ => exact complete.elim

theorem exec_uncovered {database after : Database} {choice : Choice} {c : Command} {reply : Reply c} {out : List Effect}
    (ran : (backend externals keyPrefix).exec id database choice c = some (after, reply, out))
    (uncovered : .uncovered ∈ out) : .failed ∈ out ∨ ∃ name, .mistyped name ∈ out := by
  cases choice with
  | failed =>
    obtain ⟨⟨_, raised⟩, failed, same⟩ := Option.map_eq_some_iff.mp ran
    cases same
    cases c <;> cases failed <;> simp
  | answered order =>
    change execute externals keyPrefix database order c = some (after, reply, out) at ran
    have written (before : Option StoredRecord) (stored : StoredRecord) :
        .uncovered ∉ writeOf externals before stored := by
      unfold writeOf
      split <;> simp
    cases c <;> simp only [execute] at ran <;> (repeat' split at ran) <;> cases ran <;> simp_all

/-- Every run in which no command raises and no new identifier has been used. -/
theorem run_decisionsHold {events : List (Event StoreCall Choice)}
    {final : Interleaving.State Database Command Reply (Except StoreError Answer)}
    (ran : (store externals keyPrefix).run events = some (final, log))
    (succeeds : ∀ id effect, .did id effect ∈ log → Unraised effect) :
    DecisionsHold some (final.backend.record externals keyPrefix) log := by
  have covered (id : Nat) : .did id .uncovered ∉ log := by
    intro uncovered
    obtain ⟨_, _, _, _, _, _, executed, member, seen⟩ := run_executed ran uncovered
    rcases exec_uncovered executed member with failed | ⟨name, mistyped⟩
    · exact succeeds id _ (seen _ failed)
    · exact succeeds id _ (seen _ mistyped)
  have consistent := run_consistent ran covered
  have answers : Throughout (Answers some) log := by
    intro before observation after split
    cases observation with
    | responded id answer =>
      obtain ⟨call, effects, mine, complete⟩ := consistent.complete before _ after split
      refine ⟨call, mem_of_own (mine ▸ List.mem_cons_self), explains_of_complete mine complete fun effect seen => ?_⟩
      exact succeeds id effect (by rw [split]; exact List.mem_append_left _ seen)
    | _ => trivial
  exact Recorded.decisionsHold (run_orderly ran) ⟨consistent.replayed, consistent.lawful, answers⟩

end

end Redis

/-- In every run in which no command fails, decisions hold in each of the stores. -/
theorem stores_decisionsHold (externals : Externals) :
    (∀ events final log, (SQLite.store externals).run events = some (final, log) → (∀ id, .did id .failed ∉ log) →
      DecisionsHold some (final.backend.record externals) log) ∧
    (∀ poolSize events final log, (Postgres.store externals poolSize).run events = some (final, log) →
      (∀ id, .did id .failed ∉ log ∧ .did id .rejected ∉ log) →
      DecisionsHold canonical final.backend.server.committed.get log) ∧
    ∀ keyPrefix events final log, (Redis.store externals keyPrefix).run events = some (final, log) →
      (∀ id effect, .did id effect ∈ log → Redis.Unraised effect) →
      DecisionsHold some (final.backend.record externals keyPrefix) log :=
  ⟨fun _ _ _ ran succeeds => SQLite.run_decisionsHold ran succeeds,
    fun _ _ _ _ ran succeeds => Postgres.Decisions.run_decisionsHold ran succeeds,
    fun _ _ _ _ ran succeeds => Redis.run_decisionsHold ran succeeds⟩

/-- Two clients decide one approval, and its owner reads it. -/
def rivals {χ : Type} (choice : χ) (creating deciding refusing reading : Nat) : List (Event StoreCall χ) :=
  .invoke 0 ⟨0, .createPending "r-1" "alice" "refund" "payments" firstUuid noon⟩ ::
      List.replicate creating (.advance 0 choice) ++
    .invoke 1 ⟨0, .decide firstUuid.text .approved "bob" "ok" "payments" noon⟩ ::
    .invoke 2 ⟨1, .decide firstUuid.text .rejected "carol" "no" "payments" noon⟩ ::
      List.replicate deciding (.advance 1 choice) ++ List.replicate refusing (.advance 2 choice) ++
    .invoke 3 ⟨1, .get firstUuid.text "payments"⟩ :: List.replicate reading (.advance 3 choice)

theorem stores_decisionsHold_rivals :
    (∃ final log, (SQLite.store referenceExternals).run (rivals .answered 4 4 2 2) = some (final, log) ∧
      DecisionsHold some (final.backend.record referenceExternals) log) ∧
    (∃ final log, (Postgres.store referenceExternals fun _ => 1).run (rivals ⟨.answered, noon⟩ 7 7 6 6) =
        some (final, log) ∧ DecisionsHold canonical final.backend.server.committed.get log) ∧
    ∃ final log, (Redis.store referenceExternals "approval:").run (rivals (.answered []) 4 4 2 2) = some (final, log) ∧
      DecisionsHold some (final.backend.record referenceExternals "approval:") log := by
  obtain ⟨hold₁, hold₂, hold₃⟩ := stores_decisionsHold referenceExternals
  obtain ⟨⟨final₁, log₁⟩, ran₁, seen₁⟩ := (Option.any_eq_true _ _).mp
    (show ((SQLite.store referenceExternals).run (rivals .answered 4 4 2 2)).any (fun (_, log) =>
      ∀ observation ∈ log, observation ≠ .did observation.id .failed) = true by decide)
  obtain ⟨⟨final₂, log₂⟩, ran₂, seen₂⟩ := (Option.any_eq_true _ _).mp
    (show ((Postgres.store referenceExternals fun _ => 1).run (rivals ⟨.answered, noon⟩ 7 7 6 6)).any (fun (_, log) =>
      ∀ observation ∈ log, observation ≠ .did observation.id .failed ∧
        observation ≠ .did observation.id .rejected) = true by decide)
  obtain ⟨⟨final₃, log₃⟩, ran₃, seen₃⟩ := (Option.any_eq_true _ _).mp
    (show ((Redis.store referenceExternals "approval:").run (rivals (.answered []) 4 4 2 2)).any (fun (_, log) =>
      log.all Redis.unraised) = true by decide)
  refine ⟨⟨final₁, log₁, ran₁, hold₁ _ _ _ ran₁ fun id failed => of_decide_eq_true seen₁ _ failed rfl⟩,
    ⟨final₂, log₂, ran₂, hold₂ _ _ _ _ ran₂ fun id => ⟨fun failed => ?_, fun rejected => ?_⟩⟩,
    final₃, log₃, ran₃, hold₃ _ _ _ _ ran₃ fun id effect seen => ?_⟩
  · exact (of_decide_eq_true seen₂ _ failed).1 rfl
  · exact (of_decide_eq_true seen₂ _ rejected).2 rfl
  · exact of_decide_eq_true (List.all_eq_true.mp seen₃ _ seen)

end AgentPlatform.State
