import AgentPlatform.Base.Unwinding
import AgentPlatform.State.SQLiteDecisions

/-! # Tenants of the SQLite store

A tenant sees its own rows only, so the calls of the others can be left out of a run. -/

namespace AgentPlatform.State.SQLite

open Interleaving Python

def Command.owner : Command → Option String
  | .insert row => some row.tenant
  | .update _ _ _ _ _ tenant | .selectOne _ tenant | .selectPending tenant => some tenant
  | .adjustGauge .. => none

def belongsTo (tenant : String) (row : StoredRecord) : Bool := row.tenant = tenant

@[simp] theorem belongsTo_iff {tenant : String} {row : StoredRecord} :
    belongsTo tenant row = true ↔ row.tenant = tenant :=
  decide_eq_true_iff

@[simp] theorem belongsTo_decide (tenant : String) (row : StoredRecord) (decision : Decision)
    (reviewer reason decidedAt : String) :
    belongsTo tenant (row.decide decision reviewer reason decidedAt) = belongsTo tenant row := rfl

/-- What a tenant sees: the table with its own rows alone. -/
def tenantView (tenant : String) : View Database Effect where
  Alike full reduced := Table.Within (belongsTo tenant) reduced.approvals full.approvals
  Known _ := True
  Allowed _ effect := effect ≠ .failed

section

variable {externals : Externals} {tenant : String} {full reduced after : Database} {id : Nat}
  {outcome : Outcome} {c : Command} {reply : Reply c} {out : List Effect}

theorem hidden_command (foreign : ∀ owner, c.owner = some owner → owner ≠ tenant)
    (alike : (tenantView tenant).Alike full reduced)
    (ran : (backend externals).exec id full outcome c = some (after, reply, out))
    (allowed : ∀ effect ∈ out, effect ≠ .failed) : (tenantView tenant).Alike after reduced := by
  have within : Table.Within (belongsTo tenant) reduced.approvals full.approvals := alike
  have executed := exec_answered ran allowed
  cases c with
  | insert row =>
    have other : belongsTo tenant row = false := by simpa [belongsTo] using foreign row.tenant rfl
    simp only [execute] at executed
    split at executed
    · cases executed
      exact within
    · rename_i absent
      cases executed
      exact within.set_dropped other fun old found => by simp [absent] at found
  | update decision reviewer reason decidedAt approvalId owner =>
    simp only [execute] at executed
    split at executed
    · cases executed
      exact within
    · rename_i row found
      split at executed
      · rename_i open'
        cases executed
        have other : belongsTo tenant row = false := by
          simpa [belongsTo, open'.2] using foreign owner rfl
        refine within.set_dropped other fun old same => ?_
        rw [found] at same
        cases same
        exact other
      · cases executed
        exact within
  | selectOne | selectPending | adjustGauge =>
    cases executed
    exact within

theorem execute_shown (own : ∀ owner, c.owner = some owner → owner = tenant)
    (within : Table.Within (belongsTo tenant) reduced.approvals full.approvals)
    (executed : execute externals full c = (after, reply, out)) (allowed : ∀ effect ∈ out, effect ≠ .failed) :
    ∃ after' out', execute externals reduced c = (after', reply, out') ∧
      (∀ effect ∈ out', effect ≠ .failed) ∧
      Table.Within (belongsTo tenant) after'.approvals after.approvals := by
  have written (before : Option StoredRecord) (row : StoredRecord) :
      ∀ effect ∈ writeOf externals before row, effect ≠ .failed := by
    intro effect member
    unfold writeOf at member
    split at member
    · rw [List.mem_singleton.mp member]
      simp
    · cases member
  cases c with
  | insert row =>
    have mine : belongsTo tenant row = true := belongsTo_iff.mpr (own row.tenant rfl)
    simp only [execute] at executed
    split at executed
    · cases executed
      exact absurd rfl (allowed .failed (by simp))
    · rename_i absent
      cases executed
      have absent' : reduced.approvals.get row.approvalId = none := by rw [within.get_eq, absent]; rfl
      exact ⟨{ reduced with approvals := reduced.approvals.set row.approvalId row }, writeOf externals none row,
        by simp only [execute, absent'], written none row, within.set_kept _ mine⟩
  | update decision reviewer reason decidedAt approvalId owner =>
    obtain rfl : owner = tenant := own owner rfl
    have seen := within.get_eq approvalId
    simp only [execute] at executed
    split at executed
    · rename_i absent
      cases executed
      rw [absent] at seen
      exact ⟨reduced, [], by simp only [execute, seen, Option.filter_none], by simp, within⟩
    · rename_i row found
      rw [found] at seen
      split at executed
      · rename_i open'
        cases executed
        have mine : belongsTo owner row = true := belongsTo_iff.mpr open'.2
        rw [Option.filter_some, if_pos mine] at seen
        let updated := row.decide decision reviewer reason decidedAt
        exact ⟨{ reduced with approvals := reduced.approvals.set approvalId updated },
          writeOf externals (some row) updated, by simp only [execute, seen, if_pos open', updated],
          written (some row) updated, within.set_kept approvalId mine⟩
      · rename_i closed
        cases executed
        by_cases mine : belongsTo owner row = true
        · rw [Option.filter_some, if_pos mine] at seen
          exact ⟨reduced, [], by simp only [execute, seen, if_neg closed], by simp, within⟩
        · rw [Option.filter_some, if_neg mine] at seen
          exact ⟨reduced, [], by simp only [execute, seen], by simp, within⟩
  | selectOne approvalId owner =>
    obtain rfl : owner = tenant := own owner rfl
    cases executed
    have seen : (reduced.approvals.get approvalId).filter (belongsTo owner) =
        (full.approvals.get approvalId).filter (belongsTo owner) := by
      rw [within.get_eq, Option.filter_filter]
      simp only [Bool.and_self]
    refine ⟨reduced, _, ?_, allowed, within⟩
    unfold belongsTo at seen
    simp only [execute, seen]
  | selectPending owner =>
    obtain rfl : owner = tenant := own owner rfl
    cases executed
    refine ⟨reduced, [], ?_, by simp, within⟩
    have seen : reduced.approvals.rows.filter (fun row => row.tenant = owner ∧ row.status = .pending) =
        full.approvals.rows.filter fun row => row.tenant = owner ∧ row.status = .pending := by
      rw [within.rows_eq, List.filter_filter]
      refine List.filter_congr fun row _ => ?_
      by_cases mine : row.tenant = owner
      · simp [belongsTo, mine]
      · simp [mine]
    simp only [execute, seen]
  | adjustGauge client owner change =>
    cases executed
    exact ⟨_, [], rfl, by simp, within⟩

theorem shown_command (own : ∀ owner, c.owner = some owner → owner = tenant)
    (alike : (tenantView tenant).Alike full reduced)
    (ran : (backend externals).exec id full outcome c = some (after, reply, out))
    (allowed : ∀ effect ∈ out, effect ≠ .failed) :
    ∃ after' out', (backend externals).exec id reduced outcome c = some (after', reply, out') ∧
      (∀ effect ∈ out', effect ≠ .failed) ∧ (tenantView tenant).Alike after after' := by
  obtain ⟨after', out', executed, rest⟩ := execute_shown own alike (exec_answered ran allowed) allowed
  cases outcome with
  | answered => exact ⟨after', out', congrArg some executed, rest⟩
  | failed =>
    simp only [backend, Option.map_eq_some_iff] at ran
    obtain ⟨_, _, same⟩ := ran
    cases same
    exact absurd rfl (allowed .failed (by simp))

end

theorem program_issues (externals : Externals) (call : StoreCall) :
    Issues (fun c => ∀ owner, c.owner = some owner → owner = call.operation.tenant)
      (program externals call) := by
  have getIssues (approvalId tenant : String) :
      Issues (fun c => ∀ owner, c.owner = some owner → owner = tenant) (get externals approvalId tenant) := by
    refine ⟨fun owner same => (Option.some.inj same).symm, fun reply => ?_⟩
    rcases reply with _ | _ | row
    · trivial
    · trivial
    · dsimp only
      split <;> trivial
  obtain ⟨client, operation⟩ := call
  cases operation with
  | createPending requestId requester query tenant uuid4 now =>
    refine ⟨fun owner same => (Option.some.inj same).symm, fun reply => ?_⟩
    rcases reply with _ | _
    · trivial
    · refine (getIssues _ _).bind fun found => ?_
      rcases found with _ | _ | record
      · trivial
      · trivial
      · exact ⟨by rintro _ ⟨⟩, fun _ => trivial⟩
  | decide approvalId decision reviewer reason tenant now =>
    refine ⟨fun owner same => (Option.some.inj same).symm, fun reply => ?_⟩
    rcases reply with _ | rowcount
    · trivial
    · dsimp only
      split
      · trivial
      · refine (getIssues _ _).bind fun found => ?_
        rcases found with _ | _ | record
        · trivial
        · trivial
        · exact ⟨by rintro _ ⟨⟩, fun _ => trivial⟩
  | get approvalId tenant => exact (getIssues _ _).bind fun _ => trivial
  | listPending tenant =>
    refine ⟨fun owner same => (Option.some.inj same).symm, fun reply => ?_⟩
    rcases reply with _ | rows
    · trivial
    · dsimp only
      split <;> trivial

theorem run_isolated {externals : Externals} (tenant : String) {events : List (Event StoreCall Outcome)}
    {final : Interleaving.State Database Command Reply (Except StoreError Answer)}
    {log : List StoreObservation} (ran : (store externals).run events = some (final, log))
    (succeeds : ∀ id, .did id .failed ∉ log) :
    let own := keptCalls (StoreCall.isFor tenant) events
    ∃ final' log', (store externals).run (restrict own events) = some (final', log') ∧
      answers own log = answers own log' := by
  refine run_keptCalls (tenantView tenant) (Table.Within.empty _) (fun _ _ _ _ _ => trivial) ?_ ?_ ran
    fun id effect seen same => succeeds id (same ▸ seen)
  · intro id call _ mine
    refine (program_issues externals call).shown fun c own full reduced choice after reply out _ _ _ alike ran
      allowed => ?_
    obtain ⟨after', out', ran', allowed', alike'⟩ := shown_command
      (fun owner same => (own owner same).trans (of_decide_eq_true mine)) alike ran allowed
    exact ⟨after', out', ran', allowed', fun _ => alike'⟩
  · intro id call _ other
    refine (program_issues externals call).hidden fun c own full reduced choice after reply out _ _ _ alike ran
      allowed => hidden_command (fun owner same => ?_) alike ran allowed
    rw [own owner same]
    exact of_decide_eq_false other

end AgentPlatform.State.SQLite
