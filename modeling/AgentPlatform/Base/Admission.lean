import AgentPlatform.Base.Keyed
import AgentPlatform.Base.Unwinding
import Mathlib.Data.List.Nodup

/-! # Calls behind a door

A keyed service admits each call before it starts, or turns it away with an answer of its own. Other requests ask the
same service. -/

namespace Interleaving

inductive DoorEvent (ι ο χ : Type) where
  /-- A request for something else. -/
  | ask (request : ι)
  | arrive (request : ι) (id : Nat) (operation : ο)
  | advance (id : Nat) (choice : χ)

inductive DoorObservation (ο ω α β : Type) where
  | refused (id : Nat) (refusal : β)
  | inside (observation : Observation ο ω α)

variable {σ κ χ ω ο α : Type} {Reply : κ → Type} {θ τ ι β : Type} [DecidableEq θ]
  (service : KeyedService θ τ ι (Except β Unit)) (backend : Backend σ κ χ ω Reply) (program : ο → Program κ Reply α)

/-- A call that is turned away has used up its identifier. -/
def doored (table : θ → τ) :
    Machine ((θ → τ) × State σ κ Reply α) (DoorEvent ι ο χ) (DoorObservation ο ω α β) where
  init := (table, (machine backend program).init)
  step state
    | .ask request => some (((service.call state.1 request).1, state.2), [])
    | .arrive request id operation =>
      match (service.call state.1 request).2 with
      | .ok () => ((machine backend program).step state.2 (.invoke id operation)).map fun next =>
          (((service.call state.1 request).1, next.1), next.2.map .inside)
      | .error refusal =>
        if state.2.next ≤ id then
          some (((service.call state.1 request).1, { state.2 with next := id + 1 }), [.refused id refusal])
        else none
    | .advance id choice => ((machine backend program).step state.2 (.advance id choice)).map fun next =>
        ((state.1, next.1), next.2.map .inside)

variable {service backend program}

/-- What the kept calls come to, at the door or inside, in the order of the run. -/
def results (kept : Nat → Bool) (log : List (DoorObservation ο ω α β)) : List (Nat × Except β α) :=
  log.filterMap fun
    | .refused id refusal => if kept id then some (id, .error refusal) else none
    | .inside (.responded id answer) => if kept id then some (id, .ok answer) else none
    | .inside _ => none

def insideOf (log : List (DoorObservation ο ω α β)) : List (Observation ο ω α) :=
  log.filterMap fun
    | .refused .. => none
    | .inside observation => some observation

theorem results_append (kept : Nat → Bool) (first second : List (DoorObservation ο ω α β)) :
    results kept (first ++ second) = results kept first ++ results kept second := List.filterMap_append

theorem insideOf_append (first second : List (DoorObservation ο ω α β)) :
    insideOf (first ++ second) = insideOf first ++ insideOf second := List.filterMap_append

theorem insideOf_map (out : List (Observation ο ω α)) :
    insideOf (out.map DoorObservation.inside : List (DoorObservation ο ω α β)) = out := by
  rw [insideOf, List.filterMap_map]
  exact List.filterMap_some

theorem results_map (kept : Nat → Bool) (out : List (Observation ο ω α)) :
    results kept (out.map DoorObservation.inside : List (DoorObservation ο ω α β)) =
      (answers kept out).map fun answer => (answer.1, .ok answer.2) := by
  induction out with
  | nil => rfl
  | cons observation out ih =>
    rw [List.map_cons]
    cases observation with
    | responded id answer =>
      cases own : kept id with
      | false =>
        rw [results, List.filterMap_cons_none (by simp [own]), answers, List.filterMap_cons_none (by simp [own])]
        exact ih
      | true =>
        rw [results, List.filterMap_cons_some (by simp [own]; rfl), answers,
          List.filterMap_cons_some (by simp [own]; rfl), List.map_cons]
        exact congrArg _ ih
    | invoked => exact ih
    | did => exact ih

/-! ## Identifiers -/

def DoorEvent.arrival : DoorEvent ι ο χ → Option (ι × Nat × ο)
  | .arrive request id operation => some (request, id, operation)
  | _ => none

theorem next_le_of_step {state next : State σ κ Reply α} {event : Event ο χ} {out : List (Observation ο ω α)}
    (stepped : (machine backend program).step state event = some (next, out)) : state.next ≤ next.next := by
  rcases machine_step_cases stepped with ⟨id, operation, fresh, rfl, -⟩ | ⟨id, answer, -, rfl, -⟩ |
    ⟨id, c, onward, choice, after, reply, effects, -, -, rfl, -⟩
  · exact Nat.le_succ_of_le fresh
  · exact Nat.le_refl _
  · exact Nat.le_refl _

theorem invoke_next {state next : State σ κ Reply α} {id : Nat} {operation : ο} {out : List (Observation ο ω α)}
    (stepped : (machine backend program).step state (.invoke id operation : Event ο χ) = some (next, out)) :
    state.next ≤ id ∧ next.next = id + 1 := by
  obtain ⟨fresh, same⟩ := Option.ite_none_right_eq_some.mp stepped
  cases same
  exact ⟨fresh, rfl⟩

theorem arrive_next {state next : (θ → τ) × State σ κ Reply α} {table : θ → τ} {request : ι} {id : Nat} {operation : ο}
    {out : List (DoorObservation ο ω α β)}
    (stepped : (doored service backend program table).step state (.arrive request id operation : DoorEvent ι ο χ) =
      some (next, out)) : state.2.next ≤ id ∧ next.2.next = id + 1 := by
  cases verdict : (service.call state.1 request).2 with
  | error refusal =>
    simp only [doored, verdict] at stepped
    obtain ⟨fresh, same⟩ := Option.ite_none_right_eq_some.mp stepped
    cases same
    exact ⟨fresh, rfl⟩
  | ok admitted =>
    simp only [doored, verdict, Option.map_eq_some_iff] at stepped
    obtain ⟨⟨after, out₂⟩, invoked, same⟩ := stepped
    cases same
    exact invoke_next invoked

theorem arrivals_increase {state final : (θ → τ) × State σ κ Reply α} {table : θ → τ} {events : List (DoorEvent ι ο χ)}
    {log : List (DoorObservation ο ω α β)}
    (ran : (doored service backend program table).runFrom state events = some (final, log)) :
    (∀ arrival ∈ events.filterMap DoorEvent.arrival, state.2.next ≤ arrival.2.1) ∧
      (events.filterMap DoorEvent.arrival).Pairwise fun first second => first.2.1 < second.2.1 := by
  induction events generalizing state log with
  | nil => exact ⟨fun _ member => absurd member List.not_mem_nil, .nil⟩
  | cons event events ih =>
    obtain ⟨next, out, rest, stepped, onward, -⟩ := Machine.runFrom_cons ran
    obtain ⟨later, ordered⟩ := ih onward
    cases event with
    | ask request =>
      cases stepped
      exact ⟨later, ordered⟩
    | arrive request id operation =>
      obtain ⟨fresh, after⟩ := arrive_next stepped
      rw [after] at later
      have beyond : ∀ arrival ∈ events.filterMap DoorEvent.arrival, id < arrival.2.1 := later
      have listed : ((DoorEvent.arrive request id operation : DoorEvent ι ο χ) :: events).filterMap DoorEvent.arrival =
        (request, id, operation) :: events.filterMap DoorEvent.arrival := rfl
      rw [listed]
      refine ⟨fun arrival member => ?_, List.pairwise_cons.mpr ⟨beyond, ordered⟩⟩
      rcases List.mem_cons.mp member with rfl | member
      · exact fresh
      · exact Nat.le_of_lt (Nat.lt_of_le_of_lt fresh (beyond arrival member))
    | advance id choice =>
      simp only [doored, Option.map_eq_some_iff] at stepped
      obtain ⟨⟨after, out₂⟩, moved, same⟩ := stepped
      cases same
      exact ⟨fun arrival member => Nat.le_trans (next_le_of_step moved) (later arrival member), ordered⟩

/-- The calls of some operations, by their arrivals. -/
def arrivedCalls (keep : ο → Bool) (events : List (DoorEvent ι ο χ)) (id : Nat) : Bool :=
  (events.filterMap DoorEvent.arrival).any fun arrival => decide (arrival.2.1 = id) && keep arrival.2.2

/-- The keys that these calls ask under. -/
def arrivedKeys (service : KeyedService θ τ ι (Except β Unit)) (keep : ο → Bool) (events : List (DoorEvent ι ο χ))
    (key : θ) : Bool :=
  (events.filterMap DoorEvent.arrival).any fun arrival => decide (service.key arrival.1 = key) && keep arrival.2.2

theorem mem_arrivals {events : List (DoorEvent ι ο χ)} {request : ι} {id : Nat} {operation : ο} :
    (request, id, operation) ∈ events.filterMap DoorEvent.arrival ↔ .arrive request id operation ∈ events := by
  rw [List.mem_filterMap]
  constructor
  · rintro ⟨event, member, same⟩
    cases event with
    | arrive => cases same; exact member
    | _ => cases same
  · exact fun member => ⟨_, member, rfl⟩

theorem arrivedCalls_eq {final : (θ → τ) × State σ κ Reply α} {table : θ → τ} {events : List (DoorEvent ι ο χ)}
    {log : List (DoorObservation ο ω α β)} (ran : (doored service backend program table).run events = some (final, log))
    (keep : ο → Bool) {request : ι} {id : Nat} {operation : ο} (member : .arrive request id operation ∈ events) :
    arrivedCalls keep events id = keep operation := by
  have nodup : ((events.filterMap DoorEvent.arrival).map fun arrival => arrival.2.1).Nodup :=
    List.pairwise_map.mpr ((arrivals_increase ran).2.imp Nat.ne_of_lt)
  rw [Bool.eq_iff_iff, arrivedCalls, List.any_eq_true]
  constructor
  · rintro ⟨⟨request', id', operation'⟩, other, kept⟩
    simp only [Bool.and_eq_true, decide_eq_true_iff] at kept
    have same := List.inj_on_of_nodup_map nodup other (mem_arrivals.mpr member) kept.1
    cases same
    exact kept.2
  · exact fun kept => ⟨_, mem_arrivals.mpr member, by simp [kept]⟩

theorem arrivedKeys_eq {events : List (DoorEvent ι ο χ)} (keep : ο → Bool)
    (separate : ∀ request id operation request' id' operation', .arrive request id operation ∈ events →
      .arrive request' id' operation' ∈ events → service.key request = service.key request' →
      keep operation = true → keep operation' = true)
    {request : ι} {id : Nat} {operation : ο} (member : .arrive request id operation ∈ events) :
    arrivedKeys service keep events (service.key request) = keep operation := by
  rw [Bool.eq_iff_iff, arrivedKeys, List.any_eq_true]
  constructor
  · rintro ⟨⟨request', id', operation'⟩, other, kept⟩
    simp only [Bool.and_eq_true, decide_eq_true_iff] at kept
    exact separate _ _ _ _ _ _ (mem_arrivals.mp other) member kept.1 kept.2
  · exact fun kept => ⟨_, mem_arrivals.mpr member, by simp [kept]⟩

/-! ## Calls left out -/

/-- The calls that are kept, and the requests under keys of their own. -/
def keeps (service : KeyedService θ τ ι (Except β Unit)) (kept : Nat → Bool) (own : θ → Bool) : DoorEvent ι ο χ → Bool
  | .ask request => own (service.key request)
  | .arrive _ id _ | .advance id _ => kept id

/-- A run and the run without the calls and requests that are left out. -/
structure Behind (view : View σ ω) (backend : Backend σ κ χ ω Reply) (kept : Nat → Bool) (own : θ → Bool)
    (full reduced : (θ → τ) × State σ κ Reply α) (log log' : List (DoorObservation ο ω α β)) : Prop where
  table : ∀ key, own key = true → full.1 key = reduced.1 key
  inside : Unwound view backend kept full.2 reduced.2 (insideOf log) (insideOf log')
  results : results kept log = results kept log'

section

variable {view : View σ ω} {kept : Nat → Bool} {own : θ → Bool} {full reduced next : (θ → τ) × State σ κ Reply α}
  {log log' out : List (DoorObservation ο ω α β)} {table : θ → τ}

theorem Unwound.step_answers {full reduced next next' : State σ κ Reply α} {log log' out out' : List (Observation ο ω α)}
    (unwound : Unwound view backend kept full reduced log log')
    (onward : Unwound view backend kept next next' (log ++ out) (log' ++ out')) :
    Interleaving.answers kept out = Interleaving.answers kept out' := by
  have after := onward.answers
  rw [answers_append, answers_append, unwound.answers] at after
  exact List.append_cancel_left after

theorem call_own {request : ι} (same : ∀ key, own key = true → full.1 key = reduced.1 key) (key : θ)
    (owned : own key = true) :
    (service.call full.1 request).1 key = (service.call reduced.1 request).1 key :=
  KeyedService.call_congr (same key owned)

theorem call_other {request : ι} (same : ∀ key, own key = true → full.1 key = reduced.1 key)
    (foreign : own (service.key request) = false) (key : θ) (owned : own key = true) :
    (service.call full.1 request).1 key = reduced.1 key := by
  rw [KeyedService.call_of_ne, same key owned]
  rintro rfl
  rw [owned] at foreign
  cases foreign

omit [DecidableEq θ] in
/-- What one step inside does, seen from the door. -/
theorem Behind.within {next₂ next₂' : State σ κ Reply α} {out₂ out₂' : List (Observation ο ω α)} {after after' : θ → τ}
    (behind : Behind view backend kept own full reduced log log')
    (same : ∀ key, own key = true → after key = after' key)
    (onward : Unwound view backend kept next₂ next₂' (insideOf log ++ out₂) (insideOf log' ++ out₂')) :
    Behind view backend kept own (after, next₂) (after', next₂') (log ++ out₂.map .inside) (log' ++ out₂'.map .inside) where
  table := same
  inside := by
    rw [insideOf_append, insideOf_append, insideOf_map, insideOf_map]
    exact onward
  results := by
    rw [results_append, results_append, results_map, results_map, behind.results, behind.inside.step_answers onward]

omit [DecidableEq θ] in
theorem Behind.without {next₂ : State σ κ Reply α} {out₂ : List (Observation ο ω α)} {after : θ → τ}
    (behind : Behind view backend kept own full reduced log log')
    (same : ∀ key, own key = true → after key = reduced.1 key)
    (onward : Unwound view backend kept next₂ reduced.2 (insideOf log ++ out₂) (insideOf log')) :
    Behind view backend kept own (after, next₂) reduced (log ++ out₂.map .inside) log' := by
  have onward' : Unwound view backend kept next₂ reduced.2 (insideOf log ++ out₂) (insideOf log' ++ []) := by
    rwa [List.append_nil]
  have more := behind.within same onward'
  rwa [List.map_nil, List.append_nil] at more

theorem Behind.skipped {request : ι} {id : Nat} {refusal : β} (behind : Behind view backend kept own full reduced log log')
    (fresh : full.2.next ≤ id) (foreign : own (service.key request) = false) (drop : kept id = false) :
    Behind view backend kept own ((service.call full.1 request).1, { full.2 with next := id + 1 }) reduced
      (log ++ [.refused id refusal]) log' where
  table := call_other behind.table foreign
  inside := by
    rw [insideOf_append]
    exact { behind.inside with
      next := Nat.le_succ_of_le (Nat.le_trans behind.inside.next fresh)
      answers := by
        rw [answers_append, behind.inside.answers]
        exact List.append_nil _ }
  results := by
    have unseen : Interleaving.results kept ([.refused id refusal] : List (DoorObservation ο ω α β)) = [] := by
      simp [Interleaving.results, drop]
    rw [results_append, behind.results, unseen, List.append_nil]

theorem Behind.refused {request : ι} {id : Nat} {refusal : β} (behind : Behind view backend kept own full reduced log log') :
    Behind view backend kept own ((service.call full.1 request).1, { full.2 with next := id + 1 })
      ((service.call reduced.1 request).1, { reduced.2 with next := id + 1 }) (log ++ [.refused id refusal])
      (log' ++ [.refused id refusal]) where
  table := call_own behind.table
  inside := by
    rw [insideOf_append, insideOf_append]
    exact { behind.inside with
      next := Nat.le_refl _
      allowed := fun id effect seen => behind.inside.allowed id effect (by simpa [insideOf] using seen)
      answers := by rw [answers_append, answers_append, behind.inside.answers] }
  results := by rw [results_append, results_append, behind.results]

/-- An arrival that is kept goes in, or is turned away, as it does in the full run. -/
theorem arrive_behind {request : ι} {id : Nat} {operation : ο} (behind : Behind view backend kept own full reduced log log')
    (stepped : (doored service backend program table).step full (.arrive request id operation : DoorEvent ι ο χ) =
      some (next, out))
    (owns : own (service.key request) = kept id)
    (shown : kept id = true → Shown view backend id (program operation))
    (hidden : kept id = false → Hidden view backend id (program operation)) :
    (kept id = false ∧ Behind view backend kept own next reduced (log ++ out) log') ∨
    (kept id = true ∧ ∃ next' out',
      (doored service backend program table).step reduced (.arrive request id operation : DoorEvent ι ο χ) =
        some (next', out') ∧ Behind view backend kept own next next' (log ++ out) (log' ++ out')) := by
  cases verdict : (service.call full.1 request).2 with
  | error refusal =>
    simp only [doored, verdict] at stepped
    obtain ⟨fresh, same⟩ := Option.ite_none_right_eq_some.mp stepped
    cases same
    cases keep : kept id with
    | false => exact .inl ⟨rfl, behind.skipped fresh (owns.trans keep) keep⟩
    | true =>
      have again : (service.call reduced.1 request).2 = .error refusal := by
        rw [← verdict]
        exact (KeyedService.call_answer_congr (behind.table _ (owns.trans keep))).symm
      have ready : reduced.2.next ≤ id := Nat.le_trans behind.inside.next fresh
      refine .inr ⟨rfl, _, _, ?_, behind.refused⟩
      simp only [doored, again, if_pos ready]
  | ok admitted =>
    simp only [doored, verdict, Option.map_eq_some_iff] at stepped
    obtain ⟨⟨next₂, out₂⟩, invoked, same⟩ := stepped
    cases same
    rcases invoke_unwound behind.inside invoked shown hidden with ⟨drop, onward⟩ | ⟨keep, next₂', out₂', invoked', onward⟩
    · exact .inl ⟨drop, behind.without (call_other behind.table (owns.trans drop)) onward⟩
    · have again : (service.call reduced.1 request).2 = .ok admitted := by
        rw [← verdict]
        exact (KeyedService.call_answer_congr (behind.table _ (owns.trans keep))).symm
      refine .inr ⟨keep, _, _, ?_, behind.within (call_own behind.table) onward⟩
      simp only [doored, again, invoked', Option.map_some]

theorem ask_behind {request : ι} (behind : Behind view backend kept own full reduced log log')
    (stepped : (doored service backend program table).step full (.ask request : DoorEvent ι ο χ) = some (next, out)) :
    (own (service.key request) = false ∧ Behind view backend kept own next reduced (log ++ out) log') ∨
    (own (service.key request) = true ∧ ∃ next' out',
      (doored service backend program table).step reduced (.ask request : DoorEvent ι ο χ) = some (next', out') ∧
      Behind view backend kept own next next' (log ++ out) (log' ++ out')) := by
  cases stepped
  rw [List.append_nil]
  cases keep : own (service.key request) with
  | false => exact .inl ⟨rfl, call_other behind.table keep, behind.inside, behind.results⟩
  | true =>
    have onward : Behind view backend kept own ((service.call full.1 request).1, full.2)
        ((service.call reduced.1 request).1, reduced.2) log (log' ++ []) := by
      rw [List.append_nil]
      exact ⟨call_own behind.table, behind.inside, behind.results⟩
    exact .inr ⟨rfl, _, _, rfl, onward⟩

theorem advance_behind {id : Nat} {choice : χ} (behind : Behind view backend kept own full reduced log log')
    (known : ∀ state, view.Known state) (allowed : ∀ id effect, view.Allowed id effect)
    (stepped : (doored service backend program table).step full (.advance id choice : DoorEvent ι ο χ) =
      some (next, out)) :
    (kept id = false ∧ Behind view backend kept own next reduced (log ++ out) log') ∨
    (kept id = true ∧ ∃ next' out',
      (doored service backend program table).step reduced (.advance id choice : DoorEvent ι ο χ) = some (next', out') ∧
      Behind view backend kept own next next' (log ++ out) (log' ++ out')) := by
  simp only [doored, Option.map_eq_some_iff] at stepped
  obtain ⟨⟨next₂, out₂⟩, moved, same⟩ := stepped
  cases same
  cases keep : kept id with
  | false =>
    have onward := hidden_unwound behind.inside moved (known _) (known _) (known _) (fun id effect _ => allowed id effect)
      keep
    exact .inl ⟨rfl, behind.without behind.table onward⟩
  | true =>
    obtain ⟨next₂', out₂', moved', -, onward⟩ := shown_unwound behind.inside moved (known _) (known _) (known _)
      (fun id effect _ => allowed id effect) keep
    have stepped' : (doored service backend program table).step reduced (.advance id choice : DoorEvent ι ο χ) =
        some ((reduced.1, next₂'), out₂'.map .inside) := by
      simp only [doored, moved', Option.map_some]
    exact .inr ⟨rfl, _, _, stepped', behind.within behind.table (onward (known _))⟩

/-- One step of the full run, of which the reduced run takes the same or none. -/
theorem door_behind {event : DoorEvent ι ο χ} (behind : Behind view backend kept own full reduced log log')
    (known : ∀ state, view.Known state) (allowed : ∀ id effect, view.Allowed id effect)
    (owns : ∀ request id operation, event = .arrive request id operation → own (service.key request) = kept id)
    (shown : ∀ request id operation, event = .arrive request id operation → kept id = true →
      Shown view backend id (program operation))
    (hidden : ∀ request id operation, event = .arrive request id operation → kept id = false →
      Hidden view backend id (program operation))
    (stepped : (doored service backend program table).step full event = some (next, out)) :
    (keeps service kept own event = false ∧ Behind view backend kept own next reduced (log ++ out) log') ∨
    (keeps service kept own event = true ∧ ∃ next' out',
      (doored service backend program table).step reduced event = some (next', out') ∧
      Behind view backend kept own next next' (log ++ out) (log' ++ out')) := by
  cases event with
  | ask request => exact ask_behind behind stepped
  | arrive request id operation =>
    exact arrive_behind behind stepped (owns request id operation rfl) (shown request id operation rfl)
      (hidden request id operation rfl)
  | advance id choice => exact advance_behind behind known allowed stepped

variable (view) in
/-- The rule: what the kept calls come to does not depend on the requests that share no key with them. -/
theorem doored_keeps {events : List (DoorEvent ι ο χ)} {final : (θ → τ) × State σ κ Reply α}
    (initial : view.Alike backend.init backend.init) (known : ∀ state, view.Known state)
    (allowed : ∀ id effect, view.Allowed id effect)
    (owns : ∀ request id operation, .arrive request id operation ∈ events → own (service.key request) = kept id)
    (shown : ∀ request id operation, .arrive request id operation ∈ events → kept id = true →
      Shown view backend id (program operation))
    (hidden : ∀ request id operation, .arrive request id operation ∈ events → kept id = false →
      Hidden view backend id (program operation))
    (ran : (doored service backend program table).run events = some (final, log)) :
    ∃ final' log', (doored service backend program table).run (events.filter (keeps service kept own)) =
        some (final', log') ∧ Behind view backend kept own final final' log log' := by
  induction events using List.reverseRecOn generalizing final log with
  | nil =>
    cases ran
    exact ⟨_, _, rfl, fun _ _ => rfl, ⟨initial, rfl, Nat.le_refl _, by simp [doored, machine], by simp [doored, machine],
      by simp [insideOf], rfl⟩, rfl⟩
  | append_singleton events event ih =>
    obtain ⟨middle, before, out, reached, stepped, rfl⟩ := Machine.run_concat ran
    obtain ⟨middle', before', reached', behind⟩ := ih
      (fun request id operation member => owns request id operation (List.mem_append_left _ member))
      (fun request id operation member => shown request id operation (List.mem_append_left _ member))
      (fun request id operation member => hidden request id operation (List.mem_append_left _ member)) reached
    have onward := door_behind behind known allowed
      (fun request id operation same => owns request id operation (by simp [same]))
      (fun request id operation same => shown request id operation (by simp [same]))
      (fun request id operation same => hidden request id operation (by simp [same])) stepped
    rw [List.filter_append, List.filter_singleton]
    rcases onward with ⟨drop, onward⟩ | ⟨keep, next', out', stepped', onward⟩
    · rw [drop, cond_false, List.append_nil]
      exact ⟨middle', before', reached', onward⟩
    · rw [keep, cond_true]
      exact ⟨next', before' ++ out', Machine.run_snoc reached' stepped', onward⟩

/-- A run depends on the programs of the calls that arrive in it. -/
theorem doored_congr {program' : ο → Program κ Reply α} {events : List (DoorEvent ι ο χ)}
    (same : ∀ request id operation, .arrive request id operation ∈ events → program operation = program' operation) :
    (doored service backend program table).run events = (doored service backend program' table).run events := by
  suffices general : ∀ state, (doored service backend program table).runFrom state events =
      (doored service backend program' table).runFrom state events from general _
  induction events with
  | nil => exact fun _ => rfl
  | cons event events ih =>
    intro state
    have onward := ih fun request id operation later => same request id operation (List.mem_cons_of_mem _ later)
    have stepped : (doored service backend program table).step state event =
        (doored service backend program' table).step state event := by
      cases event with
      | ask request => rfl
      | arrive request id operation => simp only [doored, machine, same request id operation List.mem_cons_self]
      | advance id choice => rfl
    simp only [Machine.runFrom, stepped, onward]

end

end Interleaving
