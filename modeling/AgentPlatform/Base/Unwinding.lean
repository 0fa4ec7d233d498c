import AgentPlatform.Base.Interleaving

/-! # Unwinding

Deleting calls from a run. The steps of a deleted call leave the backend alike what it is without them,
and a kept call gets replies that lead it the same way on alike backends. -/

namespace Interleaving

variable {σ κ χ ω ο α : Type} {Reply : κ → Type}

def Event.id : Event ο χ → Nat
  | .invoke id _ | .advance id _ => id

/-- The run without the calls that are not kept. -/
def restrict (kept : Nat → Bool) (events : List (Event ο χ)) : List (Event ο χ) :=
  events.filter fun event => kept event.id

/-- The answers of the kept calls, in the order of the run. -/
def answers (kept : Nat → Bool) (log : List (Observation ο ω α)) : List (Nat × α) :=
  log.filterMap fun
    | .responded id answer => if kept id then some (id, answer) else none
    | _ => none

/-- When backends are alike, what is known of each of them, and the effects that are considered. -/
structure View (σ ω : Type) where
  Alike : σ → σ → Prop
  Known : σ → Prop
  Allowed : Nat → ω → Prop

variable (view : View σ ω) (backend : Backend σ κ χ ω Reply)

def Hidden (id : Nat) : Program κ Reply α → Prop
  | .done _ => True
  | .command c next =>
    ∀ full reduced choice after reply out, view.Known full → view.Known after → view.Known reduced →
      view.Alike full reduced → backend.exec id full choice c = some (after, reply, out) →
      (∀ effect ∈ out, view.Allowed id effect) → view.Alike after reduced ∧ Hidden id (next reply)

def Shown (id : Nat) : Program κ Reply α → Prop
  | .done _ => True
  | .command c next =>
    ∀ full reduced choice after reply out, view.Known full → view.Known after → view.Known reduced →
      view.Alike full reduced → backend.exec id full choice c = some (after, reply, out) →
      (∀ effect ∈ out, view.Allowed id effect) →
      ∃ after' reply' out', backend.exec id reduced choice c = some (after', reply', out') ∧
        next reply' = next reply ∧ (∀ effect ∈ out', view.Allowed id effect) ∧
        (view.Known after' → view.Alike after after') ∧ Shown id (next reply)

/-- A run and the run without the deleted calls. -/
structure Unwound (kept : Nat → Bool) (full reduced : State σ κ Reply α)
    (log log' : List (Observation ο ω α)) : Prop where
  alike : view.Alike full.backend reduced.backend
  calls : reduced.calls = full.calls.filter fun call => kept call.id
  next : reduced.next ≤ full.next
  shown : ∀ call ∈ full.calls, kept call.id = true → Shown view backend call.id call.program
  hidden : ∀ call ∈ full.calls, kept call.id = false → Hidden view backend call.id call.program
  allowed : ∀ id effect, .did id effect ∈ log' → view.Allowed id effect
  answers : answers kept log = answers kept log'

variable {view backend} {program : ο → Program κ Reply α} {kept : Nat → Bool}

theorem answers_append (first second : List (Observation ο ω α)) :
    answers kept (first ++ second) = answers kept first ++ answers kept second :=
  List.filterMap_append

@[simp] theorem answers_did (id : Nat) (effects : List ω) :
    answers kept (effects.map (.did id) : List (Observation ο ω α)) = [] := by
  simp [answers]

theorem step_advance {state next : State σ κ Reply α} {id : Nat} {choice : χ}
    {out : List (Observation ο ω α)}
    (stepped : (machine backend program).step state (.advance id choice) = some (next, out)) :
    ∃ point, ⟨id, point⟩ ∈ state.calls ∧ (state.calls.find? fun call => call.id = id) = some ⟨id, point⟩ ∧
      advance backend { state with calls := state.calls.filter fun other => other.id ≠ id } id choice point =
        some (next, out) := by
  simp only [machine, Option.bind_eq_some_iff] at stepped
  obtain ⟨⟨own, point⟩, found, moved⟩ := stepped
  obtain rfl : own = id := by simpa using List.find?_some found
  exact ⟨point, List.mem_of_find?_eq_some found, found, moved⟩

theorem invoke_unwound {full next reduced : State σ κ Reply α} {id : Nat} {operation : ο}
    {log log' out : List (Observation ο ω α)} (unwound : Unwound view backend kept full reduced log log')
    (stepped : (machine backend program).step full (.invoke id operation : Event ο χ) = some (next, out))
    (shown : kept id = true → Shown view backend id (program operation))
    (hidden : kept id = false → Hidden view backend id (program operation)) :
    (kept id = false ∧ Unwound view backend kept next reduced (log ++ out) log') ∨
    (kept id = true ∧ ∃ next' out',
      (machine backend program).step reduced (.invoke id operation : Event ο χ) = some (next', out') ∧
      Unwound view backend kept next next' (log ++ out) (log' ++ out')) := by
  obtain ⟨fresh, same⟩ := Option.ite_none_right_eq_some.mp stepped
  cases same
  cases own : kept id with
  | false =>
    refine .inl ⟨rfl, unwound.alike, ?_, Nat.le_succ_of_le (Nat.le_trans unwound.next fresh), ?_, ?_,
      unwound.allowed, ?_⟩
    · rw [List.filter_cons_of_neg (by simp [own]), unwound.calls]
    · intro call waiting keep
      rcases List.mem_cons.mp waiting with rfl | waiting
      · exact absurd keep (by simp [own])
      · exact unwound.shown call waiting keep
    · intro call waiting drop
      rcases List.mem_cons.mp waiting with rfl | waiting
      · exact hidden own
      · exact unwound.hidden call waiting drop
    · rw [answers_append, unwound.answers]
      simp [answers]
  | true =>
    have ready : reduced.next ≤ id := Nat.le_trans unwound.next fresh
    refine .inr ⟨rfl, _, _, if_pos ready, unwound.alike, ?_, Nat.le_refl _, ?_, ?_, ?_, ?_⟩
    · rw [List.filter_cons_of_pos (by simp [own]), unwound.calls]
    · intro call waiting keep
      rcases List.mem_cons.mp waiting with rfl | waiting
      · exact shown own
      · exact unwound.shown call waiting keep
    · intro call waiting drop
      rcases List.mem_cons.mp waiting with rfl | waiting
      · exact absurd drop (by simp [own])
      · exact unwound.hidden call waiting drop
    · intro other effect seen
      exact unwound.allowed other effect (by simpa using seen)
    · rw [answers_append, answers_append, unwound.answers]

theorem hidden_unwound {full next reduced : State σ κ Reply α} {id : Nat} {choice : χ}
    {log log' out : List (Observation ο ω α)} (unwound : Unwound view backend kept full reduced log log')
    (stepped : (machine backend program).step full (.advance id choice) = some (next, out))
    (known : view.Known full.backend) (knownNext : view.Known next.backend)
    (knownReduced : view.Known reduced.backend)
    (allowed : ∀ id effect, .did id effect ∈ out → view.Allowed id effect) (drop : kept id = false) :
    Unwound view backend kept next reduced (log ++ out) log' := by
  obtain ⟨point, member, -, moved⟩ := step_advance stepped
  have removed : (full.calls.filter fun other => other.id ≠ id).filter (fun call => kept call.id) =
      full.calls.filter fun call => kept call.id := by
    rw [List.filter_filter]
    refine List.filter_congr fun call _ => ?_
    by_cases own : call.id = id
    · simp [own, drop]
    · simp [own]
  have waiting {call : Call κ Reply α} (still : call ∈ full.calls.filter fun other => other.id ≠ id) :
      call ∈ full.calls := (List.mem_filter.mp still).1
  cases point with
  | done answer =>
    cases moved
    refine ⟨unwound.alike, by rw [unwound.calls, ← removed], unwound.next,
      fun call still => unwound.shown call (waiting still),
      fun call still => unwound.hidden call (waiting still), unwound.allowed, ?_⟩
    rw [answers_append, unwound.answers]
    simp [answers, drop]
  | command c onward =>
    simp only [advance, Option.map_eq_some_iff] at moved
    obtain ⟨⟨after, reply, effects⟩, ran, same⟩ := moved
    cases same
    obtain ⟨alike, rest⟩ := unwound.hidden _ member drop _ _ _ _ _ _ known knownNext knownReduced unwound.alike ran
      fun effect seen => allowed id effect (List.mem_map_of_mem seen)
    refine ⟨alike, ?_, unwound.next, ?_, ?_, unwound.allowed, ?_⟩
    · rw [List.filter_cons_of_neg (by simp [drop]), removed, unwound.calls]
    · intro call still keep
      rcases List.mem_cons.mp still with rfl | still
      · exact absurd keep (by simp [drop])
      · exact unwound.shown call (waiting still) keep
    · intro call still other
      rcases List.mem_cons.mp still with rfl | still
      · exact rest
      · exact unwound.hidden call (waiting still) other
    · rw [answers_append, unwound.answers]
      simp

theorem shown_unwound {full next reduced : State σ κ Reply α} {id : Nat} {choice : χ}
    {log log' out : List (Observation ο ω α)} (unwound : Unwound view backend kept full reduced log log')
    (stepped : (machine backend program).step full (.advance id choice) = some (next, out))
    (known : view.Known full.backend) (knownNext : view.Known next.backend)
    (knownReduced : view.Known reduced.backend)
    (allowed : ∀ id effect, .did id effect ∈ out → view.Allowed id effect) (keep : kept id = true) :
    ∃ next' out', (machine backend program).step reduced (.advance id choice) = some (next', out') ∧
      (∀ id effect, .did id effect ∈ out' → view.Allowed id effect) ∧
      (view.Known next'.backend → Unwound view backend kept next next' (log ++ out) (log' ++ out')) := by
  obtain ⟨point, member, found, moved⟩ := step_advance stepped
  have found' : (reduced.calls.find? fun call => call.id = id) = some ⟨id, point⟩ := by
    have own : (fun call : Call κ Reply α => decide (kept call.id = true ∧ decide (call.id = id) = true)) =
        fun call => decide (call.id = id) := by
      funext call
      by_cases same : call.id = id
      · simp [same, keep]
      · simp [same]
    rw [unwound.calls, List.find?_filter, ← found]
    exact congrArg (List.find? · full.calls) own
  have removed : (full.calls.filter fun other => other.id ≠ id).filter (fun call => kept call.id) =
      reduced.calls.filter fun other => other.id ≠ id := by
    rw [unwound.calls, List.filter_filter, List.filter_filter]
    exact List.filter_congr fun call _ => Bool.and_comm _ _
  have waiting {call : Call κ Reply α} (still : call ∈ full.calls.filter fun other => other.id ≠ id) :
      call ∈ full.calls := (List.mem_filter.mp still).1
  cases point with
  | done answer =>
    cases moved
    refine ⟨{ reduced with calls := reduced.calls.filter fun other => other.id ≠ id }, [.responded id answer],
      by simp only [machine, found', Option.bind_some, advance], by simp, fun _ => ?_⟩
    refine ⟨unwound.alike, removed.symm, unwound.next, fun call still => unwound.shown call (waiting still),
      fun call still => unwound.hidden call (waiting still), ?_, ?_⟩
    · intro other effect seen
      exact unwound.allowed other effect (by simpa using seen)
    · rw [answers_append, answers_append, unwound.answers]
  | command c onward =>
    simp only [advance, Option.map_eq_some_iff] at moved
    obtain ⟨⟨after, reply, effects⟩, ran, same⟩ := moved
    cases same
    obtain ⟨after', reply', effects', ran', way, allowed', alike, rest⟩ := unwound.shown _ member keep _ _ _ _ _ _
      known knownNext knownReduced unwound.alike ran fun effect seen => allowed id effect (List.mem_map_of_mem seen)
    have allowed'' (other : Nat) (effect : ω)
        (seen : .did other effect ∈ effects'.map (Observation.did id : ω → Observation ο ω α)) :
        view.Allowed other effect := by
      obtain ⟨_, listed, same⟩ := List.mem_map.mp seen
      cases same
      exact allowed' effect listed
    refine ⟨⟨after', ⟨id, onward reply'⟩ :: reduced.calls.filter fun other => other.id ≠ id, reduced.next⟩,
      effects'.map (.did id), by simp only [machine, found', Option.bind_some, advance, ran', Option.map_some],
      allowed'', fun knownAfter => ?_⟩
    refine ⟨alike knownAfter, ?_, unwound.next, ?_, ?_, ?_, ?_⟩
    · rw [List.filter_cons_of_pos (by simp [keep]), removed, way]
    · intro call still other
      rcases List.mem_cons.mp still with rfl | still
      · exact rest
      · exact unwound.shown call (waiting still) other
    · intro call still drop
      rcases List.mem_cons.mp still with rfl | still
      · exact absurd drop (by simp [keep])
      · exact unwound.hidden call (waiting still) drop
    · intro other effect seen
      exact (List.mem_append.mp seen).elim (unwound.allowed other effect) (allowed'' other effect)
    · rw [answers_append, answers_append, unwound.answers]
      simp

/-- The unwinding rule: what the kept calls answer does not depend on the deleted calls. -/
theorem run_restrict {events : List (Event ο χ)} {final : State σ κ Reply α} {log : List (Observation ο ω α)}
    (initial : view.Alike backend.init backend.init)
    (known : ∀ events (final : State σ κ Reply α) (log : List (Observation ο ω α)),
      (machine backend program).run events = some (final, log) →
      (∀ id effect, .did id effect ∈ log → view.Allowed id effect) → view.Known final.backend)
    (shown : ∀ id operation, .invoke id operation ∈ events → kept id = true →
      Shown view backend id (program operation))
    (hidden : ∀ id operation, .invoke id operation ∈ events → kept id = false →
      Hidden view backend id (program operation))
    (ran : (machine backend program).run events = some (final, log))
    (allowed : ∀ id effect, .did id effect ∈ log → view.Allowed id effect) :
    ∃ final' log', (machine backend program).run (restrict kept events) = some (final', log') ∧
      Unwound view backend kept final final' log log' := by
  induction events using List.reverseRecOn generalizing final log with
  | nil =>
    cases ran
    exact ⟨_, _, rfl, initial, rfl, Nat.le_refl _, by simp [machine], by simp [machine], by simp, rfl⟩
  | append_singleton events event ih =>
    obtain ⟨middle, before, out, reached, stepped, rfl⟩ := Machine.run_concat ran
    have allowed_before (id : Nat) (effect : ω) (seen : .did id effect ∈ before) : view.Allowed id effect :=
      allowed id effect (List.mem_append_left _ seen)
    have allowed_out (id : Nat) (effect : ω) (seen : .did id effect ∈ out) : view.Allowed id effect :=
      allowed id effect (List.mem_append_right _ seen)
    obtain ⟨middle', before', reached', unwound⟩ := ih
      (fun id operation member => shown id operation (List.mem_append_left _ member))
      (fun id operation member => hidden id operation (List.mem_append_left _ member)) reached allowed_before
    have dropped (drop : kept event.id = false) : restrict kept (events ++ [event]) = restrict kept events := by
      simp [restrict, drop]
    have followed (keep : kept event.id = true) :
        restrict kept (events ++ [event]) = restrict kept events ++ [event] := by
      simp [restrict, keep]
    have knownMiddle := known events middle before reached allowed_before
    have knownFinal := known _ final _ ran allowed
    have knownReduced := known _ middle' before' reached' unwound.allowed
    cases event with
    | invoke id operation =>
      rcases invoke_unwound unwound stepped (shown id operation (by simp)) (hidden id operation (by simp)) with
        ⟨drop, onward⟩ | ⟨keep, next', out', stepped', onward⟩
      · exact ⟨middle', before', by rw [dropped drop, reached'], onward⟩
      · exact ⟨next', before' ++ out', by rw [followed keep]; exact Machine.run_snoc reached' stepped', onward⟩
    | advance id choice =>
      cases own : kept id with
      | false =>
        exact ⟨middle', before', by rw [dropped own, reached'],
          hidden_unwound unwound stepped knownMiddle knownFinal knownReduced allowed_out own⟩
      | true =>
        obtain ⟨next', out', stepped', allowed', onward⟩ :=
          shown_unwound unwound stepped knownMiddle knownFinal knownReduced allowed_out own
        have ran' := Machine.run_snoc reached' stepped'
        refine ⟨next', before' ++ out', by rw [followed own]; exact ran', onward (known _ _ _ ran' ?_)⟩
        intro other effect seen
        exact (List.mem_append.mp seen).elim (unwound.allowed other effect) (allowed' other effect)

def keptCalls (keep : ο → Bool) (events : List (Event ο χ)) (id : Nat) : Bool :=
  events.any fun
    | .invoke invoked operation => decide (invoked = id) && keep operation
    | .advance .. => false

theorem invoked_of_event {events : List (Event ο χ)} {final : State σ κ Reply α}
    {log : List (Observation ο ω α)} (ran : (machine backend program).run events = some (final, log))
    {id : Nat} {operation : ο} (member : .invoke id operation ∈ events) : .invoked id operation ∈ log := by
  induction events using List.reverseRecOn generalizing final log with
  | nil => cases member
  | append_singleton events event ih =>
    obtain ⟨middle, before, out, reached, stepped, rfl⟩ := Machine.run_concat ran
    rcases List.mem_append.mp member with earlier | last
    · exact List.mem_append_left _ (ih reached earlier)
    · rw [← List.mem_singleton.mp last] at stepped
      obtain ⟨-, same⟩ := Option.ite_none_right_eq_some.mp stepped
      cases same
      simp

theorem keptCalls_eq {events : List (Event ο χ)} {final : State σ κ Reply α}
    {log : List (Observation ο ω α)} (ran : (machine backend program).run events = some (final, log))
    (keep : ο → Bool) {id : Nat} {operation : ο} (member : .invoke id operation ∈ events) :
    keptCalls keep events id = keep operation := by
  rw [Bool.eq_iff_iff, keptCalls, List.any_eq_true]
  constructor
  · rintro ⟨event, other, kept⟩
    cases event with
    | invoke invoked operation' =>
      simp only [Bool.and_eq_true, decide_eq_true_iff] at kept
      obtain ⟨rfl, kept⟩ := kept
      rw [(run_orderly ran).invoked_unique (invoked_of_event ran member) (invoked_of_event ran other)]
      exact kept
    | advance => cases kept
  · exact fun kept => ⟨_, member, by simp [kept]⟩

/-- The calls that are kept can be told from their own events. -/
theorem keptCalls_restrict (keep : ο → Bool) (events : List (Event ο χ)) :
    keptCalls keep (restrict (keptCalls keep events) events) = keptCalls keep events := by
  funext id
  rw [Bool.eq_iff_iff]
  constructor
  · intro kept
    obtain ⟨event, member, own⟩ := List.any_eq_true.mp kept
    exact List.any_eq_true.mpr ⟨event, (List.mem_filter.mp member).1, own⟩
  · intro kept
    obtain ⟨event, member, own⟩ := List.any_eq_true.mp kept
    refine List.any_eq_true.mpr ⟨event, List.mem_filter.mpr ⟨member, ?_⟩, own⟩
    cases event with
    | invoke invoked operation =>
      obtain ⟨same, -⟩ := (Bool.and_eq_true _ _).mp own
      have known : invoked = id := of_decide_eq_true same
      rw [show (Event.invoke invoked operation : Event ο χ).id = id from known]
      exact kept
    | advance => cases own

variable (view) in
theorem run_keptCalls {keep : ο → Bool} {events : List (Event ο χ)} {final : State σ κ Reply α}
    {log : List (Observation ο ω α)} (initial : view.Alike backend.init backend.init)
    (known : ∀ events (final : State σ κ Reply α) (log : List (Observation ο ω α)),
      (machine backend program).run events = some (final, log) →
      (∀ id effect, .did id effect ∈ log → view.Allowed id effect) → view.Known final.backend)
    (shown : ∀ id operation, keptCalls keep events id = true → keep operation = true →
      Shown view backend id (program operation))
    (hidden : ∀ id operation, keptCalls keep events id = false → keep operation = false →
      Hidden view backend id (program operation))
    (ran : (machine backend program).run events = some (final, log))
    (allowed : ∀ id effect, .did id effect ∈ log → view.Allowed id effect) :
    ∃ final' log', (machine backend program).run (restrict (keptCalls keep events) events) = some (final', log') ∧
      answers (keptCalls keep events) log = answers (keptCalls keep events) log' := by
  have own (id : Nat) (operation : ο) (member : .invoke id operation ∈ events) :
      keptCalls keep events id = keep operation := keptCalls_eq ran keep member
  obtain ⟨final', log', ran', unwound⟩ := run_restrict initial known
    (fun id operation member kept => shown id operation kept (own id operation member ▸ kept))
    (fun id operation member dropped => hidden id operation dropped (own id operation member ▸ dropped)) ran allowed
  exact ⟨final', log', ran', unwound.answers⟩

/-- Every command that a program may come to. -/
def Issues (holds : κ → Prop) : Program κ Reply α → Prop
  | .done _ => True
  | .command c next => holds c ∧ ∀ reply, Issues holds (next reply)

theorem Issues.bind {β : Type} {holds : κ → Prop} {first : Program κ Reply α} {rest : α → Program κ Reply β}
    (issues : Issues holds first) (onward : ∀ answer, Issues holds (rest answer)) :
    Issues holds (first.bind rest) := by
  induction first with
  | done answer => exact onward answer
  | command c next ih => exact ⟨issues.1, fun reply => ih reply (issues.2 reply)⟩

theorem Issues.hidden {holds : κ → Prop} {point : Program κ Reply α} {id : Nat} (issues : Issues holds point)
    (step : ∀ c, holds c → ∀ full reduced choice after reply out, view.Known full → view.Known after →
      view.Known reduced → view.Alike full reduced → backend.exec id full choice c = some (after, reply, out) →
      (∀ effect ∈ out, view.Allowed id effect) → view.Alike after reduced) :
    Hidden view backend id point := by
  induction point with
  | done answer => trivial
  | command c next ih =>
    intro full reduced choice after reply out known knownAfter knownReduced alike ran allowed
    exact ⟨step c issues.1 full reduced choice after reply out known knownAfter knownReduced alike ran allowed,
      ih reply (issues.2 reply)⟩

theorem Issues.shown {holds : κ → Prop} {point : Program κ Reply α} {id : Nat} (issues : Issues holds point)
    (step : ∀ c, holds c → ∀ full reduced choice after reply out, view.Known full → view.Known after →
      view.Known reduced → view.Alike full reduced → backend.exec id full choice c = some (after, reply, out) →
      (∀ effect ∈ out, view.Allowed id effect) →
      ∃ after' out', backend.exec id reduced choice c = some (after', reply, out') ∧
        (∀ effect ∈ out', view.Allowed id effect) ∧ (view.Known after' → view.Alike after after')) :
    Shown view backend id point := by
  induction point with
  | done answer => trivial
  | command c next ih =>
    intro full reduced choice after reply out known knownAfter knownReduced alike ran allowed
    obtain ⟨after', out', ran', allowed', alike'⟩ := step c issues.1 full reduced choice after reply out known
      knownAfter knownReduced alike ran allowed
    exact ⟨after', reply, out', ran', rfl, allowed', alike', ih reply (issues.2 reply)⟩

end Interleaving
