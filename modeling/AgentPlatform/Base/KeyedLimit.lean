import AgentPlatform.Base.Keyed
import AgentPlatform.Base.Machine
import AgentPlatform.Base.RateLimit

/-! # Rate limits by key

One limiter over many keys: sources that share no key never show in each other's verdicts, and two sources
of one key do. -/

namespace RateLimit

variable {κ α τ : Type}

/-- A request as the limiter sees it, and who sent it. -/
structure Check (κ α τ : Type) where
  source : α
  key : κ
  now : τ

theorem checks_filter {ε : Type} {checkOf : ε → Option (Check κ α τ)} (own : α → Bool) (isOwn : ε → Bool)
    (agree : ∀ event asked, checkOf event = some asked → own asked.source = isOwn event) (events : List ε) :
    ((events.filterMap checkOf).filter fun asked => own asked.source) =
      (events.filter isOwn).filterMap checkOf := by
  induction events with
  | nil => rfl
  | cons event events ih =>
    cases found : checkOf event with
    | none =>
      rw [List.filterMap_cons_none found, ih, List.filter_cons]
      cases isOwn event with
      | false => rfl
      | true => exact (List.filterMap_cons_none found).symm
    | some asked =>
      rw [List.filterMap_cons_some found, List.filter_cons, List.filter_cons, agree event asked found, ih]
      cases isOwn event with
      | false => rfl
      | true => exact (List.filterMap_cons_some found).symm

variable [LinearOrder τ] [AddCommGroup τ]

def keyed (limit : Nat) (span : τ) : KeyedService κ (List τ) (Check κ α τ) Bool where
  key := Check.key
  serve requests asked := ((check limit span asked.now requests).2, (check limit span asked.now requests).1)

variable [DecidableEq κ]

def verdicts (limit : Nat) (span : τ) (requests : κ → List τ) (checks : List (Check κ α τ)) : List (α × Bool) :=
  ((keyed limit span).answers requests checks).map fun answer => (answer.1.source, answer.2)

section

variable {limit : Nat} {span : τ} {requests : κ → List τ}

theorem verdicts_nil : verdicts limit span requests ([] : List (Check κ α τ)) = [] := rfl

theorem verdicts_cons (asked : Check κ α τ) (checks : List (Check κ α τ)) :
    verdicts limit span requests (asked :: checks) =
      (asked.source, (check limit span asked.now (requests asked.key)).1) ::
        verdicts limit span
          (Function.update requests asked.key (check limit span asked.now (requests asked.key)).2) checks :=
  rfl

theorem verdicts_filter (kept : α → Bool) (checks : List (Check κ α τ))
    (apart : (keyed limit span).Apart (fun asked : Check κ α τ => kept asked.source) checks) :
    (verdicts limit span requests checks).filter (fun verdict => kept verdict.1) =
      verdicts limit span requests (checks.filter fun asked => kept asked.source) := by
  rw [verdicts, verdicts, List.filter_map]
  exact congrArg (List.map _) (KeyedService.answers_kept requests apart)

end

section

variable {limit : Nat} {span now : τ}

theorem expire_instant (positive : now - span < now) (count : Nat) :
    SlidingWindow.expire id (now - span) (List.replicate count now) = List.replicate count now := by
  cases count with
  | zero => rfl
  | succ count =>
    rw [SlidingWindow.expire, List.replicate_succ, List.dropWhile_cons_of_neg]
    simpa using positive

theorem check_room (positive : now - span < now) {count : Nat} (room : count < limit) :
    check limit span now (List.replicate count now) = (true, List.replicate (count + 1) now) := by
  have notFull : ¬ limit ≤ (List.replicate count now).length := by
    rw [List.length_replicate]
    exact Nat.not_le.mpr room
  rw [check, expire_instant positive, List.replicate_succ']
  exact if_neg notFull

theorem check_full (positive : now - span < now) :
    check limit span now (List.replicate limit now) = (false, List.replicate limit now) := by
  have full : limit ≤ (List.replicate limit now).length := by rw [List.length_replicate]
  rw [check, expire_instant positive]
  exact if_pos full

variable {first second : Check κ α τ}

theorem verdicts_flood (positive : now - span < now) (firstNow : first.now = now)
    (secondNow : second.now = now) (shared : second.key = first.key) {requests : κ → List τ} {held more : Nat}
    (exact_fill : held + more = limit) (before : requests first.key = List.replicate held now) :
    verdicts limit span requests (List.replicate more first ++ [second]) =
      List.replicate more (first.source, true) ++ [(second.source, false)] := by
  induction more generalizing held requests with
  | zero =>
    have full : check limit span second.now (requests second.key) = (false, List.replicate limit now) := by
      rw [secondNow, shared, before, show held = limit from exact_fill]
      exact check_full positive
    rw [List.replicate_zero, List.nil_append, verdicts_cons, full, verdicts_nil]
    rfl
  | succ more ih =>
    have room : check limit span first.now (requests first.key) = (true, List.replicate (held + 1) now) := by
      rw [firstNow, before]
      exact check_room positive (by omega)
    have later := ih (by omega) (Function.update_self first.key (List.replicate (held + 1) now) requests)
    rw [List.replicate_succ, List.cons_append, verdicts_cons, room, later]
    rfl

variable [DecidableEq α]

def verdictsOn (source : α) (limit : Nat) (span : τ) (checks : List (Check κ α τ)) : List Bool :=
  ((verdicts limit span (fun _ => []) checks).filter fun verdict => verdict.1 = source).map Prod.snd

theorem verdictsOn_starved (first second : Check κ α τ) (positive : now - span < now) (firstNow : first.now = now)
    (secondNow : second.now = now) (shared : second.key = first.key) (differ : first.source ≠ second.source) :
    verdictsOn second.source limit span (List.replicate limit first ++ [second]) = [false] := by
  rw [verdictsOn, verdicts_flood positive firstNow secondNow shared (Nat.zero_add limit) rfl]
  simp [List.filter_append, differ]

theorem verdictsOn_alone (second : Check κ α τ) (positive : now - span < now) (secondNow : second.now = now)
    (some_room : 0 < limit) : verdictsOn second.source limit span [second] = [true] := by
  have room : check limit span second.now [] = (true, [now]) := by
    rw [secondNow]
    exact check_room positive some_room
  rw [verdictsOn, verdicts_cons, room, verdicts_nil]
  simp

end

/-- Sources that share no key with the others have the verdicts they would have without them. -/
theorem verdictsOn_filter [DecidableEq α] {limit : Nat} {span : τ} (kept : α → Bool)
    {checks : List (Check κ α τ)}
    (apart : (keyed limit span).Apart (fun asked : Check κ α τ => kept asked.source) checks) {source : α}
    (own : kept source = true) :
    verdictsOn source limit span checks =
      verdictsOn source limit span (checks.filter fun asked => kept asked.source) := by
  rw [verdictsOn, verdictsOn, ← verdicts_filter kept checks apart, List.filter_filter]
  apply congrArg
  apply List.filter_congr
  intro verdict _
  by_cases same : verdict.1 = source
  · simp [same, own]
  · simp [same]

/-- One step of a machine with a limiter: nothing is asked of it, or one check is made and answered. -/
def Asks {ε ω : Type} (limit : Nat) (span : τ) (checkOf : ε → Option (Check κ α τ))
    (verdict : ω → Option (α × Bool)) (before after : κ → List τ) (event : ε) (out : List ω) : Prop :=
  (checkOf event = none ∧ after = before ∧ out.filterMap verdict = []) ∨
  ∃ asked, checkOf event = some asked ∧
    after = Function.update before asked.key (check limit span asked.now (before asked.key)).2 ∧
    out.filterMap verdict = [(asked.source, (check limit span asked.now (before asked.key)).1)]

theorem runFrom_verdicts {σ ε ω : Type} {machine : Machine σ ε ω} {limit : Nat} {span : τ}
    (requests : σ → κ → List τ) {checkOf : ε → Option (Check κ α τ)} {verdict : ω → Option (α × Bool)}
    (asks : ∀ state event next out, machine.step state event = some (next, out) →
      Asks limit span checkOf verdict (requests state) (requests next) event out)
    {state final : σ} {events : List ε} {log : List ω}
    (ran : machine.runFrom state events = some (final, log)) :
    log.filterMap verdict = verdicts limit span (requests state) (events.filterMap checkOf) := by
  induction events generalizing state log with
  | nil =>
    cases ran
    rfl
  | cons event events ih =>
    obtain ⟨next, out, rest, stepped, onward, rfl⟩ := Machine.runFrom_cons ran
    rw [List.filterMap_append, ih onward]
    rcases asks state event next out stepped with ⟨unasked, same, silent⟩ | ⟨asked, found, updated, answered⟩
    · rw [List.filterMap_cons_none unasked, same, silent, List.nil_append]
    · rw [List.filterMap_cons_some found, updated, answered, verdicts_cons]
      rfl

end RateLimit
