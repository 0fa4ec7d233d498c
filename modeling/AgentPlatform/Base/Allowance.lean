import AgentPlatform.Base.Raising
import AgentPlatform.Base.Unwinding

/-! # Allowances

Programs whose commands are of one kind and whose weights add up to no more than an allowance, on every
path of answers. -/

namespace Interleaving

variable {κ ε α β : Type} {Reply : κ → Type}

def Within (weight : κ → Nat) (Holds : κ → Prop) (Post : α → Prop) : Nat → Program κ Reply α → Prop
  | _, .done answer => Post answer
  | allowance, .command c next =>
    Holds c ∧ weight c ≤ allowance ∧ ∀ reply, Within weight Holds Post (allowance - weight c) (next reply)

variable {weight : κ → Nat} {Holds : κ → Prop} {Post : α → Prop} {Last : β → Prop}

theorem Within.mono {less more : Nat} {point : Program κ Reply α} (within : Within weight Holds Post less point)
    (enough : less ≤ more) : Within weight Holds Post more point := by
  induction point generalizing less more with
  | done answer => exact within
  | command c next ih =>
    obtain ⟨holds, afforded, onward⟩ := within
    refine ⟨holds, Nat.le_trans afforded enough, fun reply => ih reply (onward reply) ?_⟩
    omega

theorem Within.weaken {Wider : κ → Prop} {Weaker : α → Prop} {allowance : Nat} {point : Program κ Reply α}
    (within : Within weight Holds Post allowance point) (wider : ∀ c, Holds c → Wider c)
    (weaker : ∀ answer, Post answer → Weaker answer) : Within weight Wider Weaker allowance point := by
  induction point generalizing allowance with
  | done answer => exact weaker answer within
  | command c next ih =>
    obtain ⟨holds, afforded, onward⟩ := within
    exact ⟨wider c holds, afforded, fun reply => ih reply (onward reply)⟩

theorem Within.bind {first : Program κ Reply α} {rest : α → Program κ Reply β} {before after : Nat}
    (within : Within weight Holds Post before first)
    (onward : ∀ answer, Post answer → Within weight Holds Last after (rest answer)) :
    Within weight Holds Last (before + after) (first.bind rest) := by
  induction first generalizing before with
  | done answer =>
    have last := onward answer within
    exact last.mono (Nat.le_add_left after before)
  | command c next ih =>
    obtain ⟨holds, afforded, continues⟩ := within
    refine ⟨holds, by omega, fun reply => ?_⟩
    have moved : before + after - weight c = before - weight c + after := by omega
    rw [moved]
    exact ih reply (continues reply)

/-- What a value has to satisfy, where the program does not raise. -/
def OnValue (Post : α → Prop) : Except ε α → Prop
  | .ok value => Post value
  | .error _ => True

theorem Within.andThen {first : Program κ Reply (Except ε α)} {rest : α → Program κ Reply (Except ε β)}
    {before after : Nat} (within : Within weight Holds (OnValue Post) before first)
    (onward : ∀ value, Post value → Within weight Holds (OnValue Last) after (rest value)) :
    Within weight Holds (OnValue Last) (before + after) (first.andThen rest) := by
  apply within.bind
  intro answer holds
  cases answer with
  | ok value => exact onward value holds
  | error error => trivial

/-- A command without weight. -/
theorem Within.free {c : κ} {next : Reply c → Program κ Reply α} {allowance : Nat} (holds : Holds c) (weightless : weight c = 0)
    (onward : ∀ reply, Within weight Holds Post allowance (next reply)) :
    Within weight Holds Post allowance (.command c next) := by
  refine ⟨holds, by omega, fun reply => ?_⟩
  rw [weightless]
  exact onward reply

/-! ## Runs of such programs -/

/-- Every command is of one kind and every answer of another. -/
abbrev Obeys (Holds : κ → Prop) (Post : α → Prop) (point : Program κ Reply α) : Prop :=
  Within (fun _ => 0) Holds Post 0 point

theorem Obeys.command {c : κ} {next : Reply c → Program κ Reply α} (holds : Holds c)
    (onward : ∀ reply, Obeys Holds Post (next reply)) : Obeys Holds Post (.command c next) :=
  ⟨holds, Nat.le_refl 0, onward⟩

theorem Obeys.bind {first : Program κ Reply α} {rest : α → Program κ Reply β} (obeys : Obeys Holds Post first)
    (onward : ∀ answer, Post answer → Obeys Holds Last (rest answer)) : Obeys Holds Last (first >>= rest) :=
  Within.bind obeys onward

theorem Issues.obeys {point : Program κ Reply α} (issues : Issues Holds point) : Obeys Holds (fun _ => True) point := by
  induction point with
  | done answer => trivial
  | command c next ih => exact .command issues.1 fun reply => ih reply (issues.2 reply)

theorem Obeys.issues {point : Program κ Reply α} (obeys : Obeys Holds Post point) : Issues Holds point := by
  induction point with
  | done answer => trivial
  | command c next ih => exact ⟨obeys.1, fun reply => ih reply (obeys.2.2 reply)⟩

variable {σ χ ω ο : Type} {backend : Backend σ κ χ ω Reply} {program : ο → Program κ Reply α}

end Interleaving
