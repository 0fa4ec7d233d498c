import AgentPlatform.Base.RateLimit
import Mathlib.Logic.Function.Basic

/-! # Exact rate limits

A keyed limiter refuses a call exactly when the window that ends with it is full of admissions of its key.
That rule alone determines every verdict of a run. -/

namespace RateLimit

variable {κ α τ ε : Type}

structure Call (α τ : Type) where
  now : τ
  caller : α

/-- One check of a limiter over its table. -/
abbrev Limiter (κ α τ ε : Type) := (κ → List τ) → τ → α → Except ε Unit × (κ → List τ)

/-- The calls of a run with what was admitted. -/
def serve (limiter : Limiter κ α τ ε) : (κ → List τ) → List (Call α τ) → List (Call α τ × Bool)
  | _, [] => []
  | requests, call :: calls =>
    let (answer, after) := limiter requests call.now call.caller
    (call, answer.isOk) :: serve limiter after calls

theorem serve_calls (limiter : Limiter κ α τ ε) (requests : κ → List τ) (calls : List (Call α τ)) :
    (serve limiter requests calls).map Prod.fst = calls := by
  induction calls generalizing requests with
  | nil => rfl
  | cons call calls ih =>
    rw [serve, List.map_cons, ih]

variable [DecidableEq κ]

/-- When calls of a key were admitted. -/
def admitted (key : α → κ) (own : κ) (log : List (Call α τ × Bool)) : List τ :=
  (log.filter fun item => item.2 && decide (key item.1.caller = own)).map fun item => item.1.now

theorem admitted_append (key : α → κ) (own : κ) (first second : List (Call α τ × Bool)) :
    admitted key own (first ++ second) = admitted key own first ++ admitted key own second := by
  rw [admitted, List.filter_append, List.map_append]
  rfl

theorem admitted_refused (key : α → κ) (own : κ) (call : Call α τ) : admitted key own [(call, false)] = [] := rfl

theorem admitted_other {key : α → κ} {own : κ} {call : Call α τ} (differ : key call.caller ≠ own)
    (verdict : Bool) : admitted key own [(call, verdict)] = [] := by
  simp [admitted, differ]

theorem admitted_own (key : α → κ) (call : Call α τ) :
    admitted key (key call.caller) [(call, true)] = [call.now] := by
  simp [admitted]

theorem admitted_filter {key : α → κ} {own : κ} {kept : Call α τ × Bool → Bool}
    (keeps : ∀ item, item.2 = true → key item.1.caller = own → kept item = true)
    (log : List (Call α τ × Bool)) : admitted key own (log.filter kept) = admitted key own log := by
  rw [admitted, admitted, List.filter_filter]
  congr 1
  apply List.filter_congr
  intro item _
  by_cases admits : (item.2 && decide (key item.1.caller = own)) = true
  · obtain ⟨taken, same⟩ := Bool.and_eq_true_iff.mp admits
    rw [admits, keeps item taken (of_decide_eq_true same)]
    rfl
  · rw [Bool.not_eq_true] at admits
    rw [admits]
    rfl

variable [LinearOrder τ] [AddCommGroup τ]

/-- A call is refused exactly when the window that ends with it holds as many admissions of its key as
    the limit. -/
def RefusedWhenFull (limit : Nat) (span : τ) (key : α → κ) (before : List (Call α τ × Bool))
    (item : Call α τ × Bool) : Prop :=
  item.2 = false ↔ admittedIn span item.1.now (admitted key (key item.1.caller) before) = limit

def Exact (limit : Nat) (span : τ) (key : α → κ) (log : List (Call α τ × Bool)) : Prop :=
  Throughout (RefusedWhenFull limit span key) log

theorem RefusedWhenFull.unique {limit : Nat} {span : τ} {key : α → κ} {before : List (Call α τ × Bool)}
    {first second : Call α τ × Bool} (verdict₁ : RefusedWhenFull limit span key before first)
    (verdict₂ : RefusedWhenFull limit span key before second) (same : first.1 = second.1) : first = second := by
  rw [RefusedWhenFull, same] at verdict₁
  refine Prod.ext same ?_
  rw [Bool.eq_iff_iff, ← not_iff_not, Bool.not_eq_true, Bool.not_eq_true]
  exact verdict₁.trans verdict₂.symm

theorem Exact.unique {limit : Nat} {span : τ} {key : α → κ} {first second : List (Call α τ × Bool)}
    (exact₁ : Exact limit span key first) (exact₂ : Exact limit span key second)
    (same : first.map Prod.fst = second.map Prod.fst) : first = second := by
  induction first using List.reverseRecOn generalizing second with
  | nil => exact (List.map_eq_nil_iff.mp same.symm).symm
  | append_singleton first item ih =>
    rcases List.eq_nil_or_concat second with rfl | ⟨rest, last, rfl⟩
    · simp at same
    · rw [List.concat_eq_append] at same exact₂ ⊢
      rw [List.map_append, List.map_append] at same
      obtain ⟨earlier, calls⟩ := List.append_inj' same rfl
      obtain rfl := ih exact₁.prefix exact₂.prefix earlier
      have call : item.1 = last.1 := List.head_eq_of_cons_eq calls
      rw [(exact₁ first item [] rfl).unique (exact₂ first last [] rfl) call]

theorem Exact.own {limit : Nat} {span : τ} {key : α → κ} {log : List (Call α τ × Bool)}
    (exact_log : Exact limit span key log) (own : κ) :
    Exact limit span key (log.filter fun item => key item.1.caller = own) := by
  induction log using List.reverseRecOn with
  | nil => exact Throughout.nil _
  | append_singleton log item ih =>
    rw [List.filter_append]
    by_cases same : key item.1.caller = own
    · rw [List.filter_cons_of_pos (by simpa using same), List.filter_nil]
      refine (ih exact_log.prefix).snoc ?_
      rw [RefusedWhenFull, admitted_filter fun other _ sameKey => by simp [sameKey, same]]
      exact exact_log log item [] rfl
    · rw [List.filter_cons_of_neg (by simpa using same), List.filter_nil, List.append_nil]
      exact ih exact_log.prefix

theorem Exact.drop_refused {limit : Nat} {span : τ} {key : α → κ} {before after : List (Call α τ × Bool)}
    {call : Call α τ} (exact_log : Exact limit span key (before ++ (call, false) :: after)) :
    Exact limit span key (before ++ after) := by
  induction after using List.reverseRecOn with
  | nil =>
    rw [List.append_nil]
    exact exact_log.prefix
  | append_singleton after item ih =>
    have split : before ++ (call, false) :: (after ++ [item]) = (before ++ (call, false) :: after) ++ [item] := by
      simp
    rw [split] at exact_log
    rw [← List.append_assoc]
    refine (ih exact_log.prefix).snoc ?_
    have verdict := exact_log _ item [] rfl
    rw [RefusedWhenFull, admitted_append, ← List.singleton_append, admitted_append, admitted_refused,
      List.nil_append, ← admitted_append] at verdict
    exact verdict

/-- The limiter is the check of the entry of the caller's key. -/
structure Implements (limit : Nat) (span : τ) (key : α → κ) (limiter : Limiter κ α τ ε) : Prop where
  verdict : ∀ requests now caller, (limiter requests now caller).1.isOk =
    (check limit span now (requests (key caller))).1
  kept : ∀ requests now caller, (limiter requests now caller).2 =
    Function.update requests (key caller) (check limit span now (requests (key caller))).2

/-- The table answers for every admission of the log, each of which found room. -/
structure Meters (limit : Nat) (span now : τ) (key : α → κ) (log : List (Call α τ × Bool))
    (requests : κ → List τ) : Prop where
  metered : ∀ own, Metered span now (admitted key own log) (requests own)
  room : ∀ own, Throughout (fun before entry => admittedIn span entry before < limit) (admitted key own log)

theorem Meters.empty (limit : Nat) (span now : τ) (key : α → κ) :
    Meters limit span now key ([] : List (Call α τ × Bool)) fun _ => [] :=
  ⟨fun _ => Metered.empty span now, fun _ => Throughout.nil _⟩

def Clocked (calls : List (Call α τ)) : Prop := calls.Pairwise fun earlier later => earlier.now ≤ later.now

/-- What an exact limit of a key means for a run of calls: which are refused, how many a window holds, and
    that neither refused calls nor other keys matter. -/
structure ExactWindow (limit : Nat) (span : τ) (key : α → κ) (limiter : Limiter κ α τ ε)
    (calls : List (Call α τ)) : Prop where
  refused : Exact limit span key (serve limiter (fun _ => []) calls)
  bounded : ∀ own t, admittedIn span t (admitted key own (serve limiter (fun _ => []) calls)) ≤ limit
  refused_free : ∀ before call after, serve limiter (fun _ => []) calls = before ++ (call, false) :: after →
    serve limiter (fun _ => []) ((before ++ after).map Prod.fst) = before ++ after
  isolated : ∀ own, serve limiter (fun _ => []) (calls.filter fun call => key call.caller = own) =
    (serve limiter (fun _ => []) calls).filter fun item => key item.1.caller = own

variable [IsOrderedAddMonoid τ] {limit : Nat} {span now : τ} {key : α → κ} {limiter : Limiter κ α τ ε}
  {log : List (Call α τ × Bool)} {requests : κ → List τ}

theorem Meters.bounded (meters : Meters limit span now key log requests) (own : κ) (t : τ) :
    admittedIn span t (admitted key own log) ≤ limit :=
  admittedIn_le (meters.metered own).ordered (meters.room own) t

theorem Meters.step (meters : Meters limit span now key log requests)
    (implements : Implements limit span key limiter) (call : Call α τ) (onward : now ≤ call.now) :
    RefusedWhenFull limit span key log (call, (limiter requests call.now call.caller).1.isOk) ∧
      Meters limit span call.now key (log ++ [(call, (limiter requests call.now call.caller).1.isOk)])
        (limiter requests call.now call.caller).2 := by
  rw [implements.verdict, implements.kept]
  rcases (meters.metered (key call.caller)).check_cases onward limit with
    ⟨full, kept, checked, after⟩ | ⟨space, kept, checked, after⟩
  · rw [checked]
    have exactly_full := (meters.bounded (key call.caller) call.now).antisymm full
    refine ⟨iff_of_true rfl exactly_full, fun own => ?_, fun own => ?_⟩
    · rw [admitted_append, admitted_refused, List.append_nil]
      by_cases same : own = key call.caller
      · rw [same, Function.update_self]
        exact after
      · rw [Function.update_of_ne same]
        exact (meters.metered own).advance onward
    · rw [admitted_append, admitted_refused, List.append_nil]
      exact meters.room own
  · rw [checked]
    refine ⟨iff_of_false Bool.noConfusion space.ne, fun own => ?_, fun own => ?_⟩
    · rw [admitted_append]
      by_cases same : own = key call.caller
      · rw [same, Function.update_self, admitted_own]
        exact after
      · rw [Function.update_of_ne same, admitted_other (Ne.symm same), List.append_nil]
        exact (meters.metered own).advance onward
    · rw [admitted_append]
      by_cases same : own = key call.caller
      · rw [same, admitted_own]
        exact (meters.room _).snoc space
      · rw [admitted_other (Ne.symm same), List.append_nil]
        exact meters.room own

theorem Meters.run (meters : Meters limit span now key log requests)
    (implements : Implements limit span key limiter) (exact_log : Exact limit span key log)
    {calls : List (Call α τ)} (clocked : Clocked calls) (onward : ∀ call ∈ calls, now ≤ call.now) :
    Exact limit span key (log ++ serve limiter requests calls) ∧
      ∀ own t, admittedIn span t (admitted key own (log ++ serve limiter requests calls)) ≤ limit := by
  induction calls generalizing now log requests with
  | nil =>
    rw [serve, List.append_nil]
    exact ⟨exact_log, meters.bounded⟩
  | cons call calls ih =>
    obtain ⟨first, rest⟩ := List.pairwise_cons.mp clocked
    obtain ⟨verdict, after⟩ := meters.step implements call (onward call List.mem_cons_self)
    have later := ih after (exact_log.snoc verdict) rest first
    rw [List.append_assoc] at later
    exact later

/-- What the limiter answers is exact from the first call on. -/
theorem Implements.run (implements : Implements limit span key limiter) {calls : List (Call α τ)}
    (clocked : Clocked calls) :
    Exact limit span key (serve limiter (fun _ => []) calls) ∧
      ∀ own t, admittedIn span t (admitted key own (serve limiter (fun _ => []) calls)) ≤ limit := by
  cases calls with
  | nil => exact ⟨Throughout.nil _, (Meters.empty limit span 0 key).bounded⟩
  | cons call calls =>
    have from_first : ∀ other ∈ call :: calls, call.now ≤ other.now := by
      intro other member
      rcases List.mem_cons.mp member with rfl | later
      · exact le_refl _
      · exact (List.pairwise_cons.mp clocked).1 other later
    exact (Meters.empty limit span call.now key).run implements (Throughout.nil _) clocked from_first

theorem Implements.exactWindow (implements : Implements limit span key limiter) {calls : List (Call α τ)}
    (clocked : Clocked calls) : ExactWindow limit span key limiter calls where
  refused := (implements.run clocked).1
  bounded := (implements.run clocked).2
  refused_free before call after split := by
    have exact_log := (implements.run clocked).1
    have served : before.map Prod.fst ++ call :: after.map Prod.fst = calls := by
      rw [← serve_calls limiter (fun _ => []) calls, split, List.map_append, List.map_cons]
    rw [split] at exact_log
    have rest : Clocked ((before ++ after).map Prod.fst) := by
      rw [← served] at clocked
      rw [List.map_append]
      exact clocked.sublist (List.Sublist.append_left (List.sublist_cons_self _ _) _)
    exact (implements.run rest).1.unique exact_log.drop_refused (serve_calls _ _ _)
  isolated own := by
    refine (implements.run (clocked.filter _)).1.unique ((implements.run clocked).1.own own) ?_
    rw [serve_calls]
    conv_lhs => rw [← serve_calls limiter (fun _ => []) calls, List.filter_map]
    rfl

end RateLimit
