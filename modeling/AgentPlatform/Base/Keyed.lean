import Mathlib.Data.List.Basic
import Mathlib.Logic.Function.Basic

/-! # Services over a keyed table

A shared table in which each call reads and rewrites the entry of its own key. -/

structure KeyedService (κ σ ι ο : Type) where
  key : ι → κ
  serve : σ → ι → σ × ο

namespace KeyedService

variable {κ σ ι ο : Type} (service : KeyedService κ σ ι ο)

/-- No kept request has the key of a request that is not kept. -/
def Apart (kept : ι → Bool) (requests : List ι) : Prop :=
  ∀ own ∈ requests, ∀ other ∈ requests, kept own = true → kept other = false →
    service.key own ≠ service.key other

section

variable {service}

theorem Apart.tail {kept : ι → Bool} {request : ι} {requests : List ι}
    (apart : service.Apart kept (request :: requests)) : service.Apart kept requests := by
  intro own ownMember other otherMember
  exact apart own (List.mem_cons_of_mem _ ownMember) other (List.mem_cons_of_mem _ otherMember)

theorem Apart.of_key {kept : ι → Bool} {requests : List ι} (Owned : κ → Prop)
    (owns : ∀ request ∈ requests, kept request = true ↔ Owned (service.key request)) :
    service.Apart kept requests := by
  intro own ownMember other otherMember keep drop same
  have owned := (owns own ownMember).mp keep
  rw [same, ← owns other otherMember, drop] at owned
  cases owned

end

variable [DecidableEq κ]

def call (table : κ → σ) (request : ι) : (κ → σ) × ο :=
  (Function.update table (service.key request) (service.serve (table (service.key request)) request).1,
    (service.serve (table (service.key request)) request).2)

/-- The requests with their answers, in the order of the run. -/
def answers : (κ → σ) → List ι → List (ι × ο)
  | _, [] => []
  | table, request :: requests =>
    (request, (service.call table request).2) :: answers (service.call table request).1 requests

variable {service}

theorem call_of_ne {table : κ → σ} {request : ι} {key : κ} (apart : key ≠ service.key request) :
    (service.call table request).1 key = table key :=
  Function.update_of_ne apart _ _

theorem call_key (table : κ → σ) (request : ι) :
    (service.call table request).1 (service.key request) =
      (service.serve (table (service.key request)) request).1 :=
  Function.update_self _ _ _

theorem call_answer_congr {table table' : κ → σ} {request : ι}
    (same : table (service.key request) = table' (service.key request)) :
    (service.call table request).2 = (service.call table' request).2 := by
  rw [call, call, same]

theorem call_congr {table table' : κ → σ} {request : ι} {key : κ} (same : table key = table' key) :
    (service.call table request).1 key = (service.call table' request).1 key := by
  by_cases own : key = service.key request
  · subst own
    rw [call_key, call_key, same]
  · rw [call_of_ne own, call_of_ne own, same]

/-- Requests that share no key with the kept ones can be deleted. -/
theorem answers_filter {kept : ι → Bool} {requests : List ι} {table table' : κ → σ}
    (apart : service.Apart kept requests)
    (same : ∀ request ∈ requests, kept request = true →
      table (service.key request) = table' (service.key request)) :
    (service.answers table requests).filter (fun answer => kept answer.1) =
      service.answers table' (requests.filter kept) := by
  induction requests generalizing table table' with
  | nil => rfl
  | cons request requests ih =>
    cases own : kept request with
    | true =>
      have later : ∀ other ∈ requests, kept other = true →
          (service.call table request).1 (service.key other) =
            (service.call table' request).1 (service.key other) := by
        intro other member keep
        exact call_congr (same other (List.mem_cons_of_mem _ member) keep)
      have here := same request List.mem_cons_self own
      simp only [answers, List.filter_cons, own, if_true]
      rw [ih apart.tail later, call_answer_congr here]
    | false =>
      have later : ∀ other ∈ requests, kept other = true →
          (service.call table request).1 (service.key other) = table' (service.key other) := by
        intro other member keep
        have distinct := apart other (List.mem_cons_of_mem _ member) request List.mem_cons_self keep own
        rw [call_of_ne distinct]
        exact same other (List.mem_cons_of_mem _ member) keep
      simp only [answers, List.filter_cons, own, Bool.false_eq_true, if_false]
      exact ih apart.tail later

theorem answers_kept {kept : ι → Bool} {requests : List ι} (table : κ → σ)
    (apart : service.Apart kept requests) :
    (service.answers table requests).filter (fun answer => kept answer.1) =
      service.answers table (requests.filter kept) :=
  answers_filter apart fun _ _ _ => rfl

theorem answers_eq_of_kept {kept : ι → Bool} {requests requests' : List ι} (table : κ → σ)
    (apart : service.Apart kept requests) (apart' : service.Apart kept requests')
    (same : requests.filter kept = requests'.filter kept) :
    (service.answers table requests).filter (fun answer => kept answer.1) =
      (service.answers table requests').filter (fun answer => kept answer.1) := by
  rw [answers_kept table apart, answers_kept table apart', same]

end KeyedService
