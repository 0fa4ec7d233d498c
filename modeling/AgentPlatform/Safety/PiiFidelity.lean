import AgentPlatform.Base.Fallible
import AgentPlatform.Safety.PiiMasking

/-! # What the mask leaves alone -/

namespace AgentPlatform.Safety

open Splice Sweep

namespace PresidioPiiDetector

variable (detector : PresidioPiiDetector) (text : String) (policy : PiiPolicy)

/-- The spans that `scan` replaces, in the order of the text. -/
def acceptedSpans : List RecognizerResult :=
  if text = "" ∨ policy.allEntities = ∅ then [] else accepted (-1) (ordered (detector.results text policy))

/-- The characters outside of all reported spans. -/
def outside : List Char :=
  (text.toList.zipIdx.filter fun item =>
    (detector.results text policy).all fun result => !(result.start ≤ item.2 && item.2 < result.stop)).map Prod.fst

/-- The text with a placeholder for each accepted span and nothing else changed, and its findings. -/
structure Masks (result : PiiScanResult) : Prop where
  reported : detector.acceptedSpans text policy ⊆ detector.results text policy
  disjoint : (detector.acceptedSpans text policy).Pairwise fun first second => first.stop ≤ second.start
  sanitized : result.sanitizedText =
    String.ofList (weave text.toList 0 ((detector.acceptedSpans text policy).map RecognizerResult.replacement))
  preserved : (detector.outside text policy).Sublist result.sanitizedText.toList
  findings : result.findings.map (fun finding => (finding.entityType, finding.score)) =
    (detector.acceptedSpans text policy).map fun span => (span.entityType, span.score)

/-- The blocked types that are reported, each once. -/
def Blocks (types : List String) : Prop :=
  types.Pairwise (· < ·) ∧ types ≠ [] ∧ ∀ entityType, entityType ∈ types ↔
    entityType ∈ policy.blockEntities ∧ ∃ result ∈ detector.results text policy, result.entityType = entityType

variable {detector text policy}

theorem acceptedSpans_subset : detector.acceptedSpans text policy ⊆ detector.results text policy := by
  unfold acceptedSpans
  split
  · exact List.nil_subset _
  · exact fun span kept => mem_ordered.mp ((select_sublist _ _).subset kept)

theorem acceptedSpans_separated (inside : ∀ result ∈ detector.results text policy, result.Inside text) :
    Separated text.toList.length ((detector.acceptedSpans text policy).map RecognizerResult.replacement) := by
  unfold acceptedSpans
  split
  · exact ⟨by simp, .nil⟩
  · exact separated_replacements fun result member => inside result (mem_ordered.mp member)

theorem mem_blockedTypes {results : List RecognizerResult} {entityType : String} :
    entityType ∈ blockedTypes policy results ↔
      entityType ∈ policy.blockEntities ∧ ∃ result ∈ results, result.entityType = entityType := by
  simp only [blockedTypes, List.mem_insertionSort, List.mem_dedup, List.mem_map, List.mem_filter,
    decide_eq_true_eq]
  constructor
  · rintro ⟨result, ⟨member, blocked⟩, rfl⟩
    exact ⟨blocked, result, member, rfl⟩
  · rintro ⟨blocked, result, member, rfl⟩
    exact ⟨result, ⟨member, blocked⟩, rfl⟩

theorem blockedTypes_ordered (policy : PiiPolicy) (results : List RecognizerResult) :
    (blockedTypes policy results).Pairwise (· < ·) := by
  have sorted := List.pairwise_insertionSort (· ≤ ·)
    ((results.filter fun result => result.entityType ∈ policy.blockEntities).map RecognizerResult.entityType).dedup
  have once : (blockedTypes policy results).Nodup :=
    (List.perm_insertionSort _ _).nodup_iff.mpr (List.nodup_dedup _)
  exact (sorted.and once).imp fun both => lt_of_le_of_ne both.1 both.2

theorem blockedTypes_skipped (inside : ∀ result ∈ detector.results text policy, result.Inside text)
    (skipped : text = "" ∨ policy.allEntities = ∅) : blockedTypes policy (detector.results text policy) = [] := by
  rw [List.eq_nil_iff_forall_not_mem]
  intro entityType member
  obtain ⟨blocked, result, reported, -⟩ := mem_blockedTypes.mp member
  rcases skipped with rfl | none
  · have proper := inside result reported
    have empty : ("" : String).length = 0 := rfl
    unfold RecognizerResult.Inside at proper
    omega
  · have listed : entityType ∈ policy.allEntities := Finset.mem_union_right _ blocked
    rw [none] at listed
    exact absurd listed (Finset.notMem_empty _)

theorem sweep_not_blocked {occupiedUntil : Int} {results : List RecognizerResult} {error : PiiBlockedError} :
    sweep occupiedUntil results ≠ .error (.blocked error) := by
  induction results generalizing occupiedUntil with
  | nil => rintro ⟨⟩
  | cons result results ih =>
    rw [sweep]
    split
    · exact ih
    · intro raised
      by_cases range : 0 ≤ result.score ∧ result.score ≤ 1
      · simp only [PiiFinding.make, dif_pos range, Bind.bind, Except.bind] at raised
        cases rest : sweep result.stop results with
        | ok found =>
          rw [rest] at raised
          cases raised
        | error other =>
          rw [rest] at raised
          cases raised
          exact ih rest
      · simp only [PiiFinding.make, dif_neg range, Bind.bind, Except.bind] at raised
        cases raised

/-- The spans of a text: those of the blocked types are refused, and else the accepted ones are taken. -/
theorem spans_cases (inside : ∀ result ∈ detector.results text policy, result.Inside text) :
    (blockedTypes policy (detector.results text policy) ≠ [] ∧
      detector.spans text policy = .error (.blocked ⟨blockedTypes policy (detector.results text policy)⟩)) ∨
    (blockedTypes policy (detector.results text policy) = [] ∧
      (∀ error, detector.spans text policy ≠ .error (.blocked error)) ∧
      ∀ found, detector.spans text policy = .ok found →
        found.2 = (detector.acceptedSpans text policy).map RecognizerResult.replacement ∧
        found.1.map (fun finding => (finding.entityType, finding.score)) =
          (detector.acceptedSpans text policy).map fun span => (span.entityType, span.score)) := by
  by_cases skipped : text = "" ∨ policy.allEntities = ∅
  · refine .inr ⟨blockedTypes_skipped inside skipped, ?_⟩
    simp only [spans, acceptedSpans, if_pos skipped]
    refine ⟨by rintro _ ⟨⟩, fun found returned => ?_⟩
    cases returned
    exact ⟨rfl, rfl⟩
  · cases types : blockedTypes policy (detector.results text policy) with
    | cons first others =>
      exact .inl ⟨List.cons_ne_nil _ _, by simp only [spans, if_neg skipped, types]⟩
    | nil =>
      have swept : detector.spans text policy = sweep (-1) (ordered (detector.results text policy)) := by
        simp only [spans, if_neg skipped, types]
      simp only [swept, acceptedSpans, if_neg skipped]
      refine .inr ⟨trivial, fun _ => sweep_not_blocked, fun found returned => ?_⟩
      obtain ⟨findings, swept', reported⟩ := sweep_of_inRange (inRange_of_sweep returned)
      rw [returned] at swept'
      cases swept'
      exact ⟨rfl, reported⟩

theorem outside_sublist (inside : ∀ result ∈ detector.results text policy, result.Inside text) :
    (detector.outside text policy).Sublist
      (weave text.toList 0 ((detector.acceptedSpans text policy).map RecognizerResult.replacement)) := by
  refine @outside_sublist_weave _ _ _ (acceptedSpans_separated inside)
    (fun position => (detector.results text policy).all fun result =>
      !(result.start ≤ position && position < result.stop)) ?_ 0 (fun _ _ => Nat.zero_le _)
  intro patch member position from_le to_lt
  obtain ⟨span, kept, rfl⟩ := List.mem_map.mp member
  have covered : (decide (span.start ≤ position) && decide (position < span.stop)) = true := by
    rw [Bool.and_eq_true, decide_eq_true_eq, decide_eq_true_eq]
    exact ⟨from_le, to_lt⟩
  exact List.all_eq_false.mpr ⟨span, acceptedSpans_subset kept, by simp [covered]⟩

/-- A scan that returns masks the accepted spans and nothing else. One raises the block exactly when a blocked
    type is reported, with those types. -/
theorem scan_faithful (detector : PresidioPiiDetector) (text : String) (policy : PiiPolicy)
    (inside : ∀ result ∈ detector.results text policy, result.Inside text) :
    (∀ result, detector.scan text policy = .ok result → detector.Masks text policy result) ∧
    ((∃ types, detector.scan text policy = .error (.blocked ⟨types⟩)) ↔
      ∃ result ∈ detector.results text policy, result.entityType ∈ policy.blockEntities) ∧
    ∀ types, detector.scan text policy = .error (.blocked ⟨types⟩) → detector.Blocks text policy types := by
  rcases spans_cases inside with ⟨some_blocked, raised⟩ | ⟨none_blocked, unblocked, found⟩
  · have scanned : detector.scan text policy =
        .error (.blocked ⟨blockedTypes policy (detector.results text policy)⟩) := by
      rw [scan, raised]
      rfl
    obtain ⟨entityType, listed⟩ := List.exists_mem_of_ne_nil _ some_blocked
    obtain ⟨blocked, result, reported, same⟩ := mem_blockedTypes.mp listed
    refine ⟨fun result returned => ?_, iff_of_true ⟨_, scanned⟩ ⟨result, reported, same ▸ blocked⟩, ?_⟩
    · rw [scanned] at returned
      cases returned
    · intro types again
      rw [scanned] at again
      cases again
      exact ⟨blockedTypes_ordered policy _, some_blocked, fun _ => mem_blockedTypes⟩
  · have calm : ∀ types, detector.scan text policy ≠ .error (.blocked ⟨types⟩) := by
      intro types raised
      rw [scan] at raised
      cases spanned : detector.spans text policy with
      | ok found =>
        rw [spanned] at raised
        cases raised
      | error error =>
        rw [spanned] at raised
        cases raised
        exact unblocked _ spanned
    refine ⟨fun result returned => ?_, iff_of_false (fun raised => calm _ raised.choose_spec) ?_,
      fun types raised => absurd raised (calm types)⟩
    · obtain ⟨⟨findings, replacements⟩, spanned, returned⟩ := Except.bind_eq_ok returned
      cases returned
      obtain ⟨rfl, reported⟩ := found _ spanned
      have separated := acceptedSpans_separated inside
      have woven : String.ofList (applyAll text.toList
          ((detector.acceptedSpans text policy).map RecognizerResult.replacement)) = String.ofList
            (weave text.toList 0 ((detector.acceptedSpans text policy).map RecognizerResult.replacement)) :=
        congrArg _ (applyAll_eq_weave separated)
      refine ⟨acceptedSpans_subset, (List.pairwise_map.mp separated.apart), woven, ?_, reported⟩
      rw [woven, String.toList_ofList]
      exact outside_sublist inside
    · rintro ⟨result, reported, blocked⟩
      have listed := mem_blockedTypes.mpr ⟨blocked, result, reported, rfl⟩
      rw [none_blocked] at listed
      cases listed

theorem scan_faithful_overlapping :
    overlappingDetector.Masks "Ann Lee@example.com" maskingPolicy
      ⟨"<PERSON>@example.com", [⟨"PERSON", 85 / 100, by norm_num⟩]⟩ := by
  have inside : ∀ result ∈ overlappingDetector.results "Ann Lee@example.com" maskingPolicy,
      result.Inside "Ann Lee@example.com" :=
    fun result reported => (overlappingDetector_placed result reported).inside
  exact (scan_faithful overlappingDetector "Ann Lee@example.com" maskingPolicy inside).1 _ (by decide +kernel)

end PresidioPiiDetector

end AgentPlatform.Safety
