import AgentPlatform.Base.Ranking
import AgentPlatform.Base.Splice
import AgentPlatform.Base.Sweep
import Mathlib.Data.Finset.Sort
import Mathlib.Data.Rat.Defs
import Mathlib.Data.String.Basic
import Mathlib.Tactic.Linarith

namespace AgentPlatform.Safety

open Python Splice Sweep

/-- A detection of the analyzer: the span `[start, stop)` of the text. -/
structure RecognizerResult where
  entityType : String
  start : Nat
  stop : Nat
  score : Rat
deriving DecidableEq, Repr

structure PiiPolicy where
  maskEntities : Finset String
  blockEntities : Finset String
  scoreThreshold : Rat
  threshold_range : 0 ≤ scoreThreshold ∧ scoreThreshold ≤ 1
  disjoint : maskEntities ∩ blockEntities = ∅

inductive PiiPolicyError where
  | thresholdRange
  | maskedAndBlocked
deriving DecidableEq, Repr

def PiiPolicyError.message : PiiPolicyError → String
  | .thresholdRange => "score_threshold must be between 0 and 1"
  | .maskedAndBlocked => "An entity type cannot be both masked and blocked"

def PiiPolicy.make (maskEntities blockEntities : Finset String) (scoreThreshold : Rat) :
    Except PiiPolicyError PiiPolicy :=
  if range : 0 ≤ scoreThreshold ∧ scoreThreshold ≤ 1 then
    if disjoint : maskEntities ∩ blockEntities = ∅ then
      .ok ⟨maskEntities, blockEntities, scoreThreshold, range, disjoint⟩
    else .error .maskedAndBlocked
  else .error .thresholdRange

def PiiPolicy.allEntities (policy : PiiPolicy) : Finset String :=
  policy.maskEntities ∪ policy.blockEntities

structure PiiFinding where
  entityType : String
  score : Rat
  score_range : 0 ≤ score ∧ score ≤ 1
deriving DecidableEq

structure PiiScanResult where
  sanitizedText : String
  findings : List PiiFinding
deriving DecidableEq

structure PiiBlockedError where
  entityTypes : List String
deriving DecidableEq, Repr

/-- What `scan` raises: the block of the policy, or the validation error of a finding. -/
inductive ScanError where
  | blocked (error : PiiBlockedError)
  | invalidFinding (entityType : String) (score : Rat)
deriving DecidableEq, Repr

def PiiFinding.make (entityType : String) (score : Rat) : Except ScanError PiiFinding :=
  if range : 0 ≤ score ∧ score ≤ 1 then .ok ⟨entityType, score, range⟩
  else .error (.invalidFinding entityType score)

/-- The analyzer takes the text, the entity types to look for and the score threshold. -/
structure PresidioPiiDetector where
  analyze : String → List String → Rat → List RecognizerResult

def PresidioPiiDetector.results (detector : PresidioPiiDetector) (text : String) (policy : PiiPolicy) :
    List RecognizerResult :=
  detector.analyze text (sorted policy.allEntities.val) policy.scoreThreshold

def blockedTypes (policy : PiiPolicy) (results : List RecognizerResult) : List String :=
  let blocked := results.filter fun result => result.entityType ∈ policy.blockEntities
  (blocked.map RecognizerResult.entityType).dedup.insertionSort (· ≤ ·)

/-- The order of the sort key `(start, -score)`. -/
def RecognizerResult.Precedes (a b : RecognizerResult) : Prop :=
  a.start < b.start ∨ a.start = b.start ∧ b.score ≤ a.score

instance : DecidableRel RecognizerResult.Precedes :=
  fun a b => inferInstanceAs (Decidable (a.start < b.start ∨ a.start = b.start ∧ b.score ≤ a.score))

def ordered (results : List RecognizerResult) : List RecognizerResult :=
  results.insertionSort RecognizerResult.Precedes

def RecognizerResult.replacement (result : RecognizerResult) : Patch Char :=
  ⟨result.start, result.stop, ("<" ++ result.entityType ++ ">").toList⟩

/-- The sweep: spans that start before `occupiedUntil` are skipped. -/
def sweep : Int → List RecognizerResult → Except ScanError (List PiiFinding × List (Patch Char))
  | _, [] => .ok ([], [])
  | occupiedUntil, result :: results =>
    if (result.start : Int) < occupiedUntil then sweep occupiedUntil results
    else do
      let finding ← PiiFinding.make result.entityType result.score
      let (findings, replacements) ← sweep result.stop results
      .ok (finding :: findings, result.replacement :: replacements)

/-- What `scan` finds and what it replaces. -/
def PresidioPiiDetector.spans (detector : PresidioPiiDetector) (text : String) (policy : PiiPolicy) :
    Except ScanError (List PiiFinding × List (Patch Char)) :=
  if text = "" ∨ policy.allEntities = ∅ then .ok ([], [])
  else
    let results := detector.results text policy
    match blockedTypes policy results with
    | [] => sweep (-1) (ordered results)
    | types => .error (.blocked ⟨types⟩)

def PresidioPiiDetector.scan (detector : PresidioPiiDetector) (text : String) (policy : PiiPolicy) :
    Except ScanError PiiScanResult := do
  let (findings, replacements) ← detector.spans text policy
  .ok ⟨String.ofList (applyAll text.toList replacements), findings⟩

end AgentPlatform.Safety
