import AgentPlatform.Base.Double
import AgentPlatform.Base.Pattern
import AgentPlatform.Base.Ranking
import AgentPlatform.Base.Runs
import AgentPlatform.Base.Scan
import AgentPlatform.Rag.Models
import Mathlib.Data.Finset.Card
import Mathlib.Data.Finset.Sort
import Mathlib.Tactic.IntervalCases

/-! # Groundedness

What an answer shares with its evidence: its terms, its citations, and whether both suffice. -/

namespace AgentPlatform.Rag

open Python

def stopwords : List String :=
  ["the", "a", "an", "and", "or", "of", "to", "in", "on", "for", "is", "are", "was", "were", "be", "this",
    "that", "it", "as", "by", "with", "at", "from", "not", "does", "do", "did", "if", "so", "must", "may"]

def isTermChar (c : Char) : Bool := isLetter c || ('0' ≤ c && c ≤ '9')

/-- `re.findall` of `[a-z0-9]+`. -/
def termTokens (text : List Char) : List (List Char) := text.runs isTermChar

def isSignificant (token : List Char) : Bool := decide (2 < token.length) && decide (String.ofList token ∉ stopwords)

def termsIn (text : List Char) : Finset String := (((termTokens text).filter isSignificant).map String.ofList).toFinset

def significantTerms (unicode : Unicode) (text : String) : Finset String :=
  termsIn (unicode.casefold text).toList

def isIdChar (c : Char) : Bool := isTermChar c || ('A' ≤ c && c ≤ 'Z') || c = '-'

/-- `[A-Za-z0-9\-]+#chunk-\d+`. -/
def citedPattern (unicode : Unicode) : Regex :=
  .seq (.seq (.char isIdChar) (.many isIdChar)) (.seq (exactly "#chunk-".toList)
    (.seq (.char unicode.decimal) (.many unicode.decimal)))

def citationPattern (unicode : Unicode) : Regex :=
  .seq (.char (· = '[')) (.seq (citedPattern unicode) (.char (· = ']')))

/-- The group of a citation: what stands between its brackets. -/
def citedId (citation : List Char) : String := String.ofList (citation.drop 1).dropLast

def citations (unicode : Unicode) (answer : String) : Finset String :=
  (((citationPattern unicode).findAll answer.toList).map citedId).toFinset

/-- The answer without its citations. -/
def prose (unicode : Unicode) (answer : String) : String :=
  String.ofList ((citationPattern unicode).removeAll answer.toList)

inductive EvaluationError where
  | zeroDivision
  /-- The `ValidationError` of the report. -/
  | validation
deriving DecidableEq, Repr

structure GroundednessReport where
  termOverlapScore : Rat
  citationsFound : List String
  fabricatedCitations : List String
  isGrounded : Bool
  scoreBounds : 0 ≤ termOverlapScore ∧ termOverlapScore ≤ 1

structure GroundednessEvaluator where
  minimumTermOverlap : Rat
  thresholdBounds : 0 ≤ minimumTermOverlap ∧ minimumTermOverlap ≤ 1

def GroundednessEvaluator.make (minimumTermOverlap : Rat) : Except String GroundednessEvaluator :=
  if bounds : 0 ≤ minimumTermOverlap ∧ minimumTermOverlap ≤ 1 then .ok ⟨minimumTermOverlap, bounds⟩
  else .error "minimum_term_overlap must be between 0 and 1"

def knownChunkIds (evidence : RetrievalResult) : Finset String :=
  (evidence.hits.map fun hit => hit.citation.chunkId).toFinset

def evidenceTerms (unicode : Unicode) (evidence : RetrievalResult) : Finset String :=
  evidence.hits.foldl (fun terms hit => terms ∪ significantTerms unicode hit.text) ∅

/-- The double that two numbers have for a quotient. -/
def divide (dividend divisor : Nat) : Except EvaluationError Rat :=
  if divisor = 0 then .error .zeroDivision else .ok (nearest (dividend / divisor))

def termOverlap (answerTerms supported : Finset String) : Except EvaluationError Rat :=
  if answerTerms = ∅ then .ok 0 else (divide (answerTerms ∩ supported).card answerTerms.card).map (roundDouble 4)

def GroundednessEvaluator.evaluate (evaluator : GroundednessEvaluator) (unicode : Unicode) (answer : String)
    (evidence : RetrievalResult) : Except EvaluationError GroundednessReport := do
  let cited := citations unicode answer
  let fabricated := cited \ knownChunkIds evidence
  let score ← termOverlap (significantTerms unicode (prose unicode answer)) (evidenceTerms unicode evidence)
  if bounds : 0 ≤ score ∧ score ≤ 1 then
    return {
      termOverlapScore := score
      citationsFound := sorted cited.val
      fabricatedCitations := sorted fabricated.val
      isGrounded := decide (evaluator.minimumTermOverlap ≤ score ∧ cited ≠ ∅ ∧ fabricated = ∅)
      scoreBounds := bounds }
  else throw .validation

/-- The fraction of the terms that are supported; of no terms none is. -/
def overlapFraction (answerTerms supported : Finset String) : Rat :=
  (answerTerms ∩ supported).card / answerTerms.card

theorem overlapFraction_bounds (answerTerms supported : Finset String) :
    0 ≤ overlapFraction answerTerms supported ∧ overlapFraction answerTerms supported ≤ 1 := by
  have fewer : ((answerTerms ∩ supported).card : Rat) ≤ answerTerms.card := by
    exact_mod_cast Finset.card_le_card Finset.inter_subset_left
  exact ⟨div_nonneg (Nat.cast_nonneg _) (Nat.cast_nonneg _), div_le_one_of_le₀ fewer (Nat.cast_nonneg _)⟩

theorem overlapFraction_mono (answerTerms : Finset String) {less more : Finset String} (within : less ⊆ more) :
    overlapFraction answerTerms less ≤ overlapFraction answerTerms more := by
  have fewer : ((answerTerms ∩ less).card : Rat) ≤ (answerTerms ∩ more).card := by
    exact_mod_cast Finset.card_le_card (Finset.inter_subset_inter_left within)
  exact div_le_div_of_nonneg_right fewer (Nat.cast_nonneg _)

/-- What becomes of a fraction when it is divided out and rounded to four decimals. -/
def scoreOf (share : Rat) : Rat := roundDouble 4 (nearest share)

theorem termOverlap_eq (answerTerms supported : Finset String) :
    termOverlap answerTerms supported = .ok (scoreOf (overlapFraction answerTerms supported)) := by
  unfold termOverlap divide overlapFraction scoreOf
  by_cases none : answerTerms = ∅
  · have zero : nearest 0 = 0 := by exact_mod_cast nearest_natCast (Nat.zero_le (2 ^ 53))
    rw [if_pos none, none, Finset.card_empty, Nat.cast_zero, div_zero, roundDouble, zero, roundTo_zero, zero]
  · rw [if_neg none, if_neg (Finset.card_ne_zero.mpr (Finset.nonempty_iff_ne_empty.mpr none))]
    rfl

theorem scoreOf_mono {less more : Rat} (nonneg : 0 ≤ less) (fewer : less ≤ more) : scoreOf less ≤ scoreOf more := by
  refine roundDouble_mono 4 ?_ (nearest_mono nonneg fewer)
  rw [nearest_of_nonneg nonneg]
  exact toPlaces_nonneg nonneg

theorem scoreOf_bounds {share : Rat} (bounds : 0 ≤ share ∧ share ≤ 1) : 0 ≤ scoreOf share ∧ scoreOf share ≤ 1 := by
  have zero : nearest 0 = 0 := by exact_mod_cast nearest_natCast (Nat.zero_le (2 ^ 53))
  have one : nearest 1 = 1 := by exact_mod_cast nearest_natCast Nat.one_le_two_pow
  have unit : roundTo 4 1 = 1 := by
    have whole : (1 : Rat) * 10 ^ 4 = ((10000 : Int) : Rat) := by norm_num
    rw [roundTo, whole, roundHalfEven_intCast]
    norm_num
  have low := scoreOf_mono le_rfl bounds.1
  have high := scoreOf_mono bounds.1 bounds.2
  rw [scoreOf, roundDouble, zero, roundTo_zero, zero] at low
  rw [scoreOf, scoreOf, roundDouble, roundDouble, one, unit, one] at high
  exact ⟨low, high⟩

section

variable {unicode : Unicode}

theorem mem_evidenceTerms {evidence : RetrievalResult} {term : String} :
    term ∈ evidenceTerms unicode evidence ↔ ∃ hit ∈ evidence.hits, term ∈ significantTerms unicode hit.text := by
  have general (hits : List RetrievalHit) (terms : Finset String) :
      term ∈ hits.foldl (fun terms hit => terms ∪ significantTerms unicode hit.text) terms ↔
        term ∈ terms ∨ ∃ hit ∈ hits, term ∈ significantTerms unicode hit.text := by
    induction hits generalizing terms with
    | nil => simp
    | cons hit hits ih =>
      rw [List.foldl_cons, ih, Finset.mem_union, List.exists_mem_cons_iff, or_assoc]
  rw [evidenceTerms, general]
  simp

theorem mem_knownChunkIds {evidence : RetrievalResult} {chunkId : String} :
    chunkId ∈ knownChunkIds evidence ↔ ∃ hit ∈ evidence.hits, hit.citation.chunkId = chunkId := by
  rw [knownChunkIds, List.mem_toFinset, List.mem_map]

end

namespace GroundednessEvaluator

variable (evaluator : GroundednessEvaluator) (unicode : Unicode) (answer : String) (evidence : RetrievalResult)

/-- The true fraction of the significant prose terms of the answer that occur in the evidence. -/
def fraction : Rat :=
  overlapFraction (significantTerms unicode (prose unicode answer)) (evidenceTerms unicode evidence)

def report : GroundednessReport where
  termOverlapScore := scoreOf (fraction unicode answer evidence)
  citationsFound := sorted (citations unicode answer).val
  fabricatedCitations := sorted (citations unicode answer \ knownChunkIds evidence).val
  isGrounded := decide (evaluator.minimumTermOverlap ≤ scoreOf (fraction unicode answer evidence) ∧
    citations unicode answer ≠ ∅ ∧ citations unicode answer \ knownChunkIds evidence = ∅)
  scoreBounds := scoreOf_bounds (overlapFraction_bounds _ _)

theorem evaluate_eq : evaluator.evaluate unicode answer evidence = .ok (evaluator.report unicode answer evidence) := by
  have bounds := scoreOf_bounds (overlapFraction_bounds (significantTerms unicode (prose unicode answer))
    (evidenceTerms unicode evidence))
  unfold evaluate
  rw [termOverlap_eq]
  exact dif_pos bounds

theorem report_score :
    (evaluator.report unicode answer evidence).termOverlapScore = scoreOf (fraction unicode answer evidence) := rfl

theorem mem_citationsFound {chunkId : String} :
    chunkId ∈ (evaluator.report unicode answer evidence).citationsFound ↔ chunkId ∈ citations unicode answer := by
  rw [report, mem_sorted, Finset.mem_val]

theorem citationsFound_eq_nil :
    (evaluator.report unicode answer evidence).citationsFound = [] ↔ citations unicode answer = ∅ := by
  simp only [List.eq_nil_iff_forall_not_mem, mem_citationsFound, Finset.eq_empty_iff_forall_notMem]

theorem mem_fabricated {chunkId : String} :
    chunkId ∈ (evaluator.report unicode answer evidence).fabricatedCitations ↔
      chunkId ∈ citations unicode answer ∧ ∀ hit ∈ evidence.hits, hit.citation.chunkId ≠ chunkId := by
  rw [report, mem_sorted, Finset.mem_val, Finset.mem_sdiff, mem_knownChunkIds]
  simp only [not_exists, not_and, ne_eq]

theorem isGrounded_iff :
    (evaluator.report unicode answer evidence).isGrounded = true ↔
      evaluator.minimumTermOverlap ≤ scoreOf (fraction unicode answer evidence) ∧
        citations unicode answer ≠ ∅ ∧
        ∀ chunkId ∈ citations unicode answer, ∃ hit ∈ evidence.hits, hit.citation.chunkId = chunkId := by
  rw [report, decide_eq_true_iff, Finset.sdiff_eq_empty_iff_subset]
  simp only [Finset.subset_iff, mem_knownChunkIds]

/-- The threshold is no greater than this many ten-thousandths, as a double. -/
def Admits (ten : Nat) : Prop := evaluator.minimumTermOverlap ≤ nearest (ten / 10 ^ 4)

instance : DecidablePred evaluator.Admits := fun ten =>
  inferInstanceAs (Decidable (evaluator.minimumTermOverlap ≤ nearest (ten / 10 ^ 4)))

theorem admits_all : ∃ ten, evaluator.Admits ten := by
  have whole : (((10 ^ 4 : Nat) : Rat) / 10 ^ 4) = ((1 : Nat) : Rat) := by norm_num
  refine ⟨10 ^ 4, ?_⟩
  rw [Admits, whole, nearest_natCast Nat.one_le_two_pow]
  exact_mod_cast evaluator.thresholdBounds.2

/-- The least score, in ten-thousandths, that reaches the threshold. -/
def leastScore : Nat := Nat.find evaluator.admits_all

/-- Half way to the least score from the score before. -/
def halfway : Rat := (evaluator.leastScore - 1 / 2) / 10 ^ 4

/-- Where the fraction turns that is divided out and rounded: half way to the first double past `halfway`, which counts
    itself when the least score is even. -/
def turningPoint : Rat := turn evaluator.halfway (decide (Even evaluator.leastScore))

/-- A fraction past the turning point, or on it when the double above is even. -/
def Passes (share : Rat) : Prop :=
  evaluator.leastScore = 0 ∨ evaluator.turningPoint < share ∨
    evaluator.turningPoint = share ∧ Even (firstPast evaluator.halfway (decide (Even evaluator.leastScore)))

theorem admits_iff {ten : Nat} : evaluator.Admits ten ↔ evaluator.leastScore ≤ ten := by
  constructor
  · exact Nat.find_min' _
  · intro reached
    have least : evaluator.Admits evaluator.leastScore := Nat.find_spec evaluator.admits_all
    refine least.trans (nearest_mono (by positivity) ?_)
    exact div_le_div_of_nonneg_right (Nat.cast_le.mpr reached) (by norm_num)

/-- No power of two lies half way below an even number of ten-thousandths. -/
theorem halfway_apart {ten : Nat} (even : Even ten) (place : Int) :
    ((ten : Rat) - 1 / 2) / 10 ^ 4 ≠ 2 ^ place := by
  intro same
  have scaled : 2 * (ten : Rat) - 1 = 20000 * 2 ^ place := by
    rw [← same]
    ring
  obtain ⟨half, rfl⟩ := even
  rcases place.eq_nat_or_neg with ⟨exponent, rfl | rfl⟩
  · rw [zpow_natCast] at scaled
    have whole : 2 * ((half + half : Nat) : Int) - 1 = 20000 * 2 ^ exponent := by exact_mod_cast scaled
    omega
  · rw [zpow_neg, zpow_natCast, ← div_eq_mul_inv, eq_div_iff (by positivity)] at scaled
    have whole : (2 * ((half + half : Nat) : Int) - 1) * 2 ^ exponent = 20000 := by exact_mod_cast scaled
    have few : exponent < 6 := by
      by_contra many
      have divides : (2 : Int) ^ 6 ∣ 20000 := whole ▸ Dvd.dvd.mul_left (pow_dvd_pow 2 (not_lt.mp many)) _
      exact absurd divides (by decide)
    interval_cases exponent <;> omega

theorem passes_iff {share : Rat} (nonneg : 0 ≤ share) :
    evaluator.Passes share ↔ evaluator.minimumTermOverlap ≤ scoreOf share := by
  have low : 0 ≤ nearest share := by
    rw [nearest_of_nonneg nonneg]
    exact toPlaces_nonneg nonneg
  obtain ⟨ten, score⟩ := Int.eq_ofNat_of_zero_le (roundHalfEven_nonneg (by positivity : 0 ≤ nearest share * 10 ^ 4))
  have reached : evaluator.minimumTermOverlap ≤ scoreOf share ↔ evaluator.leastScore ≤ ten := by
    rw [← admits_iff, scoreOf, roundDouble, roundTo, score]
    rfl
  rw [reached, Passes]
  rcases Nat.eq_zero_or_pos evaluator.leastScore with none | some
  · rw [none]
    exact iff_of_true (.inl rfl) (Nat.zero_le _)
  · have positive : 0 < evaluator.halfway := by
      have least : (1 : Rat) ≤ evaluator.leastScore := by exact_mod_cast some
      exact div_pos (by linarith) (by norm_num)
    have apart (even : decide (Even evaluator.leastScore) = true) :
        evaluator.halfway ≠ 2 ^ 52 * unitAt evaluator.halfway := by
      have power := halfway_apart (of_decide_eq_true even) (52 + lastPlace evaluator.halfway)
      rwa [zpow_add₀ two_ne_zero] at power
    have rounded := @le_roundHalfEven_iff evaluator.leastScore (nearest share * 10 ^ 4)
    have scale : (0 : Rat) < 10 ^ 4 := by norm_num
    rw [score, Int.ofNat_le, Int.even_coe_nat, Int.cast_natCast, ← div_lt_iff₀ scale,
      ← div_eq_iff scale.ne'] at rounded
    rw [rounded, or_iff_right some.ne', turningPoint, ← past_nearest_iff positive apart nonneg, decide_eq_true_iff,
      and_comm]
    rfl

/-- The verdict is the one that the true fraction calls for. -/
def Exact : Prop :=
  ∃ report, evaluator.evaluate unicode answer evidence = .ok report ∧
    (report.isGrounded = true ↔
      report.citationsFound ≠ [] ∧
      (∀ chunkId ∈ report.citationsFound, ∃ hit ∈ evidence.hits, hit.citation.chunkId = chunkId) ∧
      evaluator.minimumTermOverlap ≤ fraction unicode answer evidence)

theorem exact_verdict :
    evaluator.Exact unicode answer evidence ↔
      (evaluator.Passes (fraction unicode answer evidence) ∧ citations unicode answer ≠ ∅ ∧
          (∀ chunkId ∈ citations unicode answer, ∃ hit ∈ evidence.hits, hit.citation.chunkId = chunkId) ↔
        citations unicode answer ≠ ∅ ∧
          (∀ chunkId ∈ citations unicode answer, ∃ hit ∈ evidence.hits, hit.citation.chunkId = chunkId) ∧
          evaluator.minimumTermOverlap ≤ fraction unicode answer evidence) := by
  have share : 0 ≤ fraction unicode answer evidence := (overlapFraction_bounds _ _).1
  simp only [Exact, evaluate_eq, Except.ok.injEq, exists_eq_left', isGrounded_iff, evaluator.passes_iff share,
    mem_citationsFound, ne_eq, citationsFound_eq_nil]

/-- The verdict is exact when the citations alone refuse, or when the fraction does not lie between the
    threshold and the turning point of its rounding. -/
theorem exact_iff :
    evaluator.Exact unicode answer evidence ↔
      citations unicode answer = ∅ ∨
      (∃ chunkId ∈ citations unicode answer, ∀ hit ∈ evidence.hits, hit.citation.chunkId ≠ chunkId) ∨
      (evaluator.Passes (fraction unicode answer evidence) ↔
        evaluator.minimumTermOverlap ≤ fraction unicode answer evidence) := by
  have fabricated : (∃ chunkId ∈ citations unicode answer, ∀ hit ∈ evidence.hits, hit.citation.chunkId ≠ chunkId) ↔
      ¬ ∀ chunkId ∈ citations unicode answer, ∃ hit ∈ evidence.hits, hit.citation.chunkId = chunkId := by
    push Not
    rfl
  have weigh (passes uncited real reaches : Prop) :
      (passes ∧ ¬ uncited ∧ real ↔ ¬ uncited ∧ real ∧ reaches) ↔ uncited ∨ ¬ real ∨ (passes ↔ reaches) := by
    by_cases none : uncited <;> by_cases known : real <;> simp [none, known]
  rw [exact_verdict, fabricated, ne_eq]
  exact weigh _ _ _ _

section

theorem one_bounds : ¬ (1 : Double) < -1 ∧ ¬ (1 : Double) < 1 := by decide

theorem third_bounds : 0 ≤ (33333 / 100000 : Rat) ∧ (33333 / 100000 : Rat) ≤ 1 := by norm_num

def feeEvidence : RetrievalResult where
  hits := [{
    text := "late payments"
    score := 1
    citation := {
      documentId := "POL-PAY-001"
      chunkId := "fee#chunk-1"
      title := "Fees"
      version := "1"
      provenanceSha256 := "" }
    scoreBounds := one_bounds }]

def thirdEvaluator : GroundednessEvaluator where
  minimumTermOverlap := 33333 / 100000
  thresholdBounds := third_bounds

/-- One of three terms is supported, which is above the threshold until it is rounded. -/
theorem exact_rounded : ¬ thirdEvaluator.Exact asciiUnicode "late fee cap [fee#chunk-1]" feeEvidence := by
  have share : fraction asciiUnicode "late fee cap [fee#chunk-1]" feeEvidence = 1 / 3 := by decide +kernel
  have cited : citations asciiUnicode "late fee cap [fee#chunk-1]" ≠ ∅ := by decide +kernel
  have real : ∀ chunkId ∈ citations asciiUnicode "late fee cap [fee#chunk-1]",
      ∃ hit ∈ feeEvidence.hits, hit.citation.chunkId = chunkId := by decide +kernel
  have below : ¬ thirdEvaluator.minimumTermOverlap ≤ scoreOf (1 / 3) := by decide +kernel
  have enough : thirdEvaluator.minimumTermOverlap ≤ 1 / 3 := by decide +kernel
  rw [exact_verdict, share, passes_iff _ (by norm_num)]
  exact fun verdict => below (verdict.mpr ⟨cited, real, enough⟩).1

end

section

variable {first second : RetrievalResult}

theorem report_mono (within : ∀ hit ∈ first.hits, hit ∈ second.hits) :
    fraction unicode answer first ≤ fraction unicode answer second ∧
      knownChunkIds first ⊆ knownChunkIds second := by
  constructor
  · refine overlapFraction_mono _ fun term known => ?_
    obtain ⟨hit, member, occurs⟩ := mem_evidenceTerms.mp known
    exact mem_evidenceTerms.mpr ⟨hit, within hit member, occurs⟩
  · intro chunkId known
    obtain ⟨hit, member, same⟩ := mem_knownChunkIds.mp known
    exact mem_knownChunkIds.mpr ⟨hit, within hit member, same⟩

theorem report_congr (within : ∀ hit ∈ first.hits, hit ∈ second.hits)
    (without : ∀ hit ∈ second.hits, hit ∈ first.hits) :
    evaluator.report unicode answer first = evaluator.report unicode answer second := by
  obtain ⟨less, known⟩ := report_mono unicode answer within
  obtain ⟨more, known'⟩ := report_mono unicode answer without
  have share := le_antisymm less more
  have ids := Finset.Subset.antisymm known known'
  simp only [report, share, ids]

/-- More evidence never makes an answer look worse grounded. -/
theorem evaluate_monotone (within : ∀ hit ∈ first.hits, hit ∈ second.hits) :
    ∃ narrow wide,
      evaluator.evaluate unicode answer first = .ok narrow ∧
      evaluator.evaluate unicode answer second = .ok wide ∧
      wide.citationsFound = narrow.citationsFound ∧
      wide.fabricatedCitations ⊆ narrow.fabricatedCitations ∧
      narrow.termOverlapScore ≤ wide.termOverlapScore ∧
      (narrow.isGrounded = true → wide.isGrounded = true) ∧
      ((∀ hit ∈ second.hits, hit ∈ first.hits) → wide = narrow) ∧
      (0 ≤ narrow.termOverlapScore ∧ narrow.termOverlapScore ≤ 1) ∧
      (0 ≤ wide.termOverlapScore ∧ wide.termOverlapScore ≤ 1) := by
  obtain ⟨less, known⟩ := report_mono unicode answer within
  have score := scoreOf_mono (overlapFraction_bounds _ _).1 less
  refine ⟨_, _, evaluator.evaluate_eq unicode answer first, evaluator.evaluate_eq unicode answer second,
    rfl, ?_, score, ?_, ?_, GroundednessReport.scoreBounds _, GroundednessReport.scoreBounds _⟩
  · intro chunkId fabricated
    rw [mem_fabricated] at fabricated ⊢
    exact ⟨fabricated.1, fun hit member => fabricated.2 hit (within hit member)⟩
  · rw [isGrounded_iff, isGrounded_iff]
    rintro ⟨enough, cited, real⟩
    refine ⟨enough.trans score, cited, fun chunkId member => ?_⟩
    obtain ⟨hit, found, same⟩ := real chunkId member
    exact ⟨hit, within hit found, same⟩
  · intro without
    exact (evaluator.report_congr unicode answer within without).symm

/-- The evidence of the fee with a second hit, which has the terms that the first lacks. -/
def capEvidence : RetrievalResult where
  hits := feeEvidence.hits ++ [{
    text := "The fee has a cap."
    score := 1
    citation := {
      documentId := "POL-PAY-001"
      chunkId := "fee#chunk-2"
      title := "Fees"
      version := "1"
      provenanceSha256 := "" }
    scoreBounds := one_bounds }]

theorem evaluate_monotone_cap :
    ∃ narrow wide,
      thirdEvaluator.evaluate asciiUnicode "late fee cap [fee#chunk-1]" feeEvidence = .ok narrow ∧
      thirdEvaluator.evaluate asciiUnicode "late fee cap [fee#chunk-1]" capEvidence = .ok wide ∧
      wide.citationsFound = narrow.citationsFound ∧ wide.fabricatedCitations ⊆ narrow.fabricatedCitations ∧
      narrow.termOverlapScore ≤ wide.termOverlapScore ∧ (narrow.isGrounded = true → wide.isGrounded = true) := by
  obtain ⟨narrow, wide, first, second, found, fabricated, score, grounded, -⟩ := @evaluate_monotone thirdEvaluator
    asciiUnicode "late fee cap [fee#chunk-1]" feeEvidence capEvidence fun hit => List.mem_append_left _
  exact ⟨narrow, wide, first, second, found, fabricated, score, grounded⟩

end

end GroundednessEvaluator

end AgentPlatform.Rag
