import AgentPlatform.Safety.Pii

/-! # What the mask leaves behind -/

namespace AgentPlatform.Safety

open Splice Sweep

def RecognizerResult.startAt (result : RecognizerResult) : Int := result.start

def RecognizerResult.stopAt (result : RecognizerResult) : Int := result.stop

def accepted (occupiedUntil : Int) (results : List RecognizerResult) : List RecognizerResult :=
  select RecognizerResult.startAt RecognizerResult.stopAt occupiedUntil results

def RecognizerResult.ScoreInRange (result : RecognizerResult) : Prop :=
  0 ≤ result.score ∧ result.score ≤ 1

theorem accepted_of_crossed {occupiedUntil : Int} {result : RecognizerResult}
    (results : List RecognizerResult) (crossed : (result.start : Int) < occupiedUntil) :
    accepted occupiedUntil (result :: results) = accepted occupiedUntil results :=
  if_pos crossed

theorem accepted_of_free {occupiedUntil : Int} {result : RecognizerResult}
    (results : List RecognizerResult) (free : ¬ (result.start : Int) < occupiedUntil) :
    accepted occupiedUntil (result :: results) = result :: accepted result.stop results :=
  if_neg free

/-- A span the analyzer may report for a text under a policy. -/
def RecognizerResult.Placed (text : String) (policy : PiiPolicy) (result : RecognizerResult) : Prop :=
  result.start < result.stop ∧ result.stop ≤ text.length ∧ result.entityType ∈ policy.maskEntities

/-- A span that is not empty and lies in the text. -/
def RecognizerResult.Inside (text : String) (result : RecognizerResult) : Prop :=
  result.start < result.stop ∧ result.stop ≤ text.length

theorem RecognizerResult.Placed.inside {text : String} {policy : PiiPolicy} {result : RecognizerResult}
    (placed : result.Placed text policy) : result.Inside text :=
  ⟨placed.1, placed.2.1⟩

theorem sweep_of_inRange {occupiedUntil : Int} {results : List RecognizerResult}
    (inRange : ∀ result ∈ accepted occupiedUntil results, result.ScoreInRange) :
    ∃ findings, sweep occupiedUntil results =
        .ok (findings, (accepted occupiedUntil results).map RecognizerResult.replacement) ∧
      findings.map (fun finding => (finding.entityType, finding.score)) =
        (accepted occupiedUntil results).map fun result => (result.entityType, result.score) := by
  induction results generalizing occupiedUntil with
  | nil => exact ⟨[], rfl, rfl⟩
  | cons result results ih =>
    by_cases crossed : (result.start : Int) < occupiedUntil
    · rw [accepted_of_crossed results crossed] at inRange ⊢
      rw [sweep, if_pos crossed]
      exact ih inRange
    · rw [accepted_of_free results crossed] at inRange ⊢
      obtain ⟨findings, swept, reported⟩ :=
        ih fun other member => inRange other (List.mem_cons_of_mem _ member)
      have range : 0 ≤ result.score ∧ result.score ≤ 1 := inRange result List.mem_cons_self
      refine ⟨⟨result.entityType, result.score, range⟩ :: findings, ?_, ?_⟩
      · simp only [sweep, if_neg crossed, PiiFinding.make, dif_pos range, swept, Bind.bind, Except.bind,
          List.map_cons]
      · simp only [List.map_cons, reported]

theorem inRange_of_sweep {occupiedUntil : Int} {results : List RecognizerResult}
    {found : List PiiFinding × List (Patch Char)} (swept : sweep occupiedUntil results = .ok found) :
    ∀ result ∈ accepted occupiedUntil results, result.ScoreInRange := by
  induction results generalizing occupiedUntil found with
  | nil => simp [accepted, select]
  | cons result results ih =>
    by_cases crossed : (result.start : Int) < occupiedUntil
    · rw [sweep, if_pos crossed] at swept
      rw [accepted_of_crossed results crossed]
      exact ih swept
    · rw [sweep, if_neg crossed] at swept
      rw [accepted_of_free results crossed]
      by_cases range : 0 ≤ result.score ∧ result.score ≤ 1
      · simp only [PiiFinding.make, dif_pos range, Bind.bind, Except.bind] at swept
        cases rest : sweep result.stop results with
        | error error =>
          rw [rest] at swept
          cases swept
        | ok found =>
          intro other member
          rcases List.mem_cons.mp member with rfl | later
          · exact range
          · exact ih rest other later
      · simp only [PiiFinding.make, dif_neg range, Bind.bind, Except.bind] at swept
        cases swept

theorem ordered_pairwise (results : List RecognizerResult) :
    (ordered results).Pairwise fun a b => a.startAt ≤ b.startAt := by
  have total : Std.Total RecognizerResult.Precedes := by
    constructor
    intro a b
    rcases lt_trichotomy a.start b.start with before | same | after
    · exact .inl (.inl before)
    · exact (le_total b.score a.score).imp (fun low => .inr ⟨same, low⟩) fun high => .inr ⟨same.symm, high⟩
    · exact .inr (.inl after)
  have trans : IsTrans RecognizerResult RecognizerResult.Precedes := by
    constructor
    intro a b c first second
    unfold RecognizerResult.Precedes at *
    rcases first with before | ⟨same, low⟩ <;> rcases second with before' | ⟨same', low'⟩
    · exact .inl (before.trans before')
    · exact .inl (same' ▸ before)
    · exact .inl (same ▸ before')
    · exact .inr ⟨same.trans same', low'.trans low⟩
  have sorted := List.pairwise_insertionSort RecognizerResult.Precedes results
  refine sorted.imp ?_
  rintro a b (before | ⟨same, _⟩)
  · exact Int.ofNat_le.mpr before.le
  · exact Int.ofNat_le.mpr same.le

theorem mem_ordered {results : List RecognizerResult} {result : RecognizerResult} :
    result ∈ ordered results ↔ result ∈ results :=
  List.mem_insertionSort _

theorem separated_replacements {text : String} {occupiedUntil : Int} {results : List RecognizerResult}
    (inside : ∀ result ∈ results, result.Inside text) :
    Separated text.toList.length
      ((accepted occupiedUntil results).map RecognizerResult.replacement) := by
  have proper : ∀ result ∈ results, result.startAt < result.stopAt :=
    fun result member => Int.ofNat_lt.mpr (inside result member).1
  constructor
  · intro patch member
    obtain ⟨result, kept, rfl⟩ := List.mem_map.mp member
    have fits := inside result ((select_sublist _ _).subset kept)
    exact ⟨fits.1, by rw [String.length_toList]; exact fits.2⟩
  · rw [List.pairwise_map]
    exact (select_pairwise proper).imp fun before => Int.ofNat_le.mp before

/-- A position of the text that the sanitized text still holds. -/
def PresidioPiiDetector.Leaks (detector : PresidioPiiDetector) (text : String) (policy : PiiPolicy)
    (position : Nat) : Prop :=
  ∃ found, detector.spans text policy = .ok found ∧ Survives text.toList found.2 position

/-- A position inside a span that the analyzer reports. -/
def PresidioPiiDetector.Detects (detector : PresidioPiiDetector) (text : String) (policy : PiiPolicy)
    (position : Nat) : Prop :=
  ∃ result ∈ detector.results text policy, result.start ≤ position ∧ position < result.stop

/-- The first reported span in the order of start and falling score, and after each such span the first
    that begins at or after its end. -/
def PresidioPiiDetector.LeadingSpan (detector : PresidioPiiDetector) (text : String) (policy : PiiPolicy) :
    RecognizerResult → Prop :=
  Leading RecognizerResult.startAt RecognizerResult.stopAt (ordered (detector.results text policy))

/-- A leading span has no proper score, or every span that runs past the end of a leading one is resumed
    by a span that begins there. -/
def PresidioPiiDetector.Resumed (detector : PresidioPiiDetector) (text : String) (policy : PiiPolicy) :
    Prop :=
  (∃ lead, detector.LeadingSpan text policy lead ∧ ¬ lead.ScoreInRange) ∨
    ∀ lead, detector.LeadingSpan text policy lead → ∀ result ∈ detector.results text policy,
      result.start < lead.stop → lead.stop < result.stop →
        ∃ other ∈ detector.results text policy, other.start = lead.stop

section

variable {detector : PresidioPiiDetector} {text : String} {policy : PiiPolicy}

theorem scan_sanitizedText {found : List PiiFinding × List (Patch Char)}
    (spans : detector.spans text policy = .ok found) :
    detector.scan text policy = .ok ⟨String.ofList
      ((applyAll (marked text.toList) (found.2.map Patch.unmarked)).map Prod.fst), found.1⟩ := by
  simp only [PresidioPiiDetector.scan, spans, Bind.bind, Except.bind, applyAll_marked]

theorem blockedTypes_eq_nil (placed : ∀ result ∈ detector.results text policy,
    result.Placed text policy) : blockedTypes policy (detector.results text policy) = [] := by
  have none_blocked : (detector.results text policy).filter
      (fun result => result.entityType ∈ policy.blockEntities) = [] := by
    rw [List.filter_eq_nil_iff]
    intro result member blocked
    have both : result.entityType ∈ policy.maskEntities ∩ policy.blockEntities :=
      Finset.mem_inter.mpr ⟨(placed result member).2.2, of_decide_eq_true blocked⟩
    rw [policy.disjoint] at both
    exact absurd both (Finset.notMem_empty _)
  rw [blockedTypes, none_blocked]
  rfl

theorem spans_eq_sweep (placed : ∀ result ∈ detector.results text policy, result.Placed text policy)
    (some_result : detector.results text policy ≠ []) :
    detector.spans text policy = sweep (-1) (ordered (detector.results text policy)) := by
  obtain ⟨result, member⟩ := List.exists_mem_of_ne_nil _ some_result
  obtain ⟨proper, inside, masked⟩ := placed result member
  have nonempty : ¬ (text = "" ∨ policy.allEntities = ∅) := by
    rintro (rfl | none)
    · rw [String.length_empty] at inside
      omega
    · have listed : result.entityType ∈ policy.allEntities := Finset.mem_union_left _ masked
      rw [none] at listed
      exact absurd listed (Finset.notMem_empty _)
  simp only [PresidioPiiDetector.spans, if_neg nonempty, blockedTypes_eq_nil placed]

theorem mem_accepted_iff_leading
    (placed : ∀ result ∈ detector.results text policy, result.Placed text policy)
    (result : RecognizerResult) :
    result ∈ accepted (-1) (ordered (detector.results text policy)) ↔
      detector.LeadingSpan text policy result := by
  refine mem_select_iff_leading (ordered_pairwise _) ?_ ?_ result
  · intro other member
    exact Int.ofNat_lt.mpr (placed other (mem_ordered.mp member)).1
  · intro other _
    have := Int.natCast_nonneg other.start
    simp only [RecognizerResult.startAt]
    omega

theorem leaks_iff (placed : ∀ result ∈ detector.results text policy, result.Placed text policy)
    (some_result : detector.results text policy ≠ []) (position : Nat) :
    detector.Leaks text policy position ↔
      (∀ lead ∈ accepted (-1) (ordered (detector.results text policy)), lead.ScoreInRange) ∧
        position < text.length ∧
        ∀ lead ∈ accepted (-1) (ordered (detector.results text policy)),
          ¬ (lead.start ≤ position ∧ position < lead.stop) := by
  have survives : Survives text.toList
        ((accepted (-1) (ordered (detector.results text policy))).map RecognizerResult.replacement)
        position ↔ position < text.length ∧
      ∀ lead ∈ accepted (-1) (ordered (detector.results text policy)),
        ¬ (lead.start ≤ position ∧ position < lead.stop) := by
    rw [survives_iff (separated_replacements fun result member => (placed result (mem_ordered.mp member)).inside),
      String.length_toList, List.forall_mem_map]
    exact Iff.rfl
  rw [PresidioPiiDetector.Leaks, spans_eq_sweep placed some_result, ← survives]
  constructor
  · rintro ⟨found, swept, kept⟩
    have inRange := inRange_of_sweep swept
    obtain ⟨findings, swept', _⟩ := sweep_of_inRange inRange
    rw [swept] at swept'
    cases swept'
    exact ⟨inRange, kept⟩
  · rintro ⟨inRange, kept⟩
    obtain ⟨findings, swept, _⟩ := sweep_of_inRange inRange
    exact ⟨_, swept, kept⟩

theorem covers_natCast (found : List RecognizerResult) (position : Nat) :
    Covers RecognizerResult.startAt RecognizerResult.stopAt found position ↔
      ∃ result ∈ found, result.start ≤ position ∧ position < result.stop := by
  simp only [Covers, RecognizerResult.startAt, RecognizerResult.stopAt, Int.ofNat_le, Int.ofNat_lt]

/-- With proper scores nothing leaks exactly when the accepted spans cover all reported ones. -/
theorem masks_iff_covers (placed : ∀ result ∈ detector.results text policy, result.Placed text policy)
    (some_result : detector.results text policy ≠ [])
    (inRange : ∀ lead ∈ accepted (-1) (ordered (detector.results text policy)), lead.ScoreInRange) :
    (∀ position, detector.Detects text policy position → ¬ detector.Leaks text policy position) ↔
      ∀ position, Covers RecognizerResult.startAt RecognizerResult.stopAt
          (ordered (detector.results text policy)) position →
        Covers RecognizerResult.startAt RecognizerResult.stopAt
          (accepted (-1) (ordered (detector.results text policy))) position := by
  constructor
  · intro masks position covered
    obtain ⟨result, member, low, high⟩ := covered
    obtain ⟨index, rfl⟩ := Int.eq_ofNat_of_zero_le ((Int.natCast_nonneg result.start).trans low)
    have detected : detector.Detects text policy index :=
      ⟨result, mem_ordered.mp member, Int.ofNat_le.mp low, Int.ofNat_lt.mp high⟩
    have inside : index < text.length :=
      (Int.ofNat_lt.mp high).trans_le (placed result (mem_ordered.mp member)).2.1
    rw [covers_natCast]
    by_contra uncovered
    refine masks index detected ((leaks_iff placed some_result index).mpr ⟨inRange, inside, ?_⟩)
    exact fun lead kept around => uncovered ⟨lead, kept, around⟩
  · rintro covered position ⟨result, member, low, high⟩ leaks
    have within := (covers_natCast _ _).mpr ⟨result, mem_ordered.mpr member, low, high⟩
    obtain ⟨lead, kept, around⟩ := (covers_natCast _ _).mp (covered position within)
    exact ((leaks_iff placed some_result position).mp leaks).2.2 lead kept around

theorem resumed_iff (placed : ∀ result ∈ detector.results text policy, result.Placed text policy)
    (inRange : ∀ lead ∈ accepted (-1) (ordered (detector.results text policy)), lead.ScoreInRange) :
    detector.Resumed text policy ↔
      ∀ lead ∈ accepted (-1) (ordered (detector.results text policy)),
        ∀ result ∈ ordered (detector.results text policy), result.startAt < lead.stopAt →
          lead.stopAt < result.stopAt →
            ∃ other ∈ ordered (detector.results text policy), other.startAt = lead.stopAt := by
  simp only [RecognizerResult.startAt, RecognizerResult.stopAt, Int.ofNat_lt, Int.ofNat_inj, mem_ordered,
    mem_accepted_iff_leading placed]
  refine ⟨?_, .inr⟩
  rintro (⟨lead, leading, improper⟩ | resumed)
  · exact absurd (inRange lead ((mem_accepted_iff_leading placed lead).mpr leading)) improper
  · exact resumed

end

/-- The sanitized text holds no detected position, exactly when every span that runs past the end of a
    leading one is resumed. -/
theorem scan_masks_iff (detector : PresidioPiiDetector) (text : String) (policy : PiiPolicy)
    (placed : ∀ result ∈ detector.results text policy, result.Placed text policy) :
    (∀ position, detector.Detects text policy position → ¬ detector.Leaks text policy position) ↔
      detector.Resumed text policy := by
  by_cases nothing : detector.results text policy = []
  · constructor
    · intro _
      refine .inr fun _ _ result member => ?_
      rw [nothing] at member
      cases member
    · rintro _ position ⟨result, member, _⟩
      rw [nothing] at member
      cases member
  · by_cases inRange : ∀ lead ∈ accepted (-1) (ordered (detector.results text policy)), lead.ScoreInRange
    · have proper : ∀ result ∈ ordered (detector.results text policy), result.startAt < result.stopAt :=
        fun result member => Int.ofNat_lt.mpr (placed result (mem_ordered.mp member)).1
      have bottom : ∀ result ∈ ordered (detector.results text policy), (-1 : Int) ≤ result.startAt :=
        fun result _ => le_trans (by omega) (Int.natCast_nonneg result.start)
      rw [masks_iff_covers placed nothing inRange, resumed_iff placed inRange]
      exact covers_select_iff (ordered_pairwise _) proper bottom
    · constructor
      · intro _
        simp only [not_forall] at inRange
        obtain ⟨lead, kept, improper⟩ := inRange
        exact .inl ⟨lead, (mem_accepted_iff_leading placed lead).mp kept, improper⟩
      · exact fun _ position _ leaks =>
          inRange ((leaks_iff placed nothing position).mp leaks).1

def maskingPolicy : PiiPolicy where
  maskEntities := {"PERSON", "EMAIL_ADDRESS"}
  blockEntities := {"CREDIT_CARD"}
  scoreThreshold := 1 / 2
  threshold_range := by norm_num
  disjoint := by decide

/-- A name that runs into an e-mail address. -/
def overlappingDetector : PresidioPiiDetector where
  analyze _ _ _ := [⟨"EMAIL_ADDRESS", 4, 19, 1⟩, ⟨"PERSON", 0, 7, 85 / 100⟩]

theorem overlappingDetector_placed :
    ∀ result ∈ overlappingDetector.results "Ann Lee@example.com" maskingPolicy,
      result.Placed "Ann Lee@example.com" maskingPolicy := by
  simp only [PresidioPiiDetector.results, overlappingDetector, List.forall_mem_cons]
  unfold RecognizerResult.Placed
  decide

/-- The address is masked up to the end of the name only. -/
theorem overlappingDetector_leaks :
    (overlappingDetector.scan "Ann Lee@example.com" maskingPolicy).map PiiScanResult.sanitizedText =
        .ok "<PERSON>@example.com" ∧
      ¬ ∀ position, overlappingDetector.Detects "Ann Lee@example.com" maskingPolicy position →
        ¬ overlappingDetector.Leaks "Ann Lee@example.com" maskingPolicy position := by
  have only : accepted (-1) (ordered (overlappingDetector.results "Ann Lee@example.com" maskingPolicy)) =
      [⟨"PERSON", 0, 7, 85 / 100⟩] := by decide +kernel
  refine ⟨by decide +kernel, fun masks => ?_⟩
  refine masks 7 ⟨⟨"EMAIL_ADDRESS", 4, 19, 1⟩, by decide, by decide, by decide⟩ ?_
  rw [leaks_iff overlappingDetector_placed (by decide), only]
  simp only [List.forall_mem_singleton]
  exact ⟨⟨by norm_num, by norm_num⟩, by decide, by decide⟩

/-- A name that ends where an e-mail address begins. -/
def touchingDetector : PresidioPiiDetector where
  analyze _ _ _ := [⟨"EMAIL_ADDRESS", 4, 19, 1⟩, ⟨"PERSON", 0, 4, 85 / 100⟩]

theorem touchingDetector_masks :
    (touchingDetector.scan "Ann Lee@example.com" maskingPolicy).map PiiScanResult.sanitizedText =
        .ok "<PERSON><EMAIL_ADDRESS>" ∧
      ∀ position, touchingDetector.Detects "Ann Lee@example.com" maskingPolicy position →
        ¬ touchingDetector.Leaks "Ann Lee@example.com" maskingPolicy position := by
  refine ⟨by decide +kernel, ?_⟩
  refine (scan_masks_iff touchingDetector "Ann Lee@example.com" maskingPolicy ?_).mpr (.inr ?_)
  · simp only [PresidioPiiDetector.results, touchingDetector, List.forall_mem_cons]
    unfold RecognizerResult.Placed
    decide
  · intro lead leading result member before past
    have listed := mem_ordered.mp leading.mem
    simp only [PresidioPiiDetector.results, touchingDetector, List.mem_cons, List.not_mem_nil,
      or_false] at listed member
    rcases listed with rfl | rfl <;> rcases member with rfl | rfl <;> dsimp only at before past <;> omega

end AgentPlatform.Safety
