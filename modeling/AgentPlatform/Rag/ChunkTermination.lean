import AgentPlatform.Rag.Chunking

namespace AgentPlatform.Rag

open Python

/-- From a natural start, the window reaches the end of the content, or is full, or is pulled
    back to its last space. -/
theorem windowEnd_natural (content : List Char) {chunkSize start : Int} (size : 0 < chunkSize)
    (low : 0 ≤ start) :
    (content.length ≤ start + chunkSize ∧
      windowEnd content chunkSize start = content.length) ∨
    (start + chunkSize < content.length ∧
      windowEnd content chunkSize start = start + chunkSize ∧
      ∀ i : Nat, start < i → (i : Int) < start + chunkSize → content[i]? ≠ some ' ') ∨
    (start + chunkSize < content.length ∧ ∃ space : Nat,
      windowEnd content chunkSize start = space ∧ start < space ∧
      (space : Int) < start + chunkSize ∧ content[space]? = some ' ' ∧
      ∀ i : Nat, space < i → (i : Int) < start + chunkSize → content[i]? ≠ some ' ') := by
  by_cases final : content.length ≤ start + chunkSize
  · left
    refine ⟨final, ?_⟩
    simp only [windowEnd, min_eq_right final]
    omega
  · right
    have stop : min (start + chunkSize) content.length = start + chunkSize := by omega
    have short : start + chunkSize < content.length := by omega
    rcases rfind_range ' ' low (by omega : start ≤ start + chunkSize) short.le with ⟨value, absent⟩ | found
    · left
      refine ⟨short, ?_, fun i above => absent i (by omega)⟩
      simp only [windowEnd, stop, if_pos short, value]
      omega
    · obtain ⟨space, value, above, below, present, later⟩ := found
      by_cases pulled : start < space
      · right
        refine ⟨short, space, ?_, pulled, below, present, later⟩
        simp only [windowEnd, stop, if_pos short, value, gt_iff_lt, if_pos pulled]
      · left
        refine ⟨short, ?_, fun i above => later i (by omega)⟩
        simp only [windowEnd, stop, if_pos short, value, gt_iff_lt, if_neg pulled]

/-- A negative start makes the searched range empty, so `rfind` answers `-1`, which the loop
    takes for a boundary whenever it lies past the start. -/
theorem windowEnd_negative {content : List Char} {chunkSize start : Int}
    (long : chunkSize < content.length) (low : -chunkSize ≤ start) (negative : start < 0) :
    windowEnd content chunkSize start = if start < -1 then -1 else start + chunkSize := by
  have stop : min (start + chunkSize) content.length = start + chunkSize := by omega
  have short : start + chunkSize < content.length := by omega
  have first := clampIndex_negative content.length (by omega) negative
  have last := clampIndex_natural content.length (by omega : 0 ≤ start + chunkSize)
    short.le
  have missing : rfind content ' ' start (start + chunkSize) = -1 := rfind_crossed (by omega)
  simp only [windowEnd, stop, if_pos short, missing, gt_iff_lt]

inductive Finishes (content : List Char) (chunkSize overlap : Int) : Int → Prop where
  | past {start : Int} : content.length ≤ start → Finishes content chunkSize overlap start
  | last {start : Int} : start < content.length →
      windowEnd content chunkSize start = content.length → Finishes content chunkSize overlap start
  | next {start : Int} : start < content.length →
      windowEnd content chunkSize start ≠ content.length →
      Finishes content chunkSize overlap (windowEnd content chunkSize start - overlap) →
      Finishes content chunkSize overlap start

theorem finishes_of_chunkLoop {document : KnowledgeDocument} {embed : String → List Double}
    {chunkSize overlap : Int} {fuel : Nat} {chunks result : List KnowledgeChunk} {start : Int}
    {index : Nat}
    (returned : chunkLoop document embed chunkSize overlap fuel chunks start index = some result) :
    Finishes document.content.toList chunkSize overlap start := by
  induction fuel generalizing chunks start index with
  | zero => cases returned
  | succ fuel ih =>
    simp only [chunkLoop] at returned
    split at returned
    · rename_i inside
      by_cases final :
          windowEnd document.content.toList chunkSize start = document.content.toList.length
      · exact .last inside final
      · rw [if_neg final] at returned
        exact .next inside final (ih returned)
    · exact .past (by omega)

theorem chunkLoop_of_finishes {document : KnowledgeDocument} {chunkSize overlap start : Int}
    (finishes : Finishes document.content.toList chunkSize overlap start)
    (embed : String → List Double) (chunks : List KnowledgeChunk) (index : Nat) :
    ∃ fuel result,
      chunkLoop document embed chunkSize overlap fuel chunks start index = some result := by
  induction finishes generalizing chunks index with
  | past beyond =>
    refine ⟨1, chunks, ?_⟩
    simp only [chunkLoop]
    rw [if_neg (by omega)]
  | last inside final =>
    exact ⟨1, _, by simp only [chunkLoop]; rw [if_pos inside, if_pos final]⟩
  | @next start inside more _ ih =>
    let text := windowText document.content.toList start
      (windowEnd document.content.toList chunkSize start)
    obtain ⟨fuel, result, returned⟩ := ih
      (if text = [] then chunks else chunks ++ [makeChunk document embed index text])
      (if text = [] then index else index + 1)
    refine ⟨fuel + 1, result, ?_⟩
    simp only [chunkLoop]
    rw [if_pos inside, if_neg more]
    exact returned

section Walk

variable {content : List Char} {chunkSize overlap : Int}

/-- A set of starts that no iteration leaves and no exit meets is never left. -/
theorem not_finishes_of_invariant (Invariant : Int → Prop)
    (keep : ∀ start, Invariant start → start < content.length ∧
      windowEnd content chunkSize start ≠ content.length ∧
      Invariant (windowEnd content chunkSize start - overlap))
    {start : Int} (holds : Invariant start) : ¬ Finishes content chunkSize overlap start := by
  intro finishes
  induction finishes with
  | past beyond => exact absurd (keep _ holds).1 (by omega)
  | last _ final => exact (keep _ holds).2.1 final
  | next _ _ _ ih => exact ih (keep _ holds).2.2

theorem finishes_of_progress (Good : Int → Prop)
    (advance : ∀ start, Good start → start < content.length →
      windowEnd content chunkSize start = content.length ∨
      (start < windowEnd content chunkSize start - overlap ∧
        Good (windowEnd content chunkSize start - overlap)))
    {start : Int} (good : Good start) : Finishes content chunkSize overlap start := by
  induction remaining : (content.length - start).toNat using Nat.strong_induction_on
    generalizing start with
  | _ remaining ih =>
    by_cases inside : start < content.length
    · rcases advance start good inside with final | ⟨forward, good'⟩
      · exact .last inside final
      · by_cases final : windowEnd content chunkSize start = content.length
        · exact .last inside final
        · exact .next inside final (ih _ (by omega) good' rfl)
    · exact .past (by omega)

/-- Some space lies after position `after` and before position `limit`. -/
def NextSpace (content : List Char) (after limit : Int) : Prop :=
  ∃ i < content.length, after < (i : Int) ∧ (i : Int) < limit ∧ content[i]? = some ' '

instance (after limit : Int) : Decidable (NextSpace content after limit) := by
  unfold NextSpace; infer_instance

theorem NextSpace.intro {after limit : Int} {i : Nat} (above : after < i) (below : (i : Int) < limit)
    (space : content[i]? = some ' ') : NextSpace content after limit :=
  ⟨i, (List.getElem?_eq_some_iff.mp space).1, above, below, space⟩

/-- The window restarted at `chunkSize - overlap - 1` is not pulled back to `overlap - 1`: it is
    the last one, or starts past that space, or holds a later one. -/
def RestartEscapes (content : List Char) (chunkSize overlap : Int) : Prop :=
  content.length < 2 * chunkSize - overlap ∨ 2 * overlap ≤ chunkSize ∨
    NextSpace content (chunkSize - 1) (2 * chunkSize - overlap - 1)

instance : Decidable (RestartEscapes content chunkSize overlap) := by
  unfold RestartEscapes; infer_instance

/-- A window that is pulled back to `space` restarts at `space - overlap`; from there it is the
    last one or finds a later space. -/
def RestartsAdvance (content : List Char) (chunkSize overlap : Int) : Prop :=
  ∀ space < content.length, overlap ≤ space → space + (chunkSize - overlap) < content.length →
    content[space]? = some ' ' → NextSpace content space (space + (chunkSize - overlap))

instance : Decidable (RestartsAdvance content chunkSize overlap) := by
  unfold RestartsAdvance; infer_instance

/-- The first window is not pulled back into the first overlap, save to its last position. -/
def FirstBoundaryClear (content : List Char) (chunkSize overlap : Int) : Prop :=
  ∀ space < content.length, 0 < space ∧ (space : Int) < overlap → content[space]? = some ' ' →
    NextSpace content space chunkSize ∨
      ((space : Int) = overlap - 1 ∧ RestartEscapes content chunkSize overlap)

instance : Decidable (FirstBoundaryClear content chunkSize overlap) := by
  unfold FirstBoundaryClear; infer_instance

/-- When the loop finishes. -/
def ChunkingFinishes (content : List Char) (chunkSize overlap : Int) : Prop :=
  overlap = 0 ∨ content.length ≤ chunkSize ∨
    (RestartsAdvance content chunkSize overlap ∧ FirstBoundaryClear content chunkSize overlap)

instance : Decidable (ChunkingFinishes content chunkSize overlap) := by
  unfold ChunkingFinishes; infer_instance

/-- No space follows `space` within a restarted window: the walk never gets past it. -/
theorem not_finishes_of_stranded (positive : 0 < overlap) (smaller : overlap < chunkSize)
    {space : Nat} (after : overlap ≤ space) (short : space + (chunkSize - overlap) < content.length)
    (present : content[space]? = some ' ')
    (stranded : ¬ NextSpace content space (space + (chunkSize - overlap))) :
    ¬ Finishes content chunkSize overlap 0 := by
  let Invariant := fun start : Int =>
    ((space : Int) < chunkSize ∧ 0 ≤ start ∧ start ≤ space - overlap) ∨
    (chunkSize ≤ space ∧ -1 - overlap ≤ start ∧ start ≤ space - overlap)
  apply not_finishes_of_invariant Invariant
  · intro start holds
    have upper : start ≤ space - overlap := by rcases holds with h | h <;> exact h.2.2
    by_cases low : 0 ≤ start
    · rcases windowEnd_natural content (by omega : 0 < chunkSize) low with
        ⟨final, _⟩ | ⟨_, value, empty⟩ | ⟨_, found, value, above, below, blank, later⟩
      · omega
      · have outside : start + chunkSize ≤ space := by
          by_contra inside
          exact empty space (by omega) (by omega) present
        rw [value]
        exact ⟨by omega, by omega, by dsimp only [Invariant]; omega⟩
      · have same : (space : Int) < start + chunkSize → found = space := by
          intro inside
          rcases Nat.lt_trichotomy found space with earlier | same | beyond
          · exact absurd present (later space earlier inside)
          · exact same
          · refine absurd (NextSpace.intro ?_ ?_ blank) stranded <;> omega
        rw [value]
        exact ⟨by omega, by omega, by dsimp only [Invariant]; omega⟩
    · rw [windowEnd_negative (by omega) (by dsimp only [Invariant] at holds; omega) (by omega)]
      refine ⟨by omega, ?_⟩
      dsimp only [Invariant] at holds ⊢
      split <;> omega
  · dsimp only [Invariant]
    omega

theorem windowEnd_first (positive : 0 < chunkSize) (long : chunkSize < content.length)
    {space : Nat} (above : 0 < space) (below : (space : Int) < chunkSize)
    (present : content[space]? = some ' ') (last : ¬ NextSpace content space chunkSize) :
    windowEnd content chunkSize 0 = space := by
  rcases windowEnd_natural content positive (le_refl 0) with
    ⟨final, _⟩ | ⟨_, _, empty⟩ | ⟨_, found, value, _, inside, blank, later⟩
  · omega
  · exact absurd present (empty space (by omega) (by omega))
  · rcases Nat.lt_trichotomy found space with earlier | same | beyond
    · exact absurd present (later space earlier (by omega))
    · rw [value, same]
    · exact absurd (NextSpace.intro (by omega) (by omega) blank) last

/-- A first boundary well inside the overlap sends the start below zero for good. -/
theorem not_finishes_of_early (smaller : overlap < chunkSize) (long : chunkSize < content.length)
    (space : Nat) (above : 0 < space) (early : (space : Int) < overlap - 1)
    (present : content[space]? = some ' ') (last : ¬ NextSpace content space chunkSize) :
    ¬ Finishes content chunkSize overlap 0 := by
  apply not_finishes_of_invariant
    (fun start => start = 0 ∨ (-1 - overlap ≤ start ∧ start < -1))
  · rintro start (rfl | ⟨low, negative⟩)
    · rw [windowEnd_first (by omega) long above (by omega) present last]
      omega
    · rw [windowEnd_negative long (by omega) (by omega), if_pos negative]
      omega
  · exact .inl rfl

/-- A first boundary at `overlap - 1` restarts at `-1`, then at `chunkSize - overlap - 1`; when
    that window is pulled back to the same space, the three starts repeat. -/
theorem not_finishes_of_cycle (smaller : overlap < chunkSize) (long : chunkSize < content.length)
    {space : Nat} (above : 0 < space) (edge : (space : Int) = overlap - 1)
    (present : content[space]? = some ' ') (last : ¬ NextSpace content space chunkSize)
    (stuck : ¬ RestartEscapes content chunkSize overlap) :
    ¬ Finishes content chunkSize overlap 0 := by
  simp only [RestartEscapes, not_or] at stuck
  obtain ⟨longer, wide, none⟩ := stuck
  apply not_finishes_of_invariant
    (fun start => start = 0 ∨ start = -1 ∨ start = chunkSize - overlap - 1)
  · rintro start (rfl | rfl | rfl)
    · rw [windowEnd_first (by omega) long above (by omega) present last]
      omega
    · rw [windowEnd_negative long (by omega) (by omega), if_neg (by omega)]
      omega
    · have value : windowEnd content chunkSize (chunkSize - overlap - 1) = space := by
        rcases windowEnd_natural content (by omega : 0 < chunkSize)
            (by omega : 0 ≤ chunkSize - overlap - 1) with
          ⟨final, _⟩ | ⟨_, _, empty⟩ | ⟨_, found, value, _, inside, blank, later⟩
        · omega
        · exact absurd present (empty space (by omega) (by omega))
        · rcases Nat.lt_trichotomy found space with earlier | same | beyond
          · exact absurd present (later space earlier (by omega))
          · rw [value, same]
          · by_cases within : (found : Int) < chunkSize
            · exact absurd (NextSpace.intro (by omega) within blank) last
            · exact absurd (NextSpace.intro (by omega) (by omega) blank) none
      rw [value]
      omega
  · exact .inl rfl

theorem windowEnd_advances_without_overlap (size : 0 < chunkSize) {start : Int} (low : 0 ≤ start) :
    windowEnd content chunkSize start = content.length ∨
      (start < windowEnd content chunkSize start - 0 ∧ 0 ≤ windowEnd content chunkSize start - 0) := by
  rcases windowEnd_natural content size low with
    ⟨_, final⟩ | ⟨_, value, _⟩ | ⟨_, space, value, above, _⟩
  · exact .inl final
  · right; omega
  · right; omega

theorem finishes_single_window (size : 0 < chunkSize) (short : content.length ≤ chunkSize) :
    Finishes content chunkSize overlap 0 := by
  by_cases inside : (0 : Int) < content.length
  · rcases windowEnd_natural content size (le_refl 0) with ⟨_, final⟩ | ⟨long, _⟩ | ⟨long, _⟩
    · exact .last inside final
    · omega
    · omega
  · exact .past (by omega)

/-- The first window is pulled back to the last position of the first overlap. -/
def PulledToEdge (content : List Char) (chunkSize overlap : Int) : Prop :=
  1 < overlap ∧ content[(overlap - 1).toNat]? = some ' ' ∧ ¬ NextSpace content (overlap - 1) chunkSize

instance : Decidable (PulledToEdge content chunkSize overlap) := by
  unfold PulledToEdge; infer_instance

/-- The starts the loop visits after its first window. -/
def Resumed (content : List Char) (chunkSize overlap start : Int) : Prop :=
  0 < start ∧ (PulledToEdge content chunkSize overlap → chunkSize - overlap - 1 ≤ start)

theorem resumed_advances (smaller : overlap < chunkSize) (positive : 0 < overlap)
    (reachable : RestartsAdvance content chunkSize overlap)
    (first : FirstBoundaryClear content chunkSize overlap) {start : Int}
    (resumed : Resumed content chunkSize overlap start) :
    windowEnd content chunkSize start = content.length ∨
      (start < windowEnd content chunkSize start - overlap ∧
        Resumed content chunkSize overlap (windowEnd content chunkSize start - overlap)) := by
  obtain ⟨low, restarted⟩ := resumed
  suffices forward : windowEnd content chunkSize start = content.length ∨
      start < windowEnd content chunkSize start - overlap by
    refine forward.imp_right fun forward => ⟨forward, by omega, fun edge => ?_⟩
    have := restarted edge
    omega
  rcases windowEnd_natural content (by omega : 0 < chunkSize) low.le with
    ⟨_, final⟩ | ⟨_, value, _⟩ | ⟨more, space, value, above, below, present, later⟩
  · exact .inl final
  · right; omega
  · right
    rw [value]
    by_contra stalled
    have bound := (List.getElem?_eq_some_iff.mp present).1
    have absent : ∀ limit, limit ≤ start + chunkSize → ¬ NextSpace content space limit := by
      rintro limit within ⟨i, _, beyond, under, blank⟩
      exact later i (by omega) (by omega) blank
    by_cases after : overlap ≤ space
    · exact absent _ (by omega) (reachable space bound after (by omega) present)
    · rcases first space bound (by omega) present with next | ⟨edge, escape⟩
      · exact absent _ (by omega) next
      · have position : (overlap - 1).toNat = space := by omega
        have restart := restarted ⟨by omega, by rwa [position], by rw [← edge]; exact absent _ (by omega)⟩
        rcases escape with fits | narrow | ⟨i, _, beyond, under, blank⟩
        · omega
        · omega
        · exact later i (by omega) (by omega) blank

/-- What the first window of a longer content leads to: the walk resumes inside that window, or
    the start becomes `-1` and then `chunkSize - overlap - 1`. -/
theorem first_window_cases (smaller : overlap < chunkSize) (positive : 0 < overlap)
    (long : chunkSize < content.length) (reachable : RestartsAdvance content chunkSize overlap)
    (first : FirstBoundaryClear content chunkSize overlap) :
    (¬ PulledToEdge content chunkSize overlap ∧
      Resumed content chunkSize overlap (windowEnd content chunkSize 0 - overlap)) ∨
    (PulledToEdge content chunkSize overlap ∧ windowEnd content chunkSize 0 = overlap - 1 ∧
      Resumed content chunkSize overlap (chunkSize - overlap - 1)) := by
  have edge_last : PulledToEdge content chunkSize overlap →
      windowEnd content chunkSize 0 = overlap - 1 := by
    rintro ⟨wide, present, last⟩
    have position : ((overlap - 1).toNat : Int) = overlap - 1 := by omega
    rw [windowEnd_first (by omega) long (by omega) (by omega) present (by rwa [position]), position]
  rcases windowEnd_natural content (by omega : 0 < chunkSize) (le_refl 0) with
    ⟨final, _⟩ | ⟨_, value, _⟩ | ⟨_, space, value, above, below, present, later⟩
  · omega
  · left
    have untouched : ¬ PulledToEdge content chunkSize overlap := fun edge => by
      have := edge_last edge
      omega
    exact ⟨untouched, by omega, fun edge => absurd edge untouched⟩
  · have bound := (List.getElem?_eq_some_iff.mp present).1
    have absent : ∀ limit ≤ chunkSize, ¬ NextSpace content space limit := by
      rintro limit within ⟨i, _, beyond, under, blank⟩
      exact later i (by omega) (by omega) blank
    by_cases after : overlap ≤ space
    · left
      have strict : (space : Int) ≠ overlap := by
        intro same
        exact absent _ (by omega) (reachable space bound after (by omega) present)
      have untouched : ¬ PulledToEdge content chunkSize overlap := fun edge => by
        have := edge_last edge
        omega
      exact ⟨untouched, by omega, fun edge => absurd edge untouched⟩
    · right
      rcases first space bound (by omega) present with next | ⟨edge, escape⟩
      · exact absurd next (absent _ (le_refl _))
      · have apart : 1 < chunkSize - overlap := by
          rcases escape with fits | narrow | ⟨i, _, beyond, under, _⟩ <;> omega
        have position : (overlap - 1).toNat = space := by omega
        have pulled : PulledToEdge content chunkSize overlap :=
          ⟨by omega, by rwa [position], by rw [← edge]; exact absent _ (le_refl _)⟩
        exact ⟨pulled, by omega, by omega, fun _ => by omega⟩

theorem finishes_of_condition (size : 100 ≤ chunkSize) (nonneg : 0 ≤ overlap)
    (smaller : overlap < chunkSize) (condition : ChunkingFinishes content chunkSize overlap) :
    Finishes content chunkSize overlap 0 := by
  by_cases zero : overlap = 0
  · subst zero
    exact finishes_of_progress (fun start => 0 ≤ start)
      (fun start low _ => windowEnd_advances_without_overlap (by omega) low) (le_refl 0)
  by_cases long : chunkSize < content.length
  · obtain _ | _ | ⟨reachable, first⟩ := condition
    · omega
    · omega
    · have onward : ∀ start, Resumed content chunkSize overlap start →
          Finishes content chunkSize overlap start := fun start =>
        finishes_of_progress _ fun start resumed _ =>
          resumed_advances smaller (by omega) reachable first resumed
      rcases first_window_cases smaller (by omega) long reachable first with
        ⟨_, resumed⟩ | ⟨_, value, resumed⟩
      · by_cases final : windowEnd content chunkSize 0 = content.length
        · exact .last (by omega) final
        · exact .next (by omega) final (onward _ resumed)
      · have restart := windowEnd_negative long (by omega : -chunkSize ≤ -1) (by omega)
        rw [if_neg (by omega)] at restart
        refine .next (by omega) (by omega) ?_
        rw [value, show overlap - 1 - overlap = -1 by omega]
        refine .next (by omega) (by omega) ?_
        rw [restart, show -1 + chunkSize - overlap = chunkSize - overlap - 1 by omega]
        exact onward _ resumed
  · exact finishes_single_window (by omega) (by omega)

theorem condition_of_finishes (nonneg : 0 ≤ overlap) (smaller : overlap < chunkSize)
    (finishes : Finishes content chunkSize overlap 0) :
    ChunkingFinishes content chunkSize overlap := by
  by_contra fails
  simp only [ChunkingFinishes, not_or] at fails
  obtain ⟨nonzero, long, reach⟩ := fails
  refine reach ⟨?_, ?_⟩
  · intro space _ after short present
    by_contra stranded
    exact not_finishes_of_stranded (by omega) smaller after short present stranded finishes
  · rintro space _ ⟨above, early⟩ present
    by_contra escape
    rw [not_or] at escape
    obtain ⟨last, stuck⟩ := escape
    by_cases edge : (space : Int) = overlap - 1
    · exact not_finishes_of_cycle smaller (by omega) above edge present last
        (fun escapes => stuck ⟨edge, escapes⟩) finishes
    · exact not_finishes_of_early smaller (by omega) space above (by omega) present last finishes

end Walk

def Returns (document : KnowledgeDocument) (embed : String → List Double) (chunkSize overlap : Int) :
    Prop :=
  ∃ fuel chunks, chunkDocument fuel document embed chunkSize overlap = some (.ok chunks)

theorem returns_iff_finishes {document : KnowledgeDocument} {embed : String → List Double}
    (config : ChunkConfig) :
    Returns document embed config.chunkSize config.overlap ↔
      Finishes document.content.toList config.chunkSize config.overlap 0 := by
  constructor
  · rintro ⟨fuel, chunks, returned⟩
    simp only [chunkDocument, if_neg config.accepted, Option.map_eq_some_iff] at returned
    obtain ⟨result, loop, _⟩ := returned
    exact finishes_of_chunkLoop loop
  · intro finishes
    obtain ⟨fuel, chunks, returned⟩ := chunkLoop_of_finishes finishes embed [] 1
    exact ⟨fuel, chunks, by simp only [chunkDocument, if_neg config.accepted, returned, Option.map_some]⟩

/-- The loop ends exactly on the documents that satisfy `ChunkingFinishes`. -/
theorem chunkDocument_returns_iff (document : KnowledgeDocument) (embed : String → List Double)
    (config : ChunkConfig) :
    Returns document embed config.chunkSize config.overlap ↔
      ChunkingFinishes document.content.toList config.chunkSize config.overlap := by
  rw [returns_iff_finishes]
  exact ⟨condition_of_finishes config.overlap_nonneg config.overlap_lt,
    finishes_of_condition config.size_bound config.overlap_nonneg config.overlap_lt⟩

/-- A short first word, then a reference of a hundred characters. -/
def strandedDocument : KnowledgeDocument where
  documentId := "POL-PAY-001"
  title := "Delayed Faster Payments"
  version := "1.0"
  classification := .internalSynthetic
  allowedRoles := {"transactions"}
  content := String.ofList ("Reference:".toList ++ ' ' :: List.replicate 100 'x')
  provenanceSha256 := String.ofList (List.replicate 64 '0')
  rolesTrimmed := transactions_trimmed

/-- Its only space is inside the first overlap: no amount of fuel ends the loop. -/
theorem strandedDocument_never_returns :
    ¬ Returns strandedDocument (fun _ => []) 100 80 := by
  rw [returns_iff_finishes (⟨100, 80, by decide, by decide, by decide⟩ : ChunkConfig)]
  simp only [strandedDocument, String.toList_ofList]
  exact not_finishes_of_early (by decide) (by decide +kernel) 10 (by decide) (by decide)
    (by decide +kernel) (by decide +kernel)

end AgentPlatform.Rag
