import AgentPlatform.Rag.ChunkTermination

namespace AgentPlatform.Rag

open Python

/-- The windows the loop visits from `start`, in order. -/
def visitedWindows (content : List Char) (chunkSize overlap : Int) : Nat → Int → List (Int × Int)
  | 0, _ => []
  | fuel + 1, start =>
    if start < content.length then
      let stop := windowEnd content chunkSize start
      (start, stop) ::
        if stop = content.length then [] else visitedWindows content chunkSize overlap fuel (stop - overlap)
    else []

/-- The visited windows whose stripped text is not empty: one for each chunk. -/
def emittedWindows (content : List Char) (chunkSize overlap : Int) (fuel : Nat) (start : Int) :
    List (Int × Int) :=
  (visitedWindows content chunkSize overlap fuel start).filter
    fun window => windowText content window.1 window.2 ≠ []

theorem emittedWindows_inside {content : List Char} {chunkSize overlap start : Int} (fuel : Nat)
    (inside : start < content.length) :
    emittedWindows content chunkSize overlap (fuel + 1) start =
      (if windowText content start (windowEnd content chunkSize start) = [] then []
        else [(start, windowEnd content chunkSize start)]) ++
      if windowEnd content chunkSize start = content.length then []
      else emittedWindows content chunkSize overlap fuel
        (windowEnd content chunkSize start - overlap) := by
  simp only [emittedWindows, visitedWindows, if_pos inside, List.filter_cons, decide_not,
    Bool.not_eq_true', decide_eq_false_iff_not]
  by_cases blank : windowText content start (windowEnd content chunkSize start) = []
  · simp only [blank, not_true_eq_false, ↓reduceIte, List.nil_append]
    split <;> rfl
  · simp only [blank, not_false_eq_true, ↓reduceIte, List.cons_append, List.nil_append]
    split <;> rfl

theorem emittedWindows_past {content : List Char} {chunkSize overlap start : Int} (fuel : Nat)
    (past : ¬ start < content.length) :
    emittedWindows content chunkSize overlap fuel start = [] := by
  cases fuel with
  | zero => rfl
  | succ fuel => simp [emittedWindows, visitedWindows, past]

theorem chunkLoop_emits {document : KnowledgeDocument} {embed : String → List Double}
    {chunkSize overlap : Int} {fuel : Nat} {chunks result : List KnowledgeChunk} {start : Int}
    {index : Nat}
    (returned : chunkLoop document embed chunkSize overlap fuel chunks start index = some result) :
    result = chunks ++
      ((emittedWindows document.content.toList chunkSize overlap fuel start).zipIdx index).map
        fun window => makeChunk document embed window.2
          (windowText document.content.toList window.1.1 window.1.2) := by
  induction fuel generalizing chunks start index with
  | zero => cases returned
  | succ fuel ih =>
    simp only [chunkLoop] at returned
    by_cases inside : start < document.content.toList.length
    · rw [if_pos inside] at returned
      rw [emittedWindows_inside fuel inside]
      by_cases blank : windowText document.content.toList start
          (windowEnd document.content.toList chunkSize start) = []
      · simp only [if_pos blank] at returned ⊢
        split at returned <;> rename_i final
        · simp only [if_pos final, List.append_nil, List.zipIdx_nil, List.map_nil]
          exact (Option.some.inj returned).symm
        · simp only [if_neg final, List.nil_append]
          exact ih returned
      · simp only [if_neg blank] at returned ⊢
        split at returned <;> rename_i final
        · simp only [if_pos final, List.append_nil, List.zipIdx_cons, List.zipIdx_nil, List.map_cons,
            List.map_nil]
          exact (Option.some.inj returned).symm
        · simp only [if_neg final, List.cons_append, List.nil_append, List.zipIdx_cons, List.map_cons]
          rw [ih returned, List.append_assoc, List.cons_append, List.nil_append]
    · rw [if_neg inside] at returned
      rw [emittedWindows_past _ inside, List.zipIdx_nil, List.map_nil, List.append_nil]
      exact (Option.some.inj returned).symm

section Coverage

variable {content : List Char} {chunkSize overlap : Int}

/-- Some window holds the position. -/
def CoveredBy (windows : List (Int × Int)) (position : Nat) : Prop :=
  ∃ window ∈ windows, window.1 ≤ position ∧ (position : Int) < window.2

/-- A window inside the content that holds at most `chunkSize` characters. -/
def WindowFits (content : List Char) (chunkSize : Int) (window : Int × Int) : Prop :=
  0 ≤ window.1 ∧ window.1 < window.2 ∧ window.2 ≤ window.1 + chunkSize ∧ window.2 ≤ content.length

theorem windowEnd_bounds (size : 0 < chunkSize) {start : Int} (low : 0 ≤ start)
    (inside : start < content.length) :
    WindowFits content chunkSize (start, windowEnd content chunkSize start) := by
  rcases windowEnd_natural content size low with
    ⟨_, value⟩ | ⟨_, value, _⟩ | ⟨_, space, value, above, below, _⟩ <;>
    exact ⟨low, by dsimp only; omega, by dsimp only; omega, by dsimp only; omega⟩

theorem windowText_ne_nil {start stop : Int} {position : Nat} (low : 0 ≤ start)
    (above : start ≤ position) (below : (position : Int) < stop) (bound : position < content.length)
    (visible : isSpace content[position] = false) : windowText content start stop ≠ [] := by
  intro blank
  have spaces := (stripBy_eq_nil_iff isSpace _).mp blank _ (mem_slice low above below bound)
  rw [visible] at spaces
  cases spaces

theorem windowText_length {window : Int × Int}
    (fits : WindowFits content chunkSize window) :
    ((windowText content window.1 window.2).length : Int) ≤ chunkSize := by
  obtain ⟨low, grows, narrow, high⟩ := fits
  have shorter := (stripBy_isWithin isSpace (slice content window.1 window.2)).length_le
  have length := slice_length content window.1 window.2
  have first := clampIndex_natural content.length low (by omega)
  have last := clampIndex_natural content.length (by omega : 0 ≤ window.2) high
  rw [windowText]
  omega

/-- From a start whose successors only move forward, the windows are in order, fit the chunk size
    and hold every visible character from that start on. -/
theorem emittedWindows_cover {Good : Int → Prop} (size : 0 < chunkSize) (nonneg : 0 ≤ overlap)
    (natural : ∀ start, Good start → 0 ≤ start)
    (advance : ∀ start, Good start →
      windowEnd content chunkSize start = content.length ∨
      (start < windowEnd content chunkSize start - overlap ∧
        Good (windowEnd content chunkSize start - overlap)))
    {document : KnowledgeDocument} {embed : String → List Double}
    (holds : document.content.toList = content) {fuel : Nat}
    {chunks result : List KnowledgeChunk} {start : Int} {index : Nat} (good : Good start)
    (returned : chunkLoop document embed chunkSize overlap fuel chunks start index = some result) :
    (∀ window ∈ emittedWindows content chunkSize overlap fuel start,
      start ≤ window.1 ∧ WindowFits content chunkSize window) ∧
    (emittedWindows content chunkSize overlap fuel start).Pairwise (fun a b => a.1 < b.1) ∧
    ∀ position (bound : position < content.length), start ≤ position →
      isSpace content[position] = false →
      CoveredBy (emittedWindows content chunkSize overlap fuel start) position := by
  subst holds
  induction fuel generalizing chunks start index with
  | zero => cases returned
  | succ fuel ih =>
    by_cases inside : start < document.content.toList.length
    · have low := natural start good
      have fits := windowEnd_bounds size low inside
      simp only [chunkLoop, if_pos inside] at returned
      rw [emittedWindows_inside fuel inside]
      have here : ∀ position (bound : position < document.content.toList.length), start ≤ position →
          (position : Int) < windowEnd document.content.toList chunkSize start →
          isSpace document.content.toList[position] = false →
          (start, windowEnd document.content.toList chunkSize start) ∈
            (if windowText document.content.toList start
                (windowEnd document.content.toList chunkSize start) = [] then []
              else [(start, windowEnd document.content.toList chunkSize start)]) := by
        intro position bound above below visible
        rw [if_neg (windowText_ne_nil low above below bound visible)]
        exact List.mem_singleton.mpr rfl
      have head : ∀ window ∈ (if windowText document.content.toList start
            (windowEnd document.content.toList chunkSize start) = [] then []
          else [(start, windowEnd document.content.toList chunkSize start)]),
          window = (start, windowEnd document.content.toList chunkSize start) := by
        intro window member
        split at member
        · cases member
        · exact List.mem_singleton.mp member
      split at returned <;> rename_i final
      · simp only [if_pos final, List.append_nil]
        refine ⟨?_, ?_, ?_⟩
        · intro window member
          rw [head window member]
          exact ⟨le_refl _, fits⟩
        · split
          · exact List.Pairwise.nil
          · exact List.pairwise_singleton _ _
        · intro position bound above visible
          exact ⟨_, here position bound above (by omega) visible, above, by dsimp only; omega⟩
      · simp only [if_neg final]
        rcases advance start good with final' | ⟨forward, good'⟩
        · exact absurd final' final
        obtain ⟨later, ordered, covered⟩ := ih good' returned
        refine ⟨?_, ?_, ?_⟩
        · intro window member
          rcases List.mem_append.mp member with first | rest
          · rw [head window first]
            exact ⟨le_refl _, fits⟩
          · have bounds := later window rest
            exact ⟨by omega, bounds.2⟩
        · refine List.pairwise_append.mpr ⟨?_, ordered, ?_⟩
          · split
            · exact List.Pairwise.nil
            · exact List.pairwise_singleton _ _
          · intro window first window' rest
            rw [head window first]
            have bounds := (later window' rest).1
            dsimp only
            omega
        · intro position bound above visible
          by_cases within : (position : Int) < windowEnd document.content.toList chunkSize start
          · exact ⟨_, List.mem_append_left _ (here position bound above within visible), above, within⟩
          · obtain ⟨window, member, around⟩ := covered position bound (by omega) visible
            exact ⟨window, List.mem_append_right _ member, around⟩
    · rw [emittedWindows_past _ inside]
      refine ⟨by simp, List.Pairwise.nil, ?_⟩
      intro position bound above
      omega

/-- What a lossless chunking is, for chunks and the windows they were cut from. -/
structure Lossless (content : List Char) (chunkSize : Int) (chunks : List KnowledgeChunk)
    (windows : List (Int × Int)) : Prop where
  aligned : chunks.map KnowledgeChunk.text =
    windows.map fun window => String.ofList (windowText content window.1 window.2)
  bounded : ∀ chunk ∈ chunks,
    chunk.text.toList <:+: content ∧ (chunk.text.toList.length : Int) ≤ chunkSize
  increasing : windows.Pairwise (fun a b => a.1 < b.1)
  covered : ∀ position (bound : position < content.length), isSpace content[position] = false →
    CoveredBy windows position

/-- The first window is pulled back to the last position of the first overlap, and a visible
    character lies between that space and the start the loop resumes from. -/
def SkipsText (content : List Char) (chunkSize overlap : Int) : Prop :=
  chunkSize < content.length ∧ PulledToEdge content chunkSize overlap ∧
    ∃ position, ∃ bound : position < content.length, overlap ≤ position ∧
      (position : Int) < chunkSize - overlap - 1 ∧ isSpace content[position] = false

theorem makeChunk_texts (document : KnowledgeDocument) (embed : String → List Double)
    (texts : Int × Int → List Char) (windows : List (Int × Int)) (index : Nat) :
    ((windows.zipIdx index).map fun window =>
      makeChunk document embed window.2 (texts window.1)).map KnowledgeChunk.text =
      windows.map fun window => String.ofList (texts window) := by
  induction windows generalizing index with
  | nil => rfl
  | cons window windows ih =>
    simp only [List.zipIdx_cons, List.map_cons, ih]
    rfl

variable {document : KnowledgeDocument} {embed : String → List Double} {fuel : Nat}
  {result : List KnowledgeChunk}

theorem lossless_of_windows
    (returned : chunkLoop document embed chunkSize overlap fuel [] 0 1 = some result)
    (fits : ∀ window ∈ emittedWindows document.content.toList chunkSize overlap fuel 0,
      WindowFits document.content.toList chunkSize window)
    (ordered : (emittedWindows document.content.toList chunkSize overlap fuel 0).Pairwise
      fun a b => a.1 < b.1)
    (covered : ∀ position (bound : position < document.content.toList.length),
      isSpace document.content.toList[position] = false →
      CoveredBy (emittedWindows document.content.toList chunkSize overlap fuel 0) position) :
    Lossless document.content.toList chunkSize result
      (emittedWindows document.content.toList chunkSize overlap fuel 0) := by
  have texts : result.map KnowledgeChunk.text =
      (emittedWindows document.content.toList chunkSize overlap fuel 0).map fun window =>
        String.ofList (windowText document.content.toList window.1 window.2) := by
    rw [chunkLoop_emits returned, List.nil_append]
    exact makeChunk_texts _ _ (fun window => windowText document.content.toList window.1 window.2) _ _
  refine ⟨texts, ?_, ordered, covered⟩
  intro chunk member
  have listed := List.mem_map_of_mem (f := KnowledgeChunk.text) member
  rw [texts] at listed
  obtain ⟨window, inWindows, same⟩ := List.mem_map.mp listed
  rw [← same, String.toList_ofList]
  exact ⟨(stripBy_isWithin _ _).trans (slice_isWithin _ _ _), windowText_length (fits window inWindows)⟩

theorem emittedWindows_straight (size : 100 ≤ chunkSize) (nonneg : 0 ≤ overlap)
    (smaller : overlap < chunkSize)
    (straight : document.content.toList.length ≤ chunkSize ∨
      ¬ PulledToEdge document.content.toList chunkSize overlap)
    (returned : chunkLoop document embed chunkSize overlap fuel [] 0 1 = some result) :
    (∀ window ∈ emittedWindows document.content.toList chunkSize overlap fuel 0,
        0 ≤ window.1 ∧ WindowFits document.content.toList chunkSize window) ∧
      (emittedWindows document.content.toList chunkSize overlap fuel 0).Pairwise (fun a b => a.1 < b.1) ∧
      ∀ position (bound : position < document.content.toList.length),
        (0 : Int) ≤ position → isSpace document.content.toList[position] = false →
        CoveredBy (emittedWindows document.content.toList chunkSize overlap fuel 0) position := by
  set content := document.content.toList with contentDef
  suffices walk : ∃ Good : Int → Prop, Good 0 ∧ (∀ start, Good start → 0 ≤ start) ∧
      ∀ start, Good start → windowEnd content chunkSize start = content.length ∨
        (start < windowEnd content chunkSize start - overlap ∧
          Good (windowEnd content chunkSize start - overlap)) by
    obtain ⟨Good, first, natural, advance⟩ := walk
    exact emittedWindows_cover (by omega) nonneg natural advance contentDef.symm first returned
  by_cases zero : overlap = 0
  · subst zero
    exact ⟨fun start => 0 ≤ start, le_refl 0, fun _ low => low,
      fun start low => windowEnd_advances_without_overlap (by omega) low⟩
  by_cases long : chunkSize < content.length
  · have condition : ChunkingFinishes content chunkSize overlap :=
      condition_of_finishes nonneg smaller (finishes_of_chunkLoop returned)
    obtain _ | _ | ⟨reachable, first⟩ := condition
    · omega
    · omega
    · rcases first_window_cases smaller (by omega) long reachable first with
        ⟨_, resumed⟩ | ⟨pulled, _⟩
      · refine ⟨fun start => start = 0 ∨ Resumed content chunkSize overlap start, .inl rfl, ?_, ?_⟩
        · rintro start (rfl | ⟨low, _⟩)
          · exact le_refl 0
          · exact low.le
        · rintro start (rfl | walked)
          · exact .inr ⟨resumed.1, .inr resumed⟩
          · exact (resumed_advances smaller (by omega) reachable first walked).imp_right
              fun forward => ⟨forward.1, .inr forward.2⟩
      · exact absurd pulled (straight.resolve_left (by omega))
  · refine ⟨fun start => start = 0, rfl, fun start here => here.ge, ?_⟩
    rintro start rfl
    rcases windowEnd_natural content (by omega : 0 < chunkSize) (le_refl 0) with
      ⟨_, value⟩ | ⟨short, _⟩ | ⟨short, _⟩
    · exact .inl value
    · omega
    · omega

theorem lossless_of_not_pulled (size : 100 ≤ chunkSize) (nonneg : 0 ≤ overlap)
    (smaller : overlap < chunkSize)
    (straight : document.content.toList.length ≤ chunkSize ∨
      ¬ PulledToEdge document.content.toList chunkSize overlap)
    (returned : chunkLoop document embed chunkSize overlap fuel [] 0 1 = some result) :
    Lossless document.content.toList chunkSize result
      (emittedWindows document.content.toList chunkSize overlap fuel 0) := by
  obtain ⟨fits, ordered, covered⟩ := emittedWindows_straight size nonneg smaller straight returned
  exact lossless_of_windows returned (fun window member => (fits window member).2) ordered
    fun position bound visible => covered position bound (Int.natCast_nonneg position) visible

/-- When the first window is pulled to the edge, the loop goes on from `-1` with an empty text and
    resumes at `chunkSize - overlap - 1`. -/
theorem emittedWindows_pulled (size : 100 ≤ chunkSize) (nonneg : 0 ≤ overlap)
    (smaller : overlap < chunkSize) (long : chunkSize < document.content.toList.length)
    (pulled : PulledToEdge document.content.toList chunkSize overlap)
    (returned : chunkLoop document embed chunkSize overlap fuel [] 0 1 = some result) :
    ∃ later, emittedWindows document.content.toList chunkSize overlap fuel 0 =
        (if windowText document.content.toList 0 (overlap - 1) = [] then []
          else [(0, overlap - 1)]) ++ later ∧
      (∀ window ∈ later, chunkSize - overlap - 1 ≤ window.1 ∧
        WindowFits document.content.toList chunkSize window) ∧
      later.Pairwise (fun a b => a.1 < b.1) ∧
      0 < chunkSize - overlap - 1 ∧
      ∀ position (bound : position < document.content.toList.length),
        chunkSize - overlap - 1 ≤ position → isSpace document.content.toList[position] = false →
        CoveredBy later position := by
  set content := document.content.toList with contentDef
  have condition : ChunkingFinishes content chunkSize overlap :=
    condition_of_finishes nonneg smaller (finishes_of_chunkLoop returned)
  obtain _ | _ | ⟨reachable, first⟩ := condition
  · exact absurd pulled.1 (by omega)
  · omega
  rcases first_window_cases smaller (by have := pulled.1; omega) long reachable first with
    ⟨straight, _⟩ | ⟨_, value, resumed⟩
  · exact absurd pulled straight
  have restart := windowEnd_negative long (by omega : -chunkSize ≤ -1) (by omega)
  rw [if_neg (by omega)] at restart
  have empty : windowText content (-1) (-1 + chunkSize) = [] := by
    have first := clampIndex_negative content.length (by omega : -(content.length : Int) ≤ -1)
      (by omega)
    have last := clampIndex_natural content.length (by omega : 0 ≤ -1 + chunkSize)
      (by omega)
    rw [windowText, slice_eq_nil (by omega)]
    rfl
  match fuel with
  | 0 => cases returned
  | 1 =>
    simp only [chunkLoop, ← contentDef] at returned
    rw [if_pos (by omega), if_neg (by omega)] at returned
    cases returned
  | fuel + 2 =>
    rw [emittedWindows_inside _ (by omega), value, if_neg (by omega : ¬ overlap - 1 = content.length),
      show overlap - 1 - overlap = -1 by omega, emittedWindows_inside _ (by omega), restart, if_pos empty,
      if_neg (by omega : ¬ -1 + chunkSize = content.length), List.nil_append,
      show -1 + chunkSize - overlap = chunkSize - overlap - 1 by omega]
    simp only [chunkLoop, ← contentDef] at returned
    rw [if_pos (by omega), if_neg (by omega), value, show overlap - 1 - overlap = -1 by omega,
      if_pos (by omega), restart, if_neg (by omega),
      show -1 + chunkSize - overlap = chunkSize - overlap - 1 by omega] at returned
    obtain ⟨fits, ordered, covered⟩ := emittedWindows_cover (by omega) nonneg
      (fun _ walked => walked.1.le)
      (fun _ walked => resumed_advances smaller (by have := pulled.1; omega) reachable first walked)
      contentDef.symm resumed returned
    exact ⟨_, rfl, fits, ordered, resumed.1, covered⟩

theorem emittedWindows_fit (size : 100 ≤ chunkSize) (nonneg : 0 ≤ overlap) (smaller : overlap < chunkSize)
    (returned : chunkLoop document embed chunkSize overlap fuel [] 0 1 = some result) :
    (∀ window ∈ emittedWindows document.content.toList chunkSize overlap fuel 0,
        WindowFits document.content.toList chunkSize window) ∧
      (emittedWindows document.content.toList chunkSize overlap fuel 0).Pairwise fun a b => a.1 < b.1 := by
  by_cases straight : document.content.toList.length ≤ chunkSize ∨
      ¬ PulledToEdge document.content.toList chunkSize overlap
  · obtain ⟨fits, ordered, -⟩ := emittedWindows_straight size nonneg smaller straight returned
    exact ⟨fun window member => (fits window member).2, ordered⟩
  rw [not_or, not_le, not_not] at straight
  obtain ⟨long, pulled⟩ := straight
  obtain ⟨later, windows, fits, ordered, apart, -⟩ :=
    emittedWindows_pulled size nonneg smaller long pulled returned
  have head : ∀ window ∈ (if windowText document.content.toList 0 (overlap - 1) = [] then []
      else [((0 : Int), overlap - 1)]), window = (0, overlap - 1) := by
    intro window member
    split at member
    · cases member
    · exact List.mem_singleton.mp member
  have wide := pulled.1
  rw [windows]
  constructor
  · intro window member
    rcases List.mem_append.mp member with first | rest
    · rw [head window first]
      exact ⟨le_refl _, by dsimp only; omega, by dsimp only; omega, by dsimp only; omega⟩
    · exact (fits window rest).2
  · refine List.pairwise_append.mpr ⟨?_, ordered, ?_⟩
    · split
      · exact List.Pairwise.nil
      · exact List.pairwise_singleton _ _
    · intro window first window' rest
      rw [head window first]
      have bounds := (fits window' rest).1
      dsimp only
      omega

theorem lossless_of_not_skips (size : 100 ≤ chunkSize) (nonneg : 0 ≤ overlap)
    (smaller : overlap < chunkSize)
    (keeps : ¬ SkipsText document.content.toList chunkSize overlap)
    (returned : chunkLoop document embed chunkSize overlap fuel [] 0 1 = some result) :
    Lossless document.content.toList chunkSize result
      (emittedWindows document.content.toList chunkSize overlap fuel 0) := by
  by_cases straight : document.content.toList.length ≤ chunkSize ∨
      ¬ PulledToEdge document.content.toList chunkSize overlap
  · exact lossless_of_not_pulled size nonneg smaller straight returned
  rw [not_or, not_le, not_not] at straight
  obtain ⟨long, pulled⟩ := straight
  obtain ⟨fits, ordered⟩ := emittedWindows_fit size nonneg smaller returned
  obtain ⟨later, windows, -, -, -, covered⟩ :=
    emittedWindows_pulled size nonneg smaller long pulled returned
  have wide := pulled.1
  refine lossless_of_windows returned fits ordered ?_
  intro position bound visible
  rw [windows]
  by_cases before : (position : Int) < overlap - 1
  · refine ⟨(0, overlap - 1), List.mem_append_left _ ?_, by dsimp only; omega, before⟩
    rw [if_neg (windowText_ne_nil (le_refl 0) (by omega) before bound visible)]
    exact List.mem_singleton.mpr rfl
  · have away : (position : Int) ≠ overlap - 1 := by
      intro edge
      have blank := pulled.2.1
      rw [show (overlap - 1).toNat = position by omega, List.getElem?_eq_getElem bound] at blank
      rw [Option.some.inj blank] at visible
      exact absurd visible (by decide)
    have beyond : chunkSize - overlap - 1 ≤ position := by
      by_contra short
      exact keeps ⟨long, pulled, position, bound, by omega, by omega, visible⟩
    obtain ⟨window, member, around⟩ := covered position bound beyond visible
    exact ⟨window, List.mem_append_right _ member, around⟩

theorem not_lossless_of_skips (size : 100 ≤ chunkSize) (nonneg : 0 ≤ overlap)
    (smaller : overlap < chunkSize)
    (skips : SkipsText document.content.toList chunkSize overlap)
    (returned : chunkLoop document embed chunkSize overlap fuel [] 0 1 = some result) :
    ¬ Lossless document.content.toList chunkSize result
      (emittedWindows document.content.toList chunkSize overlap fuel 0) := by
  intro lossless
  obtain ⟨long, pulled, position, bound, above, below, visible⟩ := skips
  obtain ⟨later, windows, fits, _⟩ :=
    emittedWindows_pulled size nonneg smaller long pulled returned
  obtain ⟨window, member, low, high⟩ := lossless.covered position bound visible
  rw [windows] at member
  rcases List.mem_append.mp member with first | rest
  · split at first
    · cases first
    · rw [List.mem_singleton.mp first] at high
      dsimp only at high
      omega
  · have bounds := (fits window rest).1
    omega

end Coverage

theorem chunkLoop_of_returned {document : KnowledgeDocument} {embed : String → List Double}
    {fuel : Nat} {chunks : List KnowledgeChunk} (config : ChunkConfig)
    (returned : chunkDocument fuel document embed config.chunkSize config.overlap =
      some (.ok chunks)) :
    chunkLoop document embed config.chunkSize config.overlap fuel [] 0 1 = some chunks := by
  rw [chunkDocument, if_neg config.accepted, Option.map_eq_some_iff] at returned
  obtain ⟨result, loop, same⟩ := returned
  rw [loop, Except.ok.inj same]

theorem length_windows_le {content : List Char} {chunkSize : Int} {windows : List (Int × Int)}
    (fits : ∀ window ∈ windows, WindowFits content chunkSize window)
    (ordered : windows.Pairwise fun a b => a.1 < b.1) : windows.length ≤ content.length := by
  have starts : (windows.map fun window => window.1.toNat).Nodup := by
    rw [List.nodup_iff_pairwise_ne, List.pairwise_map]
    refine ordered.imp_of_mem fun {first second} member member' below same => ?_
    have low := (fits first member).1
    have low' := (fits second member').1
    omega
  have inside : windows.map (fun window => window.1.toNat) ⊆ List.range content.length := by
    intro start member
    obtain ⟨window, listed, rfl⟩ := List.mem_map.mp member
    obtain ⟨low, grows, -, high⟩ := fits window listed
    rw [List.mem_range]
    omega
  have size := (starts.subperm inside).length_le
  rwa [List.length_map, List.length_range] at size

/-- No chunk is longer than the chunk size, and none has a number beyond the length of the content. -/
theorem chunkDocument_sizes {document : KnowledgeDocument} {embed : String → List Double} {fuel : Nat}
    {chunks : List KnowledgeChunk} (config : ChunkConfig)
    (returned : chunkDocument fuel document embed config.chunkSize config.overlap = some (.ok chunks))
    {chunk : KnowledgeChunk} (member : chunk ∈ chunks) :
    (chunk.text.length : Int) ≤ config.chunkSize ∧ ∃ index ≤ document.content.length,
      chunk.chunkId = document.documentId ++ "#chunk-" ++ toString index := by
  have loop := chunkLoop_of_returned config returned
  obtain ⟨fits, ordered⟩ := emittedWindows_fit config.size_bound config.overlap_nonneg config.overlap_lt loop
  have few := length_windows_le fits ordered
  rw [chunkLoop_emits loop, List.nil_append] at member
  obtain ⟨window, listed, rfl⟩ := List.mem_map.mp member
  obtain ⟨-, numbered, inWindows⟩ := List.mem_zipIdx listed
  constructor
  · rw [makeChunk, String.length_ofList]
    exact windowText_length (fits window.1 (inWindows ▸ List.getElem_mem _))
  · refine ⟨window.2, ?_, rfl⟩
    rw [← String.length_toList]
    omega

/-- A returned chunking is lossless exactly when it skips no text. -/
theorem chunkDocument_lossless_iff (document : KnowledgeDocument) (embed : String → List Double)
    (config : ChunkConfig) (fuel : Nat) (chunks : List KnowledgeChunk)
    (returned : chunkDocument fuel document embed config.chunkSize config.overlap =
      some (.ok chunks)) :
    Lossless document.content.toList config.chunkSize chunks
      (emittedWindows document.content.toList config.chunkSize config.overlap fuel 0) ↔
    ¬ SkipsText document.content.toList config.chunkSize config.overlap := by
  have loop := chunkLoop_of_returned config returned
  constructor
  · intro lossless skips
    exact not_lossless_of_skips config.size_bound config.overlap_nonneg config.overlap_lt skips loop
      lossless
  · intro keeps
    exact lossless_of_not_skips config.size_bound config.overlap_nonneg config.overlap_lt keeps loop

theorem chunkDocument_pair (document : KnowledgeDocument) (embed : String → List Double) (config : ChunkConfig)
    {stop : Int} (inside : 0 < (document.content.toList.length : Int))
    (first : windowEnd document.content.toList config.chunkSize 0 = stop)
    (more : stop ≠ document.content.toList.length)
    (inside' : stop - config.overlap < document.content.toList.length)
    (last : windowEnd document.content.toList config.chunkSize (stop - config.overlap) =
      document.content.toList.length) :
    ∃ chunks, chunkDocument 2 document embed config.chunkSize config.overlap = some (.ok chunks) := by
  simp only [chunkDocument, if_neg config.accepted, chunkLoop]
  rw [first, if_pos inside, if_neg more, if_pos inside', if_pos last]
  exact ⟨_, rfl⟩

/-- Six sentences of nineteen characters, in two windows that end and start between words. -/
def reviewsContent : List Char := [' '].intercalate (List.replicate 6 "Refunds need review".toList)

def reviewsDocument : KnowledgeDocument where
  documentId := "POL-REF-002"
  title := "Refund Approval"
  version := "1.0"
  classification := .internalSynthetic
  allowedRoles := {"transactions"}
  content := String.ofList reviewsContent
  provenanceSha256 := String.ofList (List.replicate 64 '0')
  rolesTrimmed := transactions_trimmed

theorem reviewsContent_windows : emittedWindows reviewsContent 100 20 2 0 = [(0, 99), (79, 119)] := by decide +kernel

theorem reviewsContent_keeps : ¬ SkipsText reviewsContent 100 20 := by
  rintro ⟨-, pulled, -⟩
  exact absurd pulled (by decide +kernel)

theorem reviewsDocument_lossless :
    ∃ chunks, chunkDocument 2 reviewsDocument (fun _ => []) 100 20 = some (.ok chunks) ∧
      Lossless reviewsContent 100 chunks [(0, 99), (79, 119)] := by
  have same : reviewsDocument.content.toList = reviewsContent := String.toList_ofList
  have first : windowEnd reviewsDocument.content.toList 100 0 = 99 := by
    rw [same]
    decide +kernel
  obtain ⟨chunks, returned⟩ := chunkDocument_pair reviewsDocument (fun _ => [])
    ⟨100, 20, by decide, by decide, by decide⟩ (by rw [same]; decide +kernel) first
    (by rw [same]; decide +kernel) (by rw [same]; decide +kernel) (by rw [same]; decide +kernel)
  refine ⟨chunks, returned, ?_⟩
  have lossless := (chunkDocument_lossless_iff reviewsDocument (fun _ => [])
    ⟨100, 20, by decide, by decide, by decide⟩ 2 chunks returned).mpr (by rw [same]; exact reviewsContent_keeps)
  rw [same] at lossless
  rw [← reviewsContent_windows]
  exact lossless

/-- A first word that ends where the first overlap does, then a reference of a hundred characters. -/
def edgeDocument : KnowledgeDocument where
  documentId := "POL-PAY-001"
  title := "Delayed Faster Payments"
  version := "1.0"
  classification := .internalSynthetic
  allowedRoles := {"transactions"}
  content := String.ofList ("Settlement-reference".toList.dropLast ++ ' ' :: List.replicate 100 'x')
  provenanceSha256 := String.ofList (List.replicate 64 '0')
  rolesTrimmed := transactions_trimmed

/-- Its chunking returns and drops the characters at positions 20 to 78. -/
theorem edgeDocument_loses_text :
    ∃ fuel chunks, chunkDocument fuel edgeDocument (fun _ => []) 100 20 = some (.ok chunks) ∧
      ¬ Lossless edgeDocument.content.toList 100 chunks
        (emittedWindows edgeDocument.content.toList 100 20 fuel 0) := by
  have returns : Returns edgeDocument (fun _ => []) 100 20 := by
    rw [returns_iff_finishes (⟨100, 20, by decide, by decide, by decide⟩ : ChunkConfig)]
    apply finishes_of_condition (by decide) (by decide) (by decide)
    simp only [edgeDocument, String.toList_ofList]
    decide +kernel
  obtain ⟨fuel, chunks, returned⟩ := returns
  have loop := chunkLoop_of_returned ⟨100, 20, by decide, by decide, by decide⟩ returned
  have skips : SkipsText edgeDocument.content.toList 100 20 := by
    simp only [edgeDocument, String.toList_ofList]
    exact ⟨by decide +kernel, by decide +kernel, 20, by decide +kernel, by decide, by decide,
      by decide⟩
  exact ⟨fuel, chunks, returned,
    not_lossless_of_skips (by decide) (by decide) (by decide) skips loop⟩

end AgentPlatform.Rag
