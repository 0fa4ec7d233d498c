import AgentPlatform.Rag.Groundedness

/-! # Cutting a citation out

What the evaluator reads of two texts and the citation between them. -/

namespace AgentPlatform.Rag

open Python

variable {unicode : Unicode}

theorem citedPattern_matches {word : List Char} :
    (citedPattern unicode).Matches word ↔
      ∃ name number, word = name ++ "#chunk-".toList ++ number ∧
        (name ≠ [] ∧ ∀ c ∈ name, isIdChar c = true) ∧ (number ≠ [] ∧ ∀ c ∈ number, unicode.decimal c = true) := by
  constructor
  · rintro ⟨name, rest, rfl, named, marker, number, rfl, marked, numbered⟩
    refine ⟨name, number, ?_, oneOrMore_matches.mp named, oneOrMore_matches.mp numbered⟩
    rw [exactly_matches.mp marked, List.append_assoc]
  · rintro ⟨name, number, rfl, named, numbered⟩
    exact ⟨name, _, List.append_assoc .., oneOrMore_matches.mpr named, _, number, rfl, exactly_matches.mpr rfl,
      oneOrMore_matches.mpr numbered⟩

def isBracket (c : Char) : Bool := c = '[' || c = ']'

theorem isIdChar_bracket {c : Char} (bracket : isBracket c = true) : isIdChar c = false := by
  rcases Bool.or_eq_true_iff.mp bracket with left | right
  · rw [of_decide_eq_true left]
    decide
  · rw [of_decide_eq_true right]
    decide

theorem decimal_bracket {c : Char} (bracket : isBracket c = true) : unicode.decimal c = false := by
  rcases Bool.or_eq_true_iff.mp bracket with left | right
  · rw [of_decide_eq_true left, unicode.digits _ (by decide)]
    decide
  · rw [of_decide_eq_true right, unicode.digits _ (by decide)]
    decide

theorem citedPattern_bracket {word : List Char} (matched : (citedPattern unicode).Matches word) :
    ∀ c ∈ word, isBracket c = false := by
  obtain ⟨name, number, rfl, ⟨-, named⟩, -, numbered⟩ := citedPattern_matches.mp matched
  intro c member
  rw [Bool.eq_false_iff]
  intro bracket
  rcases List.mem_append.mp member with front | last
  · rcases List.mem_append.mp front with first | middle
    · exact absurd (named c first) (by rw [isIdChar_bracket bracket]; decide)
    · have plain : ("#chunk-".toList.all fun c => !isBracket c) = true := by decide
      have other := List.all_eq_true.mp plain c middle
      rw [bracket] at other
      exact absurd other (by decide)
  · exact absurd (numbered c last) (by rw [decimal_bracket bracket]; decide)

theorem citationPattern_matches {word : List Char} :
    (citationPattern unicode).Matches word ↔
      ∃ cited, word = '[' :: cited ++ [']'] ∧ (citedPattern unicode).Matches cited := by
  constructor
  · rintro ⟨start, rest, rfl, ⟨c, rfl, opens⟩, cited, final, rfl, matched, d, rfl, closes⟩
    rw [of_decide_eq_true opens, of_decide_eq_true closes]
    exact ⟨cited, rfl, matched⟩
  · rintro ⟨cited, rfl, matched⟩
    exact ⟨['['], cited ++ [']'], rfl, ⟨'[', rfl, decide_eq_true rfl⟩, cited, [']'], rfl, matched, ']', rfl,
      decide_eq_true rfl⟩

theorem citationPattern_delimited : (citationPattern unicode).Delimited '[' ']' where
  differ := by decide
  shape word matched := by
    obtain ⟨cited, rfl, inner⟩ := citationPattern_matches.mp matched
    have plain := citedPattern_bracket inner
    refine ⟨cited, rfl, fun member => ?_, fun member => ?_⟩
    · exact absurd (plain '[' member) (by decide)
    · exact absurd (plain ']' member) (by decide)

def bracketed (cited : String) : String := "[" ++ cited ++ "]"

theorem bracketed_matches {cited : String} (matched : (citedPattern unicode).Matches cited.toList) :
    (citationPattern unicode).Matches (bracketed cited).toList := by
  rw [bracketed, String.toList_append, String.toList_append]
  exact citationPattern_matches.mpr ⟨cited.toList, rfl, matched⟩

theorem citedId_bracketed (cited : String) : citedId (bracketed cited).toList = cited := by
  rw [citedId, bracketed, String.toList_append, String.toList_append]
  show String.ofList (cited.toList ++ [']']).dropLast = cited
  rw [List.dropLast_concat, String.ofList_toList]

section

variable {cited : String} (matched : (citedPattern unicode).Matches cited.toList) (before after : String)
include matched

theorem citations_append :
    citations unicode (before ++ bracketed cited ++ after) =
      citations unicode before ∪ insert cited (citations unicode after) := by
  rw [citations, String.toList_append, String.toList_append,
    citationPattern_delimited.findAll_append (bracketed_matches matched), List.map_append, List.map_cons,
    citedId_bracketed, List.toFinset_append, List.toFinset_cons]
  rfl

theorem prose_append :
    prose unicode (before ++ bracketed cited ++ after) = prose unicode before ++ prose unicode after := by
  rw [prose, String.toList_append, String.toList_append,
    citationPattern_delimited.removeAll_append (bracketed_matches matched), String.ofList_append]
  rfl

end

def Uncited (unicode : Unicode) (text : String) : Prop := (citationPattern unicode).Free text.toList

theorem uncited_iff {text : String} : Uncited unicode text ↔ citations unicode text = ∅ := by
  rw [Uncited, ← citationPattern_delimited.findAll_eq_nil_iff, citations, List.toFinset_eq_empty_iff,
    List.map_eq_nil_iff]

theorem prose_uncited {text : String} (uncited : Uncited unicode text) : prose unicode text = text := by
  rw [prose, Regex.removeAll_free uncited, String.ofList_toList]

theorem mem_termsIn {text word : List Char} :
    String.ofList word ∈ termsIn text ↔ isSignificant word = true ∧ word ∈ termTokens text := by
  have injective : Function.Injective String.ofList := fun _ _ same => String.ofList_injective same
  rw [termsIn, List.mem_toFinset, List.mem_map_of_injective injective, List.mem_filter, and_comm]

/-- The tokens that meet at the joint of two texts. -/
def joint (before after : List Char) : List (List Char) :=
  [before.rtakeWhile isTermChar, after.takeWhile isTermChar,
    before.rtakeWhile isTermChar ++ after.takeWhile isTermChar]

/-- The joint of two texts joins no tokens, or only such as are not significant or occur elsewhere in them. -/
def Seamless (before after : List Char) : Prop :=
  before.rtakeWhile isTermChar = [] ∨ after.takeWhile isTermChar = [] ∨
    ∀ word ∈ joint before after, isSignificant word = true →
      word ∈ termTokens (before.rdropWhile isTermChar) ++ termTokens (after.dropWhile isTermChar)

theorem termsIn_append_iff {before after : List Char} :
    termsIn (before ++ after) = termsIn before ∪ termsIn after ↔ Seamless before after := by
  refine Iff.trans ?_ (@List.runs_append_iff _ isTermChar (isSignificant · = true) before after)
  constructor
  · intro same word counts
    have alike := Finset.ext_iff.mp same (String.ofList word)
    simpa only [Finset.mem_union, mem_termsIn, termTokens, counts, true_and] using alike
  · intro alike
    ext term
    rw [← String.ofList_toList (s := term), Finset.mem_union, mem_termsIn, mem_termsIn, mem_termsIn, ← and_or_left]
    exact and_congr_right fun counts => alike term.toList counts

/-- The evaluation of two texts and a citation between them reads the terms of the texts and finds that citation.
    Without the citation it finds none and has the same score. -/
structure Undisturbed (unicode : Unicode) (before cited after : String) : Prop where
  terms : significantTerms unicode (prose unicode (before ++ bracketed cited ++ after)) =
    significantTerms unicode before ∪ significantTerms unicode after
  found : ∀ (evaluator : GroundednessEvaluator) evidence, ∃ report,
    evaluator.evaluate unicode (before ++ bracketed cited ++ after) evidence = .ok report ∧
      report.citationsFound = [cited]
  removed : ∀ (evaluator : GroundednessEvaluator) evidence, ∃ report bare,
    evaluator.evaluate unicode (before ++ bracketed cited ++ after) evidence = .ok report ∧
      evaluator.evaluate unicode (before ++ after) evidence = .ok bare ∧
      bare.termOverlapScore = report.termOverlapScore ∧ bare.citationsFound = []

section

variable {before cited after : String} (matched : (citedPattern unicode).Matches cited.toList)
  (first : Uncited unicode before) (last : Uncited unicode after)
include matched first last

theorem prose_between : prose unicode (before ++ bracketed cited ++ after) = before ++ after := by
  rw [prose_append matched, prose_uncited first, prose_uncited last]

theorem citations_between : citations unicode (before ++ bracketed cited ++ after) = {cited} := by
  rw [citations_append matched, uncited_iff.mp first, uncited_iff.mp last, Finset.empty_union,
    insert_empty_eq]

theorem citationsFound_between (evaluator : GroundednessEvaluator) (evidence : RetrievalResult) :
    (evaluator.report unicode (before ++ bracketed cited ++ after) evidence).citationsFound = [cited] := by
  rw [GroundednessEvaluator.report, citations_between matched first last, Finset.singleton_val, sorted,
    Multiset.sort_singleton]

theorem terms_between :
    significantTerms unicode (prose unicode (before ++ bracketed cited ++ after)) =
        significantTerms unicode before ∪ significantTerms unicode after ↔
      Seamless (unicode.casefold before).toList (unicode.casefold after).toList := by
  rw [prose_between matched first last, significantTerms, unicode.casefold_append, String.toList_append]
  exact termsIn_append_iff

/-- A citation disturbs nothing exactly when no tokens are joined where it is cut out, and no citation. -/
theorem undisturbed_iff :
    Undisturbed unicode before cited after ↔
      Seamless (unicode.casefold before).toList (unicode.casefold after).toList ∧
        Uncited unicode (before ++ after) := by
  constructor
  · intro undisturbed
    refine ⟨(terms_between matched first last).mp undisturbed.terms, ?_⟩
    obtain ⟨report, bare, -, evaluated, -, none⟩ := undisturbed.removed ⟨0, le_rfl, zero_le_one⟩ ⟨[]⟩
    rw [GroundednessEvaluator.evaluate_eq, Except.ok.injEq] at evaluated
    rw [← evaluated, GroundednessEvaluator.citationsFound_eq_nil] at none
    exact uncited_iff.mpr none
  · rintro ⟨seamless, uncited⟩
    constructor
    · exact (terms_between matched first last).mpr seamless
    · intro evaluator evidence
      have evaluated := evaluator.evaluate_eq unicode (before ++ bracketed cited ++ after) evidence
      exact ⟨_, evaluated, citationsFound_between matched first last evaluator evidence⟩
    · intro evaluator evidence
      have evaluated := evaluator.evaluate_eq unicode (before ++ bracketed cited ++ after) evidence
      have bare := evaluator.evaluate_eq unicode (before ++ after) evidence
      refine ⟨_, _, evaluated, bare, ?_, ?_⟩
      · rw [GroundednessEvaluator.report_score, GroundednessEvaluator.report_score, GroundednessEvaluator.fraction,
          GroundednessEvaluator.fraction, prose_between matched first last, prose_uncited uncited]
      · rw [GroundednessEvaluator.citationsFound_eq_nil]
        exact uncited_iff.mp uncited

end

theorem fee_matches : (citedPattern asciiUnicode).Matches "fee#chunk-1".toList := by
  have name : "fee".toList.all isIdChar = true := by decide
  have number : "1".toList.all asciiUnicode.decimal = true := by decide
  exact citedPattern_matches.mpr ⟨"fee".toList, "1".toList, by decide, ⟨by decide, List.all_eq_true.mp name⟩,
    by decide, List.all_eq_true.mp number⟩

theorem uncited_of_notMem {text : String} (absent : '[' ∉ text.toList) : Uncited unicode text :=
  citationPattern_delimited.free_of_notMem absent

theorem undisturbed_fee : Undisturbed asciiUnicode "late " "fee#chunk-1" " cap" := by
  have seamless : Seamless "late ".toList " cap".toList := .inl (by decide)
  exact (undisturbed_iff fee_matches (uncited_of_notMem (by decide)) (uncited_of_notMem (by decide))).mpr
    ⟨seamless, uncited_of_notMem (by decide)⟩

/-- Cutting the citation out makes one word of two. -/
theorem undisturbed_joined :
    Uncited asciiUnicode "late" ∧ Uncited asciiUnicode "cap" ∧
      (citedPattern asciiUnicode).Matches "fee#chunk-1".toList ∧
      ¬ Undisturbed asciiUnicode "late" "fee#chunk-1" "cap" := by
  refine ⟨uncited_of_notMem (by decide), uncited_of_notMem (by decide), fee_matches, fun undisturbed => ?_⟩
  have joined : significantTerms asciiUnicode (prose asciiUnicode "late[fee#chunk-1]cap") = {"latecap"} := by
    decide
  have apart : significantTerms asciiUnicode "late" ∪ significantTerms asciiUnicode "cap" = {"late", "cap"} := by
    decide
  have same := undisturbed.terms.symm.trans joined
  rw [apart] at same
  exact absurd same (by decide)

end AgentPlatform.Rag
