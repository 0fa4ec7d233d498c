import AgentPlatform.Base.Runs
import AgentPlatform.Rag.Ingestion
import Mathlib.Data.List.Forall2
import Mathlib.Data.List.Nodup
import Mathlib.Data.List.Perm.Basic
import Mathlib.Logic.Relator

/-! # The grammar of a policy document

A line of dashes, a line for each required field in any order, a second line of dashes, and the content. -/

namespace AgentPlatform.Rag

open Python

/-- `key: value`, with anything after the first colon in the value. -/
def FieldLine (line : List Char) (field : String × String) : Prop :=
  ∃ before after, line = before ++ ':' :: after ∧ ':' ∉ before ∧
    field = (strip (String.ofList before), strip (String.ofList after)) ∧ field.1 ≠ "" ∧ field.2 ≠ ""

/-- The lines joined and trimmed. -/
def joinedContent (lines : List (List Char)) : List Char := stripBy isSpace (List.intercalate ['\n'] lines)

structure Grammar (document : List Char) (headerLines body : List (List Char)) : Prop where
  lines : splitLines [] document = frontMatter :: headerLines ++ frontMatter :: body
  open_lines : frontMatter ∉ headerLines
  fields : ∃ fields : Metadata, List.Forall₂ FieldLine headerLines fields ∧
    (fields.map Prod.fst).Perm requiredHeaders
  long : 20 ≤ (joinedContent body).length

/-- The document is split, and its header fields are the required ones. -/
def Accepts (document : List Char) (headers : Metadata) (content : List Char) : Prop :=
  splitDocument document = .ok (headers, content) ∧
    requiredHeaders ⊆ headers.map Prod.fst ∧ headers.map Prod.fst ⊆ requiredHeaders

theorem headerField_iff (line : List Char) (field : String × String) :
    headerField line = some field ↔ FieldLine line field := by
  constructor
  · intro read
    unfold headerField at read
    split at read
    · rename_i colon
      obtain ⟨before, after, rfl, absent⟩ := List.split_first colon
      rw [List.takeWhile_ne_append absent, List.dropWhile_ne_append absent, List.drop_succ_cons, List.drop_zero] at read
      dsimp only at read
      split at read
      · cases read
      · rename_i filled
        push Not at filled
        cases read
        exact ⟨before, after, rfl, absent, rfl, filled.1, filled.2⟩
    · cases read
  · rintro ⟨before, after, rfl, absent, rfl, key, value⟩
    unfold headerField
    rw [if_pos (by simp), List.takeWhile_ne_append absent, List.dropWhile_ne_append absent, List.drop_succ_cons,
      List.drop_zero]
    exact if_neg (not_or.mpr ⟨key, value⟩)

theorem fieldLine_rightUnique : Relator.RightUnique FieldLine := by
  intro line field field' isField isField'
  rw [← headerField_iff] at isField isField'
  exact Option.some.inj (isField.symm.trans isField')

/-- The header loop accepts lines that are fields with keys of their own. -/
theorem parseHeaders_iff (lines : List (List Char)) (known headers : Metadata)
    (distinct : (known.map Prod.fst).Nodup) :
    parseHeaders lines known = .ok headers ↔
      ∃ fields, List.Forall₂ FieldLine lines fields ∧ headers = known ++ fields ∧
        ((known ++ fields).map Prod.fst).Nodup := by
  induction lines generalizing known with
  | nil =>
    rw [parseHeaders, Except.ok.injEq]
    constructor
    · rintro rfl
      exact ⟨[], .nil, (List.append_nil _).symm, by rwa [List.append_nil]⟩
    · rintro ⟨fields, none, rfl, -⟩
      rw [List.forall₂_nil_left_iff] at none
      rw [none, List.append_nil]
  | cons line lines ih =>
    rw [parseHeaders]
    cases read : headerField line with
    | none =>
      refine iff_of_false (by simp) ?_
      rintro ⟨fields, first, -⟩
      obtain ⟨field, rest, isField, -, rfl⟩ := List.forall₂_cons_left_iff.mp first
      rw [(headerField_iff line field).mpr isField] at read
      cases read
    | some field =>
      obtain ⟨key, value⟩ := field
      dsimp only
      have isField := (headerField_iff line (key, value)).mp read
      by_cases taken : key ∈ known.map Prod.fst
      · rw [if_pos taken]
        refine iff_of_false (by simp) ?_
        rintro ⟨fields, first, -, distinct'⟩
        obtain ⟨field, rest, other, -, rfl⟩ := List.forall₂_cons_left_iff.mp first
        rw [← headerField_iff, read] at other
        obtain rfl := Option.some.inj other
        rw [List.map_append, List.nodup_append] at distinct'
        exact distinct'.2.2 key taken key List.mem_cons_self rfl
      · rw [if_neg taken, ih]
        · constructor
          · rintro ⟨fields, first, rfl, distinct'⟩
            rw [List.append_assoc, List.singleton_append] at distinct'
            exact ⟨(key, value) :: fields, .cons isField first, by simp, distinct'⟩
          · rintro ⟨fields, first, rfl, distinct'⟩
            obtain ⟨field, rest, other, more, rfl⟩ := List.forall₂_cons_left_iff.mp first
            rw [← headerField_iff, read] at other
            obtain rfl := Option.some.inj other
            refine ⟨rest, more, by simp, ?_⟩
            rwa [List.append_assoc, List.singleton_append]
        · rw [List.map_append, List.nodup_append]
          refine ⟨distinct, List.nodup_singleton key, ?_⟩
          rintro other member last isLast rfl
          rw [List.map_singleton, List.mem_singleton] at isLast
          rw [isLast] at member
          exact taken member

theorem splitDocument_lines {document : List Char} {headerLines body : List (List Char)}
    (whole : splitLines [] document = frontMatter :: headerLines ++ frontMatter :: body)
    (open_lines : frontMatter ∉ headerLines) :
    splitDocument document =
      if (splitLines [] document).length < 8 then
        .error (.refused "Document must start with metadata front matter")
      else (parseHeaders headerLines []).bind fun headers =>
        if (joinedContent body).length < 20 then .error (.refused "Document content is too short")
        else .ok (headers, joinedContent body) := by
  have first : (splitLines [] document).head? = some frontMatter := by rw [whole]; rfl
  have rest : (splitLines [] document).tail = headerLines ++ frontMatter :: body := by rw [whole]; rfl
  have kept : (headerLines ++ frontMatter :: body).drop (headerLines.length + 1) = body := by simp
  have closed : ¬ headerLines.length = (headerLines ++ frontMatter :: body).length := by simp
  unfold splitDocument
  dsimp only
  rw [first, rest, List.takeWhile_ne_append open_lines, kept, if_neg closed]
  refine ite_congr (by simp) (fun _ => rfl) fun _ => ?_
  cases parseHeaders headerLines [] <;> rfl

theorem splitDocument_unterminated {document : List Char}
    (unterminated : ∀ headerLines body, splitLines [] document = frontMatter :: headerLines ++ frontMatter :: body →
      frontMatter ∈ headerLines) :
    ∃ message, splitDocument document = .error (.refused message) := by
  unfold splitDocument
  dsimp only
  split
  · exact ⟨_, rfl⟩
  · rename_i opening
    push Not at opening
    obtain ⟨rest, whole⟩ := List.head?_eq_some_iff.mp opening.2
    have unclosed : frontMatter ∉ rest := by
      intro closed
      obtain ⟨headerLines, body, rfl, absent⟩ := List.split_first closed
      exact absent (unterminated headerLines body (by rw [whole, List.cons_append]))
    rw [whole, List.tail_cons, if_pos]
    · exact ⟨_, rfl⟩
    · refine congrArg List.length (List.takeWhile_eq_self_iff.mpr ?_)
      intro line member
      rw [decide_eq_true_iff]
      rintro rfl
      exact unclosed member

theorem splitDocument_iff (document : List Char) (headers : Metadata) (content : List Char) :
    splitDocument document = .ok (headers, content) ↔
      ∃ headerLines body, splitLines [] document = frontMatter :: headerLines ++ frontMatter :: body ∧
        frontMatter ∉ headerLines ∧ 8 ≤ (splitLines [] document).length ∧
        List.Forall₂ FieldLine headerLines headers ∧ (headers.map Prod.fst).Nodup ∧
        content = joinedContent body ∧ 20 ≤ content.length := by
  have fields (headerLines : List (List Char)) := parseHeaders_iff headerLines [] headers List.nodup_nil
  constructor
  · intro split
    by_contra none
    obtain ⟨message, refused⟩ := @splitDocument_unterminated document fun headerLines body whole => by
      by_contra open_lines
      refine none ⟨headerLines, body, whole, open_lines, ?_⟩
      rw [splitDocument_lines whole open_lines] at split
      by_cases short : (splitLines [] document).length < 8
      · rw [if_pos short] at split
        cases split
      rw [if_neg short] at split
      cases read : parseHeaders headerLines [] with
      | error error =>
        rw [read] at split
        cases split
      | ok parsed =>
        rw [read, Except.bind] at split
        split_ifs at split with brief
        cases split
        obtain ⟨found, lines, rfl, distinct⟩ := (fields headerLines).mp read
        exact ⟨not_lt.mp short, lines, distinct, rfl, not_lt.mp brief⟩
    rw [refused] at split
    cases split
  · rintro ⟨headerLines, body, whole, open_lines, enough, lines, distinct, rfl, long⟩
    rw [splitDocument_lines whole open_lines, if_neg (not_lt.mpr enough),
      (fields headerLines).mpr ⟨headers, lines, rfl, distinct⟩]
    exact if_neg (not_lt.mpr long)

theorem requiredHeaders_nodup : requiredHeaders.Nodup := by decide

theorem perm_requiredHeaders {keys : List String} :
    keys.Perm requiredHeaders ↔ keys.Nodup ∧ requiredHeaders ⊆ keys ∧ keys ⊆ requiredHeaders := by
  constructor
  · intro perm
    exact ⟨perm.nodup_iff.mpr requiredHeaders_nodup, perm.symm.subset, perm.subset⟩
  · rintro ⟨distinct, all, only⟩
    rw [List.perm_ext_iff_of_nodup distinct requiredHeaders_nodup]
    exact fun key => ⟨fun member => only member, fun member => all member⟩

theorem joinedContent_ne_nil {body : List (List Char)} (long : 20 ≤ (joinedContent body).length) : body ≠ [] := by
  rintro rfl
  exact absurd long (by decide)

theorem Grammar.enough {document : List Char} {headerLines body : List (List Char)}
    (grammar : Grammar document headerLines body) : 8 ≤ (splitLines [] document).length := by
  obtain ⟨fields, lines, keys⟩ := grammar.fields
  have five : headerLines.length = 5 := by
    rw [lines.length_eq, ← List.length_map Prod.fst, keys.length_eq]
    rfl
  have content := List.length_pos_of_ne_nil (joinedContent_ne_nil grammar.long)
  rw [grammar.lines]
  simp only [List.cons_append, List.length_cons, List.length_append, five]
  omega

theorem accepts_iff (document : List Char) (headers : Metadata) (content : List Char) :
    Accepts document headers content ↔
      ∃ headerLines body, Grammar document headerLines body ∧
        List.Forall₂ FieldLine headerLines headers ∧ content = joinedContent body := by
  rw [Accepts, splitDocument_iff]
  constructor
  · rintro ⟨⟨headerLines, body, whole, open_lines, -, lines, distinct, rfl, long⟩, all, only⟩
    have keys := perm_requiredHeaders.mpr ⟨distinct, all, only⟩
    exact ⟨headerLines, body, ⟨whole, open_lines, ⟨headers, lines, keys⟩, long⟩, lines, rfl⟩
  · rintro ⟨headerLines, body, grammar, lines, rfl⟩
    obtain ⟨fields, lines', keys⟩ := grammar.fields
    obtain rfl : fields = headers := List.right_unique_forall₂' fieldLine_rightUnique lines' lines
    obtain ⟨distinct, all, only⟩ := perm_requiredHeaders.mp keys
    exact ⟨⟨headerLines, body, grammar.lines, grammar.open_lines, grammar.enough, lines, distinct, rfl,
      grammar.long⟩, all, only⟩

theorem Grammar.unique {document : List Char} {headerLines headerLines' body body' : List (List Char)}
    (grammar : Grammar document headerLines body) (grammar' : Grammar document headerLines' body') :
    headerLines = headerLines' ∧ body = body' := by
  have same := grammar.lines.symm.trans grammar'.lines
  exact List.split_first_unique grammar.open_lines grammar'.open_lines (List.tail_eq_of_cons_eq same)

theorem lookup_perm {first second : Metadata} (perm : first.Perm second)
    (distinct : (first.map Prod.fst).Nodup) (key : String) : first.lookup key = second.lookup key := by
  induction perm with
  | nil => rfl
  | cons field _ ih =>
    obtain ⟨name, value⟩ := field
    rw [List.lookup_cons, List.lookup_cons, ih (List.nodup_cons.mp distinct).2]
  | swap field other rest =>
    obtain ⟨name, value⟩ := field
    obtain ⟨name', value'⟩ := other
    have differ : name' ≠ name := by
      rintro rfl
      simp at distinct
    simp only [List.lookup_cons]
    cases here : key == name with
    | false => rfl
    | true =>
      have absent : (key == name') = false := by
        rw [beq_eq_false_iff_ne, eq_of_beq here]
        exact differ.symm
      rw [absent]
  | trans perm _ ih ih' =>
    rw [ih distinct, ih' ((perm.map Prod.fst).nodup_iff.mp distinct)]

/-- The parser accepts exactly the grammar, and reads from it the trimmed fields and content in whatever
    order the fields stand. -/
theorem splitDocument_grammar (document : List Char) :
    ((∃ headers content, Accepts document headers content) ↔
      ∃ headerLines body, Grammar document headerLines body) ∧
    ∀ headerLines body headers content, Grammar document headerLines body →
      Accepts document headers content →
      List.Forall₂ FieldLine headerLines headers ∧ content = joinedContent body ∧
        8 ≤ (splitLines [] document).length ∧
        ∀ other headerLines', headerLines'.Perm headerLines →
          splitLines [] other = frontMatter :: headerLines' ++ frontMatter :: body →
          ∃ headers', Accepts other headers' content ∧ ∀ key, headers'.get key = headers.get key := by
  constructor
  · constructor
    · rintro ⟨headers, content, accepted⟩
      obtain ⟨headerLines, body, grammar, -⟩ := (accepts_iff _ _ _).mp accepted
      exact ⟨headerLines, body, grammar⟩
    · rintro ⟨headerLines, body, grammar⟩
      obtain ⟨fields, lines, -⟩ := grammar.fields
      exact ⟨fields, _, (accepts_iff _ _ _).mpr ⟨headerLines, body, grammar, lines, rfl⟩⟩
  · intro headerLines body headers content grammar accepted
    obtain ⟨headerLines', body', grammar', lines, rfl⟩ := (accepts_iff _ _ _).mp accepted
    obtain ⟨rfl, rfl⟩ := grammar.unique grammar'
    refine ⟨lines, rfl, grammar.enough, fun other headerLines' perm whole => ?_⟩
    obtain ⟨headers', lines', rearranged⟩ := List.perm_comp_forall₂ perm lines
    obtain ⟨fields, lines'', keys⟩ := grammar.fields
    obtain rfl : fields = headers := List.right_unique_forall₂' fieldLine_rightUnique lines'' lines
    have keys' := (rearranged.map Prod.fst).trans keys
    have shuffled : Grammar other headerLines' body :=
      ⟨whole, fun closed => grammar.open_lines (perm.subset closed), ⟨headers', lines', keys'⟩, grammar.long⟩
    refine ⟨headers', (accepts_iff _ _ _).mpr ⟨headerLines', body, shuffled, lines', rfl⟩, fun key => ?_⟩
    rw [Metadata.get, Metadata.get, lookup_perm rearranged (perm_requiredHeaders.mp keys').1]

end AgentPlatform.Rag
