import AgentPlatform.Rag.ChunkCoverage
import AgentPlatform.Rag.Ingestion
import Mathlib.Data.String.Basic

/-! # The screen of a document and its chunks

The content is screened as a whole; a chunk may be cut out of it in the middle of a word. -/

namespace AgentPlatform.Rag

open Python

def textBefore (content : List Char) (start stop : Int) : List Char :=
  content.take (clampIndex content.length start) ++ (slice content start stop).takeWhile isSpace

def textAfter (content : List Char) (start stop : Int) : List Char :=
  ((slice content start stop).dropWhile isSpace).rtakeWhile isSpace ++
    content.drop (clampIndex content.length stop)

/-- A window cuts a word of the content where a pattern then starts or ends. -/
def CutsPattern (unicode : Unicode) (content : List Char) (window : Int × Int) : Prop :=
  ∃ pattern ∈ injectionPatterns, pattern.Exposed unicode.isWord (textBefore content window.1 window.2)
    (windowText content window.1 window.2) (textAfter content window.1 window.2)

def KnowledgeChunk.Clean (unicode : Unicode) (chunk : KnowledgeChunk) : Prop :=
  ∀ pattern ∈ injectionPatterns, pattern.search unicode.isWord chunk.text.toList = false

section

variable {unicode : Unicode}

theorem injectionPatterns_sharp (unicode : Unicode) :
    ∀ pattern ∈ injectionPatterns, pattern.Sharp unicode.isWord := by
  simp only [injectionPatterns, List.forall_mem_cons]
  refine ⟨?_, ?_, ?_, ?_, ?_, by simp⟩
  · exact ⟨by simp [ignorePattern], by simp [ignorePattern]⟩
  · exact ⟨by simp [revealPattern], by simp [revealPattern]⟩
  · refine ⟨fun _ => ?_, by simp [speakerPattern]⟩
    apply Regex.StartsWith.seq
    exact anyOf_startsWith unicode (by decide) (by decide) (by decide)
  · refine ⟨by simp [markupPattern], fun _ => ?_⟩
    apply Regex.EndsWith.seq
    apply Regex.EndsWith.seq
    exact anyOf_endsWith unicode (by decide) (by decide) (by decide)
  · refine ⟨fun _ => ?_, fun _ => ?_⟩
    · apply Regex.StartsWith.seq
      exact anyOf_startsWith unicode (by decide) (by decide) (by decide)
    · apply Regex.EndsWith.seq
      apply Regex.EndsWith.seq
      apply Regex.EndsWith.seq
      exact literal_endsWith unicode (by decide)

theorem content_split {content : List Char} {start stop : Int} (shown : windowText content start stop ≠ []) :
    content = textBefore content start stop ++ windowText content start stop ++ textAfter content start stop := by
  have ordered : clampIndex content.length start ≤ clampIndex content.length stop := by
    by_contra crossed
    have nothing : slice content start stop = [] := slice_eq_nil (by omega)
    exact shown (by rw [windowText, nothing]; rfl)
  have window : slice content start stop = (slice content start stop).takeWhile isSpace ++
      (windowText content start stop ++ ((slice content start stop).dropWhile isSpace).rtakeWhile isSpace) := by
    rw [windowText, stripBy, List.rdropWhile_append_rtakeWhile, List.takeWhile_append_dropWhile]
  have before : (content.take (clampIndex content.length stop)).take (clampIndex content.length start) =
      content.take (clampIndex content.length start) := by
    rw [List.take_take, Nat.min_eq_left ordered]
  have whole : content = content.take (clampIndex content.length start) ++ (slice content start stop ++
      content.drop (clampIndex content.length stop)) := by
    rw [slice, ← List.append_assoc, ← before, List.take_append_drop, List.take_append_drop]
  conv_lhs => rw [whole, window]
  simp only [textBefore, textAfter, List.append_assoc]

theorem stripBy_white (text : List Char) : stripBy isWhiteSpace (stripBy isSpace text) = stripBy isSpace text := by
  have edges := stripBy_eq_self_iff isSpace (stripBy isSpace text)
  obtain ⟨head, last⟩ := edges.mp (stripBy_stripBy isSpace text)
  have visible (c : Char) (shown : isSpace c = false) : isWhiteSpace c = false :=
    (Bool.or_eq_false_iff.mp shown).1
  rw [stripBy_eq_self_iff]
  exact ⟨fun c member => visible c (head c member), fun c member => visible c (last c member)⟩

theorem splitDocument_stripped {document content : List Char} {headers : Metadata}
    (split : splitDocument document = .ok (headers, content)) : ∃ text, content = stripBy isSpace text := by
  unfold splitDocument at split
  dsimp only at split
  split at split
  · cases split
  · split at split
    · cases split
    · split at split
      · cases split
      · split at split
        · cases split
        · cases split
          exact ⟨_, rfl⟩

theorem make_content {documentId title version classification provenance : String} {roles : List String}
    {content : String} {document : KnowledgeDocument}
    (made : KnowledgeDocument.make unicode documentId title version classification roles content provenance =
      some document) : document.content = trim content := by
  simp only [KnowledgeDocument.make, Option.bind_eq_bind, Option.bind_eq_some_iff] at made
  obtain ⟨kind, -, made⟩ := made
  split at made
  · cases made
    rfl
  · cases made

theorem acceptParts_screened {provenance sourceName : String} {headers : Metadata} {content : List Char}
    {document : KnowledgeDocument}
    (accepted : acceptParts unicode provenance sourceName headers content = .ok document) :
    document.content = trim (String.ofList content) ∧
      ∀ pattern ∈ injectionPatterns, pattern.search unicode.isWord content = false := by
  unfold acceptParts at accepted
  dsimp only at accepted
  split at accepted
  · cases accepted
  · split at accepted
    · cases accepted
    · rename_i screened
      split at accepted
      · cases accepted
      · split at accepted
        · cases accepted
        · split at accepted
          · cases accepted
          · rename_i made
            cases accepted
            exact ⟨make_content made, by simpa using screened⟩

theorem parsePolicyDocument_screened {sha256 : ByteArray → String} {raw : ByteArray} {sourceName : String}
    {document : KnowledgeDocument} (accepted : parsePolicyDocument unicode sha256 raw sourceName = .ok document) :
    ∀ pattern ∈ injectionPatterns, pattern.search unicode.isWord document.content.toList = false := by
  unfold parsePolicyDocument at accepted
  dsimp only at accepted
  split at accepted
  · cases accepted
  · split at accepted
    · cases accepted
    · split at accepted
      · cases accepted
      · split at accepted
        · cases accepted
        · rename_i parts
          obtain ⟨same, screened⟩ := acceptParts_screened accepted
          obtain ⟨text, rfl⟩ := splitDocument_stripped parts
          rw [same, trim, String.toList_ofList, String.toList_ofList, stripBy_white]
          exact screened

theorem chunks_clean_iff {document : KnowledgeDocument} {embed : String → List Double} {chunkSize overlap : Int}
    {fuel : Nat} {chunks : List KnowledgeChunk}
    (returned : chunkLoop document embed chunkSize overlap fuel [] 0 1 = some chunks) :
    (∀ chunk ∈ chunks, chunk.Clean unicode) ↔
      ∀ window ∈ emittedWindows document.content.toList chunkSize overlap fuel 0,
        ∀ pattern ∈ injectionPatterns, pattern.search unicode.isWord
          (windowText document.content.toList window.1 window.2) = false := by
  rw [chunkLoop_emits returned, List.nil_append, List.forall_mem_map]
  constructor
  · intro clean window member
    obtain ⟨position, bound, rfl⟩ := List.getElem_of_mem member
    have numbered := List.mk_mem_zipIdx_iff_le_and_getElem?_sub.mpr
      ⟨Nat.le_add_left 1 position, by rw [Nat.add_sub_cancel]; exact List.getElem?_eq_getElem bound⟩
    have here := clean _ numbered
    simpa only [KnowledgeChunk.Clean, makeChunk, String.toList_ofList] using here
  · intro clean numbered member
    have listed := List.fst_mem_of_mem_zipIdx member
    simpa only [KnowledgeChunk.Clean, makeChunk, String.toList_ofList] using clean numbered.1 listed

end

/-- The chunks of an accepted document keep to the screen of its content exactly when no window cuts a word
    where a pattern then starts or ends. -/
theorem chunkDocument_clean_iff (unicode : Unicode) (sha256 : ByteArray → String) (raw : ByteArray)
    (sourceName : String) (document : KnowledgeDocument)
    (accepted : parsePolicyDocument unicode sha256 raw sourceName = .ok document) (embed : String → List Double)
    (config : ChunkConfig) (fuel : Nat) (chunks : List KnowledgeChunk)
    (returned : chunkDocument fuel document embed config.chunkSize config.overlap = some (.ok chunks)) :
    (∀ chunk ∈ chunks, chunk.Clean unicode) ↔
      ∀ window ∈ emittedWindows document.content.toList config.chunkSize config.overlap fuel 0,
        ¬ CutsPattern unicode document.content.toList window := by
  have screened := parsePolicyDocument_screened accepted
  rw [chunks_clean_iff (chunkLoop_of_returned config returned)]
  refine forall₂_congr fun window member => ?_
  have shown : windowText document.content.toList window.1 window.2 ≠ [] :=
    of_decide_eq_true (List.mem_filter.mp member).2
  have exposed (pattern : SearchPattern) (listed : pattern ∈ injectionPatterns) :
      pattern.search unicode.isWord (windowText document.content.toList window.1 window.2) = true ↔
        pattern.Exposed unicode.isWord (textBefore document.content.toList window.1 window.2)
          (windowText document.content.toList window.1 window.2)
          (textAfter document.content.toList window.1 window.2) := by
    apply SearchPattern.search_piece_iff (injectionPatterns_sharp unicode pattern listed)
    rw [← content_split shown]
    exact screened pattern listed
  constructor
  · rintro clean ⟨pattern, listed, cut⟩
    have found := (exposed pattern listed).mpr cut
    rw [clean pattern listed] at found
    cases found
  · intro whole pattern listed
    rw [← Bool.not_eq_true, exposed pattern listed]
    exact fun cut => whole ⟨pattern, listed, cut⟩

def zeroDigest (_ : ByteArray) : String := String.ofList (List.replicate 64 '0')

def refundText (content : List Char) : List Char :=
  ["---", "id: POL-REF-002", "title: Refunds", "version: 1.0", "classification: internal-synthetic",
    "allowed_roles: transactions", "---"].flatMap (fun line => line.toList ++ ['\n']) ++ content

theorem toOption_eq_some {ε α : Type} {result : Except ε α} {value : α} (found : result.toOption = some value) :
    result = .ok value := by
  cases result with
  | error error => cases found
  | ok other => exact congrArg Except.ok (Option.some.inj found)

theorem fromUTF8_toUTF8 (text : String) : String.fromUTF8? text.toUTF8 = some text := by
  have valid : text.toUTF8.IsValidUTF8 := text.isValidUTF8
  unfold String.fromUTF8?
  rw [dif_pos valid]
  rfl

theorem parsePolicyDocument_of_parts {sha256 : ByteArray → String} {text content : List Char} {sourceName : String}
    {headers : Metadata} (small : String.utf8Len text ≤ maxDocumentBytes)
    (calm : (text.any fun c => isControl c && c ∉ ['\n', '\t', '\r']) = false)
    (parts : splitDocument text = .ok (headers, content)) :
    parsePolicyDocument asciiUnicode sha256 (String.ofList text).toUTF8 sourceName =
      acceptParts asciiUnicode (sha256 (String.ofList text).toUTF8) sourceName headers content := by
  have normal : asciiUnicode.nfkc (String.ofList text) = String.ofList text := rfl
  have size : (String.ofList text).toUTF8.size = String.utf8Len text := String.utf8ByteSize_ofList text
  unfold parsePolicyDocument
  rw [if_neg (by rw [size]; exact Nat.not_lt.mpr small), fromUTF8_toUTF8]
  dsimp only
  rw [normal, String.toList_ofList, calm, parts]
  rfl

def refundHeaders : Metadata :=
  [("id", "POL-REF-002"), ("title", "Refunds"), ("version", "1.0"), ("classification", "internal-synthetic"),
    ("allowed_roles", "transactions")]

theorem acceptParts_refund {content : List Char}
    (clean : (injectionPatterns.any fun pattern => pattern.search asciiUnicode.isWord content) = false)
    (stripped : stripBy isWhiteSpace content = content) (long : 20 ≤ content.length)
    (short : content.length ≤ 50000) :
    ∃ document, acceptParts asciiUnicode (String.ofList (List.replicate 64 '0')) "refunds.md" refundHeaders content =
      .ok document ∧ document.content = String.ofList content := by
  have trimmed : trim (String.ofList content) = String.ofList content := by
    rw [trim, String.toList_ofList, stripped]
  have schema : requiredHeaders ⊆ refundHeaders.map Prod.fst ∧ refundHeaders.map Prod.fst ⊆ requiredHeaders := by
    decide
  have fields : (fullMatch (documentIdPattern asciiUnicode) (trim (refundHeaders.get "id")) &&
      fullMatch (versionPattern asciiUnicode) (trim (refundHeaders.get "version")) &&
      decide (1 ≤ (trim (refundHeaders.get "title")).length ∧ (trim (refundHeaders.get "title")).length ≤ 200)) =
        true := by decide
  have provenance : isProvenance (trim (String.ofList (List.replicate 64 '0'))) = true := by decide
  have size : decide (20 ≤ (String.ofList content).length ∧ (String.ofList content).length ≤ 50000) = true := by
    rw [String.length_ofList]
    exact decide_eq_true ⟨long, short⟩
  unfold acceptParts
  dsimp only
  rw [if_neg (not_not.mpr schema), clean, if_neg Bool.false_ne_true,
    if_neg (show ¬ declaredRoles refundHeaders = [] by decide),
    if_neg (show ¬ ¬ ".md".toList <:+ "refunds.md".toList by decide), KnowledgeDocument.make, trimmed,
    fields, size, provenance]
  exact ⟨_, rfl, rfl⟩

theorem parsePolicyDocument_refund (content : List Char)
    (small : String.utf8Len (refundText content) ≤ maxDocumentBytes)
    (calm : ((refundText content).any fun c => isControl c && c ∉ ['\n', '\t', '\r']) = false)
    (parts : splitDocument (refundText content) = .ok (refundHeaders, content))
    (clean : (injectionPatterns.any fun pattern => pattern.search asciiUnicode.isWord content) = false)
    (stripped : stripBy isWhiteSpace content = content) (long : 20 ≤ content.length)
    (short : content.length ≤ 50000) :
    ∃ document, parsePolicyDocument asciiUnicode zeroDigest (String.ofList (refundText content)).toUTF8
      "refunds.md" = .ok document ∧ document.content.toList = content := by
  obtain ⟨document, accepted, same⟩ := acceptParts_refund clean stripped long short
  refine ⟨document, ?_, by rw [same, String.toList_ofList]⟩
  rw [parsePolicyDocument_of_parts small calm parts]
  exact accepted

def refundContent : List Char := "Refunds above GBP 100 require approval.".toList

set_option maxRecDepth 20000 in
theorem refundDocument_accepted :
    ∃ document, parsePolicyDocument asciiUnicode zeroDigest (String.ofList (refundText refundContent)).toUTF8
      "refunds.md" = .ok document ∧ document.documentId = "POL-REF-002" ∧ document.classification = .internalSynthetic := by
  have made : ((acceptParts asciiUnicode (String.ofList (List.replicate 64 '0')) "refunds.md" refundHeaders
      refundContent).toOption.map fun document => (document.documentId, document.classification)) =
        some ("POL-REF-002", .internalSynthetic) := by
    decide
  obtain ⟨document, returned, fields⟩ := Option.map_eq_some_iff.mp made
  obtain ⟨named, kind⟩ := Prod.mk.inj fields
  have parts : splitDocument (refundText refundContent) = .ok (refundHeaders, refundContent) := by decide
  refine ⟨document, ?_, named, kind⟩
  rw [parsePolicyDocument_of_parts (by decide) (by decide) parts]
  exact toOption_eq_some returned

/-- A document of two windows, with both chunks clean. -/
theorem reviewsDocument_clean :
    ∃ document chunks, parsePolicyDocument asciiUnicode zeroDigest
        (String.ofList (refundText reviewsContent)).toUTF8 "refunds.md" = .ok document ∧
      chunkDocument 2 document (fun _ => []) 100 20 = some (.ok chunks) ∧ chunks.length = 2 ∧
      ∀ chunk ∈ chunks, chunk.Clean asciiUnicode := by
  obtain ⟨document, accepted, same⟩ := parsePolicyDocument_refund reviewsContent
    (by decide +kernel) (by decide +kernel) (by decide +kernel) (by decide +kernel) (by decide +kernel)
    (by decide +kernel) (by decide +kernel)
  have first : windowEnd document.content.toList 100 0 = 99 := by
    rw [same]
    decide +kernel
  obtain ⟨chunks, returned⟩ := chunkDocument_pair document (fun _ => [])
    ⟨100, 20, by decide, by decide, by decide⟩ (by rw [same]; decide +kernel) first
    (by rw [same]; decide +kernel) (by rw [same]; decide +kernel) (by rw [same]; decide +kernel)
  have loop := chunkLoop_of_returned ⟨100, 20, by decide, by decide, by decide⟩ returned
  have lossless := lossless_of_not_skips (by decide) (by decide) (by decide) (by rw [same]; exact reviewsContent_keeps)
    loop
  have two : chunks.length = 2 := by
    have aligned := congrArg List.length lossless.aligned
    rw [same, reviewsContent_windows, List.length_map, List.length_map] at aligned
    exact aligned
  have clean := (chunkDocument_clean_iff asciiUnicode zeroDigest _ _ document accepted (fun _ => [])
    ⟨100, 20, by decide, by decide, by decide⟩ 2 chunks returned).mpr
  rw [same, reviewsContent_windows] at clean
  refine ⟨document, chunks, accepted, returned, two, clean fun window member => ?_⟩
  have edges : [((0 : Int), (99 : Int)), (79, 119)].all (fun window =>
      (textBefore reviewsContent window.1 window.2).getLast?.any asciiUnicode.isWord = false ∧
      (textAfter reviewsContent window.1 window.2).head?.any asciiUnicode.isWord = false) = true := by decide +kernel
  obtain ⟨start, stop⟩ := of_decide_eq_true (List.all_eq_true.mp edges window member)
  rintro ⟨pattern, -, ⟨-, within, -⟩ | ⟨-, within, -⟩⟩
  · exact Bool.false_ne_true (start.symm.trans within)
  · exact Bool.false_ne_true (stop.symm.trans within)

/-- The overlap of the second window starts inside a word. -/
def subsystemContent : List Char := List.replicate 74 'x' ++ " subsystem: entries kept here".toList

/-- The second chunk starts with `system:`. -/
theorem subsystemDocument_exposed :
    ∃ document chunks, parsePolicyDocument asciiUnicode zeroDigest
        (String.ofList (refundText subsystemContent)).toUTF8 "refunds.md" = .ok document ∧
      chunkDocument 2 document (fun _ => []) 100 20 = some (.ok chunks) ∧
      ¬ ∀ chunk ∈ chunks, chunk.Clean asciiUnicode := by
  obtain ⟨document, accepted, same⟩ := parsePolicyDocument_refund subsystemContent
    (by decide +kernel) (by decide +kernel) (by decide +kernel) (by decide +kernel) (by decide +kernel)
    (by decide +kernel) (by decide +kernel)
  have first : windowEnd document.content.toList 100 0 = 98 := by
    rw [same]
    decide +kernel
  obtain ⟨chunks, returned⟩ := chunkDocument_pair document (fun _ => [])
    ⟨100, 20, by decide, by decide, by decide⟩ (by rw [same]; decide +kernel) first
    (by rw [same]; decide +kernel) (by rw [same]; decide +kernel) (by rw [same]; decide +kernel)
  refine ⟨document, chunks, accepted, returned, ?_⟩
  rw [chunks_clean_iff (chunkLoop_of_returned ⟨100, 20, by decide, by decide, by decide⟩ returned), same]
  intro clean
  have found : (emittedWindows subsystemContent 100 20 2 0).any (fun window =>
      speakerPattern.search asciiUnicode.isWord (windowText subsystemContent window.1 window.2)) = true := by
    decide +kernel
  obtain ⟨window, member, exposed⟩ := List.any_eq_true.mp found
  rw [clean window member speakerPattern (by simp [injectionPatterns])] at exposed
  cases exposed

end AgentPlatform.Rag
