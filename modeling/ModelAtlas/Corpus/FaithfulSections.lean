import ModelAtlas.Corpus.Markdown

/-!
# Sectioning is faithful without gaps

Every text of a document lies below its heading and the ancestors of that, unless
a level was skipped; and the chunk id of a section follows its own text.
-/

namespace ModelAtlas.Corpus

open Foundations

section Texts

theorem dropWhile_eq_of_pyStrip {text : String} (stripped : pyStrip text = text) :
    text.toList.dropWhile isPySpace = text.toList ∧
      text.toList.rdropWhile isPySpace = text.toList := by
  have chars : (text.toList.dropWhile isPySpace).rdropWhile isPySpace = text.toList := by
    have same := congrArg String.toList stripped
    rwa [pyStrip, String.toList_ofList] at same
  have front : text.toList.dropWhile isPySpace = text.toList :=
    (List.dropWhile_sublist _).eq_of_length_le (by
      calc text.toList.length
          = ((text.toList.dropWhile isPySpace).rdropWhile isPySpace).length := by rw [chars]
        _ ≤ (text.toList.dropWhile isPySpace).length :=
          (List.rdropWhile_prefix isPySpace _).length_le)
  refine ⟨front, ?_⟩
  rw [front] at chars
  exact chars

theorem exists_pyStrip_append (start : String) : ∃ kept : List Char, ∀ text : String,
    pyStrip text = text → text ≠ "" →
      (pyStrip (start ++ text)).toList = kept ++ text.toList := by
  refine ⟨start.toList.dropWhile isPySpace, fun text stripped present => ?_⟩
  obtain ⟨front, back⟩ := dropWhile_eq_of_pyStrip stripped
  have nonempty : text.toList ≠ [] := fun empty => present (String.toList_eq_nil_iff.mp empty)
  have dropped : (start.toList ++ text.toList).dropWhile isPySpace =
      start.toList.dropWhile isPySpace ++ text.toList := by
    rw [List.dropWhile_append]
    split
    · next allSpaces =>
      rw [List.isEmpty_iff.mp allSpaces, front]
      rfl
    · rfl
  have kept : (start.toList.dropWhile isPySpace ++ text.toList).rdropWhile isPySpace =
      start.toList.dropWhile isPySpace ++ text.toList := by
    rw [List.rdropWhile_eq_self_iff] at back ⊢
    intro _
    rw [List.getLast_append_of_ne_nil _ nonempty]
    exact back nonempty
  rw [pyStrip, String.toList_ofList, String.toList_append, dropped]
  exact kept

theorem chunkText_inj {headingPath : List String} {left right : List String}
    (leftPresent : bodyText left ≠ "") (rightPresent : bodyText right ≠ "")
    (same : chunkText ⟨headingPath, bodyText left⟩ = chunkText ⟨headingPath, bodyText right⟩) :
    bodyText left = bodyText right := by
  obtain ⟨kept, isKept⟩ :=
    exists_pyStrip_append (" > ".intercalate headingPath ++ "\n\n")
  have chars := congrArg String.toList same
  rw [chunkText, chunkText] at chars
  dsimp only at chars
  rw [isKept (bodyText left) (pyStrip_pyStrip _) leftPresent,
    isKept (bodyText right) (pyStrip_pyStrip _) rightPresent] at chars
  exact String.toList_inj.mp (List.append_cancel_left chars)

theorem pyStrip_eq_empty_iff {text : String} :
    pyStrip text = "" ↔ ∀ char ∈ text.toList, isPySpace char = true := by
  have chars : pyStrip text = "" ↔
      (text.toList.dropWhile isPySpace).rdropWhile isPySpace = [] := by
    rw [← String.toList_eq_nil_iff, pyStrip, String.toList_ofList]
    rfl
  rw [chars, List.rdropWhile_eq_nil_iff]
  constructor
  · intro spaces char mem
    rw [← List.takeWhile_append_dropWhile (p := isPySpace) (l := text.toList)] at mem
    rcases List.mem_append.mp mem with mem | mem
    · exact List.mem_takeWhile_imp mem
    · exact spaces char mem
  · intro spaces char mem
    exact spaces char ((List.dropWhile_sublist _).subset mem)

theorem mem_intercalate {separator line : String} {char : Char} :
    ∀ {lines : List String}, line ∈ lines → char ∈ line.toList →
      char ∈ (separator.intercalate lines).toList
  | [last], mem, isChar => by
    rw [List.mem_singleton.mp mem] at isChar
    rw [String.intercalate_singleton]
    exact isChar
  | first :: second :: rest, mem, isChar => by
    rw [String.intercalate_cons_cons, String.toList_append, String.toList_append]
    rcases List.mem_cons.mp mem with rfl | mem
    · exact List.mem_append_left _ (List.mem_append_left _ isChar)
    · exact List.mem_append_right _ (mem_intercalate mem isChar)

theorem bodyText_ne_empty {body : List String} {line : String} (mem : line ∈ body)
    (notBlank : pyStrip line ≠ "") : bodyText body ≠ "" := by
  intro blank
  rw [bodyText, pyStrip_eq_empty_iff] at blank
  exact notBlank (pyStrip_eq_empty_iff.mpr fun char isChar =>
    blank char (mem_intercalate mem isChar))

end Texts

section Bodies

def EndsAtBody (lines : List String) : Prop :=
  lines = [] ∨ ∃ start line heading, lines = start ++ [line] ∧ heading? line = some heading

def BeginsAfterBody (lines : List String) : Prop :=
  ∀ line rest, lines = line :: rest → (heading? line).isSome = true

theorem foldl_read_stack (fallbackTitle : String) (lines : List String) (above : List Heading)
    (begun : List String)
    (sections : List MarkdownSection) : ∃ above' begun' sections',
      lines.foldl (Scan.read fallbackTitle) ⟨(stacked above).map Heading.title, begun, sections⟩ =
        ⟨(stacked above').map Heading.title, begun', sections'⟩ := by
  induction lines generalizing above begun sections with
  | nil => exact ⟨above, begun, sections, rfl⟩
  | cons line rest ih =>
    rw [List.foldl_cons, Scan.read]
    cases found : heading? line with
    | none => exact ih above _ _
    | some heading =>
      have pushed : ((stacked above).map Heading.title).take (heading.level - 1) ++
          [heading.title] = (stacked (heading :: above)).map Heading.title := by
        rw [stacked, List.map_append, List.map_take]
        rfl
      dsimp only [Scan.flush]
      rw [pushed]
      exact ih (heading :: above) _ _

theorem exists_scan_before (fallbackTitle : String) {before : List String}
    (ends : EndsAtBody before) :
    ∃ above sections, before.foldl (Scan.read fallbackTitle) ⟨[], [], []⟩ =
      ⟨(stacked above).map Heading.title, [], sections⟩ := by
  rcases ends with rfl | ⟨start, line, heading, rfl, found⟩
  · exact ⟨[], [], rfl⟩
  · obtain ⟨above, begun, sections, scanned⟩ :=
      foldl_read_stack fallbackTitle start [] [] []
    rw [List.foldl_append, show (⟨[], [], []⟩ : Scan) =
      ⟨(stacked []).map Heading.title, [], []⟩ from rfl, scanned]
    refine ⟨heading :: above, (Scan.flush fallbackTitle
      ⟨(stacked above).map Heading.title, begun, sections⟩).sections, ?_⟩
    rw [List.foldl_cons, List.foldl_nil, Scan.read, found]
    dsimp only [Scan.flush]
    rw [stacked, List.map_append, List.map_take]
    rfl

theorem blocksOf_append {body : List String} (noHeading : ∀ line ∈ body, heading? line = none)
    {after : List String} (begins : BeginsAfterBody after) :
    blocksOf (body ++ after) = (body, (blocksOf after).2) := by
  induction body with
  | nil =>
    cases after with
    | nil => rfl
    | cons line rest =>
      obtain ⟨heading, found⟩ := Option.isSome_iff_exists.mp (begins line rest rfl)
      rw [List.nil_append, blocksOf, found]
  | cons line rest ih =>
    rw [List.cons_append, blocksOf, noHeading line List.mem_cons_self,
      ih (fun other mem => noHeading other (List.mem_cons_of_mem _ mem))]

theorem exists_sections_around (fallbackTitle : String) {before after : List String}
    (ends : EndsAtBody before)
    (begins : BeginsAfterBody after) : ∃ first headingPath last, ∀ body,
      (∀ line ∈ body, heading? line = none) → bodyText body ≠ "" →
        sectionsOfLines fallbackTitle (before ++ body ++ after) =
          first ++ ⟨headingPath, bodyText body⟩ :: last := by
  obtain ⟨above, sections, scanned⟩ := exists_scan_before fallbackTitle ends
  refine ⟨sections, if above.isEmpty then [fallbackTitle] else (stacked above).map Heading.title,
    blockSections stacked above (blocksOf after).2, fun body noHeading present => ?_⟩
  rw [sectionsOfLines, List.append_assoc, List.foldl_append, scanned, foldl_read,
    blocksOf_append noHeading begins, List.nil_append, sectionOf, if_neg present,
    List.append_assoc, List.singleton_append]

end Bodies

def Separates {Value : Type} (hash : Value → String) (left right : Value) : Prop :=
  hash left = hash right → left = right

def idDigits (env : CorpusEnvironment) (payload : Json) : String :=
  pyClip 24 (env.stableHash payload)

/-- Only the chunk of the body that is replaced has another id, where the hashes
tell the two bodies apart. -/
def ReplacesOneId (env : CorpusEnvironment) (path fallbackTitle : String) : Prop :=
  ∀ before after body other, EndsAtBody before → BeginsAfterBody after →
    (∀ line ∈ body, heading? line = none) → (∀ line ∈ other, heading? line = none) →
    bodyText body ≠ "" → bodyText other ≠ "" → bodyText body ≠ bodyText other →
    ∃ first old new last,
      sectionsOfLines fallbackTitle (before ++ body ++ after) = first ++ old :: last ∧
      sectionsOfLines fallbackTitle (before ++ other ++ after) = first ++ new :: last ∧
      (Separates env.sha256 (chunkText old) (chunkText new) → Separates (idDigits env)
          (chunkPayload path old.headingPath (env.sha256 (chunkText old)))
          (chunkPayload path new.headingPath (env.sha256 (chunkText new))) →
        (chunkOf env path old).chunkId ≠ (chunkOf env path new).chunkId)

theorem replacesOneId (env : CorpusEnvironment) (path fallbackTitle : String) :
    ReplacesOneId env path fallbackTitle := by
  intro before after body other ends begins noHeading noOtherHeading present otherPresent different
  obtain ⟨first, headingPath, last, around⟩ :=
    exists_sections_around fallbackTitle ends begins
  refine ⟨first, _, _, last, around body noHeading present,
    around other noOtherHeading otherPresent, fun separates separatesIds sameId => ?_⟩
  have sameDigits : idDigits env (chunkPayload path headingPath
        (env.sha256 (chunkText ⟨headingPath, bodyText body⟩))) =
      idDigits env (chunkPayload path headingPath
        (env.sha256 (chunkText ⟨headingPath, bodyText other⟩))) := by
    have chars := congrArg String.toList sameId
    simp only [chunkOf, chunkIdOf, String.toList_append] at chars
    exact String.toList_inj.mp (List.append_cancel_left chars)
  have samePayload := separatesIds sameDigits
  simp only [chunkPayload, Json.obj.injEq, List.cons.injEq, Prod.mk.injEq, Json.str.injEq,
    true_and, and_true] at samePayload
  exact different (chunkText_inj present otherPresent (separates samePayload))

/-- The sections of the document are those of its texts, headings and
ancestors, and the chunks follow them. -/
structure FaithfulSectioning (env : CorpusEnvironment) (path fallbackTitle : String)
    (lines : List String) : Prop where
  sections : sectionsOfLines fallbackTitle lines = faithfulSections fallbackTitle lines
  texts : lines.filter (fun line => (heading? line).isNone) =
    (blocksOf lines).1 ++ ((blocksOf lines).2.map Prod.snd).flatten
  present : ∀ body : List String, (∃ line ∈ body, pyStrip line ≠ "") → bodyText body ≠ ""
  siblings : ∀ before sibling between heading after,
    (blocksOf lines).2 = before ++ sibling :: (between ++ heading :: after) →
    (∀ other ∈ between, heading.1.level ≤ other.1.level) → sibling.1.level = heading.1.level →
    bodyText sibling.2 ≠ "" → bodyText heading.2 ≠ "" →
    ((stacked (((before ++ sibling :: between ++ [heading]).map Prod.fst).reverse)).map
        Heading.title).dropLast =
      ((stacked (((before ++ [sibling]).map Prod.fst).reverse)).map Heading.title).dropLast
  replaced : ReplacesOneId env path fallbackTitle
  distinct : ∀ files chunks, buildReferenceCorpus env files = .ok chunks →
    (chunks.map RagChunk.chunkId).Nodup

theorem NoGaps.noGap (before : List (Heading × List String)) (block : Heading × List String)
    (after : List (Heading × List String)) {above : List Heading}
    (noGaps : NoGaps above (before ++ block :: after)) (present : bodyText block.2 ≠ "") :
    NoGap block.1.level ((before.map Prod.fst).reverse ++ above) := by
  induction before generalizing above with
  | nil => exact noGaps.1 present
  | cons first rest ih =>
    have below := ih noGaps.2
    rwa [List.map_cons, List.reverse_cons, List.append_assoc]

theorem faithfulSectioning_iff (env : CorpusEnvironment) (path fallbackTitle : String)
    (lines : List String) :
    FaithfulSectioning env path fallbackTitle lines ↔ NoGaps [] (blocksOf lines).2 := by
  have sections : sectionsOfLines fallbackTitle lines = faithfulSections fallbackTitle lines ↔
      NoGaps [] (blocksOf lines).2 := by
    rw [sectionsOfLines_eq, faithfulSections, List.append_cancel_left_eq, blockSections_eq_iff]
  constructor
  · exact fun faithful => sections.mp faithful.sections
  · intro noGaps
    refine ⟨sections.mpr noGaps, lines_blocksOf lines,
      fun body ⟨line, mem, notBlank⟩ => bodyText_ne_empty mem notBlank, ?_,
      replacesOneId env path fallbackTitle, ?_⟩
    · intro before sibling between heading after isBlocks notLower sameLevel siblingText headingText
      rw [isBlocks] at noGaps
      have siblingGap := NoGaps.noGap _ _ _ noGaps siblingText
      rw [List.append_nil] at siblingGap
      have headingGap : NoGap heading.1.level
          ((between.map Prod.fst).reverse ++ sibling.1 :: (before.map Prod.fst).reverse) := by
        have found := NoGaps.noGap (before ++ sibling :: between) heading after
          (by simpa using noGaps) headingText
        simpa using found
      have siblingLine : ((before ++ [sibling]).map Prod.fst).reverse =
          sibling.1 :: (before.map Prod.fst).reverse := by simp
      have headingLine : ((before ++ sibling :: between ++ [heading]).map Prod.fst).reverse =
          heading.1 :: ((between.map Prod.fst).reverse ++
            sibling.1 :: (before.map Prod.fst).reverse) := by simp
      rw [siblingLine, headingLine, (titles_stacked_eq_iff sibling.1 _).mpr siblingGap,
        (titles_stacked_eq_iff heading.1 _).mpr headingGap, lineage, lineage, List.map_append,
        List.map_append, List.map_singleton, List.map_singleton, List.dropLast_concat,
        List.dropLast_concat, sameLevel,
        ancestors_append_sibling heading.1.level sibling.1 _ _ ?_ sameLevel]
      intro other mem
      obtain ⟨block, isBetween, rfl⟩ := List.mem_map.mp (List.mem_reverse.mp mem)
      exact notLower block isBetween
    · intro files chunks built
      rw [buildReferenceCorpus] at built
      split at built
      · cases built
      · split at built
        · cases built
        · next distinct =>
          cases built
          exact not_not.mp distinct

/-- The second heading of the third level is put below the first. -/
theorem skippedLevel_unfaithful :
    ¬ FaithfulSectioning ⟨id, fun _ => ""⟩ "guide.md" "guide"
      ["# A", "### B", "first", "### C", "second"] := by
  intro faithful
  have same := faithful.sections
  revert same
  decide +kernel

end ModelAtlas.Corpus
