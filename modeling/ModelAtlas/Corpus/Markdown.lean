import ModelAtlas.Corpus.Headings
import ModelAtlas.Foundations.Json
import ModelAtlas.Foundations.Lines
import ModelAtlas.Foundations.Outcomes

/-!
# Sections and chunks of Markdown documents

`corpus.py` of `reference_workload`: the sections of a document, the chunk of a
section, and the chunks of a corpus with the check of their ids.  The manifest
and the hash of the corpus are left out.
-/

namespace ModelAtlas.Corpus

open Foundations

structure MarkdownSection where
  headingPath : List String
  text : String
  deriving DecidableEq

/-- `heading_pattern`: one to six marks, white space and something after it. -/
def heading? (line : String) : Option Heading :=
  let marks := line.toList.takeWhile (fun char => char = '#')
  match line.toList.drop marks.length with
  | space :: first :: rest =>
    if positive : 0 < marks.length then
      if marks.length ≤ 6 ∧ isPySpace space then
        some ⟨marks.length, pyStrip (String.ofList (first :: rest)), positive⟩
      else none
    else none
  | _ => none

/-- `"\n".join(body).strip()`. -/
def bodyText (body : List String) : String := pyStrip ("\n".intercalate body)

def sectionOf (headingPath body : List String) : List MarkdownSection :=
  if bodyText body = "" then [] else [⟨headingPath, bodyText body⟩]

structure Scan where
  (headingStack body : List String)
  sections : List MarkdownSection

def Scan.flush (fallbackTitle : String) (scan : Scan) : Scan :=
  { scan with
    body := []
    sections := scan.sections ++ sectionOf
      (if scan.headingStack.isEmpty then [fallbackTitle] else scan.headingStack) scan.body }

def Scan.read (fallbackTitle : String) (scan : Scan) (line : String) : Scan :=
  match heading? line with
  | none => { scan with body := scan.body ++ [line] }
  | some heading =>
    let flushed := scan.flush fallbackTitle
    { flushed with
      headingStack := flushed.headingStack.take (heading.level - 1) ++ [heading.title] }

/-- The loop of `_markdown_sections` over the lines of a document. -/
def sectionsOfLines (fallbackTitle : String) (lines : List String) : List MarkdownSection :=
  ((lines.foldl (Scan.read fallbackTitle) ⟨[], [], []⟩).flush fallbackTitle).sections

def markdownSections (source fallbackTitle : String) : List MarkdownSection :=
  sectionsOfLines fallbackTitle (pySplitlines source)

structure CorpusEnvironment where
  sha256 : String → String
  stableHash : Json → String

structure RagChunk where
  (chunkId documentId title text : String)
  headingPath : List String
  chunkSha256 : String

/-- What `_chunk_id` hashes. -/
def chunkPayload (path : String) (headingPath : List String) (chunkHash : String) : Json :=
  .obj [("path", .str path), ("heading_path", .arr (headingPath.map .str)),
    ("content_sha256", .str chunkHash)]

def chunkText (markdown : MarkdownSection) : String :=
  pyStrip (" > ".intercalate markdown.headingPath ++ "\n\n" ++ markdown.text)

section Chunks

variable (env : CorpusEnvironment)

def chunkIdOf (path : String) (headingPath : List String) (chunkHash : String) : String :=
  "ko-" ++ pyClip 24 (env.stableHash (chunkPayload path headingPath chunkHash))

/-- `_build_file_chunks`, of one section. -/
def chunkOf (path : String) (markdown : MarkdownSection) : RagChunk where
  chunkId := chunkIdOf env path markdown.headingPath (env.sha256 (chunkText markdown))
  documentId := path
  title := markdown.headingPath.getLastD ""
  text := chunkText markdown
  headingPath := markdown.headingPath
  chunkSha256 := env.sha256 (chunkText markdown)

structure CorpusFile where
  (path stem source : String)

/-- `build_reference_corpus`, up to the chunks. -/
def buildReferenceCorpus (files : List CorpusFile) : Except String (List RagChunk) :=
  let chunks := files.flatMap (fun file =>
    (markdownSections file.source file.stem).map (chunkOf env file.path))
  if chunks.isEmpty then .error "reference corpus did not produce any Markdown chunks"
  else if ¬ (chunks.map RagChunk.chunkId).Nodup then
    .error ("reference corpus produced duplicate stable chunk IDs; " ++
      "disambiguate source headings")
  else .ok chunks

end Chunks

def blocksOf : List String → List String × List (Heading × List String)
  | [] => ([], [])
  | line :: rest =>
    match heading? line with
    | none => (line :: (blocksOf rest).1, (blocksOf rest).2)
    | some heading => ([], (heading, (blocksOf rest).1) :: (blocksOf rest).2)

def blockSections (path : List Heading → List Heading) :
    List Heading → List (Heading × List String) → List MarkdownSection
  | _, [] => []
  | above, (heading, body) :: rest =>
    sectionOf ((path (heading :: above)).map Heading.title) body ++
      blockSections path (heading :: above) rest

/-- Each text of the document below its nearest heading and its ancestors. -/
def faithfulSections (fallbackTitle : String) (lines : List String) : List MarkdownSection :=
  sectionOf [fallbackTitle] (blocksOf lines).1 ++ blockSections lineage [] (blocksOf lines).2

section Blocks

variable {fallbackTitle : String}

theorem stacked_title_ne_nil (heading : Heading) (above : List Heading) :
    ((stacked (heading :: above)).map Heading.title).isEmpty = false := by
  simp [stacked]

theorem foldl_read (above : List Heading) (begun : List String)
    (sections : List MarkdownSection) (lines : List String) :
    ((lines.foldl (Scan.read fallbackTitle)
        ⟨(stacked above).map Heading.title, begun, sections⟩).flush fallbackTitle).sections =
      sections ++ sectionOf (if above.isEmpty then [fallbackTitle]
        else (stacked above).map Heading.title) (begun ++ (blocksOf lines).1) ++
        blockSections stacked above (blocksOf lines).2 := by
  have isTop : ((stacked above).map Heading.title).isEmpty = above.isEmpty := by
    cases above with
    | nil => rfl
    | cons heading earlier => exact stacked_title_ne_nil heading earlier
  induction lines generalizing above begun sections with
  | nil => simp [Scan.flush, blocksOf, blockSections, isTop]
  | cons line rest ih =>
    rw [List.foldl_cons, Scan.read, blocksOf]
    cases found : heading? line with
    | none =>
      dsimp only
      rw [ih above _ _ isTop, List.append_assoc begun, List.singleton_append]
    | some heading =>
      have flushed : Scan.flush fallbackTitle ⟨(stacked above).map Heading.title, begun, sections⟩ =
          ⟨(stacked above).map Heading.title, [], sections ++ sectionOf
            (if ((stacked above).map Heading.title).isEmpty then [fallbackTitle]
              else (stacked above).map Heading.title) begun⟩ := rfl
      have pushed : ((stacked above).map Heading.title).take (heading.level - 1) ++
          [heading.title] = (stacked (heading :: above)).map Heading.title := by
        rw [stacked, List.map_append, List.map_take]
        rfl
      dsimp only
      rw [flushed]
      dsimp only
      rw [pushed, ih (heading :: above) _ _
        (stacked_title_ne_nil heading above), isTop, List.append_nil, List.nil_append,
        blockSections, List.isEmpty_cons, if_neg Bool.false_ne_true, ← List.append_assoc]

theorem sectionsOfLines_eq (lines : List String) : sectionsOfLines fallbackTitle lines =
    sectionOf [fallbackTitle] (blocksOf lines).1 ++ blockSections stacked [] (blocksOf lines).2 :=
  foldl_read [] [] [] lines

def NoGaps (above : List Heading) : List (Heading × List String) → Prop
  | [] => True
  | (heading, body) :: rest =>
    (bodyText body ≠ "" → NoGap heading.level above) ∧ NoGaps (heading :: above) rest

theorem length_sectionOf (left right body : List String) :
    (sectionOf left body).length = (sectionOf right body).length := by
  rw [sectionOf, sectionOf]
  split <;> rfl

theorem blockSections_eq_iff (above : List Heading) (blocks : List (Heading × List String)) :
    blockSections stacked above blocks = blockSections lineage above blocks ↔
      NoGaps above blocks := by
  induction blocks generalizing above with
  | nil => exact iff_of_true rfl trivial
  | cons block rest ih =>
    obtain ⟨heading, body⟩ := block
    rw [blockSections, blockSections, NoGaps, ← ih, ← titles_stacked_eq_iff]
    have sameLength := length_sectionOf ((stacked (heading :: above)).map Heading.title)
      ((lineage (heading :: above)).map Heading.title) body
    constructor
    · intro same
      obtain ⟨first, others⟩ := List.append_inj same sameLength
      refine ⟨fun present => ?_, others⟩
      rw [sectionOf, sectionOf, if_neg present, if_neg present, List.cons.injEq,
        MarkdownSection.mk.injEq] at first
      exact first.1.1
    · rintro ⟨first, others⟩
      rw [others, List.append_cancel_right_eq]
      rw [sectionOf, sectionOf]
      split
      · rfl
      · next present => rw [first present]

theorem lines_blocksOf (lines : List String) :
    lines.filter (fun line => (heading? line).isNone) =
      (blocksOf lines).1 ++ ((blocksOf lines).2.map Prod.snd).flatten := by
  induction lines with
  | nil => rfl
  | cons line rest ih =>
    rw [blocksOf]
    cases found : heading? line with
    | none =>
      rw [List.filter_cons_of_pos (by rw [found]; rfl), ih]
      rfl
    | some heading =>
      rw [List.filter_cons_of_neg (by rw [found]; exact Bool.false_ne_true), ih]
      rfl

end Blocks

end ModelAtlas.Corpus
