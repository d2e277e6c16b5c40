import ModelAtlas.Approval.Policy
import ModelAtlas.Foundations.Patterns

/-!
# Tokens of answers and chunks

`services/rag_pipeline/text.py`: the tokens of a text, with the ends that a
Korean word drops, and the phrases that make a text a negation or a refusal.
-/

namespace ModelAtlas.Rag

open Foundations Approval

/-- Case folding, and the characters that `re` counts as a word's. -/
structure RagTextEnvironment extends TextEnvironment where
  isWord : Char → Bool

def isLatin (char : Char) : Bool :=
  ('a' ≤ char && char ≤ 'z') || ('0' ≤ char && char ≤ '9')

def isHangul (char : Char) : Bool :=
  0xAC00 ≤ char.toNat && char.toNat ≤ 0xD7A3

/-- `re.findall` of the longest runs of one of two kinds of characters. -/
def findRuns (left right : Char → Bool) (text : String) : List String :=
  ((text.toList.splitBy (fun first second =>
    (left first && left second) || (right first && right second))).filter (fun run =>
      run.head?.any (fun char => left char || right char))).map String.ofList

def stopwords : List String :=
  ["a", "an", "and", "are", "at", "before", "for", "from", "in", "is", "of", "on", "the", "to",
    "what", "which", "who"]

def suffixes : List String :=
  ["입니다", "합니다", "됩니다", "습니다", "으로", "에서", "에게", "까지", "부터", "처럼", "보다",
    "이라는", "라고", "에는", "이나", "거나", "한", "된", "은", "는", "이", "가", "을", "를", "의",
    "에", "도", "만"]

def aliases : List (String × String) :=
  [("없음", "없"), ("없다", "없"), ("없는", "없"), ("없습니다", "없"), ("않음", "않"),
    ("않다", "않"), ("않습니다", "않"), ("부족함", "부족"), ("부족합니다", "부족")]

def particles : List String :=
  ["은", "는", "이", "가", "을", "를", "의", "에", "도", "만"]

def dropSuffix (word : String) : String :=
  let fits suffix := suffix.toList.reverse.isPrefixOf word.toList.reverse &&
    (if 1 < suffix.toList.length then 1 else 2) + suffix.toList.length ≤ word.toList.length
  match suffixes.find? fits with
  | some suffix => pyClip (word.toList.length - suffix.toList.length) word
  | none => word

section Tokens

variable (env : RagTextEnvironment)

def tokens (value : String) : List String :=
  (findRuns (fun char => isLatin char || char = '_') isHangul (env.lower value)).filter
    (fun token => 1 < token.toList.length && !stopwords.contains token)

def semanticTokens (value : String) : List String :=
  ((findRuns isLatin isHangul (env.lower value)).map (fun token =>
    let normalized := (aliases.lookup token).getD token
    if token.toList.all isHangul then dropSuffix normalized else normalized)).filter
      (fun token => token ≠ "" && !particles.contains token)

def spaces : Pattern := .many none isPySpace

/-- `[^.!?\n]{0,limit}`. -/
def inSentence (limit : Nat) : Pattern :=
  .many (some limit) (fun char => ! (['.', '!', '?', '\n'].contains char))

def wholeWords (phrases : List Pattern) : Pattern :=
  .sequence ([.boundary] ++ phrases ++ [.boundary])

def negationPatterns : List Pattern :=
  ["아니", "않", "없", "부족", "금지", "불가", "별도", "분리", "비구속"].map .text ++
    [wholeWords [.texts
      ["not", "no", "never", "cannot", "can't", "without", "insufficient"]]]

def containsNegation (value : String) : Bool :=
  let lowered := String.ofList
    ((env.lower value).toList.map (fun char => if char = '_' then ' ' else char))
  negationPatterns.any (fun pattern => pattern.search env.isWord lowered)

def cannot (verb : String) : List Pattern :=
  [.text verb, spaces, .text "수", spaces, .text "없"]

def refusalPatterns : List Pattern :=
  [.sequence [.texts ["확인", "단정", "제공", "답변", "식별"], .optional ["하", "할", "해"],
      spaces, .text "수", spaces, .text "없"],
    .sequence ([.text "알려", spaces] ++ cannot "드릴"),
    .sequence [.texts ["근거", "정보", "데이터", "기록", "연결"], .optional ["가", "이", "은", "는"],
      inSentence 24, .texts ["없", "부족", "않"]],
    .sequence [.text "요청", .optional ["을"], inSentence 20,
      .either (.text "거절") (.either (.sequence (cannot "수행할")) (.sequence (cannot "처리할")))],
    wholeWords [.texts ["cannot", "can't", "unable to"],
      .one isPySpace, spaces,
      .texts ["verify", "confirm", "determine", "provide", "identify", "name", "answer"]],
    wholeWords [.texts ["insufficient evidence", "no evidence", "not available", "not connected",
      "do not have"]]]

def detectRefusal (candidateTexts : List String) : Bool :=
  let text := env.lower (" ".intercalate candidateTexts)
  refusalPatterns.any (fun pattern => pattern.search env.isWord text)

end Tokens

end ModelAtlas.Rag
