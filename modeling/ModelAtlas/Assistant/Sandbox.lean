import Mathlib.Data.List.Sort
import ModelAtlas.Records

/-!
# The sandbox of the personal assistant

`services/personal_assistant/sandbox.py`: the names of the workspace files, the
paths of requests, and moves. Nothing else touches the files, so the links that
`_linked` refuses do not occur.
-/

namespace ModelAtlas.Assistant

open Foundations

/-- A `GuardError`, or an exception of another class. -/
inductive AssistantError where
  | guard (reason : String)
  | raised (exception : String)
  deriving DecidableEq, Repr

inductive Area where
  | files
  | trash
  deriving DecidableEq, Repr

def Area.text : Area → String
  | files => "files"
  | trash => "trash"

structure FileName where
  area : Area
  path : String
  deriving DecidableEq, Repr

/-- `path.relative_to(self.root).as_posix()`. -/
def FileName.text (name : FileName) : String :=
  name.area.text ++ "/" ++ name.path

structure FileEntry where
  name : FileName
  inode : Nat
  content : String
  deriving DecidableEq, Repr

structure Files where
  directories : List FileName
  entries : List FileEntry
  deriving DecidableEq, Repr

namespace Files

def entry? (files : Files) (name : FileName) : Option FileEntry :=
  files.entries.find? (fun entry => entry.name = name)

def isFile (files : Files) (name : FileName) : Bool :=
  (files.entry? name).isSome

def isPresent (files : Files) (name : FileName) : Bool :=
  files.isFile name || files.directories.contains name

/-- `path.stat().st_nlink` of a file. -/
def linkCount (files : Files) (entry : FileEntry) : Nat :=
  files.entries.countP (fun other => other.inode = entry.inode)

/-- `os.link(source, destination)`. -/
def link (files : Files) (source : FileEntry) (dest : FileName) :
    Files :=
  { files with entries := files.entries ++ [{ source with name := dest }] }

def unlink (files : Files) (name : FileName) : Files :=
  { files with
    entries := files.entries.filter (fun entry => entry.name ≠ name) }

end Files

def pathParts (relative : String) : List String :=
  (relative.toList.splitOnP (fun char => char = '/')).map String.ofList

/-- `[\\:*?"<>|\x00-\x1f]`. -/
def isForbiddenChar (char : Char) : Bool :=
  "\\:*?\"<>|".toList.contains char || char.toNat < 0x20

/-- `CON|PRN|AUX|NUL|COM[1-9]|LPT[1-9]`. -/
def reservedNames : List String :=
  ["CON", "PRN", "AUX", "NUL"] ++
    ["COM", "LPT"].flatMap (fun device =>
      "123456789".toList.map (fun digit => device ++ String.ofList [digit]))

def isValidPart (part : String) : Bool :=
  !(["", ".", ".."].contains part) &&
    !(part.toList.getLast? = some ' ' || part.toList.getLast? = some '.') &&
    !part.toList.any isForbiddenChar &&
    !reservedNames.contains (String.ofList
      ((part.toList.takeWhile (fun char => char ≠ '.')).map Char.toUpper))

def Files.hasParent (files : Files) (area : Area) (parts : List String) :
    Bool :=
  parts.length ≤ 1 ||
    files.directories.contains ⟨area, "/".intercalate parts.dropLast⟩

def filePath (files : Files) (relative : String) (mustExist : Bool)
    (area : Area) : Except AssistantError FileName :=
  let name : FileName := ⟨area, relative⟩
  if relative = "" || !(pathParts relative).all isValidPart then
    .error (.guard "invalid_relative_path")
  else if !files.hasParent area (pathParts relative) then
    .error (.guard "parent_directory_missing")
  else
    match files.entry? name with
    | none =>
      if mustExist then .error (.guard "source_file_missing") else .ok name
    | some entry =>
      if files.linkCount entry ≠ 1 then .error (.guard "hardlinked_file")
      else .ok name

def checkMove (files : Files) (source dest : String)
    (sourceArea : Area) : Except AssistantError (FileName × FileName) :=
  match filePath files source true sourceArea with
  | .error raised => .error raised
  | .ok src =>
    match filePath files dest false .files with
    | .error raised => .error raised
    | .ok dst =>
      if files.isPresent dst || src = dst then
        .error (.guard "destination_exists")
      else .ok (src, dst)

structure FileState where
  (path sha256 : String)
  size : Nat
  deriving DecidableEq, Repr

def refusedEntry (files : Files) (entry : FileEntry) : Option AssistantError :=
  match filePath files entry.name.path true entry.name.area with
  | .error raised => some raised
  | .ok _ => none

/-- `Sandbox.files_snapshot`, in the order of the canonical JSON text. -/
def filesSnapshot (sha256 : String → String) (files : Files) :
    Except AssistantError (List FileState) :=
  match files.entries.findSome? (refusedEntry files) with
  | some raised => .error raised
  | none => .ok ((files.entries.map (fun entry =>
    { path := entry.name.text
      sha256 := sha256 entry.content
      size := entry.content.utf8ByteSize : FileState })).insertionSort
        (fun left right => left.path ≤ right.path))

end ModelAtlas.Assistant
