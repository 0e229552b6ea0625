/-
This file finds the font file for a family. The files of all directories are known by
their stems in small letters, without blanks and hyphens; slanted, bold, light and narrow
cuts are passed over, and of two files with one stem the first counts. A family is looked
up by what its name contains, and then a row of common families is tried in its place.
What a request led to is remembered for a while, so a warning is not given twice in a row.
-/

import SeriesChart.Options.Theme
import SeriesChart.Text.Blank
import SeriesChart.Text.Lowercase
import SeriesChart.Font.Basic

namespace SeriesChart

/-! ### File names -/

/-- The name of a file without its directories. -/
def fileName (path : String) : List Char :=
  (path.toList.reverse.takeWhile (· ≠ '/')).reverse

/-- The stem and the ending of a name; the dot belongs to the ending. A dot at the start or at the
end of a name begins no ending. -/
def splitEnding (name : List Char) : List Char × List Char :=
  let ending := (name.reverse.takeWhile (· ≠ '.')).reverse
  let stem := name.take (name.length - ending.length - 1)
  if ending = [] || stem = [] || !name.contains '.' then (name, []) else (stem, '.' :: ending)

/-- A name as families are compared: without blanks and hyphens. -/
def compact (name : String) : List Char :=
  name.toList.filter fun character => character ≠ ' ' && character ≠ '-'

/-- The first list stands somewhere in the second one. -/
def standsIn (part : List Char) : List Char → Bool
  | [] => part.isEmpty
  | first :: rest => part.isPrefixOf (first :: rest) || standsIn part rest

/-! ### Libraries -/

/-- A font file under the stem by which it is known. -/
structure FontFile where
  stem : String
  path : String
  deriving DecidableEq, Repr

namespace FontFile

/-- The endings of font files. -/
def endings : List String := [".ttf", ".otf", ".ttc"]

/-- What the stems of cuts other than the upright regular one contain. -/
def styleMarks : List String := ["bold", "italic", "oblique", "light", "condensed"]

/-- The font file of a path, if it is a font of the regular cut. -/
def ofPath? (path : String) : Option FontFile :=
  let (stem, ending) := splitEnding (fileName path)
  let known := compact (Text.lowercase (String.ofList stem))
  if endings.contains (Text.lowercase (String.ofList ending)) &&
      !styleMarks.any (fun mark => standsIn mark.toList known) then
    some ⟨String.ofList known, path⟩
  else none

end FontFile

/-- The font files that can be chosen from, sorted by their stems. -/
structure FontLibrary where
  files : List FontFile := []
  deriving DecidableEq, Repr

namespace FontLibrary

/-- Adds a file unless its stem is taken. -/
def addFile (files : List FontFile) (file : FontFile) : List FontFile :=
  if files.any (·.stem = file.stem) then files else files ++ [file]

/-- The library of the paths of all directories, directory after directory. -/
def ofPaths (paths : List String) : FontLibrary where
  files := ((paths.filterMap FontFile.ofPath?).foldl addFile []).mergeSort
    fun first second => !decide (second.stem < first.stem)

/-- The paths that lie between a directory and a file in it, the file last. The name of the file is
given by its parts. -/
def pathsFrom (directory : String) : List String → List String
  | [] => []
  | part :: rest =>
    let path := directory ++ "/" ++ part
    path :: pathsFrom path rest

/-- The library of directories whose files are given with the directories that they lie in there.
A directory with the name of a font counts as one. -/
def ofDirectories (directories : List (String × List String)) : FontLibrary :=
  ofPaths (directories.flatMap fun (directory, names) =>
    names.flatMap fun name => pathsFrom directory (name.splitOn "/"))

/-- The families that are tried when a family is not found. -/
def fallbackFamilies : List String :=
  ["arial", "helvetica", "liberationsans", "liberation sans", "dejavusans", "dejavu sans",
    "freesans"]

/-- The file for a family. A blank name stands for the usual family. -/
def find? (library : FontLibrary) (family : String) : Option FontFile :=
  let stripped := Text.strip family
  let wanted := if stripped = "" then defaultFontFamily else stripped
  (Text.lowercase wanted :: fallbackFamilies).findSome? fun name =>
    library.files.find? fun file => standsIn (compact name) file.stem.toList

end FontLibrary

/-! ### Requests -/

/-- What a request for a font leads to. -/
inductive FontChoice where
  /-- The built-in font. -/
  | builtIn
  /-- A file in a size. -/
  | file (path : String) (size : Int)
  deriving DecidableEq, Repr

/-- Why the built-in font stands in. -/
inductive FontWarning where
  | notFound (family : String)
  | unreadable (path : String)
  deriving DecidableEq, Repr

/-- The wording of a warning. -/
def FontWarning.message : FontWarning → String
  | notFound family =>
    s!"no TrueType font found for {Text.quoted family}; using Pillow default font"
  | unreadable path => s!"failed to load font {path}"

/-- A request: a family and a size. -/
structure FontRequest where
  family : String
  size : Value

/-- Two requests are one if they ask for the same family and for sizes of equal worth. -/
instance : BEq FontRequest where
  beq first second := first.family == second.family && first.size.equals second.size

/-- The requests of late with their answers, the latest first. -/
structure FontMemory where
  answers : List (FontRequest × FontChoice) := []

namespace FontMemory

/-- How many requests are remembered. -/
def limit : Nat := 64

/-- The answer to a request that was seen of late. It becomes the latest one. -/
def answer? (memory : FontMemory) (request : FontRequest) : Option (FontChoice × FontMemory) :=
  match memory.answers.lookup request with
  | none => none
  | some choice =>
    some (choice, ⟨(request, choice) :: memory.answers.filter (!·.1 == request)⟩)

/-- The memory with one more answer; the oldest one is forgotten when there are too many. -/
def remember (memory : FontMemory) (request : FontRequest) (choice : FontChoice) : FontMemory :=
  ⟨((request, choice) :: memory.answers).take limit⟩

end FontMemory

/-- The font for a request that is not remembered, and the warning it gives. -/
def FontLibrary.choose (library : FontLibrary) (isReadable : Bool) (family : String) (size : Int) :
    FontChoice × Option FontWarning :=
  match library.find? family with
  | none => (.builtIn, some (.notFound family))
  | some file =>
    if isReadable then (.file file.path size, none)
    else (.builtIn, some (.unreadable file.path))

/-- Answers a request for a font. A size that is no number is refused and not remembered. -/
def FontLibrary.load (library : FontLibrary) (isReadable : Bool) (request : FontRequest) :
    EStateM Fault FontMemory (FontChoice × Option FontWarning) := do
  request.size.checkMemorable
  let memory ← get
  match memory.answer? request with
  | some (choice, memory) =>
    set memory
    return (choice, none)
  | none =>
    let size ← Font.wholeSize request.size
    let (choice, warning) := library.choose isReadable request.family size
    set (memory.remember request choice)
    return (choice, warning)

end SeriesChart
