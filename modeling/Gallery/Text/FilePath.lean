/-!
# `Gallery.Text.FilePath` — cutting texts at separators, and the parts of a file path

A path is split at slashes.  Its file name is the last component, empty components and single dots
aside; the extension is what follows the last dot of the file name, unless that dot comes first.

## Contents
- `split`, the parts of a text between separators, and `split_ne_nil`; `flatten_split`: no character
  but the separators is lost.
- `fileName?`, the last proper component of a path.
- `splitExtension`, the name of a file and its extension; `stem` and `extension` of a path.
-/

namespace Gallery.Text

/-- The parts of a text between its separators; there is one part more than separators. -/
def split (separator : Char) : List Char → List (List Char)
  | [] => [[]]
  | c :: rest =>
    if c = separator then [] :: split separator rest
    else
      match split separator rest with
      | [] => [[c]]
      | part :: parts => (c :: part) :: parts

theorem split_ne_nil (separator : Char) (cs : List Char) : split separator cs ≠ [] := by
  cases cs with
  | nil => simp [split]
  | cons c rest =>
    simp only [split]
    split
    · simp
    · split <;> simp

/-- The parts hold every character but the separators, in order. -/
theorem flatten_split (separator : Char) (cs : List Char) :
    (split separator cs).flatten = cs.filter (· ≠ separator) := by
  induction cs with
  | nil => simp [split]
  | cons c rest ih =>
    simp only [split]
    by_cases h : c = separator
    · simp [h, ih]
    · rw [if_neg h, List.filter_cons_of_pos (by simpa using h), ← ih]
      cases hs : split separator rest with
      | nil => simp [split_ne_nil] at hs
      | cons part parts => simp

/-- The parts of a string between its separators. -/
def splitString (separator : Char) (s : String) : List String :=
  (split separator s.toList).map String.ofList

namespace FilePath

/-- The components of a path between its slashes. -/
def components (path : List Char) : List (List Char) := split '/' path

/-- The file name of a path: its last component that is neither empty nor a single dot, unless that
is the parent directory. -/
def fileName? (path : List Char) : Option (List Char) :=
  match (components path).reverse.find? fun d => d != [] && d != ['.'] with
  | none => none
  | some name => if name = ['.', '.'] then none else some name

/-- Splits at the last dot, if there is one. -/
def splitLastDot : List Char → Option (List Char × List Char)
  | [] => none
  | c :: rest =>
    match splitLastDot rest with
    | some (a, b) => some (c :: a, b)
    | none => if c = '.' then some ([], rest) else none

/-- The name of a file without its extension, and the extension without its dot. -/
def splitExtension (name : List Char) : List Char × List Char :=
  match splitLastDot name with
  | none => (name, [])
  -- A dot in front starts a hidden file, not an extension.
  | some ([], _) => (name, [])
  | some (stem, extension) => (stem, extension)

/-- The file name of a path without its extension; empty if the path has no file name. -/
def stem (path : String) : String :=
  String.ofList ((fileName? path.toList).elim [] fun name => (splitExtension name).1)

/-- The extension of the file name of a path; empty if there is none. -/
def extension (path : String) : String :=
  String.ofList ((fileName? path.toList).elim [] fun name => (splitExtension name).2)

end FilePath

end Gallery.Text
