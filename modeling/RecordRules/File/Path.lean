import RecordRules.Text.Split

/-!
# Paths

A path is a root and the steps that lead from it. Doubled slashes, a slash at the end and steps that
stay in place do not count, so that texts of the same path have the same steps. The last step is the
name of the file, and the last dot inside the name starts its suffix.
-/

namespace RecordRules

/-- A path in a file system. The root is empty for a path that starts at the current folder. -/
structure Path where
  root : String
  steps : List String
  deriving DecidableEq, Repr, Inhabited

namespace Path

/-- The root of a path: two leading slashes are a root of their own, any other number of them is
the root of the file system. -/
def rootOf (s : List Char) : String :=
  match (s.takeWhile (· = '/')).length with
  | 0 => ""
  | 2 => "//"
  | _ => "/"

/-- A step that leads nowhere. -/
def isIdle (step : List Char) : Bool := step == [] || step == ['.']

/-- Reads a path. -/
def ofText (s : String) : Path where
  root := rootOf s.toList
  steps := ((Text.splitAll '/' s.toList).filter (!isIdle ·)).map .ofList

/-- The text of a path; the current folder is a dot. -/
def text (p : Path) : String :=
  if p.root = "" ∧ p.steps = [] then "." else p.root ++ "/".intercalate p.steps

/-- The name of a file. -/
def name (p : Path) : String := p.steps.getLast?.getD ""

/-- Splits a name at its last dot, unless that is its first or last character. -/
def splitName (name : List Char) : List Char × List Char :=
  let backward := name.reverse
  let suffix := backward.takeWhile (· ≠ '.')
  match backward.dropWhile (· ≠ '.') with
  | '.' :: stem => if suffix = [] ∨ stem = [] then (name, []) else (stem.reverse, '.' :: suffix.reverse)
  | _ => (name, [])

/-- The name without its suffix. -/
def stem (p : Path) : String := .ofList (splitName p.name.toList).1

/-- The suffix of the name, with its dot; empty if there is none. -/
def suffix (p : Path) : String := .ofList (splitName p.name.toList).2

/-- The folder that holds a file. -/
def parent (p : Path) : Path := { p with steps := p.steps.dropLast }

/-- The stem and the suffix of a name make up the name. -/
theorem splitName_append (name : List Char) : (splitName name).1 ++ (splitName name).2 = name := by
  have hsplit : name.reverse.takeWhile (· ≠ '.') ++ name.reverse.dropWhile (· ≠ '.') =
      name.reverse := List.takeWhile_append_dropWhile
  simp only [splitName]
  split
  · rename_i stem hstem
    split
    · simp
    · rw [hstem] at hsplit
      have := congrArg List.reverse hsplit
      simpa using this
  · simp

end Path

end RecordRules
