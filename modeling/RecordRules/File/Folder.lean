import RecordRules.Assoc
import RecordRules.File.Path

/-!
# Folders

A folder holds files by the steps that lead to them, and the folders in between exist because they
hold something. `Folder.find` follows a path: a step up leads out of a folder only if the folder is
there.
-/

namespace RecordRules

/-- Files with their contents, by the steps that lead to them. -/
structure Folder (α : Type) where
  files : List (List String × α)
  deriving Inhabited

/-- What is found at a path. -/
inductive Entry (α : Type)
  | file (content : α)
  | folder
  | absent
  deriving Inhabited

namespace Entry

/-- A file is there. -/
def isFile {α : Type} : Entry α → Bool
  | file _ => true
  | _ => false

end Entry

namespace Folder

variable {α : Type}

/-- A place is the folder itself or a folder inside it. -/
def isFolder (f : Folder α) (place : List String) : Bool :=
  place.isEmpty || f.files.any fun (steps, _) => place.isPrefixOf steps && place != steps

/-- The place to which steps lead. -/
def follow (f : Folder α) (place : List String) : List String → Option (List String)
  | [] => some place
  | step :: rest =>
    if !f.isFolder place then none
    else if step = ".." then
      if place.isEmpty then none else f.follow place.dropLast rest
    else f.follow (place ++ [step]) rest

/-- What is at a place. -/
def entryAt (f : Folder α) (place : List String) : Entry α :=
  match f.files.lookup place with
  | some content => .file content
  | none => if f.isFolder place then .folder else .absent

/-- What a path leads to from a place in the folder. -/
def find (f : Folder α) (start : List String) (path : Path) : Entry α :=
  if path.root ≠ "" then .absent
  else ((f.follow start path.steps).map f.entryAt).getD .absent

/-- The place to which steps lead when every folder on the way is made. -/
def placeOf (steps : List String) : List String :=
  steps.foldl (fun place step => if step = ".." then place.dropLast else place ++ [step]) []

/-- Writes a file. -/
def write (f : Folder α) (path : Path) (content : α) : Folder α :=
  ⟨Assoc.put (placeOf path.steps) content f.files⟩

/-- The folder of the given files. -/
def ofFiles (files : List (String × α)) : Folder α :=
  files.foldl (fun f (name, content) => f.write (.ofText name) content) ⟨[]⟩

end Folder

end RecordRules
