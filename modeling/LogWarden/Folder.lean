import LogWarden.File

/-! # Folders

The files of one folder by their paths. There are no folders in it, so a path that leads through one
cannot be written. -/

namespace LogWarden

/-- What there is in a folder, the latest first. -/
structure Folder where
  files : List (String × FileState)
  deriving DecidableEq, Repr

namespace Folder

/-- A path without parts that lead nowhere. -/
def plainPath (path : String) : String :=
  "/".intercalate ((path.splitOn "/").filter fun part => part != "" && part != ".")

/-- What there is at a path. -/
def look (f : Folder) (path : String) : FileState :=
  let plain := plainPath path
  if plain == "" then .unreadable "is a folder"
  else ((f.files.find? (·.1 == plain)).map (·.2)).getD .absent

/-- Whether a path leads to a file of the folder itself. -/
def isPlain (path : String) : Bool :=
  !(plainPath path).contains '/' && !path.endsWith "/"

/-- The folder with a file in it. -/
def write (f : Folder) (path text : String) : Folder :=
  ⟨(plainPath path, .content text.toUTF8.toList) :: f.files⟩

/-- The way to the files of a folder. -/
def access : FileAccess (StateM Folder) where
  look path := do return (← get).look path
  write path text := do
    if isPlain path then
      modify (·.write path text)
      return none
    else return some "no such folder"

end Folder

end LogWarden
