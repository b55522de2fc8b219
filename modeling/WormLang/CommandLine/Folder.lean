import WormLang.Fault

/-!
Paths in the folder that a command works in. Empty and neutral parts of a path do not count; every other part
is looked up from left to right, so that a step up needs the folder it leaves. A part that is longer than a
file system allows is a fault, unless the look-up stops before it.
-/
namespace WormLang.CommandLine

def pathParts (path : String) : List String :=
  (path.splitOn "/").filter fun part => !part.isEmpty && part != "."

def pathText (path : String) : String :=
  let body := "/".intercalate (pathParts path)
  if path.startsWith "/" then "/" ++ body else if body.isEmpty then "." else body

/-- A folder with everything below it: the places of folders, and the texts of files by their places. -/
structure Folder where
  folders : List (List String) := []
  files : List (List String × String) := []
  deriving Inhabited

namespace Folder

/-- Add a folder and the folders that it lies in. -/
def addFolder (f : Folder) (place : List String) : Folder :=
  { f with folders := (List.range (place.length + 1)).map place.take ++ f.folders }

def addFile (f : Folder) (place : List String) (text : String) : Folder :=
  { f.addFolder place.dropLast with files := (place, text) :: f.files }

/-- A folder from the paths of folders and the texts of files. -/
def ofPaths (folders : List String) (files : List (String × String)) : Folder :=
  let f := folders.foldl (fun f path => f.addFolder (pathParts path)) {}
  files.foldl (fun f (path, text) => f.addFile (pathParts path) text) f

/-- The most bytes that a part of a path can have. -/
def longestPart : Nat := 255

/-- The most bytes that a path can have. -/
def longestPath : Nat := 4095

/-- Follow the parts of a path from a place; none if they lead to no file. -/
def follow (f : Folder) (path : String) (place : List String) : List String → Except Fault (Option String)
  | [] => .ok none
  | part :: rest =>
    if part.utf8ByteSize > longestPart then .error { cause := .nameTooLong (pathText path) }
    else if part == ".." then
      if place.isEmpty then .ok none else f.follow path place.dropLast rest
    else
      let here := place ++ [part]
      match f.files.lookup here with
      | some text => .ok (if rest.isEmpty then some text else none)
      | none => if f.folders.contains here then f.follow path here rest else .ok none

/-- The text of the file at a path; none if there is no such file. Nothing is known outside of the folder. -/
def read (f : Folder) (path : String) : Except Fault (Option String) :=
  if (pathText path).utf8ByteSize > longestPath then .error { cause := .nameTooLong (pathText path) }
  else if path.startsWith "/" then .ok none
  else f.follow path [] (pathParts path)

end Folder

end WormLang.CommandLine
