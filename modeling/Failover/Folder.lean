/-! A directory of texts, and the ways that paths lead through it. -/
namespace Failover

inductive FileFault where
  | missing
  | notDirectory
  | isDirectory
  | nameTooLong
  deriving DecidableEq

def FileFault.text : FileFault → String
  | missing => "No such file or directory (os error 2)"
  | notDirectory => "Not a directory (os error 20)"
  | isDirectory => "Is a directory (os error 21)"
  | nameTooLong => "File name too long (os error 36)"

/-- A directory and the texts in it. A text stands under its path, the names from the directory
down, and a directory is there when something is in it. -/
structure Folder where
  texts : List (List String × String) := []
  deriving DecidableEq

namespace Folder

def longestName : Nat := 255

def longestPath : Nat := 4095

def text? (f : Folder) (place : List String) : Option String := f.texts.lookup place

def hasDirectory (f : Folder) (path : List String) : Bool :=
  path.isEmpty || f.texts.any fun (p, _) => path.isPrefixOf p && p.length > path.length

/-- Follows the names of a path from `place`, a directory. No path leads to a text through a text,
through what is not there, or out of the directory, and no name may be too long. -/
def follow (f : Folder) (place : List String) : List String → Except FileFault (List String)
  | [] => .error .isDirectory
  | [name] =>
    if name ∈ ["", ".", ".."] then .error .isDirectory
    else if longestName < name.utf8ByteSize then .error .nameTooLong
    else .ok (place ++ [name])
  | name :: names =>
    if name ∈ ["", "."] then f.follow place names
    else if name = ".." then
      if place.isEmpty then .error .missing else f.follow place.dropLast names
    else if longestName < name.utf8ByteSize then .error .nameTooLong
    else if f.hasDirectory (place ++ [name]) then f.follow (place ++ [name]) names
    else .error (if (f.text? (place ++ [name])).isSome then .notDirectory else .missing)

def place (f : Folder) (path : String) : Except FileFault (List String) :=
  if longestPath < path.utf8ByteSize then .error .nameTooLong
  else if path.startsWith "/" then .error .missing
  else f.follow [] (path.splitOn "/")

def read (f : Folder) (path : String) : Except FileFault String := do
  let place ← f.place path
  match f.text? place with
  | some text => .ok text
  | none => .error (if f.hasDirectory place then .isDirectory else .missing)

def write (f : Folder) (path text : String) : Except FileFault Folder := do
  let place ← f.place path
  if f.hasDirectory place then .error .isDirectory
  else .ok ⟨(place, text) :: f.texts.filter (·.1 != place)⟩

def ofList (texts : List (String × String)) : Folder :=
  ⟨texts.map fun (path, text) => ((path.splitOn "/").filter (· ∉ ["", "."]), text)⟩

end Folder
end Failover
