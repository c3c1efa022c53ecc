import SpriteStage.Text.Basic

namespace SpriteStage.Path
open SpriteStage.Text

def isAbsolute (path : String) : Bool := path.toList.head? = some '/'

/-- A path below another one. An absolute path stands for itself, and an empty one ends the base
with a slash. -/
def join (base path : String) : String :=
  if isAbsolute path then path
  else if base.isEmpty || base.toList.getLast? = some '/' then base ++ path
  else base ++ "/" ++ path

/-- The texts between slashes, empty ones included. -/
def segments (path : String) : List String := (fields '/' path.toList).map String.ofList

/-- The parts that name something: empty segments and inner dots are dropped, and a leading dot or
slash is kept. -/
def components (path : String) : List String :=
  match segments path with
  | [] => []
  | first :: rest =>
    let tail := rest.filter fun segment => segment ≠ "" && segment ≠ "."
    if first = "" then (if isAbsolute path then "/" :: tail else tail) else first :: tail

def endsWith (path tail : String) : Bool := (components tail).isSuffixOf (components path)

end SpriteStage.Path

namespace SpriteStage

/-- Files with their contents and folders, each named by its segments from the working folder. The
folders that lead to a file or folder are listed as well. -/
structure FileTree where
  files : List (List String × ByteArray)
  folders : List (List String)

inductive FileError where
  | notFound
  | notFolder
  | isFolder
  | nameTooLong
  | nulInName
  | notText
  deriving Repr, DecidableEq

def FileError.message : FileError → String
  | .notFound => "No such file or directory (os error 2)"
  | .notFolder => "Not a directory (os error 20)"
  | .isFolder => "Is a directory (os error 21)"
  | .nameTooLong => "File name too long (os error 36)"
  | .nulInName => "file name contained an unexpected NUL byte"
  | .notText => "stream did not contain valid UTF-8"

/-- A place reached by a path: a folder or file of the tree, or a folder above it. -/
inductive Place where
  | folder (segments : List String)
  | file (content : ByteArray)
  | above

namespace FileTree

def empty : FileTree := ⟨[], []⟩

/-- Go from a folder along segments, making the folders on the way. Above the working folder there is
no way up. -/
def makeFolders (tree : FileTree) (here : List String) : List String → FileTree × List String
  | [] => (tree, here)
  | segment :: rest =>
    if segment = "" || segment = "." then makeFolders tree here rest
    else if segment = ".." then makeFolders tree here.dropLast rest
    else
      let next := here ++ [segment]
      makeFolders { tree with folders := next :: tree.folders } next rest

def addFile (tree : FileTree) (path : String) (content : ByteArray) : FileTree :=
  let segments := Path.segments path
  let (tree, folder) := tree.makeFolders [] segments.dropLast
  { tree with files := (folder ++ [segments.getLastD ""], content) :: tree.files }

def addFolder (tree : FileTree) (path : String) : FileTree :=
  (tree.makeFolders [] (Path.segments path)).1

def hasFolder (tree : FileTree) (segments : List String) : Bool :=
  segments.isEmpty || tree.folders.contains segments

def entry? (tree : FileTree) (segments : List String) : Option Place :=
  match tree.files.lookup segments with
  | some content => some (.file content)
  | none => if tree.hasFolder segments then some (.folder segments) else none

/-- A file is no folder, so nothing can follow it in a path, not even a slash. -/
def step (tree : FileTree) (place : Place) (segment : String) : Except FileError Place :=
  match place with
  | .file _ => .error .notFolder
  | .above =>
    if segment = "" || segment = "." || segment = ".." then .ok .above
    else if 255 < segment.utf8ByteSize then .error .nameTooLong
    else .error .notFound
  | .folder here =>
    if segment = "" || segment = "." then .ok place
    else if segment = ".." then
      .ok (if here.isEmpty then .above else .folder here.dropLast)
    else if 255 < segment.utf8ByteSize then .error .nameTooLong
    else match tree.entry? (here ++ [segment]) with
      | some next => .ok next
      | none => .error .notFound

def look (tree : FileTree) (path : String) : Except FileError Place :=
  if path.toList.contains '\x00' then .error .nulInName
  else if path.isEmpty then .error .notFound
  else if 4096 ≤ path.utf8ByteSize then .error .nameTooLong
  else
    let start := if Path.isAbsolute path then Place.above else .folder []
    (Path.segments path).foldlM tree.step start

def contains (tree : FileTree) (path : String) : Bool := (tree.look path).toBool

def isFile (tree : FileTree) (path : String) : Bool :=
  match tree.look path with
  | .ok (.file _) => true
  | _ => false

def readText (tree : FileTree) (path : String) : Except FileError String := do
  match ← tree.look path with
  | .file content => match String.fromUTF8? content with
    | some text => return text
    | none => throw .notText
  | _ => throw .isFolder

end FileTree
end SpriteStage
