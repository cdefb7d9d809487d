/-
**Query files in folders.**

Main definitions:

* `FileTree` — a file, or a folder of named entries;
* `FileTree.ofFiles` — the tree of files given by their paths;
* `FileTree.find` — what stands at a path;
* `FileTree.library?` — the contents of all query files below a folder, in the order of their names;
* `Library.fileAt`, `Library.folderAt`, `Library.at?` — the contents at a path.
-/

import EventQuery.Library.Basic

set_option relaxedAutoImplicit false
set_option autoImplicit false

namespace EventQuery

/-- A file, or a folder of named entries. -/
inductive FileTree where
  | file (content : String)
  | folder (entries : List (String × FileTree))
  deriving Inhabited

/-- Why a path cannot be read. -/
inductive PathError where
  | missing
  | denied
  | isFolder
  | isFile
  | notText
  deriving DecidableEq, Repr

/-- The text of an error, with the number that systems give it. -/
def PathError.message : PathError → String
  | .missing => "No such file or directory (os error 2)"
  | .denied => "Permission denied (os error 13)"
  | .isFolder => "Is a directory (os error 21)"
  | .isFile => "Not a directory (os error 20)"
  | .notText => "stream did not contain valid UTF-8"

namespace FileTree

/-! ### Paths -/

/-- What stands between the slashes of a path. -/
def pathParts (path : String) : List String := (Text.splitOn ['/'] path.toList).map String.ofList

/-- A part of a path that leads to the folder itself. -/
def staysHere (part : String) : Bool := part == "" || part == "."

/-- Put a file into the entries of a folder; folders on the way are made. -/
def put (entries : List (String × FileTree)) (content : String) :
    List String → List (String × FileTree)
  | [] => entries
  | [name] => Fields.put entries name (.file content)
  | name :: rest =>
      let inner :=
        match Fields.get? entries name with
        | some (.folder inner) => inner
        | _ => []
      Fields.put entries name (.folder (put inner content rest))

/-- **The tree of files given by their paths.** -/
def ofFiles (files : List (String × String)) : FileTree :=
  .folder (files.foldl (fun entries file =>
    put entries file.2 ((pathParts file.1).filter fun part => !staysHere part)) [])

/-- What stands at the end of the parts of a path; `above` holds the folders passed, the last one
first, and two points lead back to it. -/
def findFrom (above : List FileTree) (tree : FileTree) : List String → Except PathError FileTree
  | [] => .ok tree
  | part :: rest =>
      match tree with
      | .file _ => .error .isFile
      | .folder entries =>
          if staysHere part then findFrom above tree rest
          else if part = ".." then
            match above with
            | [] => .error .missing
            | outer :: more => findFrom more outer rest
          else
            match Fields.get? entries part with
            | some inner => findFrom (tree :: above) inner rest
            | none => .error .missing

/-- **What stands at a path.**  Paths that begin with a slash lead out of the tree. -/
def find (tree : FileTree) (path : String) : Except PathError FileTree :=
  if Text.startsWith path.toList ['/'] then .error .missing else findFrom [] tree (pathParts path)

/-! ### Contents -/

/-- The part of a file name behind its last point; a point in front begins none. -/
def extension? (name : String) : Option String :=
  match (Text.splitOn ['.'] name.toList).reverse with
  | [] | [_] => none
  | [_, []] => none
  | last :: _ => some (String.ofList last)

/-- The name of a query file. -/
def isQueryFile (name : String) : Bool :=
  extension? name == some "kql" || extension? name == some "csl"

/-- Order by name. -/
def byName (a b : String × Library) : Bool := a.1 ≤ b.1

mutual

/-- The contents of an entry of a folder. -/
def entryLibrary (name : String) : FileTree → Library
  | .file content => if isQueryFile name then Library.read content else .empty
  | .folder entries => Library.concat (((entryLibraries entries).mergeSort byName).map Prod.snd)

/-- The contents of the entries of a folder, each with its name. -/
def entryLibraries : List (String × FileTree) → List (String × Library)
  | [] => []
  | (name, tree) :: rest => (name, entryLibrary name tree) :: entryLibraries rest

end

/-- **The contents of all query files below a folder**, in the order of their names. -/
def library? : FileTree → Except PathError Library
  | .file _ => .error .isFile
  | .folder entries => .ok (entryLibrary "" (.folder entries))

/-- The text of a file. -/
def content? : FileTree → Except PathError String
  | .file content => .ok content
  | .folder _ => .error .isFolder

/-- **The contents of a file, or of all query files below a folder.** -/
def contents : FileTree → Library
  | .file content => Library.read content
  | .folder entries => entryLibrary "" (.folder entries)

end FileTree

namespace Library

/-- A path error as an error of reading queries. -/
def ofPath {α : Type} (r : Except PathError α) : Except QueryError α :=
  r.mapError fun e => .file e.message

/-- **The contents of the query file at a path.** -/
def fileAt (tree : FileTree) (path : String) : Except QueryError Library :=
  ofPath (tree.find path >>= FileTree.content?) |>.map Library.read

/-- **The contents of the folder at a path.** -/
def folderAt (tree : FileTree) (path : String) : Except QueryError Library :=
  ofPath (tree.find path >>= FileTree.library?)

/-- **The contents at a path**, be it a folder or a file. -/
def at? (tree : FileTree) (path : String) : Except QueryError Library :=
  (ofPath (tree.find path)).map FileTree.contents

end Library

end EventQuery
