import FileSearch.File.Scan

/-!
# File trees

A tree of files, directories and symbolic links, as the working directory of a scan. Paths are
followed name by name; outside the working directory there are directories but no files.
-/

namespace FileSearch

inductive FileTree where
  | file (contents : Bytes)
  | directory (entries : List (String × FileTree))
  | link (target : String)

namespace FileTree

def empty : FileTree := directory []

instance : Inhabited FileTree := ⟨empty⟩

/-- The names on a path; one that ends in a slash names what is in a directory. -/
def names (path : String) : List String :=
  let parts := ((path.toList.splitOn '/').filter (!·.isEmpty)).map String.ofList
  if path.toList.getLast? = some '/' then parts ++ ["."] else parts

def isAbsolute (path : String) : Bool := path.toList.head? = some '/'


-- ---------------------------------------------------------------------------
-- Growing a tree
-- ---------------------------------------------------------------------------

/-- Puts an entry in the place of one of the same name, or last. -/
def put (name : String) (node : FileTree) : List (String × FileTree) → List (String × FileTree)
  | [] => [(name, node)]
  | (other, old) :: rest =>
    if other = name then (name, node) :: rest else (other, old) :: put name node rest

/-- How many symbolic links are followed on one path. -/
def maxLinks : Nat := 40

end FileTree

/-- A directory inside a tree: its entries, and for each directory around it, the nearest first, the
name that leads down and all entries there. -/
structure FileCursor where
  entries : List (String × FileTree)
  above : List (String × List (String × FileTree)) := []

namespace FileCursor

def put (c : FileCursor) (name : String) (node : FileTree) : FileCursor :=
  { c with entries := FileTree.put name node c.entries }

/-- Goes down to a directory with the given entries. -/
def enter (c : FileCursor) (name : String) (entries : List (String × FileTree)) : FileCursor :=
  { entries, above := (name, c.entries) :: c.above }

/-- Goes up to the directory around, if there is one in the tree. -/
def leave? (c : FileCursor) : Option FileCursor :=
  match c.above with
  | [] => none
  | (name, around) :: above =>
    some { entries := FileTree.put name (.directory c.entries) around, above }

/-- The whole tree the cursor stands in. -/
def tree (c : FileCursor) : FileTree :=
  .directory (c.above.foldl
    (fun entries step => FileTree.put step.1 (.directory entries) step.2) c.entries)

/-- Follows names to a directory of the tree. Links are followed, and a directory that is missing
is made. -/
def follow (links : Nat) (c : FileCursor) : List String → Option FileCursor
  | [] => some c
  | name :: rest =>
    if name = "." then follow links c rest
    else if name = ".." then
      match c.leave? with
      | none => none
      | some around => follow links around rest
    else match c.entries.lookup name with
      | none => follow links (c.enter name []) rest
      | some (.directory entries) => follow links (c.enter name entries) rest
      | some (.file _) => none
      | some (.link target) =>
        match links with
        | 0 => none
        | links + 1 =>
          if FileTree.isAbsolute target then none
          else follow links c (FileTree.names target ++ rest)
termination_by names => (links, names.length)

/-- Follows all names but the last, which is left to be put into the directory found. -/
def followToLast (links : Nat) (c : FileCursor) (names : List String) :
    Option (FileCursor × String) :=
  match names.getLast? with
  | none => none
  | some last => (follow links c names.dropLast).map fun c => (c, last)

/-- Writes a file. If the last name is that of a link, the file is written where the link leads. -/
def write (contents : Bytes) (c : FileCursor) (names : List String) :
    (links : Nat) → Option FileCursor
  | 0 => none
  | links + 1 =>
    match c.followToLast links names with
    | none => none
    | some (c, last) =>
      match c.entries.lookup last with
      | some (.link target) =>
        if FileTree.isAbsolute target then none
        else write contents c (FileTree.names target) links
      | _ => some (c.put last (.file contents))

end FileCursor

namespace FileTree

def entries : FileTree → List (String × FileTree)
  | directory entries => entries
  | _ => []

/-- The top directory of a tree. -/
def cursor (t : FileTree) : FileCursor := { entries := t.entries }

/-- Puts a file at a path. Paths that lead out of the tree, or through a file, change nothing. -/
def addFile (t : FileTree) (path : String) (contents : Bytes) : FileTree :=
  match t.cursor.write contents (names path) (maxLinks + 1) with
  | some c => c.tree
  | none => t

/-- Puts a symbolic link at a path. -/
def addLink (t : FileTree) (path target : String) : FileTree :=
  match t.cursor.followToLast maxLinks (names path) with
  | some (c, name) => (c.put name (.link target)).tree
  | none => t

/-- Makes a directory; one that is there already is kept. -/
def addDirectory (t : FileTree) (path : String) : FileTree :=
  match t.cursor.follow maxLinks (names path) with
  | some c => c.tree
  | none => t


-- ---------------------------------------------------------------------------
-- Following a path
-- ---------------------------------------------------------------------------

def maxNameBytes : Nat := 255

def maxPathBytes : Nat := 4095

/-- Follows names from a directory. `enclosing` holds the directories around it, the nearest first;
`links` says how many more symbolic links may be followed. -/
def walk (links : Nat) (enclosing : List FileTree) (current : FileTree) :
    List String → Except SystemError FileTree
  | [] => .ok current
  | name :: rest =>
    match current with
    | directory entries =>
      if name = "." then walk links enclosing current rest
      else if name = ".." then
        match enclosing with
        | [] => walk links [] current rest
        | outer :: more => walk links more outer rest
      else if maxNameBytes < name.utf8ByteSize then .error .nameTooLong
      else match entries.lookup name with
        | none => .error .notFound
        | some (link target) =>
          match links with
          | 0 => .error .linkLoop
          | links + 1 =>
            if isAbsolute target then walk links [] empty (names target ++ rest)
            else walk links enclosing current (names target ++ rest)
        | some node => walk links (current :: enclosing) node rest
    | _ => .error .notDirectory
termination_by names => (links, names.length)

/-- What a path leads to from the working directory. -/
def find (t : FileTree) (path : String) : Except SystemError FileTree :=
  if maxPathBytes < path.utf8ByteSize then .error .nameTooLong
  else if path.isEmpty then .error .notFound
  else if isAbsolute path then walk maxLinks [] empty (names path)
  else walk maxLinks [empty] t (names path)


-- ---------------------------------------------------------------------------
-- Opening
-- ---------------------------------------------------------------------------

/-- Opens a path. Directories can be opened, but not read. -/
def openPath (t : FileTree) (path : String) : Opening :=
  if path.toList.contains (Char.ofNat 0) then .error (.fault (nullPathFault path))
  else match t.find path with
    | .error e => .error (.fault (e.openFault path))
    | .ok (file contents) => .ok (.ofContents contents)
    | .ok _ => .ok .ofDirectory

end FileTree

end FileSearch
