import TemplateAudit.Files.Tree

namespace TemplateAudit

/-- The path of an entry of the directory at a path. -/
def Path.entry (path : Path) (name : Text) : Path := ⟨path.root, path.parts ++ [name]⟩

/-- Why the files at or below a path cannot be listed. -/
inductive ListingError where
  /-- The path, or one below it, cannot be looked at. -/
  | file (error : FileError)
  /-- More directories lie inside one another than a walk can be in at once. -/
  | nestedTooDeeply
deriving DecidableEq, Repr

/-- The complaint about files that cannot be listed. -/
def ListingError.message : ListingError → Text
  | .file error => error.message
  | .nestedTooDeeply => "maximum recursion depth exceeded"

namespace FileNode

mutual

/-- The components of all files at or below a node, seen from where `above` leads. -/
def filesBelow (above : List Text) : FileNode → List (List Text)
  | .file _ => [above]
  | .directory entries => filesOfEntries above entries

/-- The components of all files at or below entries. -/
def filesOfEntries (above : List Text) : List (Text × FileNode) → List (List Text)
  | [] => []
  | (name, node) :: rest => filesBelow (above ++ [name]) node ++ filesOfEntries above rest

end

mutual

/-- What stops a walk through the node at a path, if anything does. The walk looks at all entries of a directory before
    it goes down into the first of them, and it has room for being in `room` directories at once. -/
def obstacle? (room : Nat) (path : Path) : FileNode → Option ListingError
  | .file _ => none
  | .directory entries =>
    match entries.find? fun entry => Path.maxSize < Utf8.size (path.entry entry.1).text with
    | some (name, _) => some (.file (.path .nameTooLong (path.entry name).text))
    | none =>
      match room with
      | 0 => some .nestedTooDeeply
      | room + 1 => obstacleOfEntries? room path entries

/-- What stops a walk through the entries of the directory at a path, one after another. -/
def obstacleOfEntries? (room : Nat) (path : Path) : List (Text × FileNode) → Option ListingError
  | [] => none
  | (name, node) :: rest => (obstacle? room (path.entry name) node).or (obstacleOfEntries? room path rest)

end

end FileNode

/-- The suffixes of template files. -/
def templateSuffixes : List Text := [".html"]

/-- The suffixes of component files. -/
def componentSuffixes : List Text := [".ts"]

/-- Whether the suffix of a path is one of the given ones, letter case apart. -/
def Path.hasSuffix (path : Path) (suffixes : List Text) : Bool :=
  (suffixes.map Text.lower).contains path.suffix.lower

/-- The files at any depth below the directory at a path that have one of the suffixes. -/
def Path.filesUnder (path : Path) (suffixes : List Text) (entries : List (Text × FileNode)) : List Path :=
  ((FileNode.filesOfEntries [] entries).map fun parts => (⟨path.root, path.parts ++ parts⟩ : Path)).filter
    (·.hasSuffix suffixes)

namespace FileSystem

/-- How many directories inside one another the walk of a run can be in at once: what the depth of its calls leaves
    of a thousand. -/
def walkRoom : Nat := 986

/-- The template files at or below a path in ascending order. A file stands for itself whatever its suffix, and a path
    that leads nowhere has none. Below a directory there are none either if the walk through it is stopped, which has
    room for being in `room` directories at once. -/
def templateFiles (files : FileSystem) (room : Nat) (root : Path) (suffixes : List Text) :
    Except ListingError (List Path) :=
  match files.node? root with
  | .error error => .error (.file error)
  | .ok none => .ok []
  | .ok (some (.file _)) => .ok [root]
  | .ok (some (.directory entries)) =>
    match (FileNode.directory entries).obstacle? room root with
    | some error => .error error
    | none => .ok ((root.filesUnder suffixes entries).mergeSort Path.le)

end FileSystem

end TemplateAudit
