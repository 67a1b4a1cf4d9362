import TemplateAudit.Files.Path
import TemplateAudit.Text.Newlines
import TemplateAudit.Text.Quoted
import TemplateAudit.Text.Utf8

namespace TemplateAudit

/-- A file with its bytes, or a directory with its entries. -/
inductive FileNode where
  | file (content : Bytes)
  | directory (entries : List (Text × FileNode))
deriving Repr

/-- The tree from the root on, and the directory from which relative paths start. -/
structure FileSystem where
  root : FileNode
  current : Path

/-- Why a path leads nowhere or to nothing that can be read. -/
inductive PathFault where
  | notFound
  | notDirectory
  | isDirectory
  | nameTooLong
deriving DecidableEq, Repr

/-- The complaint about a path. -/
def PathFault.message (fault : PathFault) (path : Text) : Text :=
  let reason : Text := match fault with
    | .notFound => "[Errno 2] No such file or directory: "
    | .notDirectory => "[Errno 20] Not a directory: "
    | .isDirectory => "[Errno 21] Is a directory: "
    | .nameTooLong => "[Errno 36] File name too long: "
  reason ++ path.quoted

/-- Why a file cannot be read or written. -/
inductive FileError where
  /-- The path leads to no file. -/
  | path (fault : PathFault) (name : Text)
  /-- The path holds a null character. -/
  | nullCharacter
  /-- The file holds bytes that are not UTF-8. -/
  | encoding (error : Utf8Error)
deriving DecidableEq, Repr

/-- The complaint about a file. -/
def FileError.message : FileError → Text
  | .path fault name => fault.message name
  | .nullCharacter => "embedded null byte"
  | .encoding error => error.message

namespace Path

/-- The most bytes that a component may have. -/
def maxNameSize : Nat := 255

/-- The most bytes that a path may have. -/
def maxSize : Nat := 4095

/-- Whether no component holds a null character. -/
def isNullFree (path : Path) : Bool := path.parts.all fun part => !part.contains (Char.ofNat 0)

end Path

namespace FileNode

/-- Follow components from a node with the given ancestors, the nearest first. The root is its own
    parent. -/
def follow (ancestors : List FileNode) (node : FileNode) : List Text → Except PathFault FileNode
  | [] => .ok node
  | part :: rest =>
    match node with
    | .file _ => .error .notDirectory
    | .directory entries =>
      if part == ['.', '.'] then
        match ancestors with
        | [] => follow [] node rest
        | parent :: further => follow further parent rest
      else if Path.maxNameSize < Utf8.size part then .error .nameTooLong
      else
        match entries.lookup part with
        | none => .error .notFound
        | some next => follow (node :: ancestors) next rest

/-- Put `node` under `name`: in place of the entry of that name, or at the end if there is none. -/
def withEntry (name : Text) (node : FileNode) : List (Text × FileNode) → List (Text × FileNode)
  | [] => [(name, node)]
  | (other, old) :: rest =>
    if other = name then (name, node) :: rest else (other, old) :: withEntry name node rest

/-- The tree in which `change` has been applied to the node that components without double dots lead
    to. Missing directories on the way are made, and so is the node itself, as an empty directory. -/
def alter (change : FileNode → FileNode) (node : FileNode) : List Text → FileNode
  | [] => change node
  | part :: rest =>
    let entries := match node with
      | .directory entries => entries
      | .file _ => []
    .directory (withEntry part (alter change ((entries.lookup part).getD (.directory [])) rest) entries)

/-- Append bytes to the file that components without double dots lead to. A file whose last
    component alone is missing is created. -/
def append (content : Bytes) (node : FileNode) : List Text → Except PathFault FileNode
  | [] =>
    match node with
    | .file old => .ok (.file (old ++ content))
    | .directory _ => .error .isDirectory
  | part :: rest =>
    match node with
    | .file _ => .error .notDirectory
    | .directory entries =>
      if Path.maxNameSize < Utf8.size part then .error .nameTooLong
      else
        match entries.lookup part with
        | some next => (append content next rest).map fun updated =>
            .directory (withEntry part updated entries)
        | none =>
          if rest.isEmpty then .ok (.directory (withEntry part (.file content) entries))
          else .error .notFound

end FileNode

namespace FileSystem

/-- The node at a path. -/
def node (files : FileSystem) (path : Path) : Except FileError FileNode :=
  if !path.isNullFree then .error .nullCharacter
  else if Path.maxSize < Utf8.size path.text then .error (.path .nameTooLong path.text)
  else
    (FileNode.follow [] files.root (files.current.join path).parts).mapError (.path · path.text)

/-- The node at a path, if there is one. That a name is too long is a complaint even here, where a
    path that merely leads nowhere is none. -/
def node? (files : FileSystem) (path : Path) : Except FileError (Option FileNode) :=
  match files.node path with
  | .ok node => .ok (some node)
  | .error (.path .nameTooLong name) => .error (.path .nameTooLong name)
  | .error _ => .ok none

/-- The bytes of the file at a path. -/
def readBytes (files : FileSystem) (path : Path) : Except FileError Bytes :=
  match files.node path with
  | .error error => .error error
  | .ok (.directory _) => .error (.path .isDirectory path.text)
  | .ok (.file content) => .ok content

/-- The text of the file at a path, with uniform line ends. -/
def readText (files : FileSystem) (path : Path) : Except FileError Text :=
  match files.readBytes path with
  | .error error => .error error
  | .ok content => ((Utf8.decode content).mapError .encoding).map Text.uniformNewlines

/-- The file system with a directory at a path. -/
def withDirectory (files : FileSystem) (path : Path) : FileSystem :=
  ⟨files.root.alter id (path.absolute files.current).parts, files.current⟩

/-- The file system with a file at a path. -/
def withFile (files : FileSystem) (path : Path) (content : Bytes) : FileSystem :=
  ⟨files.root.alter (fun _ => .file content) (path.absolute files.current).parts, files.current⟩

/-- Append a text to the file at an absolute path without double dots. -/
def appendText (files : FileSystem) (path : Path) (text : Text) : Except FileError FileSystem :=
  if !path.isNullFree then .error .nullCharacter
  else if Path.maxSize < Utf8.size path.text then .error (.path .nameTooLong path.text)
  else
    ((files.root.append (Utf8.encode text) path.parts).mapError (.path · path.text)).map fun root =>
      ⟨root, files.current⟩

end FileSystem

end TemplateAudit
