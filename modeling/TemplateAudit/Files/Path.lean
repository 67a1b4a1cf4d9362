import TemplateAudit.Text.Case

namespace TemplateAudit

/-- A path. The root is empty, one slash, or two. A path is a root, empty for relative paths, and a list of
    components. Empty components and single dots are not kept, double dots are. The relative path without components
    is the current directory. -/
structure Path where
  root : Text
  parts : List Text
deriving DecidableEq, Repr

namespace Path

/-- Two slashes at the start are a root of their own; any other number above zero counts as one. -/
def rootOf (text : Text) : Text :=
  match text with
  | '/' :: '/' :: '/' :: _ => "/"
  | '/' :: '/' :: _ => "//"
  | '/' :: _ => "/"
  | _ => ""

/-- The components of a text. -/
def partsOf (text : Text) : List Text :=
  (Text.splitAll '/' text).filter fun part => !part.isEmpty && part != ['.']

/-- The path that a text names. -/
def ofText (text : Text) : Path := ⟨rootOf text, partsOf text⟩

/-- The text of a path. -/
def text (path : Path) : Text :=
  if path.root.isEmpty && path.parts.isEmpty then "." else path.root ++ Text.join "/" path.parts

/-- Whether a path starts at the root. -/
def isAbsolute (path : Path) : Bool := !path.root.isEmpty

/-- The last component; empty if there is none. -/
def name (path : Path) : Text := path.parts.getLast?.getD []

/-- The end of a name from its last dot on, if that dot is neither its first nor its last
    character. -/
def suffixOf (name : Text) : Text :=
  let extension := name.reverse.takeWhile (· != '.')
  let stem := (name.reverse.dropWhile (· != '.')).drop 1
  if name.contains '.' && !stem.isEmpty && !extension.isEmpty then '.' :: extension.reverse else []

/-- The suffix of the last component. -/
def suffix (path : Path) : Text := suffixOf path.name

/-- The path without its last component. -/
def parent (path : Path) : Path := ⟨path.root, path.parts.dropLast⟩

/-- A path seen from a directory; an absolute one stands for itself. -/
def join (directory path : Path) : Path :=
  if path.isAbsolute then path else ⟨directory.root, directory.parts ++ path.parts⟩

/-- Components without double dots: each takes the component before it away, if there is one. -/
def withoutUps (parts : List Text) : List Text :=
  parts.foldl (fun kept part => if part == ['.', '.'] then kept.dropLast else kept ++ [part]) []

/-- The absolute path without double dots, seen from the directory `current`. A root of two slashes
    is kept. -/
def absolute (path current : Path) : Path :=
  let joined := current.join path
  ⟨joined.root, withoutUps joined.parts⟩

/-- The absolute path without double dots, seen from the directory `current`, with a root of one
    slash. -/
def resolve (path current : Path) : Path := ⟨"/", withoutUps (current.join path).parts⟩

/-- Lexicographic order by components. -/
def partsLe : List Text → List Text → Bool
  | [], _ => true
  | _ :: _, [] => false
  | a :: as, b :: bs => if a = b then partsLe as bs else a.le b

/-- The order of paths below a common directory. -/
def le (a b : Path) : Bool := partsLe a.parts b.parts

end Path

end TemplateAudit
