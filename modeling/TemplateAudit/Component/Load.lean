import TemplateAudit.Component.Declaration
import TemplateAudit.Files.Templates
import TemplateAudit.Source.Fragment

namespace TemplateAudit

/-- A fragment, and the text into which its offsets point. -/
structure TemplateSource where
  fragment : Fragment
  source : Text
deriving DecidableEq, Repr

namespace FileSystem

/-- The fragment that is a whole template file. -/
def externalTemplate (files : FileSystem) (path : Path) : Except FileError Fragment :=
  (files.readText path).map fun text => Fragment.external text (some path.text)

end FileSystem

namespace Component

/-- The file that an address in a component leads to. -/
def resolveAddress (current component : Path) (address : Text) : Except FileError Path :=
  let path := component.parent.join (Path.ofText address)
  if path.isNullFree then .ok (path.resolve current) else .error .nullCharacter

/-- The fragment of a template written in a component source. -/
def Declaration.fragment (declaration : Declaration) (path : Path) : Fragment :=
  ⟨declaration.literal, declaration.literalStart, .inline, some path.text⟩

/-- A template and the offset of its declaration. -/
abbrev Placed := Nat × TemplateSource

/-- The templates written in a component source. -/
def inlineSources (path : Path) (source : Text) : List Placed :=
  (inlineTemplates source).map fun declaration =>
    (declaration.start, ⟨declaration.fragment path, source⟩)

/-- Load the templates at addresses in order, up to the first one that cannot be read. -/
def loadAddresses (files : FileSystem) (path : Path) :
    List Declaration → Except FileError (List Placed)
  | [] => .ok []
  | declaration :: rest => do
    let target ← resolveAddress files.current path declaration.address
    let fragment ← files.externalTemplate target
    let later ← loadAddresses files path rest
    return (declaration.start, ⟨fragment, fragment.text⟩) :: later

/-- All templates that a component declares, in the order of their declarations. -/
def load (files : FileSystem) (path : Path) : Except FileError (List TemplateSource) := do
  let source ← files.readText path
  let external ← loadAddresses files path (templateAddresses source)
  let placed := (inlineSources path source ++ external).mergeSort fun a b => a.1 ≤ b.1
  return placed.map (·.2)

end Component

namespace FileSystem

/-- The templates of a file: those that it declares if it is a component, and otherwise the file
    itself. -/
def loadTemplates (files : FileSystem) (path : Path) : Except FileError (List TemplateSource) :=
  if path.hasSuffix componentSuffixes then Component.load files path
  else (files.externalTemplate path).map fun fragment => [⟨fragment, fragment.text⟩]

end FileSystem

end TemplateAudit
