import TemplateAudit.CommandLine.Run

namespace TemplateAudit

namespace Snapshot

/-- The bytes of a file, if it can be read. -/
def contentOf? (path : Path) : IO (Option Bytes) := do
  try
    let content ← IO.FS.readBinFile ((← IO.currentDir) / String.ofList path.text)
    return some content.toList
  catch _ => return none

/-- Whether a directory stands at a path. -/
def isDirectory (path : Path) : IO Bool := do
  ((← IO.currentDir) / String.ofList path.text).isDir

/-- The names in a directory. -/
def namesIn (path : Path) : IO (List Text) := do
  let entries ← ((← IO.currentDir) / String.ofList path.text).readDir
  return entries.toList.map (·.fileName.toList)

/-- Add the directories that lead to a path. -/
def addAncestors (path : Path) (files : FileSystem) : IO FileSystem :=
  (List.range path.parts.length).foldlM (fun files count => do
    let above : Path := ⟨path.root, path.parts.take count⟩
    return if ← isDirectory above then files.withDirectory above else files) files

/-- Add a file and the templates to which it leads. -/
def addFile (path : Path) (files : FileSystem) : IO FileSystem := do
  let some content ← contentOf? path | return files
  let files := files.withFile path content
  if !path.hasSuffix componentSuffixes then return files
  match files.readText path with
  | .error _ => return files
  | .ok source =>
    (Component.templateAddresses source).foldlM (fun files declaration => do
      match Component.resolveAddress files.current path declaration.address with
      | .error _ => return files
      | .ok target =>
        if ← isDirectory target then return files.withDirectory target
        match ← contentOf? target with
        | some content => return files.withFile target content
        | none => return files) files

/-- Add what stands at a path and below it. Of the files below it only templates are read. -/
partial def add (path : Path) (files : FileSystem) : IO FileSystem := do
  if ← isDirectory path then
    (← namesIn path).foldlM (fun files name => do
      let below : Path := ⟨path.root, path.parts ++ [name]⟩
      if ← isDirectory below then add below files
      else if below.hasSuffix templateSuffixes then addFile below files
      else return files.withFile below []) (files.withDirectory path)
  else addFile path files

/-- What a run with the given arguments may look at. What a run may look at is read from the disk first: the
    directories and files that the arguments name, and the templates to which those files lead. The run itself then
    works on that snapshot. -/
def take (arguments : List Text) : IO FileSystem := do
  let current := Path.ofText (← IO.currentDir).toString.toList
  let files := FileSystem.withDirectory ⟨.directory [], current⟩ current
  match CommandLine.Options.ofArguments arguments with
  | .error _ => return files
  | .ok options =>
    (options.paths ++ options.config.toList).foldlM (fun files path => do
      add path (← addAncestors path files)) files

end Snapshot

end TemplateAudit

open TemplateAudit in
/-- Audit what the arguments name. -/
def main (arguments : List String) : IO UInt32 := do
  let arguments := arguments.map String.toList
  let result := CommandLine.run (← Snapshot.take arguments) arguments
  IO.print (String.ofList (result.standardOutput ++ result.output))
  IO.eprint (String.ofList result.standardError)
  for record in result.log do
    IO.eprintln (String.ofList (record.level.label ++ " " ++ record.message))
  match result.status with
  | .ok status => return status.toUInt32
  | .error crash =>
    IO.eprintln (String.ofList crash.message)
    return 1
