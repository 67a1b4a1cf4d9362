import TemplateAudit.Proofs.Files.Walk
import TemplateAudit.Proofs.Rule.Selection

namespace TemplateAudit

namespace Path

theorem partsLe_total (a b : List Text) : partsLe a b = true ∨ partsLe b a = true := by
  induction a generalizing b with
  | nil => exact .inl rfl
  | cons first rest ih =>
    cases b with
    | nil => exact .inr rfl
    | cons first' rest' =>
      by_cases heq : first = first'
      · subst heq
        simpa [partsLe] using ih rest'
      · simpa [partsLe, heq, Ne.symm heq, Text.le_iff] using le_total first first'

theorem partsLe_trans {a b c : List Text} (hab : partsLe a b = true) (hbc : partsLe b c = true) :
    partsLe a c = true := by
  induction a generalizing b c with
  | nil => rfl
  | cons first rest ih =>
    match b, c, hab, hbc with
    | second :: rest', third :: rest'', hab, hbc =>
      simp only [partsLe] at hab hbc ⊢
      by_cases hfirst : first = second
      · subst hfirst
        rw [if_pos rfl] at hab
        by_cases hsecond : first = third
        · rw [if_pos hsecond] at hbc ⊢
          exact ih hab hbc
        · rw [if_neg hsecond] at hbc ⊢
          exact hbc
      · rw [if_neg hfirst, Text.le_iff] at hab
        by_cases hsecond : second = third
        · subst hsecond
          rw [if_neg hfirst, Text.le_iff]
          exact hab
        · rw [if_neg hsecond, Text.le_iff] at hbc
          have hthird : first ≠ third := by
            rintro rfl
            exact hfirst (le_antisymm hab hbc)
          rw [if_neg hthird, Text.le_iff]
          exact le_trans hab hbc

/-- No two different paths are each before the other. -/
theorem partsLe_antisymm {a b : List Text} (hab : partsLe a b = true) (hba : partsLe b a = true) : a = b := by
  induction a generalizing b with
  | nil =>
    cases b with
    | nil => rfl
    | cons first rest => cases hba
  | cons first rest ih =>
    cases b with
    | nil => cases hab
    | cons first' rest' =>
      by_cases heq : first = first'
      · subst heq
        rw [partsLe, if_pos rfl] at hab hba
        rw [ih hab hba]
      · rw [partsLe, if_neg heq, Text.le_iff] at hab
        rw [partsLe, if_neg (Ne.symm heq), Text.le_iff] at hba
        exact absurd (le_antisymm hab hba) heq

theorem root_of_mem_filesUnder {path file : Path} {suffixes : List Text} {entries : List (Text × FileNode)}
    (h : file ∈ path.filesUnder suffixes entries) : file.root = path.root := by
  obtain ⟨parts, _, rfl⟩ := List.mem_map.mp (List.mem_filter.mp h).1
  rfl

/-- Sorted paths are in ascending order. -/
theorem pairwise_mergeSort (paths : List Path) : (paths.mergeSort le).Pairwise fun a b => a.le b = true := by
  have htotal : ∀ a b : Path, (a.le b || b.le a) = true := by
    intro a b
    rw [Bool.or_eq_true]
    exact partsLe_total a.parts b.parts
  have htrans : ∀ a b c : Path, a.le b = true → b.le c = true → a.le c = true := fun a b c => partsLe_trans
  exact List.pairwise_mergeSort htrans htotal paths

end Path

namespace FileSystem

/-- The files to which a path leads: the file at the path, or the template files at any depth below it, in ascending
    order, if a walk comes to all of them. -/
inductive Visits (files : FileSystem) (path : Path) : List Path → Prop where
  | file {content : Bytes} (hnode : files.node path = .ok (.file content)) : Visits files path [path]
  | directory {entries : List (Text × FileNode)} {visited : List Path}
      (hnode : files.node path = .ok (.directory entries))
      (hwalk : (FileNode.directory entries).IsWalkable walkRoom path)
      (hall : visited.Perm (path.filesUnder templateSuffixes entries))
      (hordered : visited.Pairwise fun a b => a.le b = true) : Visits files path visited

variable {files : FileSystem} {path root : Path} {node : FileNode} {entries : List (Text × FileNode)}
  {room : Nat} {suffixes : List Text} {visited found : List Path} {error : ListingError}

theorem node_of_node? (h : files.node? path = .ok (some node)) : files.node path = .ok node := by
  unfold node? at h
  split at h
  · next found hfound =>
    obtain rfl := Option.some.inj (Except.ok.inj h)
    exact hfound
  · cases h
  · cases h

theorem node?_of_node (h : files.node path = .ok node) : files.node? path = .ok (some node) := by
  rw [node?, h]

/-- A file is listed alone. -/
theorem templateFiles_of_file {content : Bytes} (hnode : files.node? root = .ok (some (.file content)))
    (room : Nat) (suffixes : List Text) : files.templateFiles room root suffixes = .ok [root] := by
  rw [templateFiles, hnode]

/-- Below a directory through which a walk comes to its end, what it collects is filtered and sorted. -/
theorem templateFiles_of_walkable (hnode : files.node? root = .ok (some (.directory entries)))
    (hwalk : (FileNode.directory entries).IsWalkable room root) (suffixes : List Text) :
    files.templateFiles room root suffixes = .ok ((root.filesUnder suffixes entries).mergeSort Path.le) := by
  rw [templateFiles, hnode]
  dsimp only
  rw [(FileNode.obstacle?_eq_none_iff _).mpr hwalk]

/-- Nothing is listed where something is in the way of the walk. -/
theorem templateFiles_of_stopsWalk (hnode : files.node? root = .ok (some node))
    (hstops : node.StopsWalk room root error) (suffixes : List Text) :
    files.templateFiles room root suffixes = .error error := by
  cases node with
  | file content => cases hstops
  | directory entries =>
    rw [templateFiles, hnode]
    dsimp only
    rw [(FileNode.obstacle?_eq_some_iff _).mpr hstops]

/-- The template files of a path are those to which it leads. -/
theorem visits_of_templateFiles (hnode : files.node? path = .ok (some node))
    (h : files.templateFiles walkRoom path templateSuffixes = .ok visited) : files.Visits path visited := by
  cases node with
  | file content =>
    rw [templateFiles_of_file hnode] at h
    obtain rfl := Except.ok.inj h
    exact .file (node_of_node? hnode)
  | directory entries =>
    obtain hwalk | ⟨error, hstops⟩ := (FileNode.directory entries).isWalkable_or_stopsWalk walkRoom path
    · rw [templateFiles_of_walkable hnode hwalk] at h
      obtain rfl := Except.ok.inj h
      exact .directory (node_of_node? hnode) hwalk (List.mergeSort_perm _ _) (Path.pairwise_mergeSort _)
    · rw [templateFiles_of_stopsWalk hnode hstops] at h
      cases h

/-- The files to which a path leads are its template files, so they are the same each time. -/
theorem Visits.templateFiles_eq (h : files.Visits path visited) :
    ∃ node, files.node? path = .ok (some node) ∧
      files.templateFiles walkRoom path templateSuffixes = .ok visited := by
  cases h with
  | file hnode => exact ⟨_, node?_of_node hnode, templateFiles_of_file (node?_of_node hnode) _ _⟩
  | @directory entries _ hnode hwalk hall hordered =>
    refine ⟨_, node?_of_node hnode, ?_⟩
    rw [templateFiles_of_walkable (node?_of_node hnode) hwalk]
    have hsorted := Path.pairwise_mergeSort (path.filesUnder templateSuffixes entries)
    have hperm := List.mergeSort_perm (path.filesUnder templateSuffixes entries) Path.le
    refine congrArg Except.ok ((hperm.trans hall.symm).eq_of_pairwise ?_ hsorted hordered)
    rintro ⟨root, parts⟩ ⟨root', parts'⟩ ha hb hab hba
    obtain rfl : root = path.root := Path.root_of_mem_filesUnder (hperm.mem_iff.mp ha)
    obtain rfl : root' = path.root := Path.root_of_mem_filesUnder (hall.mem_iff.mp hb)
    obtain rfl := Path.partsLe_antisymm hab hba
    rfl

/-- A path that leads somewhere leads to files, or there is something in the way of a walk. -/
theorem exists_visits (h : files.node? path = .ok (some node)) :
    (∃ visited, files.Visits path visited) ∨ ∃ error, node.StopsWalk walkRoom path error := by
  cases node with
  | file content => exact .inl ⟨_, .file (node_of_node? h)⟩
  | directory entries =>
    obtain hwalk | hstops := (FileNode.directory entries).isWalkable_or_stopsWalk walkRoom path
    · exact .inl ⟨_, visits_of_templateFiles h (templateFiles_of_walkable h hwalk templateSuffixes)⟩
    · exact .inr hstops

end FileSystem

end TemplateAudit
