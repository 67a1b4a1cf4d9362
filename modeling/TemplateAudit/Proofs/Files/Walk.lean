import Mathlib.Data.List.Basic
import TemplateAudit.Files.Templates
import TemplateAudit.Proofs.Steps
import TemplateAudit.Proofs.Text.Pieces

namespace TemplateAudit

theorem Utf8.size_append (first second : Text) : size (first ++ second) = size first + size second := by
  induction first with
  | nil => rw [List.nil_append, size, Nat.zero_add]
  | cons c rest ih => rw [List.cons_append, size, size, ih, Nat.add_assoc]

/-- The path has no more bytes than a path may have. -/
def Path.Fits (path : Path) : Prop := Utf8.size path.text ≤ maxSize

/-- The path of an entry is longer by its name and a slash at most. -/
theorem Path.size_text_entry_le (path : Path) (name : Text) :
    Utf8.size (path.entry name).text ≤ Utf8.size path.text + (1 + Utf8.size name) := by
  have hslash : Utf8.size "/" = 1 := by decide
  by_cases hparts : path.parts = []
  · have htext : (path.entry name).text = path.root ++ name := by simp [text, entry, hparts, Text.join]
    have hroot : Utf8.size path.root ≤ Utf8.size path.text := by
      rw [text]
      split
      · next hempty => simp_all [Utf8.size]
      · rw [Utf8.size_append]
        exact Nat.le_add_right _ _
    rw [htext, Utf8.size_append]
    omega
  · have htext : (path.entry name).text = path.text ++ "/" ++ name := by
      simp [text, entry, hparts, Text.join_concat]
    rw [htext, Utf8.size_append, Utf8.size_append, hslash]
    omega

namespace FileNode

/-- The components lead from the node down to the other one. -/
inductive Leads : FileNode → List Text → FileNode → Prop where
  | here (node : FileNode) : Leads node [] node
  | entry {entries : List (Text × FileNode)} {name : Text} {next target : FileNode} {parts : List Text}
      (hmem : (name, next) ∈ entries) (h : Leads next parts target) :
      Leads (.directory entries) (name :: parts) target

/-- A walk through the node at a path comes to its end: every path below fits, and there is room for all directories
    that lie inside one another. -/
structure IsWalkable (room : Nat) (path : Path) (node : FileNode) : Prop where
  fits : ∀ parts target, parts ≠ [] → node.Leads parts target → Path.Fits ⟨path.root, path.parts ++ parts⟩
  depth : ∀ parts entries, node.Leads parts (.directory entries) → parts.length < room

/-- What is first in the way of a walk through the node at a path. -/
inductive StopsWalk : Nat → Path → FileNode → ListingError → Prop where
  /-- The path of an entry does not fit. -/
  | tooLong {room : Nat} {path : Path} {entries before : List (Text × FileNode)} {entry : Text × FileNode}
      (hentry : Reaches (fun earlier => (path.entry earlier.1).Fits) entries before entry)
      (hlong : ¬ (path.entry entry.1).Fits) :
      StopsWalk room path (.directory entries) (.file (.path .nameTooLong (path.entry entry.1).text))
  /-- There is no room for one more directory. -/
  | tooDeep {path : Path} {entries : List (Text × FileNode)}
      (hfits : ∀ entry ∈ entries, (path.entry entry.1).Fits) :
      StopsWalk 0 path (.directory entries) .nestedTooDeeply
  /-- The walk goes down, and something is in its way there. -/
  | inside {room : Nat} {path : Path} {entries before : List (Text × FileNode)} {entry : Text × FileNode}
      {error : ListingError} (hfits : ∀ entry ∈ entries, (path.entry entry.1).Fits)
      (hentry : Reaches (fun earlier => earlier.2.IsWalkable room (path.entry earlier.1)) entries before entry)
      (h : StopsWalk room (path.entry entry.1) entry.2 error) : StopsWalk (room + 1) path (.directory entries) error

theorem leads_nil_iff {node target : FileNode} : node.Leads [] target ↔ target = node := by
  constructor
  · rintro ⟨⟩
    rfl
  · rintro rfl
    exact .here target

/-- Components lead into a directory by way of one of its entries. -/
theorem leads_cons_iff {entries : List (Text × FileNode)} {name : Text} {parts : List Text} {target : FileNode} :
    (directory entries).Leads (name :: parts) target ↔
      ∃ next, (name, next) ∈ entries ∧ next.Leads parts target := by
  constructor
  · rintro (_ | ⟨hmem, h⟩)
    exact ⟨_, hmem, h⟩
  · rintro ⟨next, hmem, h⟩
    exact .entry hmem h

variable {room : Nat} {path : Path} {entries : List (Text × FileNode)}

theorem isWalkable_file (room : Nat) (path : Path) (content : Bytes) : (file content).IsWalkable room path where
  fits := by
    rintro parts target hne ⟨⟩
    exact absurd rfl hne
  depth := by rintro parts entries ⟨⟩

/-- A walk through a directory needs room for the directory itself, and then comes to the end of every entry. -/
theorem isWalkable_directory_iff :
    (directory entries).IsWalkable room path ↔
      (∀ entry ∈ entries, (path.entry entry.1).Fits) ∧
        ∃ further, room = further + 1 ∧ ∀ entry ∈ entries, entry.2.IsWalkable further (path.entry entry.1) := by
  have hpath : ∀ (name : Text) (parts : List Text),
      (⟨(path.entry name).root, (path.entry name).parts ++ parts⟩ : Path) =
        ⟨path.root, path.parts ++ name :: parts⟩ := by
    intro name parts
    rw [Path.entry, List.append_assoc, List.singleton_append]
  constructor
  · intro h
    obtain ⟨further, rfl⟩ := Nat.exists_eq_add_of_lt (h.depth [] entries (.here _))
    rw [List.length_nil, Nat.zero_add] at h
    refine ⟨fun entry hentry => h.fits [entry.1] entry.2 (List.cons_ne_nil _ _) (.entry hentry (.here _)),
      further, by rw [List.length_nil, Nat.zero_add], fun entry hentry => ⟨fun parts target _ hleads => ?_, ?_⟩⟩
    · rw [hpath]
      exact h.fits (entry.1 :: parts) target (List.cons_ne_nil _ _) (.entry hentry hleads)
    · intro parts below hleads
      exact Nat.lt_of_succ_lt_succ (h.depth (entry.1 :: parts) below (.entry hentry hleads))
  · rintro ⟨hfits, further, rfl, hentries⟩
    constructor
    case fits =>
      intro parts target hne hleads
      cases hleads with
      | here => exact absurd rfl hne
      | @entry _ name next _ parts hmem hleads =>
        by_cases hparts : parts = []
        · subst hparts
          exact hfits _ hmem
        · rw [← hpath]
          exact (hentries _ hmem).fits parts target hparts hleads
    case depth =>
      intro parts below hleads
      cases hleads with
      | here => exact Nat.succ_pos further
      | entry hmem hleads => exact Nat.succ_lt_succ ((hentries _ hmem).depth _ below hleads)

/-- An entry is in the way by its path, for want of room, or by what lies below it. -/
theorem stopsWalk_directory_iff {error : ListingError} :
    (directory entries).StopsWalk room path error ↔
      (∃ before entry, Reaches (fun earlier => (path.entry earlier.1).Fits) entries before entry ∧
          ¬ (path.entry entry.1).Fits ∧ error = .file (.path .nameTooLong (path.entry entry.1).text)) ∨
        (∀ entry ∈ entries, (path.entry entry.1).Fits) ∧
          (room = 0 ∧ error = .nestedTooDeeply ∨ ∃ further, room = further + 1 ∧ ∃ before entry,
            Reaches (fun earlier => earlier.2.IsWalkable further (path.entry earlier.1)) entries before entry ∧
              entry.2.StopsWalk further (path.entry entry.1) error) := by
  constructor
  · rintro (⟨hentry, hlong⟩ | hfits | ⟨hfits, hentry, h⟩)
    · exact .inl ⟨_, _, hentry, hlong, rfl⟩
    · exact .inr ⟨hfits, .inl ⟨rfl, rfl⟩⟩
    · exact .inr ⟨hfits, .inr ⟨_, rfl, _, _, hentry, h⟩⟩
  · rintro (⟨before, entry, hentry, hlong, rfl⟩ | ⟨hfits, ⟨rfl, rfl⟩ | ⟨further, rfl, before, entry, hentry, h⟩⟩)
    · exact .tooLong hentry hlong
    · exact .tooDeep hfits
    · exact .inside hfits hentry h

/-- No entry is found whose path is too long exactly if all of them fit. -/
theorem find?_long_eq_none_iff :
    (entries.find? fun entry => decide (Path.maxSize < Utf8.size (path.entry entry.1).text)) = none ↔
      ∀ entry ∈ entries, (path.entry entry.1).Fits := by
  simp only [List.find?_eq_none, decide_eq_true_eq, Nat.not_lt, Path.Fits]

/-- The first entry whose path is too long comes behind entries whose paths fit. -/
theorem find?_long_eq_some_iff {entry : Text × FileNode} :
    (entries.find? fun entry => decide (Path.maxSize < Utf8.size (path.entry entry.1).text)) = some entry ↔
      ∃ before, Reaches (fun earlier => (path.entry earlier.1).Fits) entries before entry ∧
        ¬ (path.entry entry.1).Fits := by
  simp only [List.find?_eq_some_iff_append, Bool.not_eq_true', decide_eq_true_eq, decide_eq_false_iff_not,
    Nat.not_lt, Path.Fits, Reaches, Nat.not_le]
  constructor
  · rintro ⟨hlong, before, after, rfl, hbefore⟩
    exact ⟨before, ⟨⟨after, rfl⟩, hbefore⟩, hlong⟩
  · rintro ⟨before, ⟨⟨after, rfl⟩, hbefore⟩, hlong⟩
    exact ⟨hlong, before, after, rfl, hbefore⟩

mutual

/-- Nothing stops a walk exactly if it comes to its end. -/
theorem obstacle?_eq_none_iff {room : Nat} {path : Path} : (node : FileNode) →
    (obstacle? room path node = none ↔ node.IsWalkable room path)
  | .file content => iff_of_true (by rw [obstacle?]) (isWalkable_file room path content)
  | .directory entries => by
    rw [isWalkable_directory_iff]
    unfold obstacle?
    split
    · next name next hfound =>
      obtain ⟨_, ⟨⟨after, rfl⟩, _⟩, hlong⟩ := find?_long_eq_some_iff.mp hfound
      exact iff_of_false (fun h => by cases h) fun h => hlong (h.1 _ (by simp))
    · next hnone =>
      rw [and_iff_right (find?_long_eq_none_iff.mp hnone)]
      cases room with
      | zero => exact iff_of_false (fun h => by cases h) (by rintro ⟨_, ⟨⟩, _⟩)
      | succ further =>
        rw [obstacleOfEntries?_eq_none_iff entries]
        exact ⟨fun h => ⟨further, rfl, h⟩, fun ⟨_, hroom, h⟩ => by cases hroom; exact h⟩

/-- Nothing stops a walk through entries exactly if each of them can be walked. -/
theorem obstacleOfEntries?_eq_none_iff {room : Nat} {path : Path} : (entries : List (Text × FileNode)) →
    (obstacleOfEntries? room path entries = none ↔
      ∀ entry ∈ entries, entry.2.IsWalkable room (path.entry entry.1))
  | [] => iff_of_true (by rw [obstacleOfEntries?]) (List.forall_mem_nil _)
  | (name, node) :: rest => by
    rw [obstacleOfEntries?, Option.or_eq_none_iff, obstacle?_eq_none_iff node, obstacleOfEntries?_eq_none_iff rest,
      List.forall_mem_cons]

end

mutual

/-- What stops a walk is what is first in its way. -/
theorem obstacle?_eq_some_iff {room : Nat} {path : Path} {error : ListingError} : (node : FileNode) →
    (obstacle? room path node = some error ↔ node.StopsWalk room path error)
  | .file content => iff_of_false (by rw [obstacle?]; exact fun h => by cases h) (by rintro ⟨⟩)
  | .directory entries => by
    rw [stopsWalk_directory_iff]
    unfold obstacle?
    split
    · next name next hfound =>
      obtain ⟨before, hreaches, hlong⟩ := find?_long_eq_some_iff.mp hfound
      constructor
      · intro h
        exact .inl ⟨before, _, hreaches, hlong, (Option.some.inj h).symm⟩
      · rintro (⟨before', entry, hreaches', hlong', rfl⟩ | ⟨hfits, _⟩)
        · obtain rfl := Option.some.inj (hfound.symm.trans (find?_long_eq_some_iff.mpr ⟨before', hreaches', hlong'⟩))
          rfl
        · obtain ⟨⟨after, rfl⟩, _⟩ := hreaches
          exact absurd (hfits _ (by simp)) hlong
    · next hnone =>
      have hfits := find?_long_eq_none_iff.mp hnone
      have hshort : ¬ ∃ before entry, Reaches (fun earlier => (path.entry earlier.1).Fits) entries before entry ∧
          ¬ (path.entry entry.1).Fits ∧ error = .file (.path .nameTooLong (path.entry entry.1).text) := by
        rintro ⟨before, entry, ⟨⟨after, rfl⟩, _⟩, hlong, _⟩
        exact hlong (hfits entry (by simp))
      rw [or_iff_right hshort, and_iff_right hfits]
      cases room with
      | zero => simp [eq_comm]
      | succ further =>
        rw [obstacleOfEntries?_eq_some_iff entries]
        simp

/-- A walk through entries is stopped in the first one that cannot be walked. -/
theorem obstacleOfEntries?_eq_some_iff {room : Nat} {path : Path} {error : ListingError} :
    (entries : List (Text × FileNode)) →
    (obstacleOfEntries? room path entries = some error ↔ ∃ before entry,
      Reaches (fun earlier => earlier.2.IsWalkable room (path.entry earlier.1)) entries before entry ∧
        entry.2.StopsWalk room (path.entry entry.1) error)
  | [] => by
    rw [obstacleOfEntries?]
    exact iff_of_false (fun h => by cases h) not_exists_reaches_nil
  | (name, node) :: rest => by
    rw [obstacleOfEntries?, Option.or_eq_some_iff, obstacle?_eq_some_iff node, obstacle?_eq_none_iff node,
      obstacleOfEntries?_eq_some_iff rest, exists_reaches_cons_iff]

end

/-- A walk comes to its end, or there is something in its way. -/
theorem isWalkable_or_stopsWalk (room : Nat) (path : Path) (node : FileNode) :
    node.IsWalkable room path ∨ ∃ error, node.StopsWalk room path error := by
  cases hobstacle : obstacle? room path node with
  | none => exact .inl ((obstacle?_eq_none_iff node).mp hobstacle)
  | some error => exact .inr ⟨error, (obstacle?_eq_some_iff node).mp hobstacle⟩

/-- The first entry is in the way at once if its path does not fit. -/
theorem StopsWalk.of_first {name : Text} (room : Nat) (node : FileNode) (rest : List (Text × FileNode))
    (hlong : ¬ (path.entry name).Fits) :
    (directory ((name, node) :: rest)).StopsWalk room path
      (.file (.path .nameTooLong (path.entry name).text)) := by
  have hfirst : Reaches (fun earlier : Text × FileNode => (path.entry earlier.1).Fits) ((name, node) :: rest) []
      (name, node) := ⟨⟨rest, rfl⟩, List.forall_mem_nil _⟩
  exact .tooLong hfirst hlong

/-- A directory in which directories with the same name lie inside one another; the last of them is empty. -/
def nested (name : Text) : Nat → FileNode
  | 0 => .directory []
  | n + 1 => .directory [(name, nested name n)]

/-- Nested directories are in the way of a walk that has no room for the last of them. -/
theorem stopsWalk_nested {name : Text} (room : Nat) {path : Path}
    (hsize : Utf8.size path.text + room * (1 + Utf8.size name) ≤ Path.maxSize) :
    (nested name room).StopsWalk room path .nestedTooDeeply := by
  induction room generalizing path with
  | zero => exact .tooDeep (List.forall_mem_nil _)
  | succ room ih =>
    have hentry := path.size_text_entry_le name
    rw [Nat.succ_mul] at hsize
    have hfits : (path.entry name).Fits := by
      rw [Path.Fits]
      omega
    have hbelow : (nested name room).StopsWalk room (path.entry name) .nestedTooDeeply := ih (by omega)
    exact .inside (List.forall_mem_singleton.mpr hfits) ⟨⟨[], rfl⟩, List.forall_mem_nil _⟩ hbelow

/-- Only one thing is first in the way of a walk. -/
theorem StopsWalk.unique {node : FileNode} {error error' : ListingError} (h : node.StopsWalk room path error)
    (h' : node.StopsWalk room path error') : error = error' :=
  Option.some.inj (((obstacle?_eq_some_iff node).mpr h).symm.trans ((obstacle?_eq_some_iff node).mpr h'))

end FileNode

end TemplateAudit
