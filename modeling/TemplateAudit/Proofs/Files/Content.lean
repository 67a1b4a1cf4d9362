import Mathlib
import TemplateAudit.Files.Tree

namespace TemplateAudit

/-- The component that leads to the directory above. -/
abbrev Path.up : Text := ['.', '.']

/-- No step up is left in a path without them. -/
theorem Path.up_not_mem_withoutUps (parts : List Text) : up ∉ withoutUps parts := by
  have hfold : ∀ kept : List Text, up ∉ kept →
      up ∉ parts.foldl (fun kept part => if part == up then kept.dropLast else kept ++ [part]) kept := by
    induction parts with
    | nil => exact fun _ hkept => hkept
    | cons part rest ih =>
      intro kept hkept
      rw [List.foldl_cons]
      apply ih
      split_ifs with hup
      · exact fun hmem => hkept (List.mem_of_mem_dropLast hmem)
      · have hne : up ≠ part := fun heq => hup (beq_iff_eq.mpr heq.symm)
        exact fun hmem => (List.mem_append.mp hmem).elim hkept fun hlast => hne (List.mem_singleton.mp hlast)
  exact hfold [] List.not_mem_nil

namespace FileNode

/-- The content of the file to which names lead from a node. -/
def contentAt? (node : FileNode) : List Text → Option Bytes
  | [] =>
    match node with
    | .file content => some content
    | .directory _ => none
  | name :: rest =>
    match node with
    | .file _ => none
    | .directory entries => (entries.lookup name).bind fun next => next.contentAt? rest

/-- An entry that is put into a directory is found there. -/
theorem lookup_withEntry_self (name : Text) (node : FileNode) (entries : List (Text × FileNode)) :
    (withEntry name node entries).lookup name = some node := by
  induction entries with
  | nil => simp [withEntry]
  | cons entry rest ih =>
    rw [withEntry]
    split_ifs with hname
    · simp
    · rw [List.lookup_cons, beq_false_of_ne (Ne.symm hname)]
      exact ih

/-- All other entries stay as they are. -/
theorem lookup_withEntry_of_ne {name other : Text} (h : other ≠ name) (node : FileNode)
    (entries : List (Text × FileNode)) : (withEntry name node entries).lookup other = entries.lookup other := by
  induction entries with
  | nil => simp [withEntry, h]
  | cons entry rest ih =>
    rw [withEntry]
    split_ifs with hname
    · rw [List.lookup_cons, List.lookup_cons, hname, beq_false_of_ne h]
    · rw [List.lookup_cons, List.lookup_cons, ih]

/-- What appending to a file does to it, and that it could be done: the file is there or can be made. -/
theorem append_cases {content : Bytes} {node after : FileNode} {part : Text} {rest : List Text}
    (h : append content node (part :: rest) = .ok after) :
    ∃ entries, node = .directory entries ∧ Utf8.size part ≤ Path.maxNameSize ∧
      ((∃ next updated, entries.lookup part = some next ∧ append content next rest = .ok updated ∧
          after = .directory (withEntry part updated entries)) ∨
        (entries.lookup part = none ∧ rest = [] ∧
          after = .directory (withEntry part (.file content) entries))) := by
  cases node with
  | file old => cases h
  | directory entries =>
    rw [append] at h
    split at h
    · cases h
    next hsize =>
    refine ⟨entries, rfl, Nat.le_of_not_lt hsize, ?_⟩
    split at h
    · next next hnext =>
      cases hupdated : append content next rest with
      | error fault =>
        rw [hupdated] at h
        cases h
      | ok updated =>
        rw [hupdated] at h
        exact .inl ⟨next, updated, hnext, hupdated, (Except.ok.inj h).symm⟩
    · next hnone =>
      split at h
      · next hrest => exact .inr ⟨hnone, List.isEmpty_iff.mp hrest, (Except.ok.inj h).symm⟩
      · cases h

/-- Only the file at the given names gets more content, and it gets it at its end. -/
theorem contentAt?_append {content : Bytes} {node after : FileNode} {names : List Text}
    (h : append content node names = .ok after) :
    after.contentAt? names = some ((node.contentAt? names).getD [] ++ content) ∧
      ∀ other, other ≠ names → after.contentAt? other = node.contentAt? other := by
  induction names generalizing node after with
  | nil =>
    cases node with
    | file old =>
      obtain rfl := Except.ok.inj h
      refine ⟨rfl, fun other hother => ?_⟩
      obtain ⟨name, rest, rfl⟩ := List.exists_cons_of_ne_nil hother
      rfl
    | directory entries => cases h
  | cons part rest ih =>
    obtain ⟨entries, rfl, _, ⟨next, updated, hnext, hupdated, rfl⟩ | ⟨hnone, rfl, rfl⟩⟩ := append_cases h
    · obtain ⟨hthere, helsewhere⟩ := ih hupdated
      refine ⟨?_, fun other hother => ?_⟩
      · simpa [contentAt?, lookup_withEntry_self, hnext] using hthere
      · cases other with
        | nil => rfl
        | cons name other =>
          by_cases hname : name = part
          · subst hname
            have hne : other ≠ rest := fun heq => hother (by rw [heq])
            simpa [contentAt?, lookup_withEntry_self, hnext] using helsewhere other hne
          · simp [contentAt?, lookup_withEntry_of_ne hname]
    · refine ⟨by simp [contentAt?, lookup_withEntry_self, hnone], fun other hother => ?_⟩
      cases other with
      | nil => rfl
      | cons name other =>
        by_cases hname : name = part
        · subst hname
          have hne : other ≠ [] := fun heq => hother (by rw [heq])
          obtain ⟨next, later, rfl⟩ := List.exists_cons_of_ne_nil hne
          simp [contentAt?, lookup_withEntry_self, hnone]
        · simp [contentAt?, lookup_withEntry_of_ne hname]

/-- Appending succeeds only along names that are short enough. -/
theorem size_le_of_append {content : Bytes} {node after : FileNode} {names : List Text}
    (h : append content node names = .ok after) : ∀ name ∈ names, Utf8.size name ≤ Path.maxNameSize := by
  induction names generalizing node after with
  | nil => exact List.forall_mem_nil _
  | cons part rest ih =>
    obtain ⟨entries, _, hsize, ⟨next, updated, _, hupdated, _⟩ | ⟨_, rfl, _⟩⟩ := append_cases h
    · exact List.forall_mem_cons.mpr ⟨hsize, ih hupdated⟩
    · exact List.forall_mem_singleton.mpr hsize

/-- A file that is there can get more content. -/
theorem exists_append_of_contentAt? {node : FileNode} {names : List Text} {content : Bytes}
    (h : node.contentAt? names = some content) (hsize : ∀ name ∈ names, Utf8.size name ≤ Path.maxNameSize)
    (more : Bytes) : ∃ after, append more node names = .ok after := by
  induction names generalizing node with
  | nil =>
    cases node with
    | file old => exact ⟨_, rfl⟩
    | directory entries => cases h
  | cons part rest ih =>
    cases node with
    | file old => cases h
    | directory entries =>
      obtain ⟨hpart, hrest⟩ := List.forall_mem_cons.mp hsize
      obtain ⟨next, hnext, hcontent⟩ := Option.bind_eq_some_iff.mp h
      obtain ⟨updated, hupdated⟩ := ih hcontent hrest
      rw [append, if_neg (Nat.not_lt.mpr hpart), hnext]
      simp only [hupdated]
      exact ⟨_, rfl⟩

/-- Without double dots, a path leads to a file exactly if its components do and none is too long. -/
theorem follow_eq_ok_file_iff (ancestors : List FileNode) {node : FileNode} {parts : List Text}
    (hups : Path.up ∉ parts) {content : Bytes} :
    follow ancestors node parts = .ok (.file content) ↔
      (∀ part ∈ parts, Utf8.size part ≤ Path.maxNameSize) ∧ node.contentAt? parts = some content := by
  induction parts generalizing ancestors node with
  | nil => cases node <;> simp [follow, contentAt?]
  | cons part rest ih =>
    obtain ⟨hpart, hrest⟩ := not_or.mp (mt List.mem_cons.mpr hups)
    cases node with
    | file old => simp [follow, contentAt?]
    | directory entries =>
      rw [follow.eq_def, List.forall_mem_cons]
      simp only [beq_false_of_ne (Ne.symm hpart), Bool.false_eq_true, if_false]
      by_cases hsize : Path.maxNameSize < Utf8.size part
      · simp [hsize]
      · cases hnext : entries.lookup part with
        | none => simp [hsize, contentAt?, hnext]
        | some next => simp [hsize, contentAt?, hnext, ih _ hrest, Nat.not_lt.mp hsize]

end FileNode

namespace FileSystem

variable {files after : FileSystem} {path : Path}

/-- A file can be read at an absolute path without double dots exactly if the path can be asked for and its
    components lead to the file. -/
theorem readBytes_eq_ok_iff (habsolute : path.isAbsolute = true) (hups : Path.up ∉ path.parts)
    {content : Bytes} :
    files.readBytes path = .ok content ↔
      path.isNullFree = true ∧ Utf8.size path.text ≤ Path.maxSize ∧
        (∀ part ∈ path.parts, Utf8.size part ≤ Path.maxNameSize) ∧
        files.root.contentAt? path.parts = some content := by
  rw [← FileNode.follow_eq_ok_file_iff [] hups, readBytes, node, Path.join, if_pos habsolute]
  by_cases hnull : path.isNullFree = true
  · by_cases hsize : Path.maxSize < Utf8.size path.text
    · simp [hnull, hsize]
    · cases hfollow : FileNode.follow [] files.root path.parts with
      | error fault => simp [hnull, hsize, Except.mapError]
      | ok node => cases node <;> simp [hnull, hsize, Except.mapError, Nat.not_lt.mp hsize]
  · simp [hnull]

/-- A file that can be read can get more content. -/
theorem exists_appendText_of_readBytes (habsolute : path.isAbsolute = true) (hups : Path.up ∉ path.parts)
    {content : Bytes} (h : files.readBytes path = .ok content) (text : Text) :
    ∃ after, files.appendText path text = .ok after := by
  obtain ⟨hnull, hsize, hnames, hcontent⟩ := (readBytes_eq_ok_iff habsolute hups).mp h
  obtain ⟨root, hroot⟩ := FileNode.exists_append_of_contentAt? hcontent hnames (Utf8.encode text)
  rw [appendText, hnull, if_neg (by decide), if_neg (Nat.not_lt.mpr hsize), hroot]
  exact ⟨_, rfl⟩

/-- Every file is still there, and starts with what it held. -/
def Keeps (before after : FileSystem) : Prop :=
  ∀ (path : Path) (content : Bytes), path.isAbsolute = true → Path.up ∉ path.parts →
    before.readBytes path = .ok content → ∃ added, after.readBytes path = .ok (content ++ added)

theorem Keeps.refl (files : FileSystem) : Keeps files files :=
  fun _ content _ _ hread => ⟨[], by rw [hread, List.append_nil]⟩

theorem Keeps.trans {first second third : FileSystem} (h : Keeps first second) (h' : Keeps second third) :
    Keeps first third := by
  intro path content habsolute hups hread
  obtain ⟨added, hread⟩ := h path content habsolute hups hread
  obtain ⟨more, hread⟩ := h' path _ habsolute hups hread
  exact ⟨added ++ more, by rw [hread, List.append_assoc]⟩

section Append

variable {text : Text} (h : files.appendText path text = .ok after)

include h

/-- Text that is appended changes the tree at the path, and nothing else. -/
theorem appendText_eq_ok : path.isNullFree = true ∧ Utf8.size path.text ≤ Path.maxSize ∧
    after.current = files.current ∧ files.root.append (Utf8.encode text) path.parts = .ok after.root := by
  unfold appendText at h
  split_ifs at h with hnull hsize
  cases happend : files.root.append (Utf8.encode text) path.parts with
  | error fault =>
    rw [happend] at h
    cases h
  | ok root =>
    rw [happend] at h
    obtain rfl := Except.ok.inj h
    exact ⟨by simpa using hnull, Nat.le_of_not_lt hsize, rfl, rfl⟩

theorem readBytes_iff_of_appendText {other : Path} (habsolute : other.isAbsolute = true)
    (hups : Path.up ∉ other.parts) (hne : other.parts ≠ path.parts) {content : Bytes} :
    after.readBytes other = .ok content ↔ files.readBytes other = .ok content := by
  obtain ⟨_, _, _, happend⟩ := appendText_eq_ok h
  rw [readBytes_eq_ok_iff habsolute hups, readBytes_eq_ok_iff habsolute hups,
    (FileNode.contentAt?_append happend).2 _ hne]

/-- No content is lost by appending. -/
theorem keeps_of_appendText : Keeps files after := by
  intro other content hother hotherUps hread
  by_cases hparts : other.parts = path.parts
  · obtain ⟨_, _, _, happend⟩ := appendText_eq_ok h
    obtain ⟨hnull, hsize, hnames, hcontent⟩ := (readBytes_eq_ok_iff hother hotherUps).mp hread
    refine ⟨Utf8.encode text, (readBytes_eq_ok_iff hother hotherUps).mpr ⟨hnull, hsize, hnames, ?_⟩⟩
    rw [hparts] at hcontent ⊢
    rw [(FileNode.contentAt?_append happend).1, hcontent, Option.getD_some]
  · exact ⟨[], by rw [(readBytes_iff_of_appendText h hother hotherUps hparts).mpr hread, List.append_nil]⟩

variable (habsolute : path.isAbsolute = true) (hups : Path.up ∉ path.parts)

include habsolute hups

theorem readBytes_of_appendText :
    after.readBytes path =
      .ok ((files.root.contentAt? path.parts).getD [] ++ Utf8.encode text) := by
  obtain ⟨hnull, hsize, _, happend⟩ := appendText_eq_ok h
  exact (readBytes_eq_ok_iff habsolute hups).mpr ⟨hnull, hsize, FileNode.size_le_of_append happend,
    (FileNode.contentAt?_append happend).1⟩

end Append

end FileSystem

end TemplateAudit
