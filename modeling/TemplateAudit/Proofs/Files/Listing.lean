import Mathlib.Data.List.Nodup
import TemplateAudit.Proofs.Files.Templates
import TemplateAudit.Proofs.Text.Run

namespace TemplateAudit

namespace Path

/-- What counts as the suffix of a name: its end from the last dot on, if something stands on either side of that
    dot, and nothing otherwise. -/
inductive IsSuffixOf : Text → Text → Prop where
  | dotted {stem extension : Text} (hstem : stem ≠ []) (hextension : extension ≠ []) (hlast : '.' ∉ extension) :
      IsSuffixOf ('.' :: extension) (stem ++ '.' :: extension)
  | undotted {name : Text} (h : ∀ stem extension, stem ≠ [] → extension ≠ [] → '.' ∉ extension →
      name ≠ stem ++ '.' :: extension) : IsSuffixOf [] name

/-- The suffix of a name starts at its last point, unless that is the first or the last character. -/
theorem suffixOf_append {extension : Text} (hlast : '.' ∉ extension) (stem : Text) :
    suffixOf (stem ++ '.' :: extension) = if stem = [] ∨ extension = [] then [] else '.' :: extension := by
  have hrun : Text.IsLongestRun (· != '.') extension.reverse ('.' :: stem.reverse) := by
    refine ⟨fun c hc => ?_, fun c hc => ?_⟩
    · rw [bne_iff_ne]
      rintro rfl
      exact hlast (List.mem_reverse.mp hc)
    · obtain rfl : '.' = c := Option.some.inj hc
      rfl
  have hreverse : (stem ++ '.' :: extension).reverse = extension.reverse ++ '.' :: stem.reverse := by simp
  rw [suffixOf, hreverse, hrun.takeWhile_eq, hrun.dropWhile_eq]
  by_cases hstem : stem = []
  · simp [hstem]
  · by_cases hextension : extension = []
    · simp [hextension]
    · simp [hstem, hextension]

/-- Every name has the suffix that is computed. -/
theorem isSuffixOf_suffixOf (name : Text) : IsSuffixOf (suffixOf name) name := by
  by_cases hdot : '.' ∈ name
  · obtain ⟨after, before, hreverse, hlast⟩ := List.eq_append_cons_of_mem (List.mem_reverse.mpr hdot)
    obtain rfl : name = before.reverse ++ '.' :: after.reverse := by
      rw [← List.reverse_reverse name, hreverse]
      simp
    have hlast : '.' ∉ after.reverse := by simpa using hlast
    have hsuffix := suffixOf_append hlast before.reverse
    split at hsuffix
    · next hempty =>
      rw [hsuffix]
      refine .undotted fun stem extension hstem hextension hnone heq => ?_
      rw [heq, suffixOf_append hnone, if_neg (by simp [hstem, hextension])] at hsuffix
      cases hsuffix
    · next hfull =>
      rw [not_or] at hfull
      rw [hsuffix]
      exact .dotted hfull.1 hfull.2 hlast
  · have hnone : suffixOf name = [] := by simp [suffixOf, hdot]
    rw [hnone]
    refine .undotted fun stem extension _ _ _ heq => hdot ?_
    rw [heq]
    simp

/-- A name has one suffix. -/
theorem isSuffixOf_iff {suffix name : Text} : IsSuffixOf suffix name ↔ suffix = suffixOf name := by
  constructor
  · rintro (⟨hstem, hextension, hlast⟩ | hundotted)
    · rw [suffixOf_append hlast, if_neg (by simp [hstem, hextension])]
    · have hsuffix := isSuffixOf_suffixOf name
      generalize suffixOf name = suffix at hsuffix ⊢
      cases hsuffix with
      | dotted hstem hextension hlast => exact absurd rfl (hundotted _ _ hstem hextension hlast)
      | undotted _ => rfl
  · rintro rfl
    exact isSuffixOf_suffixOf name

/-- The order of components is that of lists of texts. -/
theorem lt_of_partsLe {a b : List Text} (h : partsLe a b = true) (hne : a ≠ b) : a < b := by
  induction a generalizing b with
  | nil =>
    obtain ⟨first, rest, rfl⟩ := List.exists_cons_of_ne_nil (Ne.symm hne)
    exact List.Lex.nil
  | cons first rest ih =>
    cases b with
    | nil => cases h
    | cons first' rest' =>
      rw [partsLe] at h
      by_cases heq : first = first'
      · subst heq
        rw [if_pos rfl] at h
        exact List.Lex.cons (ih h fun hrest => hne (by rw [hrest]))
      · rw [if_neg heq, Text.le_iff] at h
        exact List.Lex.rel (lt_of_le_of_ne h heq)

end Path

namespace FileNode

/-- No directory at or below the node has two entries of one name. -/
def HasDistinctNames (node : FileNode) : Prop :=
  ∀ parts entries, node.Leads parts (.directory entries) → (entries.map Prod.fst).Nodup

/-- The trees have the same files and the same directories, but the directories may give their entries in another
    order. -/
structure Relisted (node other : FileNode) : Prop where
  distinct : node.HasDistinctNames
  distinct_other : other.HasDistinctNames
  files : ∀ parts content, node.Leads parts (.file content) ↔ other.Leads parts (.file content)
  directories : ∀ parts,
    (∃ entries, node.Leads parts (.directory entries)) ↔ ∃ entries, other.Leads parts (.directory entries)

theorem HasDistinctNames.nodup {entries : List (Text × FileNode)} (h : (directory entries).HasDistinctNames) :
    (entries.map Prod.fst).Nodup := h [] entries (.here _)

theorem HasDistinctNames.entry {entries : List (Text × FileNode)} (h : (directory entries).HasDistinctNames)
    {name : Text} {next : FileNode} (hmem : (name, next) ∈ entries) : next.HasDistinctNames :=
  fun parts below hleads => h (name :: parts) below (.entry hmem hleads)

theorem HasDistinctNames.tail {first : Text × FileNode} {entries : List (Text × FileNode)}
    (h : (directory (first :: entries)).HasDistinctNames) : (directory entries).HasDistinctNames := by
  intro parts below hleads
  cases parts with
  | nil =>
    obtain rfl := directory.inj (leads_nil_iff.mp hleads)
    exact h.nodup.of_cons
  | cons name parts =>
    obtain ⟨next, hmem, hleads⟩ := leads_cons_iff.mp hleads
    exact h (name :: parts) below (.entry (List.mem_cons_of_mem first hmem) hleads)

theorem hasDistinctNames_file (content : Bytes) : (file content).HasDistinctNames := by
  rintro parts entries ⟨⟩

/-- Names are distinct in a tree exactly if they are among its entries and below each of them. -/
theorem hasDistinctNames_directory_iff {entries : List (Text × FileNode)} :
    (directory entries).HasDistinctNames ↔
      (entries.map Prod.fst).Nodup ∧ ∀ entry ∈ entries, entry.2.HasDistinctNames := by
  constructor
  · exact fun h => ⟨h.nodup, fun entry hmem => h.entry hmem⟩
  · rintro ⟨hnodup, hentries⟩ parts below hleads
    cases hleads with
    | here => exact hnodup
    | entry hmem hleads => exact hentries _ hmem _ _ hleads

theorem hasDistinctNames_nested (name : Text) (n : Nat) : (nested name n).HasDistinctNames := by
  induction n with
  | zero => simp [nested, hasDistinctNames_directory_iff]
  | succ n ih => simp [nested, hasDistinctNames_directory_iff, ih]

/-- No files lie in nested directories. -/
theorem filesBelow_nested (name : Text) (n : Nat) (above : List Text) : filesBelow above (nested name n) = [] := by
  induction n generalizing above with
  | zero => rw [nested, filesBelow, filesOfEntries]
  | succ n ih => rw [nested, filesBelow, filesOfEntries, ih, filesOfEntries, List.append_nil]

/-- In a directory with distinct names, a name is looked up to what it stands for. -/
theorem lookup_eq_some_iff_mem {entries : List (Text × FileNode)} (h : (entries.map Prod.fst).Nodup) {name : Text}
    {next : FileNode} : entries.lookup name = some next ↔ (name, next) ∈ entries := by
  induction entries with
  | nil => simp
  | cons first entries ih =>
    obtain ⟨other, node⟩ := first
    obtain ⟨hnew, hrest⟩ := List.nodup_cons.mp h
    by_cases hname : name = other
    · subst hname
      have hnone : (name, next) ∉ entries := fun hmem => hnew (List.mem_map.mpr ⟨_, hmem, rfl⟩)
      simp [hnone, eq_comm]
    · have hdifferent : (name == other) = false := beq_eq_false_iff_ne.mpr hname
      simp only [List.lookup_cons, hdifferent, ih hrest]
      simp [hname]

/-- A name stands for one node. -/
theorem HasDistinctNames.eq_of_mem {entries : List (Text × FileNode)} (h : (directory entries).HasDistinctNames)
    {name : Text} {next next' : FileNode} (hmem : (name, next) ∈ entries) (hmem' : (name, next') ∈ entries) :
    next = next' := by
  have hlookup := (lookup_eq_some_iff_mem h.nodup).mpr hmem
  have hlookup' := (lookup_eq_some_iff_mem h.nodup).mpr hmem'
  exact Option.some.inj (hlookup.symm.trans hlookup')

/-- Where names are distinct, components lead to one node at most. -/
theorem Leads.unique {node target target' : FileNode} {parts : List Text} (hdistinct : node.HasDistinctNames)
    (h : node.Leads parts target) (h' : node.Leads parts target') : target = target' := by
  induction h with
  | here => exact (leads_nil_iff.mp h').symm
  | entry hmem _ ih =>
    obtain ⟨next', hmem', hleads'⟩ := leads_cons_iff.mp h'
    obtain rfl := hdistinct.eq_of_mem hmem hmem'
    exact ih (hdistinct.entry hmem) hleads'

mutual

/-- The files at or below a node are those to which components lead from it. -/
theorem mem_filesBelow {above parts : List Text} : (node : FileNode) →
    (parts ∈ filesBelow above node ↔ ∃ below content, parts = above ++ below ∧ node.Leads below (.file content))
  | .file content => by
    rw [filesBelow, List.mem_singleton]
    constructor
    · rintro rfl
      exact ⟨[], content, (List.append_nil _).symm, .here _⟩
    · rintro ⟨below, _, rfl, hleads⟩
      cases hleads
      exact List.append_nil _
  | .directory entries => by
    rw [filesBelow]
    exact mem_filesOfEntries entries

/-- The files below entries are those to which names lead from them. -/
theorem mem_filesOfEntries {above parts : List Text} : (entries : List (Text × FileNode)) →
    (parts ∈ filesOfEntries above entries ↔
      ∃ below content, parts = above ++ below ∧ (directory entries).Leads below (.file content))
  | [] => by
    rw [filesOfEntries]
    constructor
    · exact fun h => absurd h List.not_mem_nil
    · rintro ⟨below, content, _, ⟨⟩⟩
      contradiction
  | (name, node) :: rest => by
    rw [filesOfEntries, List.mem_append, mem_filesBelow node, mem_filesOfEntries rest]
    constructor
    · rintro (⟨below, content, rfl, hleads⟩ | ⟨below, content, rfl, hleads⟩)
      · exact ⟨name :: below, content, by simp, .entry List.mem_cons_self hleads⟩
      · refine ⟨below, content, rfl, ?_⟩
        cases hleads with
        | entry hmem h => exact .entry (List.mem_cons_of_mem _ hmem) h
    · rintro ⟨below, content, rfl, hleads⟩
      cases hleads with
      | entry hmem h =>
        obtain heq | hmem := List.mem_cons.mp hmem
        · obtain ⟨rfl, rfl⟩ := Prod.mk.inj heq
          exact .inl ⟨_, content, by simp, h⟩
        · exact .inr ⟨_, content, rfl, .entry hmem h⟩

end

mutual

/-- Where names are distinct, no file is listed twice. -/
theorem nodup_filesBelow (above : List Text) : (node : FileNode) → node.HasDistinctNames →
    (filesBelow above node).Nodup
  | .file _, _ => by
    rw [filesBelow]
    exact List.nodup_singleton above
  | .directory entries, h => by
    rw [filesBelow]
    exact nodup_filesOfEntries above entries h

/-- Where names are distinct, no file is listed twice. -/
theorem nodup_filesOfEntries (above : List Text) : (entries : List (Text × FileNode)) →
    (directory entries).HasDistinctNames → (filesOfEntries above entries).Nodup
  | [], _ => by
    rw [filesOfEntries]
    exact List.nodup_nil
  | (name, node) :: rest, h => by
    rw [filesOfEntries]
    refine (nodup_filesBelow _ node (h.entry List.mem_cons_self)).append (nodup_filesOfEntries above rest h.tail) ?_
    -- The component behind `above` tells the files of different entries apart.
    intro parts hfirst hlater
    obtain ⟨below, _, rfl, _⟩ := (mem_filesBelow node).mp hfirst
    obtain ⟨below', _, heq, hleads⟩ := (mem_filesOfEntries rest).mp hlater
    rw [List.append_assoc, List.singleton_append] at heq
    obtain rfl := List.append_cancel_left heq
    obtain ⟨next, hmem, _⟩ := leads_cons_iff.mp hleads
    exact (List.nodup_cons.mp h.nodup).1 (List.mem_map.mpr ⟨_, hmem, rfl⟩)

end

namespace Relisted

theorem symm {node other : FileNode} (h : Relisted node other) : Relisted other node where
  distinct := h.distinct_other
  distinct_other := h.distinct
  files := fun parts content => (h.files parts content).symm
  directories := fun parts => (h.directories parts).symm

/-- A directory may give its entries in any order. -/
theorem of_perm {entries entries' : List (Text × FileNode)} (hdistinct : (directory entries).HasDistinctNames)
    (hperm : entries.Perm entries') : Relisted (.directory entries) (.directory entries') := by
  have hleads : ∀ name parts target, (directory entries).Leads (name :: parts) target ↔
      (directory entries').Leads (name :: parts) target := by
    intro name parts target
    simp only [leads_cons_iff, hperm.mem_iff]
  constructor
  case distinct => exact hdistinct
  case distinct_other =>
    obtain ⟨hnodup, hentries⟩ := hasDistinctNames_directory_iff.mp hdistinct
    refine hasDistinctNames_directory_iff.mpr ⟨(hperm.map Prod.fst).nodup_iff.mp hnodup, fun entry hmem => ?_⟩
    exact hentries entry (hperm.mem_iff.mpr hmem)
  case files =>
    intro parts content
    cases parts with
    | nil => simp [leads_nil_iff]
    | cons name parts => exact hleads name parts _
  case directories =>
    intro parts
    cases parts with
    | nil => simp [leads_nil_iff]
    | cons name parts => simp only [hleads]

theorem of_file {content : Bytes} {other : FileNode} (h : Relisted (.file content) other) : other = .file content :=
  (leads_nil_iff.mp ((h.files [] content).mp (.here _))).symm

theorem of_directory {entries : List (Text × FileNode)} {other : FileNode} (h : Relisted (.directory entries) other) :
    ∃ entries', other = .directory entries' := by
  obtain ⟨entries', hleads⟩ := (h.directories []).mp ⟨entries, .here _⟩
  exact ⟨entries', (leads_nil_iff.mp hleads).symm⟩

variable {entries entries' : List (Text × FileNode)} {name : Text} {next next' : FileNode}

/-- A name in a directory is also in the other one, whether it stands for a file or for a directory. -/
theorem exists_entry (h : Relisted (.directory entries) (.directory entries')) (hmem : (name, next) ∈ entries) :
    ∃ next', (name, next') ∈ entries' := by
  have hentry : (directory entries).Leads [name] next := .entry hmem (.here next)
  obtain ⟨target, hleads⟩ : ∃ target, (directory entries').Leads [name] target := by
    cases next with
    | file content => exact ⟨_, (h.files [name] content).mp hentry⟩
    | directory below =>
      obtain ⟨below', hleads⟩ := (h.directories [name]).mp ⟨below, hentry⟩
      exact ⟨_, hleads⟩
  obtain ⟨next', hmem', _⟩ := leads_cons_iff.mp hleads
  exact ⟨next', hmem'⟩

/-- In a directory of distinct names a name leads to its entry and nowhere else. -/
theorem leads_iff_of_mem (hdistinct : (directory entries).HasDistinctNames) (hmem : (name, next) ∈ entries)
    (parts : List Text) (target : FileNode) :
    next.Leads parts target ↔ (directory entries).Leads (name :: parts) target := by
  rw [leads_cons_iff]
  constructor
  · exact fun h => ⟨next, hmem, h⟩
  · rintro ⟨other, hother, h⟩
    obtain rfl := hdistinct.eq_of_mem hmem hother
    exact h

/-- A walk through one of the trees comes to its end exactly if one through the other does. -/
theorem isWalkable {node other : FileNode} {room : Nat} {path : Path} (h : Relisted node other)
    (hwalk : node.IsWalkable room path) : other.IsWalkable room path where
  fits := by
    intro parts target hne hleads
    cases target with
    | file content => exact hwalk.fits parts _ hne ((h.files parts content).mpr hleads)
    | directory below =>
      obtain ⟨below', hleads'⟩ := (h.directories parts).mpr ⟨below, hleads⟩
      exact hwalk.fits parts _ hne hleads'
  depth := by
    intro parts below hleads
    obtain ⟨below', hleads'⟩ := (h.directories parts).mpr ⟨below, hleads⟩
    exact hwalk.depth parts below' hleads'

/-- What a name stands for is relisted with its directory. -/
theorem entry (h : Relisted (.directory entries) (.directory entries')) (hmem : (name, next) ∈ entries)
    (hmem' : (name, next') ∈ entries') : Relisted next next' where
  distinct := h.distinct.entry hmem
  distinct_other := h.distinct_other.entry hmem'
  files := by
    intro parts content
    rw [leads_iff_of_mem h.distinct hmem, leads_iff_of_mem h.distinct_other hmem']
    exact h.files (name :: parts) content
  directories := by
    intro parts
    simp only [leads_iff_of_mem h.distinct hmem, leads_iff_of_mem h.distinct_other hmem']
    exact h.directories (name :: parts)

/-- A name is looked up alike in both directories. -/
theorem lookup (h : Relisted (.directory entries) (.directory entries')) (name : Text) :
    Option.Rel Relisted (entries.lookup name) (entries'.lookup name) := by
  have hfound : ∀ next, entries.lookup name = some next ↔ (name, next) ∈ entries :=
    fun next => lookup_eq_some_iff_mem h.distinct.nodup
  have hfound' : ∀ next, entries'.lookup name = some next ↔ (name, next) ∈ entries' :=
    fun next => lookup_eq_some_iff_mem h.distinct_other.nodup
  cases hlookup : entries.lookup name with
  | some next =>
    have hmem := (hfound next).mp hlookup
    obtain ⟨next', hmem'⟩ := h.exists_entry hmem
    rw [(hfound' next').mpr hmem']
    exact .some (h.entry hmem hmem')
  | none =>
    cases hlookup' : entries'.lookup name with
    | none => exact .none
    | some next' =>
      obtain ⟨next, hmem⟩ := h.symm.exists_entry ((hfound' next').mp hlookup')
      rw [(hfound next).mpr hmem] at hlookup
      cases hlookup

/-- Components are followed alike in both trees: they fail for the same reason, or lead to relisted nodes. -/
theorem follow {ancestors ancestors' : List FileNode} (hancestors : List.Forall₂ Relisted ancestors ancestors')
    {node node' : FileNode} (h : Relisted node node') (parts : List Text) :
    (∃ fault, FileNode.follow ancestors node parts = .error fault ∧
        FileNode.follow ancestors' node' parts = .error fault) ∨
      ∃ found found', FileNode.follow ancestors node parts = .ok found ∧
        FileNode.follow ancestors' node' parts = .ok found' ∧ Relisted found found' := by
  induction parts generalizing ancestors ancestors' node node' with
  | nil => exact .inr ⟨node, node', rfl, rfl, h⟩
  | cons part rest ih =>
    cases node with
    | file content =>
      obtain rfl := h.of_file
      exact .inl ⟨.notDirectory, rfl, rfl⟩
    | directory entries =>
      obtain ⟨entries', rfl⟩ := h.of_directory
      simp only [FileNode.follow]
      split
      · cases hancestors with
        | nil => exact ih .nil h
        | cons hparent hfurther => exact ih hfurther hparent
      split
      · exact .inl ⟨.nameTooLong, rfl, rfl⟩
      · have hlookup := h.lookup part
        generalize entries.lookup part = next at hlookup ⊢
        generalize entries'.lookup part = next' at hlookup ⊢
        cases hlookup with
        | none => exact .inl ⟨.notFound, rfl, rfl⟩
        | some hnext => exact ih (.cons h hancestors) hnext

end Relisted

end FileNode

namespace Path

/-- Whether a file has one of the suffixes depends on its name alone, up to the case of letters. -/
theorem hasSuffix_append_iff {root : Text} {parts suffixes : List Text} {name : Text} :
    (⟨root, parts ++ [name]⟩ : Path).hasSuffix suffixes = true ↔
      ∃ suffix, IsSuffixOf suffix name ∧ ∃ wanted ∈ suffixes, suffix.lower = wanted.lower := by
  have hname : (⟨root, parts ++ [name]⟩ : Path).name = name := by simp [Path.name]
  rw [hasSuffix, suffix, hname, List.contains_iff_mem, List.mem_map]
  constructor
  · rintro ⟨wanted, hwanted, heq⟩
    exact ⟨_, isSuffixOf_suffixOf name, wanted, hwanted, heq.symm⟩
  · rintro ⟨suffix, hsuffix, wanted, hwanted, heq⟩
    obtain rfl := isSuffixOf_iff.mp hsuffix
    exact ⟨wanted, hwanted, heq.symm⟩

/-- The paths are those of the files at any depth below the node at `root` whose suffix is one of the given ones,
    letter case apart, each once and in ascending order of their components. -/
structure IsListing (root : Path) (node : FileNode) (suffixes : List Text) (found : List Path) : Prop where
  ascending : found.Pairwise fun previous next => previous.parts < next.parts
  mem_iff : ∀ path, path ∈ found ↔ ∃ above name content suffix,
    path = ⟨root.root, root.parts ++ (above ++ [name])⟩ ∧ node.Leads (above ++ [name]) (.file content) ∧
      IsSuffixOf suffix name ∧ ∃ wanted ∈ suffixes, suffix.lower = wanted.lower

/-- There is one listing of the files, in whichever order the directories give their entries. -/
theorem IsListing.eq_of_relisted {root : Path} {node other : FileNode} {suffixes : List Text}
    {found found' : List Path} (h : root.IsListing node suffixes found)
    (h' : root.IsListing other suffixes found') (hsame : node.Relisted other) : found = found' := by
  have : Std.Asymm fun previous next : Path => previous.parts < next.parts := ⟨fun _ _ => lt_asymm⟩
  have : Std.Irrefl fun previous next : Path => previous.parts < next.parts := ⟨fun _ => lt_irrefl _⟩
  refine h.ascending.eq_of_mem_iff h'.ascending fun path => ?_
  rw [h.mem_iff, h'.mem_iff]
  simp only [hsame.files]

end Path

namespace FileSystem

/-- What is collected below a directory and sorted is its listing. -/
theorem isListing_filesUnder {entries : List (Text × FileNode)}
    (hdistinct : (FileNode.directory entries).HasDistinctNames) (root : Path) (suffixes : List Text) :
    root.IsListing (.directory entries) suffixes ((root.filesUnder suffixes entries).mergeSort Path.le) := by
  refine ⟨?_, fun path => ?_⟩
  · have hinjective : Function.Injective fun parts => (⟨root.root, root.parts ++ parts⟩ : Path) := by
      intro parts parts' heq
      exact List.append_cancel_left (Path.mk.inj heq).2
    have hnodup : (root.filesUnder suffixes entries).Nodup :=
      ((FileNode.nodup_filesOfEntries [] entries hdistinct).map hinjective).filter _
    have hsorted := (Path.pairwise_mergeSort _).and ((List.mergeSort_perm _ Path.le).nodup_iff.mpr hnodup)
    refine hsorted.imp_of_mem fun {previous next} hprevious hnext hordered => ?_
    rw [List.mem_mergeSort] at hprevious hnext
    refine Path.lt_of_partsLe hordered.1 fun heq => hordered.2 ?_
    rw [Path.mk.injEq]
    exact ⟨(Path.root_of_mem_filesUnder hprevious).trans (Path.root_of_mem_filesUnder hnext).symm, heq⟩
  · rw [List.mem_mergeSort, Path.filesUnder, List.mem_filter, List.mem_map]
    constructor
    · rintro ⟨⟨parts, hparts, rfl⟩, hsuffix⟩
      obtain ⟨_, content, rfl, hleads⟩ := (FileNode.mem_filesOfEntries entries).mp hparts
      have hne : parts ≠ [] := by
        rintro rfl
        cases FileNode.leads_nil_iff.mp hleads
      obtain ⟨above, name, rfl⟩ : ∃ above name, parts = above ++ [name] :=
        ⟨_, _, (List.dropLast_append_getLast hne).symm⟩
      rw [← List.append_assoc] at hsuffix
      obtain ⟨suffix, hsuffix, hwanted⟩ := Path.hasSuffix_append_iff.mp hsuffix
      exact ⟨above, name, content, suffix, rfl, hleads, hsuffix, hwanted⟩
    · rintro ⟨above, name, content, suffix, rfl, hleads, hsuffix, hwanted⟩
      refine ⟨⟨above ++ [name], ?_, rfl⟩, ?_⟩
      · exact (FileNode.mem_filesOfEntries entries).mpr ⟨_, content, rfl, hleads⟩
      · rw [← List.append_assoc]
        exact Path.hasSuffix_append_iff.mpr ⟨suffix, hsuffix, hwanted⟩

/-- A path fails alike in relisted file systems, or leads to relisted nodes. -/
theorem node?_relisted {files others : FileSystem} (hcurrent : others.current = files.current)
    (hroot : files.root.Relisted others.root) (path : Path) :
    files.node? path = others.node? path ∨ ∃ found found', files.node? path = .ok (some found) ∧
      others.node? path = .ok (some found') ∧ found.Relisted found' := by
  have hnode : files.node path = others.node path ∨ ∃ found found', files.node path = .ok found ∧
      others.node path = .ok found' ∧ found.Relisted found' := by
    simp only [node, hcurrent]
    by_cases hnull : (!path.isNullFree) = true
    · exact .inl (by rw [if_pos hnull, if_pos hnull])
    · by_cases hsize : Path.maxSize < Utf8.size path.text
      · exact .inl (by rw [if_neg hnull, if_neg hnull, if_pos hsize, if_pos hsize])
      · rw [if_neg hnull, if_neg hnull, if_neg hsize, if_neg hsize]
        obtain ⟨fault, hfault, hfault'⟩ | ⟨found, found', hfound, hfound', hrelisted⟩ :=
          hroot.follow .nil (files.current.join path).parts
        · exact .inl (by rw [hfault, hfault'])
        · rw [hfound, hfound']
          exact .inr ⟨found, found', rfl, rfl, hrelisted⟩
  obtain hsame | ⟨found, found', hfound, hfound', hrelisted⟩ := hnode
  · exact .inl (by rw [node?, node?, hsame])
  · exact .inr ⟨found, found', node?_of_node hfound, node?_of_node hfound', hrelisted⟩

/-- What is listed in one of two relisted file systems is listed in the other. -/
theorem templateFiles_relisted {files others : FileSystem} (hcurrent : others.current = files.current)
    (hroot : files.root.Relisted others.root) {room : Nat} {root : Path} {suffixes : List Text} {found : List Path}
    (h : files.templateFiles room root suffixes = .ok found) :
    others.templateFiles room root suffixes = .ok found := by
  obtain hsame | ⟨node, node', hnode, hnode', hrelisted⟩ := node?_relisted hcurrent hroot root
  · rw [templateFiles, hsame] at h
    exact h
  · cases node with
    | file content =>
      obtain rfl := hrelisted.of_file
      rw [templateFiles_of_file hnode] at h
      rw [templateFiles_of_file hnode', h]
    | directory entries =>
      obtain ⟨entries', rfl⟩ := hrelisted.of_directory
      obtain hwalk | ⟨error, hstops⟩ := (FileNode.directory entries).isWalkable_or_stopsWalk room root
      · rw [templateFiles_of_walkable hnode hwalk] at h
        rw [templateFiles_of_walkable hnode' (hrelisted.isWalkable hwalk), ← h]
        exact congrArg Except.ok ((isListing_filesUnder hrelisted.distinct_other root suffixes).eq_of_relisted
          (isListing_filesUnder hrelisted.distinct root suffixes) hrelisted.symm)
      · rw [templateFiles_of_stopsWalk hnode hstops] at h
        cases h

/-- A file is listed alone, whatever its suffix. A directory is listed with the files at any depth below it that have
    one of the suffixes, each once and in ascending order of their components, and with no directory, if all paths below
    it fit and there is room for the directories inside one another. Otherwise nothing is listed, and what is told is the
    first thing in the way of the walk. In which order the directories of the file system give their entries makes no
    difference to what is listed. -/
theorem templateFiles_lists (files : FileSystem) (room : Nat) (root : Path) (suffixes : List Text) :
    (∀ content, files.node? root = .ok (some (.file content)) →
        files.templateFiles room root suffixes = .ok [root]) ∧
      (∀ entries, files.node? root = .ok (some (.directory entries)) →
        (FileNode.directory entries).HasDistinctNames →
        ((FileNode.directory entries).IsWalkable room root →
          ∃ found, files.templateFiles room root suffixes = .ok found ∧
            root.IsListing (.directory entries) suffixes found ∧
            ∀ parts below, (FileNode.directory entries).Leads parts (.directory below) →
              ⟨root.root, root.parts ++ parts⟩ ∉ found) ∧
        (¬ (FileNode.directory entries).IsWalkable room root →
          ∃ error, files.templateFiles room root suffixes = .error error ∧
            (FileNode.directory entries).StopsWalk room root error)) ∧
      ∀ others : FileSystem, others.current = files.current → files.root.Relisted others.root →
        ∀ found, others.templateFiles room root suffixes = .ok found ↔
          files.templateFiles room root suffixes = .ok found := by
  refine ⟨fun content hnode => templateFiles_of_file hnode room suffixes,
    fun entries hnode hdistinct => ⟨fun hwalk => ?_, fun hstopped => ?_⟩,
    fun others hcurrent hrelisted found => ⟨?_, templateFiles_relisted hcurrent hrelisted⟩⟩
  · have hlisting := isListing_filesUnder hdistinct root suffixes
    refine ⟨_, templateFiles_of_walkable hnode hwalk suffixes, hlisting, fun parts below hdirectory hmem => ?_⟩
    obtain ⟨above, name, content, _, heq, hfile, _⟩ := (hlisting.mem_iff _).mp hmem
    obtain rfl := List.append_cancel_left (Path.mk.inj heq).2
    cases hfile.unique hdistinct hdirectory
  · obtain hwalk | ⟨error, hstops⟩ := (FileNode.directory entries).isWalkable_or_stopsWalk room root
    · exact absurd hwalk hstopped
    · exact ⟨error, templateFiles_of_stopsWalk hnode hstops suffixes, hstops⟩
  · exact templateFiles_relisted hcurrent.symm hrelisted.symm

/-- The order goes by components, so what is in `a` comes before `a-b.html`; a directory with a suffix is not listed,
    nor is a file whose name only starts with a dot. -/
theorem templateFiles_lists_components :
    let entries : List (Text × FileNode) := [("a", .directory [("y.ts", .file []), ("x.HTML", .file [])]),
      ("a-b.html", .file []), ("d.html", .directory [(".html", .file [])])]
    let files : FileSystem := ⟨.directory entries, ⟨"/", []⟩⟩
    let others : FileSystem := ⟨.directory entries.reverse, ⟨"/", []⟩⟩
    let found : List Path := [⟨"", ["a", "x.HTML"]⟩, ⟨"", ["a-b.html"]⟩]
    (FileNode.directory entries).HasDistinctNames ∧ (FileNode.directory entries).IsWalkable 2 ⟨"", []⟩ ∧
      files.templateFiles 2 ⟨"", []⟩ [".Html"] = .ok found ∧
      Path.IsListing ⟨"", []⟩ (.directory entries) [".Html"] found ∧
      ⟨"", ["d.html"]⟩ ∉ found ∧ others.templateFiles 2 ⟨"", []⟩ [".Html"] = .ok found ∧
      files.templateFiles 2 ⟨"", ["a", "y.ts"]⟩ [".Html"] = .ok [⟨"", ["a", "y.ts"]⟩] ∧
      files.templateFiles 1 ⟨"", []⟩ [".Html"] = .error .nestedTooDeeply := by
  intro entries files others found
  have hdistinct : (FileNode.directory entries).HasDistinctNames := by
    simp [entries, FileNode.hasDistinctNames_directory_iff, FileNode.hasDistinctNames_file]
  have hnode : files.node? ⟨"", []⟩ = .ok (some (.directory entries)) := rfl
  have hwalk : (FileNode.directory entries).IsWalkable 2 ⟨"", []⟩ :=
    (FileNode.obstacle?_eq_none_iff _).mp (by decide +kernel)
  have hdeep : (FileNode.directory entries).StopsWalk 1 ⟨"", []⟩ .nestedTooDeeply :=
    (FileNode.obstacle?_eq_some_iff _).mp (by decide +kernel)
  have hevaluates : files.templateFiles 2 ⟨"", []⟩ [".Html"] = .ok found := by
    have hbelow : Path.filesUnder ⟨"", []⟩ [".Html"] entries = found := by decide +kernel
    have hsorted : found.mergeSort Path.le = found := List.mergeSort_of_pairwise (by decide +kernel)
    rw [templateFiles_of_walkable hnode hwalk, hbelow, hsorted]
  obtain ⟨_, hdirectory, horder⟩ := templateFiles_lists files 2 ⟨"", []⟩ [".Html"]
  obtain ⟨hfile, _, _⟩ := templateFiles_lists files 2 ⟨"", ["a", "y.ts"]⟩ [".Html"]
  obtain ⟨_, hstopped, _⟩ := templateFiles_lists files 1 ⟨"", []⟩ [".Html"]
  obtain ⟨listed, hlisted, hlisting, hnone⟩ := (hdirectory entries hnode hdistinct).1 hwalk
  obtain rfl : found = listed := Except.ok.inj (hevaluates.symm.trans hlisted)
  refine ⟨hdistinct, hwalk, hevaluates, hlisting, ?_, ?_, hfile [] rfl, ?_⟩
  · exact hnone ["d.html"] [(".html", .file [])] (.entry (by simp [entries]) (.here _))
  · exact (horder others rfl (.of_perm hdistinct (List.reverse_perm _).symm) found).mpr hevaluates
  · obtain ⟨error, herror, hstops⟩ := (hstopped entries hnode hdistinct).2 fun h =>
      absurd ((FileNode.obstacle?_eq_none_iff _).mpr h) (by decide +kernel)
    rw [herror, hstops.unique hdeep]

/-- However often a path goes up from a directory and down again, it leads there, if it is not too long. -/
theorem node?_roundabout (entries : List (Text × FileNode)) (n : Nat) :
    let files : FileSystem := ⟨.directory [("d", .directory entries)], ⟨"/", []⟩⟩
    let path : Path := ⟨"", "d" :: List.flatten (List.replicate n ["..", "d"])⟩
    path.isNullFree = true → path.Fits → files.node? path = .ok (some (.directory entries)) := by
  intro files path hnull hfits
  have hfollow : ∀ n : Nat, FileNode.follow [files.root] (.directory entries)
      (List.flatten (List.replicate n ["..", "d"])) = .ok (.directory entries) := by
    intro n
    induction n with
    | zero => rfl
    | succ n ih =>
      rw [List.replicate_succ, List.flatten_cons]
      exact ih
  have hstart : ∀ rest, FileNode.follow [] files.root (("d" : Text) :: rest) =
      FileNode.follow [files.root] (.directory entries) rest := fun _ => rfl
  have hparts : (files.current.join path).parts = ("d" : Text) :: List.flatten (List.replicate n ["..", "d"]) := rfl
  have hreached : FileNode.follow [] files.root (files.current.join path).parts = .ok (.directory entries) := by
    rw [hparts, hstart, hfollow]
  rw [node?, node, hnull, if_neg (Nat.not_lt.mpr hfits), hreached]
  rfl

/-- Below a directory that is reached by a roundabout way, the path of an entry can be too long even where that of the
    directory itself is not. Then nothing is listed, although there is something to list. So it is where a walk has no
    room for all directories inside one another, be they empty. -/
theorem templateFiles_breaks_off :
    let name : Text := Text.repeated 200 'b' ++ ".html"
    let root : Path := ⟨"", "d" :: List.flatten (List.replicate 779 ["..", "d"])⟩
    let long : FileNode := .directory [(name, .file [])]
    let deep : FileNode := .directory [("a.html", .file []), ("a", .nested "a" 985)]
    let files : FileSystem := ⟨.directory [("d", long)], ⟨"/", []⟩⟩
    let others : FileSystem := ⟨.directory [("d", deep)], ⟨"/", []⟩⟩
    (files.node? root = .ok (some long) ∧ long.HasDistinctNames ∧
        root.IsListing long [".html"] [root.entry name] ∧
        ∀ room, files.templateFiles room root [".html"] =
          .error (.file (.path .nameTooLong (root.entry name).text))) ∧
      others.node? ⟨"", ["d"]⟩ = .ok (some deep) ∧ deep.HasDistinctNames ∧
        Path.IsListing ⟨"", ["d"]⟩ deep [".html"] [⟨"", ["d", "a.html"]⟩] ∧
        others.templateFiles walkRoom ⟨"", ["d"]⟩ [".html"] = .error .nestedTooDeeply := by
  intro name root long deep files others
  refine ⟨?_, ?_⟩
  · have hfits : root.Fits := by
      rw [Path.Fits]
      decide +kernel
    have hlong : ¬ (root.entry name).Fits := by
      rw [Path.Fits]
      decide +kernel
    have hnode : files.node? root = .ok (some long) := node?_roundabout _ 779 (by decide +kernel) hfits
    have hdistinct : long.HasDistinctNames := by
      simp [long, FileNode.hasDistinctNames_directory_iff, FileNode.hasDistinctNames_file]
    have hunder : root.filesUnder [".html"] [(name, .file [])] = [root.entry name] := by decide +kernel
    have hlisting := isListing_filesUnder hdistinct root [".html"]
    rw [hunder, List.mergeSort_singleton] at hlisting
    exact ⟨hnode, hdistinct, hlisting, fun room =>
      templateFiles_of_stopsWalk hnode (.of_first room (.file []) [] hlong) [".html"]⟩
  · have hnode : others.node? ⟨"", ["d"]⟩ = .ok (some deep) := rfl
    have hdistinct : deep.HasDistinctNames := by
      simp [deep, FileNode.hasDistinctNames_directory_iff, FileNode.hasDistinctNames_file,
        FileNode.hasDistinctNames_nested]
    have hunder : Path.filesUnder ⟨"", ["d"]⟩ [".html"] [("a.html", .file []), ("a", .nested "a" 985)] =
        [⟨"", ["d", "a.html"]⟩] := by
      have hbelow : FileNode.filesOfEntries [] [("a.html", .file []), ("a", .nested "a" 985)] =
          [[("a.html" : Text)]] := by
        simp only [FileNode.filesOfEntries, FileNode.filesBelow, FileNode.filesBelow_nested]
        rfl
      rw [Path.filesUnder, hbelow]
      decide +kernel
    have hlisting := isListing_filesUnder hdistinct ⟨"", ["d"]⟩ [".html"]
    rw [hunder, List.mergeSort_singleton] at hlisting
    have hfits : ∀ entry ∈ [(("a.html" : Text), FileNode.file []), ("a", .nested "a" 985)],
        (Path.entry ⟨"", ["d"]⟩ entry.1).Fits :=
      List.forall_mem_cons.mpr ⟨by rw [Path.Fits]; decide +kernel,
        List.forall_mem_singleton.mpr (by rw [Path.Fits]; decide +kernel)⟩
    have hdeep : (FileNode.nested "a" 985).StopsWalk 985 (Path.entry ⟨"", ["d"]⟩ "a") .nestedTooDeeply :=
      FileNode.stopsWalk_nested 985 (by decide +kernel)
    have hreaches : Reaches (fun earlier : Text × FileNode =>
        earlier.2.IsWalkable 985 (Path.entry ⟨"", ["d"]⟩ earlier.1))
        [("a.html", .file []), ("a", .nested "a" 985)] [("a.html", .file [])] ("a", .nested "a" 985) :=
      ⟨⟨[], rfl⟩, List.forall_mem_singleton.mpr (FileNode.isWalkable_file _ _ _)⟩
    exact ⟨hnode, hdistinct, hlisting, templateFiles_of_stopsWalk hnode (.inside hfits hreaches hdeep) [".html"]⟩

end FileSystem

end TemplateAudit
