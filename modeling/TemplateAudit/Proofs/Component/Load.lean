import TemplateAudit.Component.Load
import TemplateAudit.Proofs.Component.Lexing
import TemplateAudit.Proofs.Diagnostic.Span
import TemplateAudit.Proofs.Steps

namespace TemplateAudit

/-- The source of a template is the text of the file at the path, and the fragment is a part of it that
    goes by the path. -/
structure TemplateSource.IsRead (template : TemplateSource) (files : FileSystem) (path : Path) : Prop where
  read : files.readText path = .ok template.source
  named : template.fragment.path = some path.text
  part : template.fragment.IsOf template.source

/-- The templates of a file in the order in which it has them. -/
inductive FileSystem.Loads (files : FileSystem) (path : Path) : List TemplateSource → Prop where
  | external {text : Text} (hsuffix : path.hasSuffix componentSuffixes = false)
      (htext : files.readText path = .ok text) :
      Loads files path [⟨.external text (some path.text), text⟩]
  | component {source : Text} {external placed : List Component.Placed}
      (hsuffix : path.hasSuffix componentSuffixes = true) (hsource : files.readText path = .ok source)
      (hexternal : Component.loadAddresses files path (Component.templateAddresses source) = .ok external)
      (hall : placed.Perm (Component.inlineSources path source ++ external))
      (hordered : placed.Pairwise fun a b => a.1 ≤ b.1) :
      Loads files path (placed.map (·.2))

/-- A text is read from a file whose bytes decode, with uniform line ends. -/
theorem FileSystem.readText_eq_ok_iff {files : FileSystem} {path : Path} {text : Text} :
    files.readText path = .ok text ↔ ∃ bytes content, files.readBytes path = .ok bytes ∧
      Utf8.decode bytes = .ok content ∧ text = content.uniformNewlines := by
  unfold readText
  constructor
  · intro h
    cases hbytes : files.readBytes path with
    | error error =>
      rw [hbytes] at h
      cases h
    | ok bytes =>
      rw [hbytes] at h
      obtain ⟨content, hcontent, rfl⟩ := ok_of_map h
      exact ⟨bytes, content, rfl, ok_of_mapError hcontent, rfl⟩
  · rintro ⟨bytes, content, hbytes, hdecode, rfl⟩
    rw [hbytes]
    simp only [hdecode]
    rfl

theorem FileSystem.externalTemplate_eq_ok {files : FileSystem} {path : Path} {fragment : Fragment}
    (h : files.externalTemplate path = .ok fragment) :
    files.readText path = .ok fragment.text ∧ fragment = .external fragment.text (some path.text) := by
  obtain ⟨text, htext, rfl⟩ := ok_of_map h
  exact ⟨htext, rfl⟩

theorem FileSystem.loadTemplates_external {files : FileSystem} {path : Path} {text : Text}
    (hsuffix : path.hasSuffix componentSuffixes = false) (htext : files.readText path = .ok text) :
    files.loadTemplates path = .ok [⟨.external text (some path.text), text⟩] := by
  rw [loadTemplates, hsuffix, externalTemplate, htext]
  rfl

/-- What is sorted by its place stands in the order of its places. -/
theorem Component.pairwise_mergeSort_place {α : Type} (place : α → Nat) (items : List α) :
    (items.mergeSort fun a b => place a ≤ place b).Pairwise fun a b => place a ≤ place b := by
  have htrans : ∀ a b c : α, decide (place a ≤ place b) = true → decide (place b ≤ place c) = true →
      decide (place a ≤ place c) = true := by
    simp only [decide_eq_true_eq]
    exact fun a b c => Nat.le_trans
  have htotal : ∀ a b : α, (decide (place a ≤ place b) || decide (place b ≤ place a)) = true := by
    simp only [Bool.or_eq_true, decide_eq_true_eq]
    exact fun a b => Nat.le_total (place a) (place b)
  exact (List.pairwise_mergeSort htrans htotal items).imp fun hle => of_decide_eq_true hle

/-- Loading gives the templates in order. -/
theorem FileSystem.loads_of_loadTemplates {files : FileSystem} {path : Path}
    {templates : List TemplateSource} (h : files.loadTemplates path = .ok templates) :
    files.Loads path templates := by
  unfold loadTemplates at h
  split at h
  · next hsuffix =>
    obtain ⟨source, hsource, h⟩ := ok_of_bind h
    obtain ⟨external, hexternal, h⟩ := ok_of_bind h
    obtain rfl := Except.ok.inj h
    exact .component hsuffix hsource hexternal (List.mergeSort_perm _ _)
      (Component.pairwise_mergeSort_place Prod.fst _)
  · next hsuffix =>
    obtain ⟨fragment, hfragment, rfl⟩ := ok_of_map h
    obtain ⟨htext, heq⟩ := externalTemplate_eq_ok hfragment
    rw [heq]
    exact .external (by simpa using hsuffix) htext

/-- A whole file is read from where it stands. -/
theorem isRead_external {files : FileSystem} {path : Path} {text : Text}
    (h : files.readText path = .ok text) :
    TemplateSource.IsRead ⟨.external text (some path.text), text⟩ files path :=
  ⟨h, rfl, .inr ⟨_, rfl⟩⟩

namespace Component

variable {files : FileSystem} {path : Path}

/-- Every template to which an address leads is read from a file. -/
theorem isRead_of_mem_loadAddresses {declarations : List Declaration} {external : List Placed}
    (h : loadAddresses files path declarations = .ok external) :
    ∀ placed ∈ external, ∃ target, placed.2.IsRead files target := by
  induction declarations generalizing external with
  | nil =>
    obtain rfl := Except.ok.inj h
    exact List.forall_mem_nil _
  | cons declaration rest ih =>
    obtain ⟨target, _, h⟩ := ok_of_bind h
    obtain ⟨fragment, hfragment, h⟩ := ok_of_bind h
    obtain ⟨later, hlater, h⟩ := ok_of_bind h
    obtain rfl := Except.ok.inj h
    obtain ⟨htext, heq⟩ := FileSystem.externalTemplate_eq_ok hfragment
    refine List.forall_mem_cons.mpr ⟨⟨target, ?_⟩, ih hlater⟩
    have hread := isRead_external htext
    rwa [← heq] at hread

/-- A fragment can be made of a template written in a component where it stands in the source. -/
theorem inline_eq_ok {source : Text} {declaration : Declaration} (h : declaration ∈ inlineTemplates source)
    (path : Option Text) :
    Fragment.inline source declaration.literalStart declaration.stop path =
      .ok ⟨declaration.literal, declaration.literalStart, .inline, path⟩ := by
  obtain ⟨hne, rest, hrest⟩ := drop_of_mem_inlineTemplates h
  have hpos := List.length_pos_iff.mpr hne
  have hlength := congrArg List.length hrest
  rw [List.length_append, List.length_drop] at hlength
  have hslice : source.slice declaration.literalStart declaration.stop = declaration.literal :=
    Text.slice_of_drop hrest.symm rfl
  have hinside : ¬ ((declaration.literalStart : Int) < 0 ∨
      (declaration.stop : Int) < declaration.literalStart ∨ (declaration.stop : Int) > source.length) := by
    simp only [Declaration.stop]
    omega
  rw [Fragment.inline, if_neg (by simpa [or_assoc] using hinside), Int.toNat_natCast, Int.toNat_natCast,
    hslice]

/-- A template written in a component is a literal of its source. -/
theorem isRead_of_mem_inlineSources {source : Text} (hsource : files.readText path = .ok source) :
    ∀ placed ∈ inlineSources path source, placed.2.IsRead files path := by
  intro placed hplaced
  obtain ⟨declaration, hdeclaration, rfl⟩ := List.mem_map.mp hplaced
  exact ⟨hsource, rfl, .inl ⟨_, _, _, inline_eq_ok hdeclaration (some path.text)⟩⟩

end Component

/-- Every template is read from a file. -/
theorem FileSystem.Loads.isRead {files : FileSystem} {path : Path} {templates : List TemplateSource}
    (h : files.Loads path templates) : ∀ template ∈ templates, ∃ source, template.IsRead files source := by
  cases h with
  | external _ htext => exact List.forall_mem_singleton.mpr ⟨path, isRead_external htext⟩
  | component _ hsource hexternal hall _ =>
    intro template htemplate
    obtain ⟨placed, hplaced, rfl⟩ := List.mem_map.mp htemplate
    obtain hinline | hplaced := List.mem_append.mp (hall.mem_iff.mp hplaced)
    · exact ⟨path, Component.isRead_of_mem_inlineSources hsource placed hinline⟩
    · exact Component.isRead_of_mem_loadAddresses hexternal placed hplaced

end TemplateAudit
