import TemplateAudit.Proofs.Component.Load

namespace TemplateAudit

/-- Why there is no text at a path: it leads nowhere, to a directory, or to bytes that are not UTF-8. -/
inductive FileSystem.HasNoText (files : FileSystem) (path : Path) : FileError → Prop where
  | missing {error : FileError} (hnode : files.node path = .error error) : HasNoText files path error
  | directory {entries : List (Text × FileNode)} (hnode : files.node path = .ok (.directory entries)) :
      HasNoText files path (.path .isDirectory path.text)
  | encoding {content : Bytes} {error : Utf8Error} (hnode : files.node path = .ok (.file content))
      (hdecode : Utf8.decode content = .error error) : HasNoText files path (.encoding error)

/-- The address in a component leads to a text. -/
def Component.LeadsToText (files : FileSystem) (path : Path) (declaration : Declaration) : Prop :=
  ∃ target text, resolveAddress files.current path declaration.address = .ok target ∧
    files.readText target = .ok text

/-- Why the address in a component leads to no text: it holds a null character, or there is none. -/
inductive Component.LeadsNowhere (files : FileSystem) (path : Path) (declaration : Declaration) :
    FileError → Prop where
  | unresolved {error : FileError}
      (hresolve : resolveAddress files.current path declaration.address = .error error) :
      LeadsNowhere files path declaration error
  | noText {target : Path} {error : FileError}
      (hresolve : resolveAddress files.current path declaration.address = .ok target)
      (htext : files.HasNoText target error) : LeadsNowhere files path declaration error

/-- Why the templates of a file cannot be loaded. -/
inductive FileSystem.Refuses (files : FileSystem) (path : Path) : FileError → Prop where
  | itself {error : FileError} (htext : files.HasNoText path error) : Refuses files path error
  | address {source : Text} {before : List Component.Declaration} {declaration : Component.Declaration}
      {error : FileError} (hsuffix : path.hasSuffix componentSuffixes = true)
      (hsource : files.readText path = .ok source)
      (hreaches : Reaches (Component.LeadsToText files path) (Component.templateAddresses source) before
        declaration)
      (hnowhere : Component.LeadsNowhere files path declaration error) : Refuses files path error

variable {files : FileSystem} {path : Path} {error : FileError}

/-- Reading a text fails exactly for the reasons why there is none. -/
theorem FileSystem.readText_eq_error_iff :
    files.readText path = .error error ↔ files.HasNoText path error := by
  unfold readText readBytes
  constructor
  · intro h
    cases hnode : files.node path with
    | error other =>
      rw [hnode] at h
      obtain rfl := Except.error.inj h
      exact .missing hnode
    | ok node =>
      rw [hnode] at h
      cases node with
      | directory entries =>
        obtain rfl := Except.error.inj h
        exact .directory hnode
      | file content =>
        cases hdecode : Utf8.decode content with
        | ok text =>
          simp only [hdecode] at h
          cases h
        | error fault =>
          simp only [hdecode] at h
          obtain rfl := Except.error.inj h
          exact .encoding hnode hdecode
  · rintro (hnode | hnode | ⟨hnode, hdecode⟩)
    · rw [hnode]
    · rw [hnode]
    · simp only [hnode, hdecode]
      rfl

theorem FileSystem.externalTemplate_eq_error_iff :
    files.externalTemplate path = .error error ↔ files.HasNoText path error := by
  rw [externalTemplate, map_eq_error_iff, readText_eq_error_iff]

namespace Component

/-- An address leads to a text exactly if there is an external template at its target. -/
theorem leadsToText_iff {declaration : Declaration} : LeadsToText files path declaration ↔
    ∃ target fragment, resolveAddress files.current path declaration.address = .ok target ∧
      files.externalTemplate target = .ok fragment := by
  constructor
  · rintro ⟨target, text, hresolve, htext⟩
    refine ⟨target, .external text (some target.text), hresolve, ?_⟩
    rw [FileSystem.externalTemplate, htext]
    rfl
  · rintro ⟨target, fragment, hresolve, hfragment⟩
    exact ⟨target, fragment.text, hresolve, (FileSystem.externalTemplate_eq_ok hfragment).1⟩

/-- The templates at addresses cannot be loaded because of the first that leads nowhere. -/
theorem loadAddresses_eq_error_iff {declarations : List Declaration} :
    loadAddresses files path declarations = .error error ↔
      ∃ before declaration, Reaches (LeadsToText files path) declarations before declaration ∧
        LeadsNowhere files path declaration error := by
  induction declarations with
  | nil => exact iff_of_false (fun h => by cases h) not_exists_reaches_nil
  | cons first rest ih =>
    have hcons : loadAddresses files path (first :: rest) = .error error ↔
        LeadsNowhere files path first error ∨
          LeadsToText files path first ∧ loadAddresses files path rest = .error error := by
      rw [loadAddresses, leadsToText_iff]
      simp only [bind_eq_error_iff, FileSystem.externalTemplate_eq_error_iff]
      constructor
      · rintro (hresolve | ⟨target, hresolve, htext | ⟨fragment, hfragment, hlater | ⟨_, _, hnever⟩⟩⟩)
        · exact .inl (.unresolved hresolve)
        · exact .inl (.noText hresolve htext)
        · exact .inr ⟨⟨target, fragment, hresolve, hfragment⟩, hlater⟩
        · cases hnever
      · rintro ((hresolve | ⟨hresolve, htext⟩) | ⟨⟨target, fragment, hresolve, hfragment⟩, hlater⟩)
        · exact .inl hresolve
        · exact .inr ⟨_, hresolve, .inl htext⟩
        · exact .inr ⟨target, hresolve, .inr ⟨fragment, hfragment, .inl hlater⟩⟩
    rw [hcons, ih, exists_reaches_cons_iff]

end Component

/-- The templates of a file cannot be loaded exactly if it is refused, for the reason given. -/
theorem FileSystem.loadTemplates_eq_error_iff :
    files.loadTemplates path = .error error ↔ files.Refuses path error := by
  unfold loadTemplates
  cases hsuffix : path.hasSuffix componentSuffixes with
  | false =>
    rw [if_neg (by simp), map_eq_error_iff, externalTemplate_eq_error_iff]
    refine ⟨.itself, fun h => ?_⟩
    cases h with
    | itself htext => exact htext
    | address hcomponent _ _ _ =>
      rw [hsuffix] at hcomponent
      cases hcomponent
  | true =>
    rw [if_pos rfl, Component.load]
    simp only [bind_eq_error_iff, readText_eq_error_iff, Component.loadAddresses_eq_error_iff]
    constructor
    · rintro (htext | ⟨source, hsource, ⟨before, declaration, hreaches, hnowhere⟩ | ⟨_, _, hnever⟩⟩)
      · exact .itself htext
      · exact .address hsuffix hsource hreaches hnowhere
      · cases hnever
    · rintro (htext | ⟨_, hsource, hreaches, hnowhere⟩)
      · exact .inl htext
      · exact .inr ⟨_, hsource, .inl ⟨_, _, hreaches, hnowhere⟩⟩

/-- Loading a file gives templates or says why it is refused. -/
theorem FileSystem.exists_loads_iff :
    (∃ templates, files.Loads path templates) ↔ ∃ templates, files.loadTemplates path = .ok templates := by
  constructor
  · rintro ⟨templates, hloads⟩
    cases hloads with
    | external hsuffix htext => exact ⟨_, loadTemplates_external hsuffix htext⟩
    | component hsuffix hsource hexternal _ _ =>
      rw [loadTemplates, if_pos hsuffix, Component.load, hsource]
      simp only [bind, Except.bind, hexternal, pure, Except.pure]
      exact ⟨_, rfl⟩
  · rintro ⟨templates, hload⟩
    exact ⟨templates, loads_of_loadTemplates hload⟩

end TemplateAudit
