import TemplateAudit.Proofs.Component.Order

namespace TemplateAudit.Component

variable {files : FileSystem} {path : Path} {source : Text}

/-- What a literal holds besides its place: it stands between two quotes of one kind. -/
def IsQuoted (literal : Text) : Prop :=
  ∃ quote body, isLiteralQuote quote = true ∧ literal = quote :: (body ++ [quote])

theorem Written.isQuoted {word : Text} {declaration : Declaration}
    (h : Written word FitsLiteral source declaration) : IsQuoted declaration.literal := by
  obtain ⟨_, _, quote, _, _, _, _, _, hquote, ⟨body, _, rfl⟩, hliteral, _⟩ := h.parts
  exact ⟨quote, body, hquote, hliteral⟩

/-- Among the declarations of a source the literals are those that the lexer takes. -/
theorem filter_declarations (source : Text) :
    (declarations source).filter (· ∈ inlineTemplates source) = inlineTemplates source := by
  have hperm : ((declarations source).filter (· ∈ inlineTemplates source)).Perm (inlineTemplates source) := by
    have hall := (perm_declarations source).filter (fun declaration =>
      decide (declaration ∈ inlineTemplates source))
    rw [List.filter_append] at hall
    have hliterals : (inlineTemplates source).filter (· ∈ inlineTemplates source) = inlineTemplates source :=
      List.filter_eq_self.mpr fun _ h => decide_eq_true h
    have haddresses : (templateAddresses source).filter (· ∈ inlineTemplates source) = [] := by
      refine List.filter_eq_nil_iff.mpr fun address haddress hliteral => ?_
      exact start_ne_of_mem (of_decide_eq_true hliteral) haddress rfl
    rwa [hliterals, haddresses, List.append_nil] at hall
  refine hperm.eq_of_pairwise ?_ ((declarations_ascend source).filter _) (lexedFrom_inlineTemplates source).ascend
  exact fun _ _ _ _ hlt hgt => absurd hlt (Nat.lt_asymm hgt)

/-- The templates written in the component are those of the literals among its declarations. -/
theorem filter_inline_of_takenAs {taken : List Declaration} {templates : List TemplateSource}
    (h : List.Forall₂ (TakenAs files path source) taken templates) :
    templates.filter (fun template => decide (template.fragment.kind = .inline)) =
      (taken.filter (· ∈ inlineTemplates source)).map fun literal => ⟨literal.fragment path, source⟩ := by
  induction h with
  | nil => rfl
  | cons htaken _ ih =>
    cases htaken with
    | literal hliteral =>
      simp only [List.filter_cons, hliteral, decide_true, if_true, List.map_cons, ih]
      rfl
    | address haddress _ _ =>
      have hnot : _ ∉ inlineTemplates source := fun hliteral => start_ne_of_mem hliteral haddress rfl
      simp only [List.filter_cons, hnot, decide_false, Bool.false_eq_true, if_false, ← ih]
      rfl

/-- A component all of whose addresses lead to texts is loaded, and the templates written in it are, in
    order, the literals that the lexer takes, be it by the first quote that is not escaped or by any match of
    the pattern. Each is a part of the source, between two quotes of one kind, and none overlaps another. -/
theorem load_inline_lexed (hsource : files.readText path = .ok source)
    (hleads : ∀ address ∈ templateAddresses source, LeadsToText files path address) :
    ∃ templates literals, load files path = .ok templates ∧
      (∀ found, LexedFrom "template" ClosesFirst source 0 found ↔ found = literals) ∧
      (∀ found, LexedFrom "template" FitsLiteral source 0 found ↔ found = literals) ∧
      templates.filter (fun template => decide (template.fragment.kind = .inline)) =
        literals.map (fun literal => ⟨literal.fragment path, source⟩) ∧
      (∀ literal ∈ literals, let fragment := literal.fragment path
        Fragment.inline source literal.literalStart literal.stop (some path.text) = .ok fragment ∧
        source.slice fragment.baseOffset.toNat (fragment.baseOffset.toNat + fragment.text.length) =
          fragment.text ∧
        IsQuoted fragment.text) ∧
      literals.Pairwise fun earlier later => earlier.stop ≤ later.literalStart := by
  obtain ⟨templates, hload, htaken⟩ := exists_load hsource hleads
  have hlexed := lexedFrom_inlineTemplates source
  refine ⟨templates, inlineTemplates source, hload, fun found => lexedFrom_iff readsClosed_closesFirst,
    fun found => lexedFrom_iff readsClosed_fitsLiteral, ?_, fun literal hliteral => ?_, ?_⟩
  · rw [filter_inline_of_takenAs htaken, filter_declarations]
  · obtain ⟨_, rest, hrest⟩ := drop_of_mem_inlineTemplates hliteral
    exact ⟨inline_eq_ok hliteral _, Text.slice_of_drop hrest.symm rfl, (hlexed.written literal hliteral).isQuoted⟩
  · refine hlexed.disjoint.imp_of_mem fun {_ later} _ hlater hstop => ?_
    exact Nat.le_trans hstop (hlexed.written later hlater).start_le_literalStart

/-- A literal with an escaped quote, the template at an address, and a literal that does not close. -/
theorem load_inline_lexed_escaped :
    let source : Text := "template:'\\'' templateUrl:`b` template:\"x"
    let files : FileSystem := ⟨.directory [("b", .file (Utf8.encode "<b>")),
      ("c.ts", .file (Utf8.encode source))], ⟨"/", []⟩⟩
    ∃ templates, load files ⟨[], ["c.ts"]⟩ = .ok templates ∧
      templates.filter (fun template => decide (template.fragment.kind = .inline)) =
        [⟨⟨"'\\''", 9, .inline, some "c.ts"⟩, source⟩] ∧
      LexedFrom "template" ClosesFirst source 0 [⟨0, 9, "'\\''"⟩] := by
  intro source files
  have hsource : files.readText ⟨[], ["c.ts"]⟩ = .ok source := by decide +kernel
  have htarget : files.readText ⟨"/", ["b"]⟩ = .ok "<b>" := by decide +kernel
  have haddresses : templateAddresses source = [⟨14, 26, "`b`"⟩] := by decide +kernel
  have hleads : ∀ address ∈ templateAddresses source, LeadsToText files ⟨[], ["c.ts"]⟩ address := by
    rw [haddresses]
    exact List.forall_mem_singleton.mpr ⟨⟨"/", ["b"]⟩, "<b>", rfl, htarget⟩
  obtain ⟨templates, literals, hload, hclosed, _, hinline, _⟩ := load_inline_lexed hsource hleads
  have hliterals : inlineTemplates source = [⟨0, 9, "'\\''"⟩] := by decide +kernel
  have hlexed : LexedFrom "template" ClosesFirst source 0 (inlineTemplates source) :=
    (lexedFrom_iff readsClosed_closesFirst).mpr rfl
  rw [hliterals] at hlexed
  obtain rfl := (hclosed _).mp hlexed
  exact ⟨templates, hload, hinline, hlexed⟩

end TemplateAudit.Component
