import Mathlib.Data.List.Nodup
import Mathlib.Data.List.Perm.Basic
import TemplateAudit.Proofs.Component.Lexing
import TemplateAudit.Proofs.Component.Refusal

namespace TemplateAudit.Component

/-- The word of a declaration: letters that cannot be taken for what follows the word. -/
structure IsDeclarationWord (word : Text) : Prop where
  ne_nil : word ≠ []
  letters : ∀ c ∈ word, isWordChar c = true ∧ isBlank c = false ∧ c ≠ ':' ∧ isLiteralQuote c = false

/-- Whether a text is such a word is a matter of testing its letters. -/
theorem isDeclarationWord_of_all {word : Text} (hne : word ≠ [])
    (hall : word.all fun c => isWordChar c && !isBlank c && c != ':' && !isLiteralQuote c) :
    IsDeclarationWord word := by
  refine ⟨hne, fun c hc => ?_⟩
  have hletter := List.all_eq_true.mp hall c hc
  simpa only [Bool.and_eq_true, Bool.not_eq_true', bne_iff_ne, and_assoc] using hletter

theorem isDeclarationWord_template : IsDeclarationWord "template" :=
  isDeclarationWord_of_all (by decide) (by decide)

theorem isDeclarationWord_templateUrl : IsDeclarationWord "templateUrl" :=
  isDeclarationWord_of_all (by decide) (by decide)

section Words

variable {word word' : Text} {closed closed' : Char → Text → Prop} {source : Text}
  {declaration other : Declaration}

/-- The word at the start of a declaration is what stands before the first blank or colon. -/
theorem Written.takeWhile_eq (hword : IsDeclarationWord word) (h : Written word closed source declaration) :
    (source.drop declaration.start).takeWhile (fun c => !isBlank c && c != ':') = word := by
  obtain ⟨before, after, quote, tail, rest, htext, hbefore, _⟩ := h.parts
  rw [htext]
  refine Text.IsLongestRun.takeWhile_eq ⟨fun c hc => ?_, fun c hc => ?_⟩
  · obtain ⟨_, hblank, hcolon, _⟩ := hword.letters c hc
    simp [hblank, hcolon]
  · cases before with
    | nil =>
      obtain rfl : ':' = c := by simpa using hc
      decide
    | cons blank before =>
      obtain rfl : blank = c := by simpa using hc
      simp [hbefore blank List.mem_cons_self]

/-- Declarations by different words start at different places. -/
theorem Written.start_ne (hword : IsDeclarationWord word) (hword' : IsDeclarationWord word')
    (hne : word ≠ word') (h : Written word closed source declaration)
    (h' : Written word' closed' source other) : declaration.start ≠ other.start := by
  intro hstart
  have hsame := h.takeWhile_eq hword
  rw [hstart, h'.takeWhile_eq hword'] at hsame
  exact hne hsame.symm

end Words

/-- The declarations of both kinds in the order of their starts. -/
def declarations (source : Text) : List Declaration :=
  (inlineTemplates source ++ templateAddresses source).mergeSort fun a b => a.start ≤ b.start

theorem perm_declarations (source : Text) :
    (declarations source).Perm (inlineTemplates source ++ templateAddresses source) :=
  List.mergeSort_perm _ _

/-- Declarations that are lexed come in the order of their starts. -/
theorem LexedFrom.ascend {word : Text} {closed : Char → Text → Prop} {source : Text} {offset : Nat}
    {found : List Declaration} (h : LexedFrom word closed source offset found) :
    found.Pairwise fun earlier later => earlier.start < later.start := by
  refine h.disjoint.imp_of_mem fun {earlier later} hearlier _ hstop => ?_
  have hlead := (h.written earlier hearlier).start_le_literalStart
  have hpos := (h.written earlier hearlier).literal_pos
  simp only [Declaration.stop] at hstop
  omega

/-- A template and an address are not declared at the same place. -/
theorem start_ne_of_mem {source : Text} {template address : Declaration}
    (htemplate : template ∈ inlineTemplates source) (haddress : address ∈ templateAddresses source) :
    template.start ≠ address.start :=
  ((lexedFrom_inlineTemplates source).written template htemplate).start_ne isDeclarationWord_template
    isDeclarationWord_templateUrl (by decide) ((lexedFrom_templateAddresses source).written address haddress)

/-- No two declarations start at the same place. -/
theorem declarations_ascend (source : Text) :
    (declarations source).Pairwise fun earlier later => earlier.start < later.start := by
  have hsorted : (declarations source).Pairwise fun earlier later => earlier.start ≤ later.start :=
    pairwise_mergeSort_place Declaration.start _
  have hdistinct : (declarations source).Pairwise fun earlier later => earlier.start ≠ later.start := by
    refine ((perm_declarations source).pairwise_iff fun h => Ne.symm h).mpr ?_
    refine List.pairwise_append.mpr ⟨?_, ?_, fun template htemplate address haddress =>
      start_ne_of_mem htemplate haddress⟩
    · exact (lexedFrom_inlineTemplates source).ascend.imp fun hlt => Nat.ne_of_lt hlt
    · exact (lexedFrom_templateAddresses source).ascend.imp fun hlt => Nat.ne_of_lt hlt
  exact (hsorted.and hdistinct).imp fun ⟨hle, hne⟩ => Nat.lt_of_le_of_ne hle hne

/-- No two declarations start at the same place. -/
theorem eq_of_start_eq {source : Text} {declaration other : Declaration}
    (h : declaration ∈ declarations source) (hother : other ∈ declarations source)
    (hstart : declaration.start = other.start) : declaration = other := by
  have hnodup : ((declarations source).map Declaration.start).Nodup :=
    List.pairwise_map.mpr ((declarations_ascend source).imp fun hlt => Nat.ne_of_lt hlt)
  exact List.inj_on_of_nodup_map hnodup h hother hstart

/-- The template for which a declaration stands: a literal for itself, an address for the file to which it
    leads. -/
inductive TakenAs (files : FileSystem) (path : Path) (source : Text) : Declaration → TemplateSource → Prop where
  | literal {declaration : Declaration} (h : declaration ∈ inlineTemplates source) :
      TakenAs files path source declaration ⟨declaration.fragment path, source⟩
  | address {declaration : Declaration} {target : Path} {text : Text}
      (h : declaration ∈ templateAddresses source)
      (hresolve : resolveAddress files.current path declaration.address = .ok target)
      (htext : files.readText target = .ok text) :
      TakenAs files path source declaration ⟨.external text (some target.text), text⟩

section Load

variable {files : FileSystem} {path : Path} {source : Text}

/-- If all addresses lead to texts, there is a template for each of them in turn. -/
theorem exists_loadAddresses {addresses : List Declaration}
    (hleads : ∀ declaration ∈ addresses, LeadsToText files path declaration)
    (hfound : ∀ declaration ∈ addresses, declaration ∈ templateAddresses source) :
    ∃ external, loadAddresses files path addresses = .ok external ∧
      List.Forall₂ (fun declaration placed => placed.1 = declaration.start ∧
        TakenAs files path source declaration placed.2) addresses external := by
  induction addresses with
  | nil => exact ⟨[], rfl, .nil⟩
  | cons declaration rest ih =>
    obtain ⟨⟨target, text, hresolve, htext⟩, hleads⟩ := List.forall_mem_cons.mp hleads
    obtain ⟨hhere, hfound⟩ := List.forall_mem_cons.mp hfound
    obtain ⟨later, hlater, htaken⟩ := ih hleads hfound
    refine ⟨(declaration.start, ⟨.external text (some target.text), text⟩) :: later, ?_, .cons ?_ htaken⟩
    · have hfragment : files.externalTemplate target = .ok (.external text (some target.text)) := by
        rw [FileSystem.externalTemplate, htext]
        rfl
      rw [loadAddresses, hresolve, hlater]
      simp only [bind, Except.bind, hfragment]
      rfl
    · exact ⟨rfl, .address hhere hresolve htext⟩

/-- A component all of whose addresses lead to texts has a template for each of its declarations, in the
    order of these. -/
theorem exists_load (hsource : files.readText path = .ok source)
    (hleads : ∀ declaration ∈ templateAddresses source, LeadsToText files path declaration) :
    ∃ templates, load files path = .ok templates ∧
      List.Forall₂ (TakenAs files path source) (declarations source) templates := by
  obtain ⟨external, hexternal, hplaced⟩ := exists_loadAddresses hleads fun _ h => h
  have hinline : List.Forall₂ (fun declaration placed => placed.1 = declaration.start ∧
      TakenAs files path source declaration placed.2) (inlineTemplates source) (inlineSources path source) := by
    rw [inlineSources, List.forall₂_map_right_iff]
    exact List.forall₂_same.mpr fun declaration hdeclaration => ⟨rfl, .literal hdeclaration⟩
  let placed := (inlineSources path source ++ external).mergeSort fun a b => a.1 ≤ b.1
  have hall : placed.Perm (inlineSources path source ++ external) := List.mergeSort_perm _ _
  refine ⟨placed.map (·.2), ?_, ?_⟩
  · simp only [load, hsource, hexternal, bind, Except.bind]
    rfl
  obtain ⟨taken, htaken, hperm⟩ := List.perm_comp_forall₂ hall (List.rel_append hinline hplaced).flip
  have hstarts : placed.map (·.1) = taken.map Declaration.start := by
    rw [← List.forall₂_eq_eq_eq, List.forall₂_map_left_iff, List.forall₂_map_right_iff]
    exact htaken.imp fun _ _ h => h.1
  have hordered : taken.Pairwise fun earlier later => earlier.start ≤ later.start := by
    rw [← List.pairwise_map (f := Declaration.start) (R := (· ≤ ·)), ← hstarts, List.pairwise_map]
    exact pairwise_mergeSort_place Prod.fst _
  have hsame : taken = declarations source := by
    refine (hperm.trans (perm_declarations source).symm).eq_of_pairwise ?_ hordered
      ((declarations_ascend source).imp Nat.le_of_lt)
    intro earlier later hearlier hlater hle hge
    exact eq_of_start_eq ((hperm.trans (perm_declarations source).symm).mem_iff.mp hearlier) hlater
      (Nat.le_antisymm hle hge)
  rw [← hsame, List.forall₂_map_right_iff]
  exact htaken.flip.imp fun _ _ h => h.2

end Load

end TemplateAudit.Component
