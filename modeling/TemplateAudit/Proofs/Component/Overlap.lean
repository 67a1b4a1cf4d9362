import TemplateAudit.Proofs.Component.Order

namespace TemplateAudit.Component

/-- The declaration starts inside the quoted part of another one. -/
def Declaration.StartsWithin (declaration other : Declaration) : Prop :=
  other.literalStart < declaration.start ∧ declaration.start < other.stop

section Words

variable {word word' : Text} {closed closed' : Char → Text → Prop} {source : Text}
  {declaration other : Declaration}

/-- No declaration starts within the word of another one or between that and the quoted part. -/
theorem Written.literalStart_lt_start (hword : IsDeclarationWord word) (hword' : IsDeclarationWord word')
    (h : Written word closed source declaration) (h' : Written word' closed' source other)
    (hlt : declaration.start < other.start) : declaration.literalStart < other.start := by
  by_contra hnot
  obtain ⟨before, after, quote, tail, rest, htext, hbefore, hafter, hquote, _, _, hstart⟩ := h.parts
  obtain ⟨before', after', quote', tail', rest', htext', _⟩ := h'.parts
  obtain ⟨first, letters, rfl⟩ := List.exists_cons_of_ne_nil hword'.ne_nil
  obtain ⟨hfirst, _⟩ := Text.drop_eq_cons htext'
  obtain ⟨_, hblank, hcolon, hnoQuote⟩ := hword'.letters first List.mem_cons_self
  by_cases hinside : other.start ≤ declaration.start + word.length
  · -- Within the word, a letter of it stands before the other declaration.
    obtain ⟨place, hplace⟩ : ∃ place, other.start = declaration.start + place + 1 :=
      ⟨other.start - declaration.start - 1, by omega⟩
    have hletter : source[declaration.start + place]? = word[place]? := by
      rw [← List.getElem?_drop, htext, List.getElem?_append_left (by omega)]
    rw [List.getElem?_eq_getElem (show place < word.length by omega)] at hletter
    have hboundary := h'.boundary word[place] (by rw [hplace]; exact getLast?_take_succ hletter)
    rw [(hword.letters _ (List.getElem_mem _)).1] at hboundary
    cases hboundary
  · -- Behind the word, no letter stands before the quoted part.
    obtain ⟨place, hplace⟩ : ∃ place, other.start = declaration.start + word.length + place :=
      ⟨other.start - declaration.start - word.length, by omega⟩
    have hgap : source.drop (declaration.start + word.length) =
        (before ++ ':' :: (after ++ [quote])) ++ (tail ++ rest) := by
      rw [Text.drop_append htext]
      simp
    have hwithin : place < (before ++ ':' :: (after ++ [quote])).length := by
      simp only [List.length_append, List.length_cons, List.length_nil]
      omega
    rw [hplace, ← List.getElem?_drop, hgap, List.getElem?_append_left hwithin] at hfirst
    have hmem := List.mem_of_getElem? hfirst
    simp only [List.mem_append, List.mem_cons, List.not_mem_nil, or_false] at hmem
    obtain hmem | rfl | hmem | rfl := hmem
    · rw [hbefore first hmem] at hblank
      cases hblank
    · exact hcolon rfl
    · rw [hafter first hmem] at hblank
      cases hblank
    · rw [hquote] at hnoQuote
      cases hnoQuote

/-- A word that stands inside a quoted part stands there as a whole, because it has no quotes. -/
theorem Written.word_infix (hends : ∀ quote tail, closed quote tail → tail.getLast? = some quote)
    (hword' : IsDeclarationWord word') (h : Written word closed source declaration)
    (h' : Written word' closed' source other) (hwithin : other.StartsWithin declaration) :
    word' <:+: declaration.literal := by
  obtain ⟨rest, hdrop⟩ := h.drop_literalStart
  obtain ⟨_, _, quote, tail, _, _, _, _, hquote, hcloses, hliteral, _⟩ := h.parts
  obtain ⟨_, _, _, _, _, htext', _⟩ := h'.parts
  obtain ⟨hlt, hstop⟩ := hwithin
  obtain ⟨place, hplace⟩ : ∃ place, other.start = declaration.literalStart + place :=
    ⟨other.start - declaration.literalStart, by omega⟩
  have hinside : place < declaration.literal.length := by
    simp only [Declaration.stop] at hstop
    omega
  rw [hplace, ← List.drop_drop, hdrop, List.drop_append_of_le_length (Nat.le_of_lt hinside)] at htext'
  obtain ⟨inner, hinner, _⟩ | ⟨inner, hinner, _⟩ := List.append_eq_append_iff.mp htext'
  · -- The quoted part would end within the word, and it ends with a quote.
    have hlast : quote ∈ declaration.literal.drop place := by
      refine List.mem_of_getLast? ?_
      rw [List.getLast?_drop, if_neg (Nat.not_le_of_lt hinside), hliteral, List.getLast?_cons,
        hends quote tail hcloses]
      rfl
    have hletter := (hword'.letters quote (by rw [hinner]; exact List.mem_append_left _ hlast)).2.2.2
    rw [hquote] at hletter
    cases hletter
  · exact List.IsInfix.trans ⟨[], inner, by rw [List.nil_append, hinner]⟩ (List.drop_suffix place _).isInfix

end Words

theorem getLast?_of_fitsLiteral (quote : Char) (tail : Text) (h : FitsLiteral quote tail) :
    tail.getLast? = some quote := by
  obtain ⟨body, _, rfl⟩ := h
  exact List.getLast?_concat

theorem getLast?_of_fitsAddress (quote : Char) (tail : Text) (h : FitsAddress quote tail) :
    tail.getLast? = some quote := by
  obtain ⟨body, _, _, rfl⟩ := h
  exact List.getLast?_concat

/-- A declaration of one kind starts inside the quoted part of one of the other kind, in which its word
    stands. -/
inductive Nested (source : Text) : Declaration → Declaration → Prop where
  | address {template address : Declaration} (htemplate : template ∈ inlineTemplates source)
      (haddress : address ∈ templateAddresses source) (hwithin : address.StartsWithin template)
      (hword : "templateUrl".toList <:+: template.literal) : Nested source template address
  | template {address template : Declaration} (haddress : address ∈ templateAddresses source)
      (htemplate : template ∈ inlineTemplates source) (hwithin : template.StartsWithin address)
      (hword : "template".toList <:+: address.literal) : Nested source address template

/-- What holds along an ascending list holds of any two of its declarations, the earlier first. -/
theorem rel_of_start_lt {found : List Declaration} {rel : Declaration → Declaration → Prop}
    (hascend : found.Pairwise fun earlier later => earlier.start < later.start) (h : found.Pairwise rel)
    {earlier later : Declaration} (hearlier : earlier ∈ found) (hlater : later ∈ found)
    (hlt : earlier.start < later.start) : rel earlier later := by
  have hforward : found.Pairwise fun a b => a.start < b.start → rel a b :=
    h.imp fun {a b} (hrel : rel a b) (_ : a.start < b.start) => hrel
  have hbackward : found.Pairwise fun b a => a.start < b.start → rel a b :=
    hascend.imp fun hlt hgt => absurd hlt (Nat.lt_asymm hgt)
  have hself : ∀ a ∈ found, a.start < a.start → rel a a := fun _ _ hlt => absurd hlt (Nat.lt_irrefl _)
  exact List.Pairwise.forall_of_forall_of_flip hself hforward hbackward hearlier hlater hlt

/-- Declarations are disjoint or nested. -/
theorem stop_le_or_nested {source : Text} {earlier later : Declaration}
    (hearlier : earlier ∈ declarations source) (hlater : later ∈ declarations source)
    (hlt : earlier.start < later.start) : earlier.stop ≤ later.start ∨ Nested source earlier later := by
  have htemplates := lexedFrom_inlineTemplates source
  have haddresses := lexedFrom_templateAddresses source
  have hwithin : ¬ earlier.stop ≤ later.start → earlier.literalStart < later.start →
      later.StartsWithin earlier := fun hnot hstart => ⟨hstart, Nat.lt_of_not_le hnot⟩
  by_cases hnot : earlier.stop ≤ later.start
  · exact .inl hnot
  obtain htemplate | haddress := List.mem_append.mp ((perm_declarations source).mem_iff.mp hearlier)
  · have hwritten := htemplates.written earlier htemplate
    obtain htemplate' | haddress' := List.mem_append.mp ((perm_declarations source).mem_iff.mp hlater)
    · exact .inl (rel_of_start_lt htemplates.ascend htemplates.disjoint htemplate htemplate' hlt)
    · have hwritten' := haddresses.written later haddress'
      have hinside := hwithin hnot (hwritten.literalStart_lt_start isDeclarationWord_template
        isDeclarationWord_templateUrl hwritten' hlt)
      exact .inr (.address htemplate haddress' hinside
        (hwritten.word_infix getLast?_of_fitsLiteral isDeclarationWord_templateUrl hwritten' hinside))
  · have hwritten := haddresses.written earlier haddress
    obtain htemplate' | haddress' := List.mem_append.mp ((perm_declarations source).mem_iff.mp hlater)
    · have hwritten' := htemplates.written later htemplate'
      have hinside := hwithin hnot (hwritten.literalStart_lt_start isDeclarationWord_templateUrl
        isDeclarationWord_template hwritten' hlt)
      exact .inr (.template haddress htemplate' hinside
        (hwritten.word_infix getLast?_of_fitsAddress isDeclarationWord_template hwritten' hinside))
    · exact .inl (rel_of_start_lt haddresses.ascend haddresses.disjoint haddress haddress' hlt)

/-- The declarations are disjoint exactly if none starts inside the quoted part of another one. -/
theorem disjoint_declarations_iff (source : Text) :
    ((declarations source).Pairwise fun earlier later => earlier.stop ≤ later.start) ↔
      ∀ template ∈ inlineTemplates source, ∀ address ∈ templateAddresses source,
        ¬ address.StartsWithin template ∧ ¬ template.StartsWithin address := by
  constructor
  · intro h
    have hseparate : ∀ {a b : Declaration}, a ∈ declarations source → b ∈ declarations source →
        a.start ≤ a.literalStart → ¬ b.StartsWithin a := by
      rintro a b ha hb hlead ⟨hstart, hstop⟩
      have hdisjoint := rel_of_start_lt (declarations_ascend source) h ha hb (Nat.lt_of_le_of_lt hlead hstart)
      exact absurd hstop (Nat.not_lt_of_le hdisjoint)
    intro template htemplate address haddress
    have htemplate' := (perm_declarations source).mem_iff.mpr (List.mem_append_left _ htemplate)
    have haddress' := (perm_declarations source).mem_iff.mpr (List.mem_append_right _ haddress)
    exact ⟨hseparate htemplate' haddress'
        ((lexedFrom_inlineTemplates source).written template htemplate).start_le_literalStart,
      hseparate haddress' htemplate'
        ((lexedFrom_templateAddresses source).written address haddress).start_le_literalStart⟩
  · intro h
    refine (declarations_ascend source).imp_of_mem fun {earlier later} hearlier hlater hlt => ?_
    obtain hstop | hnested := stop_le_or_nested hearlier hlater hlt
    · exact hstop
    cases hnested with
    | address htemplate haddress hwithin _ => exact absurd hwithin (h _ htemplate _ haddress).1
    | template haddress htemplate hwithin _ => exact absurd hwithin (h _ htemplate _ haddress).2

/-- Every declaration of a component is taken once, in strictly ascending order, and where the addresses lead
    to texts, the templates are those of the declarations in this order. Declarations are disjoint or nested,
    so all of them are disjoint exactly if none starts inside the quoted part of one of the other kind, and in
    particular if no literal holds the word of an address and no address holds the word of a literal. -/
theorem load_declarations_disjoint (source : Text) :
    (declarations source).Perm (inlineTemplates source ++ templateAddresses source) ∧
      ((declarations source).Pairwise fun earlier later => earlier.start < later.start) ∧
      (∀ (files : FileSystem) (path : Path), files.readText path = .ok source →
        (∀ address ∈ templateAddresses source, LeadsToText files path address) →
        ∃ templates, load files path = .ok templates ∧
          List.Forall₂ (TakenAs files path source) (declarations source) templates) ∧
      ((declarations source).Pairwise fun earlier later =>
        earlier.stop ≤ later.start ∨ Nested source earlier later) ∧
      (((declarations source).Pairwise fun earlier later => earlier.stop ≤ later.start) ↔
        ∀ template ∈ inlineTemplates source, ∀ address ∈ templateAddresses source,
          ¬ address.StartsWithin template ∧ ¬ template.StartsWithin address) ∧
      ((∀ template ∈ inlineTemplates source, ¬ "templateUrl".toList <:+: template.literal) →
        (∀ address ∈ templateAddresses source, ¬ "template".toList <:+: address.literal) →
        (declarations source).Pairwise fun earlier later => earlier.stop ≤ later.start) := by
  have hnested : (declarations source).Pairwise fun earlier later =>
      earlier.stop ≤ later.start ∨ Nested source earlier later :=
    (declarations_ascend source).imp_of_mem fun hearlier hlater hlt => stop_le_or_nested hearlier hlater hlt
  refine ⟨perm_declarations source, declarations_ascend source, fun files path => exists_load, hnested,
    disjoint_declarations_iff source, fun htemplates haddresses => hnested.imp fun h => ?_⟩
  obtain hstop | hnested := h
  · exact hstop
  cases hnested with
  | address htemplate _ _ hword => exact absurd hword (htemplates _ htemplate)
  | template haddress _ _ hword => exact absurd hword (haddresses _ haddress)

/-- A template after an address, loaded in this order. -/
theorem load_declarations_disjoint_plain :
    let source : Text := "templateUrl:`b` template:'a'"
    let files : FileSystem := ⟨.directory [("b", .file (Utf8.encode "<b>")),
      ("c.ts", .file (Utf8.encode source))], ⟨"/", []⟩⟩
    inlineTemplates source = [⟨16, 25, "'a'"⟩] ∧ templateAddresses source = [⟨0, 12, "`b`"⟩] ∧
      (∃ templates, load files ⟨[], ["c.ts"]⟩ = .ok templates ∧
        List.Forall₂ (TakenAs files ⟨[], ["c.ts"]⟩ source) (declarations source) templates) ∧
      (declarations source).Pairwise fun earlier later => earlier.stop ≤ later.start := by
  intro source files
  have htemplates : inlineTemplates source = [⟨16, 25, "'a'"⟩] := by decide +kernel
  have haddresses : templateAddresses source = [⟨0, 12, "`b`"⟩] := by decide +kernel
  have hsource : files.readText ⟨[], ["c.ts"]⟩ = .ok source := by decide +kernel
  have htarget : files.readText ⟨"/", ["b"]⟩ = .ok "<b>" := by decide +kernel
  obtain ⟨_, _, hload, _, _, hdisjoint⟩ := load_declarations_disjoint source
  refine ⟨htemplates, haddresses, hload files _ hsource ?_, hdisjoint ?_ ?_⟩
  · rw [haddresses]
    exact List.forall_mem_singleton.mpr ⟨⟨"/", ["b"]⟩, "<b>", rfl, htarget⟩
  · rw [htemplates]
    exact List.forall_mem_singleton.mpr (by decide)
  · rw [haddresses]
    exact List.forall_mem_singleton.mpr (by decide)

/-- A literal in which an address is written: the address is taken too, the two overlap, and because there is
    no file where it leads, the component is not loaded, although it declares nothing but the literal. -/
theorem load_takes_address_in_literal :
    let source : Text := "template: \"templateUrl: 'b.html'\""
    let files : FileSystem := ⟨.directory [("c.ts", .file (Utf8.encode source))], ⟨"/", []⟩⟩
    let template : Declaration := ⟨0, 10, "\"templateUrl: 'b.html'\""⟩
    let address : Declaration := ⟨11, 24, "'b.html'"⟩
    inlineTemplates source = [template] ∧ templateAddresses source = [address] ∧
      address.StartsWithin template ∧
      ¬ (declarations source).Pairwise (fun earlier later => earlier.stop ≤ later.start) ∧
      load files ⟨[], ["c.ts"]⟩ = .error (.path .notFound "/b.html") := by
  intro source files template address
  have htemplates : inlineTemplates source = [template] := by decide +kernel
  have haddresses : templateAddresses source = [address] := by decide +kernel
  have hwithin : address.StartsWithin template := by
    constructor
    · decide
    · decide
  have hsource : files.readText ⟨[], ["c.ts"]⟩ = .ok source := by decide +kernel
  have hload : loadAddresses files ⟨[], ["c.ts"]⟩ [address] = .error (.path .notFound "/b.html") := rfl
  refine ⟨htemplates, haddresses, hwithin, fun hdisjoint => ?_, ?_⟩
  · have hnone := (disjoint_declarations_iff source).mp hdisjoint
    rw [htemplates, haddresses] at hnone
    exact (hnone template (List.mem_singleton.mpr rfl) address (List.mem_singleton.mpr rfl)).1 hwithin
  · simp only [load, hsource, bind, Except.bind, haddresses, hload]

end TemplateAudit.Component
