import TemplateAudit.Markup.Binding
import TemplateAudit.Proofs.Text.LowerCasePrefix
import TemplateAudit.Proofs.Text.Run

namespace TemplateAudit

namespace Binding

/-- The decorations of a name, with what stands before and behind it and what it binds. The letter case of
    the keywords does not matter. -/
inductive Decorates : Text → Text → BindingKind → Prop
  | twoWay : Decorates "[(" ")]" .input
  | input : Decorates "[" "]" .input
  | output : Decorates "(" ")" .output
  | bindon {opening : Text} (h : opening.map Char.toLower = "bindon-") : Decorates opening [] .input
  | bind {opening : Text} (h : opening.map Char.toLower = "bind-") : Decorates opening [] .input
  | on {opening : Text} (h : opening.map Char.toLower = "on-") : Decorates opening [] .output

/-- A wrapper surrounds what it is put around, and nothing else. -/
theorem Wrapper.surrounds_iff {wrapper : Wrapper} {raw : Text} :
    wrapper.surrounds raw = true ↔
      ∃ name, name ≠ [] ∧ raw = wrapper.opening ++ name ++ wrapper.closing := by
  simp only [surrounds, Bool.and_eq_true, decide_eq_true_eq, List.isPrefixOf_iff_prefix,
    List.isSuffixOf_iff_suffix]
  constructor
  · rintro ⟨⟨⟨rest, rfl⟩, hclosing⟩, hroom⟩
    rw [List.length_append] at hroom
    obtain ⟨name, rfl⟩ := List.suffix_of_suffix_length_le hclosing (List.suffix_append _ rest) (by omega)
    rw [List.length_append] at hroom
    exact ⟨name, List.ne_nil_of_length_pos (by omega), by simp⟩
  · rintro ⟨name, hname, rfl⟩
    have hpos := List.length_pos_iff.mpr hname
    refine ⟨⟨⟨name ++ wrapper.closing, by simp⟩, List.suffix_append _ _⟩, ?_⟩
    simp only [List.length_append]
    omega

/-- Between the two parts of a decoration stands the name. -/
theorem Wrapper.slice_decorated (wrapper : Wrapper) (name : Text) :
    (wrapper.opening ++ name ++ wrapper.closing).slice wrapper.opening.length
      ((wrapper.opening ++ name ++ wrapper.closing).length - wrapper.closing.length) = name := by
  have hdrop : (wrapper.opening ++ name ++ wrapper.closing).drop wrapper.opening.length =
      name ++ wrapper.closing := by simp
  refine Text.slice_of_drop hdrop ?_
  simp only [List.length_append]
  omega

/-- A keyword leads a name exactly if its letters, in any case, stand before it. -/
theorem keywordLeads_iff {raw : Text} {keyword : Text × BindingKind} (h : keyword ∈ keywords) :
    keywordLeads raw raw.lower keyword = true ↔
      ∃ opening name, name ≠ [] ∧ raw = opening ++ name ∧ opening.map Char.toLower = keyword.1 := by
  have hkeyword : keyword.1.all isPlainAscii = true ∧ keyword.1.getLast? ≠ some 'i' := by
    revert keyword
    decide
  have hascii := List.all_eq_true.mp hkeyword.1
  simp only [keywordLeads, Bool.and_eq_true, decide_eq_true_eq, List.isPrefixOf_iff_prefix]
  constructor
  · rintro ⟨hleads, hroom⟩
    refine ⟨raw.take keyword.1.length, raw.drop keyword.1.length, ?_, (List.take_append_drop _ raw).symm,
      map_toLower_take_of_prefix hascii hkeyword.2 hleads⟩
    refine List.ne_nil_of_length_pos ?_
    rw [List.length_drop]
    omega
  · rintro ⟨opening, name, hname, rfl, hopening⟩
    have hlength : opening.length = keyword.1.length := by rw [← hopening, List.length_map]
    have hpos := List.length_pos_iff.mpr hname
    have hascii : ∀ c ∈ opening, c.toNat < 0x80 := fun c hc =>
      toNat_lt_of_toLower (toNat_lt_of_isPlainAscii
        (hascii _ (hopening ▸ List.mem_map.mpr ⟨c, hc, rfl⟩)))
    rw [Text.lower, lowerFrom_append_ascii hascii, hopening, List.length_append]
    exact ⟨List.prefix_append _ _, by omega⟩

theorem classify_of_find? {wrapper : Wrapper} {name : Text}
    (h : wrappers.find? (·.surrounds (wrapper.opening ++ name ++ wrapper.closing)) = some wrapper) :
    classify (wrapper.opening ++ name ++ wrapper.closing) =
      ⟨wrapper.kind, name, wrapper.opening.length⟩ := by
  simp only [classify, h, Wrapper.slice_decorated]

/-- A name in a wrapper that no earlier wrapper surrounds is found in it. -/
theorem classify_of_wrapper (wrapper : Wrapper) (earlier : List Wrapper) {later : List Wrapper}
    (hwrappers : wrappers = earlier ++ wrapper :: later) {name : Text} (hname : name ≠ [])
    (hearlier : ∀ other ∈ earlier,
      ¬ other.surrounds (wrapper.opening ++ name ++ wrapper.closing) = true) :
    classify (wrapper.opening ++ name ++ wrapper.closing) =
      ⟨wrapper.kind, name, wrapper.opening.length⟩ := by
  refine classify_of_find? (List.find?_eq_some_iff_append.mpr ⟨Wrapper.surrounds_iff.mpr ⟨name, hname, rfl⟩,
    earlier, later, hwrappers, fun other hother => ?_⟩)
  rw [Bool.eq_false_iff.mpr (hearlier other hother)]
  rfl

/-- No wrapper surrounds what starts with a letter. -/
theorem find?_wrappers_of_letter {c : Char} (hc : c ≠ '[' ∧ c ≠ '(') (rest : Text) :
    wrappers.find? (·.surrounds (c :: rest)) = none := by
  have hstart : ∀ wrapper ∈ wrappers,
      wrapper.opening.head? = some '[' ∨ wrapper.opening.head? = some '(' := by decide
  refine List.find?_eq_none.mpr fun wrapper hwrapper hsurrounds => ?_
  obtain ⟨name, _, hraw⟩ := Wrapper.surrounds_iff.mp hsurrounds
  have hhead := congrArg List.head? hraw
  rw [List.append_assoc, List.head?_append, List.head?_cons] at hhead
  obtain hopening | hopening := hstart wrapper hwrapper
  · rw [hopening] at hhead
    exact hc.1 (Option.some.inj hhead)
  · rw [hopening] at hhead
    exact hc.2 (Option.some.inj hhead)

/-- No two keywords lead one name. -/
theorem keyword_unique {raw : Text} {keyword other : Text × BindingKind} (hkeyword : keyword ∈ keywords)
    (hother : other ∈ keywords) (hleads : keywordLeads raw raw.lower keyword = true)
    (hothers : keywordLeads raw raw.lower other = true) : keyword = other := by
  have hapart : ∀ first ∈ keywords, ∀ second ∈ keywords, first.1 <+: second.1 → first = second := by
    decide
  have hstarts : ∀ keyword ∈ keywords, keywordLeads raw raw.lower keyword = true →
      keyword.1 <+: raw.map Char.toLower := by
    intro keyword hmem hleads
    obtain ⟨opening, name, _, rfl, hopening⟩ := (keywordLeads_iff hmem).mp hleads
    exact ⟨name.map Char.toLower, by rw [List.map_append, hopening]⟩
  obtain hprefix | hprefix := List.prefix_or_prefix_of_prefix (hstarts _ hkeyword hleads)
    (hstarts _ hother hothers)
  · exact hapart _ hkeyword _ hother hprefix
  · exact (hapart _ hother _ hkeyword hprefix).symm

/-- A name behind a keyword is what the keyword binds. -/
theorem classify_of_keyword (keyword : Text × BindingKind) (h : keyword ∈ keywords) {opening name : Text}
    (hopening : opening.map Char.toLower = keyword.1) (hname : name ≠ []) :
    classify (opening ++ name) = ⟨keyword.2, name, opening.length⟩ := by
  have hletter : ∃ c rest, opening = c :: rest ∧ c ≠ '[' ∧ c ≠ '(' := by
    have hhead : ∀ keyword ∈ keywords,
        keyword.1 ≠ [] ∧ Char.toLower '[' ∉ keyword.1 ∧ Char.toLower '(' ∉ keyword.1 := by
      decide
    obtain ⟨hne, hsquare, hround⟩ := hhead keyword h
    rw [← hopening] at hne hsquare hround
    cases opening with
    | nil => exact absurd rfl hne
    | cons c rest =>
      refine ⟨c, rest, rfl, ?_, ?_⟩
      · rintro rfl
        exact hsquare List.mem_cons_self
      · rintro rfl
        exact hround List.mem_cons_self
  have hfound : keywords.find? (keywordLeads (opening ++ name) (opening ++ name).lower) = some keyword := by
    have hleads := (keywordLeads_iff h).mpr ⟨opening, name, hname, rfl, hopening⟩
    obtain ⟨found, hfind⟩ := Option.isSome_iff_exists.mp (List.find?_isSome.mpr ⟨keyword, h, hleads⟩)
    rw [hfind, keyword_unique (List.mem_of_find?_eq_some hfind) h (List.find?_some hfind) hleads]
  have hlength : opening.length = keyword.1.length := by rw [← hopening, List.length_map]
  obtain ⟨c, rest, rfl, hc⟩ := hletter
  have hnone : wrappers.find? (·.surrounds (c :: rest ++ name)) = none :=
    find?_wrappers_of_letter hc (rest ++ name)
  simp only [classify, hnone, hfound]
  rw [← hlength, List.drop_left]

/-- A decorated name splits into its decoration and the name, a name in parentheses within square brackets
    excepted. -/
theorem Decorates.classify_eq {opening closing name : Text} {kind : BindingKind}
    (h : Decorates opening closing kind) (hname : name ≠ [])
    (hplain : opening = "[" → ∀ inner : Text, inner ≠ [] → name ≠ "(" ++ inner ++ ")") :
    classify (opening ++ name ++ closing) = ⟨kind, name, opening.length⟩ := by
  cases h with
  | twoWay =>
    exact classify_of_wrapper ⟨"[(", ")]", .input⟩ [] rfl hname
      (List.forall_mem_nil _)
  | input =>
    refine classify_of_wrapper ⟨"[", "]", .input⟩ [_] rfl hname
      (List.forall_mem_singleton.mpr fun htwoWay => ?_)
    obtain ⟨inner, hinner, hraw⟩ := Wrapper.surrounds_iff.mp htwoWay
    refine hplain rfl inner hinner ?_
    have hsame : ("[" : Text) ++ name ++ "]" = "[" ++ ("(" ++ inner ++ ")") ++ "]" := by
      rw [hraw]
      simp
    exact List.append_cancel_left (List.append_cancel_right hsame)
  | output =>
    refine classify_of_wrapper ⟨"(", ")", .output⟩ [_, _] rfl hname ?_
    intro other hother hsurrounds
    have hopening : other.opening.head? = some '[' := by
      simp only [List.mem_cons, List.not_mem_nil, or_false] at hother
      obtain rfl | rfl := hother <;> rfl
    obtain ⟨inner, _, hraw⟩ := Wrapper.surrounds_iff.mp hsurrounds
    have hhead := congrArg List.head? hraw
    rw [List.append_assoc other.opening, List.head?_append (l := other.opening), hopening] at hhead
    exact absurd (Option.some.inj hhead) (by decide)
  | bindon hopening =>
    rw [List.append_nil]
    exact classify_of_keyword ("bindon-", .input) (by decide) hopening hname
  | bind hopening =>
    rw [List.append_nil]
    exact classify_of_keyword ("bind-", .input) (by decide) hopening hname
  | on hopening =>
    rw [List.append_nil]
    exact classify_of_keyword ("on-", .output) (by decide) hopening hname

/-- Every wrapper in the table decorates a name. -/
theorem decorates_of_mem_wrappers {wrapper : Wrapper} (h : wrapper ∈ wrappers) :
    Decorates wrapper.opening wrapper.closing wrapper.kind := by
  simp only [wrappers, List.mem_cons, List.not_mem_nil, or_false] at h
  obtain rfl | rfl | rfl := h
  · exact .twoWay
  · exact .input
  · exact .output

/-- Every keyword in the table decorates a name, in any case of its letters. -/
theorem decorates_of_mem_keywords {keyword : Text × BindingKind} (h : keyword ∈ keywords) {opening : Text}
    (hopening : opening.map Char.toLower = keyword.1) : Decorates opening [] keyword.2 := by
  simp only [keywords, List.mem_cons, List.not_mem_nil, or_false] at h
  obtain rfl | rfl | rfl := h
  · exact .bindon hopening
  · exact .bind hopening
  · exact .on hopening

/-- Every name is decorated and splits accordingly, or it is plain. -/
theorem classify_cases (raw : Text) :
    (∃ opening closing name kind, Decorates opening closing kind ∧ name ≠ [] ∧
        raw = opening ++ name ++ closing ∧ classify raw = ⟨kind, name, opening.length⟩) ∨
      classify raw = ⟨.plain, raw, 0⟩ := by
  cases hwrapper : wrappers.find? (·.surrounds raw) with
  | some wrapper =>
    have hsurrounds : wrapper.surrounds raw = true := by simpa using List.find?_some hwrapper
    obtain ⟨name, hname, rfl⟩ := Wrapper.surrounds_iff.mp hsurrounds
    exact .inl ⟨_, _, name, _, decorates_of_mem_wrappers (List.mem_of_find?_eq_some hwrapper), hname, rfl,
      classify_of_find? hwrapper⟩
  | none =>
    cases hkeyword : keywords.find? (keywordLeads raw raw.lower) with
    | some keyword =>
      have hmem := List.mem_of_find?_eq_some hkeyword
      obtain ⟨opening, name, hname, rfl, hopening⟩ :=
        (keywordLeads_iff hmem).mp (List.find?_some hkeyword)
      exact .inl ⟨opening, [], name, keyword.2, decorates_of_mem_keywords hmem hopening, hname,
        (List.append_nil _).symm, classify_of_keyword keyword hmem hopening hname⟩
    | none => exact .inr (by simp only [classify, hwrapper, hkeyword])

theorem Decorates.ne_plain {opening closing : Text} {kind : BindingKind}
    (h : Decorates opening closing kind) : kind ≠ .plain := by
  cases h <;> exact fun hkind => by cases hkind

/-- Splitting a name loses nothing: the name is its logical name with a decoration around it, or it is plain
    and stays whole, which it does exactly if no decoration surrounds a part of it. Every decorated name
    splits into the decoration and the name in it, except that a name in parentheses within square brackets
    is the two-way form of what the parentheses hold. -/
theorem classify_inverts_decoration (raw : Text) :
    (∃ opening closing, raw = opening ++ (classify raw).logicalName ++ closing ∧
        (classify raw).offset = opening.length ∧
        (Decorates opening closing (classify raw).kind ∨
          opening = [] ∧ closing = [] ∧ (classify raw).kind = .plain)) ∧
      (raw ≠ [] → (classify raw).logicalName ≠ []) ∧
      ((classify raw).kind = .plain ↔ ∀ opening closing name kind, Decorates opening closing kind →
        name ≠ [] → raw ≠ opening ++ name ++ closing) ∧
      ∀ opening closing name kind, Decorates opening closing kind → name ≠ [] →
        raw = opening ++ name ++ closing →
          classify raw = ⟨kind, name, opening.length⟩ ∨
            ∃ inner : Text, inner ≠ [] ∧ opening = "[" ∧ name = "(" ++ inner ++ ")" ∧
              classify raw = ⟨.input, inner, 2⟩ := by
  have hdecorated : ∀ opening closing name kind, Decorates opening closing kind → name ≠ [] →
      raw = opening ++ name ++ closing →
        classify raw = ⟨kind, name, opening.length⟩ ∨
          ∃ inner : Text, inner ≠ [] ∧ opening = "[" ∧ name = "(" ++ inner ++ ")" ∧
            classify raw = ⟨.input, inner, 2⟩ := by
    rintro opening closing name kind hform hname rfl
    by_cases htwoWay : ∃ inner : Text, inner ≠ [] ∧ opening = "[" ∧ name = "(" ++ inner ++ ")"
    · obtain ⟨inner, hinner, rfl, rfl⟩ := htwoWay
      refine .inr ⟨inner, hinner, rfl, rfl, ?_⟩
      have hclosing : closing = "]" := by
        generalize hopening : (("[" : String).toList : Text) = opening at hform
        cases hform with
        | twoWay => exact absurd hopening (by decide)
        | input => rfl
        | output => exact absurd hopening (by decide)
        | bindon h => exact absurd h (by rw [← hopening]; decide)
        | bind h => exact absurd h (by rw [← hopening]; decide)
        | on h => exact absurd h (by rw [← hopening]; decide)
      have hraw : ("[" : Text) ++ ("(" ++ inner ++ ")") ++ closing = "[(" ++ inner ++ ")]" := by
        rw [hclosing]
        simp
      rw [hraw]
      exact Decorates.twoWay.classify_eq hinner fun h => absurd h (by decide)
    · exact .inl (hform.classify_eq hname fun hopening inner hinner hsame =>
        htwoWay ⟨inner, hinner, hopening, hsame⟩)
  refine ⟨?_, ?_, ?_, hdecorated⟩
  · obtain ⟨opening, closing, name, kind, hform, _, hraw, hclassify⟩ | hclassify := classify_cases raw
    · rw [hclassify]
      exact ⟨opening, closing, hraw, rfl, .inl hform⟩
    · rw [hclassify]
      exact ⟨[], [], by simp, rfl, .inr ⟨rfl, rfl, rfl⟩⟩
  · intro hraw
    obtain ⟨_, _, name, _, _, hname, _, hclassify⟩ | hclassify := classify_cases raw
    · rw [hclassify]
      exact hname
    · rw [hclassify]
      exact hraw
  · constructor
    · intro hkind opening closing name kind hform hname hraw
      obtain hclassify | ⟨_, _, _, _, hclassify⟩ := hdecorated opening closing name kind hform hname hraw
      · rw [hclassify] at hkind
        exact hform.ne_plain hkind
      · rw [hclassify] at hkind
        cases hkind
    · intro hnone
      obtain ⟨opening, closing, name, kind, hform, hname, hraw, _⟩ | hclassify := classify_cases raw
      · exact absurd hraw (hnone opening closing name kind hform hname)
      · rw [hclassify]

example : classify "[(ngModel)]" = ⟨.input, "ngModel", 2⟩ := by decide

end Binding

end TemplateAudit
