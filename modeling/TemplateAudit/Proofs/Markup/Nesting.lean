import TemplateAudit.Proofs.Markup.Binding

namespace TemplateAudit

/-- The bracket that closes an opening one. -/
def closer? : Char → Option Char
  | '[' => some ']'
  | '(' => some ')'
  | _ => none

/-- Whether a character is a closing bracket. -/
def isCloser (c : Char) : Bool := c == ']' || c == ')'

namespace Text

/-- Every bracket of the text has its partner, and what stands between two partners is such a text, too. -/
inductive IsNested : Text → Prop where
  | nil : IsNested []
  | char {c : Char} {rest : Text} (hopens : closer? c = none) (hcloses : isCloser c = false)
      (hrest : IsNested rest) : IsNested (c :: rest)
  | group {opening closing : Char} {inner rest : Text} (hpartners : closer? opening = some closing)
      (hinner : IsNested inner) (hrest : IsNested rest) : IsNested (opening :: (inner ++ closing :: rest))

/-- The first bracket of the text is closed at its end: the text is nested, and no beginning of it is. -/
structure IsGroup (text : Text) : Prop where
  nested : text.IsNested
  whole : ∀ first rest, text = first ++ rest → first ≠ [] → rest ≠ [] → ¬ first.IsNested

/-- The brackets to be closed after a text, the nearest first, where `due` were to be closed before it; none if
    another bracket is closed than the nearest. -/
def dueAfter? (due : Text) : Text → Option Text
  | [] => some due
  | c :: rest =>
    match closer? c with
    | some closing => dueAfter? (closing :: due) rest
    | none =>
      if isCloser c then
        match due with
        | [] => none
        | nearest :: later => if c = nearest then dueAfter? later rest else none
      else dueAfter? due rest

theorem isCloser_of_closer? {opening closing : Char} (h : closer? opening = some closing) :
    isCloser closing = true ∧ closer? closing = none := by
  unfold closer? at h
  split at h
  · obtain rfl := Option.some.inj h
    decide
  · obtain rfl := Option.some.inj h
    decide
  · cases h

/-- The brackets that are due behind two texts are found behind one and then the other. -/
theorem dueAfter?_append (due first rest : Text) :
    dueAfter? due (first ++ rest) = (dueAfter? due first).bind (dueAfter? · rest) := by
  fun_induction dueAfter? due first with
  | case1 due => rfl
  | case2 due c first closing hopens ih => simpa [dueAfter?, hopens] using ih
  | case3 c first hopens hcloses => simp [dueAfter?, hopens, hcloses]
  | case4 first nearest later hopens hcloses ih => simpa [dueAfter?, hopens, hcloses] using ih
  | case5 c first hopens hcloses nearest later hother => simp [dueAfter?, hopens, hcloses, hother]
  | case6 due c first hopens hcloses ih => simpa [dueAfter?, hopens, hcloses] using ih

/-- A closing bracket is taken if it is the nearest due. -/
theorem dueAfter?_closer {closing : Char} (h : isCloser closing = true ∧ closer? closing = none)
    (due rest : Text) : dueAfter? (closing :: due) (closing :: rest) = dueAfter? due rest := by
  simp [dueAfter?, h.1, h.2]

namespace IsNested

/-- A nested text leaves everything due as it was. -/
theorem dueAfter?_eq {text : Text} (h : text.IsNested) (due : Text) : dueAfter? due text = some due := by
  induction h generalizing due with
  | nil => rfl
  | char hopens hcloses _ ih =>
    simp only [dueAfter?, hopens, hcloses, Bool.false_eq_true, if_false]
    exact ih due
  | group hpartners _ _ ihInner ihRest =>
    simp only [dueAfter?, hpartners]
    rw [dueAfter?_append, ihInner, Option.bind_some, dueAfter?_closer (isCloser_of_closer? hpartners)]
    exact ihRest due

/-- Two nested texts make one. -/
theorem append {first rest : Text} (h : first.IsNested) (hrest : rest.IsNested) : (first ++ rest).IsNested := by
  induction h with
  | nil => exact hrest
  | char hopens hcloses _ ih => exact .char hopens hcloses ih
  | group hpartners hinner _ _ ih =>
    rw [List.cons_append, List.append_assoc]
    exact .group hpartners hinner ih

/-- No nested text goes on from a nested beginning with a closing bracket. -/
theorem not_closer {inner rest : Text} (h : inner.IsNested) {closing : Char} (hcloses : isCloser closing = true)
    (hopens : closer? closing = none) : ¬ (inner ++ closing :: rest).IsNested := by
  intro hnested
  have hdue := hnested.dueAfter?_eq []
  rw [dueAfter?_append, h.dueAfter?_eq, Option.bind_some] at hdue
  simp [dueAfter?, hopens, hcloses] at hdue

/-- A nested text that starts with a bracket starts with a group. -/
theorem group_of_opening {opening closing : Char} {rest : Text} (h : IsNested (opening :: rest))
    (hpartners : closer? opening = some closing) :
    ∃ inner after : Text, rest = inner ++ closing :: after ∧ inner.IsNested ∧ after.IsNested := by
  cases h with
  | char hopens _ _ =>
    rw [hpartners] at hopens
    cases hopens
  | group hpartners' hinner hrest =>
    obtain rfl := Option.some.inj (hpartners.symm.trans hpartners')
    exact ⟨_, _, rfl, hinner, hrest⟩

end IsNested

/-- The text closes the brackets that are due, one after another, and is nested but for them. -/
def Closes : Text → Text → Prop
  | [], text => text.IsNested
  | nearest :: later, text => ∃ inner rest, text = inner ++ nearest :: rest ∧ inner.IsNested ∧ Closes later rest

theorem Closes.behind {first : Text} (h : first.IsNested) {due text : Text} (hcloses : Closes due text) :
    Closes due (first ++ text) := by
  cases due with
  | nil => exact h.append hcloses
  | cons nearest later =>
    obtain ⟨inner, rest, rfl, hinner, hrest⟩ := hcloses
    exact ⟨first ++ inner, rest, by rw [List.append_assoc], h.append hinner, hrest⟩

/-- A text that leaves nothing due closes what was due before it. -/
theorem closes_of_dueAfter? {due text : Text} (h : dueAfter? due text = some []) : Closes due text := by
  fun_induction dueAfter? due text with
  | case1 due =>
    obtain rfl := Option.some.inj h
    exact .nil
  | case2 due c rest closing hopens ih =>
    obtain ⟨inner, after, rfl, hinner, hafter⟩ := ih h
    have hgroup : IsNested (c :: (inner ++ [closing])) := .group hopens hinner .nil
    have hsplit : c :: (inner ++ closing :: after) = c :: (inner ++ [closing]) ++ after := by simp
    rw [hsplit]
    exact hafter.behind hgroup
  | case3 => cases h
  | case4 rest nearest later hopens hcloses ih => exact ⟨[], rest, rfl, .nil, ih h⟩
  | case5 => cases h
  | case6 due c rest hopens hcloses ih =>
    have hchar : IsNested [c] := .char hopens (Bool.eq_false_iff.mpr hcloses) .nil
    exact (ih h).behind hchar

/-- A text is nested exactly if reading it leaves no bracket to be closed. -/
theorem isNested_iff {text : Text} : text.IsNested ↔ dueAfter? [] text = some [] :=
  ⟨fun h => h.dueAfter?_eq [], closes_of_dueAfter?⟩

instance (text : Text) : Decidable text.IsNested := decidable_of_iff _ isNested_iff.symm

/-- Brackets around a text close each other exactly if the text is nested. -/
theorem isGroup_iff {opening closing : Char} (hpartners : closer? opening = some closing) (inner : Text) :
    IsGroup (opening :: (inner ++ [closing])) ↔ inner.IsNested := by
  have hcloser := isCloser_of_closer? hpartners
  constructor
  · intro hgroup
    obtain ⟨body, after, hsplit, hbody, _⟩ := hgroup.nested.group_of_opening hpartners
    by_cases hafter : after = []
    · rw [hafter] at hsplit
      rw [List.append_cancel_right hsplit]
      exact hbody
    · -- The first bracket is closed earlier, so that a beginning of the text is a group already.
      refine absurd (.group hpartners hbody .nil) (hgroup.whole (opening :: (body ++ [closing])) after ?_ ?_ hafter)
      · simp [hsplit]
      · exact List.cons_ne_nil _ _
  · intro hinner
    refine ⟨.group hpartners hinner .nil, ?_⟩
    intro first rest hsplit hfirst hrest hnested
    obtain ⟨c, first, rfl⟩ := List.exists_cons_of_ne_nil hfirst
    rw [List.cons_append] at hsplit
    obtain ⟨rfl, htail⟩ := List.cons.inj hsplit
    obtain ⟨body, after, rfl, hbody, _⟩ := hnested.group_of_opening hpartners
    -- What is left over holds at least the last bracket, so the earlier one stands inside.
    have hinside : inner = body ++ closing :: (after ++ rest.dropLast) := by
      have hdrop := congrArg List.dropLast htail
      rw [List.dropLast_concat, List.dropLast_append_of_ne_nil hrest, List.append_assoc] at hdrop
      exact hdrop
    rw [hinside] at hinner
    exact hbody.not_closer hcloser.1 hcloser.2 hinner

end Text

namespace Binding

/-- A name that starts with a bracket is in one of the bracketed forms, or it is plain. -/
theorem classify_bracketed_cases {raw : Text} (h : raw.head? = some '[' ∨ raw.head? = some '(') :
    (∃ wrapper ∈ wrappers, ∃ name, name ≠ [] ∧ raw = wrapper.opening ++ name ++ wrapper.closing ∧
        classify raw = ⟨wrapper.kind, name, wrapper.opening.length⟩) ∨
      (∀ wrapper ∈ wrappers, ¬ wrapper.surrounds raw = true) ∧ classify raw = ⟨.plain, raw, 0⟩ := by
  cases hwrapper : wrappers.find? (·.surrounds raw) with
  | some wrapper =>
    have hsurrounds : wrapper.surrounds raw = true := by simpa using List.find?_some hwrapper
    obtain ⟨name, hname, rfl⟩ := Wrapper.surrounds_iff.mp hsurrounds
    exact .inl ⟨wrapper, List.mem_of_find?_eq_some hwrapper, name, hname, rfl, classify_of_find? hwrapper⟩
  | none =>
    refine .inr ⟨by simpa using hwrapper, ?_⟩
    have hkeyword : keywords.find? (keywordLeads raw raw.lower) = none := by
      refine List.find?_eq_none.mpr fun keyword hmem hleads => ?_
      obtain ⟨opening, name, _, rfl, hopening⟩ := (keywordLeads_iff hmem).mp hleads
      have hletters : ∀ keyword ∈ keywords, keyword.1 ≠ [] ∧
          keyword.1.head? ≠ some (Char.toLower '[') ∧ keyword.1.head? ≠ some (Char.toLower '(') := by
        decide
      obtain ⟨hne, hsquare, hround⟩ := hletters keyword hmem
      rw [← hopening] at hne hsquare hround
      cases opening with
      | nil => exact hne rfl
      | cons c rest =>
        obtain hc | hc := h
        · exact hsquare (congrArg (Option.map Char.toLower) hc)
        · exact hround (congrArg (Option.map Char.toLower) hc)
    simp only [classify, hwrapper, hkeyword]

/-- A name of more than two characters that ends with the bracket that closes its first one is surrounded. -/
theorem exists_surrounds {raw : Text} (h : raw.head? = some '[' ∨ raw.head? = some '(') (hlength : 2 < raw.length)
    (hlast : raw.getLast? = raw.head?.bind closer?) : ∃ wrapper ∈ wrappers, wrapper.surrounds raw = true := by
  have hends : ∀ opening closing : Char, raw.head? = some opening → raw.getLast? = some closing →
      ∀ kind, Wrapper.surrounds ⟨[opening], [closing], kind⟩ raw = true := by
    intro opening closing hopening hclosing kind
    obtain ⟨rest, hrest⟩ := List.head?_eq_some_iff.mp hopening
    obtain ⟨init, hinit⟩ := List.getLast?_eq_some_iff.mp hclosing
    simp only [Wrapper.surrounds, Bool.and_eq_true, decide_eq_true_eq, List.isPrefixOf_iff_prefix,
      List.isSuffixOf_iff_suffix]
    exact ⟨⟨⟨rest, hrest.symm⟩, ⟨init, hinit.symm⟩⟩, hlength⟩
  obtain hsquare | hround := h
  · rw [hsquare] at hlast
    exact ⟨⟨"[", "]", .input⟩, by simp [wrappers], hends '[' ']' hsquare hlast .input⟩
  · rw [hround] at hlast
    exact ⟨⟨"(", ")", .output⟩, by simp [wrappers], hends '(' ')' hround hlast .output⟩

/-- The last bracket of a wrapper closes its first one. -/
theorem exists_ends_of_mem_wrappers {wrapper : Wrapper} (h : wrapper ∈ wrappers) :
    ∃ first more before last, wrapper.opening = first :: more ∧ wrapper.closing = before ++ [last] ∧
      closer? first = some last := by
  simp only [wrappers, List.mem_cons, List.not_mem_nil, or_false] at h
  obtain rfl | rfl | rfl := h
  · exact ⟨'[', ['('], [')'], ']', rfl, rfl, rfl⟩
  · exact ⟨'[', [], [], ']', rfl, rfl, rfl⟩
  · exact ⟨'(', [], [], ')', rfl, rfl, rfl⟩

/-- A name in a wrapper ends with the bracket that closes its first one, and has more than these. -/
theorem ends_of_wrapper {wrapper : Wrapper} (h : wrapper ∈ wrappers) {name : Text} (hname : name ≠ []) :
    2 < (wrapper.opening ++ name ++ wrapper.closing).length ∧
      (wrapper.opening ++ name ++ wrapper.closing).getLast? =
        (wrapper.opening ++ name ++ wrapper.closing).head?.bind closer? := by
  have hpos := List.length_pos_iff.mpr hname
  obtain ⟨first, more, before, last, hopening, hclosing, hpartners⟩ := exists_ends_of_mem_wrappers h
  rw [hopening, hclosing]
  constructor
  · simp only [List.length_append, List.length_cons, List.length_nil]
    omega
  · rw [← List.append_assoc, List.getLast?_concat]
    exact hpartners.symm

/-- Around the name stand an opening bracket and the one that closes it. -/
theorem exists_innermost {wrapper : Wrapper} (h : wrapper ∈ wrappers) (name : Text) :
    ∃ opening closing, closer? opening = some closing ∧
      (wrapper.opening ++ name ++ wrapper.closing).slice (wrapper.opening.length - 1)
          ((wrapper.opening ++ name ++ wrapper.closing).length - (wrapper.opening.length - 1)) =
        opening :: (name ++ [closing]) := by
  simp only [wrappers, List.mem_cons, List.not_mem_nil, or_false] at h
  obtain rfl | rfl | rfl := h
  · have hdrop : (("[(" : Text) ++ name ++ ")]").drop 1 = '(' :: (name ++ [')']) ++ [']'] := by simp
    refine ⟨'(', ')', rfl, Text.slice_of_drop hdrop ?_⟩
    simp
    omega
  · have hdrop : (("[" : Text) ++ name ++ "]").drop 0 = '[' :: (name ++ [']']) ++ [] := by simp
    exact ⟨'[', ']', rfl, Text.slice_of_drop hdrop (by simp)⟩
  · have hdrop : (("(" : Text) ++ name ++ ")").drop 0 = '(' :: (name ++ [')']) ++ [] := by simp
    exact ⟨'(', ')', rfl, Text.slice_of_drop hdrop (by simp)⟩

/-- A text without brackets is nested. -/
theorem isNested_of_no_bracket {text : Text} (h : ∀ c ∈ text, closer? c = none ∧ isCloser c = false) :
    text.IsNested := by
  induction text with
  | nil => exact .nil
  | cons c rest ih =>
    obtain ⟨⟨hopens, hcloses⟩, hrest⟩ := List.forall_mem_cons.mp h
    exact .char hopens hcloses (ih hrest)

/-- A name that starts with a bracket is split by its ends alone. It is plain exactly if it does not end with the
    bracket that closes its first one, or is nothing but these two. If it is not plain, its logical name has its
    brackets in order exactly if the innermost brackets of the decoration close each other, which they do around
    every name without brackets; and the logical name is an empty pair of brackets for six names in all. -/
theorem classify_bracketed {raw : Text} (h : raw.head? = some '[' ∨ raw.head? = some '(') :
    ((classify raw).kind = .plain ↔ classify raw = ⟨.plain, raw, 0⟩) ∧
      ((classify raw).kind = .plain ↔ raw.length ≤ 2 ∨ raw.getLast? ≠ raw.head?.bind closer?) ∧
      ((classify raw).kind ≠ .plain →
        ((classify raw).logicalName.IsNested ↔
          (raw.slice ((classify raw).offset - 1) (raw.length - ((classify raw).offset - 1))).IsGroup) ∧
        ((∀ c ∈ (classify raw).logicalName, closer? c = none ∧ isCloser c = false) →
          (classify raw).logicalName.IsNested) ∧
        ((classify raw).logicalName = "()" ∨ (classify raw).logicalName = "[]" ↔
          raw ∈ ["(())".toList, "[[]]", "([])", "[()]", "[(())]", "[([])]"])) := by
  have hsix : ∀ raw ∈ ["(())".toList, "[[]]", "([])", "[()]", "[(())]", "[([])]"],
      (classify raw).logicalName = "()" ∨ (classify raw).logicalName = "[]" := by
    decide
  have hempty : (∀ wrapper ∈ wrappers, wrapper.opening ++ "()" ++ wrapper.closing ∈
        ["(())".toList, "[[]]", "([])", "[()]", "[(())]", "[([])]"]) ∧
      ∀ wrapper ∈ wrappers, wrapper.opening ++ "[]" ++ wrapper.closing ∈
        ["(())".toList, "[[]]", "([])", "[()]", "[(())]", "[([])]"] := by
    decide
  obtain ⟨wrapper, hwrapper, name, hname, rfl, hclassify⟩ | ⟨hnone, hclassify⟩ := classify_bracketed_cases h
  · have hkind := (decorates_of_mem_wrappers hwrapper).ne_plain
    obtain ⟨hlength, hlast⟩ := ends_of_wrapper hwrapper hname
    rw [hclassify]
    refine ⟨iff_of_false hkind fun hplain => hkind (congrArg Binding.kind hplain), iff_of_false hkind ?_,
      fun _ => ⟨?_, isNested_of_no_bracket, ?_⟩⟩
    · rintro (hshort | hother)
      · omega
      · exact hother hlast
    · obtain ⟨opening, closing, hpartners, hslice⟩ := exists_innermost hwrapper name
      rw [hslice, Text.isGroup_iff hpartners]
    · constructor
      · rintro (rfl | rfl)
        · exact hempty.1 wrapper hwrapper
        · exact hempty.2 wrapper hwrapper
      · intro hraw
        have hname := hsix _ hraw
        rwa [hclassify] at hname
  · rw [hclassify]
    refine ⟨iff_of_true rfl rfl, iff_of_true rfl ?_, fun hkind => absurd rfl hkind⟩
    by_contra hends
    rw [not_or, Nat.not_le, not_not] at hends
    obtain ⟨wrapper, hwrapper, hsurrounds⟩ := exists_surrounds h hends.1 hends.2
    exact hnone wrapper hwrapper hsurrounds

/-- Two groups side by side pass for a bracketed name, and the brackets of its logical name are out of order. -/
theorem classify_bracketed_two_groups :
    (("[a][b]" : Text).head? = some '[' ∨ ("[a][b]" : Text).head? = some '(') ∧
      classify "[a][b]" = ⟨.input, "a][b", 1⟩ ∧ ¬ Text.IsNested "a][b" ∧ ¬ Text.IsGroup "[a][b]" := by
  have hclassify : classify "[a][b]" = ⟨.input, "a][b", 1⟩ := by decide
  have hnested : ¬ Text.IsNested "a][b" := by decide
  have hhead : ("[a][b]" : Text).head? = some '[' ∨ ("[a][b]" : Text).head? = some '(' := .inl (by decide)
  obtain ⟨_, _, hsplit⟩ := classify_bracketed hhead
  obtain ⟨hinOrder, _, _⟩ := hsplit (by decide)
  rw [hclassify] at hinOrder
  exact ⟨hhead, hclassify, hnested, fun hgroup => hnested (hinOrder.mpr hgroup)⟩

/-- Empty decoration is taken for the name in square brackets, and so is a bracket without partner: not every
    bracketed name that is not plain has a logical name with its brackets in order that is more than an empty
    pair of them. -/
theorem classify_takes_empty_decoration :
    classify "[()]" = ⟨.input, "()", 1⟩ ∧ classify "[(x]" = ⟨.input, "(x", 1⟩ ∧
      ¬ ∀ raw : Text, raw.head? = some '[' ∨ raw.head? = some '(' → (classify raw).kind ≠ .plain →
        (classify raw).logicalName.IsNested ∧ (classify raw).logicalName ≠ "()" ∧
          (classify raw).logicalName ≠ "[]" := by
  refine ⟨by decide, by decide, fun h => ?_⟩
  obtain ⟨_, hround, _⟩ := h "[()]" (.inl (by decide)) (by decide)
  exact hround (by decide)

end Binding

end TemplateAudit
