import TemplateAudit.Proofs.Json.Scalar

namespace TemplateAudit.Json

/-- A value that can be read back with `depth` levels of nesting left. -/
inductive Readable : Nat → Json → Prop where
  | null {depth : Nat} : Readable depth .null
  | bool {depth : Nat} (value : Bool) : Readable depth (.bool value)
  | int {depth : Nat} {n : Int} (hn : Numeral.isTooLong n = false) : Readable depth (.int n)
  | string {depth : Nat} (text : Text) : Readable depth (.string text)
  | emptyArray {depth : Nat} : Readable depth (.array [])
  | emptyObject {depth : Nat} : Readable depth (.object [])
  | array {depth : Nat} {items : List Json} (hitems : ∀ item ∈ items, Readable depth item) :
      Readable (depth + 1) (.array items)
  | object {depth : Nat} {members : List (Text × Json)}
      (hmembers : ∀ member ∈ members, Readable depth member.2) : Readable (depth + 1) (.object members)

/-- Whatever follows, the value is read from its text with fuel for each character of it. -/
def ReadsBack (depth : Nat) (value : Json) : Prop :=
  ∀ level fuel rest, (renderAt level value).length ≤ fuel → EndsNumeral rest →
    readValue? fuel depth (renderAt level value ++ rest) = some (value, rest)

theorem skipGap_lineBreak (level : Nat) (text : Text) : skipGap (lineBreak level ++ text) = skipGap text := by
  have hgap : ∀ c ∈ lineBreak level, isGap c = true := by
    refine List.forall_mem_cons.mpr ⟨rfl, fun c hc => ?_⟩
    rw [List.eq_of_mem_replicate hc]
    rfl
  exact List.dropWhile_append_of_pos hgap

theorem skipGap_cons {c : Char} (hc : isGap c = false) (text : Text) : skipGap (c :: text) = c :: text := by
  rw [skipGap, List.dropWhile_cons_of_neg (by simp [hc])]

/-- The text of a value starts neither with white space nor with a closing bracket. -/
theorem Readable.exists_head {depth : Nat} {value : Json} (h : Readable depth value) (level : Nat) :
    ∃ c rest, renderAt level value = c :: rest ∧ isGap c = false ∧ c ≠ ']' := by
  cases h with
  | null => exact ⟨_, _, rfl, by decide, by decide⟩
  | bool value => cases value <;> exact ⟨_, _, rfl, by decide, by decide⟩
  | @int _ n _ =>
    exact exists_head_ofInt (motive := fun c => isGap c = false ∧ c ≠ ']') (by decide) (by decide) n
  | string text => exact ⟨_, _, rfl, by decide, by decide⟩
  | emptyArray => exact ⟨_, _, rfl, by decide, by decide⟩
  | emptyObject => exact ⟨_, _, rfl, by decide, by decide⟩
  | @array _ items _ => cases items <;> exact ⟨_, _, rfl, by decide, by decide⟩
  | @object _ members _ => cases members <;> exact ⟨_, _, rfl, by decide, by decide⟩

theorem Readable.skipGap_renderAt {depth : Nat} {value : Json} (h : Readable depth value) (level : Nat)
    (rest : Text) : skipGap (renderAt level value ++ rest) = renderAt level value ++ rest := by
  obtain ⟨c, tail, htext, hgap, _⟩ := h.exists_head level
  rw [htext, List.cons_append, skipGap_cons hgap]

theorem endsNumeral_renderItems (level : Nat) (items : List Json) (rest : Text) :
    EndsNumeral (renderItems level items ++ rest) := by
  cases items <;> exact endsNumeral_cons (by decide) _

theorem endsNumeral_renderMembers (level : Nat) (members : List (Text × Json)) (rest : Text) :
    EndsNumeral (renderMembers level members ++ rest) := by
  cases members <;> exact endsNumeral_cons (by decide) _

theorem length_renderItems_pos (level : Nat) (items : List Json) : 0 < (renderItems level items).length := by
  cases items <;> simp [renderItems, lineBreak]

theorem length_renderMembers_pos (level : Nat) (members : List (Text × Json)) :
    0 < (renderMembers level members).length := by
  cases members <;> simp [renderMembers, lineBreak]

/-- The items of a list are read one after another up to the closing bracket. -/
theorem readItems?_render {depth : Nat} {item : Json} {items : List Json}
    (h : ∀ value ∈ item :: items, Readable depth value ∧ ReadsBack depth value) {level fuel : Nat}
    (hfuel : (renderAt (level + 1) item).length + (renderItems level items).length ≤ fuel) (rest : Text) :
    readItems? fuel depth (renderAt (level + 1) item ++ (renderItems level items ++ rest)) =
      some (item :: items, rest) := by
  induction items generalizing item fuel with
  | nil =>
    have hpos := length_renderItems_pos level []
    obtain ⟨fuel, rfl⟩ : ∃ n, fuel = n + 1 := ⟨fuel - 1, by omega⟩
    have hread := (h item List.mem_cons_self).2 (level + 1) fuel _ (by omega)
      (endsNumeral_renderItems level [] rest)
    have hclose : skipGap (renderItems level [] ++ rest) = ']' :: rest := by
      rw [renderItems, List.append_assoc, skipGap_lineBreak]
      exact skipGap_cons rfl rest
    rw [readItems?, hread]
    simp only [hclose]
  | cons next items ih =>
    -- The item and the items behind it are read with the same fuel, of which the comma pays one unit.
    obtain ⟨hitem, hlater⟩ := List.forall_mem_cons.mp h
    rw [renderItems] at hfuel
    simp only [List.length_append, List.length_cons] at hfuel
    obtain ⟨fuel, rfl⟩ : ∃ n, fuel = n + 1 := ⟨fuel - 1, by omega⟩
    have hread := hitem.2 (level + 1) fuel _ (by omega) (endsNumeral_renderItems level (next :: items) rest)
    have hcomma : skipGap (renderItems level (next :: items) ++ rest) =
        ',' :: (lineBreak (level + 1) ++
          (renderAt (level + 1) next ++ (renderItems level items ++ rest))) := by
      rw [renderItems, List.cons_append, skipGap_cons rfl, List.append_assoc, List.append_assoc]
    have hrest := @ih next hlater fuel (by omega)
    rw [readItems?, hread]
    simp only [hcomma, skipGap_lineBreak, (hlater next List.mem_cons_self).1.skipGap_renderAt, hrest,
      Option.map_some]

/-- A member is read up to its value, and what follows decides whether there are more. -/
theorem readMembers?_quote {depth fuel : Nat} {value : Json} {text tail : Text}
    (hgap : skipGap text = text) (hread : readValue? fuel depth text = some (value, tail)) (key : Text) :
    (∀ after, skipGap tail = '\x7d' :: after →
      readMembers? (fuel + 1) depth (quote key ++ (": " ++ text)) = some ([(key, value)], after)) ∧
    ∀ later, skipGap tail = ',' :: later →
      readMembers? (fuel + 1) depth (quote key ++ (": " ++ text)) =
        (readMembers? fuel depth (skipGap later)).map fun (members, after) =>
          ((key, value) :: members, after) := by
  have hquote : quote key ++ (": " ++ text) = '"' :: (written key ++ '"' :: ':' :: ' ' :: text) := by
    rw [quote_eq, List.cons_append, List.append_assoc]
    rfl
  have hcolon : skipGap (':' :: ' ' :: text) = ':' :: ' ' :: text := skipGap_cons rfl _
  have hspace : skipGap (' ' :: text) = text := (List.dropWhile_cons_of_pos rfl).trans hgap
  rw [hquote, readMembers?, readString?_written]
  simp only [hcolon, hspace, hread]
  refine ⟨fun after htail => ?_, fun later htail => ?_⟩ <;> simp only [htail]

/-- The members of an object are read one after another up to the closing brace. -/
theorem readMembers?_render {depth : Nat} {member : Text × Json} {members : List (Text × Json)}
    (h : ∀ other ∈ member :: members, Readable depth other.2 ∧ ReadsBack depth other.2) {level fuel : Nat}
    (hfuel : (renderAt (level + 1) member.2).length + (renderMembers level members).length ≤ fuel)
    (rest : Text) :
    readMembers? fuel depth (quote member.1 ++ (": " ++
      (renderAt (level + 1) member.2 ++ (renderMembers level members ++ rest)))) =
      some (member :: members, rest) := by
  induction members generalizing member fuel with
  | nil =>
    have hpos := length_renderMembers_pos level []
    obtain ⟨hmember, _⟩ := List.forall_mem_cons.mp h
    obtain ⟨fuel, rfl⟩ : ∃ n, fuel = n + 1 := ⟨fuel - 1, by omega⟩
    have hread := hmember.2 (level + 1) fuel _ (by omega) (endsNumeral_renderMembers level [] rest)
    have hclose : skipGap (renderMembers level [] ++ rest) = '\x7d' :: rest := by
      rw [renderMembers, List.append_assoc, skipGap_lineBreak]
      exact skipGap_cons rfl rest
    exact (readMembers?_quote (hmember.1.skipGap_renderAt _ _) hread _).1 rest hclose
  | cons next members ih =>
    obtain ⟨hmember, hlater⟩ := List.forall_mem_cons.mp h
    rw [renderMembers] at hfuel
    simp only [List.length_append, List.length_cons] at hfuel
    obtain ⟨fuel, rfl⟩ : ∃ n, fuel = n + 1 := ⟨fuel - 1, by omega⟩
    have hread := hmember.2 (level + 1) fuel _ (by omega)
      (endsNumeral_renderMembers level (next :: members) rest)
    have hcomma : skipGap (renderMembers level (next :: members) ++ rest) =
        ',' :: (lineBreak (level + 1) ++ (quote next.1 ++ (": " ++
          (renderAt (level + 1) next.2 ++ (renderMembers level members ++ rest))))) := by
      rw [renderMembers, List.cons_append, skipGap_cons rfl]
      simp only [List.append_assoc]
    have hkey : ∀ text, skipGap (quote next.1 ++ text) = quote next.1 ++ text := fun _ => skipGap_cons rfl _
    have hrest := @ih next hlater fuel (by omega)
    rw [(readMembers?_quote (hmember.1.skipGap_renderAt _ _) hread _).2 _ hcomma, skipGap_lineBreak, hkey,
      hrest, Option.map_some]

/-- Scalars are read at once. -/
theorem readValue?_scalar {depth : Nat} {value : Json} {text rest : Text}
    (hread : readScalar? (text ++ rest) = some (value, rest))
    (hhead : ∀ c ∈ text.head?, c ≠ '[' ∧ c ≠ '\x7b') {fuel : Nat} (hfuel : text.length ≤ fuel)
    (hne : text ≠ []) :
    readValue? fuel depth (text ++ rest) = some (value, rest) := by
  have hpos := List.length_pos_iff.mpr hne
  obtain ⟨fuel, rfl⟩ : ∃ n, fuel = n + 1 := ⟨fuel - 1, by omega⟩
  obtain ⟨c, tail, rfl⟩ := List.exists_cons_of_ne_nil hne
  obtain ⟨hbracket, hbrace⟩ := hhead c rfl
  rw [readValue?]
  · exact hread
  · intro later heq
    exact hbracket (List.cons.inj heq).1
  · intro later heq
    exact hbrace (List.cons.inj heq).1

/-- A scalar is read back if nothing but its text and what follows decides how it is read. -/
theorem readsBack_scalar {depth : Nat} {value : Json} {c : Char} {tail : Text}
    (htext : ∀ level, renderAt level value = c :: tail) (hbracket : c ≠ '[') (hbrace : c ≠ '\x7b')
    (hread : ∀ rest, readScalar? (c :: tail ++ rest) = some (value, rest)) : ReadsBack depth value := by
  intro level fuel rest hfuel _
  rw [htext] at hfuel ⊢
  refine readValue?_scalar (hread rest) (fun d hd => ?_) hfuel (List.cons_ne_nil c tail)
  obtain rfl := Option.some.inj hd
  exact ⟨hbracket, hbrace⟩

theorem readsBack_string (depth : Nat) (text : Text) : ReadsBack depth (.string text) := by
  refine readsBack_scalar (fun level => (renderAt_string level text).trans (quote_eq text)) (by decide)
    (by decide) fun rest => ?_
  rw [List.cons_append, List.append_assoc, List.singleton_append, readScalar?, readString?_written]
  rfl

/-- A number that is not too long is read back. -/
theorem readsBack_int (depth : Nat) {n : Int} (hn : Numeral.isTooLong n = false) :
    ReadsBack depth (.int n) := by
  intro level fuel rest hfuel hrest
  have hread := readNumber?_ofInt hn hrest
  obtain ⟨c, tail, htext, hc⟩ := exists_head_ofInt (motive := fun c => (c ∉ ("[\x7b\"ntfNI" : Text)))
    (by decide) (by decide) n
  have hscalar : readScalar? (Text.ofInt n ++ rest) = some (.int n, rest) := by
    rw [htext, List.cons_append] at hread ⊢
    rw [readScalar?]
    · exact hread
    all_goals
      rintro rfl
      exact hc (by decide)
  refine readValue?_scalar hscalar (fun d hd => ?_) hfuel (htext ▸ List.cons_ne_nil c tail)
  rw [htext] at hd
  obtain rfl := Option.some.inj hd
  refine ⟨?_, ?_⟩ <;> rintro rfl <;> exact hc (by decide)

theorem readsBack_emptyArray (depth : Nat) : ReadsBack depth (.array []) := by
  intro level fuel rest hfuel _
  have hgap : skipGap (']' :: rest) = ']' :: rest := skipGap_cons rfl rest
  obtain ⟨fuel, rfl⟩ : ∃ n, fuel = n + 1 := Nat.exists_eq_add_one.mpr (Nat.lt_of_lt_of_le Nat.two_pos hfuel)
  show readValue? (fuel + 1) depth ('[' :: ']' :: rest) = _
  rw [readValue?]
  simp only [hgap]

theorem readsBack_emptyObject (depth : Nat) : ReadsBack depth (.object []) := by
  intro level fuel rest hfuel _
  have hgap : skipGap ('\x7d' :: rest) = '\x7d' :: rest := skipGap_cons rfl rest
  obtain ⟨fuel, rfl⟩ : ∃ n, fuel = n + 1 := Nat.exists_eq_add_one.mpr (Nat.lt_of_lt_of_le Nat.two_pos hfuel)
  show readValue? (fuel + 1) depth ('\x7b' :: '\x7d' :: rest) = _
  rw [readValue?]
  simp only [hgap]

/-- A list is read back if its items are, one level deeper. -/
theorem readsBack_array {depth : Nat} {items : List Json} (hitems : ∀ item ∈ items, Readable depth item)
    (h : ∀ item ∈ items, ReadsBack depth item) : ReadsBack (depth + 1) (.array items) := by
  cases items with
  | nil => exact readsBack_emptyArray _
  | cons item items =>
    intro level fuel rest hfuel _
    rw [renderAt_array_cons, List.length_cons, List.length_append, List.length_append] at hfuel
    obtain ⟨fuel, rfl⟩ : ∃ n, fuel = n + 1 := ⟨fuel - 1, by omega⟩
    have hread := @readItems?_render _ _ _ (fun item hitem => ⟨hitems item hitem, h item hitem⟩)
      level fuel (by omega) rest
    have hfirst := hitems item List.mem_cons_self
    obtain ⟨c, tail, htext, _, hclose⟩ := hfirst.exists_head (level + 1)
    rw [renderAt_array_cons, List.cons_append, List.append_assoc, List.append_assoc, readValue?, skipGap_lineBreak,
      hfirst.skipGap_renderAt]
    split
    · next heq =>
      rw [htext] at heq
      exact absurd (List.cons.inj heq).1 hclose
    · rw [if_neg (Nat.succ_ne_zero depth), Nat.add_sub_cancel, hread]
      rfl

/-- An object is read back if the values of its members are, one level deeper. -/
theorem readsBack_object {depth : Nat} {members : List (Text × Json)}
    (hmembers : ∀ member ∈ members, Readable depth member.2)
    (h : ∀ member ∈ members, ReadsBack depth member.2) : ReadsBack (depth + 1) (.object members) := by
  cases members with
  | nil => exact readsBack_emptyObject _
  | cons member members =>
    intro level fuel rest hfuel _
    rw [renderAt_object_cons] at hfuel ⊢
    simp only [List.length_cons, List.length_append] at hfuel
    obtain ⟨fuel, rfl⟩ : ∃ n, fuel = n + 1 := ⟨fuel - 1, by omega⟩
    have hread := @readMembers?_render _ _ _
      (fun member hmember => ⟨hmembers member hmember, h member hmember⟩) level fuel (by omega) rest
    have hkey : ∀ text, skipGap (quote member.1 ++ text) = quote member.1 ++ text :=
      fun _ => skipGap_cons rfl _
    simp only [List.cons_append, List.append_assoc]
    rw [readValue?, skipGap_lineBreak, hkey]
    split
    · next heq => exact absurd (List.cons.inj heq).1 (by decide)
    · rw [if_neg (Nat.succ_ne_zero depth), Nat.add_sub_cancel, hread]
      rfl

/-- Every value that can be read back is. -/
theorem Readable.readsBack {depth : Nat} {value : Json} (h : Readable depth value) :
    ReadsBack depth value := by
  induction h with
  | null => exact readsBack_scalar (fun _ => rfl) (by decide) (by decide) fun _ => rfl
  | bool value =>
    cases value <;> exact readsBack_scalar (fun _ => rfl) (by decide) (by decide) fun _ => rfl
  | int hn => exact readsBack_int _ hn
  | string text => exact readsBack_string _ text
  | emptyArray => exact readsBack_emptyArray _
  | emptyObject => exact readsBack_emptyObject _
  | array hitems ih => exact readsBack_array hitems ih
  | object hmembers ih => exact readsBack_object hmembers ih

/-- The text of a value that is not nested too deeply is read back, whatever white space follows. -/
theorem read?_render {value : Json} (h : Readable maxDepth value) {gap : Text}
    (hgap : ∀ c ∈ gap, isGap c = true) : read? (render value ++ gap) = some value := by
  have hends : EndsNumeral gap := by
    intro c hc
    have hblank := hgap c (List.mem_of_head? hc)
    simp only [isGap, Bool.or_eq_true, beq_iff_eq] at hblank
    obtain ((rfl | rfl) | rfl) | rfl := hblank <;> decide
  have hfuel : (renderAt 0 value).length ≤ (renderAt 0 value ++ gap).length + 1 := by
    rw [List.length_append]
    omega
  have hrest : skipGap gap = [] := List.dropWhile_eq_nil_iff.mpr hgap
  rw [read?, render, h.skipGap_renderAt, h.readsBack 0 _ gap hfuel hends]
  simp only [hrest, List.isEmpty_nil, if_true]

end TemplateAudit.Json
