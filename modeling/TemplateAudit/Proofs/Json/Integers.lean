import Mathlib
import TemplateAudit.Json.Read
import TemplateAudit.Proofs.Text.Decimal

namespace TemplateAudit

namespace Numeral

theorem isTooLong_eq_false_iff_lt {n : Int} : isTooLong n = false ↔ n.natAbs < 10 ^ maxDigits := by
  simp only [isTooLong, decide_eq_false_iff_not, Nat.not_le, Nat.pow_eq]

/-- An integer is not too long if it does not have too many digits. -/
theorem isTooLong_eq_false_iff {n : Int} :
    isTooLong n = false ↔ (Text.ofNat n.natAbs).length ≤ maxDigits :=
  isTooLong_eq_false_iff_lt.trans (Nat.length_toDigits_le_iff (by decide) (by decide)).symm

theorem isTooLong_of_lt {n : Int} (digits : Nat) (h : n.natAbs < 10 ^ digits)
    (hdigits : digits ≤ maxDigits) : isTooLong n = false :=
  isTooLong_eq_false_iff_lt.mpr (Nat.lt_of_lt_of_le h (Nat.pow_le_pow_right (by decide) hdigits))

end Numeral

namespace Json

/-- No integer in the value is too long. -/
inductive IntegersFit : Json → Prop where
  | null : IntegersFit .null
  | bool (value : Bool) : IntegersFit (.bool value)
  | int {n : Int} (hn : Numeral.isTooLong n = false) : IntegersFit (.int n)
  | float (value : Binary64) : IntegersFit (.float value)
  | string (text : Text) : IntegersFit (.string text)
  | array {items : List Json} (hitems : ∀ item ∈ items, IntegersFit item) : IntegersFit (.array items)
  | object {members : List (Text × Json)} (hmembers : ∀ member ∈ members, IntegersFit member.2) :
      IntegersFit (.object members)

variable {text rest : Text} {value : Json}

/-- A numeral that is read is not too long. -/
theorem integersFit_of_readMagnitude? {negative : Bool} (h : readMagnitude? negative text = some (value, rest)) :
    IntegersFit value := by
  unfold readMagnitude? at h
  split at h
  · cases h
  · next whole after hdigits =>
    have hwhole : whole = text.takeWhile Char.isDigit := by
      unfold readDigits? at hdigits
      split at hdigits
      · cases hdigits
      · next heq => exact (Prod.mk.inj (Option.some.inj hdigits)).1.symm
    have hvalue : Text.digitsToNat whole < 10 ^ whole.length :=
      Text.digitsToNat_lt fun c hc => List.mem_takeWhile_imp (hwhole ▸ hc)
    split at h
    · cases h
    · split at h
      · cases h
      · next hlong =>
        split at h
        · cases h
        · split at h
          · cases h
          · split at h
            · obtain ⟨rfl, _⟩ := Prod.mk.inj (Option.some.inj h)
              refine .int (Numeral.isTooLong_of_lt _ ?_ (Nat.le_of_not_lt hlong))
              split <;> simpa using hvalue
            · obtain ⟨rfl, _⟩ := Prod.mk.inj (Option.some.inj h)
              exact .float _

/-- A number that is read fits, with its sign or without. -/
theorem integersFit_of_readNumber? (h : readNumber? text = some (value, rest)) : IntegersFit value := by
  unfold readNumber? at h
  split at h
  · split at h
    · obtain ⟨rfl, _⟩ := Prod.mk.inj (Option.some.inj h)
      exact .float _
    · exact integersFit_of_readMagnitude? h
  · exact integersFit_of_readMagnitude? h

/-- What is read without nesting fits. -/
theorem integersFit_of_readScalar? (h : readScalar? text = some (value, rest)) : IntegersFit value := by
  have hword : ∀ {word following : Text} {constant : Json}, IntegersFit constant →
      (afterWord? word following).map (fun after => (constant, after)) = some (value, rest) →
        IntegersFit value := by
    intro word following constant hconstant hread
    obtain ⟨_, _, heq⟩ := Option.map_eq_some_iff.mp hread
    exact (Prod.mk.inj heq).1 ▸ hconstant
  unfold readScalar? at h
  split at h
  · cases h
  · split at h
    · obtain ⟨_, _, heq⟩ := Option.map_eq_some_iff.mp h
      exact (Prod.mk.inj heq).1 ▸ .string _
    · exact hword .null h
    · exact hword (.bool true) h
    · exact hword (.bool false) h
    · exact hword (.float _) h
    · exact hword (.float _) h
    · exact integersFit_of_readNumber? h

/-- What is read with this much fuel, be it a value or what a list or an object holds, fits. -/
structure FitsWith (fuel : Nat) : Prop where
  value {depth : Nat} {text rest : Text} {value : Json} :
    readValue? fuel depth text = some (value, rest) → IntegersFit value
  items {depth : Nat} {text rest : Text} {items : List Json} :
    readItems? fuel depth text = some (items, rest) → ∀ item ∈ items, IntegersFit item
  members {depth : Nat} {text rest : Text} {members : List (Text × Json)} :
    readMembers? fuel depth text = some (members, rest) → ∀ member ∈ members, IntegersFit member.2

namespace FitsWith

variable {fuel depth : Nat}

/-- What fits with less fuel makes values that fit. -/
theorem value_succ (h : FitsWith fuel) (hread : readValue? (fuel + 1) depth text = some (value, rest)) :
    IntegersFit value := by
  unfold readValue? at hread
  split at hread
  · split at hread
    · obtain ⟨rfl, _⟩ := Prod.mk.inj (Option.some.inj hread)
      exact .array (List.forall_mem_nil _)
    · split_ifs at hread
      obtain ⟨⟨items, after⟩, hitems, heq⟩ := Option.map_eq_some_iff.mp hread
      exact (Prod.mk.inj heq).1 ▸ .array (h.items hitems)
  · split at hread
    · obtain ⟨rfl, _⟩ := Prod.mk.inj (Option.some.inj hread)
      exact .object (List.forall_mem_nil _)
    · split_ifs at hread
      obtain ⟨⟨members, after⟩, hmembers, heq⟩ := Option.map_eq_some_iff.mp hread
      exact (Prod.mk.inj heq).1 ▸ .object (h.members hmembers)
  · exact integersFit_of_readScalar? hread

/-- What fits with less fuel makes lists that fit. -/
theorem items_succ (h : FitsWith fuel) {items : List Json}
    (hread : readItems? (fuel + 1) depth text = some (items, rest)) : ∀ item ∈ items, IntegersFit item := by
  unfold readItems? at hread
  split at hread
  · cases hread
  · next item after hitem =>
    split at hread
    · obtain ⟨rfl, _⟩ := Prod.mk.inj (Option.some.inj hread)
      exact List.forall_mem_singleton.mpr (h.value hitem)
    · obtain ⟨⟨later, after'⟩, hlater, heq⟩ := Option.map_eq_some_iff.mp hread
      exact (Prod.mk.inj heq).1 ▸ List.forall_mem_cons.mpr ⟨h.value hitem, h.items hlater⟩
    · cases hread

/-- What fits with less fuel makes objects that fit. -/
theorem members_succ (h : FitsWith fuel) {members : List (Text × Json)}
    (hread : readMembers? (fuel + 1) depth text = some (members, rest)) :
    ∀ member ∈ members, IntegersFit member.2 := by
  unfold readMembers? at hread
  split at hread
  · split at hread
    · cases hread
    · split at hread
      · split at hread
        · cases hread
        · next member after hmember =>
          split at hread
          · obtain ⟨rfl, _⟩ := Prod.mk.inj (Option.some.inj hread)
            exact List.forall_mem_singleton.mpr (h.value hmember)
          · obtain ⟨⟨later, after'⟩, hlater, heq⟩ := Option.map_eq_some_iff.mp hread
            exact (Prod.mk.inj heq).1 ▸ List.forall_mem_cons.mpr ⟨h.value hmember, h.members hlater⟩
          · cases hread
      · cases hread
  · cases hread

end FitsWith

theorem fitsWith (fuel : Nat) : FitsWith fuel := by
  induction fuel with
  | zero => constructor <;> intro _ _ _ _ h <;> cases h
  | succ fuel ih => exact ⟨ih.value_succ, ih.items_succ, ih.members_succ⟩

/-- No integer of a value that a text holds is too long. -/
theorem integersFit_of_read? (h : read? text = some value) : IntegersFit value := by
  unfold read? at h
  split at h
  · cases h
  · next found after hread =>
    split_ifs at h
    obtain rfl := Option.some.inj h
    exact (fitsWith _).value hread

/-- A value that is looked up fits if all members do. -/
theorem IntegersFit.member? {members : List (Text × Json)} (h : ∀ member ∈ members, IntegersFit member.2)
    {key : Text} (hvalue : member? key members = some value) : IntegersFit value := by
  induction members with
  | nil => cases hvalue
  | cons member rest ih =>
    obtain ⟨hfirst, hrest⟩ := List.forall_mem_cons.mp h
    rw [Json.member?, Option.or_eq_some_iff] at hvalue
    obtain hlater | ⟨_, hhere⟩ := hvalue
    · exact ih hrest hlater
    · split_ifs at hhere
      exact Option.some.inj hhere ▸ hfirst

end Json

end TemplateAudit
