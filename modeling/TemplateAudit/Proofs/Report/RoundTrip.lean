import TemplateAudit.Proofs.Json.Integers
import TemplateAudit.Proofs.Report.Decode
import TemplateAudit.Proofs.Steps

namespace TemplateAudit

/-- No integer is too long to be written as a numeral and read back. -/
def Numeral.Fit (numbers : List Int) : Prop :=
  ∀ n ∈ numbers, (Text.ofNat n.natAbs).length ≤ Numeral.maxDigits

namespace Report

variable {α β : Type}

theorem under_eq_ok {step : PathStep} {result : Decoded α} {a : α} (h : under step result = .ok a) :
    result = .ok a := by
  cases result with
  | error problems => cases h
  | ok value => exact h

theorem both_eq_ok {first : Decoded α} {second : Decoded β} {pair : α × β} (h : both first second = .ok pair) :
    first = .ok pair.1 ∧ second = .ok pair.2 := by
  cases first <;> cases second <;> cases h
  exact ⟨rfl, rfl⟩

/-- All numbers of what is read from a value that fits are short enough. -/
def ReadsFit (numbers : α → List Int) (read : Json → Decoded α) : Prop :=
  ∀ value a, value.IntegersFit → read value = .ok a → ∀ n ∈ numbers a, Numeral.isTooLong n = false

/-- Reading a value or null adds no number. -/
theorem ReadsFit.orNull {numbers : α → List Int} {read : Json → Decoded α} (h : ReadsFit numbers read) :
    ReadsFit (fun a? => a?.toList.flatMap numbers) (orNull read) := by
  intro value a? hvalue hread
  unfold Report.orNull at hread
  split at hread
  · obtain rfl := Except.ok.inj hread
    exact List.forall_mem_nil _
  · obtain ⟨a, hthere, rfl⟩ := ok_of_map hread
    simpa using h value a hvalue hthere

/-- The numbers of all items are short enough if those of each item are. -/
theorem ReadsFit.itemsFrom {numbers : α → List Int} {read : Json → Decoded α} (h : ReadsFit numbers read)
    {items : List Json} (hitems : ∀ item ∈ items, Json.IntegersFit item) {index : Nat} {as : List α}
    (hread : itemsFrom read index items = .ok as) :
    ∀ n ∈ as.flatMap numbers, Numeral.isTooLong n = false := by
  induction items generalizing index as with
  | nil =>
    obtain rfl := Except.ok.inj hread
    exact List.forall_mem_nil _
  | cons item rest ih =>
    obtain ⟨hitem, hrest⟩ := List.forall_mem_cons.mp hitems
    obtain ⟨⟨a, later⟩, hboth, rfl⟩ := ok_of_map hread
    obtain ⟨hfirst, hlater⟩ := both_eq_ok hboth
    rw [List.flatMap_cons]
    exact List.forall_mem_append.mpr ⟨h item a hitem (under_eq_ok hfirst), ih hrest hlater⟩

/-- Reading a list adds no number to those of its items. -/
theorem ReadsFit.listOf {numbers : α → List Int} {read : Json → Decoded α} (h : ReadsFit numbers read) :
    ReadsFit (fun as => as.flatMap numbers) (listOf read) := by
  intro value as hvalue hread
  unfold Report.listOf at hread
  split at hread
  · cases hvalue with
    | array hitems => exact h.itemsFrom hitems hread
  · cases hread

section Members

variable {members : List (Text × Json)} (hmembers : ∀ member ∈ members, Json.IntegersFit member.2)
  {numbers : α → List Int} {read : Json → Decoded α} {key : Text} {a : α}

include hmembers

/-- A member, or what stands for it if it is absent, has only numbers that are short enough. -/
theorem ReadsFit.memberOr (h : ReadsFit numbers read) {absent : Decoded α}
    (habsent : ∀ a, absent = .ok a → ∀ n ∈ numbers a, Numeral.isTooLong n = false)
    (hread : memberOr absent read key members = .ok a) : ∀ n ∈ numbers a, Numeral.isTooLong n = false := by
  have hread := under_eq_ok hread
  split at hread
  · exact habsent a hread
  · next value hvalue => exact h value a (.member? hmembers hvalue) hread

theorem ReadsFit.required (h : ReadsFit numbers read) (hread : required read key members = .ok a) :
    ∀ n ∈ numbers a, Numeral.isTooLong n = false :=
  h.memberOr hmembers (fun _ hfail => by cases hfail) hread

theorem ReadsFit.optional (h : ReadsFit numbers read) {a? : Option α}
    (hread : optional read key members = .ok a?) :
    ∀ n ∈ a?.toList.flatMap numbers, Numeral.isTooLong n = false := by
  refine h.orNull.memberOr hmembers (fun a? habsent => ?_) hread
  obtain rfl := Except.ok.inj habsent
  exact List.forall_mem_nil _

end Members

/-- Whatever is read from a text has numbers that fit. -/
theorem ReadsFit.decodeBy {numbers : α → List Int} {read : Json → Decoded α} (h : ReadsFit numbers read)
    {data : Text} {a : α} (hdecode : decodeBy read data = .ok a) : Numeral.Fit (numbers a) := by
  unfold Report.decodeBy at hdecode
  split at hdecode
  · cases hdecode
  · next value hvalue =>
    exact fun n hn => Numeral.isTooLong_eq_false_iff.mp
      (h value a (Json.integersFit_of_read? hvalue) hdecode n hn)

end Report

end TemplateAudit
