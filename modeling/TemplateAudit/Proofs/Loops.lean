import Mathlib.Data.Prod.Lex
import Mathlib.Logic.Relation

namespace TemplateAudit

/-- What one pass of a loop leads to. -/
inductive Pass (σ ρ : Type) where
  | goesOn (next : σ)
  | ends (result : ρ)
  | looksOutside

/-- The pass leads to a state or a result as described, and does not look outside. -/
def Pass.Meets {σ ρ : Type} (state : σ → Prop) (result : ρ → Prop) : Pass σ ρ → Prop
  | .goesOn next => state next
  | .ends found => result found
  | .looksOutside => False

theorem Pass.Meets.imp {σ ρ : Type} {state state' : σ → Prop} {result : ρ → Prop} {pass : Pass σ ρ}
    (himp : ∀ next, state next → state' next) (h : pass.Meets state result) : pass.Meets state' result := by
  cases pass with
  | goesOn next => exact himp next h
  | ends found => exact h
  | looksOutside => exact h

theorem Pass.Meets.ne_looksOutside {σ ρ : Type} {state : σ → Prop} {result : ρ → Prop}
    {pass : Pass σ ρ} (h : pass.Meets state result) : pass ≠ .looksOutside := by
  rintro rfl
  exact h

/-- Finitely many passes, none of which looks outside, end the loop with the result. -/
inductive EndsWith {σ ρ : Type} (pass : σ → Pass σ ρ) : σ → ρ → Prop
  | now {state : σ} {result : ρ} (hpass : pass state = .ends result) : EndsWith pass state result
  | later {state next : σ} {result : ρ} (hpass : pass state = .goesOn next)
    (hnext : EndsWith pass next result) : EndsWith pass state result

/-- Passes, if any, lead from one state to the other. -/
def LeadsTo {σ ρ : Type} (pass : σ → Pass σ ρ) : σ → σ → Prop :=
  Relation.ReflTransGen fun state next => pass state = .goesOn next

section

variable {σ ρ : Type} {pass : σ → Pass σ ρ} {state : σ} {keeps : σ → Prop}

/-- What one pass keeps, any number of passes keeps. -/
theorem LeadsTo.of_keeps (hkeeps : ∀ {state next}, keeps state → pass state = .goesOn next → keeps next)
    {next : σ} (hleads : LeadsTo pass state next) (h : keeps state) : keeps next := by
  induction hleads with
  | refl => exact h
  | tail _ hpass ih => exact hkeeps ih hpass

/-- A weight that cannot become smaller for ever brings the loop to its end. -/
theorem EndsWith.of_lighter {α : Type} [LT α] [WellFoundedLT α] (weight : σ → α) {result : ρ}
    (hmeets : ∀ {state}, keeps state →
      (pass state).Meets (fun next => keeps next ∧ weight next < weight state) (· = result))
    (h : keeps state) : EndsWith pass state result := by
  induction hweight : weight state using WellFoundedLT.induction generalizing state with
  | ind value ih =>
    have hpass := hmeets h
    cases houtcome : pass state with
    | goesOn next =>
      rw [houtcome] at hpass
      obtain ⟨hnext, hlighter⟩ := hpass
      rw [hweight] at hlighter
      exact .later houtcome (ih _ hlighter hnext rfl)
    | ends found =>
      rw [houtcome] at hpass
      obtain rfl : found = result := hpass
      exact .now houtcome
    | looksOutside =>
      rw [houtcome] at hpass
      exact hpass.elim

end

end TemplateAudit
