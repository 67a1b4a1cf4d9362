import Mathlib.Data.List.TakeWhile
import TemplateAudit.Text.Search

namespace TemplateAudit.Text

/-- `run` is the longest beginning of `run ++ rest` that holds only characters satisfying
    `keep`. -/
def IsLongestRun (keep : Char → Bool) (run rest : Text) : Prop :=
  (∀ c ∈ run, keep c = true) ∧ ∀ c ∈ rest.head?, keep c = false

-- Named, because the search may also come up with an instance that tries every character there is.
instance (keep : Char → Bool) (run rest : Text) : Decidable (IsLongestRun keep run rest) :=
  @instDecidableAnd _ _ (List.decidableBAll _ run) rest.head?.decidableForallMem

theorem isLongestRun_takeWhile (keep : Char → Bool) (text : Text) :
    IsLongestRun keep (text.takeWhile keep) (text.dropWhile keep) := by
  refine ⟨fun c hc => List.mem_takeWhile_imp hc, fun c hc => ?_⟩
  have hhead := List.head?_dropWhile_not keep text
  rw [Option.mem_def.mp hc] at hhead
  exact hhead

theorem IsLongestRun.takeWhile_eq {keep : Char → Bool} {run rest : Text}
    (h : IsLongestRun keep run rest) : (run ++ rest).takeWhile keep = run := by
  rw [List.takeWhile_append_of_pos h.1]
  cases rest with
  | nil => simp
  | cons c rest => simp [h.2 c rfl]

theorem IsLongestRun.dropWhile_eq {keep : Char → Bool} {run rest : Text}
    (h : IsLongestRun keep run rest) : (run ++ rest).dropWhile keep = rest := by
  rw [List.dropWhile_append_of_pos h.1]
  cases rest with
  | nil => rfl
  | cons c rest => simp [h.2 c rfl]

/-- Only the first character after a run decides whether it is the longest. -/
theorem isLongestRun_append_iff {keep : Char → Bool} {run rest : Text} (hrest : rest ≠ [])
    (after : Text) : IsLongestRun keep run (rest ++ after) ↔ IsLongestRun keep run rest := by
  obtain ⟨c, rest, rfl⟩ := List.exists_cons_of_ne_nil hrest
  rfl

/-- A run entered later is the longest run from there. -/
theorem drop_isLongestRun {keep : Char → Bool} {text : Text} {n : Nat}
    (h : n ≤ (text.takeWhile keep).length) :
    text.drop n = (text.takeWhile keep).drop n ++ text.dropWhile keep ∧
      IsLongestRun keep ((text.takeWhile keep).drop n) (text.dropWhile keep) := by
  have hrun := isLongestRun_takeWhile keep text
  refine ⟨?_, fun c hc => hrun.1 c (List.mem_of_mem_drop hc), hrun.2⟩
  rw [← List.drop_append_of_le_length h, List.takeWhile_append_dropWhile]

theorem drop_length_takeWhile (keep : Char → Bool) (text : Text) :
    text.drop (text.takeWhile keep).length = text.dropWhile keep := by
  have hrun := (drop_isLongestRun (Nat.le_refl (text.takeWhile keep).length)).1
  rw [hrun, List.drop_length, List.nil_append]

theorem drop_add_length_takeWhile (keep : Char → Bool) (text : Text) (i : Nat) :
    text.drop (i + ((text.drop i).takeWhile keep).length) = (text.drop i).dropWhile keep := by
  rw [← List.drop_drop, drop_length_takeWhile]

/-- Wherever a run is entered, it ends at the same place. -/
theorem run_shared {keep : Char → Bool} {text : Text} {start i : Nat} (hle : start ≤ i)
    (hinside : i ≤ start + ((text.drop start).takeWhile keep).length) :
    i + ((text.drop i).takeWhile keep).length = start + ((text.drop start).takeWhile keep).length ∧
      (text.drop i).dropWhile keep = (text.drop start).dropWhile keep := by
  obtain ⟨before, rfl⟩ := Nat.exists_eq_add_of_le hle
  obtain ⟨htext, hrun⟩ := drop_isLongestRun (Nat.le_of_add_le_add_left hinside)
  rw [← List.drop_drop, htext, hrun.takeWhile_eq, hrun.dropWhile_eq, List.length_drop]
  exact ⟨by omega, rfl⟩

theorem drop_eq_cons {text rest : Text} {i : Nat} {c : Char} (h : text.drop i = c :: rest) :
    text[i]? = some c ∧ text.drop (i + 1) = rest := by
  constructor
  · rw [← List.head?_drop, h, List.head?_cons]
  · rw [← List.drop_drop, h, List.drop_one, List.tail_cons]

theorem slice_of_drop {text part rest : Text} {start stop : Nat} (h : text.drop start = part ++ rest)
    (hstop : stop = start + part.length) : text.slice start stop = part := by
  rw [slice, h, hstop, Nat.add_sub_cancel_left, List.take_left]

theorem length_slice {text : Text} {stop : Nat} (h : stop ≤ text.length) (start : Nat) :
    (text.slice start stop).length = stop - start := by
  rw [slice, List.length_take, List.length_drop]
  omega

theorem slice_append_drop (text : Text) {start stop : Nat} (h : start ≤ stop) :
    text.slice start stop ++ text.drop stop = text.drop start := by
  have hdrop : text.drop stop = (text.drop start).drop (stop - start) := by
    rw [List.drop_drop, Nat.add_sub_cancel' h]
  rw [slice, hdrop, List.take_append_drop]

/-- Parts of a text that follow one another start where the one before ends. -/
theorem drop_append {text part rest : Text} {start : Nat} (h : text.drop start = part ++ rest) :
    text.drop (start + part.length) = rest := by
  rw [← List.drop_drop, h, List.drop_left]

/-- A slice of a part is a slice of the text around it. -/
theorem slice_of_part {text part rest : Text} {base : Nat} (h : text.drop base = part ++ rest)
    (start : Nat) {stop : Nat} (hstop : stop ≤ part.length) :
    text.slice (base + start) (base + stop) = part.slice start stop := by
  obtain hle | hlt := Nat.le_total start stop
  · rw [slice, slice, ← List.drop_drop, h, Nat.add_sub_add_left,
      List.drop_append_of_le_length (Nat.le_trans hle hstop), List.take_append_of_le_length]
    rw [List.length_drop]
    omega
  · rw [slice, slice, Nat.add_sub_add_left, Nat.sub_eq_zero_of_le hlt, List.take_zero, List.take_zero]

/-- What is dropped at the end of a text is a tail of it, and what is kept ends in a character that is not to
    be dropped. -/
theorem exists_dropWhileEnd (drop : Char → Bool) (text : Text) :
    ∃ tail, text = dropWhileEnd drop text ++ tail ∧ (∀ c ∈ tail, drop c = true) ∧
      ∀ c ∈ (dropWhileEnd drop text).getLast?, drop c = false := by
  have hsplit := List.takeWhile_append_dropWhile (p := drop) (l := text.reverse)
  have hrun := isLongestRun_takeWhile drop text.reverse
  refine ⟨(text.reverse.takeWhile drop).reverse, ?_, fun c hc => hrun.1 c (List.mem_reverse.mp hc), ?_⟩
  · rw [dropWhileEnd, ← List.reverse_append, hsplit, List.reverse_reverse]
  · intro c hc
    rw [dropWhileEnd, List.getLast?_reverse] at hc
    exact hrun.2 c hc

/-- A text without the mark is the longest run before it. -/
theorem isLongestRun_search {mark : Char} {body : Text} (h : mark ∉ body) (rest : Text) :
    IsLongestRun (· != mark) body (mark :: rest) := by
  refine ⟨fun c hc => ?_, fun c hc => ?_⟩
  · simp only [bne_iff_ne, ne_eq]
    rintro rfl
    exact h hc
  · obtain rfl : mark = c := by simpa using hc
    simp

/-- A search either fails because the character does not occur, or splits the text at its first
    occurrence. -/
theorem search_cases (mark : Char) (text : Text) :
    (mark ∉ text ∧ text.dropWhile (· != mark) = []) ∨
      ∃ after, text.dropWhile (· != mark) = mark :: after ∧
        text = text.takeWhile (· != mark) ++ mark :: after ∧ mark ∉ text.takeWhile (· != mark) := by
  have hrun := isLongestRun_takeWhile (· != mark) text
  have hsplit := List.takeWhile_append_dropWhile (p := (· != mark)) (l := text)
  have hnotMem : mark ∉ text.takeWhile (· != mark) := by
    intro hmem
    simpa using hrun.1 mark hmem
  cases hdrop : text.dropWhile (· != mark) with
  | nil =>
    rw [hdrop, List.append_nil] at hsplit
    rw [hsplit] at hnotMem
    exact .inl ⟨hnotMem, rfl⟩
  | cons c after =>
    have hstop := hrun.2 c (by rw [hdrop]; rfl)
    obtain rfl : c = mark := by simpa using hstop
    rw [hdrop] at hsplit
    exact .inr ⟨after, rfl, hsplit.symm, hnotMem⟩

end TemplateAudit.Text
