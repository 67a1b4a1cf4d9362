import TemplateAudit.Proofs.Report.Excerpt
import TemplateAudit.Proofs.Source.Translation

namespace TemplateAudit

namespace LocatedDiagnostic

/-- What the diagnostic spans stands in a line of the source, from the column of its position on, and ends in the
    same line. Its length is the width of the underline: neither bound of the width matters. -/
structure LiesIn (diagnostic : LocatedDiagnostic) (source line : Text) (position : Position) : Prop where
  line_eq : Source.line source diagnostic.start = .ok line
  position_eq : diagnostic.position source = .ok position
  slice_eq : line.slice (position.column - 1) (position.column - 1 + (diagnostic.stop - diagnostic.start).toNat) =
    source.slice diagnostic.start.toNat diagnostic.stop.toNat
  length_eq : ((source.slice diagnostic.start.toNat diagnostic.stop.toNat).length : Int) =
    diagnostic.stop - diagnostic.start
  single : '\n' ∉ source.slice diagnostic.start.toNat diagnostic.stop.toNat
  stop_position : Source.position source diagnostic.stop =
    .ok ⟨position.line, position.column + (diagnostic.stop - diagnostic.start).toNat⟩
  one_le : 1 ≤ diagnostic.stop - diagnostic.start
  le_rest : diagnostic.stop - diagnostic.start ≤ (line.length : Int) - position.column + 1
  width_eq : diagnostic.underlineWidth line position.column = diagnostic.stop - diagnostic.start

section IsAbout

variable {diagnostic : LocatedDiagnostic} {source marked : Text} (h : diagnostic.IsAbout source marked)
  {position : Position} (hposition : diagnostic.position source = .ok position)

include h hposition

/-- A diagnostic ends in its line, as many columns further on as it spans characters. -/
theorem IsAbout.position_stop : Source.position source diagnostic.stop =
    .ok ⟨position.line, position.column + marked.length⟩ := by
  obtain ⟨rest, hrest⟩ := h.part
  have hlength := congrArg List.length hrest
  rw [List.length_drop, List.length_append] at hlength
  have hnonneg := h.nonneg
  have hstart := h.start_lt
  have hstop : diagnostic.stop = ((diagnostic.start.toNat + marked.length : Nat) : Int) := by
    have hstop := h.stop
    omega
  have hpart : (source.drop diagnostic.start.toNat).take marked.length = marked := by
    rw [hrest, List.take_left]
  have hline : '\n' ∉ (source.drop diagnostic.start.toNat).take marked.length := by
    rw [hpart]
    exact h.newline_not_mem
  rw [LocatedDiagnostic.position, Source.position, h.clamp_eq] at hposition
  obtain rfl := Except.ok.inj hposition
  rw [hstop, Source.position_natCast_of_le (by omega), Source.positionAt_add, Position.translate,
    Source.positionAt_of_no_newline hline, if_pos rfl, hpart]
  rfl

/-- A diagnostic about a part of a line lies in that line. -/
theorem IsAbout.exists_liesIn : ∃ line, diagnostic.LiesIn source line position := by
  obtain ⟨tail, _, hline⟩ := h.exists_line
  have hcolumn := h.column_eq hposition
  have hnonneg := h.nonneg
  have hstop := h.stop
  have hpos := List.length_pos_iff.mpr h.ne_nil
  have hwidth : (diagnostic.stop - diagnostic.start).toNat = marked.length := by omega
  refine ⟨diagnostic.lineBefore source ++ marked ++ tail, ?_⟩
  constructor
  case line_eq => exact hline
  case position_eq => exact hposition
  case slice_eq =>
    have hdrop : (diagnostic.lineBefore source ++ marked ++ tail).drop (diagnostic.lineBefore source).length =
        marked ++ tail := by
      rw [List.append_assoc, List.drop_left]
    rw [h.slice_eq, hwidth, hcolumn, Nat.add_sub_cancel]
    exact Text.slice_of_drop hdrop rfl
  case length_eq =>
    rw [h.slice_eq]
    omega
  case single =>
    rw [h.slice_eq]
    exact h.newline_not_mem
  case stop_position =>
    rw [hwidth]
    exact h.position_stop hposition
  case one_le => omega
  case le_rest =>
    simp only [List.length_append]
    omega
  case width_eq =>
    rw [h.underlineWidth_eq hposition]
    omega

end IsAbout

end LocatedDiagnostic

/-- Every diagnostic of the built-in rules in a fragment of a source lies in a line of the source. -/
theorem scan_builtin_liesIn {source : Text} {fragment : Fragment} (hfragment : fragment.IsOf source) :
    ∃ found, (scan fragment Rule.builtin).value = .ok found ∧
      ∀ diagnostic ∈ found, ∃ line position, diagnostic.LiesIn source line position := by
  obtain ⟨found, hscan, hfound⟩ := scan_of_builtin (fun _ h => h) fragment
  refine ⟨found, hscan, fun diagnostic hdiagnostic => ?_⟩
  obtain ⟨rule, hrule, offset, hmatches, rfl⟩ := hfound diagnostic hdiagnostic
  obtain ⟨marked, habout⟩ := hmatches.exists_isAbout hrule hfragment
  obtain ⟨position, hposition⟩ := LocatedDiagnostic.exists_position habout.nonneg source
  obtain ⟨line, hlies⟩ := habout.exists_liesIn hposition
  exact ⟨line, position, hlies⟩

/-- Carriage returns before the match stay in its line, and those behind it are cut off. -/
theorem scan_builtin_liesIn_returns :
    let source : Text := "t = '\r\n\r cdk-focus-trap\r\r\n'"
    ∃ fragment diagnostic, Fragment.inline source 4 27 none = .ok fragment ∧
      (scan fragment Rule.builtin).value = .ok [diagnostic] ∧ diagnostic.start = 9 ∧ diagnostic.stop = 23 ∧
      diagnostic.LiesIn source "\r cdk-focus-trap" ⟨2, 3⟩ := by
  intro source
  let fragment : Fragment := ⟨"'\r\n\r cdk-focus-trap\r\r\n'", 4, .inline, none⟩
  let diagnostic : LocatedDiagnostic := (Rule.focusTrapSelector.diagnose 5).locate fragment
  have hinline : Fragment.inline source 4 27 none = .ok fragment := rfl
  have hscan : (scan fragment Rule.builtin).value = .ok [diagnostic] := by
    have hclose : '>' ∉ fragment.text := by simp [fragment]
    have honce : fragment.text.occurrences Rule.focusTrapSelector.token = [5] := by decide +kernel
    exact scan_builtin_of_once hclose honce
  have hline : Source.line source diagnostic.start = .ok "\r cdk-focus-trap" := by decide +kernel
  have hposition : diagnostic.position source = .ok ⟨2, 3⟩ := by decide +kernel
  obtain ⟨found, hfound, hlies⟩ := scan_builtin_liesIn (.inl ⟨4, 27, none, hinline⟩)
  obtain rfl := Except.ok.inj (hscan.symm.trans hfound)
  obtain ⟨line, position, hlies⟩ := hlies diagnostic (List.mem_singleton.mpr rfl)
  obtain rfl := Except.ok.inj (hline.symm.trans hlies.line_eq)
  obtain rfl := Except.ok.inj (hposition.symm.trans hlies.position_eq)
  exact ⟨fragment, diagnostic, hinline, hscan, rfl, rfl, hlies⟩

end TemplateAudit
