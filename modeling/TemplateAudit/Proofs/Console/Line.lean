import TemplateAudit.Console.Line
import TemplateAudit.Proofs.Text.Pieces

namespace TemplateAudit

namespace Console

theorem expandTabs_of_no_tab {text : Text} (h : '\t' ∉ text) : expandTabs text = text := by
  have hlines : ∀ line ∈ Text.splitAll '\n' text, fillTabs 0 (Text.splitAll '\t' line) = line := by
    intro line hline
    rw [Text.splitAll_of_notMem fun htab => h (Text.mem_of_mem_splitAll hline htab)]
    rfl
  rw [expandTabs, List.map_congr_left hlines, List.map_id', Text.join_splitAll]

/-- A character that a console prints as it is, wherever it stands. -/
def isSteady (c : Char) : Bool := !isDropped c && c != '\t'

theorem filter_isDropped_of_steady {text : Text} (h : ∀ c ∈ text, isSteady c = true) :
    text.filter (!isDropped ·) = text :=
  List.filter_eq_self.mpr fun c hc => (Bool.and_eq_true_iff.mp (h c hc)).1

theorem tab_not_mem_of_steady {text : Text} (h : ∀ c ∈ text, isSteady c = true) : '\t' ∉ text :=
  fun hmem => absurd (h '\t' hmem) (by decide)

theorem verbatimLine_of_steady {text : Text} (h : ∀ c ∈ text, isSteady c = true) :
    verbatimLine text = text ++ "\n" := by
  rw [verbatimLine, filter_isDropped_of_steady h, expandTabs_of_no_tab (tab_not_mem_of_steady h)]

end Console

end TemplateAudit
