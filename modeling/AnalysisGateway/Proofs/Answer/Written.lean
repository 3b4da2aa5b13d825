import AnalysisGateway.Proofs.Answer.Report
import AnalysisGateway.Proofs.Json.Record

/-!
# Reading written analyses

What is served is read again as what was meant: as a plain value it is an object with the members of
the analysis and nothing else, and as a record it is the analysis itself.
-/

namespace AnalysisGateway

open Json

/-! ## Reports -/

/-- The members of a report in any order, and no others, are read as the report. -/
theorem Report.accepts (r : Report) (depth : Nat) :
    Accepts Report.shape.read (depth + 2) (.object r.members) r := by
  have htext : ∀ t : String, Accepts readText (depth + 1) (.text t) t := accepts_readText
  have htexts : Accepts (readList readText) (depth + 1) (.list (r.improvements.map .text))
      r.improvements := by
    refine accepts_readList ?_
    rw [List.forall₂_map_left_iff, List.forall₂_same]
    exact fun t _ => accepts_readText t
  refine Record.accepts_object
    (.cons ⟨_, _, rfl, rfl, accepts_field (htext r.timeComplexity), rfl⟩ <|
      .cons ⟨_, _, rfl, rfl, accepts_field (htext r.spaceComplexity), rfl⟩ <|
      .cons ⟨_, _, rfl, rfl, accepts_field htexts, rfl⟩ <|
      .cons ⟨_, _, rfl, rfl, accepts_field (htext r.explanation), rfl⟩ (.nil _)) rfl

/-! ## Documents -/

namespace Document

/-- The only member of a document as an object. -/
def members (d : Document) : List (String × Value) := [("analysis", .text d.analysis)]

theorem accepts (d : Document) (depth : Nat) :
    Accepts Document.shape.read (depth + 1) (.object d.members) d := by
  have htext : Accepts readText depth (.text d.analysis) d.analysis := accepts_readText d.analysis
  exact Record.accepts_object (.cons ⟨_, _, rfl, rfl, accepts_field htext, rfl⟩ (.nil _)) rfl

theorem spells_written (d : Document) (depth : Nat) :
    Spells (depth + 1) (.object d.members) d.written := by
  have htext := spells_writtenString depth d.analysis
  exact .object (elements_writtenMembers (.cons ⟨rfl, htext⟩ .nil))

end Document

/-! ## Analyses -/

namespace Analysis

/-- A body that is read as the analysis, as a plain value and as a record. -/
def IsReadFrom (body : Bytes) : Analysis → Prop
  | .report r =>
    readWhole (readValue greatestDepth) body = .ok (.object r.members) ∧
      readWhole Report.shape.read body = .ok r
  | .document d =>
    readWhole (readValue greatestDepth) body = .ok (.object d.members) ∧
      readWhole Document.shape.read body = .ok d

/-- **A written analysis is read as itself.** -/
theorem isReadFrom_written (a : Analysis) : a.IsReadFrom (Text.encode a.written) := by
  cases a with
  | report r =>
      have hspells : Spells greatestDepth (.object r.members) r.written := r.spells_written 125
      exact ⟨(accepts_readValue _).readWhole_encode hspells,
        (r.accepts 125).readWhole_encode hspells⟩
  | document d =>
      have hspells : Spells greatestDepth (.object d.members) d.written := d.spells_written 126
      exact ⟨(accepts_readValue _).readWhole_encode hspells,
        (d.accepts 126).readWhole_encode hspells⟩

end Analysis

end AnalysisGateway
