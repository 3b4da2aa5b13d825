import AnalysisGateway.Proofs.Answer.Written
import AnalysisGateway.Proofs.Flow.Run

/-!
# The two shapes of a result

A result has no mark of its shape when it is written, but it needs none: no member of a report is a
field of a document, nor the other way round, so what is written of one shape is never read as the
other (`Analysis.readWhole_written_iff`). Which shape it is follows from the format alone.
-/

namespace AnalysisGateway

open Json

/-! ## Written results -/

/-- A report has no member that is a field of a document. -/
theorem Report.exists_readWhole_document (r : Report) : ∃ rest,
    readWhole Document.shape.read (Text.encode r.written) =
      .error (.here (.missingField "analysis") rest) := by
  refine Record.exists_readWhole_eq_missing ?_ rfl (r.spells_written 0)
  simp [Report.members, Document.shape, field]

/-- A document has no member that is a field of a report. -/
theorem Document.exists_readWhole_report (d : Document) : ∃ rest,
    readWhole Report.shape.read (Text.encode d.written) =
      .error (.here (.missingField "time_complexity") rest) := by
  refine Record.exists_readWhole_eq_missing ?_ rfl (d.spells_written 0)
  simp [Document.members, Report.shape, field]

namespace Analysis

/-- **A written result is read in its own shape only**, and as itself. -/
theorem readWhole_written_iff (a : Analysis) :
    (∀ r, readWhole Report.shape.read (Text.encode a.written) = .ok r ↔ a = .report r) ∧
    ∀ d, readWhole Document.shape.read (Text.encode a.written) = .ok d ↔ a = .document d := by
  have hown := a.isReadFrom_written
  cases a with
  | report report =>
      obtain ⟨rest, hother⟩ := report.exists_readWhole_document
      simp only [written] at hown ⊢
      simp [hown.2, hother]
  | document document =>
      obtain ⟨rest, hother⟩ := document.exists_readWhole_report
      simp only [written] at hown ⊢
      simp [hown.2, hother]

end Analysis

/-! ## Results of runs -/

/-- A result that is turned into an analysis at the end is one of that shape. -/
theorem exists_of_ending_map {α σ : Type} {f : α → Analysis} {d : Dialogue (Except Failure α)}
    {client : Client σ} {state : σ} {a : Analysis}
    (h : ((d.map fun r => r.map f).run client state).ending = .finished (.ok a)) :
    ∃ result, a = f result := by
  simp only [Dialogue.run_map] at h
  cases hending : (d.run client state).ending with
  | crashed detail =>
      rw [hending] at h
      nomatch h
  | finished result =>
      rw [hending] at h
      have hresult : result.map f = .ok a := Ending.finished.inj h
      cases result with
      | error failure => nomatch hresult
      | ok own => exact ⟨own, (Except.ok.inj hresult).symm⟩

/-- The shape of what an analysis ends with follows from the format. -/
theorem ending_analyze_isDocument_iff {settings : AnalysisSettings} {code : String} {σ : Type}
    {client : Client σ} {state : σ} {a : Analysis}
    (h : ((analyze settings code).run client state).ending = .finished (.ok a)) :
    (∃ d, a = .document d) ↔ settings.format = .markdown := by
  rw [analyze] at h
  split at h
  · next hformat => exact iff_of_true (exists_of_ending_map h) hformat
  · next hformat =>
    obtain ⟨report, rfl⟩ := exists_of_ending_map h
    exact iff_of_false nofun fun hmarkdown => nomatch hformat.symm.trans hmarkdown

/-- **The shapes of results are never mixed, and nothing of a result is lost.** Whoever answers its
calls, a successful analysis gives a document if the format is Markdown, and a report if it is not.
What is written of a result is read as a report exactly if it is one, as a document exactly if it is
one, and in either case as the result itself. -/
theorem Analysis.shapes_apart :
    (∀ (settings : AnalysisSettings) (code : String) {σ : Type} (client : Client σ) (state : σ)
      (a : Analysis), ((analyze settings code).run client state).ending = .finished (.ok a) →
        ((∃ d, a = .document d) ↔ settings.format = .markdown)) ∧
    ∀ a : Analysis,
      (∀ r, readWhole Report.shape.read (Text.encode a.written) = .ok r ↔ a = .report r) ∧
      ∀ d, readWhole Document.shape.read (Text.encode a.written) = .ok d ↔ a = .document d :=
  ⟨fun _ _ _ _ _ _ h => ending_analyze_isDocument_iff h, readWhole_written_iff⟩

end AnalysisGateway
