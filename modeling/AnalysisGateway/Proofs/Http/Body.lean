import AnalysisGateway.Http.Body
import AnalysisGateway.Proofs.Json.Record
import AnalysisGateway.Proofs.Json.Writer
import AnalysisGateway.Settings

/-!
# Requests that submit a snippet

A snippet is submitted as an object with one member, in any spelling and with white space around
it. What is read from such a request is the snippet, character for character.
-/

namespace AnalysisGateway

/-- An object with a snippet is read as a submission of it. -/
theorem Submission.accepts (depth : Nat) (code : String) :
    Json.Accepts shape.read (depth + 1) (.object [("code", .text code)]) ⟨code⟩ := by
  have hcode : Json.Accepts Json.readText depth (.text code) code := Json.accepts_readText code
  exact Json.Record.accepts_object (.cons ⟨_, _, rfl, rfl, Json.accepts_field hcode, rfl⟩ (.nil _))
    rfl

namespace Http

/-- A request that submits a snippet to a service with the settings, which admit it. -/
structure Request.Submits (r : Request) (s : Settings) (code : String) : Prop where
  method_eq : r.method = "POST"
  path_eq : r.path = s.analysis.format.endpoint
  isJson : (r.header? "content-type").any saysJson = true
  fits : r.body.length ≤ s.server.maxBodyBytes
  whole : r.bodyFails = false
  body_eq : ∃ before object after, Json.Blanks before ∧ Json.Blanks after ∧
    Json.Spells 1 (.object [("code", .text code)]) object ∧
    r.body = Text.encode (before ++ object ++ after)

/-- The object need not have any white space. -/
theorem Request.submits_of_written {r : Request} {s : Settings} {code : String}
    (hmethod : r.method = "POST") (hpath : r.path = s.analysis.format.endpoint)
    (hjson : (r.header? "content-type").any saysJson = true)
    (hfits : r.body.length ≤ s.server.maxBodyBytes) (hwhole : r.bodyFails = false)
    (hbody : r.body = Text.encode (Json.writtenObject [("code", Json.writtenString code)])) :
    r.Submits s code := by
  have hspells : Json.Spells 1 (.object [("code", .text code)])
      (Json.writtenObject [("code", Json.writtenString code)]) :=
    .object (Json.elements_writtenMembers (.cons ⟨rfl, Json.spells_writtenString 0 code⟩ .nil))
  exact ⟨hmethod, hpath, hjson, hfits, hwhole,
    [], _, [], Json.blanks_nil, Json.blanks_nil, hspells, by simpa using hbody⟩

/-- **The snippet is read as it was submitted.** -/
theorem Request.Submits.submission_eq {r : Request} {s : Settings} {code : String}
    (h : r.Submits s code) : r.submission s.server.maxBodyBytes = .ok ⟨code⟩ := by
  obtain ⟨before, object, after, hbefore, hafter, hobject, hbody⟩ := h.body_eq
  have hread := (Submission.accepts 0 code).readWhole_eq hbefore hobject hafter
  rw [submission, h.isJson]
  simp only [Bool.not_true, Bool.false_eq_true, if_false, Nat.not_lt.mpr h.fits, h.whole]
  rw [readSubmission, hbody, hread]
  rfl

end Http

end AnalysisGateway
