import AnalysisGateway.Proofs.Flow.Alike
import AnalysisGateway.Proofs.Settings.Credential
import AnalysisGateway.Provider.Basic

/-!
# Where the key goes

A key that a header can hold is written into the authorization of each request, and nowhere else. So
two providers that differ in their keys answer alike, over lines whose requests differ in their
authorization only (`ProviderSettings.alike_ask`). What a provider tells of itself says nothing of
its key.
-/

namespace AnalysisGateway

/-! ## Without authorization -/

/-- A request without what it is signed with. -/
def Sent.unsigned (sent : Sent) : Sent := { sent with authorization := "" }

/-- A line whose requests are not signed. -/
def Line.unsigned (line : Line) : Line := { line with sent := line.sent.map Sent.unsigned }

/-- An answer that leaves a line whose requests are not signed. -/
def Answered.unsigned (a : Answered Line) : Answered Line := { a with state := a.state.unsigned }

/-- Lines that differ in what their requests are signed with. -/
def Line.Alike (line line' : Line) : Prop := line.unsigned = line'.unsigned

theorem Line.alike_refl (line : Line) : line.Alike line := rfl

namespace Line.Alike

variable {line line' : Line}

theorem reachable_eq (h : line.Alike line') : line.reachable = line'.reachable :=
  congrArg (·.reachable) (h : line.unsigned = line'.unsigned)

theorem secured_eq (h : line.Alike line') : line.secured = line'.secured :=
  congrArg (·.secured) (h : line.unsigned = line'.unsigned)

/-- Connections can be made for the same URLs. -/
theorem takes_eq (h : line.Alike line') (url : Url) : line.takes url = line'.takes url := by
  rw [Line.takes, Line.takes, h.reachable_eq, h.secured_eq]

theorem replies_eq (h : line.Alike line') : line.replies = line'.replies :=
  congrArg (·.replies) (h : line.unsigned = line'.unsigned)

theorem map_sent_eq (h : line.Alike line') :
    line.sent.map Sent.unsigned = line'.sent.map Sent.unsigned :=
  congrArg (·.sent) (h : line.unsigned = line'.unsigned)

/-- Forgotten requests tell nothing apart. -/
theorem quiet (h : line.Alike line') : line.quiet.Alike line'.quiet := by
  simp only [Line.Alike, unsigned, Line.quiet, h.reachable_eq, h.secured_eq, h.replies_eq]

/-- Nor do requests that are the same without what they are signed with, and both get the same
reply. -/
theorem exchange (h : line.Alike line') {request request' : Sent}
    (hrequest : request.unsigned = request'.unsigned) :
    (line.exchange request).1 = (line'.exchange request').1 ∧
      (line.exchange request).2.Alike (line'.exchange request').2 := by
  simp only [Line.exchange, Line.Alike, unsigned, List.map_append, List.map_cons, List.map_nil,
    h.reachable_eq, h.secured_eq, h.replies_eq, h.map_sent_eq, hrequest, and_self]

end Line.Alike

/-- Answers that are alike are the same without what is signed. -/
theorem Answered.Alike.unsigned_eq {a b : Answered Line} (h : a.Alike Line.Alike b) :
    a.unsigned = b.unsigned := by
  obtain ⟨hcompletion, hevents, hstate⟩ := h
  simp only [unsigned, hcompletion, hevents, show a.state.unsigned = b.state.unsigned from hstate]

/-- Answers with the same outcome are alike. -/
theorem Answered.Alike.ofOutcome (outcome : Outcome) {line line' : Line} (h : line.Alike line') :
    (Answered.ofOutcome outcome line).Alike Line.Alike (.ofOutcome outcome line') :=
  ⟨rfl, rfl, h⟩

/-! ## Calls -/

/-- **A call says nothing of the key** but in the authorization of its request. -/
theorem ProviderSettings.alike_ask (p : ProviderSettings) (key? : Option String)
    {key key' : String} (hfits : fitsHeader key = true) (hfits' : fitsHeader key' = true)
    (system user : String) {line line' : Line} (hline : line.Alike line') :
    (p.ask key system user line).Alike Line.Alike
      ((p.withKey key?).ask key' system user line') := by
  have hurl : (p.withKey key?).url? = p.url? := rfl
  have htimeout : (p.withKey key?).timeout = p.timeout := rfl
  simp only [ask, hfits, hfits', hurl, htimeout, hline.takes_eq, Bool.not_true,
    Bool.false_eq_true, if_false]
  cases p.url? with
  | none => exact ⟨rfl, rfl, hline⟩
  | some url =>
      simp only
      split
      · exact ⟨rfl, rfl, hline⟩
      split
      · exact ⟨rfl, rfl, hline⟩
      split
      · exact ⟨rfl, rfl, hline⟩
      · have hrequest : (p.request key url system user).unsigned =
            ((p.withKey key?).request key' url system user).unsigned := rfl
        obtain ⟨hreply, hafter⟩ := hline.exchange hrequest
        rw [hreply]
        exact .ofOutcome _ hafter

namespace Provider

/-- Two providers with keys that a header can hold, and the same settings otherwise. -/
inductive Alike : Provider → Provider → Prop where
  | available (p : ProviderSettings) (key? : Option String) {key key' : String}
      (hfits : fitsHeader key = true) (hfits' : fitsHeader key' = true) :
      Alike (.available p key) (.available (p.withKey key?) key')

namespace Alike

variable {provider provider' : Provider} (h : provider.Alike provider')

include h

theorem isAvailable_eq : provider.isAvailable = provider'.isAvailable := by
  cases h; rfl

theorem model?_eq : provider.model? = provider'.model? := by
  cases h; rfl

theorem backend_eq : provider.backend = provider'.backend := by
  cases h; rfl

theorem complete (system user : String) {line line' : Line} (hline : line.Alike line') :
    (provider.complete system user line).Alike Line.Alike
      (provider'.complete system user line') := by
  obtain @⟨p, key?, key, key', hfits, hfits'⟩ := h
  rw [Provider.complete, Provider.complete]
  exact p.alike_ask key? hfits hfits' system user hline

/-- Calls one after another are answered alike. -/
theorem map_completeAll (calls : List (String × String)) {line line' : Line}
    (hline : line.Alike line') :
    (provider.completeAll calls line).map Answered.unsigned =
      (provider'.completeAll calls line').map Answered.unsigned := by
  induction calls generalizing line line' with
  | nil => rfl
  | cons call calls ih =>
      have hanswer := h.complete call.1 call.2 hline.quiet
      simp only [completeAll, List.map_cons, hanswer.unsigned_eq, ih hanswer.state]

/-- So are the calls of a dialogue, and it runs alike. -/
theorem run {α : Type} (d : Dialogue α) {line line' : Line} (hline : line.Alike line') :
    (d.run provider.client line).Alike Eq Line.Alike (d.run provider'.client line') := by
  refine Dialogue.Alike.run ?_ (.refl (fun _ => rfl) d) hline
  rintro call _ line line' rfl hline
  exact h.complete call.instruction.text call.user hline

end Alike

end Provider

end AnalysisGateway
