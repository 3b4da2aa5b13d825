import AnalysisGateway.Proofs.Provider.Completion
import AnalysisGateway.Proofs.Provider.Sends

/-!
# Calls that are answered

A provider that is ready, over a line that is answered with a completion, is sent one request and
gives the completion's text.
-/

namespace AnalysisGateway

/-! ## What is needed -/

/-- Settings with which a provider at a URL can be asked: a credential that a header can hold, time
to wait, and an address over HTTP. The bound on the tokens is a number of 32 bits, as every bound
from an environment is. -/
structure ProviderSettings.Ready (p : ProviderSettings) (key : String) (url : Url) : Prop where
  apiKey_eq : p.apiKey = some key
  fits : fitsHeader key = true
  timeout_ne : p.timeout ≠ 0
  url?_eq : p.url? = some url
  scheme_eq : url.scheme = "http".toList
  maxTokens_lt : ∀ n, p.maxTokens = some n → n < 2 ^ 32

/-- A line that carries a request to a URL, and answers the first one with a completion that has a
text. -/
structure Line.Completes (line : Line) (url : Url) (text : String) : Prop where
  reachable : line.reachable = true
  isRequestable : url.isRequestable = true
  answered : ∃ body more, line.replies = .answer 200 body true :: more ∧
    Completed.Carries text body

/-! ## A call that is answered -/

/-- A whole body that carries a text gives the text. -/
theorem Outcome.result_ofReply {text : String} {body : Bytes} (h : Completed.Carries text body)
    (url : Url) : (ofReply url (.answer 200 body true)).result = .ok text := by
  obtain ⟨c, hread, hchoice⟩ := h
  obtain ⟨choices⟩ := c
  cases choices with
  | nil => contradiction
  | cons choice more =>
      obtain rfl : choice = some text := Option.some.inj hchoice
      have hbody : ofBody 200 body = ofCompletion ⟨some text :: more⟩ := by
        rw [ofBody, if_neg (by decide), if_pos (by decide), hread]
      rw [ofReply, if_neg (by decide), if_pos rfl, hbody]
      rfl

/-- A ready provider is sent a request, and gives the text. -/
theorem ProviderSettings.Ready.ask_eq {p : ProviderSettings} {key text : String} {url : Url}
    {line : Line} (h : p.Ready key url) (hline : line.Completes url text) (system user : String) :
    (p.ask key system user line).completion = .text text ∧
      (p.ask key system user line).state.sent = line.sent ++ [p.request key url system user] := by
  obtain ⟨body, more, hreplies, hcarries⟩ := hline.answered
  have hresult := Outcome.result_ofReply hcarries url
  have hscheme : url.scheme ≠ "https".toList := by rw [h.scheme_eq]; decide
  have htakes : line.takes url = true := (line.takes_of_scheme_ne hscheme).trans hline.reachable
  rw [ask_eq_ofOutcome h.fits h.url?_eq hline.isRequestable h.timeout_ne htakes, hreplies,
    List.headD_cons, Answered.ofOutcome, hresult]
  exact ⟨rfl, rfl⟩

/-- **A call that a ready provider answers** adds its request to those before it. -/
theorem ProviderSettings.Ready.client_eq {p : ProviderSettings} {key text : String} {url : Url}
    {line : Line} (h : p.Ready key url) (hline : line.Completes url text) (call : Call) :
    ((Provider.ofSettings p).client call line).completion = .text text ∧
      ((Provider.ofSettings p).client call line).state.sent =
        line.sent ++ [p.request key url call.instruction.text call.user] := by
  rw [Provider.ofSettings, h.apiKey_eq]
  exact h.ask_eq hline call.instruction.text call.user

end AnalysisGateway
