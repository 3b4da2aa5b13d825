import AnalysisGateway.Cli.Run
import AnalysisGateway.Proofs.Http.Credential
import AnalysisGateway.Proofs.Provider.Key

/-!
# The key stays secret

Two environments that differ in their keys only lead to the same settings but for the key, and so to
two services that answer every request alike. What a request leads to is compared without what it is
signed with; everything else that leaves the service is the same for both: what it tells of its
settings and of its provider, its log, its responses, and the requests to its provider.
-/

namespace AnalysisGateway

/-- Written settings say no more of a key than that there is one. -/
theorem ProviderSettings.quoted_withKey {p : ProviderSettings} {key? : Option String}
    (h : key?.isSome = p.apiKey.isSome) : (p.withKey key?).quoted = p.quoted := by
  -- Unfolding `quoted` under the hypothesis would evaluate its texts; case by case it is `rfl`.
  obtain ⟨apiKey, baseUrl, model, temperature, maxTokens, timeout⟩ := p
  cases key? with
  | none =>
      cases apiKey with
      | none => rfl
      | some other => nomatch h
  | some key =>
      cases apiKey with
      | none => nomatch h
      | some other => rfl

namespace Http

/-- An exchange that leaves a line whose requests are not signed. -/
def Exchange.unsigned (e : Exchange) : Exchange := { e with line := e.line.unsigned }

/-- Two services with the same settings but for the provider's, and with providers that differ in
their keys only. -/
structure Service.Alike (service service' : Service) : Prop where
  server_eq : service.settings.server = service'.settings.server
  analysis_eq : service.settings.analysis = service'.settings.analysis
  provider : service.provider.Alike service'.provider

/-- Runs that are alike are answered alike. -/
theorem unsigned_ofTranscript {t u : Transcript (Except Failure Analysis) Line}
    (h : t.Alike Eq Line.Alike u) : (ofTranscript t).unsigned = (ofTranscript u).unsigned := by
  obtain ⟨hending, -, hevents, hstate⟩ := h
  replace hstate : t.state.unsigned = u.state.unsigned := hstate
  simp only [ofTranscript, hending]
  split <;> simp only [Exchange.unsigned, reportFailure, reportCrash, hevents, hstate]

namespace Service.Alike

variable {service service' : Service} (h : service.Alike service')

include h

theorem route?_eq (path : String) : service.route? path = service'.route? path := by
  rw [route?, route?, h.analysis_eq]

theorem healthBody_eq : service.healthBody = service'.healthBody := by
  rw [healthBody, healthBody, h.analysis_eq, h.provider.isAvailable_eq, h.provider.model?_eq]

/-- What is answered without the provider is the same. -/
theorem answerLocally_eq (method : String) (route? : Option Route) :
    service.answerLocally method route? = service'.answerLocally method route? := by
  have hreading (route : Route) : service.reading route = service'.reading route := by
    cases route <;> simp only [reading, h.healthBody_eq]
  simp only [answerLocally, hreading]

/-- A request is answered alike. -/
theorem respond (r : Request) {line line' : Line} (hline : line.Alike line') :
    (service.respond r line).unsigned = (service'.respond r line').unsigned := by
  replace hline : line.unsigned = line'.unsigned := hline
  rw [Service.respond, Service.respond, h.route?_eq, h.answerLocally_eq]
  split
  · rw [analysis, analysis, h.server_eq, h.analysis_eq]
    split
    · simp only [Exchange.unsigned, reportFailure, hline]
    · exact unsigned_ofTranscript (h.provider.run _ hline)
  · simp only [Exchange.unsigned, hline]

/-- **Histories are answered alike.** -/
theorem map_respondAll (requests : List Request) {line line' : Line} (hline : line.Alike line') :
    (service.respondAll requests line).map Exchange.unsigned =
      (service'.respondAll requests line').map Exchange.unsigned := by
  induction requests generalizing line line' with
  | nil => rfl
  | cons r requests ih =>
      have hfirst := h.respond r hline.quiet
      have hafter : (service.respond r line.quiet).line.Alike
          (service'.respond r line'.quiet).line := congrArg Exchange.line hfirst
      simp only [respondAll, List.map_cons, hfirst, ih hafter]

end Service.Alike

/-- Two services that nobody can tell apart who does not see what requests are signed with. -/
structure Service.Indistinguishable (service service' : Service) : Prop where
  /-- Their provider's settings are written alike. -/
  quoted_eq : service.settings.provider.quoted = service'.settings.provider.quoted
  /-- Their providers tell the same of themselves. -/
  isAvailable_eq : service.provider.isAvailable = service'.provider.isAvailable
  model?_eq : service.provider.model? = service'.provider.model?
  backend_eq : service.provider.backend = service'.provider.backend
  /-- Calls have the same results and the same events, and send the same requests. -/
  completeAll : ∀ calls line,
    (service.provider.completeAll calls line).map Answered.unsigned =
      (service'.provider.completeAll calls line).map Answered.unsigned
  /-- Requests have the same responses and the same events, and lead to the same requests. -/
  respondAll : ∀ requests line,
    (service.respondAll requests line).map Exchange.unsigned =
      (service'.respondAll requests line).map Exchange.unsigned

/-- A key that a header can hold may be replaced by another one. -/
theorem Service.indistinguishable_withKey {s : Settings} {key key' : String}
    (hkey : s.provider.apiKey = some key) (hfits : fitsHeader key = true)
    (hfits' : fitsHeader key' = true) :
    (ofSettings s).Indistinguishable (ofSettings (s.withKey (some key'))) := by
  have hprovider : (ofSettings s).provider.Alike (ofSettings (s.withKey (some key'))).provider := by
    rw [ofSettings, Provider.ofSettings, hkey]
    exact .available s.provider (some key') hfits hfits'
  have halike : (ofSettings s).Alike (ofSettings (s.withKey (some key'))) := ⟨rfl, rfl, hprovider⟩
  have hquoted : (s.provider.withKey (some key')).quoted = s.provider.quoted :=
    ProviderSettings.quoted_withKey (by rw [hkey]; rfl)
  exact ⟨hquoted.symm, hprovider.isAvailable_eq, hprovider.model?_eq, hprovider.backend_eq,
    fun calls line => hprovider.map_completeAll calls line.alike_refl,
    fun requests line => halike.map_respondAll requests line.alike_refl⟩

end Http

namespace Cli

/-- What is reported before the service listens does not depend on the key, if there is one. -/
theorem startEvents_withKey {s : Settings} {key? : Option String}
    (h : key?.isSome = s.provider.apiKey.isSome) :
    startEvents (s.withKey key?) = startEvents s := by
  have havailable : (Provider.ofSettings (s.withKey key?).provider).isAvailable =
      (Provider.ofSettings s.provider).isAvailable := by
    rw [ProviderSettings.isAvailable_ofSettings, ProviderSettings.isAvailable_ofSettings]
    exact h
  simp only [startEvents, havailable]
  rfl

/-- What the program writes when it serves does not depend on the key, if there is one. -/
theorem serve_eq_of_sameButKeys {env env' : Environment} (hsame : env.SameButKeys env')
    (hkeys : (Settings.apiKey env').isSome = (Settings.apiKey env).isSome) (machine : Machine)
    (o : Options) (stopped : Bool) :
    serve machine o env' stopped = serve machine o env stopped := by
  have hfilter : filterOf env' = filterOf env := by
    rw [filterOf, filterOf, Environment.text?_congr (hsame _ (by decide) (by decide))]
  have hsettings : o.settings env' =
      ((o.settings env).1.withKey (Settings.apiKey env'), (o.settings env).2) := by
    simp only [Options.settings, Settings.formatOf_eq hsame, Settings.ofFormat_eq_withKey hsame]
    rfl
  have hstart : startEvents ((o.settings env).1.withKey (Settings.apiKey env')) =
      startEvents (o.settings env).1 := startEvents_withKey hkeys
  have hlines : o.lines env' = o.lines env := by
    funext events
    rw [Options.lines, Options.lines, hfilter]
  have hserver : ((o.settings env).1.withKey (Settings.apiKey env')).server =
      (o.settings env).1.server := rfl
  simp only [serve, hsettings, hlines, hstart, Machine.listen, hserver]
  cases machine.refusal (o.settings env).1.server.host (o.settings env).1.server.portNumber <;> rfl

end Cli

open Http in
/-- **The key leaks nowhere but into the authorization of requests.** Environments that differ in
their keys only give the same warnings and services that cannot be told apart, and the program
writes the same for both. -/
theorem Http.Service.indistinguishable_of_sameButKeys {env env' : Environment} {key key' : String}
    (hsame : env.SameButKeys env') (hkey : Settings.apiKey env = some key)
    (hkey' : Settings.apiKey env' = some key') (hfits : fitsHeader key = true)
    (hfits' : fitsHeader key' = true) :
    (∀ f, (Settings.ofFormat env' f).2 = (Settings.ofFormat env f).2 ∧
      (ofSettings (Settings.ofFormat env f).1).Indistinguishable
        (ofSettings (Settings.ofFormat env' f).1)) ∧
    (Settings.ofEnvironment env').2 = (Settings.ofEnvironment env).2 ∧
    (ofSettings (Settings.ofEnvironment env).1).Indistinguishable
      (ofSettings (Settings.ofEnvironment env').1) ∧
    ∀ machine o stopped, Cli.serve machine o env' stopped = Cli.serve machine o env stopped := by
  have hformat (f : Format) : (Settings.ofFormat env' f).2 = (Settings.ofFormat env f).2 ∧
      (ofSettings (Settings.ofFormat env f).1).Indistinguishable
        (ofSettings (Settings.ofFormat env' f).1) := by
    rw [Settings.ofFormat_eq_withKey hsame, hkey']
    exact ⟨rfl, indistinguishable_withKey hkey hfits hfits'⟩
  have hkeys : (Settings.apiKey env').isSome = (Settings.apiKey env).isSome := by
    rw [hkey, hkey']
    rfl
  refine ⟨hformat, ?_, ?_, Cli.serve_eq_of_sameButKeys hsame hkeys⟩
  · simp only [Settings.ofEnvironment, Settings.formatOf_eq hsame, hformat]
  · rw [Settings.ofEnvironment, Settings.ofEnvironment, Settings.formatOf_eq hsame]
    exact (hformat _).2

/-- A key from the first variable and one from the second, after a blank first one. -/
theorem Http.Service.indistinguishable_of_sameButKeys_blank :
    let env := Environment.ofList [("GROQ_API_KEY", Text.toBytes " one ")]
    let env' := Environment.ofList
      [("GROQ_API_KEY", Text.toBytes "\n"), ("LLM_API_KEY", Text.toBytes "two")]
    env.SameButKeys env' ∧ Settings.apiKey env = some "one" ∧ Settings.apiKey env' = some "two" ∧
      fitsHeader "one" = true ∧ fitsHeader "two" = true ∧
      (ofSettings (Settings.ofEnvironment env).1).Indistinguishable
        (ofSettings (Settings.ofEnvironment env').1) := by
  intro env env'
  have hsame : env.SameButKeys env' := by
    intro name hgroq hllm
    simp [env, env', Environment.ofList, Ne.symm hgroq, Ne.symm hllm]
  have hkey : Settings.apiKey env = some "one" := by decide +kernel
  have hkey' : Settings.apiKey env' = some "two" := by decide +kernel
  have hfits : fitsHeader "one" = true := by decide
  have hfits' : fitsHeader "two" = true := by decide
  exact ⟨hsame, hkey, hkey', hfits, hfits',
    (indistinguishable_of_sameButKeys hsame hkey hkey' hfits hfits').2.2.1⟩

end AnalysisGateway
