import AnalysisGateway.Proofs.Http.FailureBody
import AnalysisGateway.Proofs.Http.History
import AnalysisGateway.Proofs.Settings.Credential

/-!
# What the credential decides

A service with a credential asks its provider, and signs each request with it. A service without one
asks nobody: what would be analysed is answered with the reason, and what is refused is refused as
ever. The health says which of the two it is.
-/

namespace AnalysisGateway

/-! ## Providers -/

/-- A provider is available if there is a credential for it. -/
theorem ProviderSettings.isAvailable_ofSettings (p : ProviderSettings) :
    (Provider.ofSettings p).isAvailable = p.apiKey.isSome := by
  rw [Provider.ofSettings]
  cases p.apiKey <;> rfl

/-- It has the model of the settings then. -/
theorem ProviderSettings.model?_ofSettings (p : ProviderSettings) :
    (Provider.ofSettings p).model? = p.apiKey.map fun _ => p.model := by
  rw [Provider.ofSettings]
  cases p.apiKey <;> rfl

/-! ## Requests to the provider -/

/-- What a provider with a credential signs carries it. -/
theorem Provider.authorization_of_signs {p : ProviderSettings} {key : String}
    (hkey : p.apiKey = some key) {sent : Sent} (h : (ofSettings p).Signs sent) :
    sent.authorization = "Bearer " ++ key := by
  rw [ofSettings, hkey] at h
  exact h

/-- A provider without a credential signs nothing. -/
theorem Provider.eq_nil_of_signs {p : ProviderSettings} (hkey : p.apiKey = none) {new : List Sent}
    (h : ∀ sent ∈ new, (ofSettings p).Signs sent) : new = [] := by
  rw [ofSettings, hkey] at h
  exact List.eq_nil_iff_forall_not_mem.mpr h

/-- Runs one after another send what the provider signs. -/
theorem Dialogue.exists_state_runAll {α : Type} (provider : Provider)
    (dialogues : List (Dialogue α)) (line : Line) :
    ∀ t ∈ runAll provider.client dialogues line,
      ∃ new, t.state = line.after new ∧ ∀ sent ∈ new, provider.Signs sent := by
  induction dialogues generalizing line with
  | nil => exact List.forall_mem_nil _
  | cons d dialogues ih =>
      obtain ⟨new, hstate, -, hsigns⟩ := d.exists_state_run provider line
      intro t ht
      obtain rfl | ht := List.mem_cons.mp ht
      · exact ⟨new, hstate, hsigns⟩
      · obtain ⟨more, hmore, hmoreSigns⟩ := ih _ t ht
        refine ⟨new ++ more, ?_, fun sent hsent => ?_⟩
        · rw [hmore, hstate, Line.after_after]
        · exact (List.mem_append.mp hsent).elim (hsigns sent) (hmoreSigns sent)

namespace Http

open Json

/-- So does a history of requests. -/
theorem Service.signs_respondAll (service : Service) (requests : List Request) (line : Line) :
    ∀ e ∈ service.respondAll requests line, ∀ sent ∈ e.line.sent, service.provider.Signs sent := by
  induction requests generalizing line with
  | nil => exact List.forall_mem_nil _
  | cons r requests ih =>
      intro e he
      obtain rfl | he := List.mem_cons.mp he
      · obtain ⟨new, hline, -, hsigns, -⟩ := service.exists_line_respond r line.quiet
        have hsent : (service.respond r line.quiet).line.sent = new := by
          rw [hline, Line.sent_after]
          rfl
        rw [hsent]
        exact hsigns
      · exact ih _ e he

/-! ## Health -/

/-- The members of a health report. There is a model if there is a provider. -/
def healthMembers (format : Format) (model? : Option String) : List (String × Value) :=
  [("status", .text "ok"), ("version", .text serviceVersion), ("format", .text format.name),
    ("llm", .object (match model? with
      | some model => [("status", .text "configured"), ("model", .text model)]
      | none => [("status", .text "unconfigured")]))]

/-- The health is read as an object with its members. -/
theorem Service.readWhole_healthBody (service : Service) :
    readWhole (readValue greatestDepth) (Text.encode service.healthBody) =
      .ok (.object (healthMembers service.settings.analysis.format service.provider.model?)) := by
  have hspells : Spells greatestDepth
      (.object (healthMembers service.settings.analysis.format service.provider.model?))
      service.healthBody := by
    refine .object (elements_writtenMembers (.cons ⟨rfl, spells_writtenString 126 _⟩
      (.cons ⟨rfl, spells_writtenString 126 _⟩ (.cons ⟨rfl, spells_writtenString 126 _⟩
        (.cons ⟨rfl, ?_⟩ .nil)))))
    cases service.provider with
    | available p key =>
        exact .object (elements_writtenMembers (.cons ⟨rfl, spells_writtenString 125 "configured"⟩
          (.cons ⟨rfl, spells_writtenString 125 p.model⟩ .nil)))
    | unavailable reason =>
        exact .object (elements_writtenMembers
          (.cons ⟨rfl, spells_writtenString 125 "unconfigured"⟩ .nil))
  exact (accepts_readValue _).readWhole_encode hspells

/-! ## Analyses without a credential -/

/-- Where the first call fails for want of a credential, so does the analysis. -/
theorem ending_of_configuration (f : Format) (reason : String) (second : Completion) :
    f.ending (.failed (.configuration reason)) second =
      .finished (.error (.configuration reason)) := by
  cases f <;> rfl

namespace Service

/-- An accepted snippet that nobody can be asked about is answered with the reason. -/
theorem Addresses.tells_of_unavailable {service : Service} {r : Request} {line : Line}
    {reason code user : String} (haddresses : service.Addresses r)
    (hprovider : service.provider = .unavailable reason) (h : service.Accepts r code user) :
    let response := (service.respond r line).response
    response.status = 500 ∧ response.Tells reason := by
  intro response
  have hending := ending_run_analyze service.provider.client h.checkSnippet_eq line
  rw [hprovider] at hending
  replace hending := hending.trans (ending_of_configuration _ reason _)
  have hresponse : response = (ofTranscript _).response :=
    congrArg Exchange.response (haddresses.respond_of_accepts line h)
  rw [hresponse, hprovider, ofTranscript, hending]
  exact ⟨rfl, tells_reportFailure (.configuration reason) _ _⟩

/-- What a credential decides of a service, and what it does not. -/
structure GatedBy (service : Service) (key? : Option String) : Prop where
  /-- There is a provider exactly if there is a credential. -/
  isAvailable_eq : service.provider.isAvailable = key?.isSome
  /-- There is a model exactly if there is a credential. -/
  model?_eq : service.provider.model? = key?.map fun _ => service.settings.provider.model
  /-- The health says so. -/
  health : ∀ r line, r.method = "GET" → r.path = "/health" →
    let response := (service.respond r line).response
    response.status = 200 ∧
      readWhole (readValue greatestDepth) (Text.encode response.body) =
        .ok (.object (healthMembers service.settings.analysis.format
          (key?.map fun _ => service.settings.provider.model)))
  /-- Without a credential nothing is sent, neither by calls nor for requests. -/
  unsent : key? = none →
    (∀ {α : Type} (dialogues : List (Dialogue α)) line,
      ∀ t ∈ Dialogue.runAll service.provider.client dialogues line, t.state = line) ∧
    ∀ requests line, ∀ e ∈ service.respondAll requests line, e.line.sent = []
  /-- With one, everything that is sent carries it. -/
  signed : ∀ key, key? = some key →
    (∀ {α : Type} (dialogues : List (Dialogue α)) line,
      ∀ t ∈ Dialogue.runAll service.provider.client dialogues line,
        ∃ new, t.state = line.after new ∧ ∀ sent ∈ new, sent.authorization = "Bearer " ++ key) ∧
    ∀ requests line, ∀ e ∈ service.respondAll requests line,
      ∀ sent ∈ e.line.sent, sent.authorization = "Bearer " ++ key
  /-- Without a credential an accepted snippet is answered with the reason. -/
  accepted : key? = none → ∀ r line code user, service.Addresses r → service.Accepts r code user →
    let response := (service.respond r line).response
    response.status = 500 ∧ response.Tells "GROQ_API_KEY is not configured"
  /-- A refused snippet is answered with its own failure, which the client has caused, unless the
  body could not be read. -/
  refused : ∀ r line failure, service.Addresses r → service.Refuses r failure →
    let response := (service.respond r line).response
    response.status = failure.status ∧ response.Tells failure.message ∧
      (r.bodyFails = true ∨ failure.status = 400 ∨ failure.status = 413)

/-- A service is gated by the credential in its settings. -/
theorem gatedBy_apiKey (s : Settings) : (ofSettings s).GatedBy s.provider.apiKey where
  isAvailable_eq := s.provider.isAvailable_ofSettings
  model?_eq := s.provider.model?_ofSettings
  health := by
    intro r line hmethod hpath response
    have hresponse : response = _ :=
      congrArg Exchange.response ((ofSettings s).respond_health r hmethod hpath line)
    rw [hresponse]
    exact ⟨rfl, s.provider.model?_ofSettings ▸ (ofSettings s).readWhole_healthBody⟩
  unsent := by
    refine fun hkey => ⟨fun dialogues line t ht => ?_, fun requests line e he => ?_⟩
    · obtain ⟨new, hstate, hsigns⟩ := Dialogue.exists_state_runAll _ dialogues line t ht
      rw [hstate, Provider.eq_nil_of_signs hkey hsigns, line.after_nil]
    · exact Provider.eq_nil_of_signs hkey ((ofSettings s).signs_respondAll requests line e he)
  signed := by
    refine fun key hkey => ⟨fun dialogues line t ht => ?_, fun requests line e he sent hsent => ?_⟩
    · obtain ⟨new, hstate, hsigns⟩ := Dialogue.exists_state_runAll _ dialogues line t ht
      refine ⟨new, hstate, fun sent hsent => ?_⟩
      exact Provider.authorization_of_signs hkey (hsigns sent hsent)
    · exact Provider.authorization_of_signs hkey
        ((ofSettings s).signs_respondAll requests line e he sent hsent)
  accepted := by
    intro hkey r line code user haddresses haccepts
    have hprovider : (ofSettings s).provider = .unavailable Provider.keyMissing := by
      rw [ofSettings, Provider.ofSettings, hkey]
    exact haddresses.tells_of_unavailable hprovider haccepts
  refused := by
    intro r line failure haddresses hrefuses response
    have hresponse : response = _ :=
      congrArg Exchange.response (haddresses.respond_of_refuses line hrefuses)
    rw [hresponse]
    refine ⟨rfl, tells_reportFailure failure [] line, ?_⟩
    obtain ⟨text, rfl⟩ | ⟨text, rfl⟩ | ⟨hfails, -⟩ := hrefuses.cases
    · exact .inr (.inl rfl)
    · exact .inr (.inr rfl)
    · exact .inl hfails

/-- **The credential of an environment gates the service**, whatever the format. It is the key that
the first of the two variables gives, or else what the second one gives; the second one counts for
nothing if the first one gives a key. -/
theorem gatedBy_environment (env : Environment) (f : Format) :
    let s := (Settings.ofFormat env f).1
    (∀ key, s.provider.apiKey = some key ↔
      env.Gives "GROQ_API_KEY" key ∨
        (∀ other, ¬ env.Gives "GROQ_API_KEY" other) ∧ env.Gives "LLM_API_KEY" key) ∧
    (∀ key env', env.Gives "GROQ_API_KEY" key →
      (∀ name, name ≠ "LLM_API_KEY" → env' name = env name) →
        Settings.formatOf env' = Settings.formatOf env ∧
          Settings.ofFormat env' f = Settings.ofFormat env f) ∧
    (ofSettings s).GatedBy s.provider.apiKey :=
  ⟨fun _ => Settings.apiKey_eq_some_iff,
    fun _ _ hgives hother => ⟨Settings.formatOf_eq_of_ne hother,
      Settings.ofFormat_eq_of_gives hgives hother f⟩,
    gatedBy_apiKey _⟩

end Service

end Http

end AnalysisGateway
