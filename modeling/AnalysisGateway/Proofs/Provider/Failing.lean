import AnalysisGateway.Proofs.Provider.Sends

/-!
# How calls fail

A reply fails as a timeout exactly if no answer ever comes; every other failure of a reply has a
text. So a call times out exactly if it can be made and then either there is no time to wait, or its
request goes out and no answer comes (`Provider.completion_eq_timeout_iff`). A provider whose calls
break off breaks off every time: a call that has been answered is never followed by one that does.
-/

namespace AnalysisGateway

/-! ## Replies -/

namespace Outcome

/-- A whole body fails with a text. -/
theorem exists_of_result_ofBody {status : Nat} {body : Bytes} {failure : Failure}
    (h : (ofBody status body).result = .error failure) : ∃ text, failure = .provider text := by
  rw [ofBody] at h
  split at h
  · exact ⟨_, (Except.error.inj h).symm⟩
  split at h
  · split at h
    · next c _ =>
      obtain ⟨choices⟩ := c
      cases choices with
      | nil => exact ⟨_, (Except.error.inj h).symm⟩
      | cons choice more => contradiction
    · exact ⟨_, (Except.error.inj h).symm⟩
  · split at h
    · exact ⟨_, (Except.error.inj h).symm⟩
    · exact ⟨_, (Except.error.inj h).symm⟩

/-- A reply fails as a timeout if it is silence, and with a text otherwise. -/
theorem cases_of_result_ofReply {url : Url} {reply : Reply} {failure : Failure}
    (h : (ofReply url reply).result = .error failure) :
    reply = .silence ∧ failure = .providerTimeout ∨
      reply ≠ .silence ∧ ∃ text, failure = .provider text := by
  cases reply with
  | silence => exact .inl ⟨rfl, (Except.error.inj h).symm⟩
  | closed => exact .inr ⟨nofun, _, (Except.error.inj h).symm⟩
  | answer status body whole =>
      refine .inr ⟨nofun, ?_⟩
      rw [ofReply] at h
      split at h
      · exact exists_of_result_ofBody h
      split at h
      · exact exists_of_result_ofBody h
      · exact ⟨_, (Except.error.inj h).symm⟩

end Outcome

/-! ## Calls -/

/-- Settings with which a request can be sent: a credential that a header can hold, and a URL that a
request can carry. -/
structure ProviderSettings.CanSend (p : ProviderSettings) (key : String) (url : Url) : Prop where
  apiKey_eq : p.apiKey = some key
  fits : fitsHeader key = true
  url?_eq : p.url? = some url
  isRequestable : url.isRequestable = true

/-- A line that carries a request to a URL, and gives no answer to the next one. -/
structure Line.IsSilent (line : Line) (url : Url) : Prop where
  takes_eq : line.takes url = true
  next_eq : line.replies.headD .closed = .silence

variable {p : ProviderSettings} {key system user : String} {line : Line}

/-- The completion of an outcome is a failure exactly if its result is. -/
theorem Answered.completion_ofOutcome_eq_failed_iff {outcome : Outcome} {failure : Failure} :
    (Answered.ofOutcome outcome line).completion = .failed failure ↔
      outcome.result = .error failure := by
  rw [ofOutcome]
  cases outcome.result with
  | ok text => simp
  | error other => simp

/-- A call fails for what the service or its provider has done, never for what a client has. -/
theorem Provider.le_status_of_completion_eq_failed {provider : Provider} {call : Call}
    {failure : Failure} (h : (provider.client call line).completion = .failed failure) :
    500 ≤ failure.status := by
  cases provider with
  | unavailable reason =>
      obtain rfl : Failure.configuration reason = failure := Completion.failed.inj h
      exact Nat.le_refl 500
  | available p key =>
      have hanswers := p.answers_ask key call.instruction.text call.user line
      rw [client, complete] at h
      generalize p.ask key call.instruction.text call.user line = answered at h hanswers
      cases hanswers with
      | crashed detail => contradiction
      | unaddressed text => rw [← Completion.failed.inj h]; exact Nat.le_add_right 500 2
      | late => rw [← Completion.failed.inj h]; exact Nat.le_add_right 500 4
      | unconnected text => rw [← Completion.failed.inj h]; exact Nat.le_add_right 500 2
      | sent =>
          obtain ⟨-, rfl⟩ | ⟨-, text, rfl⟩ :=
            Outcome.cases_of_result_ofReply (Answered.completion_ofOutcome_eq_failed_iff.mp h)
          · exact Nat.le_add_right 500 4
          · exact Nat.le_add_right 500 2

/-- A call to a provider with a credential times out exactly if there is no time to wait, or its
request goes out and no answer comes. -/
theorem ProviderSettings.completion_ask_eq_timeout_iff :
    (p.ask key system user line).completion = .failed .providerTimeout ↔
      fitsHeader key = true ∧ ∃ url, p.url? = some url ∧ url.isRequestable = true ∧
        (p.timeout = 0 ∨ line.IsSilent url) := by
  have hanswers := p.answers_ask key system user line
  generalize p.ask key system user line = answered at hanswers
  cases hanswers with
  | crashed detail hfits => simp [hfits]
  | unaddressed text hfits hurl =>
      refine iff_of_false (by simp [Answered.unsent]) ?_
      rintro ⟨-, url, hurl', hrequestable, -⟩
      rw [hurl url hurl'] at hrequestable
      exact Bool.false_ne_true hrequestable
  | late hfits hurl hrequestable htimeout =>
      exact iff_of_true rfl ⟨hfits, _, hurl, hrequestable, .inl htimeout⟩
  | unconnected text hfits hurl hrequestable htimeout hline =>
      refine iff_of_false (by simp [Answered.unsent]) ?_
      rintro ⟨-, url, hurl', -, hzero | hsilent⟩
      · exact htimeout hzero
      · rw [hurl] at hurl'
        obtain rfl := Option.some.inj hurl'
        exact Bool.false_ne_true (hline.symm.trans hsilent.takes_eq)
  | @sent url hfits hurl hrequestable htimeout htakes =>
      rw [Answered.completion_ofOutcome_eq_failed_iff]
      constructor
      · intro hresult
        obtain ⟨hsilence, -⟩ | ⟨-, text, htext⟩ := Outcome.cases_of_result_ofReply hresult
        · exact ⟨hfits, url, hurl, hrequestable, .inr ⟨htakes, hsilence⟩⟩
        · contradiction
      · rintro ⟨-, url', hurl', -, hzero | hsilent⟩
        · exact absurd hzero htimeout
        · rw [hsilent.next_eq]
          rfl

/-- **A call times out exactly if it can be made and gets no answer in time.** -/
theorem Provider.completion_eq_timeout_iff {call : Call} :
    ((Provider.ofSettings p).client call line).completion = .failed .providerTimeout ↔
      ∃ key url, p.CanSend key url ∧ (p.timeout = 0 ∨ line.IsSilent url) := by
  rw [ofSettings]
  cases hkey : p.apiKey with
  | none =>
      refine iff_of_false (by simp [client, complete, Answered.unsent]) ?_
      rintro ⟨key, url, hsend, -⟩
      rw [hsend.apiKey_eq] at hkey
      contradiction
  | some key =>
      simp only [client, complete, ProviderSettings.completion_ask_eq_timeout_iff]
      constructor
      · rintro ⟨hfits, url, hurl, hrequestable, htime⟩
        exact ⟨key, url, ⟨hkey, hfits, hurl, hrequestable⟩, htime⟩
      · rintro ⟨key', url, ⟨hkey', hfits, hurl, hrequestable⟩, htime⟩
        rw [hkey] at hkey'
        obtain rfl := Option.some.inj hkey'
        exact ⟨hfits, url, hurl, hrequestable, htime⟩

/-! ## Calls that break off -/

/-- A call to a provider with a credential breaks off exactly if no header can hold the
credential. -/
theorem ProviderSettings.exists_completion_ask_eq_crashed_iff (p : ProviderSettings)
    (key system user : String) (line : Line) :
    (∃ detail, (p.ask key system user line).completion = .crashed detail) ↔
      fitsHeader key = false := by
  have hanswers := p.answers_ask key system user line
  generalize p.ask key system user line = answered at hanswers
  have hnot {answered : Answered Line} (hfits : fitsHeader key = true)
      (h : ∀ detail, answered.completion ≠ .crashed detail) :
      (∃ detail, answered.completion = .crashed detail) ↔ fitsHeader key = false :=
    iff_of_false (fun ⟨detail, hdetail⟩ => h detail hdetail) (by simp [hfits])
  cases hanswers with
  | crashed detail hfits => exact iff_of_true ⟨detail, rfl⟩ hfits
  | unaddressed text hfits => exact hnot hfits nofun
  | late hfits => exact hnot hfits nofun
  | unconnected text hfits => exact hnot hfits nofun
  | sent hfits =>
      refine hnot hfits fun detail => ?_
      rw [Answered.ofOutcome]
      split
      · exact nofun
      · exact nofun

/-- A provider that has answered once does not break off. -/
theorem Provider.completion_ne_crashed {provider : Provider} {call other : Call} {line after : Line}
    {text detail : String} (h : (provider.client call line).completion = .text text) :
    (provider.client other after).completion ≠ .crashed detail := by
  cases provider with
  | unavailable reason => contradiction
  | available p key =>
      rw [client, complete] at h ⊢
      intro hcrashed
      have hfits := (p.exists_completion_ask_eq_crashed_iff ..).mp ⟨detail, hcrashed⟩
      obtain ⟨detail', hcrashed'⟩ :=
        (p.exists_completion_ask_eq_crashed_iff key call.instruction.text call.user line).mpr hfits
      rw [hcrashed'] at h
      contradiction

end AnalysisGateway
