import AnalysisGateway.Proofs.Provider.Failing
import AnalysisGateway.Proofs.Provider.Request

/-!
# One call, one request

A call sends one request at most, whatever reply it gets: nothing is sent again. It sends one
exactly if it can be sent and the line takes it, and on a line that is not secured exactly if it can
be sent over HTTP. That takes more than an address that is an HTTP URL: the host must be of
characters that a request can carry.

What is sent has the members of the call and no others, whatever the texts are. Slashes at the end
of the configured address change nothing at all.
-/

namespace AnalysisGateway

open Json

/-! ## Slashes at the end -/

theorem withoutSlashes_append_replicate (s : List Char) (n : Nat) :
    withoutSlashes (s ++ List.replicate n '/') = withoutSlashes s := by
  rw [withoutSlashes, withoutSlashes, List.reverse_append, List.reverse_replicate,
    List.dropWhile_append_of_pos]
  intro c hc
  rw [List.eq_of_mem_replicate hc]
  rfl

namespace ProviderSettings

variable {p : ProviderSettings} {system user : String} {line : Line}

/-- The settings with further slashes at the end of the address. -/
def withSlashes (p : ProviderSettings) (n : Nat) : ProviderSettings :=
  { p with baseUrl := p.baseUrl ++ String.ofList (List.replicate n '/') }

theorem url?_withSlashes (p : ProviderSettings) (n : Nat) : (p.withSlashes n).url? = p.url? := by
  simp only [url?, address, withSlashes, String.toList_append, String.toList_ofList,
    withoutSlashes_append_replicate]

theorem ask_withSlashes (p : ProviderSettings) (n : Nat) (key system user : String) (line : Line) :
    (p.withSlashes n).ask key system user line = p.ask key system user line := by
  rw [ask, ask, url?_withSlashes]
  rfl

/-- **Slashes at the end of the address change nothing**: neither the completion, nor the events,
nor what is sent. -/
theorem complete_withSlashes (p : ProviderSettings) (n : Nat) (system user : String) (line : Line) :
    (Provider.ofSettings (p.withSlashes n)).complete system user line =
      (Provider.ofSettings p).complete system user line := by
  have hkey : (p.withSlashes n).apiKey = p.apiKey := rfl
  rw [Provider.ofSettings, Provider.ofSettings, hkey]
  cases p.apiKey with
  | none => rfl
  | some key => exact p.ask_withSlashes n key system user line

end ProviderSettings

/-! ## The request -/

/-- A URL that a request can carry is one over HTTP, unless it is one over HTTPS. -/
theorem Url.scheme_eq_http {url : Url} (hrequestable : url.isRequestable = true)
    (hscheme : url.scheme ≠ "https".toList) : url.scheme = "http".toList := by
  simp only [isRequestable, Bool.and_eq_true, Bool.or_eq_true, beq_iff_eq] at hrequestable
  exact hrequestable.1.1.resolve_right hscheme

namespace ProviderSettings

/-- A call that is sent: it can be sent, the line takes it, and there is time to wait. -/
structure Sends (p : ProviderSettings) (line : Line) : Prop where
  canSend : ∃ key url, p.CanSend key url ∧ line.takes url = true
  timeout_ne : p.timeout ≠ 0

/-- A call that is sent over HTTP: it can be sent, the line can be reached, and there is time to
wait. -/
structure SendsOverHttp (p : ProviderSettings) (line : Line) : Prop where
  canSend : ∃ key url, p.CanSend key url ∧ url.scheme = "http".toList
  reachable : line.reachable = true
  timeout_ne : p.timeout ≠ 0

/-- On a line that is not secured, calls are sent over HTTP. -/
theorem sends_iff_of_unsecured {p : ProviderSettings} {line : Line}
    (hsecured : line.secured = false) : p.Sends line ↔ p.SendsOverHttp line := by
  constructor
  · rintro ⟨⟨key, url, hsend, htakes⟩, htimeout⟩
    obtain ⟨hreachable, hscheme⟩ := (line.takes_eq_true_iff_of_unsecured hsecured).mp htakes
    exact ⟨⟨key, url, hsend, Url.scheme_eq_http hsend.isRequestable hscheme⟩, hreachable, htimeout⟩
  · rintro ⟨⟨key, url, hsend, hhttp⟩, hreachable, htimeout⟩
    have hscheme : url.scheme ≠ "https".toList := by rw [hhttp]; decide
    exact ⟨⟨key, url, hsend, (line.takes_of_scheme_ne hscheme).trans hreachable⟩, htimeout⟩

/-- The requests of one call: one at most, and one exactly if the call is sent, which on a line that
is not secured it is over HTTP only. A body is read as an object with the members of the call. -/
structure Exchanges (p : ProviderSettings) (temperature : Value) (system user : String)
    (line : Line) (new : List Sent) : Prop where
  length_le : new.length ≤ 1
  length_eq_iff : new.length = 1 ↔ p.Sends line
  length_eq_iff_http : line.secured = false → (new.length = 1 ↔ p.SendsOverHttp line)
  reads : ∀ sent ∈ new, readWhole (readValue greatestDepth) (Text.toBytes sent.body) =
    .ok (.object (p.requestMembers system user temperature))

variable {p : ProviderSettings} {temperature : Value} {system user : String} {line : Line}

/-- A call that is not sent sends nothing. -/
theorem exchanges_nil (h : ¬ p.Sends line) : p.Exchanges temperature system user line [] := by
  have hiff : ([] : List Sent).length = 1 ↔ p.Sends line := iff_of_false (by decide) h
  exact ⟨by decide, hiff, fun hsecured => hiff.trans (sends_iff_of_unsecured hsecured),
    List.forall_mem_nil _⟩

/-- A call that is sent sends a request with the members of the call. -/
theorem exchanges_singleton (h : p.Sends line) {sent : Sent}
    (hreads : readWhole (readValue greatestDepth) (Text.toBytes sent.body) =
      .ok (.object (p.requestMembers system user temperature))) :
    p.Exchanges temperature system user line [sent] := by
  have hiff : [sent].length = 1 ↔ p.Sends line := iff_of_true rfl h
  exact ⟨Nat.le_refl 1, hiff, fun hsecured => hiff.trans (sends_iff_of_unsecured hsecured),
    List.forall_mem_singleton.mpr hreads⟩

/-- A call to a provider with a credential sends one request at most. -/
theorem exists_exchanges_ask {key : String} (hkey : p.apiKey = some key)
    (hreads : ∀ key url system user,
      readWhole (readValue greatestDepth) (Text.toBytes (p.request key url system user).body) =
        .ok (.object (p.requestMembers system user temperature)))
    (system user : String) (line : Line) :
    ∃ new, (p.ask key system user line).state = line.after new ∧
      p.Exchanges temperature system user line new := by
  have hnone (h : ¬ p.Sends line) : ∃ new, line = line.after new ∧
      p.Exchanges temperature system user line new :=
    ⟨[], line.after_nil.symm, exchanges_nil h⟩
  have hanswers := p.answers_ask key system user line
  generalize p.ask key system user line = answered at hanswers
  -- Only the last answer sends anything; each of the others lacks a part of `Sends`.
  cases hanswers with
  | crashed detail hfits =>
      refine hnone ?_
      rintro ⟨⟨other, url, hsend, -⟩, -⟩
      have hsame := hsend.apiKey_eq
      rw [hkey] at hsame
      obtain rfl := Option.some.inj hsame
      rw [hsend.fits] at hfits
      contradiction
  | unaddressed text hfits hurl =>
      refine hnone ?_
      rintro ⟨⟨other, url, hsend, -⟩, -⟩
      have hnot := hurl url hsend.url?_eq
      rw [hsend.isRequestable] at hnot
      contradiction
  | late hfits hurl hrequestable htimeout => exact hnone fun h => h.timeout_ne htimeout
  | @unconnected url text hfits hurl hrequestable htimeout hline =>
      refine hnone ?_
      rintro ⟨⟨other, otherUrl, hsend, htakes⟩, -⟩
      have hsame := hsend.url?_eq
      rw [hurl] at hsame
      obtain rfl := Option.some.inj hsame
      rw [htakes] at hline
      contradiction
  | @sent url hfits hurl hrequestable htimeout htakes =>
      have hsends : p.Sends line :=
        ⟨⟨key, url, ⟨hkey, hfits, hurl, hrequestable⟩, htakes⟩, htimeout⟩
      exact ⟨[p.request key url system user], rfl,
        exchanges_singleton hsends (hreads key url system user)⟩

/-- **What one call sends**: one request at most, whatever the reply is, and one exactly if it can
be sent and the line takes it; on a line that is not secured, exactly if it is sent over HTTP. The
body says the instruction, the user's text, the model and the bound on tokens as they are, and a
temperature that does not depend on the texts. Slashes at the end of the address change neither the
requests nor the completion nor the events. -/
theorem exists_exchanges_complete (p : ProviderSettings)
    (hmax : ∀ n, p.maxTokens = some n → n < 2 ^ 32) :
    ∃ temperature : Value, temperature.IsNumberOrNull ∧
      ∀ (system user : String) (line : Line),
        let a := (Provider.ofSettings p).complete system user line
        (∃ new, a.state = line.after new ∧ p.Exchanges temperature system user line new) ∧
        ∀ n, (Provider.ofSettings (p.withSlashes n)).complete system user line = a := by
  obtain ⟨temperature, hkind, hreads⟩ := p.exists_readWhole_request fun n hn =>
    Nat.lt_trans (hmax n hn) (by decide)
  refine ⟨temperature, hkind, fun system user line => ⟨?_, fun n => ?_⟩⟩
  · rw [Provider.ofSettings]
    cases hkey : p.apiKey with
    | none =>
        refine ⟨[], line.after_nil.symm, exchanges_nil ?_⟩
        rintro ⟨⟨key, url, hsend, -⟩, -⟩
        rw [hsend.apiKey_eq] at hkey
        contradiction
    | some key => exact exists_exchanges_ask hkey hreads system user line
  · exact p.complete_withSlashes n system user line

/-- With a slash at the end of the address and a bound on tokens, one request is sent. -/
theorem exists_exchanges_complete_bounded :
    let p : ProviderSettings := ⟨some "key", "http://h/v1/", "model", 0, some 7, 5⟩
    (∀ n, p.maxTokens = some n → n < 2 ^ 32) ∧
      ∃ temperature : Value, temperature.IsNumberOrNull ∧ ∃ sent,
        ((Provider.ofSettings p).complete "system" "user" ⟨true, [], [], false⟩).state.sent =
          [sent] ∧
        readWhole (readValue greatestDepth) (Text.toBytes sent.body) =
          .ok (.object (p.requestMembers "system" "user" temperature)) := by
  intro p
  have hmax : ∀ n, p.maxTokens = some n → n < 2 ^ 32 := by
    intro n hn
    obtain rfl : 7 = n := Option.some.inj hn
    decide
  have hsends : p.SendsOverHttp ⟨true, [], [], false⟩ :=
    ⟨⟨"key",
      ⟨"http".toList, .absent, some (.name ['h']), none, "/v1/chat/completions".toList, none, none⟩,
      ⟨rfl, by decide, by decide +kernel, by decide⟩, rfl⟩, rfl, by decide⟩
  obtain ⟨temperature, hkind, hcalls⟩ := exists_exchanges_complete p hmax
  obtain ⟨⟨new, hstate, hexchanges⟩, -⟩ := hcalls "system" "user" ⟨true, [], [], false⟩
  obtain ⟨sent, rfl⟩ := List.length_eq_one_iff.mp ((hexchanges.length_eq_iff_http rfl).mpr hsends)
  exact ⟨hmax, temperature, hkind, sent, by rw [hstate]; rfl,
    hexchanges.reads sent (List.mem_singleton.mpr rfl)⟩

/-- A host with a brace is a host of a URL over HTTP, but nothing is sent to it. -/
theorem not_forall_sends_to_http :
    ¬ ∀ (p : ProviderSettings) (key system user : String) (line : Line) (url : Url),
      p.apiKey = some key → fitsHeader key = true → p.timeout ≠ 0 → line.reachable = true →
      Url.readChars p.address = some url → url.scheme = "http".toList →
      ∃ sent, ((Provider.ofSettings p).complete system user line).state = line.after [sent] := by
  intro h
  let p : ProviderSettings := ⟨some "key", "http://a\x7bb/v1", "model", 0, none, 5⟩
  let url : Url := ⟨"http".toList, .absent, some (.name ['a', '\x7b', 'b']), none,
    "/v1/chat/completions".toList, none, none⟩
  obtain ⟨sent, hstate⟩ := h p "key" "system" "user" ⟨true, [], [], false⟩ url rfl (by decide)
    (by decide) rfl (by decide +kernel) rfl
  have hfits : fitsHeader "key" = true := by decide
  have hurl : p.url? = some url := by decide +kernel
  have hnot : url.isRequestable = false := by decide
  have hunsent : p.ask "key" "system" "user" ⟨true, [], [], false⟩ = .unsent (Outcome.requestFailed
      ("builder error for url (" ++ url.text ++ ")")) ⟨true, [], [], false⟩ := by
    simp [ask, hfits, hurl, hnot]
  have hstate : (p.ask "key" "system" "user" ⟨true, [], [], false⟩).state = Line.after _ [sent] :=
    hstate
  rw [hunsent] at hstate
  exact absurd (congrArg Line.sent hstate) (by simp [Answered.unsent])

end ProviderSettings

end AnalysisGateway
