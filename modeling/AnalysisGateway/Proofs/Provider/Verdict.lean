import AnalysisGateway.Proofs.Provider.Exchange

/-!
# What a reply makes of a call

A call over HTTP comes to what is said in the answer to its request:

1. an answer of success with a completion gives the text of the first choice, whatever the others
   are;
2. an answer that reports an error fails with the error's message, which for a status of the 500s is
   the whole body;
3. silence fails as a timeout;
4. everything else fails with a text: a connection that is closed or breaks off, a body that cannot
   be read, a completion without choices, and a URL that no request can carry.

The first is logged with the length of the text, the second with the error, and the others not at
all.
-/

namespace AnalysisGateway

/-! ## Answers -/

/-- The status and the body of an answer that has come to its end. Where the status allows no body,
there is none to wait for. -/
def Reply.whole? : Reply → Option (Nat × Bytes)
  | .answer status body whole =>
    if Outcome.isBodiless status then some (status, [])
    else if whole then some (status, body)
    else none
  | .closed | .silence => none

namespace Reply

variable (reply : Reply)

/-- An answer with a completion, of which the first choice has the text. A choice without a text
counts as one with the empty text, and the choices behind the first one do not matter. -/
inductive Gives : String → Prop where
  | first {status : Nat} {body : Bytes} {choice : Option String} {more : List (Option String)}
      (hwhole : reply.whole? = some (status, body)) (hstatus : 200 ≤ status ∧ status < 300)
      (hread : Completed.read body = .ok ⟨choice :: more⟩) : Gives (choice.getD "")

/-- An answer with a completion that has no choices. -/
inductive LacksChoices : Prop where
  | completion {status : Nat} {body : Bytes} (hwhole : reply.whole? = some (status, body))
      (hstatus : 200 ≤ status ∧ status < 300) (hread : Completed.read body = .ok ⟨[]⟩) :
      LacksChoices

/-- An answer that reports an error: for a status of the 500s the whole body is its message, for any
other status but those of success the body must read as an error. -/
inductive Reports : ProviderError → Prop where
  | server {status : Nat} {body : Bytes} (hwhole : reply.whole? = some (status, body))
      (hstatus : 500 ≤ status ∧ status < 600) :
      Reports (.ofMessage (String.ofList (Text.decodeLossy body)))
  | other {status : Nat} {body : Bytes} {error : ProviderError}
      (hwhole : reply.whole? = some (status, body)) (hserver : ¬ (500 ≤ status ∧ status < 600))
      (hsuccess : ¬ (200 ≤ status ∧ status < 300)) (hread : ProviderError.read body = .ok error) :
      Reports error

end Reply

/-! ## Outcomes -/

namespace Outcome

variable {reply : Reply}

/-- An answer that has come to its end is judged by its status and its body. -/
theorem ofReply_eq_ofBody {status : Nat} {body : Bytes} (h : reply.whole? = some (status, body))
    (url : Url) : ofReply url reply = ofBody status body := by
  cases reply with
  | closed => contradiction
  | silence => contradiction
  | answer code bytes whole =>
      rw [Reply.whole?] at h
      rw [ofReply]
      split at h
      · next hbodiless =>
        obtain ⟨rfl, rfl⟩ := Prod.mk.inj (Option.some.inj h)
        rw [if_pos hbodiless]
      next hbodiless =>
        split at h
        · next hwhole =>
          obtain ⟨rfl, rfl⟩ := Prod.mk.inj (Option.some.inj h)
          rw [if_neg hbodiless, if_pos hwhole]
        · contradiction

theorem ofBody_of_success {status : Nat} {body : Bytes} {c : Completed}
    (h : 200 ≤ status ∧ status < 300) (hread : Completed.read body = .ok c) :
    ofBody status body = ofCompletion c := by
  have hserver : ¬ (500 ≤ status ∧ status < 600) := by omega
  rw [ofBody, if_neg hserver, if_pos h, hread]

theorem ofReply_of_gives {t : String} (h : reply.Gives t) (url : Url) :
    ofReply url reply = ⟨.ok t, [.replyReceived t.utf8ByteSize]⟩ := by
  obtain ⟨hwhole, hstatus, hread⟩ := h
  rw [ofReply_eq_ofBody hwhole, ofBody_of_success hstatus hread]
  rfl

theorem ofReply_of_lacksChoices (h : reply.LacksChoices) (url : Url) :
    ofReply url reply = failed (.provider "LLM response contained no choices") := by
  obtain ⟨hwhole, hstatus, hread⟩ := h
  rw [ofReply_eq_ofBody hwhole, ofBody_of_success hstatus hread]
  rfl

theorem ofReply_of_reports {error : ProviderError} (h : reply.Reports error) (url : Url) :
    ofReply url reply = ofError error := by
  cases h with
  | server hwhole hstatus => rw [ofReply_eq_ofBody hwhole, ofBody, if_pos hstatus]
  | other hwhole hserver hsuccess hread =>
      rw [ofReply_eq_ofBody hwhole, ofBody, if_neg hserver, if_neg hsuccess, hread]

/-- **Every other reply fails with a text, and is not logged.** -/
theorem exists_ofReply_eq_failed (hgives : ∀ t, ¬ reply.Gives t)
    (hreports : ∀ error, ¬ reply.Reports error) (hsilence : reply ≠ .silence) (url : Url) :
    ∃ message, ofReply url reply = failed (.provider message) := by
  cases hwhole : reply.whole? with
  | none =>
      cases reply with
      | closed => exact ⟨_, rfl⟩
      | silence => contradiction
      | answer status body whole =>
          rw [Reply.whole?] at hwhole
          rw [ofReply]
          split at hwhole
          · contradiction
          next hbodiless =>
            split at hwhole
            · contradiction
            · next hbroken => exact ⟨_, by rw [if_neg hbodiless, if_neg hbroken]; rfl⟩
  | some answer =>
      obtain ⟨status, body⟩ := answer
      rw [ofReply_eq_ofBody hwhole, ofBody]
      split
      · next hserver => exact absurd (.server hwhole hserver) (hreports _)
      next hserver =>
        split
        · next hsuccess =>
          split
          · next c hread =>
            obtain ⟨_ | ⟨choice, more⟩⟩ := c
            · exact ⟨_, rfl⟩
            · exact absurd (.first hwhole hsuccess hread) (hgives _)
          · exact ⟨_, rfl⟩
        · next hsuccess =>
          split
          · next error hread =>
            exact absurd (.other hwhole hserver hsuccess hread) (hreports error)
          · exact ⟨_, rfl⟩

/-- What a reply comes to, case by case. -/
inductive Judges (reply : Reply) : Outcome → Prop where
  | text {t : String} (h : reply.Gives t) : Judges reply ⟨.ok t, [.replyReceived t.utf8ByteSize]⟩
  | refused {error : ProviderError} (h : reply.Reports error) : Judges reply (ofError error)
  | late (h : reply = .silence) : Judges reply (failed .providerTimeout)
  | failed (message : String) (hgives : ∀ t, ¬ reply.Gives t)
      (hreports : ∀ error, ¬ reply.Reports error) (hsilence : reply ≠ .silence) :
      Judges reply (failed (.provider message))

/-- **Every reply comes to one of these.** -/
theorem judges_ofReply (reply : Reply) (url : Url) : Judges reply (ofReply url reply) := by
  by_cases hgives : ∃ t, reply.Gives t
  · obtain ⟨t, ht⟩ := hgives
    rw [ofReply_of_gives ht]
    exact .text ht
  by_cases hreports : ∃ error, reply.Reports error
  · obtain ⟨error, herror⟩ := hreports
    rw [ofReply_of_reports herror]
    exact .refused herror
  by_cases hsilence : reply = .silence
  · rw [hsilence]
    exact .late rfl
  · rw [not_exists] at hgives hreports
    obtain ⟨message, hfailed⟩ := exists_ofReply_eq_failed hgives hreports hsilence url
    rw [hfailed]
    exact .failed message hgives hreports hsilence

/-- A reply gives a text exactly if it carries it. -/
theorem result_ofReply_eq_ok_iff {t : String} {url : Url} :
    (ofReply url reply).result = .ok t ↔ reply.Gives t := by
  refine ⟨fun h => ?_, fun h => by rw [ofReply_of_gives h]⟩
  have hjudges := judges_ofReply reply url
  generalize ofReply url reply = outcome at h hjudges
  cases hjudges with
  | text hgives => exact Except.ok.inj h ▸ hgives
  | refused => contradiction
  | late => contradiction
  | failed => contradiction

/-- And it fails as a timeout exactly if it is silence. -/
theorem result_ofReply_eq_timeout_iff {url : Url} :
    (ofReply url reply).result = .error .providerTimeout ↔ reply = .silence := by
  refine ⟨fun h => ?_, fun h => by rw [h]; rfl⟩
  obtain ⟨hsilence, -⟩ | ⟨-, text, htext⟩ := cases_of_result_ofReply h
  · exact hsilence
  · contradiction

end Outcome

/-- The completion of an outcome is a text exactly if its result is. -/
theorem Answered.completion_ofOutcome_eq_text_iff {outcome : Outcome} {t : String} {line : Line} :
    (Answered.ofOutcome outcome line).completion = .text t ↔ outcome.result = .ok t := by
  rw [ofOutcome]
  cases outcome.result with
  | ok text => simp
  | error failure => simp

/-! ## Calls -/

/-- What comes back for a request to a URL: nothing if no request can carry the URL, and a closed
connection where none can be made. -/
def Line.reply? (line : Line) (url : Url) : Option Reply :=
  if url.isRequestable then some (if line.takes url then line.replies.headD .closed else .closed)
  else none

/-- Settings of a provider that is asked over HTTP: a credential that a header can hold, time to
wait, and an address that is a URL of HTTP. -/
structure ProviderSettings.AsksOverHttp (p : ProviderSettings) (key : String) (url : Url) :
    Prop where
  apiKey_eq : p.apiKey = some key
  fits : fitsHeader key = true
  timeout_ne : p.timeout ≠ 0
  url?_eq : p.url? = some url
  scheme_eq : url.scheme = "http".toList

namespace ProviderSettings.AsksOverHttp

variable {p : ProviderSettings} {key system user : String} {url : Url} {line : Line}
  (h : p.AsksOverHttp key url)

include h

/-- A call that a reply comes back for. -/
theorem exists_complete_eq {reply : Reply} (hreply : line.reply? url = some reply) :
    ∃ state, (Provider.ofSettings p).complete system user line =
      .ofOutcome (.ofReply url reply) state := by
  rw [Line.reply?] at hreply
  split at hreply
  · next hrequestable =>
    obtain rfl := Option.some.inj hreply
    rw [Provider.ofSettings, h.apiKey_eq, Provider.complete]
    cases htakes : line.takes url with
    | true => exact ⟨_, ask_eq_ofOutcome h.fits h.url?_eq hrequestable h.timeout_ne htakes⟩
    | false =>
        refine ⟨line, ?_⟩
        rw [ask, h.fits, h.url?_eq]
        simp only [Bool.not_true, Bool.false_eq_true, if_false, hrequestable, h.timeout_ne, htakes,
          Bool.not_false, if_true]
        rfl
  · contradiction

/-- A call whose URL no request can carry. -/
theorem exists_complete_eq_unsent (hreply : line.reply? url = none) :
    ∃ message, (Provider.ofSettings p).complete system user line =
      .unsent (.provider message) line := by
  rw [Line.reply?] at hreply
  split at hreply
  · contradiction
  · next hrequestable =>
    rw [Bool.not_eq_true] at hrequestable
    rw [Provider.ofSettings, h.apiKey_eq, Provider.complete, ask, h.fits, h.url?_eq]
    exact ⟨_, if_pos (congrArg not hrequestable)⟩

/-- **What a call comes to.** Its reply alone decides, if one comes back: the call gives a text
exactly if the reply carries it, times out exactly if the reply is silence, and fails with a text in
every other case; an error that the reply reports fails with its message. A text is logged once for
debugging, an error of the provider once as an error, and nothing else at all. -/
theorem complete_judges_reply (system user : String) (line : Line) :
    let a := (Provider.ofSettings p).complete system user line
    let replied (judged : Reply → Prop) := ∃ reply, line.reply? url = some reply ∧ judged reply
    (∀ t, a.completion = .text t ↔ replied (·.Gives t)) ∧
    (a.completion = .failed .providerTimeout ↔ replied (· = .silence)) ∧
    ((∃ t, a.completion = .text t) ∨ a.completion = .failed .providerTimeout ∨
      ∃ message, a.completion = .failed (.provider message)) ∧
    (∀ error, replied (·.Reports error) → a.completion = .failed (.provider error.message)) ∧
    (replied (·.LacksChoices) →
      a.completion = .failed (.provider "LLM response contained no choices")) ∧
    (∀ t, a.completion = .text t → a.events.map Event.level = [.debug]) ∧
    (∀ error, replied (·.Reports error) → a.events.map Event.level = [.error]) ∧
    ((∀ t, a.completion ≠ .text t) → (∀ error, ¬ replied (·.Reports error)) → a.events = []) ∧
    (line.reply? url = none → a.state = line) := by
  intro a replied
  cases hreply : line.reply? url with
  | none =>
      obtain ⟨message, ha⟩ : ∃ message, a = .unsent (.provider message) line :=
        h.exists_complete_eq_unsent hreply
      have hnot (judged : Reply → Prop) : ¬ replied judged := by
        rintro ⟨reply, hsome, -⟩
        rw [hreply] at hsome
        contradiction
      rw [ha]
      refine ⟨fun t => iff_of_false nofun (hnot _), iff_of_false nofun (hnot _),
        .inr (.inr ⟨message, rfl⟩), fun error hreports => (hnot _ hreports).elim,
        fun hlacks => (hnot _ hlacks).elim, fun t ht => Completion.noConfusion ht,
        fun error hreports => (hnot _ hreports).elim, fun _ _ => rfl, fun _ => rfl⟩
  | some reply =>
      obtain ⟨state, ha⟩ : ∃ state, a = .ofOutcome (.ofReply url reply) state :=
        h.exists_complete_eq hreply
      have hiff (judged : Reply → Prop) : replied judged ↔ judged reply := by
        simp only [replied, hreply, Option.some.injEq, exists_eq_left']
      have htext (t : String) : a.completion = .text t ↔ reply.Gives t := by
        rw [ha, Answered.completion_ofOutcome_eq_text_iff, Outcome.result_ofReply_eq_ok_iff]
      have hfailed (failure : Failure) : a.completion = .failed failure ↔
          (Outcome.ofReply url reply).result = .error failure := by
        rw [ha, Answered.completion_ofOutcome_eq_failed_iff]
      have hevents : a.events = (Outcome.ofReply url reply).events := by rw [ha]; rfl
      have hjudges := Outcome.judges_ofReply reply url
      simp only [hiff]
      refine ⟨htext, ?_, ?_, fun error herror => ?_, fun hlacks => ?_, fun t ht => ?_,
        fun error herror => ?_, fun hgives hreports => ?_, nofun⟩
      · rw [hfailed, Outcome.result_ofReply_eq_timeout_iff]
      · simp only [htext, hfailed]
        generalize Outcome.ofReply url reply = outcome at hjudges ⊢
        cases hjudges with
        | text ht => exact .inl ⟨_, ht⟩
        | refused => exact .inr (.inr ⟨_, rfl⟩)
        | late => exact .inr (.inl rfl)
        | failed message => exact .inr (.inr ⟨message, rfl⟩)
      · rw [hfailed, Outcome.ofReply_of_reports herror, Outcome.ofError]
      · rw [hfailed, Outcome.ofReply_of_lacksChoices hlacks, Outcome.failed]
      · rw [hevents, Outcome.ofReply_of_gives ((htext t).mp ht)]
        rfl
      · rw [hevents, Outcome.ofReply_of_reports herror]
        rfl
      · rw [hevents]
        generalize Outcome.ofReply url reply = outcome at hjudges ⊢
        cases hjudges with
        | text ht => exact absurd ((htext _).mpr ht) (hgives _)
        | refused herror => exact absurd herror (hreports _)
        | late => rfl
        | failed => rfl

end ProviderSettings.AsksOverHttp

namespace ProviderSettings

/-- A first choice without a text gives the empty one, whatever the second choice has. -/
theorem complete_judges_reply_twice :
    let p : ProviderSettings := ⟨some "key", "http://h/v1", "model", 0, none, 5⟩
    let url : Url := ⟨"http".toList, .absent, some (.name ['h']), none,
      "/v1/chat/completions".toList, none, none⟩
    let body := Text.toBytes <|
      "\x7b\"id\":\"\",\"object\":\"\",\"created\":1,\"model\":\"\",\"choices\":[" ++
        "\x7b\"index\":0,\"message\":\x7b\"role\":\"assistant\",\"content\":null\x7d\x7d," ++
        "\x7b\"index\":1,\"message\":\x7b\"role\":\"assistant\",\"content\":\"b\"\x7d\x7d]\x7d"
    let a := (Provider.ofSettings p).complete "system" "user"
      ⟨true, [.answer 200 body true], [], false⟩
    p.AsksOverHttp "key" url ∧ a.completion = .text "" ∧ a.events.map Event.level = [.debug] := by
  intro p url body a
  have hasks : p.AsksOverHttp "key" url :=
    ⟨rfl, by decide, by decide, by decide +kernel, rfl⟩
  have hread : Completed.read body = .ok ⟨[none, some "b"]⟩ := by decide +kernel
  have hgives : Reply.Gives (.answer 200 body true) "" := .first rfl (by decide) hread
  have hjudges := hasks.complete_judges_reply "system" "user"
    ⟨true, [.answer 200 body true], [], false⟩
  have htext : a.completion = .text "" := (hjudges.1 "").mpr ⟨_, rfl, hgives⟩
  exact ⟨hasks, htext, hjudges.2.2.2.2.2.1 "" htext⟩

/-- A URL over HTTP may have a host that no request can carry. No answer comes to a request that is
not sent, but the call has not timed out. -/
theorem not_forall_silence_times_out :
    ¬ ∀ (p : ProviderSettings) (key system user : String) (line : Line) (url : Url),
      p.AsksOverHttp key url → line.reachable = true → line.replies.headD .closed = .silence →
      ((Provider.ofSettings p).complete system user line).completion =
        .failed .providerTimeout := by
  intro h
  let p : ProviderSettings := ⟨some "key", "http://a\x7bb/v1", "model", 0, none, 5⟩
  let url : Url := ⟨"http".toList, .absent, some (.name ['a', '\x7b', 'b']), none,
    "/v1/chat/completions".toList, none, none⟩
  have hasks : p.AsksOverHttp "key" url :=
    ⟨rfl, by decide, by decide, by decide +kernel, rfl⟩
  have htimeout := h p "key" "system" "user" ⟨true, [.silence], [], false⟩ url hasks rfl rfl
  have hnone : Line.reply? ⟨true, [.silence], [], false⟩ url = none := if_neg (by decide)
  obtain ⟨message, hunsent⟩ : ∃ message, (Provider.ofSettings p).complete "system" "user"
      ⟨true, [.silence], [], false⟩ = .unsent (.provider message) ⟨true, [.silence], [], false⟩ :=
    hasks.exists_complete_eq_unsent hnone
  rw [hunsent] at htimeout
  cases Completion.failed.inj htimeout

end ProviderSettings

end AnalysisGateway
