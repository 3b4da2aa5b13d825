import AnalysisGateway.Proofs.Flow.Run
import AnalysisGateway.Provider.Basic

/-!
# What goes over a line

What a call comes to is said once, case by case (`ProviderSettings.Answers`), and everything else is
read off the cases:

* each request that is sent carries the provider's credential and takes the next reply, so a line
  after a run is the line before it after so many requests (`Dialogue.exists_state_run`);
* a call sends one request at most, so there are no more of them than calls;
* a provider without a credential signs nothing, so it sends nothing.
-/

namespace AnalysisGateway

/-! ## Lines after requests -/

/-- The line after further requests: each has taken one reply. -/
def Line.after (line : Line) (new : List Sent) : Line :=
  { line with replies := line.replies.drop new.length, sent := line.sent ++ new }

namespace Line

variable (line : Line)

@[simp] theorem after_nil : line.after [] = line := by
  simp [after]

@[simp] theorem after_after (new more : List Sent) :
    (line.after new).after more = line.after (new ++ more) := by
  simp [after, List.drop_drop]

@[simp] theorem sent_after (new : List Sent) : (line.after new).sent = line.sent ++ new := rfl

@[simp] theorem replies_after (new : List Sent) :
    (line.after new).replies = line.replies.drop new.length := rfl

/-- A connection that need not be secured can be made on every line that can be reached. -/
theorem takes_of_scheme_ne {url : Url} (hscheme : url.scheme ≠ "https".toList) :
    line.takes url = line.reachable := by
  rw [takes, bne_iff_ne.mpr hscheme, Bool.or_true, Bool.and_true]

/-- On a line that is not secured no connection over HTTPS can be made. -/
theorem takes_eq_true_iff_of_unsecured (hsecured : line.secured = false) {url : Url} :
    line.takes url = true ↔ line.reachable = true ∧ url.scheme ≠ "https".toList := by
  rw [takes, hsecured, Bool.false_or, Bool.and_eq_true, bne_iff_ne]

/-- A request takes the reply that is next. -/
theorem exchange_eq (request : Sent) :
    line.exchange request = (line.replies.headD .closed, line.after [request]) := by
  rw [exchange, after, List.length_singleton, List.drop_one]

end Line

/-! ## Calls -/

/-- What a call over a line comes to, and when. -/
inductive ProviderSettings.Answers (p : ProviderSettings) (key system user : String) (line : Line) :
    Answered Line → Prop where
  /-- No header can hold the credential. -/
  | crashed (detail : String) (hfits : fitsHeader key = false) :
      Answers p key system user line ⟨.crashed detail, [], line⟩
  /-- There is no URL to send to, or none that a request can carry. -/
  | unaddressed (text : String) (hfits : fitsHeader key = true)
      (hurl : ∀ url, p.url? = some url → url.isRequestable = false) :
      Answers p key system user line (.unsent (.provider text) line)
  /-- There is no time to wait. -/
  | late {url : Url} (hfits : fitsHeader key = true) (hurl : p.url? = some url)
      (hrequestable : url.isRequestable = true) (htimeout : p.timeout = 0) :
      Answers p key system user line (.unsent .providerTimeout line)
  /-- No connection can be made. -/
  | unconnected {url : Url} (text : String) (hfits : fitsHeader key = true)
      (hurl : p.url? = some url) (hrequestable : url.isRequestable = true)
      (htimeout : p.timeout ≠ 0)
      (hline : line.takes url = false) :
      Answers p key system user line (.unsent (.provider text) line)
  /-- The request is sent, and its reply is read. -/
  | sent {url : Url} (hfits : fitsHeader key = true) (hurl : p.url? = some url)
      (hrequestable : url.isRequestable = true) (htimeout : p.timeout ≠ 0)
      (htakes : line.takes url = true) :
      Answers p key system user line
        (.ofOutcome (.ofReply url (line.replies.headD .closed))
          (line.after [p.request key url system user]))

/-- **Every call comes to one of these.** -/
theorem ProviderSettings.answers_ask (p : ProviderSettings) (key system user : String)
    (line : Line) : p.Answers key system user line (p.ask key system user line) := by
  rw [ask]
  split
  · next hfits => exact .crashed _ (by simpa using hfits)
  next hfits =>
    replace hfits : fitsHeader key = true := by simpa using hfits
    split
    · next hnone => exact .unaddressed _ hfits (by simp [hnone])
    next url hurl =>
      split
      · next hrequestable =>
        refine .unaddressed _ hfits fun other hother => ?_
        rw [hurl] at hother
        rw [← Option.some.inj hother]
        simpa using hrequestable
      next hrequestable =>
        replace hrequestable : url.isRequestable = true := by simpa using hrequestable
        split
        · next htimeout => exact .late hfits hurl hrequestable htimeout
        next htimeout =>
          split
          · next hline =>
            exact .unconnected _ hfits hurl hrequestable htimeout (by simpa using hline)
          · next htakes =>
            rw [Line.exchange_eq]
            exact .sent hfits hurl hrequestable htimeout (by simpa using htakes)

/-- A call whose request goes out comes to what its reply does. -/
theorem ProviderSettings.ask_eq_ofOutcome {p : ProviderSettings} {key system user : String}
    {line : Line} {url : Url} (hfits : fitsHeader key = true) (hurl : p.url? = some url)
    (hrequestable : url.isRequestable = true) (htimeout : p.timeout ≠ 0)
    (htakes : line.takes url = true) :
    p.ask key system user line = .ofOutcome (.ofReply url (line.replies.headD .closed))
      (line.after [p.request key url system user]) := by
  rw [ask, hfits, hurl]
  simp only [Bool.not_true, Bool.false_eq_true, if_false, hrequestable, htimeout, htakes,
    Line.exchange_eq]

/-! ## Requests -/

/-- The requests that a provider sends: with its credential, or none at all. -/
def Provider.Signs : Provider → Sent → Prop
  | .available _ key, sent => sent.authorization = "Bearer " ++ key
  | .unavailable _, _ => False

/-- A call sends one request at most. -/
theorem Provider.exists_state_complete (provider : Provider) (system user : String) (line : Line) :
    ∃ new, (provider.complete system user line).state = line.after new ∧ new.length ≤ 1 ∧
      ∀ sent ∈ new, provider.Signs sent := by
  have hnone : ∃ new, line = line.after new ∧ new.length ≤ 1 ∧ ∀ sent ∈ new, provider.Signs sent :=
    ⟨[], line.after_nil.symm, by decide, fun _ h => nomatch h⟩
  cases provider with
  | unavailable reason => exact hnone
  | available p key =>
      have hanswers := p.answers_ask key system user line
      rw [complete]
      generalize p.ask key system user line = answered at hanswers ⊢
      cases hanswers with
      | crashed => exact hnone
      | unaddressed => exact hnone
      | late => exact hnone
      | unconnected => exact hnone
      | sent =>
          refine ⟨_, rfl, Nat.le_refl 1, fun sent hsent => ?_⟩
          rw [List.mem_singleton.mp hsent]
          rfl

/-- **A run sends no more requests than it has calls**, each with the provider's credential. -/
theorem Dialogue.exists_state_run {α : Type} (provider : Provider) (d : Dialogue α) (line : Line) :
    ∃ new, (d.run provider.client line).state = line.after new ∧
      new.length ≤ (d.run provider.client line).calls.length ∧
      ∀ sent ∈ new, provider.Signs sent := by
  refine d.run_counts (R := fun n before after => ∃ new, after = Line.after before new ∧
    new.length ≤ n ∧ ∀ sent ∈ new, provider.Signs sent) ?_ ?_ ?_ line
  · exact fun before => ⟨[], before.after_nil.symm, Nat.le_refl 0, fun _ h => nomatch h⟩
  · rintro m n before between after ⟨new, rfl, hnew, hsigns⟩ ⟨more, rfl, hmore, hmoreSigns⟩
    refine ⟨new ++ more, before.after_after new more, ?_, ?_⟩
    · rw [List.length_append]
      exact Nat.add_le_add hnew hmore
    · intro sent hsent
      exact (List.mem_append.mp hsent).elim (hsigns sent) (hmoreSigns sent)
  · exact fun call before => provider.exists_state_complete call.instruction.text call.user before

/-- **No run takes back a request.** -/
theorem Dialogue.sent_prefix_run {α : Type} (provider : Provider) (d : Dialogue α) (line : Line) :
    line.sent <+: (d.run provider.client line).state.sent := by
  obtain ⟨new, hstate, -, -⟩ := d.exists_state_run provider line
  rw [hstate]
  exact List.prefix_append line.sent new

/-- **A run without a provider says nothing of the line**, and leaves it as it was. -/
theorem Dialogue.exists_run_unavailable {α : Type} (d : Dialogue α) (reason : String) :
    ∃ ending calls events, ∀ line,
      d.run (Provider.unavailable reason).client line = ⟨ending, calls, events, line⟩ := by
  induction d with
  | done result => exact ⟨_, _, _, fun _ => rfl⟩
  | report event next ih =>
      obtain ⟨ending, calls, events, hrun⟩ := ih
      refine ⟨ending, calls, event :: events, fun line => ?_⟩
      rw [run_report, hrun]
  | ask call next ih =>
      obtain ⟨ending, calls, events, hrun⟩ := ih (.error (.configuration reason))
      refine ⟨ending, call :: calls, events, fun line => ?_⟩
      have hcall : ((Provider.unavailable reason).client call line).completion =
          .failed (.configuration reason) := rfl
      rw [run_ask_of_failed hcall]
      simp only [Provider.client, Provider.complete, Answered.unsent, hrun, List.nil_append]

end AnalysisGateway
