import AnalysisGateway.Proofs.Provider.Failing

/-!
# How much of an error a call logs

A call that the provider refuses with an error logs the first characters of the error's message, as
a preview, and next to it the error's kind and code as they are (`Event.OfCall`). So what it quotes
of any text is within the bound exactly if the kind and the code are. A status of the 500s makes a
call fail with the whole body of its reply.
-/

namespace AnalysisGateway

/-! ## What events quote -/

namespace Event

/-- The texts of an event: its message, and its other fields. -/
def texts (e : Event) : List String := e.message :: e.fields.map Prod.snd

/-- An event of which no text has more than `n` characters of another text on end. -/
def QuotesAtMost (n : Nat) (text : List Char) (e : Event) : Prop :=
  ∀ field ∈ e.texts, ∀ part, part <:+: text → part <:+: field.toList → part.length ≤ n

/-- An event whose preview, if it has one, has at most `n` characters. -/
def PreviewsAtMost (n : Nat) : Event → Prop
  | .providerRefused _ _ preview => preview.length ≤ n
  | _ => True

/-- An event whose error, if it has one, has a kind and a code of at most `n` characters. -/
def NamesAtMost (n : Nat) : Event → Prop
  | .providerRefused kind code _ => kind.length ≤ n ∧ code.length ≤ n
  | _ => True

/-- No more can be quoted of a text than there is of it. -/
theorem quotesAtMost_of_length_le {n : Nat} {text : List Char} (h : text.length ≤ n) (e : Event) :
    e.QuotesAtMost n text :=
  fun _ _ _ hpart _ => Nat.le_trans hpart.length_le h

/-- A text that a field has in it is quoted whole. -/
theorem QuotesAtMost.length_le {n : Nat} {text : List Char} {e : Event} (h : e.QuotesAtMost n text)
    {field : String} (hfield : field ∈ e.texts) (htext : text <:+: field.toList) :
    text.length ≤ n :=
  h field hfield text List.infix_rfl htext

/-- No more can be quoted in a field than fits into it. -/
theorem quotesAtMost_of_texts {n : Nat} {e : Event} (h : ∀ field ∈ e.texts, field.length ≤ n)
    (text : List Char) : e.QuotesAtMost n text :=
  fun field hfield _ _ hpart =>
    Nat.le_trans hpart.length_le (String.length_toList ▸ h field hfield)

/-- A refusal with a preview within the bound stays within it as a whole exactly if the kind and the
code of the error do. -/
theorem quotesAtMost_iff_namesAtMost {kind code preview : String}
    (hpreview : preview.length ≤ Outcome.previewLength) :
    (∀ text, (providerRefused kind code preview).QuotesAtMost Outcome.previewLength text) ↔
      (providerRefused kind code preview).NamesAtMost Outcome.previewLength := by
  constructor
  · intro hquotes
    have hwhole (field : String) (hfield : field ∈ (providerRefused kind code preview).texts) :
        field.length ≤ Outcome.previewLength :=
      String.length_toList ▸ (hquotes field.toList).length_le hfield List.infix_rfl
    exact ⟨hwhole kind (.tail _ (.head _)), hwhole code (.tail _ (.tail _ (.head _)))⟩
  · rintro ⟨hkind, hcode⟩
    have hmessage : "LLM API returned an error".length ≤ Outcome.previewLength := by decide
    refine quotesAtMost_of_texts fun field hfield => ?_
    simp only [texts, fields, List.map_cons, List.map_nil, List.mem_cons, List.not_mem_nil,
      or_false] at hfield
    rcases hfield with rfl | rfl | rfl | rfl
    · exact hmessage
    · exact hkind
    · exact hcode
    · exact hpreview

end Event

/-! ## Calls -/

/-- What a call logs: that the provider has refused it, with a preview within the bound, or how long
the text is that it got. -/
inductive Event.OfCall : Event → Prop where
  | refused (kind code : String) {preview : String} (h : preview.length ≤ Outcome.previewLength) :
      OfCall (.providerRefused kind code preview)
  | received (n : Nat) : OfCall (.replyReceived n)

namespace Event.OfCall

variable {e : Event}

theorem previewsAtMost (h : e.OfCall) : e.PreviewsAtMost Outcome.previewLength := by
  cases h with
  | refused kind code h => exact h
  | received n => trivial

/-- An error event of a call is within the bound exactly if the error's kind and code are. -/
theorem quotesAtMost_iff (h : e.OfCall) (hlevel : e.level = .error) :
    (∀ text, e.QuotesAtMost Outcome.previewLength text) ↔ e.NamesAtMost Outcome.previewLength := by
  cases h with
  | refused kind code h => exact quotesAtMost_iff_namesAtMost h
  | received n => nomatch hlevel

end Event.OfCall

theorem Outcome.ofCall_ofError (error : ProviderError) :
    ∀ event ∈ (ofError error).events, event.OfCall := by
  intro event hevent
  rw [List.mem_singleton.mp hevent]
  refine .refused _ _ ?_
  rw [String.length_ofList]
  exact List.length_take_le _ _

theorem Outcome.ofCall_ofCompletion (c : Completed) :
    ∀ event ∈ (ofCompletion c).events, event.OfCall := by
  obtain ⟨choices⟩ := c
  cases choices with
  | nil => exact List.forall_mem_nil _
  | cons choice more =>
      intro event hevent
      rw [List.mem_singleton.mp hevent]
      exact .received _

theorem Outcome.ofCall_ofBody (status : Nat) (body : Bytes) :
    ∀ event ∈ (ofBody status body).events, event.OfCall := by
  rw [ofBody]
  split
  · exact ofCall_ofError _
  split
  · split
    · exact ofCall_ofCompletion _
    · exact List.forall_mem_nil _
  · split
    · exact ofCall_ofError _
    · exact List.forall_mem_nil _

theorem Outcome.ofCall_ofReply (url : Url) (reply : Reply) :
    ∀ event ∈ (ofReply url reply).events, event.OfCall := by
  cases reply with
  | closed => exact List.forall_mem_nil _
  | silence => exact List.forall_mem_nil _
  | answer status body whole =>
      rw [ofReply]
      split
      · exact ofCall_ofBody status []
      split
      · exact ofCall_ofBody status body
      · exact List.forall_mem_nil _

theorem Provider.ofCall_complete (provider : Provider) (system user : String) (line : Line) :
    ∀ event ∈ (provider.complete system user line).events, event.OfCall := by
  cases provider with
  | unavailable reason => exact List.forall_mem_nil _
  | available p key =>
      have hanswers := p.answers_ask key system user line
      rw [complete]
      generalize p.ask key system user line = answered at hanswers
      cases hanswers with
      | crashed => exact List.forall_mem_nil _
      | unaddressed => exact List.forall_mem_nil _
      | late => exact List.forall_mem_nil _
      | unconnected => exact List.forall_mem_nil _
      | sent => exact Outcome.ofCall_ofReply _ _

/-- Calls one after another log nothing else either. -/
theorem Provider.ofCall_completeAll (provider : Provider) (calls : List (String × String))
    (line : Line) : ∀ a ∈ provider.completeAll calls line, ∀ event ∈ a.events, event.OfCall := by
  induction calls generalizing line with
  | nil => exact List.forall_mem_nil _
  | cons call calls ih =>
      intro a ha
      obtain rfl | ha := List.mem_cons.mp ha
      · exact provider.ofCall_complete call.1 call.2 line.quiet
      · exact ih _ a ha

/-- An answer to a call that has failed with a text. -/
def Answered.FailsWith {σ : Type} (a : Answered σ) (text : String) : Prop :=
  a.completion = .failed (.provider text)

/-- A call that can be sent fails on a whole reply with a status of the 500s, and its text is the
whole body. -/
theorem Provider.failsWith_of_status {p : ProviderSettings} {key : String} {url : Url} {line : Line}
    {status : Nat} {body : Bytes} (hsend : p.CanSend key url) (htimeout : p.timeout ≠ 0)
    (htakes : line.takes url = true)
    (hnext : line.replies.headD .closed = .answer status body true) (hlow : 500 ≤ status)
    (hhigh : status < 600) (call : Call) :
    ((ofSettings p).client call line).FailsWith (String.ofList (Text.decodeLossy body)) := by
  have hbodiless : Outcome.isBodiless status = false := by
    simp only [Outcome.isBodiless, Bool.or_eq_false_iff, beq_eq_false_iff_ne]
    omega
  have houtcome : Outcome.ofReply url (.answer status body true) =
      .ofError (.ofMessage (String.ofList (Text.decodeLossy body))) := by
    rw [Outcome.ofReply, hbodiless, if_neg Bool.false_ne_true, if_pos rfl, Outcome.ofBody,
      if_pos ⟨hlow, hhigh⟩]
  rw [ofSettings, hsend.apiKey_eq, client, complete,
    ProviderSettings.ask_eq_ofOutcome hsend.fits hsend.url?_eq hsend.isRequestable htimeout
      htakes, hnext, houtcome]
  rfl

end AnalysisGateway
