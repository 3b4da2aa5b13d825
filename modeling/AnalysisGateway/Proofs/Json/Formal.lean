import AnalysisGateway.Json.Record

/-!
# Faults of form

Readers that do not ask what a value stands for fail only because the text is not JSON. So a fault
of content comes from the readers that ask for one kind of value, and says what they asked for.
-/

namespace AnalysisGateway.Json

variable {α β : Type}

/-- A result whose fault, if there is one, is of form. -/
structure Formal (r : Except Fault α) : Prop where
  isContent_eq : ∀ f, r = .error f → f.cause.isContent = false

/-- It has no fault of content. -/
theorem Formal.elim {r : Except Fault α} {f : Fault} (h : Formal r) (hf : r = .error f)
    (hcontent : f.cause.isContent = true) : False := by
  rw [h.isContent_eq f hf] at hcontent
  contradiction

theorem formal_ok (a : α) : Formal (.ok a) := ⟨nofun⟩

theorem formal_error {f : Fault} (h : f.cause.isContent = false) :
    Formal (.error f : Except Fault α) :=
  ⟨fun _ hf => Except.error.inj hf ▸ h⟩

/-- A fault that is passed on. -/
theorem Formal.error {r : Except Fault α} {f : Fault} (h : Formal r) (hf : r = .error f) :
    Formal (.error f : Except Fault β) :=
  formal_error (h.isContent_eq f hf)

/-- A fault of a part, seen from the whole. -/
theorem Formal.under {r : Except Fault α} {f : Fault} (h : Formal r) (hf : r = .error f)
    (step : Step) : Formal (.error (f.under step) : Except Fault β) :=
  formal_error (h.isContent_eq f hf)

theorem Formal.map {r : Except Fault α} (h : Formal r) (g : α → β) : Formal (r.map g) := by
  cases r with
  | error f => exact h.error rfl
  | ok a => exact formal_ok (g a)

theorem map_eq_error_iff {r : Except Fault α} {g : α → β} {f : Fault} :
    r.map g = .error f ↔ r = .error f := by
  cases r <;> simp [Except.map]

/-! ## Texts -/

theorem formal_readQuad (s : Bytes) : Formal (readQuad s) := by
  rw [readQuad.eq_def]
  split
  · split
    · exact formal_ok _
    · exact formal_error rfl
  · exact formal_error rfl

theorem formal_readPaired (high : Nat) (s : Bytes) : Formal (readPaired high s) := by
  rw [readPaired.eq_def]
  split
  · exact formal_error rfl
  · exact formal_error rfl
  · next rest =>
    split
    · next hquad => exact (formal_readQuad rest).error hquad
    · split
      · exact formal_ok _
      · exact formal_error rfl
  · exact formal_error rfl
  · exact formal_error rfl

theorem formal_readEscape (s : Bytes) : Formal (readEscape s) := by
  rw [readEscape.eq_def]
  split
  · exact formal_error rfl
  · split
    · rw [readUnicodeEscape]
      split
      · next hquad => exact (formal_readQuad _).error hquad
      · split
        · exact formal_error rfl
        split
        · exact formal_readPaired _ _
        · exact formal_ok _
    · split
      · exact formal_ok _
      · exact formal_error rfl

theorem formal_readTextBytes (done bound s : Bytes) : Formal (readTextBytes done bound s) := by
  induction bound generalizing done s with
  | nil => cases s <;> exact formal_error rfl
  | cons o bound ih =>
      cases s with
      | nil => exact formal_error rfl
      | cons b s =>
          rw [readTextBytes]
          split
          · exact formal_ok _
          split
          · split
            · next hescape => exact (formal_readEscape s).error hescape
            · exact ih _ _
          split
          · exact formal_error rfl
          · exact ih _ _

/-- A text is refused for its form. -/
theorem formal_readTextTail (s : Bytes) : Formal (readTextTail s) := by
  rw [readTextTail]
  split
  · next hbytes => exact (formal_readTextBytes [] s s).error hbytes
  · split
    · exact formal_ok _
    · exact formal_error rfl

theorem formal_skipText (bound s : Bytes) : Formal (skipText bound s) := by
  induction bound generalizing s with
  | nil => cases s <;> exact formal_error rfl
  | cons o bound ih =>
      cases s with
      | nil => exact formal_error rfl
      | cons b s =>
          have hescape : Formal (skipEscape s) := by
            rw [skipEscape.eq_def]
            split
            · exact formal_error rfl
            · split
              · exact (formal_readQuad _).map _
              split
              · exact formal_ok _
              · exact formal_error rfl
          rw [skipText]
          split
          · exact formal_ok _
          split
          · split
            · next hfault => exact hescape.error hfault
            · exact ih _
          split
          · exact formal_error rfl
          · exact ih _

/-! ## Words and numbers -/

theorem formal_readWord (word s : Bytes) : Formal (readWord word s) := by
  induction word generalizing s with
  | nil => exact formal_ok _
  | cons w word ih =>
      cases s with
      | nil => exact formal_error rfl
      | cons b s =>
          rw [readWord]
          split
          · exact ih s
          · exact formal_error rfl

namespace Number

theorem formal_ofParts (negative : Bool) (significand : Nat) (exponent : Int) (rest : Bytes) :
    Formal (ofParts negative significand exponent rest) := by
  rw [ofParts]
  split
  · exact formal_ok _
  · exact formal_error rfl

theorem formal_readExponent (negative : Bool) (significand : Nat) (start : Int) (s : Bytes) :
    Formal (readExponent negative significand start s) := by
  unfold readExponent
  split
  split
  · exact formal_error rfl
  split
  · exact formal_error rfl
  split
  · exact formal_ofParts ..
  split
  · exact formal_error rfl
  · exact formal_ok _

theorem formal_readFraction (negative : Bool) (significand : Nat) (start : Int) (s : Bytes) :
    Formal (readFraction negative significand start s) := by
  unfold readFraction
  split
  · exact formal_error rfl
  split
  · simp only
    split
    · exact formal_readExponent ..
    · exact formal_readExponent ..
    · exact formal_ofParts ..
  · exact formal_error rfl

theorem formal_readTail (negative : Bool) (significand dropped : Nat) (s : Bytes) :
    Formal (readTail negative significand dropped s) := by
  rw [readTail.eq_def]
  split
  · exact formal_readFraction ..
  · exact formal_readExponent ..
  · exact formal_readExponent ..
  split
  · exact formal_ok _
  · exact formal_ofParts ..

/-- A number is refused for its form. -/
theorem formal_read (negative : Bool) (s : Bytes) : Formal (read negative s) := by
  rw [read.eq_def]
  split
  · exact formal_error rfl
  split
  · exact formal_error rfl
  · split
    · split
      · exact formal_error rfl
      · exact formal_readTail ..
    · exact formal_readTail ..
  · exact formal_readTail ..

theorem formal_skipExponent (s : Bytes) : Formal (skipExponent s) := by
  unfold skipExponent
  extract_lets t
  clear_value t
  split
  · exact formal_error rfl
  split
  · exact formal_ok _
  · exact formal_error rfl

theorem formal_skipTail (s : Bytes) : Formal (skipTail s) := by
  rw [skipTail.eq_def]
  split
  · exact formal_skipExponent _
  · exact formal_skipExponent _
  · exact formal_ok _

theorem formal_skipFraction (s : Bytes) : Formal (skipFraction s) := by
  rw [skipFraction.eq_def]
  split
  · split
    · split
      · exact formal_skipTail _
      · exact formal_error rfl
    · exact formal_error rfl
  · exact formal_skipTail _

theorem formal_skip (s : Bytes) : Formal (skip s) := by
  rw [skip.eq_def]
  split
  · exact formal_error rfl
  · split
    · split
      · exact formal_error rfl
      · exact formal_skipFraction _
    · exact formal_ok _
  · split
    · exact formal_skipFraction _
    · exact formal_error rfl

end Number

/-! ## Values that are passed over -/

theorem formal_readColon (s : Bytes) : Formal (readColon s) := by
  rw [readColon.eq_def]
  split
  · exact formal_ok _
  · exact formal_error rfl
  · exact formal_error rfl

theorem formal_skipKey (frame : Frame) (s : Bytes) : Formal (skipKey frame s) := by
  rw [skipKey.eq_def]
  split
  · exact formal_ok _
  · split
    · split
      · next htext => exact (formal_skipText _ _).error htext
      · exact formal_readColon _
    · exact formal_error rfl
    · exact formal_error rfl

theorem formal_closeFrames (afterValue : Bool) (frames : List Frame) (s : Bytes) :
    Formal (closeFrames afterValue frames s) := by
  induction frames generalizing afterValue s with
  | nil => exact formal_ok _
  | cons frame outer ih =>
      rw [closeFrames]
      split
      · exact formal_error (by cases frame <;> rfl)
      split
      · exact (formal_skipKey _ _).map _
      split
      · exact ih true _
      split
      · exact formal_error (by cases frame <;> rfl)
      · exact (formal_skipKey _ _).map _

theorem formal_skipToken (frames : List Frame) (s : Bytes) : Formal (skipToken frames s) := by
  rw [skipToken.eq_def]
  split
  · exact formal_error rfl
  next b t hs =>
    extract_lets scalar
    have hscalar {after : Except Fault Bytes} (h : Formal after) : Formal (scalar after) := by
      cases after with
      | error f => exact h.error rfl
      | ok rest => exact formal_closeFrames ..
    clear_value scalar
    repeat' split
    · exact hscalar ((formal_readWord ..).map _)
    · exact hscalar ((formal_readWord ..).map _)
    · exact hscalar ((formal_readWord ..).map _)
    · exact hscalar (Number.formal_skip _)
    · exact hscalar (Number.formal_skip _)
    · exact hscalar (formal_skipText ..)
    · exact formal_closeFrames ..
    · exact formal_closeFrames ..
    · exact formal_error rfl

/-- The reader of a member's value is refused for its form if the reader of the value is. -/
theorem formal_readMemberValue {read : Reader α} (h : ∀ s, Formal (read s)) (key : String)
    (s : Bytes) : Formal (readMemberValue key read s) := by
  rw [readMemberValue.eq_def]
  split
  · next hcolon => exact (formal_readColon s).under hcolon _
  · split
    · next hread => exact (h _).under hread _
    · exact formal_ok _

/-- **What is passed over is refused for its form.** -/
theorem formal_skipValue (s : Bytes) : Formal (skipValue s) := by
  have hvalues (frames : List Frame) (bound s : Bytes) : Formal (skipValues frames bound s) := by
    induction bound generalizing frames s with
    | nil => exact formal_error rfl
    | cons o bound ih =>
        rw [skipValues]
        split
        · next htoken => exact (formal_skipToken frames s).error htoken
        · exact formal_ok _
        · exact ih _ _
  exact (hvalues ..).map _

/-! ## Values of another kind -/

/-- A value of another kind is refused for its form, or for what it is. -/
theorem exists_of_wrongKind {expected : String} {s : Bytes} {f : Fault}
    (h : wrongKind expected s = f) (hcontent : f.cause.isContent = true) :
    ∃ found rest, f = .here (.wrongKind found expected) rest ∧
      ((∀ t, found ≠ .text t) ∨
        ∃ t u, found = .text t ∧ s = 0x22 :: u ∧ readTextTail u = .ok (t, rest)) := by
  rw [wrongKind.eq_def] at h
  split at h
  · rw [← h] at hcontent
    contradiction
  next b u =>
    extract_lets word number at h
    have hword {w : Bytes} {found : Found} (h : word w found = f)
        (hfound : ∀ t, found ≠ .text t) :
        ∃ found rest, f = .here (.wrongKind found expected) rest ∧ ∀ t, found ≠ .text t := by
      simp only [word] at h
      split at h
      · next hread => exact ((formal_readWord ..).elim (h ▸ hread) hcontent).elim
      · exact ⟨found, _, h.symm, hfound⟩
    have hnumber {n : Except Fault (Number × Bytes)} (hn : Formal n) (h : number n = f) :
        ∃ found rest, f = .here (.wrongKind found expected) rest ∧ ∀ t, found ≠ .text t := by
      cases n with
      | error g => exact (hn.elim (congrArg Except.error h) hcontent).elim
      | ok n =>
          refine ⟨_, _, h.symm, fun t => ?_⟩
          cases n.1 <;> exact nofun
    have hother (h : ∃ found rest, f = .here (.wrongKind found expected) rest ∧
        ∀ t, found ≠ .text t) : ∃ found rest, f = .here (.wrongKind found expected) rest ∧
          ((∀ t, found ≠ .text t) ∨
            ∃ t v, found = .text t ∧ b :: u = 0x22 :: v ∧ readTextTail v = .ok (t, rest)) := by
      obtain ⟨found, rest, heq, hfound⟩ := h
      exact ⟨found, rest, heq, .inl hfound⟩
    clear_value word number
    split at h
    · exact hother (hword h fun _ => nofun)
    split at h
    · exact hother (hword h fun _ => nofun)
    split at h
    · exact hother (hword h fun _ => nofun)
    split at h
    · exact hother (hnumber (Number.formal_read ..) h)
    split at h
    · exact hother (hnumber (Number.formal_read ..) h)
    split at h
    · next hb =>
      obtain rfl := hb
      split at h
      · next htext => exact ((formal_readTextTail u).elim (h ▸ htext) hcontent).elim
      · next t rest htext => exact ⟨_, rest, h.symm, .inr ⟨t, u, rfl, rfl, htext⟩⟩
    split at h
    · exact hother ⟨_, _, h.symm, fun _ => nofun⟩
    split at h
    · exact hother ⟨_, _, h.symm, fun _ => nofun⟩
    · rw [← h] at hcontent
      contradiction

/-- A text is asked for: any other value is refused, for its form or for what it is. -/
theorem exists_of_readText {s : Bytes} {f : Fault} (h : readText s = .error f)
    (hcontent : f.cause.isContent = true) :
    ∃ found rest, f = .here (.wrongKind found "a string") rest ∧ ∀ t, found ≠ .text t := by
  rw [readText.eq_def] at h
  split at h
  · obtain rfl := Except.error.inj h
    contradiction
  · exact ((formal_readTextTail _).elim h hcontent).elim
  · next hquote =>
    obtain ⟨found, rest, heq, hfound | ⟨t, u, -, hs, -⟩⟩ :=
      exists_of_wrongKind (Except.error.inj h) hcontent
    · exact ⟨found, rest, heq, hfound⟩
    · exact absurd hs (hquote u)

/-! ## Lists and objects -/

theorem formal_nextItem (first : Bool) (s : Bytes) : Formal (nextItem first s) := by
  rw [nextItem.eq_def]
  repeat' split
  · exact formal_error rfl
  · exact formal_ok _
  · exact formal_ok _
  · exact formal_error rfl
  · exact formal_error rfl
  · exact formal_ok _
  · exact formal_error rfl

theorem formal_nextKey (first : Bool) (s : Bytes) : Formal (nextKey first s) := by
  rw [nextKey.eq_def]
  repeat' split
  · exact formal_error rfl
  · exact formal_ok _
  · exact formal_ok _
  · exact formal_error rfl
  · exact formal_error rfl
  · exact formal_ok _
  · exact formal_error rfl
  · exact formal_error rfl
  · exact formal_error rfl

theorem formal_closeList (s : Bytes) : Formal (Record.closeList s) := by
  rw [Record.closeList.eq_def]
  repeat' split
  · exact formal_ok _
  · exact formal_error rfl
  · exact formal_error rfl
  · exact formal_error rfl
  · exact formal_error rfl

/-- **Members are refused for their content only by the reader of a member.** -/
theorem exists_member_of_readMembers {σ : Type} {member : String → σ → Reader σ} {state : σ}
    {s : Bytes} {f : Fault} (h : readMembers member state s = .error f)
    (hcontent : f.cause.isContent = true) : ∃ key state t, member key state t = .error f := by
  have hloop (first : Bool) (state : σ) (bound s : Bytes)
      (h : readMembersFrom member first state bound s = .error f) :
      ∃ key state t, member key state t = .error f := by
    induction bound generalizing first state s with
    | nil =>
        obtain rfl := Except.error.inj h
        contradiction
    | cons o bound ih =>
        rw [readMembersFrom] at h
        split at h
        · next hkey =>
          obtain rfl := Except.error.inj h
          exact ((formal_nextKey ..).elim hkey hcontent).elim
        · contradiction
        split at h
        · next hname =>
          obtain rfl := Except.error.inj h
          exact ((formal_readTextTail _).elim hname hcontent).elim
        next key t hname =>
          split at h
          · next hmember =>
            obtain rfl := Except.error.inj h
            exact ⟨_, _, _, hmember⟩
          · exact ih _ _ _ h
  exact hloop true state (0 :: s) s h

end AnalysisGateway.Json
