import AnalysisGateway.Json.Record
import AnalysisGateway.Proofs.Json.Skip
import AnalysisGateway.Proofs.Json.Spelling

/-!
# Objects by their members

An object as bytes, with the members that it has: each is bound to a name, which may be spelled in
any way, and what must stand behind the colon is left to a relation. The loop over the members reads
exactly such objects (`readMembers_eq_ok_iff`), if the reader of a member reads exactly what may
stand behind its name, and goes where the steps of the members lead.
-/

namespace AnalysisGateway.Json

variable {α σ : Type} (name : α → String) (item : α → Bytes → Bytes → Prop)

/-! ## Members -/

/-- A member behind the opening quote of its name. -/
inductive MemberForm (a : α) : Bytes → Bytes → Prop where
  | bound {s t u rest : Bytes} (hname : TextForm (name a) s t) (hcolon : Spaced t (0x3A :: u))
      (hitem : item a u rest) : MemberForm a s rest

/-- What follows a member, up to the closing brace: further ones, each after a comma. -/
inductive FurtherForm : List α → Bytes → Bytes → Prop where
  | done {s rest : Bytes} (h : Spaced s (0x7D :: rest)) : FurtherForm [] s rest
  | next {a : α} {items : List α} {s t u v rest : Bytes} (hcomma : Spaced s (0x2C :: t))
      (hquote : Spaced t (0x22 :: u)) (ha : MemberForm name item a u v)
      (h : FurtherForm items v rest) : FurtherForm (a :: items) s rest

/-- What follows an opening brace, up to the closing one: nothing, or members with commas between
them. -/
inductive MembersForm : List α → Bytes → Bytes → Prop where
  | none {s rest : Bytes} (h : Spaced s (0x7D :: rest)) : MembersForm [] s rest
  | some {a : α} {items : List α} {s u v rest : Bytes} (hquote : Spaced s (0x22 :: u))
      (ha : MemberForm name item a u v) (h : FurtherForm name item items v rest) :
      MembersForm (a :: items) s rest

variable {name item}

/-- What follows a member is no part of it. -/
theorem FurtherForm.ends {items : List α} {s rest : Bytes}
    (h : FurtherForm name item items s rest) :
    Ends s := by
  cases h with
  | done h =>
      obtain ⟨blanks, hblanks, rfl⟩ := h
      exact Ends.append hblanks (ends_brace rest)
  | next hcomma =>
      obtain ⟨blanks, hblanks, rfl⟩ := hcomma
      exact Ends.append hblanks (.inr (.inl rfl))

section

variable {β : Type} {name' : β → String} {item' : β → Bytes → Bytes → Prop} {g : α → β}

theorem MemberForm.map {a : α} {s rest : Bytes} (h : MemberForm name item a s rest)
    (hname : name' (g a) = name a) (hitem : ∀ u, item a u rest → item' (g a) u rest) :
    MemberForm name' item' (g a) s rest := by
  obtain ⟨htext, hcolon, ha⟩ := h
  exact ⟨hname ▸ htext, hcolon, hitem _ ha⟩

theorem FurtherForm.map {items : List α} {s rest : Bytes} (h : FurtherForm name item items s rest)
    (hname : ∀ a ∈ items, name' (g a) = name a)
    (hitem : ∀ a ∈ items, ∀ u v, item a u v → item' (g a) u v) :
    FurtherForm name' item' (items.map g) s rest := by
  induction h with
  | done h => exact .done h
  | next hcomma hquote ha _ ih =>
      obtain ⟨hfirst, hothers⟩ := List.forall_mem_cons.mp hname
      obtain ⟨hfirst', hothers'⟩ := List.forall_mem_cons.mp hitem
      exact .next hcomma hquote (ha.map hfirst fun u => hfirst' u _) (ih hothers hothers')

/-- Members that are taken for other things of the same names. -/
theorem MembersForm.map {items : List α} {s rest : Bytes} (h : MembersForm name item items s rest)
    (hname : ∀ a ∈ items, name' (g a) = name a)
    (hitem : ∀ a ∈ items, ∀ u v, item a u v → item' (g a) u v) :
    MembersForm name' item' (items.map g) s rest := by
  cases h with
  | none h => exact .none h
  | some hquote ha h =>
      obtain ⟨hfirst, hothers⟩ := List.forall_mem_cons.mp hname
      obtain ⟨hfirst', hothers'⟩ := List.forall_mem_cons.mp hitem
      exact .some hquote (ha.map hfirst fun u => hfirst' u _) (h.map hothers hothers')

end

/-! ## Whole values -/

/-- A text in quotes, and what follows it. -/
def StringForm (t : String) (s rest : Bytes) : Prop :=
  ∃ u, Spaced s (0x22 :: u) ∧ TextForm t u rest

theorem StringForm.length_le {t : String} {s rest : Bytes} (h : StringForm t s rest) :
    rest.length ≤ s.length := by
  obtain ⟨u, hquote, htext⟩ := h
  have hs := hquote.length_le
  have ht := htext.length_lt
  rw [List.length_cons] at hs
  omega

/-- An object whose members have these names, and any values. -/
def ObjectForm (names : List String) (s rest : Bytes) : Prop :=
  ∃ u, Spaced s (0x7B :: u) ∧ MembersForm id (fun _ => ValueForm) names u rest

/-- A result that is turned into another one. -/
theorem map_eq_ok_iff {β : Type} {r : Except Fault α} {g : α → β} {b : β} :
    r.map g = .ok b ↔ ∃ a, r = .ok a ∧ g a = b := by
  cases r <;> simp [Except.map]

section

variable {ε β : Type} {x : Except ε α} {f : α → Except ε β}

theorem bind_eq_ok_iff {b : β} : x >>= f = .ok b ↔ ∃ a, x = .ok a ∧ f a = .ok b := by
  cases x <;> simp [bind, Except.bind]

theorem bind_eq_error_iff {e : ε} :
    x >>= f = .error e ↔ x = .error e ∨ ∃ a, x = .ok a ∧ f a = .error e := by
  cases x <;> simp [bind, Except.bind]

end

/-- **A text is read exactly where one stands.** -/
theorem readText_eq_ok_iff {s rest : Bytes} {t : String} :
    readText s = .ok (t, rest) ↔ StringForm t s rest := by
  have hform : StringForm t s rest ↔
      ∃ u, skipBlank s = 0x22 :: u ∧ readTextTail u = .ok (t, rest) := by
    simp only [StringForm, spaced_cons_iff (show isBlankByte 0x22 = false from rfl),
      readTextTail_eq_ok_iff]
  rw [hform, readText.eq_def]
  split
  · next hs => simp [hs]
  · next u hs => simp [hs]
  · next hquote => exact iff_of_false nofun fun ⟨u, hs, _⟩ => hquote u hs

/-- The value of a member is read exactly where it stands behind a colon. -/
theorem readMemberValue_eq_ok_iff {read : Reader α} {key : String} {s rest : Bytes} {a : α} :
    readMemberValue key read s = .ok (a, rest) ↔
      ∃ t, Spaced s (0x3A :: t) ∧ read t = .ok (a, rest) := by
  simp only [← readColon_eq_ok_iff]
  rw [readMemberValue.eq_def]
  cases hcolon : readColon s with
  | error f => simp
  | ok t =>
      simp only [Except.ok.injEq, exists_eq_left']
      cases hread : read t with
      | error f => simp
      | ok r => simp

/-! ## Keys -/

theorem nextKey_eq_ok_false_iff {first : Bool} {s rest : Bytes} :
    nextKey first s = .ok (false, rest) ↔ Spaced s (0x7D :: rest) := by
  rw [spaced_cons_iff rfl, nextKey.eq_def]
  split
  · next hs => simp [hs]
  · next hs => simp [hs]
  · next b t hbrace hs =>
    rw [hs]
    refine iff_of_false ?_ (fun h => hbrace (List.cons.inj h).1)
    split
    · split <;> simp
    split
    · split <;> simp
    · simp

theorem nextKey_true_eq_ok_true_iff {s rest : Bytes} :
    nextKey true s = .ok (true, rest) ↔ Spaced s (0x22 :: rest) := by
  rw [spaced_cons_iff rfl, nextKey.eq_def]
  split
  · next hs => simp [hs]
  · next hs => simp [hs]
  · next b t hbrace hs =>
    rw [hs, if_pos rfl]
    split
    · next hquote => simp [hquote]
    · next hquote => simp [hquote]

theorem nextKey_false_eq_ok_true_iff {s rest : Bytes} :
    nextKey false s = .ok (true, rest) ↔ ∃ t, Spaced s (0x2C :: t) ∧ Spaced t (0x22 :: rest) := by
  simp only [spaced_cons_iff (show isBlankByte 0x2C = false from rfl),
    spaced_cons_iff (show isBlankByte 0x22 = false from rfl)]
  rw [nextKey.eq_def]
  split
  · next hs => simp [hs]
  · next hs => simp [hs]
  · next b t hbrace hs =>
    rw [hs, if_neg (by decide)]
    split
    · next hcomma =>
      simp only [hcomma, List.cons.injEq, true_and]
      split
      · next ht => simp [ht]
      · next ht => simp [ht]
      · next ht => simp [ht]
      · next hquote _ =>
        refine iff_of_false nofun ?_
        rintro ⟨u, rfl, h⟩
        exact hquote _ h
    · next hcomma => simp [hcomma]

/-! ## The loop -/

/-- The reader of a member reads exactly what may stand behind its name, and goes where the member's
step leads. -/
structure ReadsMembers (name : α → String) (item : α → Bytes → Bytes → Prop)
    (step : σ → α → σ → Prop) (member : String → σ → Reader σ) : Prop where
  sound : ∀ {key : String} {state next : σ} {s rest : Bytes},
    member key state s = .ok (next, rest) →
      ∃ a t, name a = key ∧ Spaced s (0x3A :: t) ∧ item a t rest ∧ step state a next
  complete : ∀ {a : α} {state next : σ} {s t rest : Bytes}, Spaced s (0x3A :: t) →
    item a t rest → step state a next → Ends rest →
      member (name a) state s = .ok (next, rest) ∧ rest.length ≤ s.length

namespace ReadsMembers

variable {step : σ → α → σ → Prop} {member : String → σ → Reader σ}
  (h : ReadsMembers name item step member)

include h

/-- A name and what stands behind it are read in turn. -/
theorem exists_memberForm {key : String} {state next : σ} {s t rest : Bytes}
    (hkey : readTextTail s = .ok (key, t)) (hmember : member key state t = .ok (next, rest)) :
    ∃ a, MemberForm name item a s rest ∧ step state a next := by
  obtain ⟨a, u, rfl, hcolon, hitem, hstep⟩ := h.sound hmember
  exact ⟨a, .bound (readTextTail_eq_ok_iff.mp hkey) hcolon hitem, hstep⟩

theorem exists_read {a : α} {state next : σ} {s rest : Bytes} (ha : MemberForm name item a s rest)
    (hstep : step state a next) (hrest : Ends rest) :
    ∃ t, readTextTail s = .ok (name a, t) ∧ member (name a) state t = .ok (next, rest) ∧
      rest.length ≤ s.length := by
  obtain ⟨hname, hcolon, hitem⟩ := ha
  obtain ⟨hmember, hle⟩ := h.complete hcolon hitem hstep hrest
  exact ⟨_, readTextTail_eq_ok_iff.mpr hname, hmember, hle.trans hname.length_lt.le⟩

/-- The loop reads the members that follow others. -/
theorem exists_furtherForm {state final : σ} {bound s rest : Bytes}
    (hread : readMembersFrom member false state bound s = .ok (final, rest)) :
    ∃ items, FurtherForm name item items s rest ∧ Leads step state items final := by
  induction bound generalizing state s with
  | nil => contradiction
  | cons o bound ih =>
      rw [readMembersFrom] at hread
      split at hread
      · contradiction
      · next hkey =>
        obtain ⟨rfl, rfl⟩ := Prod.mk.inj (Except.ok.inj hread)
        exact ⟨[], .done (nextKey_eq_ok_false_iff.mp hkey), .nil _⟩
      next t hkey =>
        obtain ⟨u, hcomma, hquote⟩ := nextKey_false_eq_ok_true_iff.mp hkey
        split at hread
        · contradiction
        next key v hname =>
          split at hread
          · contradiction
          next next w hmember =>
            obtain ⟨a, ha, hstep⟩ := h.exists_memberForm hname hmember
            obtain ⟨items, hitems, hleads⟩ := ih hread
            exact ⟨a :: items, .next hcomma hquote ha hitems, .cons hstep hleads⟩

theorem readMembersFrom_furtherForm {items : List α} {s rest : Bytes}
    (hitems : FurtherForm name item items s rest) {state final : σ}
    (hleads : Leads step state items final) (bound : Bytes) (hbound : s.length < bound.length) :
    readMembersFrom member false state bound s = .ok (final, rest) := by
  -- A member takes its comma and its quote at least, so the bound outlives the text.
  induction hitems generalizing state bound with
  | done hclose =>
      cases bound with
      | nil => contradiction
      | cons o bound =>
          cases hleads
          rw [readMembersFrom, nextKey_eq_ok_false_iff.mpr hclose]
  | @next a items s t u v rest hcomma hquote ha hitems ih =>
      cases bound with
      | nil => contradiction
      | cons o bound =>
          obtain _ | ⟨hstep, hleads⟩ := hleads
          obtain ⟨w, hname, hmember, hle⟩ := h.exists_read ha hstep hitems.ends
          have hlength : v.length < bound.length := by
            have hs := hcomma.length_le
            have ht := hquote.length_le
            rw [List.length_cons] at hs ht hbound
            omega
          rw [readMembersFrom, nextKey_false_eq_ok_true_iff.mpr ⟨t, hcomma, hquote⟩]
          simp only [hname, hmember]
          exact ih hleads bound hlength

/-- **The members of an object are read exactly if they stand there and their steps lead to the
final state.** -/
theorem readMembers_eq_ok_iff {state final : σ} {s rest : Bytes} :
    readMembers member state s = .ok (final, rest) ↔
      ∃ items, MembersForm name item items s rest ∧ Leads step state items final := by
  rw [readMembers, readMembersFrom]
  constructor
  · intro hread
    split at hread
    · contradiction
    · next hkey =>
      obtain ⟨rfl, rfl⟩ := Prod.mk.inj (Except.ok.inj hread)
      exact ⟨[], .none (nextKey_eq_ok_false_iff.mp hkey), .nil _⟩
    next t hkey =>
      split at hread
      · contradiction
      next key v hname =>
        split at hread
        · contradiction
        next next w hmember =>
          obtain ⟨a, ha, hstep⟩ := h.exists_memberForm hname hmember
          obtain ⟨items, hitems, hleads⟩ := h.exists_furtherForm hread
          exact ⟨a :: items, .some (nextKey_true_eq_ok_true_iff.mp hkey) ha hitems,
            .cons hstep hleads⟩
  · rintro ⟨items, hitems, hleads⟩
    cases hitems with
    | none hclose =>
        cases hleads
        rw [nextKey_eq_ok_false_iff.mpr hclose]
    | @some a items s u v rest hquote ha hitems =>
        obtain _ | ⟨hstep, hleads⟩ := hleads
        obtain ⟨w, hname, hmember, hle⟩ := h.exists_read ha hstep hitems.ends
        rw [nextKey_true_eq_ok_true_iff.mpr hquote]
        simp only [hname, hmember]
        refine h.readMembersFrom_furtherForm hitems hleads s ?_
        have hs := hquote.length_le
        rw [List.length_cons] at hs
        omega

end ReadsMembers

end AnalysisGateway.Json
