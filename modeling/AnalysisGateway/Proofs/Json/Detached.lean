import AnalysisGateway.Proofs.Json.Stands

/-!
# What follows does not matter

The relations say that a text begins with a part, and what follows. None of them looks at what
follows: the same bytes are the part before any other text (`Detached`). So a part may be moved from
one text to another, and it is enough to know what its bytes are when nothing follows.
-/

namespace AnalysisGateway.Json

/-! ## Parts in front -/

/-- The part in front of `rest` is one before any other text. -/
def Fronts (form : Bytes → Bytes → Prop) (s rest : Bytes) : Prop :=
  ∃ front, s = front ++ rest ∧ ∀ rest', form (front ++ rest') rest'

/-- What stands in front does not depend on what follows. -/
def Detached (form : Bytes → Bytes → Prop) : Prop :=
  ∀ ⦃s rest : Bytes⦄, form s rest → Fronts form s rest

section

variable {first second form form' : Bytes → Bytes → Prop} {s t rest : Bytes}

/-- A part and another one behind it. -/
theorem Fronts.seq (h : Fronts first s t) (h' : Fronts second t rest) :
    Fronts (fun s rest => ∃ t, first s t ∧ second t rest) s rest := by
  obtain ⟨front, rfl, hfront⟩ := h
  obtain ⟨more, rfl, hmore⟩ := h'
  refine ⟨front ++ more, (List.append_assoc ..).symm, fun rest' => ?_⟩
  rw [List.append_assoc]
  exact ⟨_, hfront _, hmore rest'⟩

theorem Fronts.mono (h : Fronts form s rest) (himp : ∀ s rest, form s rest → form' s rest) :
    Fronts form' s rest := by
  obtain ⟨front, rfl, hfront⟩ := h
  exact ⟨front, rfl, fun rest' => himp _ _ (hfront rest')⟩

/-- Bytes are a part before some text exactly if they are one alone. -/
theorem Detached.append_iff (h : Detached form) {front : Bytes} :
    form (front ++ rest) rest ↔ form front [] := by
  constructor
  · intro hform
    obtain ⟨front', heq, hfront⟩ := h hform
    rw [List.append_cancel_right heq]
    simpa using hfront []
  · intro hform
    obtain ⟨front', heq, hfront⟩ := h hform
    rw [List.append_nil] at heq
    exact heq ▸ hfront rest

end

theorem detached_spaced (word : Bytes) : Detached fun s rest => Spaced s (word ++ rest) := by
  rintro s rest ⟨blanks, hblanks, rfl⟩
  exact ⟨blanks ++ word, (List.append_assoc ..).symm, fun rest' => ⟨blanks, hblanks, by simp⟩⟩

theorem Spaced.fronts {s rest : Bytes} {b : UInt8} (h : Spaced s (b :: rest)) :
    Fronts (fun s rest => Spaced s (b :: rest)) s rest :=
  detached_spaced [b] h

/-! ## Texts and members -/

theorem detached_textForm (t : String) : Detached (TextForm t) := by
  rintro s rest ⟨inner, hinner, rfl⟩
  exact ⟨Text.encode inner ++ [0x22], by simp, fun rest' => ⟨inner, hinner, by simp⟩⟩

theorem detached_stringForm (t : String) : Detached (StringForm t) := by
  rintro s rest ⟨u, hquote, htext⟩
  exact hquote.fronts.seq (detached_textForm t htext)

section

variable {α : Type} {name : α → String} {item : α → Bytes → Bytes → Prop}
  (hitem : ∀ a, Detached (item a))

include hitem

theorem detached_memberForm (a : α) : Detached (MemberForm name item a) := by
  rintro s rest ⟨hname, hcolon, ha⟩
  exact ((detached_textForm _ hname).seq (hcolon.fronts.seq (hitem a ha))).mono
    fun _ _ ⟨_, hname, _, hcolon, ha⟩ => ⟨hname, hcolon, ha⟩

theorem detached_furtherForm (items : List α) : Detached (FurtherForm name item items) := by
  intro s rest h
  induction h with
  | done hclose => exact hclose.fronts.mono fun _ _ hclose => .done hclose
  | next hcomma hquote ha _ ih =>
      exact (hcomma.fronts.seq (hquote.fronts.seq ((detached_memberForm hitem _ ha).seq ih))).mono
        fun _ _ ⟨_, hcomma, _, hquote, _, ha, h⟩ => .next hcomma hquote ha h

theorem detached_bracedForm (items : List α) : Detached (BracedForm name item items) := by
  rintro s rest ⟨u, hopen, hmembers⟩
  have hinside : Fronts (MembersForm name item items) u rest := by
    cases hmembers with
    | none hclose => exact hclose.fronts.mono fun _ _ hclose => .none hclose
    | some hquote ha h =>
        exact (hquote.fronts.seq ((detached_memberForm hitem _ ha).seq
          (detached_furtherForm hitem _ h))).mono
          fun _ _ ⟨_, hquote, _, ha, h⟩ => .some hquote ha h
  exact hopen.fronts.seq hinside

theorem detached_furtherItems (items : List α) : Detached (FurtherItems item items) := by
  intro s rest h
  induction h with
  | done hclose => exact hclose.fronts.mono fun _ _ hclose => .done hclose
  | next hcomma ha _ ih =>
      exact (hcomma.fronts.seq ((hitem _ ha).seq ih)).mono
        fun _ _ ⟨_, hcomma, _, ha, h⟩ => .next hcomma ha h

theorem detached_listForm (items : List α) : Detached (ListForm item items) := by
  rintro s rest ⟨u, hopen, hitems⟩
  have hinside : Fronts (ItemsForm item items) u rest := by
    cases hitems with
    | none hclose => exact hclose.fronts.mono fun _ _ hclose => .none hclose
    | some ha h =>
        exact ((hitem _ ha).seq (detached_furtherItems hitem _ h)).mono
          fun _ _ ⟨_, ha, h⟩ => .some ha h
  exact hopen.fronts.seq hinside

end

/-! ## Values -/

theorem detached_scalarStands (v : Value) : Detached (ScalarStands v) := by
  rintro s rest ⟨word, hword, hs⟩
  exact (detached_spaced word hs).mono fun _ _ hs => ⟨word, hword, hs⟩

/-- Where a value stands does not depend on what follows it. -/
theorem detached_stands (depth : Nat) (v : Value) : Detached (Stands depth v) := by
  induction depth generalizing v with
  | zero => exact detached_scalarStands v
  | succ depth ih =>
      rintro s rest (h | h | h)
      · exact (detached_scalarStands v h).mono fun _ _ h => .scalar h
      · exact (detached_listForm ih _ h).mono fun _ _ h => .list h
      · exact (detached_bracedForm (fun m : String × Value => ih m.2) _ h).mono
          fun _ _ h => .object h

theorem KeyForm.fronts {f : Frame} {s rest : Bytes} (h : KeyForm f s rest) :
    Fronts (KeyForm f) s rest := by
  cases h with
  | list => exact ⟨[], rfl, fun rest' => .list rest'⟩
  | @object inner _ t _ hinner hquote hcolon =>
      have hkey : Spaced s ((0x22 :: inner ++ [0x22]) ++ t) := by simpa using hquote
      exact ((detached_spaced _ hkey).seq hcolon.fronts).mono
        fun _ _ ⟨_, hquote, hcolon⟩ => .object hinner (by simpa using hquote) hcolon

mutual

/-- Nor does the form of a value. -/
theorem ValueForm.fronts {s rest : Bytes} : ValueForm s rest → Fronts ValueForm s rest
  | .scalar hv hs => (detached_spaced _ hs).mono fun _ _ hs => .scalar hv hs
  | .bracket hopen h => (hopen.fronts.seq h.fronts).mono fun _ _ ⟨_, hopen, h⟩ => .bracket hopen h

theorem InsideForm.fronts {f : Frame} {s rest : Bytes} :
    InsideForm f s rest → Fronts (InsideForm f) s rest
  | .closed hs => hs.fronts.mono fun _ _ hs => .closed hs
  | .first hkey hvalue h => (hkey.fronts.seq (hvalue.fronts.seq h.fronts)).mono
      fun _ _ ⟨_, hkey, _, hvalue, h⟩ => .first hkey hvalue h

theorem AfterForm.fronts {f : Frame} {s rest : Bytes} :
    AfterForm f s rest → Fronts (AfterForm f) s rest
  | .closed hs => hs.fronts.mono fun _ _ hs => .closed hs
  | .next hcomma hkey hvalue h =>
      (hcomma.fronts.seq (hkey.fronts.seq (hvalue.fronts.seq h.fronts))).mono
        fun _ _ ⟨_, hcomma, _, hkey, _, hvalue, h⟩ => .next hcomma hkey hvalue h

end

theorem detached_valueForm : Detached ValueForm := fun _ _ => ValueForm.fronts

end AnalysisGateway.Json
