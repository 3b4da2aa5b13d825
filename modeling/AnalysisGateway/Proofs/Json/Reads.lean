import Mathlib.Data.List.TakeWhile
import AnalysisGateway.Json.Record
import AnalysisGateway.Proofs.Json.Text

/-!
# Reading lists and objects

What a reader of one value does, as a relation: `Reads read a s` says that the reader takes exactly
the bytes `s`, after any white space, and gives `a`, whatever closes the value behind them. The
loops over elements and members keep the relation, so each reader of a nested shape needs only the
relation for its parts.

* The loops stop where the closing bracket stands, since no element begins with it.
* Each turn of a loop takes a byte at least, so the bound on the turns is never reached.
* What a member does to the state of a reader is a relation `step`; the loop over the members goes
  wherever their steps lead.
-/

namespace AnalysisGateway.Json

/-! ## White space -/

/-- Only white space, as bytes. -/
def BlankBytes (bs : Bytes) : Prop := ∀ b ∈ bs, isBlankByte b = true

theorem blankBytes_nil : BlankBytes [] := fun _ h => nomatch h

/-- White space is ASCII. -/
theorem Blanks.encode {s : List Char} (h : Blanks s) : BlankBytes (Text.encode s) := by
  intro b hb
  obtain ⟨c, hc, hbc⟩ := List.mem_flatMap.mp hb
  have hspace := h c hc
  simp only [List.mem_cons, List.not_mem_nil, or_false] at hspace
  obtain rfl | rfl | rfl | rfl := hspace
  all_goals
    obtain rfl := List.mem_singleton.mp hbc
    rfl

/-- White space is passed over to its end. -/
theorem skipBlank_blanks {blanks : Bytes} (h : BlankBytes blanks) : skipBlank blanks = [] :=
  List.dropWhile_eq_nil_iff.mpr h

/-- White space is passed over up to the first other byte. -/
theorem skipBlank_append {blanks : Bytes} (h : BlankBytes blanks) {b : UInt8}
    (hb : isBlankByte b = false) (rest : Bytes) : skipBlank (blanks ++ b :: rest) = b :: rest := by
  rw [skipBlank, List.dropWhile_append_of_pos h, List.dropWhile_cons_of_neg (by rw [hb]; decide)]

/-! ## Brackets -/

theorem encode_quoted (inner : List Char) :
    Text.encode ('"' :: inner ++ ['"']) = 0x22 :: (Text.encode inner ++ [0x22]) := by
  rw [List.cons_append, Text.encode_cons, Text.encode_append]
  rfl

theorem encode_bracketed (inner : List Char) :
    Text.encode ('[' :: inner ++ [']']) = 0x5B :: (Text.encode inner ++ [0x5D]) := by
  rw [List.cons_append, Text.encode_cons, Text.encode_append]
  rfl

theorem encode_braced (inner : List Char) :
    Text.encode ('\x7b' :: inner ++ ['\x7d']) = 0x7B :: (Text.encode inner ++ [0x7D]) := by
  rw [List.cons_append, Text.encode_cons, Text.encode_append]
  rfl

/-! ## One value -/

/-- What may follow a value: nothing, white space, a comma or a closing bracket. -/
def Ends : Bytes → Prop
  | [] => True
  | b :: _ => isBlankByte b = true ∨ b = 0x2C ∨ b = 0x5D ∨ b = 0x7D

theorem ends_nil : Ends [] := trivial

theorem ends_bracket (rest : Bytes) : Ends (0x5D :: rest) := .inr (.inr (.inl rfl))

theorem ends_brace (rest : Bytes) : Ends (0x7D :: rest) := .inr (.inr (.inr rfl))

/-- White space in front does not change what follows a value. -/
theorem Ends.append {blanks rest : Bytes} (h : BlankBytes blanks) (hrest : Ends rest) :
    Ends (blanks ++ rest) := by
  cases blanks with
  | nil => exact hrest
  | cons b blanks => exact .inl (h b List.mem_cons_self)

/-- The reader takes exactly `s`, after any white space, and gives `a`. -/
structure Reads {α : Type} (read : Reader α) (a : α) (s : Bytes) : Prop where
  /-- The bytes begin like an element of a list. -/
  begins : ∃ b tail, s = b :: tail ∧ isBlankByte b = false ∧ b ≠ 0x5D
  read_eq : ∀ {blanks rest : Bytes}, BlankBytes blanks → Ends rest →
    read (blanks ++ (s ++ rest)) = .ok (a, rest)

namespace Reads

variable {α : Type} {read : Reader α} {a : α} {s : Bytes}

/-- Without white space in front. -/
theorem read_append (h : Reads read a s) {rest : Bytes} (hrest : Ends rest) :
    read (s ++ rest) = .ok (a, rest) :=
  h.read_eq blankBytes_nil hrest

theorem length_pos (h : Reads read a s) : 0 < s.length := by
  obtain ⟨b, tail, rfl, -⟩ := h.begins
  exact Nat.succ_pos _

/-- A value alone, with white space around it, is a whole text. -/
theorem readWhole_eq (h : Reads read a s) {before after : Bytes} (hbefore : BlankBytes before)
    (hafter : BlankBytes after) : readWhole read (before ++ (s ++ after)) = .ok a := by
  have hends : Ends after := by simpa using Ends.append hafter ends_nil
  rw [readWhole, h.read_eq hbefore hends]
  simp only [skipBlank_blanks hafter]

/-- A value that is turned into another one. -/
theorem map {β : Type} (h : Reads read a s) (f : α → β) :
    Reads (fun s => (read s).map fun r => (f r.1, r.2)) (f a) s where
  begins := h.begins
  read_eq hblanks hrest := by simp only [h.read_eq hblanks hrest, Except.map]

end Reads

/-! ## Elements -/

theorem nextItem_close (first : Bool) {blanks : Bytes} (h : BlankBytes blanks) (rest : Bytes) :
    nextItem first (blanks ++ 0x5D :: rest) = .ok (false, rest) := by
  rw [nextItem, skipBlank_append h rfl]
  rfl

theorem nextItem_first {blanks : Bytes} (h : BlankBytes blanks) {b : UInt8}
    (hb : isBlankByte b = false) (hclose : b ≠ 0x5D) (rest : Bytes) :
    nextItem true (blanks ++ b :: rest) = .ok (true, b :: rest) := by
  rw [nextItem, skipBlank_append h hb]
  split
  · contradiction
  · next heq => exact absurd (List.cons.inj heq).1 hclose
  · next heq =>
    rw [heq]
    rfl

theorem nextItem_comma {before : Bytes} (h : BlankBytes before) (s : Bytes) :
    nextItem false (before ++ 0x2C :: s) =
      match skipBlank s with
      | [] => .error (.peek .endInValue [])
      | 0x5D :: after => .error (.peek .trailingComma (0x5D :: after))
      | after => .ok (true, after) := by
  rw [nextItem, skipBlank_append h rfl]
  rfl

theorem nextItem_further {before after : Bytes} (hbefore : BlankBytes before)
    (hafter : BlankBytes after) {b : UInt8} (hb : isBlankByte b = false) (hclose : b ≠ 0x5D)
    (rest : Bytes) :
    nextItem false (before ++ 0x2C :: (after ++ b :: rest)) = .ok (true, b :: rest) := by
  rw [nextItem_comma hbefore, skipBlank_append hafter hb]
  split
  · contradiction
  · next heq => exact absurd (List.cons.inj heq).1 hclose
  · rfl

/-- What follows an element is no part of it. -/
theorem Further.ends {α : Type} {item : α → List Char → Prop} {items : List α} {inner : List Char}
    (h : Further item items inner) {rest : Bytes} (hrest : Ends rest) :
    Ends (Text.encode inner ++ rest) := by
  cases h with
  | done hblanks => exact hrest.append hblanks.encode
  | next hbefore _ _ _ =>
      rw [Text.encode_append, List.append_assoc]
      exact Ends.append hbefore.encode (.inr (.inl rfl))

section

variable {α : Type} {item : α → List Char → Prop} {read : Reader α}
  (hitem : ∀ {a : α} {s : List Char}, item a s → Reads read a (Text.encode s))

include hitem

/-- The loop reads the elements that follow others. -/
theorem readItemsAfter_further {items : List α} {inner : List Char}
    (h : Further item items inner) (a : α) (done : List α) (bound rest : Bytes)
    (hbound : (Text.encode inner).length < bound.length) :
    readItemsAfter read (a :: done) bound (Text.encode inner ++ 0x5D :: rest) =
      .ok ((a :: done).reverse ++ items, rest) := by
  induction h generalizing a done bound with
  | @done blanks hblanks =>
      cases bound with
      | nil => simp at hbound
      | cons o bound =>
          rw [readItemsAfter, nextItem_close _ hblanks.encode]
          simp
  | @next before after s inner b items hbefore hafter hb h ih =>
      cases bound with
      | nil => simp at hbound
      | cons o bound =>
          have hreads := hitem hb
          obtain ⟨c, tail, hs, hblank, hclose⟩ := hreads.begins
          have hcomma : Text.encode (before ++ ',' :: (after ++ s ++ inner)) ++ 0x5D :: rest =
              Text.encode before ++ 0x2C :: (Text.encode after ++
                c :: (tail ++ (Text.encode inner ++ 0x5D :: rest))) := by
            simp only [Text.encode_append, Text.encode_cons, List.append_assoc, hs,
              List.cons_append]
            rfl
          have hread := hreads.read_append (h.ends (ends_bracket rest))
          rw [hs, List.cons_append] at hread
          have hlength : (Text.encode inner).length < bound.length := by
            have hpos := hreads.length_pos
            simp only [Text.encode_append, Text.encode_cons, List.length_append, List.length_cons]
              at hbound
            omega
          rw [hcomma, readItemsAfter, List.isEmpty_cons,
            nextItem_further hbefore.encode hafter.encode hblank hclose]
          simp only [hread]
          rw [ih b (a :: done) bound hlength]
          simp

/-- **The elements of a list are read up to its bracket.** -/
theorem readItems_of_elements {items : List α} {inner : List Char}
    (h : Elements item items inner) (rest : Bytes) :
    readItems read (Text.encode inner ++ 0x5D :: rest) = .ok (items, rest) := by
  rw [readItems, readItemsAfter]
  cases h with
  | none hblanks =>
      rw [nextItem_close _ hblanks.encode]
      rfl
  | @some blanks s inner a items hblanks ha h =>
      have hreads := hitem ha
      obtain ⟨c, tail, hs, hblank, hclose⟩ := hreads.begins
      have hsplit : Text.encode (blanks ++ s ++ inner) ++ 0x5D :: rest =
          Text.encode blanks ++ c :: (tail ++ (Text.encode inner ++ 0x5D :: rest)) := by
        simp only [Text.encode_append, List.append_assoc, hs, List.cons_append]
      rw [List.isEmpty_nil, hsplit, nextItem_first hblanks.encode hblank hclose]
      have hread := hreads.read_append (h.ends (ends_bracket rest))
      rw [hs, List.cons_append] at hread
      simp only [hread]
      rw [readItemsAfter_further hitem h a [] _ rest (by simp; omega)]
      simp

end

/-! ## Members -/

theorem nextKey_close (first : Bool) {blanks : Bytes} (h : BlankBytes blanks) (rest : Bytes) :
    nextKey first (blanks ++ 0x7D :: rest) = .ok (false, rest) := by
  rw [nextKey, skipBlank_append h rfl]
  rfl

theorem nextKey_first {blanks : Bytes} (h : BlankBytes blanks) (rest : Bytes) :
    nextKey true (blanks ++ 0x22 :: rest) = .ok (true, rest) := by
  rw [nextKey, skipBlank_append h rfl]
  rfl

theorem nextKey_comma {before : Bytes} (h : BlankBytes before) (s : Bytes) :
    nextKey false (before ++ 0x2C :: s) =
      match skipBlank s with
      | [] => .error (.peek .endInValue [])
      | 0x22 :: after => .ok (true, after)
      | 0x7D :: after => .error (.peek .trailingComma (0x7D :: after))
      | after => .error (.peek .keyNotText after) := by
  rw [nextKey, skipBlank_append h rfl]
  rfl

theorem nextKey_further {before after : Bytes} (hbefore : BlankBytes before)
    (hafter : BlankBytes after) (rest : Bytes) :
    nextKey false (before ++ 0x2C :: (after ++ 0x22 :: rest)) = .ok (true, rest) := by
  rw [nextKey_comma hbefore, skipBlank_append hafter rfl]
  rfl

/-- The value of a member is read behind its colon. -/
theorem readMemberValue_append {α : Type} {read : Reader α} {a : α} {s : Bytes}
    (h : Reads read a s) (key : String) {before after rest : Bytes} (hbefore : BlankBytes before)
    (hafter : BlankBytes after) (hrest : Ends rest) :
    readMemberValue key read (before ++ 0x3A :: (after ++ (s ++ rest))) = .ok (a, rest) := by
  have hcolon : readColon (before ++ 0x3A :: (after ++ (s ++ rest))) =
      .ok (after ++ (s ++ rest)) := by
    rw [readColon, skipBlank_append hbefore rfl]
    rfl
  rw [readMemberValue, hcolon]
  simp only [h.read_eq hafter hrest]

section

variable {α σ : Type}

/-- The steps of a list of things lead from one state to another. -/
inductive Leads (step : σ → α → σ → Prop) : σ → List α → σ → Prop where
  | nil (state : σ) : Leads step state [] state
  | cons {state next final : σ} {a : α} {items : List α} (ha : step state a next)
      (h : Leads step next items final) : Leads step state (a :: items) final

/-- One list leads on from where another one has led. -/
theorem Leads.append {step : σ → α → σ → Prop} {state next final : σ} {items more : List α}
    (h : Leads step state items next) (hmore : Leads step next more final) :
    Leads step state (items ++ more) final := by
  induction h with
  | nil => exact hmore
  | cons ha _ ih => exact .cons ha (ih hmore)

variable {item : α → List Char → Prop} {member : String → σ → Reader σ}
  {step : σ → String × α → σ → Prop}

/-- The reader of a member takes each spelling of a value, from the colon on, as `step` says. -/
def TakesMembers (item : α → List Char → Prop) (member : String → σ → Reader σ)
    (step : σ → String × α → σ → Prop) : Prop :=
  ∀ (name : String) (a : α) (s : List Char) (state next : σ),
    item a s → step state (name, a) next →
    ∀ (before after rest : Bytes), BlankBytes before → BlankBytes after → Ends rest →
      member name state (before ++ 0x3A :: (after ++ (Text.encode s ++ rest))) = .ok (next, rest)

/-- A spelled member begins with the quote of its key; key and value are read in turn. -/
theorem SpellsMember.reads (hmember : TakesMembers item member step) {m : String × α}
    {s : List Char} (h : SpellsMember item m s) {state next : σ} (hstep : step state m next)
    {rest : Bytes} (hrest : Ends rest) :
    ∃ tail left, Text.encode s = 0x22 :: tail ∧
      readTextTail (tail ++ rest) = .ok (m.1, left) ∧
      member m.1 state left = .ok (next, rest) := by
  obtain @⟨name, key, before, after, s, a, hkey, hbefore, hafter, ha⟩ := h
  obtain @⟨inner, hinner⟩ := hkey
  refine ⟨Text.encode inner ++ 0x22 :: (Text.encode before ++
    0x3A :: (Text.encode after ++ Text.encode s)), _, ?_, ?_,
    hmember _ _ _ _ _ ha hstep _ _ _ hbefore.encode hafter.encode hrest⟩
  · simp only [Text.encode_append, Text.encode_cons, Text.encode_nil, List.append_assoc,
      List.cons_append]
    rfl
  · have htext := readTextTail_of_spellsChars hinner (Text.encode before ++
      0x3A :: (Text.encode after ++ (Text.encode s ++ rest)))
    simpa only [List.append_assoc, List.cons_append] using htext

/-- The loop reads the members that follow others. -/
theorem readMembersFrom_further (hmember : TakesMembers item member step)
    {members : List (String × α)} {inner : List Char}
    (h : Further (SpellsMember item) members inner) {state final : σ}
    (hleads : Leads step state members final) (bound rest : Bytes)
    (hbound : (Text.encode inner).length < bound.length) :
    readMembersFrom member false state bound (Text.encode inner ++ 0x7D :: rest) =
      .ok (final, rest) := by
  induction h generalizing state bound with
  | @done blanks hblanks =>
      cases bound with
      | nil => simp at hbound
      | cons o bound =>
          cases hleads
          rw [readMembersFrom, nextKey_close _ hblanks.encode]
  | @next before after s inner m members hbefore hafter hm h ih =>
      cases bound with
      | nil => simp at hbound
      | cons o bound =>
          obtain _ | @⟨_, next, _, _, _, hstep, hleads⟩ := hleads
          obtain ⟨tail, left, hs, hkey, hvalue⟩ :=
            hm.reads hmember hstep (h.ends (ends_brace rest))
          have hcomma : Text.encode (before ++ ',' :: (after ++ s ++ inner)) ++ 0x7D :: rest =
              Text.encode before ++ 0x2C :: (Text.encode after ++
                0x22 :: (tail ++ (Text.encode inner ++ 0x7D :: rest))) := by
            simp only [Text.encode_append, Text.encode_cons, List.append_assoc, hs,
              List.cons_append]
            rfl
          have hlength : (Text.encode inner).length < bound.length := by
            have hpos : 0 < (Text.encode s).length := by rw [hs]; exact Nat.succ_pos _
            simp only [Text.encode_append, Text.encode_cons, List.length_append, List.length_cons]
              at hbound
            omega
          rw [hcomma, readMembersFrom, nextKey_further hbefore.encode hafter.encode]
          simp only [hkey, hvalue]
          exact ih hleads bound hlength

/-- **The members of an object are read up to its bracket**, one step after another. -/
theorem readMembers_of_elements (hmember : TakesMembers item member step)
    {members : List (String × α)} {inner : List Char}
    (h : Elements (SpellsMember item) members inner) {state final : σ}
    (hleads : Leads step state members final) (rest : Bytes) :
    readMembers member state (Text.encode inner ++ 0x7D :: rest) = .ok (final, rest) := by
  rw [readMembers, readMembersFrom]
  cases h with
  | none hblanks =>
      cases hleads
      rw [nextKey_close _ hblanks.encode]
  | @some blanks s inner m members hblanks hm h =>
      obtain _ | @⟨_, next, _, _, _, hstep, hleads⟩ := hleads
      obtain ⟨tail, left, hs, hkey, hvalue⟩ := hm.reads hmember hstep (h.ends (ends_brace rest))
      have hsplit : Text.encode (blanks ++ s ++ inner) ++ 0x7D :: rest =
          Text.encode blanks ++ 0x22 :: (tail ++ (Text.encode inner ++ 0x7D :: rest)) := by
        simp only [Text.encode_append, List.append_assoc, hs, List.cons_append]
      rw [hsplit, nextKey_first hblanks.encode]
      simp only [hkey, hvalue]
      exact readMembersFrom_further hmember h hleads _ rest (by simp; omega)

end

end AnalysisGateway.Json
