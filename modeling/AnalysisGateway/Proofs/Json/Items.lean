import AnalysisGateway.Json.Record
import AnalysisGateway.Proofs.Json.Members

/-!
# Lists by their elements

A list as bytes, with the elements that it has; what an element looks like is left to a relation.
The loop over the elements reads exactly such lists (`readItems_eq_ok_iff`), if the reader of an
element reads exactly what may stand for one.
-/

namespace AnalysisGateway.Json

variable {α : Type} (item : α → Bytes → Bytes → Prop)

/-! ## Elements -/

/-- What follows an element, up to the closing bracket: further ones, each after a comma. -/
inductive FurtherItems : List α → Bytes → Bytes → Prop where
  | done {s rest : Bytes} (h : Spaced s (0x5D :: rest)) : FurtherItems [] s rest
  | next {a : α} {items : List α} {s t u rest : Bytes} (hcomma : Spaced s (0x2C :: t))
      (ha : item a t u) (h : FurtherItems items u rest) : FurtherItems (a :: items) s rest

/-- What follows an opening bracket, up to the closing one: nothing, or elements with commas between
them. -/
inductive ItemsForm : List α → Bytes → Bytes → Prop where
  | none {s rest : Bytes} (h : Spaced s (0x5D :: rest)) : ItemsForm [] s rest
  | some {a : α} {items : List α} {s t rest : Bytes} (ha : item a s t)
      (h : FurtherItems item items t rest) : ItemsForm (a :: items) s rest

/-- A list with these elements. -/
def ListForm (items : List α) (s rest : Bytes) : Prop :=
  ∃ u, Spaced s (0x5B :: u) ∧ ItemsForm item items u rest

variable {item}

/-- What follows an element is no part of it. -/
theorem FurtherItems.ends {items : List α} {s rest : Bytes}
    (h : FurtherItems item items s rest) : Ends s := by
  cases h with
  | done h =>
      obtain ⟨blanks, hblanks, rfl⟩ := h
      exact Ends.append hblanks (ends_bracket rest)
  | next hcomma =>
      obtain ⟨blanks, hblanks, rfl⟩ := hcomma
      exact Ends.append hblanks (.inr (.inl rfl))

section

variable {β : Type} {g : β → α}

theorem furtherItems_map_iff {items : List β} {s rest : Bytes} :
    FurtherItems item (items.map g) s rest ↔ FurtherItems (fun b => item (g b)) items s rest := by
  induction items generalizing s with
  | nil => exact ⟨fun | .done h => .done h, fun | .done h => .done h⟩
  | cons b items ih =>
      rw [List.map_cons]
      exact ⟨fun | .next hcomma hb h => .next hcomma hb (ih.mp h),
        fun | .next hcomma hb h => .next hcomma hb (ih.mpr h)⟩

/-- Elements that are taken for other things. -/
theorem itemsForm_map_iff {items : List β} {s rest : Bytes} :
    ItemsForm item (items.map g) s rest ↔ ItemsForm (fun b => item (g b)) items s rest := by
  cases items with
  | nil => exact ⟨fun | .none h => .none h, fun | .none h => .none h⟩
  | cons b items =>
      rw [List.map_cons]
      exact ⟨fun | .some hb h => .some hb (furtherItems_map_iff.mp h),
        fun | .some hb h => .some hb (furtherItems_map_iff.mpr h)⟩

end

/-! ## The next element -/

/-- An element may begin at `t`, with white space in front: no closing bracket stands there. -/
def Begins (s t : Bytes) : Prop := ∃ b tail, skipBlank s = b :: tail ∧ b ≠ 0x5D ∧ b :: tail = t

/-- What is at the front where an element may begin. -/
theorem begins_iff_of_skipBlank {s t rest : Bytes} {b : UInt8} (hs : skipBlank s = b :: rest)
    (hb : b ≠ 0x5D) : Begins s t ↔ b :: rest = t := by
  constructor
  · rintro ⟨c, tail, hc, -, rfl⟩
    exact hs.symm.trans hc
  · rintro rfl
    exact ⟨b, rest, hs, hb, rfl⟩

theorem nextItem_eq_ok_false_iff {first : Bool} {s rest : Bytes} :
    nextItem first s = .ok (false, rest) ↔ Spaced s (0x5D :: rest) := by
  rw [spaced_cons_iff rfl, nextItem.eq_def]
  split
  · next hs => simp [hs]
  · next hs => simp [hs]
  · next b t hclose hs =>
    rw [hs]
    refine iff_of_false ?_ (fun h => hclose (List.cons.inj h).1)
    split
    · simp
    split
    · split <;> simp
    · simp

theorem nextItem_true_eq_ok_true_iff {s t : Bytes} :
    nextItem true s = .ok (true, t) ↔ Begins s t := by
  rw [nextItem.eq_def]
  split
  · next hs => simp [hs, Begins]
  · next hs => simp [hs, Begins]
  · next b rest hclose hs => simp [begins_iff_of_skipBlank hs hclose]

theorem nextItem_false_eq_ok_true_iff {s t : Bytes} :
    nextItem false s = .ok (true, t) ↔ ∃ u, Spaced s (0x2C :: u) ∧ Begins u t := by
  simp only [spaced_cons_iff (show isBlankByte 0x2C = false from rfl)]
  rw [nextItem.eq_def]
  split
  · next hs => simp [hs]
  · next hs => simp [hs]
  · next b rest hclose hs =>
    rw [hs, if_neg (by decide)]
    split
    · next hcomma =>
      simp only [hcomma, List.cons.injEq, true_and, exists_eq_left']
      split
      · next hrest => simp [hrest, Begins]
      · next hrest => simp [hrest, Begins]
      · next hnil hbracket =>
        obtain ⟨c, tail, hcons⟩ := List.exists_cons_of_ne_nil hnil
        have hc : c ≠ 0x5D := by
          rintro rfl
          exact hbracket tail hcons
        simp [hcons, begins_iff_of_skipBlank hcons hc]
    · next hcomma => simp [hcomma]

/-! ## The loop -/

/-- A whole text is read exactly if nothing but white space is left of it. -/
theorem readWhole_eq_ok_iff_exists {read : Reader α} {a : α} {whole : Bytes} :
    readWhole read whole = .ok a ↔ ∃ rest, read whole = .ok (a, rest) ∧ BlankBytes rest := by
  rw [readWhole]
  constructor
  · intro hread
    split at hread
    · contradiction
    next b rest hb =>
      split at hread
      · next hblank =>
        obtain rfl := Except.ok.inj hread
        exact ⟨rest, hb, List.dropWhile_eq_nil_iff.mp hblank⟩
      · contradiction
  · rintro ⟨rest, hread, hblank⟩
    rw [hread]
    simp only [skipBlank_blanks hblank]

/-- The reader of an element reads exactly what may stand for one: a value, with white space in
front. -/
structure ReadsItems (item : α → Bytes → Bytes → Prop) (read : Reader α) : Prop where
  sound : ∀ {a : α} {s rest : Bytes}, read s = .ok (a, rest) → item a s rest
  complete : ∀ {a : α} {s rest : Bytes}, item a s rest → Ends rest → read s = .ok (a, rest)
  valueForm : ∀ {a : α} {s rest : Bytes}, item a s rest → ValueForm s rest
  skipBlank_iff : ∀ {a : α} {s rest : Bytes}, item a (skipBlank s) rest ↔ item a s rest

namespace ReadsItems

variable {read : Reader α} (h : ReadsItems item read)

include h

/-- A value where an element may begin is an element. -/
theorem item_of_begins {a : α} {s t rest : Bytes} (hbegins : Begins s t)
    (hread : read t = .ok (a, rest)) : item a s rest := by
  obtain ⟨b, tail, hs, -, rfl⟩ := hbegins
  exact h.skipBlank_iff.mp (h.sound (hs ▸ hread))

theorem exists_begins {a : α} {s rest : Bytes} (ha : item a s rest) (hrest : Ends rest) :
    ∃ t, Begins s t ∧ read t = .ok (a, rest) := by
  obtain ⟨b, tail, hs, hclose⟩ := (h.valueForm ha).begins
  exact ⟨skipBlank s, ⟨b, tail, hs, hclose, hs.symm⟩, h.complete (h.skipBlank_iff.mpr ha) hrest⟩

/-- The loop reads the elements that follow others. -/
theorem exists_furtherItems {a : α} {done all : List α} {bound s rest : Bytes}
    (hread : readItemsAfter read (a :: done) bound s = .ok (all, rest)) :
    ∃ items, FurtherItems item items s rest ∧ all = (a :: done).reverse ++ items := by
  induction bound generalizing a done s with
  | nil => contradiction
  | cons o bound ih =>
      rw [readItemsAfter] at hread
      split at hread
      · contradiction
      · next hnext =>
        obtain ⟨rfl, rfl⟩ := Prod.mk.inj (Except.ok.inj hread)
        exact ⟨[], .done (nextItem_eq_ok_false_iff.mp hnext), (List.append_nil _).symm⟩
      next t hnext =>
        obtain ⟨u, hcomma, hbegins⟩ := nextItem_false_eq_ok_true_iff.mp hnext
        split at hread
        · contradiction
        next b v hitem =>
          obtain ⟨items, hitems, rfl⟩ := ih hread
          exact ⟨b :: items, .next hcomma (h.item_of_begins hbegins hitem) hitems, by simp⟩

theorem readItemsAfter_furtherItems {items : List α} {s rest : Bytes}
    (hitems : FurtherItems item items s rest) (a : α) (done : List α) (bound : Bytes)
    (hbound : s.length < bound.length) :
    readItemsAfter read (a :: done) bound s = .ok ((a :: done).reverse ++ items, rest) := by
  -- An element takes its comma at least, so the bound outlives the text.
  induction hitems generalizing a done bound with
  | done hclose =>
      cases bound with
      | nil => contradiction
      | cons o bound => rw [readItemsAfter, nextItem_eq_ok_false_iff.mpr hclose, List.append_nil]
  | @next b items s t u rest hcomma hb hitems ih =>
      cases bound with
      | nil => contradiction
      | cons o bound =>
          obtain ⟨v, hbegins, hitem⟩ := h.exists_begins hb hitems.ends
          have hlength : u.length < bound.length := by
            have hs := hcomma.length_le
            have ht := (h.valueForm hb).length_le
            rw [List.length_cons] at hs hbound
            omega
          rw [readItemsAfter, List.isEmpty_cons,
            nextItem_false_eq_ok_true_iff.mpr ⟨t, hcomma, hbegins⟩]
          simp only [hitem]
          rw [ih b (a :: done) bound hlength]
          simp

/-- **The elements of a list are read exactly if they stand there.** -/
theorem readItems_eq_ok_iff {items : List α} {s rest : Bytes} :
    readItems read s = .ok (items, rest) ↔ ItemsForm item items s rest := by
  rw [readItems, readItemsAfter, List.isEmpty_nil]
  constructor
  · intro hread
    split at hread
    · contradiction
    · next hnext =>
      obtain ⟨rfl, rfl⟩ := Prod.mk.inj (Except.ok.inj hread)
      exact .none (nextItem_eq_ok_false_iff.mp hnext)
    next t hnext =>
      split at hread
      · contradiction
      next a u hitem =>
        obtain ⟨items, hitems, rfl⟩ := h.exists_furtherItems hread
        exact .some (h.item_of_begins (nextItem_true_eq_ok_true_iff.mp hnext) hitem) hitems
  · intro hitems
    cases hitems with
    | none hclose =>
        rw [nextItem_eq_ok_false_iff.mpr hclose]
        rfl
    | some ha hitems =>
        obtain ⟨t, hbegins, hitem⟩ := h.exists_begins ha hitems.ends
        rw [nextItem_true_eq_ok_true_iff.mpr hbegins]
        simp only [hitem]
        exact h.readItemsAfter_furtherItems hitems _ [] s (h.valueForm ha).length_lt

/-- So is a whole list. -/
theorem readList_eq_ok_iff {items : List α} {s rest : Bytes} :
    readList read s = .ok (items, rest) ↔ ListForm item items s rest := by
  simp only [ListForm, spaced_cons_iff (show isBlankByte 0x5B = false from rfl),
    ← h.readItems_eq_ok_iff]
  rw [readList.eq_def]
  split
  · next hs => simp [hs]
  · next u hs => simp [hs]
  · next hopen => exact iff_of_false nofun fun ⟨u, hs, _⟩ => hopen u hs

/-- A whole text is read exactly if it is such a value with white space around it. -/
theorem readWhole_eq_ok_iff {a : α} {whole : Bytes} :
    readWhole read whole = .ok a ↔ ∃ rest, item a whole rest ∧ BlankBytes rest := by
  rw [readWhole_eq_ok_iff_exists]
  constructor
  · rintro ⟨rest, hread, hblank⟩
    exact ⟨rest, h.sound hread, hblank⟩
  · rintro ⟨rest, ha, hblank⟩
    have hends : Ends rest := by simpa using Ends.append hblank ends_nil
    exact ⟨rest, h.complete ha hends, hblank⟩

end ReadsItems

end AnalysisGateway.Json
