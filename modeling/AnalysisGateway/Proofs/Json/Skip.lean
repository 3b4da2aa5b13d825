import AnalysisGateway.Proofs.Json.SkipScalar

/-!
# Passing over values

A value is passed over exactly if it has the form of one (`skipValue_eq_ok_iff`). The reader keeps
the open brackets in a list, and what these still demand of the text is a relation over that list
(`Closes`): each bracket must be closed, the latest first. One turn takes a token and closes what it
can; what is left then is either nothing, or a value that must stand next (`Awaits`).
-/

namespace AnalysisGateway.Json

/-! ## Keys -/

theorem readColon_eq_ok_iff {s rest : Bytes} :
    readColon s = .ok rest ↔ Spaced s (0x3A :: rest) := by
  rw [spaced_cons_iff rfl, readColon.eq_def]
  split
  · next heq => simp [heq]
  · next heq => simp [heq]
  · next hcolon _ => exact iff_of_false nofun fun h => hcolon rest h

/-- **A key is passed over exactly if it has the form of one.** -/
theorem skipKey_eq_ok_iff {f : Frame} {s rest : Bytes} :
    skipKey f s = .ok rest ↔ KeyForm f s rest := by
  cases f with
  | list =>
      rw [skipKey]
      constructor
      · intro h
        rw [Except.ok.inj h]
        exact .list rest
      · rintro ⟨⟩
        rfl
  | object =>
      have hform : KeyForm .object s rest ↔
          ∃ t u, skipBlank s = 0x22 :: t ∧ skipText t t = .ok u ∧ readColon u = .ok rest := by
        constructor
        · rintro (_ | ⟨hinner, hquote, hcolon⟩)
          exact ⟨_, _, hquote.skipBlank_eq rfl, skipText_eq_ok_iff.mpr ⟨_, hinner, rfl⟩,
            readColon_eq_ok_iff.mpr hcolon⟩
        · rintro ⟨t, u, hquote, htext, hcolon⟩
          obtain ⟨inner, hinner, rfl⟩ := skipText_eq_ok_iff.mp htext
          exact .object hinner (spaced_of_skipBlank hquote) (readColon_eq_ok_iff.mp hcolon)
      rw [hform, skipKey.eq_def]
      simp only
      split
      · next t hs =>
        cases htext : skipText t t with
        | error fault => simp [hs, htext]
        | ok u => simp [hs, htext]
      · next hs => simp [hs]
      · next hquote _ => exact iff_of_false nofun fun ⟨t, _, hs, _⟩ => hquote t hs

/-! ## Brackets -/

/-- What the open brackets demand of the text after a value, the latest first. -/
def Closes : List Frame → Bytes → Bytes → Prop
  | [], s, rest => s = rest
  | f :: outer, s, rest => ∃ t, AfterForm f s t ∧ Closes outer t rest

/-- What must stand next: nothing, or a value within brackets that are still open. -/
def Awaits : Option (List Frame) × Bytes → Bytes → Prop
  | (none, s), rest => s = rest
  | (some frames, s), rest => ∃ t, ValueForm s t ∧ Closes frames t rest

/-- What follows a value may follow it. -/
theorem Closes.ends {frames : List Frame} {s rest : Bytes} (h : Closes frames s rest)
    (hrest : Ends rest) : Ends s := by
  cases frames with
  | nil =>
      obtain rfl : s = rest := h
      exact hrest
  | cons f outer =>
      obtain ⟨t, hafter, -⟩ := h
      exact hafter.ends

/-- After a value brackets are closed, or a comma and a key come before the next one. -/
theorem closes_of_closeFrames {frames : List Frame} {s rest : Bytes}
    {next : Option (List Frame) × Bytes} (h : closeFrames true frames s = .ok next)
    (hnext : Awaits next rest) : Closes frames s rest := by
  induction frames generalizing s with
  | nil =>
      rw [closeFrames] at h
      obtain rfl := Except.ok.inj h
      exact hnext
  | cons f outer ih =>
      rw [closeFrames] at h
      split at h
      · contradiction
      next b t hs =>
        split at h
        · next hcomma =>
          obtain ⟨rfl, -⟩ := hcomma
          cases hkey : skipKey f t with
          | error fault =>
              rw [hkey] at h
              contradiction
          | ok u =>
              rw [hkey] at h
              obtain rfl := Except.ok.inj h
              obtain ⟨v, hvalue, w, hafter, hcloses⟩ := hnext
              exact ⟨w, .next (spaced_of_skipBlank hs) (skipKey_eq_ok_iff.mp hkey) hvalue hafter,
                hcloses⟩
        · split at h
          · next hclose =>
            obtain rfl := hclose
            exact ⟨t, .closed (spaced_of_skipBlank hs), ih h⟩
          · contradiction

/-- What the brackets demand is closed, and there is a next value or none. -/
theorem exists_closeFrames {frames : List Frame} {s rest : Bytes} (h : Closes frames s rest) :
    ∃ next, closeFrames true frames s = .ok next ∧ Awaits next rest ∧
      next.2.length ≤ s.length := by
  induction frames generalizing s with
  | nil => exact ⟨_, rfl, h, Nat.le_refl _⟩
  | cons f outer ih =>
      obtain ⟨t, hafter, hcloses⟩ := h
      rw [closeFrames]
      cases hafter with
      | closed hs =>
          have hblank : isBlankByte f.closing = false := by cases f <;> rfl
          have hcomma : ¬ f.closing = 0x2C := by cases f <;> decide
          obtain ⟨next, hclose, hnext, hle⟩ := ih hcloses
          simp only [hs.skipBlank_eq hblank, hcomma, false_and, if_false, if_true]
          exact ⟨next, hclose, hnext, hle.trans ((Nat.le_succ _).trans hs.length_le)⟩
      | next hs hkey hvalue hafter =>
          simp only [hs.skipBlank_eq rfl, and_self, if_true, skipKey_eq_ok_iff.mpr hkey]
          exact ⟨_, rfl, ⟨_, hvalue, _, hafter, hcloses⟩,
            hkey.length_le.trans ((Nat.le_succ _).trans hs.length_le)⟩

/-- After an opening bracket there are members, or the bracket is closed at once. -/
theorem exists_inside_of_closeFrames {f : Frame} {frames : List Frame} {s rest : Bytes}
    {next : Option (List Frame) × Bytes} (h : closeFrames false (f :: frames) s = .ok next)
    (hnext : Awaits next rest) : ∃ t, InsideForm f s t ∧ Closes frames t rest := by
  rw [closeFrames] at h
  split at h
  · contradiction
  next b t hs =>
    rw [if_neg (by simp)] at h
    split at h
    · next hclose =>
      obtain rfl := hclose
      exact ⟨t, .closed (spaced_of_skipBlank hs), closes_of_closeFrames h hnext⟩
    · rw [if_neg (by simp), ← hs] at h
      cases hkey : skipKey f (skipBlank s) with
      | error fault =>
          rw [hkey] at h
          contradiction
      | ok u =>
          rw [hkey] at h
          obtain rfl := Except.ok.inj h
          obtain ⟨v, hvalue, w, hafter, hcloses⟩ := hnext
          exact ⟨w, .of_spaced (spaced_skipBlank s)
            (.first (skipKey_eq_ok_iff.mp hkey) hvalue hafter), hcloses⟩

/-- What stands inside an opening bracket is closed, or there is a first value. -/
theorem exists_closeFrames_inside {f : Frame} {frames : List Frame} {s t rest : Bytes}
    (h : InsideForm f s t) (hcloses : Closes frames t rest) :
    ∃ next, closeFrames false (f :: frames) s = .ok next ∧ Awaits next rest ∧
      next.2.length ≤ s.length := by
  rw [closeFrames]
  cases h with
  | closed hs =>
      have hblank : isBlankByte f.closing = false := by cases f <;> rfl
      obtain ⟨next, hclose, hnext, hle⟩ := exists_closeFrames hcloses
      simp only [hs.skipBlank_eq hblank, Bool.false_eq_true, and_false, if_false, if_true]
      exact ⟨next, hclose, hnext, hle.trans ((Nat.le_succ _).trans hs.length_le)⟩
  | @first _ _ u v _ hkey hvalue hafter =>
      obtain ⟨b, tail, w, hs, hclose, hskip, hw, hle⟩ : ∃ b tail w, skipBlank s = b :: tail ∧
          b ≠ f.closing ∧ skipKey f (b :: tail) = .ok w ∧ ValueForm w v ∧
          w.length ≤ s.length := by
        cases hkey with
        | list =>
            obtain ⟨b, tail, hs, hclose⟩ := hvalue.begins
            exact ⟨b, tail, _, hs, hclose, rfl, hs ▸ hvalue.skipBlank,
              hs ▸ (spaced_skipBlank s).length_le⟩
        | object hinner hquote hcolon =>
            have hkey : KeyForm .object (0x22 :: _) u := .object hinner (.refl _) hcolon
            exact ⟨_, _, u, hquote.skipBlank_eq rfl, by decide, skipKey_eq_ok_iff.mpr hkey, hvalue,
              hkey.length_le.trans hquote.length_le⟩
      simp only [hs, Bool.false_eq_true, and_false, if_false, if_neg hclose, hskip]
      exact ⟨_, rfl, ⟨v, hw, t, hafter, hcloses⟩, hle⟩

/-! ## Values -/

theorem readWord_eq_ok_iff {word s rest : Bytes} :
    readWord word s = .ok ((), rest) ↔ s = word ++ rest := by
  induction word generalizing s with
  | nil => simp [readWord]
  | cons w word ih =>
      cases s with
      | nil => simp [readWord]
      | cons b s =>
          rw [readWord, List.cons_append, List.cons.injEq]
          split
          · next heq => simp [heq, ih]
          · next hne => simp [hne]

/-- A word is passed over exactly if it stands there. -/
theorem map_readWord_eq_ok_iff {word s rest : Bytes} :
    (readWord word s).map (·.2) = .ok rest ↔ s = word ++ rest := by
  rw [← readWord_eq_ok_iff]
  cases readWord word s with
  | error fault => simp [Except.map]
  | ok r => simp [Except.map, Prod.ext_iff]

/-- A token is a scalar or an opening bracket, and then what the brackets demand follows. -/
theorem exists_value_of_skipToken {frames : List Frame} {s rest : Bytes}
    {next : Option (List Frame) × Bytes} (h : skipToken frames s = .ok next)
    (hnext : Awaits next rest) : ∃ t, ValueForm s t ∧ Closes frames t rest := by
  rw [skipToken.eq_def] at h
  split at h
  · contradiction
  next b t hs =>
    extract_lets scalar at h
    have hspaced : Spaced s (b :: t) := spaced_of_skipBlank hs
    have hscalar {after : Except Fault Bytes} (h : scalar after = .ok next) :
        ∃ u, after = .ok u ∧ Closes frames u rest := by
      cases after with
      | error fault => contradiction
      | ok u => exact ⟨u, rfl, closes_of_closeFrames h hnext⟩
    clear_value scalar
    split at h
    · next hb =>
      obtain ⟨u, hword, hcloses⟩ := hscalar h
      rw [hb, map_readWord_eq_ok_iff.mp hword] at hspaced
      exact ⟨u, .scalar .null hspaced, hcloses⟩
    split at h
    · next hb =>
      obtain ⟨u, hword, hcloses⟩ := hscalar h
      rw [hb, map_readWord_eq_ok_iff.mp hword] at hspaced
      exact ⟨u, .scalar .yes hspaced, hcloses⟩
    split at h
    · next hb =>
      obtain ⟨u, hword, hcloses⟩ := hscalar h
      rw [hb, map_readWord_eq_ok_iff.mp hword] at hspaced
      exact ⟨u, .scalar .no hspaced, hcloses⟩
    split at h
    · next hb =>
      obtain ⟨u, hnumber, hcloses⟩ := hscalar h
      obtain ⟨n, hn, rfl⟩ := Number.exists_of_skip hnumber
      rw [hb] at hspaced
      exact ⟨u, .scalar (.negative hn) hspaced, hcloses⟩
    split at h
    · obtain ⟨u, hnumber, hcloses⟩ := hscalar h
      obtain ⟨n, hn, heq⟩ := Number.exists_of_skip hnumber
      rw [heq] at hspaced
      exact ⟨u, .scalar (.unsigned hn) hspaced, hcloses⟩
    split at h
    · next hb =>
      obtain ⟨u, htext, hcloses⟩ := hscalar h
      obtain ⟨inner, hinner, rfl⟩ := skipText_eq_ok_iff.mp htext
      rw [hb] at hspaced
      exact ⟨u, .scalar (.text hinner) (by simpa using hspaced), hcloses⟩
    split at h
    · next hb =>
      obtain ⟨u, hinside, hcloses⟩ := exists_inside_of_closeFrames h hnext
      rw [hb] at hspaced
      exact ⟨u, .bracket (f := .list) hspaced hinside, hcloses⟩
    split at h
    · next hb =>
      obtain ⟨u, hinside, hcloses⟩ := exists_inside_of_closeFrames h hnext
      rw [hb] at hspaced
      exact ⟨u, .bracket (f := .object) hspaced hinside, hcloses⟩
    · contradiction

/-- A scalar is passed over as one token, up to what may follow a value. -/
theorem skipToken_scalar {v s t : Bytes} (hv : ScalarForm v) (hs : Spaced s (v ++ t)) (ht : Ends t)
    (frames : List Frame) : skipToken frames s = closeFrames true frames t := by
  obtain ⟨b, tail, heq, hblank, -⟩ := hv.begins
  rw [heq] at hs
  rw [skipToken, hs.skipBlank_eq hblank]
  cases hv with
  | null =>
      obtain ⟨rfl, rfl⟩ := List.cons.inj heq
      simp [readWord, Except.map]
  | yes =>
      obtain ⟨rfl, rfl⟩ := List.cons.inj heq
      simp [readWord, Except.map]
  | no =>
      obtain ⟨rfl, rfl⟩ := List.cons.inj heq
      simp [readWord, Except.map]
  | negative hn =>
      obtain ⟨rfl, rfl⟩ := List.cons.inj heq
      simp [Number.skip_append ht hn]
  | unsigned hn =>
      obtain ⟨c, more, hcons, hdigit⟩ := hn.begins
      obtain ⟨rfl, rfl⟩ := List.cons.inj (hcons.symm.trans heq)
      have hskip := Number.skip_append ht hn
      rw [heq, List.cons_append] at hskip
      simp only [List.append_eq]
      rw [if_neg (ne_of_isDigit hdigit rfl), if_neg (ne_of_isDigit hdigit rfl),
        if_neg (ne_of_isDigit hdigit rfl), if_neg (ne_of_isDigit hdigit rfl), if_pos hdigit, hskip]
  | @text inner hinner =>
      obtain ⟨rfl, rfl⟩ := List.cons.inj heq
      have hskip : skipText (inner ++ 0x22 :: t) (inner ++ 0x22 :: t) = .ok t :=
        skipText_eq_ok_iff.mpr ⟨inner, hinner, rfl⟩
      simp [isDigit, digit?, hskip]

/-- A value is passed over by a token at least, up to what the brackets demand next. -/
theorem exists_skipToken {frames : List Frame} {s t rest : Bytes} (h : ValueForm s t)
    (hcloses : Closes frames t rest) (hrest : Ends rest) :
    ∃ next, skipToken frames s = .ok next ∧ Awaits next rest ∧ next.2.length < s.length := by
  cases h with
  | scalar hv hs =>
      obtain ⟨next, hclose, hnext, hle⟩ := exists_closeFrames hcloses
      rw [← skipToken_scalar hv hs (hcloses.ends hrest)] at hclose
      refine ⟨next, hclose, hnext, ?_⟩
      obtain ⟨b, tail, rfl, -, -⟩ := hv.begins
      have hlength := hs.length_le
      rw [List.length_append, List.length_cons] at hlength
      omega
  | @bracket f _ u _ hopen hinside =>
      obtain ⟨next, hclose, hnext, hle⟩ := exists_closeFrames_inside hinside hcloses
      refine ⟨next, ?_, hnext, Nat.lt_of_le_of_lt hle hopen.length_le⟩
      cases f with
      | list =>
          rw [skipToken, hopen.skipBlank_eq rfl]
          exact hclose
      | object =>
          rw [skipToken, hopen.skipBlank_eq rfl]
          exact hclose

/-- What is passed over until no bracket is open is a value, and what the brackets demand. -/
theorem exists_value_of_skipValues {frames : List Frame} {bound s rest : Bytes}
    (h : skipValues frames bound s = .ok rest) : ∃ t, ValueForm s t ∧ Closes frames t rest := by
  induction bound generalizing frames s with
  | nil => contradiction
  | cons o bound ih =>
      rw [skipValues] at h
      split at h
      · contradiction
      · next u hskip => exact exists_value_of_skipToken hskip (Except.ok.inj h)
      · next frames' u hskip => exact exists_value_of_skipToken hskip (ih h)

/-- It is all passed over if each turn may take a token. -/
theorem skipValues_of_value {frames : List Frame} {bound s t rest : Bytes} (h : ValueForm s t)
    (hcloses : Closes frames t rest) (hrest : Ends rest) (hbound : s.length < bound.length) :
    skipValues frames bound s = .ok rest := by
  -- What a turn leaves is shorter, so the bound outlives the text.
  induction bound generalizing frames s t with
  | nil => contradiction
  | cons o bound ih =>
      obtain ⟨⟨frames', u⟩, hskip, hnext, hlt⟩ := exists_skipToken h hcloses hrest
      rw [skipValues, hskip]
      cases frames' with
      | none => exact congrArg Except.ok hnext
      | some frames' =>
          obtain ⟨v, hvalue, hcloses⟩ := hnext
          exact ih hvalue hcloses (Nat.lt_of_lt_of_le hlt (Nat.le_of_lt_succ hbound))

/-- What is passed over as a value has the form of one. -/
theorem valueForm_of_skipValue {s rest : Bytes} (h : skipValue s = .ok ((), rest)) :
    ValueForm s rest := by
  rw [skipValue] at h
  cases hskip : skipValues [] (0 :: s) s with
  | error fault =>
      rw [hskip] at h
      contradiction
  | ok u =>
      rw [hskip] at h
      obtain rfl : u = rest := congrArg Prod.snd (Except.ok.inj h)
      obtain ⟨t, hform, rfl⟩ := exists_value_of_skipValues hskip
      exact hform

/-- **A value is passed over exactly if it has the form of one**, up to what may follow a value. -/
theorem skipValue_eq_ok_iff {s rest : Bytes} (hrest : Ends rest) :
    skipValue s = .ok ((), rest) ↔ ValueForm s rest := by
  refine ⟨valueForm_of_skipValue, fun h => ?_⟩
  have hcloses : Closes [] rest rest := rfl
  rw [skipValue, skipValues_of_value h hcloses hrest (Nat.lt_succ_self _)]
  rfl

end AnalysisGateway.Json
