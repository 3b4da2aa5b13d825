import AnalysisGateway.Proofs.Text.Utf8

/-!
# Only UTF-8 is read

Bytes that are read as a text are the bytes that are written of it, so no text has two encodings.
What the machine knows of a character that it is inside of is enough to say its bytes, whatever the
rest of them are (`Begun.Follows`): the bounds of the second byte leave out what fewer bytes could
write, the surrogates, and what lies beyond U+10FFFF.
-/

namespace AnalysisGateway.Text

/-! ## The bytes of a character -/

/-- A byte that may stand after the second one of a character. -/
def Continues (b : UInt8) : Prop := 0x80 ≤ b.toNat ∧ b.toNat ≤ 0xBF

/-- Bytes after which a character is begun: with the bytes owed, whatever they are within their
bounds, they are the bytes of the character that these come to. -/
def Begun.Follows (o : Begun) (read : Bytes) : Prop :=
  ∀ next more, o.low ≤ next.toNat ∧ next.toNat ≤ o.high → (∀ b ∈ more, Continues b) →
    more.length + 1 = o.owed →
      String.utf8EncodeChar (Char.ofNat
        ((next :: more).foldl (fun value b => value * 64 + (b.toNat - 0x80)) o.value)) =
      read ++ next :: more

section

variable {first second third fourth n : Nat}

theorem val_ofNat (h : n < 0xD800 ∨ 0xDFFF < n ∧ n < 0x110000) : (Char.ofNat n).val.toNat = n := by
  have hvalid : n.isValidChar := h
  rw [Char.ofNat, dif_pos hvalid]
  rfl

/-- The bytes of a character that two bytes come to. -/
theorem utf8EncodeChar_of_two (hfirst : 0xC2 ≤ first ∧ first ≤ 0xDF)
    (hsecond : 0x80 ≤ second ∧ second ≤ 0xBF) (hn : n = (first - 0xC0) * 64 + (second - 0x80)) :
    String.utf8EncodeChar (Char.ofNat n) = [UInt8.ofNat first, UInt8.ofNat second] := by
  have hval := val_ofNat (n := n) (by omega)
  simp only [String.utf8EncodeChar, hval]
  rw [if_neg (by omega), if_pos (by omega), show n / 64 % 0x20 + 0xC0 = first by omega,
    show n % 0x40 + 0x80 = second by omega]

/-- The bytes of a character that three bytes come to. -/
theorem utf8EncodeChar_of_three (hfirst : 0xE0 ≤ first ∧ first ≤ 0xEF)
    (hlow : (if first = 0xE0 then 0xA0 else 0x80) ≤ second)
    (hhigh : second ≤ (if first = 0xED then 0x9F else 0xBF))
    (hthird : 0x80 ≤ third ∧ third ≤ 0xBF)
    (hn : n = ((first - 0xE0) * 64 + (second - 0x80)) * 64 + (third - 0x80)) :
    String.utf8EncodeChar (Char.ofNat n) =
      [UInt8.ofNat first, UInt8.ofNat second, UInt8.ofNat third] := by
  have hsecond : 0x80 ≤ second ∧ second ≤ 0xBF := by
    constructor
    · split at hlow <;> omega
    · split at hhigh <;> omega
  have hscalar : 0x800 ≤ n ∧ n ≤ 0xFFFF ∧ (n < 0xD800 ∨ 0xDFFF < n) := by
    split at hlow <;> split at hhigh <;> omega
  have hval := val_ofNat (n := n) (by omega)
  simp only [String.utf8EncodeChar, hval]
  rw [if_neg (by omega), if_neg (by omega), if_pos (by omega),
    show n / 4096 % 0x10 + 0xE0 = first by omega, show n / 64 % 0x40 + 0x80 = second by omega,
    show n % 0x40 + 0x80 = third by omega]

/-- The bytes of a character that four bytes come to. -/
theorem utf8EncodeChar_of_four (hfirst : 0xF0 ≤ first ∧ first ≤ 0xF4)
    (hlow : (if first = 0xF0 then 0x90 else 0x80) ≤ second)
    (hhigh : second ≤ (if first = 0xF4 then 0x8F else 0xBF))
    (hthird : 0x80 ≤ third ∧ third ≤ 0xBF) (hfourth : 0x80 ≤ fourth ∧ fourth ≤ 0xBF)
    (hn : n = (((first - 0xF0) * 64 + (second - 0x80)) * 64 + (third - 0x80)) * 64 +
      (fourth - 0x80)) :
    String.utf8EncodeChar (Char.ofNat n) =
      [UInt8.ofNat first, UInt8.ofNat second, UInt8.ofNat third, UInt8.ofNat fourth] := by
  have hsecond : 0x80 ≤ second ∧ second ≤ 0xBF := by
    constructor
    · split at hlow <;> omega
    · split at hhigh <;> omega
  have hscalar : 0x10000 ≤ n ∧ n ≤ 0x10FFFF := by
    split at hlow <;> split at hhigh <;> omega
  have hval := val_ofNat (n := n) (by omega)
  simp only [String.utf8EncodeChar, hval]
  rw [if_neg (by omega), if_neg (by omega), if_neg (by omega),
    show n / 262144 % 0x08 + 0xF0 = first by omega,
    show n / 4096 % 0x40 + 0x80 = second by omega, show n / 64 % 0x40 + 0x80 = third by omega,
    show n % 0x40 + 0x80 = fourth by omega]

end

/-! ## One byte -/

/-- A byte that is a character by itself is below 0x80. -/
theorem le_of_firstByte_eq_whole {b : Nat} {c : Char} (h : firstByte b = .whole c) :
    b ≤ 0x7F ∧ Char.ofNat b = c := by
  rw [firstByte] at h
  split at h
  · next hone => exact ⟨hone, FirstByte.whole.inj h⟩
  · repeat' split at h
    all_goals contradiction

/-- The first byte of a longer character is followed by the others. -/
theorem follows_firstByte {b : UInt8} {o : Begun} (h : firstByte b.toNat = .begins o) :
    o.Follows [b] := by
  intro next more hnext hmore hlength
  by_cases htwo : 0xC2 ≤ b.toNat ∧ b.toNat ≤ 0xDF
  · rw [firstByte_of_two htwo.1 htwo.2] at h
    obtain rfl := FirstByte.begins.inj h
    obtain rfl : more = [] := List.length_eq_zero_iff.mp (Nat.succ.inj hlength)
    have hencode := utf8EncodeChar_of_two htwo hnext rfl
    simp only [UInt8.ofNat_toNat] at hencode
    exact hencode
  by_cases hthree : 0xE0 ≤ b.toNat ∧ b.toNat ≤ 0xEF
  · rw [firstByte_of_three hthree.1 hthree.2] at h
    obtain rfl := FirstByte.begins.inj h
    obtain ⟨third, rfl⟩ := List.length_eq_one_iff.mp (Nat.succ.inj hlength)
    have hthird := hmore third List.mem_cons_self
    have hencode := utf8EncodeChar_of_three hthree hnext.1 hnext.2 hthird rfl
    simp only [UInt8.ofNat_toNat] at hencode
    exact hencode
  by_cases hfour : 0xF0 ≤ b.toNat ∧ b.toNat ≤ 0xF4
  · rw [firstByte_of_four hfour.1 hfour.2] at h
    obtain rfl := FirstByte.begins.inj h
    obtain ⟨third, fourth, rfl⟩ : ∃ third fourth, more = [third, fourth] := by
      match more, hlength with
      | [third, fourth], _ => exact ⟨third, fourth, rfl⟩
    have hthird := hmore third List.mem_cons_self
    have hfourth := hmore fourth (List.mem_cons_of_mem _ List.mem_cons_self)
    have hencode := utf8EncodeChar_of_four hfour hnext.1 hnext.2 hthird hfourth rfl
    simp only [UInt8.ofNat_toNat] at hencode
    exact hencode
  · rw [firstByte, if_neg htwo] at h
    split at h
    · contradiction
    rw [if_neg (by omega), if_neg (by omega), if_neg (by omega), if_neg (by omega),
      if_neg (by omega), if_neg (by omega)] at h
    contradiction

/-- A byte that continues a character leaves the others to follow. -/
theorem Begun.Follows.next {owed low high value : Nat} {read : Bytes} {b : UInt8}
    (h : Begun.Follows ⟨owed + 1, low, high, value⟩ read) (hb : low ≤ b.toNat ∧ b.toNat ≤ high) :
    Begun.Follows ⟨owed, 0x80, 0xBF, value * 64 + (b.toNat - 0x80)⟩ (read ++ [b]) := by
  intro next more hnext hmore hlength
  have hall : ∀ b ∈ next :: more, Continues b := List.forall_mem_cons.mpr ⟨hnext, hmore⟩
  have hencode := h b (next :: more) hb hall (congrArg Nat.succ hlength)
  rw [List.foldl_cons] at hencode
  rw [List.append_assoc, List.singleton_append]
  exact hencode

/-! ## The pieces -/

section

variable (done : List (Option Char)) (open? : Option Begun) (b : Nat) (bytes : Bytes)

theorem startPiece_append :
    startPiece b done = ((startPiece b []).1 ++ done, (startPiece b []).2) := by
  rw [startPiece, startPiece]
  cases firstByte b <;> rfl

theorem stepPiece_append :
    stepPiece done open? b = ((stepPiece [] open? b).1 ++ done, (stepPiece [] open? b).2) := by
  cases open? with
  | none => exact startPiece_append done b
  | some o =>
      simp only [stepPiece]
      split
      · split <;> rfl
      · rw [startPiece_append (none :: done), startPiece_append [none]]
        simp

/-- Pieces that have been found come first, and change nothing of the others. -/
theorem piecesFrom_append :
    piecesFrom done open? bytes = done.reverse ++ piecesFrom [] open? bytes := by
  induction bytes generalizing done open? with
  | nil => cases open? <;> simp [piecesFrom]
  | cons b rest ih =>
      simp only [piecesFrom]
      rw [stepPiece_append done, ih, ih (stepPiece [] open? b.toNat).1]
      simp

end

/-- What has been read of a character that is begun; between two characters, nothing. -/
def Reading : Option Begun → Bytes → Prop
  | none, read => read = []
  | some o, read => o.Follows read

/-- What a byte does: it completes a character, or goes on with one, or there is no character. -/
theorem Reading.cases_stepPiece {open? : Option Begun} {read : Bytes} (h : Reading open? read)
    (b : UInt8) :
    (∃ c, stepPiece [] open? b.toNat = ([some c], none) ∧
      String.utf8EncodeChar c = read ++ [b]) ∨
    (∃ o, stepPiece [] open? b.toNat = ([], some o) ∧ o.Follows (read ++ [b])) ∨
    none ∈ (stepPiece [] open? b.toNat).1 := by
  cases open? with
  | none =>
      obtain rfl : read = [] := h
      rw [stepPiece, startPiece]
      cases hfirst : firstByte b.toNat with
      | whole c =>
          refine .inl ⟨c, rfl, ?_⟩
          obtain ⟨hone, rfl⟩ := le_of_firstByte_eq_whole hfirst
          have hval := val_ofNat (n := b.toNat) (by omega)
          simp only [String.utf8EncodeChar, hval, if_pos hone, UInt8.ofNat_toNat, List.nil_append]
      | begins o => exact .inr (.inl ⟨o, rfl, follows_firstByte hfirst⟩)
      | refused => exact .inr (.inr List.mem_cons_self)
  | some o =>
      obtain ⟨owed, low, high, value⟩ := o
      simp only [stepPiece]
      split
      · next hb =>
        obtain _ | _ | owed := owed
        · exact .inr (.inl ⟨_, rfl, fun _ _ _ _ hlength => by contradiction⟩)
        · exact .inl ⟨_, rfl, h b [] hb (List.forall_mem_nil _) rfl⟩
        · exact .inr (.inl ⟨_, rfl, Begun.Follows.next h hb⟩)
      · rw [startPiece_append]
        exact .inr (.inr (List.mem_append_right _ List.mem_cons_self))

/-- Pieces that are all characters are those of the bytes, with what has been read before. -/
theorem append_eq_encode {open? : Option Begun} {read bytes : Bytes} {s : List Char}
    (hread : Reading open? read) (h : piecesFrom [] open? bytes = s.map some) :
    read ++ bytes = encode s := by
  induction bytes generalizing open? read s with
  | nil =>
      cases open? with
      | none =>
          obtain rfl : read = [] := hread
          obtain rfl : s = [] := List.map_eq_nil_iff.mp h.symm
          rfl
      | some o =>
          cases s with
          | nil => contradiction
          | cons c s => cases (List.cons.inj h).1
  | cons b rest ih =>
      rw [piecesFrom] at h
      obtain ⟨c, hstep, hencode⟩ | ⟨o, hstep, hfollows⟩ | hnone := hread.cases_stepPiece b
      · rw [hstep, piecesFrom_append] at h
        cases s with
        | nil => contradiction
        | cons c' s =>
            obtain ⟨hc, hrest⟩ := List.cons.inj h
            obtain rfl := Option.some.inj hc
            have hbytes : rest = encode s := ih (show Reading none [] from rfl) hrest
            rw [encode_cons, hencode, ← hbytes, List.append_assoc, List.singleton_append]
      · rw [hstep] at h
        rw [← ih (show Reading (some o) (read ++ [b]) from hfollows) h, List.append_assoc,
          List.singleton_append]
      · rw [piecesFrom_append] at h
        have hmem : none ∈ s.map some := by
          rw [← h]
          exact List.mem_append_left _ (List.mem_reverse.mpr hnone)
        obtain ⟨c, -, hc⟩ := List.mem_map.mp hmem
        contradiction

/-- Items that are all there. -/
theorem map_some_filterMap_id {α : Type} {items : List (Option α)}
    (h : items.all Option.isSome = true) : (items.filterMap id).map some = items := by
  induction items with
  | nil => rfl
  | cons item items ih =>
      obtain ⟨hitem, hitems⟩ := Bool.and_eq_true_iff.mp h
      obtain ⟨a, rfl⟩ := Option.isSome_iff_exists.mp hitem
      exact congrArg (some a :: ·) (ih hitems)

/-- **Only what was written is read.** -/
theorem decode?_eq_some_iff {bytes : Bytes} {s : List Char} :
    decode? bytes = some s ↔ bytes = encode s := by
  refine ⟨fun h => ?_, fun h => by rw [h, decode?_encode]⟩
  simp only [decode?] at h
  split at h
  · next hall =>
    have hpieces : pieces bytes = s.map some := by
      rw [← Option.some.inj h, map_some_filterMap_id hall]
    exact append_eq_encode (show Reading none [] from rfl) hpieces
  · contradiction

theorem ofBytes?_eq_some_iff {bytes : Bytes} {s : String} :
    ofBytes? bytes = some s ↔ bytes = toBytes s := by
  rw [ofBytes?, toBytes, ← decode?_eq_some_iff, Option.map_eq_some_iff]
  constructor
  · rintro ⟨chars, hchars, rfl⟩
    rw [hchars, String.toList_ofList]
  · exact fun h => ⟨_, h, String.ofList_toList⟩

end AnalysisGateway.Text
