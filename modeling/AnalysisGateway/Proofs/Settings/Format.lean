import AnalysisGateway.Format
import AnalysisGateway.Proofs.Text.Lowercase

/-!
# Names of formats

Which texts name a format, said without trimming and without lower case: a format has two or three
words in ASCII letters of either case, and the Kelvin sign may stand in place of a `k` (`Names`).
Reading accepts exactly these texts with blanks around them (`read_eq_ok_iff`). So neither the
blanks nor the case of ASCII letters are of importance, not even for the wording of a fault.
-/

namespace AnalysisGateway.Format

/-- A text names a format. `Char.toLower` changes the letters A to Z only. -/
inductive Names : List Char → Format → Prop where
  | json {t : List Char} (h : t.map Char.toLower = "json".toList) : Names t .json
  | short {t : List Char} (h : t.map Char.toLower = "md".toList) : Names t .markdown
  | long {t : List Char} (h : t.map Char.toLower = "markdown".toList) : Names t .markdown
  /-- The Kelvin sign stands in place of the `k`. -/
  | kelvin {mar down : List Char} (hmar : mar.map Char.toLower = "mar".toList)
      (hdown : down.map Char.toLower = "down".toList) : Names (mar ++ '\u212a' :: down) .markdown

variable {f : Format} {s : String} {t word : List Char}

/-! ## Words -/

/-- **A text names a format exactly if its lower case is a word of the format.** -/
theorem names_iff : Names t f ↔ (Text.lowercase t, f) ∈ byWord := by
  have hword {word : List Char} (hascii : ∀ w ∈ word, w.toNat < 0x80) (hk : 'k' ∉ word) :
      Text.lowercase t = word ↔ t.map Char.toLower = word :=
    (Text.lowercase_eq_iff hascii).trans (Text.forall₂_lowersTo_iff hk)
  have hjson : Text.lowercase t = "json".toList ↔ t.map Char.toLower = "json".toList :=
    hword (by simp) (by decide)
  have hmd : Text.lowercase t = "md".toList ↔ t.map Char.toLower = "md".toList :=
    hword (by simp) (by decide)
  have hmarkdown : Text.lowercase t = "markdown".toList ↔
      t.map Char.toLower = "markdown".toList ∨
        ∃ mar down, t = mar ++ '\u212a' :: down ∧ mar.map Char.toLower = "mar".toList ∧
          down.map Char.toLower = "down".toList :=
    (Text.lowercase_eq_iff (by simp)).trans
      (Text.forall₂_lowersTo_append_iff (by decide : 'k' ∉ "mar".toList) (by decide))
  simp only [byWord, List.mem_cons, List.not_mem_nil, or_false, Prod.mk.injEq, hjson, hmd,
    hmarkdown]
  constructor
  · intro h
    cases h with
    | json h => exact .inr (.inr ⟨h, rfl⟩)
    | short h => exact .inr (.inl ⟨h, rfl⟩)
    | long h => exact .inl ⟨.inl h, rfl⟩
    | kelvin hmar hdown => exact .inl ⟨.inr ⟨_, _, rfl, hmar, hdown⟩, rfl⟩
  · rintro (⟨h | ⟨mar, down, rfl, hmar, hdown⟩, rfl⟩ | ⟨h, rfl⟩ | ⟨h, rfl⟩)
    · exact .long h
    · exact .kelvin hmar hdown
    · exact .short h
    · exact .json h

/-- A text that names a format has ASCII characters only, but for the Kelvin sign in the long word
of Markdown. -/
theorem Names.ascii_or_kelvin (h : Names t f) :
    ∀ c ∈ t, c.toNat < 0x80 ∨ c = '\u212a' ∧ f = .markdown := by
  have hascii {t word : List Char} (ht : t.map Char.toLower = word)
      (hword : ∀ w ∈ word, w.toNat < 0x80) : ∀ c ∈ t, c.toNat < 0x80 := fun c hc =>
    Text.toNat_toLower_lt_iff.mp (hword _ (ht ▸ List.mem_map_of_mem hc))
  cases h with
  | json h => exact fun c hc => .inl (hascii h (by simp) c hc)
  | short h => exact fun c hc => .inl (hascii h (by simp) c hc)
  | long h => exact fun c hc => .inl (hascii h (by simp) c hc)
  | kelvin hmar hdown =>
      intro c hc
      obtain hc | hc := List.mem_append.mp hc
      · exact .inl (hascii hmar (by simp) c hc)
      obtain rfl | hc := List.mem_cons.mp hc
      · exact .inr ⟨rfl, rfl⟩
      · exact .inl (hascii hdown (by simp) c hc)

/-! ## Reading -/

/-- A format is read if the lower case of the trimmed text is a word of it. -/
theorem read_eq_ok_iff :
    read s = .ok f ↔ (Text.lowercase (Text.trim s.toList), f) ∈ byWord := by
  have hone : ∀ p ∈ byWord, ∀ q ∈ byWord, p.1 = q.1 → p.2 = q.2 := by decide
  rw [read]
  generalize Text.lowercase (Text.trim s.toList) = word
  split
  · next w g hfind =>
    obtain rfl : w = word := by simpa using List.find?_some hfind
    have hmem := List.mem_of_find?_eq_some hfind
    refine ⟨fun h => Except.ok.inj h ▸ hmem, fun h => ?_⟩
    obtain rfl : g = f := hone _ hmem _ h rfl
    rfl
  · next hfind =>
    refine ⟨nofun, fun h => ?_⟩
    exact absurd (List.find?_eq_none.mp hfind _ h) (by simp)

/-- A text that is not read is quoted without the blanks around it, in lower case. -/
theorem eq_of_read_eq_error {u : Unknown} (h : read s = .error u) :
    u.word = String.ofList (Text.lowercase (Text.trim s.toList)) := by
  rw [read] at h
  split at h
  · contradiction
  · rw [← Except.error.inj h]

/-- Texts with the same letters between the blanks around them are read alike. -/
theorem read_congr {s' : String}
    (h : (Text.trim s'.toList).map Char.toLower = (Text.trim s.toList).map Char.toLower) :
    read s' = read s := by
  rw [read, read, ← Text.lowercase_map_toLower (Text.trim s'.toList), h,
    Text.lowercase_map_toLower]

/-- **A format is read from exactly the texts that name it**, with any blanks around them.

1. The name may be in letters of either case.
2. No character of it is beyond ASCII, but for the Kelvin sign in place of the `k` of Markdown's
   long word, whose lower case is that `k`.
3. Any other text is quoted in the fault, without the blanks around it and in lower case.
4. Further blanks around a text do not change what is read, nor does the case of its ASCII letters;
   a fault stays the same as well.
5. The name of each format is read back as the format. -/
theorem read_names (s : String) :
    (∀ f, read s = .ok f ↔ ∃ t, Text.Strips s.toList t ∧ Names t f) ∧
    (∀ f t, Text.Strips s.toList t → Names t f →
      ∀ c ∈ t, c.toNat < 0x80 ∨ c = '\u212a' ∧ f = .markdown) ∧
    Text.lowercase ['\u212a'] = ['k'] ∧
    (∀ t, Text.Strips s.toList t → (∀ f, ¬ Names t f) →
      ∃ u, read s = .error u ∧ u.message = "unknown analysis format '" ++
        String.ofList (Text.lowercase t) ++ "', expected 'markdown' or 'json'") ∧
    (∀ before after : String, Text.AllBlank before.toList → Text.AllBlank after.toList →
      read (before ++ s ++ after) = read s) ∧
    (∀ s' : String, s'.toList.map Char.toLower = s.toList.map Char.toLower → read s' = read s) ∧
    ∀ f : Format, read f.name = .ok f := by
  have hread (f : Format) : read s = .ok f ↔ ∃ t, Text.Strips s.toList t ∧ Names t f := by
    simp only [Text.strips_iff, exists_eq_left', names_iff, read_eq_ok_iff]
  refine ⟨hread, fun f t _ h => h.ascii_or_kelvin, by decide, ?_, ?_, ?_, ?_⟩
  · intro t hstrips hnone
    cases hs : read s with
    | ok f =>
        obtain ⟨t', hstrips', hnames⟩ := (hread f).mp hs
        obtain rfl : t = t' := (Text.strips_iff.mp hstrips).symm.trans (Text.strips_iff.mp hstrips')
        exact absurd hnames (hnone f)
    | error u =>
        have hword : u.word = String.ofList (Text.lowercase t) := by
          rw [eq_of_read_eq_error hs, Text.strips_iff.mp hstrips]
        exact ⟨u, rfl, by rw [← hword]; rfl⟩
  · intro before after hbefore hafter
    refine read_congr ?_
    rw [String.toList_append, String.toList_append, Text.trim_append hbefore hafter]
  · intro s' hsame
    refine read_congr ?_
    rw [← Text.trim_map_toLower, hsame, Text.trim_map_toLower]
  · intro f
    rw [read_eq_ok_iff, ← names_iff]
    cases f with
    | markdown => exact .long (by decide)
    | json => exact .json (by decide)

/-- The Kelvin sign among capitals and small letters, with blanks around them, is read as the `k`; a
dotted capital I is no letter of a format, and leaves two characters in the fault. -/
theorem read_names_kelvin :
    read "MAR\u212adown" = .ok .markdown ∧
    (∀ c ∈ "MAR\u212adown".toList, c.toNat < 0x80 ∨ c = '\u212a') ∧
    read ("\u3000" ++ "MAR\u212adown" ++ "\n") = read "MAR\u212adown" ∧
    read "mar\u212aDOWN" = read "MAR\u212adown" ∧
    ∃ u, read "\u0130ML" = .error u ∧ u.message = "unknown analysis format '" ++
      String.ofList (Text.lowercase "\u0130ML".toList) ++ "', expected 'markdown' or 'json'" := by
  obtain ⟨hread, hascii, -, -, hblank, hcase, -⟩ := read_names "MAR\u212adown"
  have hstrips : Text.Strips "MAR\u212adown".toList "MAR\u212adown".toList :=
    Text.strips_iff.mpr (by decide)
  have hnames : Names "MAR\u212adown".toList .markdown :=
    .kelvin (by decide : "MAR".toList.map Char.toLower = _) (by decide)
  have hwide : Text.AllBlank "\u3000".toList := by simp [Text.AllBlank]; decide
  have hline : Text.AllBlank "\n".toList := by simp [Text.AllBlank]; decide
  have hnone : ∀ f, ¬ Names "\u0130ML".toList f := by
    intro f
    rw [names_iff]
    cases f <;> decide +kernel
  exact ⟨(hread _).mpr ⟨_, hstrips, hnames⟩,
    fun c hc => (hascii _ _ hstrips hnames c hc).imp_right And.left,
    hblank _ _ hwide hline, hcase _ (by decide),
    (read_names "\u0130ML").2.2.2.1 _ (Text.strips_iff.mpr (by decide)) hnone⟩

end AnalysisGateway.Format
