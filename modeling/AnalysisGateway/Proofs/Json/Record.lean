import Mathlib.Algebra.Group.Nat.Defs
import Mathlib.Data.List.Forall2
import AnalysisGateway.Proofs.Json.Stands

/-!
# Reading values of fixed shapes

What the readers of fixed shapes make of a value, whatever its spelling: `Accepts read depth v a`
says that every spelling of `v` is read as `a`. Each combinator of readers has its lemma, from the
lemmas for its parts. For a record that is written as an object, the members lead from the blank
record to the complete one, each by the field of its name; their order is free as long as the steps
allow it. Members of other names lead nowhere, so an object that has no field is no record.
-/

namespace AnalysisGateway.Json

variable {α : Type} {depth : Nat}

/-- Every spelling of the value is read as `a`. -/
def Accepts (read : Reader α) (depth : Nat) (v : Value) (a : α) : Prop :=
  ∀ s, Spells depth v s → Reads read a (Text.encode s)

/-- A value alone, with white space around it, is a whole text. -/
theorem Accepts.readWhole_eq {read : Reader α} {v : Value} {a : α} (h : Accepts read depth v a)
    {before s after : List Char} (hbefore : Blanks before) (hs : Spells depth v s)
    (hafter : Blanks after) : readWhole read (Text.encode (before ++ s ++ after)) = .ok a := by
  rw [Text.encode_append, Text.encode_append, List.append_assoc]
  exact (h s hs).readWhole_eq hbefore.encode hafter.encode

theorem Accepts.readWhole_encode {read : Reader α} {v : Value} {a : α} (h : Accepts read depth v a)
    {s : List Char} (hs : Spells depth v s) : readWhole read (Text.encode s) = .ok a := by
  simpa using h.readWhole_eq blanks_nil hs blanks_nil

/-- The reader of plain values accepts each of them. -/
theorem accepts_readValue (v : Value) : Accepts (readValue depth) depth v v :=
  fun _ h => reads_of_spells h

/-! ## Scalars -/

/-- Where a scalar is spelled, it is spelled at any depth. -/
theorem Spells.scalar {v : Value} {s : List Char} (h : Spells depth v s)
    (hlist : ∀ items, v ≠ .list items) (hobject : ∀ members, v ≠ .object members) :
    SpellsScalar v s := by
  cases depth with
  | zero => exact h
  | succ depth =>
      cases h with
      | scalar h => exact h
      | list h => exact absurd rfl (hlist _)
      | object h => exact absurd rfl (hobject _)

theorem Spells.text {t : String} {s : List Char} (h : Spells depth (.text t) s) :
    SpellsText t s := by
  cases h.scalar (by simp) (by simp) with
  | text h => exact h

theorem accepts_readText (t : String) : Accepts readText depth (.text t) t :=
  fun _ h => reads_readText h.text

/-- A natural number below the bound of its kind. -/
theorem accepts_readNatural {width n : Nat} (kind : String) (h : n < 2 ^ width) :
    Accepts (readNatural width kind) depth (.number (.natural n)) n := by
  intro s hs
  cases hs.scalar (by simp) (by simp) with
  | number hs =>
      cases hs with
      | natural hfits =>
          obtain ⟨b, tail, hs, hdigit, hread⟩ := Number.exists_read_natural hfits
          have hblank := isBlankByte_of_isDigit hdigit
          rw [hs]
          refine ⟨⟨_, _, rfl, hblank, ne_of_isDigit hdigit rfl⟩,
            fun {blanks rest} hblanks hrest => ?_⟩
          rw [List.cons_append, readNatural, readNumber, skipBlank_append hblanks hblank]
          simp only
          rw [if_neg (ne_of_isDigit hdigit rfl), if_pos hdigit, hread rest hrest]
          simp only [Nat.pow_eq, if_pos h]

/-- A word of a choice. -/
theorem accepts_readChoice {choices : List (String × α)} {word : String} {a : α}
    (h : choices.find? (·.1 == word) = some (word, a)) :
    Accepts (readChoice choices) depth (.text word) a := by
  intro s hs
  obtain @⟨inner, hinner⟩ := hs.text
  have hs := encode_quoted inner
  refine ⟨⟨_, _, hs, rfl, by decide⟩, fun {blanks rest} hblanks hrest => ?_⟩
  have htext := readTextTail_of_spellsChars hinner rest
  rw [hs, List.cons_append, readChoice, skipBlank_append hblanks rfl]
  simp only [List.append_assoc, List.singleton_append, readVariant, htext, h]

/-- No spelling but that of null begins like null. -/
theorem Spells.ne_of_ne_null {v : Value} {s : List Char} (h : Spells depth v s) (hnull : v ≠ .null)
    {b : UInt8} {tail : Bytes} (hs : Text.encode s = b :: tail) : b ≠ 0x6E := by
  have hscalar : SpellsScalar v s → b ≠ 0x6E := by
    intro h
    cases h with
    | null => contradiction
    | no => rw [← (List.cons.inj hs).1]; decide
    | yes => rw [← (List.cons.inj hs).1]; decide
    | text h => cases h; rw [← (List.cons.inj hs).1]; decide
    | number h =>
        cases h with
        | natural hfits =>
            obtain ⟨c, tail', hs', hdigit, -⟩ := Number.exists_read_natural hfits
            rw [hs'] at hs
            rw [← (List.cons.inj hs).1]
            exact ne_of_isDigit hdigit rfl
        | negative => rw [← (List.cons.inj hs).1]; decide
        | minusZero => rw [← (List.cons.inj hs).1]; decide
  cases depth with
  | zero => exact hscalar h
  | succ depth =>
      cases h with
      | scalar h => exact hscalar h
      | list h => rw [← (List.cons.inj hs).1]; decide
      | object h => rw [← (List.cons.inj hs).1]; decide

/-- Where null may stand for nothing, any other value is read as before. -/
theorem accepts_readOptional {read : Reader α} {v : Value} {a : α} (h : Accepts read depth v a)
    (hnull : v ≠ .null) : Accepts (readOptional read) depth v (some a) := by
  intro s hs
  have hreads := h s hs
  obtain ⟨b, tail, hcons, hblank, hclose⟩ := hreads.begins
  have hne : b ≠ 0x6E := hs.ne_of_ne_null hnull hcons
  refine ⟨hreads.begins, fun {blanks rest} hblanks hrest => ?_⟩
  have hread := hreads.read_append hrest
  rw [hcons, List.cons_append] at hread ⊢
  rw [readOptional, skipBlank_append hblanks hblank]
  split
  · next heq => exact absurd (List.cons.inj heq).1 hne
  · rw [hread]
    rfl

/-! ## Lists -/

section

variable {β : Type} {item : β → List Char → Prop} {item' : α → List Char → Prop}
  {related : β → α → Prop} {inner : List Char} {items : List β} {results : List α}

/-- Elements of which each is related to another thing that its spelling spells as well. -/
theorem Further.of_forall₂ (hitem : ∀ b a s, related b a → item b s → item' a s)
    (h : Further item items inner) (hall : List.Forall₂ related items results) :
    Further item' results inner := by
  induction h generalizing results with
  | done hblanks =>
      cases hall
      exact .done hblanks
  | next hbefore hafter hb _ ih =>
      cases hall with
      | cons hrelated hall => exact .next hbefore hafter (hitem _ _ _ hrelated hb) (ih hall)

theorem Elements.of_forall₂ (hitem : ∀ b a s, related b a → item b s → item' a s)
    (h : Elements item items inner) (hall : List.Forall₂ related items results) :
    Elements item' results inner := by
  cases h with
  | none hblanks =>
      cases hall
      exact .none hblanks
  | some hblanks hb h =>
      cases hall with
      | cons hrelated hall =>
          exact .some hblanks (hitem _ _ _ hrelated hb) (h.of_forall₂ hitem hall)

end

/-- A list whose elements are accepted. -/
theorem accepts_readList {read : Reader α} {items : List Value} {results : List α}
    (h : List.Forall₂ (Accepts read depth) items results) :
    Accepts (readList read) (depth + 1) (.list items) results := by
  intro s hs
  cases hs with
  | scalar h => cases h
  | list hitems =>
      have hreads := hitems.of_forall₂ (fun _ _ _ haccepts hs => haccepts _ hs) h
      exact reads_readList (fun h => h) hreads

/-- Every value is passed over. -/
theorem accepts_skipValue (v : Value) : Accepts skipValue depth v () := by
  intro s hs
  have hreads := reads_of_spells hs
  refine ⟨hreads.begins, fun {blanks rest} hblanks hrest => ?_⟩
  have hstands := (readsItems_readValue depth).sound (hreads.read_eq hblanks hrest)
  exact (skipValue_eq_ok_iff hrest).mpr ((readsItems_readValue depth).valueForm hstands)

/-! ## Records -/

/-- A field stores what its reader gives. -/
theorem accepts_field {β σ : Type} {name : String} {read : Reader β} {get : σ → Option β}
    {set : β → σ → σ} {v : Value} {b : β} (h : Accepts read depth v b) :
    Accepts (field name read get set).read depth v (set b) :=
  fun s hs => (h s hs).map set

namespace Record

variable {σ : Type} (r : Record σ α)

/-- A member of a record, taken by a field that has not been read. -/
def Step (depth : Nat) (state : σ) (m : String × Value) (next : σ) : Prop :=
  ∃ f set, r.fields.find? (·.name == m.1) = some f ∧ f.filled state = false ∧
    Accepts f.read depth m.2 set ∧ next = set state

theorem takesMembers (depth : Nat) :
    TakesMembers (Spells depth) r.member (r.Step depth) := by
  rintro name v s state next hs ⟨f, set, hfind, hempty, haccepts, rfl⟩
    before after rest hbefore hafter hrest
  rw [member, hfind]
  simp only [hempty, Bool.false_eq_true, if_false]
  rw [readMemberValue_append (haccepts s hs) name hbefore hafter hrest]
  rfl

variable {r}

/-- **A record is read from an object whose members lead to it.** -/
theorem accepts_object {members : List (String × Value)} {final : σ} {a : α}
    (hleads : Leads (r.Step depth) r.blank members final) (hfinish : r.finish final = .ok a) :
    Accepts r.read (depth + 1) (.object members) a := by
  intro s hs
  cases hs with
  | scalar h => cases h
  | @object _ inner h =>
      have hs := encode_braced inner
      refine ⟨⟨_, _, hs, rfl, by decide⟩, fun {blanks rest} hblanks hrest => ?_⟩
      have hmembers := readMembers_of_elements (r.takesMembers depth) h hleads rest
      rw [hs, List.cons_append, read, skipBlank_append hblanks rfl]
      simp only [List.append_assoc, List.singleton_append, hmembers, complete, hfinish]

/-! ## Members that are passed over -/

variable (r) in
/-- A member of a name that no field has: it changes nothing. -/
def Passes (state : σ) (m : String × Value) (next : σ) : Prop :=
  (∀ f ∈ r.fields, f.name ≠ m.1) ∧ next = state

variable (r) in
theorem takesMembers_passes (depth : Nat) :
    TakesMembers (Spells depth) r.member r.Passes := by
  rintro name v s state next hs ⟨hnames, rfl⟩ before after rest hbefore hafter hrest
  have hfind : r.fields.find? (·.name == name) = none := by
    rw [List.find?_eq_none]
    exact fun f hf hname => hnames f hf (beq_iff_eq.mp hname)
  rw [member, hfind, readMemberValue_append (accepts_skipValue v s hs) name hbefore hafter hrest]
  rfl

theorem leads_passes {members : List (String × Value)}
    (h : ∀ m ∈ members, ∀ f ∈ r.fields, f.name ≠ m.1) (state : σ) :
    Leads r.Passes state members state := by
  induction members with
  | nil => exact .nil state
  | cons m members ih =>
      obtain ⟨hm, hmembers⟩ := List.forall_mem_cons.mp h
      exact .cons ⟨hm, rfl⟩ (ih hmembers)

/-- **An object without any field is no record**, whatever its members are: the first field that
must be there is missing. -/
theorem exists_readWhole_eq_missing {members : List (String × Value)} {name : String}
    (h : ∀ m ∈ members, ∀ f ∈ r.fields, f.name ≠ m.1) (hfinish : r.finish r.blank = .error name)
    {s : List Char} (hs : Spells (depth + 1) (.object members) s) :
    ∃ rest, readWhole r.read (Text.encode s) = .error (.here (.missingField name) rest) := by
  cases hs with
  | scalar h => cases h
  | @object _ inner hmembers =>
      have hread := readMembers_of_elements (r.takesMembers_passes depth) hmembers
        (leads_passes h r.blank) []
      refine ⟨[], ?_⟩
      rw [readWhole, read, encode_braced, (Spaced.refl _).skipBlank_eq rfl]
      simp only [hread, complete, hfinish]

end Record

end AnalysisGateway.Json
