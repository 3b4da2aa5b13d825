import Mathlib.Algebra.Group.Nat.Defs
import AnalysisGateway.Json.Value

/-!
# The spellings of JSON values

What a value may look like, without a word about reading. A value has many spellings:

1. white space may stand before and after each element, key and value;
2. a character stands for itself, unless it is a quote, a backslash or below U+0020; some have a
   short escape, and every one has the escape of its UTF-16 units, in either case of the digits;
3. integers are in decimal and without leading zeros, within 64 bits;
4. the members of an object stand in their order, and names may repeat.

`Spells depth` is the relation for values with at most `depth` levels of lists and objects. Each
level is `SpellsOver` applied to the one below it, so it is an induction on the depth that reaches
all of a value.
-/

namespace AnalysisGateway.Json

/-! ## White space -/

/-- Only white space. -/
def Blanks (s : List Char) : Prop := ∀ c ∈ s, c ∈ [' ', '\t', '\n', '\r']

theorem blanks_nil : Blanks [] := fun _ h => nomatch h

/-! ## Texts -/

/-- A hexadecimal digit of either case. -/
def IsHexDigit (n : Nat) (c : Char) : Prop :=
  n < 16 ∧ (c = Nat.digitChar n ∨ c = (Nat.digitChar n).toUpper)

/-- The four digits of a UTF-16 unit. -/
inductive SpellsUnit (n : Nat) : List Char → Prop where
  | digits {a b c d : Char} (ha : IsHexDigit (n / 0x1000) a) (hb : IsHexDigit (n / 0x100 % 0x10) b)
      (hc : IsHexDigit (n / 0x10 % 0x10) c) (hd : IsHexDigit (n % 0x10) d) :
      SpellsUnit n [a, b, c, d]

/-- The letters of the short escapes, with the characters that they stand for. -/
def shortEscapes : List (Char × Char) :=
  [('"', '"'), ('\\', '\\'), ('/', '/'), ('b', '\x08'), ('f', '\x0c'), ('n', '\n'), ('r', '\r'),
   ('t', '\t')]

/-- The spellings of a character. -/
inductive SpellsChar (c : Char) : List Char → Prop where
  | plain (hcontrol : 0x20 ≤ c.toNat) (hquote : c ≠ '"') (hescape : c ≠ '\\') : SpellsChar c [c]
  | short {letter : Char} (h : (letter, c) ∈ shortEscapes) : SpellsChar c ['\\', letter]
  | unit {quad : List Char} (h : SpellsUnit c.toNat quad) : SpellsChar c ('\\' :: 'u' :: quad)
  | pair {first second : List Char} (h : 0x10000 ≤ c.toNat)
      (hfirst : SpellsUnit (0xD800 + (c.toNat - 0x10000) / 0x400) first)
      (hsecond : SpellsUnit (0xDC00 + (c.toNat - 0x10000) % 0x400) second) :
      SpellsChar c ('\\' :: 'u' :: first ++ '\\' :: 'u' :: second)

/-- The spellings of a text, without its quotes. -/
inductive SpellsChars : List Char → List Char → Prop where
  | nil : SpellsChars [] []
  | cons {c : Char} {text piece rest : List Char} (hc : SpellsChar c piece)
      (h : SpellsChars text rest) : SpellsChars (c :: text) (piece ++ rest)

/-- The spellings of a text. -/
inductive SpellsText (text : String) : List Char → Prop where
  | quoted {inner : List Char} (h : SpellsChars text.toList inner) :
      SpellsText text ('"' :: inner ++ ['"'])

/-! ## Scalars -/

/-- The spellings of an integer of 64 bits. A zero with a sign is a double. -/
inductive SpellsNumber : Number → List Char → Prop where
  | natural {n : Nat} (h : n < 2 ^ 64) : SpellsNumber (.natural n) (Nat.toDigits 10 n)
  | negative {n : Nat} (hpos : 0 < n) (h : n ≤ 2 ^ 63) :
      SpellsNumber (.negative n) ('-' :: Nat.toDigits 10 n)
  | minusZero : SpellsNumber (.real (2 ^ 63)) ['-', '0']

/-- The spellings of a value that is neither a list nor an object. -/
inductive SpellsScalar : Value → List Char → Prop where
  | null : SpellsScalar .null ['n', 'u', 'l', 'l']
  | no : SpellsScalar (.boolean false) ['f', 'a', 'l', 's', 'e']
  | yes : SpellsScalar (.boolean true) ['t', 'r', 'u', 'e']
  | number {n : Number} {s : List Char} (h : SpellsNumber n s) : SpellsScalar (.number n) s
  | text {t : String} {s : List Char} (h : SpellsText t s) : SpellsScalar (.text t) s

/-! ## Elements and members -/

section

variable {α : Type} (item : α → List Char → Prop)

/-- What follows an element: further ones, each after a comma. -/
inductive Further : List α → List Char → Prop where
  | done {blanks : List Char} (h : Blanks blanks) : Further [] blanks
  | next {before after s rest : List Char} {a : α} {items : List α} (hbefore : Blanks before)
      (hafter : Blanks after) (ha : item a s) (h : Further items rest) :
      Further (a :: items) (before ++ ',' :: (after ++ s ++ rest))

/-- What stands between brackets: nothing, or elements with commas between them. -/
inductive Elements : List α → List Char → Prop where
  | none {blanks : List Char} (h : Blanks blanks) : Elements [] blanks
  | some {blanks s rest : List Char} {a : α} {items : List α} (hblanks : Blanks blanks)
      (ha : item a s) (h : Further item items rest) : Elements (a :: items) (blanks ++ s ++ rest)

/-- The spellings of a name with what is bound to it. -/
inductive SpellsMember : String × α → List Char → Prop where
  | bound {name : String} {key before after s : List Char} {a : α} (hkey : SpellsText name key)
      (hbefore : Blanks before) (hafter : Blanks after) (ha : item a s) :
      SpellsMember (name, a) (key ++ before ++ ':' :: (after ++ s))

end

/-! ## Values -/

/-- The spellings of a value whose elements and members are spelled by `part`. -/
inductive SpellsOver (part : Value → List Char → Prop) : Value → List Char → Prop where
  | scalar {v : Value} {s : List Char} (h : SpellsScalar v s) : SpellsOver part v s
  | list {items : List Value} {inner : List Char} (h : Elements part items inner) :
      SpellsOver part (.list items) ('[' :: inner ++ [']'])
  | object {members : List (String × Value)} {inner : List Char}
      (h : Elements (SpellsMember part) members inner) :
      SpellsOver part (.object members) ('\x7b' :: inner ++ ['\x7d'])

/-- The spellings of a value with at most `depth` levels of lists and objects. -/
def Spells : (depth : Nat) → Value → List Char → Prop
  | 0 => SpellsScalar
  | depth + 1 => SpellsOver (Spells depth)

/-- A scalar may stand at any depth. -/
theorem SpellsScalar.spells {v : Value} {s : List Char} (h : SpellsScalar v s) (depth : Nat) :
    Spells depth v s := by
  cases depth with
  | zero => exact h
  | succ depth => exact .scalar h

end AnalysisGateway.Json
