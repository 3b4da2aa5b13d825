import AnalysisGateway.Text.Composition
import AnalysisGateway.Text.Lowercase
import AnalysisGateway.Url.Label
import AnalysisGateway.Url.NameTable
import AnalysisGateway.Url.Punycode

/-!
# Names of hosts

The ASCII form of an international name.

1. Every character is replaced by what it stands for: letters by their lower case, compatibility
   forms by the plain characters, ideographic full stops by points, and characters that only guide
   the layout by nothing. The result is composed.
2. The name is split at its points. A label that begins with `xn--` is decoded, and must be what
   replacing would leave as it is.
3. The characters of every label must be allowed, and the label must follow the rules for labels.
4. A label that is not ASCII is written as `xn--` and its Punycode form.
-/

namespace AnalysisGateway.Url

/-! ## Characters -/

/-- The characters that stand for nothing. -/
def ignoredRanges : List (Nat × Nat) :=
  [(0xAD, 0xAD), (0x34F, 0x34F), (0x115F, 0x1160), (0x17B4, 0x17B5), (0x180B, 0x180F),
   (0x200B, 0x200B), (0x2060, 0x2064), (0x206A, 0x206F), (0x3164, 0x3164), (0xFE00, 0xFE0F),
   (0xFEFF, 0xFEFF), (0xFFA0, 0xFFA0), (0x1BCA0, 0x1BCA3), (0x1D173, 0x1D17A), (0xE0100, 0xE01EF)]

/-- What a character of a name stands for. -/
def mapped (c : Char) : List Char :=
  if c.toNat < 0x80 then [c.toLower]
  else if Text.inRanges ignoredRanges c.toNat then []
  else (replaced.find? c).getD (Text.lowerOf c)

/-- The normal form of a name. -/
def normalName (s : List Char) : List Char := Text.composed (s.flatMap mapped)

/-- The ASCII characters that no name of a host contains, besides controls. -/
def forbiddenInName : List Char :=
  [' ', '#', '%', '/', ':', '<', '>', '?', '@', '[', '\\', ']', '^', '|']

/-- The printable characters beyond ASCII that no name of a host contains: leaders and numbers with
a point, characters that describe others, squared units with points, vertical forms, and
placeholders. -/
def forbiddenRanges : List (Nat × Nat) :=
  [(0x2024, 0x2026), (0x2488, 0x249B), (0x2FF0, 0x2FFF), (0x31EF, 0x31EF), (0x33C2, 0x33C2),
   (0x33C7, 0x33C7), (0x33D8, 0x33D8), (0xFE12, 0xFE12), (0xFE19, 0xFE19), (0xFE30, 0xFE30),
   (0xFE52, 0xFE52), (0xFFFC, 0xFFFD), (0x1F100, 0x1F100)]

/-- The letters of Jurchen, which names may contain. -/
def jurchenRange : Nat × Nat := (0x18E00, 0x191DF)

/-- Whether a mapped character may stand in a name. -/
def allowedInName (c : Char) : Bool :=
  let n := c.toNat
  if n < 0x80 then ' ' < c && c ≤ '~' && !forbiddenInName.contains c
  else if c == nonJoiner || c == joiner || Text.inRanges [jurchenRange] n then true
  else !Text.inRanges forbiddenRanges n && !Text.inRanges Text.unprintableRanges n

/-! ## Labels -/

/-- Whether a text is ASCII. -/
def isAscii (s : List Char) : Bool := s.all (·.toNat < 0x80)

/-- The length up to which a label is encoded. -/
def longestLabel : Nat := 1000

/-- The length up to which a Punycode form is decoded. -/
def longestForm : Nat := 2000

/-- The label of a Punycode form; it is not ASCII, and it is in its normal form. -/
def readForm (form : List Char) : Option (List Char) :=
  if isAscii form ∧ form.length ≤ longestForm then
    (Punycode.decode form).filter fun label =>
      !isAscii label && normalName label == label && Punycode.encode label == form
  else none

/-- The label that a part of a name stands for. -/
def readLabel : List Char → Option (List Char)
  | 'x' :: 'n' :: '-' :: '-' :: form => readForm form
  | label => some label

/-- Whether a label by itself may stand in a name. -/
def isLabel (label : List Char) : Bool :=
  label.all allowedInName && beginsWell label && joinersFit [] label
    && (isAscii label || label.length ≤ longestLabel)

/-- Whether the labels of a name may stand together. -/
def labelsAgree (labels : List (List Char)) : Bool :=
  !labels.any (·.any runsRightToLeft) || labels.all isDirected

/-- The ASCII form of a label. -/
def asciiLabel (label : List Char) : List Char :=
  if isAscii label then label else ['x', 'n', '-', '-'] ++ Punycode.encode label

/-- The ASCII form of a name. -/
def asciiName (name : List Char) : Option (List Char) := do
  let labels ← (Text.split '.' (normalName name)).mapM readLabel
  if labels.all isLabel && labelsAgree labels then
    return ['.'].intercalate (labels.map asciiLabel)
  else none

end AnalysisGateway.Url
