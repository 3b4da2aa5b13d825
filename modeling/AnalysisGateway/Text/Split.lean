/-!
# Parts of a text

A text split at a separator. There is one part more than there are separators, so a text is always
the parts with the separator between them.
-/

namespace AnalysisGateway.Text

/-- The parts between the characters of a class, after the characters `part`, latest first. -/
def splitAfter (isSeparator : Char → Bool) (part : List Char) : List Char → List (List Char)
  | [] => [part.reverse]
  | c :: rest =>
    if isSeparator c then part.reverse :: splitAfter isSeparator [] rest
    else splitAfter isSeparator (c :: part) rest

/-- The parts between the characters of a class. -/
def splitBy (isSeparator : Char → Bool) (s : List Char) : List (List Char) :=
  splitAfter isSeparator [] s

/-- The parts between the occurrences of a character. -/
def split (separator : Char) (s : List Char) : List (List Char) := splitBy (· == separator) s

/-- The text before the first occurrence of a character, and the text after it if it occurs. -/
def cut (separator : Char) (s : List Char) : List Char × Option (List Char) :=
  match s.dropWhile (· != separator) with
  | [] => (s, none)
  | _ :: after => (s.takeWhile (· != separator), some after)

end AnalysisGateway.Text
