/-!
# Blank characters and trimming

A character is blank when Unicode gives it the property White_Space. Icon names and the names of
font styles are trimmed of blanks at both ends.
-/

namespace IconSubset.Text

/-- Whether a character is white space. -/
def isBlank (c : Char) : Bool :=
  ('\t' ≤ c && c ≤ '\r') || c == ' ' || c == '\u0085' || c == '\u00a0' || c == '\u1680' ||
    ('\u2000' ≤ c && c ≤ '\u200a') || c == '\u2028' || c == '\u2029' || c == '\u202f' ||
    c == '\u205f' || c == '\u3000'

/-- The characters without blanks at the end. -/
def trimEnd (cs : List Char) : List Char := (cs.reverse.dropWhile isBlank).reverse

/-- The characters without blanks at both ends. -/
def trimChars (cs : List Char) : List Char := trimEnd (cs.dropWhile isBlank)

/-- The text without blanks at both ends. -/
def trim (s : String) : String := String.ofList (trimChars s.toList)

/-- Whether a text has blanks only. -/
def isBlankText (s : String) : Bool := s.toList.all isBlank

/-- Whether the second list of characters occurs in the first. -/
def occursIn (cs needle : List Char) : Bool :=
  needle.isPrefixOf cs ||
    match cs with
    | [] => false
    | _ :: rest => occursIn rest needle

/-- Whether the second text occurs in the first. -/
def contains (s needle : String) : Bool := occursIn s.toList needle.toList

/-- The ASCII letters of a text in lower case. -/
def lowerAscii (s : String) : String := String.ofList (s.toList.map Char.toLower)

/-- The ASCII letters of a text in upper case. -/
def upperAscii (s : String) : String := String.ofList (s.toList.map Char.toUpper)

end IconSubset.Text
