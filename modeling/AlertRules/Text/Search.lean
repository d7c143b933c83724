/-!
# Finding and splitting

Whether a text occurs in another, and the segments of a text between the occurrences of a
character.
-/

namespace AlertRules.Text

/-- Whether a list occurs in another without gaps. -/
def isInfix (short : List Char) : List Char → Bool
  | [] => short.isEmpty
  | c :: rest => short.isPrefixOf (c :: rest) || isInfix short rest

/-- Whether the first text occurs in the second. -/
def occursIn (short long : String) : Bool := isInfix short.toList long.toList

/-- The segments between the occurrences of a character; there is always one more than there are
occurrences. -/
def splitChars (separator : Char) : List Char → List (List Char)
  | [] => [[]]
  | c :: rest =>
    if c = separator then [] :: splitChars separator rest
    else
      match splitChars separator rest with
      | [] => [[c]]
      | segment :: others => (c :: segment) :: others

/-- The segments of a text between the occurrences of a character. -/
def split (separator : Char) (s : String) : List String :=
  (splitChars separator s.toList).map String.ofList

end AlertRules.Text
