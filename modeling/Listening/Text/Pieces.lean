/-!
# Pieces of a text

A text falls into pieces at each separator: one piece more than there are
separators, some of them perhaps empty. `contains` tells whether one row of
characters stands somewhere inside another.
-/

namespace Listening.Text

/-- **The pieces of a row of characters** between separators. -/
def pieces (separator : Char) : List Char → List (List Char)
  | [] => [[]]
  | c :: rest =>
    if c = separator then [] :: pieces separator rest
    else
      match pieces separator rest with
      | piece :: more => (c :: piece) :: more
      | [] => [[c]]

/-- Whether `needle` stands somewhere inside a row of characters. -/
def contains (needle : List Char) : List Char → Bool
  | [] => needle.isEmpty
  | c :: rest => needle.isPrefixOf (c :: rest) || contains needle rest

end Listening.Text
