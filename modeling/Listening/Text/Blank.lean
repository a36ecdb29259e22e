/-!
# White space

White space is what separates words: the ASCII blanks, the four separators
of records below the space, and the spaces of Unicode. Texts are stripped of
it at both ends, and runs of it count as one space.
-/

namespace Listening.Text

/-- Whether a character is white space. -/
def isBlank (c : Char) : Bool :=
  let n := c.toNat
  (9 ≤ n && n ≤ 13) || (28 ≤ n && n ≤ 32) || n == 0x85 || n == 0xA0 || n == 0x1680
    || (0x2000 ≤ n && n ≤ 0x200A) || n == 0x2028 || n == 0x2029 || n == 0x202F
    || n == 0x205F || n == 0x3000

/-- A row of characters without those at its two ends that satisfy `p`. -/
def trimBoth (p : Char → Bool) (cs : List Char) : List Char :=
  ((cs.dropWhile p).reverse.dropWhile p).reverse

/-- A text without the white space at its ends. -/
def strip (s : String) : String :=
  .ofList (trimBoth isBlank s.toList)

/-- Whether a text holds nothing but white space. -/
def isBlankText (s : String) : Bool :=
  s.toList.all isBlank

/-- Each run of white space as one space. -/
def collapseBlanks : List Char → List Char
  | [] => []
  | c :: rest =>
    if isBlank c then
      match collapseBlanks rest with
      | ' ' :: more => ' ' :: more
      | more => ' ' :: more
    else c :: collapseBlanks rest

end Listening.Text
