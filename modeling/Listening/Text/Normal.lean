import Listening.Text.Blank
import Listening.Text.Case
import Listening.Text.Decomposition
import Listening.Text.Mark
import Listening.Text.Word

/-!
# The normal form of a title

Sources disagree on how a title is spelled: case, accents, spacing, a
bracket or a full stop at the end. Two titles name the same thing when
their normal forms are equal. The normal form is reached in four steps:

* take every character apart and drop the marks;
* forget case;
* let every run of white space be one space, and strip the ends;
* strip what is no word character from both ends.
-/

namespace Listening.Text

/-- The letters of a text, without marks and without case. -/
def plainLetters (cs : List Char) : List Char :=
  ((cs.flatMap decompose).filter fun c => !isMark c).flatMap foldCase

/-- **The normal form of a text.** -/
def normalize (s : String) : String :=
  .ofList (trimBoth (fun c => !isWord c)
    (trimBoth isBlank (collapseBlanks (plainLetters s.toList))))

end Listening.Text
