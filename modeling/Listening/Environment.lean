/-!
# Environments

A program is started with an `Environment`: texts under the names of
variables. A variable that holds the empty text counts as not set where a
text is needed, but it is there.
-/

namespace Listening

/-- **The variables a program is started with.** -/
structure Environment where
  /-- Their names and what they hold; of two with one name the first
  counts. -/
  entries : List (String × String) := []

namespace Environment

/-- What a variable holds. -/
def get? (env : Environment) (name : String) : Option String := env.entries.lookup name

/-- What a variable holds, unless that is empty. -/
def given? (env : Environment) (name : String) : Option String :=
  (env.get? name).filter fun s => !s.isEmpty

/-- The same environment with some variables set. -/
def setAll (changes : List (String × String)) (env : Environment) : Environment :=
  ⟨changes ++ env.entries⟩

end Environment

end Listening
