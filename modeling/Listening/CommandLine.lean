import Listening.Environment

/-!
# Command lines

A command line is a row of words. A word that begins with a hyphen is an
option: `--word`, or `-x` with a single letter. Some options switch
something, others have a value – attached to the word by `=`, to the letter
by nothing, or else the next word, whatever that looks like. After `--` no
word is an option any more.

The last option on a subject counts. A value that no option gives may come
from the environment.
-/

namespace Listening.CommandLine

/-- **Why a command line makes no sense.** -/
inductive Misuse where
  /-- There is no such option. -/
  | unknownOption (word : String)
  /-- The value of an option is missing. -/
  | noValue (word : String)
  /-- An option that has no value was given one. -/
  | needlessValue (word : String)
  /-- A value is not of the right kind, or out of range. -/
  | badValue (subject value : String)
  /-- A word is left over. -/
  | leftOver (word : String)
  /-- There is no command. -/
  | noCommand
  /-- There is no such command. -/
  | unknownCommand (word : String)
  deriving DecidableEq, Repr

/-- **An option that has a value.** -/
structure ValueOption (α : Type) where
  /-- The option as a word, which is its subject too. -/
  word : String
  /-- The option as a letter, if there is one. -/
  letter : Option String := none
  /-- The variable that gives the value if no option does. -/
  inherited : Option String := none
  /-- What a text means as a value. -/
  read? : String → Option α

/-- The spellings of an option, each with its subject. -/
def ValueOption.spellings {α : Type} (f : ValueOption α) : List (String × String) :=
  (f.word :: f.letter.toList).map (·, f.word)

/-- **The options that a command has**, besides the one that asks for
help. -/
structure Usage where
  /-- The options that switch something: what each one switches, and which
  way. -/
  switches : List (String × String × Bool) := []
  /-- The spellings of the options that have a value. -/
  fields : List (String × String) := []

/-- **What an option says.** -/
inductive Said where
  /-- Help is wanted. -/
  | help
  /-- Something is switched on or off. -/
  | switch (subject : String) (on : Bool)
  /-- Something has a value. -/
  | value (subject text : String)
  deriving DecidableEq, Repr

/-- **What a command line says.** -/
structure Reading where
  /-- What its options say, in their order. -/
  said : List Said := []
  /-- Its other words. -/
  words : List String := []
  deriving DecidableEq, Repr

/-! ## Words -/

/-- The option that asks for help. -/
def helpWord : String := "--help"

/-- The word after which there are no options. -/
def endOfOptions : String := "--"

/-- Whether a word is an option. A single hyphen is none. -/
def isOption (word : String) : Bool :=
  match word.toList with
  | '-' :: _ :: _ => true
  | _ => false

/-- An option and the value attached to it. -/
def detach (word : String) : String × Option String :=
  match word.toList with
  | '-' :: '-' :: cs =>
    (String.ofList ('-' :: '-' :: cs.takeWhile (· != '=')),
      (cs.dropWhile (· != '=')).tail?.map String.ofList)
  | cs =>
    (String.ofList (cs.take 2),
      if (cs.drop 2).isEmpty then none else some (String.ofList (cs.drop 2)))

/-- **What one word says**, or the subject whose value is still to come. -/
def hear? (u : Usage) (word : String) : Except Misuse (Said ⊕ String) :=
  let (spelling, attached) := detach word
  let plain (s : Said) : Except Misuse (Said ⊕ String) :=
    if attached.isSome then .error (.needlessValue spelling) else .ok (.inl s)
  if spelling = helpWord then plain .help
  else
    match u.switches.lookup spelling, u.fields.lookup spelling with
    | some (subject, on), _ => plain (.switch subject on)
    | none, some subject =>
      .ok (match attached with
        | some text => .inl (.value subject text)
        | none => .inr subject)
    | none, none => .error (.unknownOption spelling)

/-! ## Reading -/

namespace Reading

/-- A reading after one more option, which stands before it. -/
def after (s : Said) (r : Reading) : Reading := { r with said := s :: r.said }

/-- A reading after one more word, which stands before it. -/
def afterWord (word : String) (r : Reading) : Reading := { r with words := word :: r.words }

end Reading

/-- **Reads a command line.** If `untilWord` holds, the first word that is no
option ends the options. -/
def read? (u : Usage) (untilWord : Bool) : List String → Except Misuse Reading
  | [] => .ok {}
  | word :: rest =>
    if word = endOfOptions then .ok { words := rest }
    else if isOption word then
      match hear? u word with
      | .error e => .error e
      | .ok (.inl s) => (read? u untilWord rest).map (·.after s)
      | .ok (.inr subject) =>
        match rest with
        | [] => .error (.noValue word)
        | text :: rest => (read? u untilWord rest).map (·.after (.value subject text))
    else if untilWord then .ok { words := word :: rest }
    else (read? u untilWord rest).map (·.afterWord word)

/-! ## What was said -/

namespace Reading

/-- Whether help is wanted. -/
def asksForHelp (r : Reading) : Bool := r.said.contains .help

/-- Which way something is switched, if it is. -/
def switched? (r : Reading) (subject : String) : Option Bool :=
  r.said.reverse.findSome? fun
    | .switch s on => if s = subject then some on else none
    | _ => none

/-- The text given as a value. -/
def text? (r : Reading) (subject : String) : Option String :=
  r.said.reverse.findSome? fun
    | .value s text => if s = subject then some text else none
    | _ => none

/-- **The value of an option**, or else of its variable. -/
def value? {α : Type} (r : Reading) (env : Environment) (f : ValueOption α) :
    Except Misuse (Option α) :=
  match r.text? f.word <|> f.inherited.bind env.given? with
  | none => .ok none
  | some text =>
    match f.read? text with
    | some a => .ok (some a)
    | none => .error (.badValue f.word text)

end Reading

end Listening.CommandLine
