import Listening.Console
import Listening.Disk
import Listening.Notice
import Listening.Step

/-!
# Hosts

A program that watches sources needs a clock, a console, someone to notify,
a way to wait, a sign to stop, and files. A `Host` is a state that offers
all of it. What is said, noted and waited for goes into the state, so that a
run is a function from one state of the host to the next.

Two things may fail. A clock can only hold so many years, and so a wait may
be refused. And a console reads tags in what it is told to print, so that it
may be unable to print it; of a console nothing is known but that it prints
what is plain (`Host.PrintsPlain`). A file that cannot be written is given
up, and so is a notice.
-/

namespace Listening

/-- **A state on which a program runs.** -/
class Host (ω : Type) where
  /-- What the clock shows. -/
  now : ω → Instant
  /-- Whether all is to stop. -/
  isStopping : ω → Bool
  /-- Puts a line on the console, if it can be printed. -/
  say : Console.Line → ω → Step ω Unit
  /-- Tells whoever runs the program. -/
  notify : Notice → ω → ω
  /-- Waits so many seconds, or until all is to stop. -/
  wait : Float → ω → Step ω Unit
  /-- What the file on a path holds, if it can be read. -/
  load : Path → ω → Option ByteArray
  /-- Writes a text to a file. -/
  save : Path → String → ω → ω

namespace Host

variable {ω : Type} [Host ω]

/-- Puts a message of a level on the console. -/
def tell (message : String) (level : String := "INFO") (w : ω) : Step ω Unit :=
  say (Console.message message level) w

/-- **Whether the console of a host prints what is plain**, at any level. -/
def PrintsPlain (ω : Type) [Host ω] : Prop :=
  ∀ (message level : String) (w : ω), Console.isPlain message = true →
    ∃ w', tell message level w = .ok () w'

end Host

end Listening
