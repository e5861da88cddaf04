import TemplateMarkup.Text.Basic

/-!
# Log records

What a run reports about its work besides its result: records in order, each with a level. A reader
of the log chooses the least severe level to see.
-/

namespace TemplateMarkup

/-- How severe a record is, the most severe first. -/
inductive Level where
  /-- The work failed. -/
  | error
  /-- Something in the input was guessed at or ignored. -/
  | warn
  /-- An event of interest to every reader. -/
  | info
  /-- A decision that the input did not spell out. -/
  | debug
  /-- A single step of the work. -/
  | trace
deriving DecidableEq, Repr

namespace Level

def name : Level → Text
  | error => "ERROR".toList
  | warn => "WARN".toList
  | info => "INFO".toList
  | debug => "DEBUG".toList
  | trace => "TRACE".toList

/-- The rank of the level, zero for the most severe. -/
def rank : Level → Nat
  | error => 0
  | warn => 1
  | info => 2
  | debug => 3
  | trace => 4

/-- A log kept at level `least` shows records of the other level. -/
def shows (least other : Level) : Bool :=
  other.rank ≤ least.rank

end Level

structure LogRecord where
  /-- How severe it is. -/
  level : Level
  /-- What it says. -/
  text : Text
deriving DecidableEq, Repr

namespace LogRecord

def line (r : LogRecord) : Text :=
  r.level.name ++ ' ' :: r.text

/-- The lines of a log that shows records of the given level and of more severe ones. -/
def linesAt (least : Level) (records : List LogRecord) : List Text :=
  (records.filter fun r => least.shows r.level).map line

end LogRecord

end TemplateMarkup
