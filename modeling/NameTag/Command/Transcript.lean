import NameTag.Text.Basic

/-!
# What a run writes

A run writes texts and log records, in one order, to one of two streams; log records may go into a
file as well. A log record is a line with the time, the part of the program that it comes from, its
severity and a message.
-/

namespace NameTag.Command

inductive Severity
  | debug
  | error
  deriving DecidableEq, Repr

def Severity.name : Severity → Text
  | debug => "DEBUG".toList
  | error => "ERROR".toList

structure LogRecord where
  origin : Text
  severity : Severity
  message : Text
  deriving DecidableEq, Repr

def LogRecord.line (r : LogRecord) (time : Text) : Text :=
  Text.join " - ".toList [time, r.origin, r.severity.name, r.message] ++ ['\n']

inductive Stream
  | output
  | errors
  deriving DecidableEq, Repr

inductive Event
  | write (s : Stream) (t : Text)
  | record (s : Stream) (r : LogRecord)
  deriving DecidableEq, Repr

namespace Event

def stream : Event → Stream
  | write s _ | record s _ => s

/-- The text of an event, a record being stamped with the time. -/
def text (time : Text) : Event → Text
  | write _ t => t
  | record _ r => r.line time

def record? : Event → Option LogRecord
  | write .. => none
  | record _ r => some r

/-- What there is of an event when so many characters are written. A record is written in one piece. -/
def begun (characters : Nat) : Event → Option Event
  | write s t => some (write s (t.take characters))
  | record .. => none

end Event

abbrev Transcript := List Event

namespace Transcript

/-- All that is written to a stream. -/
def streamText (time : Text) (s : Stream) (events : Transcript) : Text :=
  (events.filter (·.stream == s)).flatMap (Event.text time)

/-- The first events, and what there is of the next one. -/
def upTo (events : Transcript) (n characters : Nat) : Transcript :=
  events.take n ++ (events[n]?.bind (·.begun characters)).toList

/-- All that is logged. -/
def logText (time : Text) (events : Transcript) : Text :=
  (events.filterMap Event.record?).flatMap (·.line time)

theorem logText_append (time : Text) (a b : Transcript) :
    logText time (a ++ b) = logText time a ++ logText time b := by
  simp [logText]

end Transcript

end NameTag.Command
