import TablePartitioning.Text.Basic
import TablePartitioning.Text.Numeral

/-!
# Levels of log lines

A level is written as a word, in upper or lower case, or as a number from one, for errors only, to
five, for everything.  A filter lets lines up to a level pass, or none at all.
-/

namespace TablePartitioning

/-- How much a log line matters. -/
inductive LogLevel where
  | error
  | warn
  | info
  | debug
  | trace
deriving DecidableEq

namespace LogLevel

/-- All levels, the weightiest first. -/
def all : List LogLevel := [error, warn, info, debug, trace]

/-- The word of a level. -/
def word : LogLevel → String
  | .error => "ERROR"
  | .warn => "WARN"
  | .info => "INFO"
  | .debug => "DEBUG"
  | .trace => "TRACE"

/-- The level of a word. -/
def ofWord? (text : String) : Option LogLevel :=
  all.find? fun level => Text.sameIgnoringCase level.word text

/-- The number that a text stands for, if it fits 64 bits. -/
def number? (text : String) : Option Nat :=
  Text.Numeral.below? (Word.count 64) text

/-- The level of a text, a number or a word. -/
def ofText? (text : String) : Option LogLevel :=
  match (number? text).bind fun number => if number = 0 then none else all[number - 1]? with
  | some level => some level
  | none => ofWord? text

/-- What is said of a text that is no level. -/
def unknown : String :=
  "error parsing level: expected one of \"error\", \"warn\", \"info\", \"debug\", \"trace\", " ++
    "or a number 1-5"

end LogLevel

/-- Which log lines pass. -/
inductive LogFilter where
  | off
  | upTo (level : LogLevel)
deriving DecidableEq

namespace LogFilter

/-- The word of a filter. -/
def word : LogFilter → String
  | .off => "OFF"
  | .upTo level => level.word

/-- The filter of a word. -/
def ofWord? (text : String) : Option LogFilter :=
  if Text.sameIgnoringCase "OFF" text then some .off else (LogLevel.ofWord? text).map .upTo

/-- The filter of a text: a number, where zero lets nothing pass, or a word. -/
def ofText? (text : String) : Option LogFilter :=
  if LogLevel.number? text = some 0 then some .off
  else
    match LogLevel.ofText? text with
    | some level => some (.upTo level)
    | none => ofWord? text

/-- What is said of a text that is the word of no filter. -/
def unknown : String :=
  "attempted to convert a string that doesn't match an existing log level"

end LogFilter

end TablePartitioning
