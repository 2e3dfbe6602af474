/-! # The log

What is told about a run besides its diagnostics.

- `LogLevel`: how much a record matters;
- `LogRecord`: a message from a part of the program;
- `LogRecord.line`: the line that a record is written as.
-/

namespace DrainLint

inductive LogLevel where
  | debug
  | info
  | warning
  | error
  | critical
  deriving DecidableEq

namespace LogLevel

def all : List LogLevel := [debug, info, warning, error, critical]

def name : LogLevel → String
  | debug => "DEBUG"
  | info => "INFO"
  | warning => "WARNING"
  | error => "ERROR"
  | critical => "CRITICAL"

def value : LogLevel → Nat
  | debug => 10
  | info => 20
  | warning => 30
  | error => 40
  | critical => 50

end LogLevel

/-- The parts of the program that write to the log. -/
inductive LogSource where
  | main
  | parser
  | typing
  | lint
  | checkers
  deriving DecidableEq

def LogSource.name : LogSource → String
  | main => "poplint"
  | parser => "poplint.parser"
  | typing => "poplint.resolver"
  | lint => "poplint.while_pop_unwrap"
  | checkers => "poplint.checkers"

/-- A record of the log. -/
structure LogRecord where
  level : LogLevel
  source : LogSource
  message : String
  deriving DecidableEq

namespace LogRecord

def levelField (level : LogLevel) : String :=
  let name := level.name.toList.take 5
  String.ofList (name ++ List.replicate (5 - name.length) ' ')

/-- The line of a record, written at a time of day. -/
def line (record : LogRecord) (time : String) : String :=
  s!"{time} [{levelField record.level}] {record.source.name}: {record.message}"

def visible (level : LogLevel) (records : List LogRecord) : List LogRecord :=
  records.filter fun record => level.value ≤ record.level.value

end LogRecord
end DrainLint
