/-!
# Log levels

How much a program tells of what it does.
-/

namespace ByteScan.CommandLine

inductive LogLevel where
  | warning
  | information
  | detail
  | trace
  deriving DecidableEq, Repr

namespace LogLevel

def ofVerbosity : Nat → LogLevel
  | 0 => .warning
  | 1 => .information
  | 2 => .detail
  | _ => .trace

def name : LogLevel → String
  | .warning => "WARN"
  | .information => "INFO"
  | .detail => "DEBUG"
  | .trace => "TRACE"

end LogLevel

end ByteScan.CommandLine
