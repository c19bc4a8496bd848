/-
Module: RouteScribe.CommandLine.LogEvent
Layer: CommandLine
Purpose: What the log is told: an event has a level, a target that says which part of the program it comes from,
  a message and named values. One line shows it.
Imports: RouteScribe.CommandLine.Paint
Trusted boundary: human-reviewed spec
Main exports: LogLevel, LogEvent, LogEvent.line
Open obligations: none
-/
import RouteScribe.CommandLine.Paint

namespace RouteScribe

/-- How much an event matters, the most important level first. -/
inductive LogLevel where
  | error
  | warning
  | info
  | debug
  | trace
deriving DecidableEq, Repr

namespace LogLevel

/-- The place of a level, counted from one. -/
def rank : LogLevel → Nat
  | .error => 1
  | .warning => 2
  | .info => 3
  | .debug => 4
  | .trace => 5

/-- The word for a level. -/
def name : LogLevel → String
  | .error => "ERROR"
  | .warning => "WARN"
  | .info => "INFO"
  | .debug => "DEBUG"
  | .trace => "TRACE"

/-- The look of a level. -/
def look : LogLevel → Paint
  | .error => .red
  | .warning => .yellow
  | .info => .green
  | .debug => .blue
  | .trace => .magenta

/-- The word for a level with its look; the painted words are of one width. -/
def text (isPainted : Bool) (l : LogLevel) : String :=
  let filler := List.replicate (if isPainted then 5 - l.name.length else 0) ' '
  Paint.paintIf isPainted (some l.look) 0 (String.ofList (filler ++ l.name.toList))

end LogLevel

/-- Something the log is told. -/
structure LogEvent where
  level : LogLevel
  /-- The part of the program it comes from. -/
  target : String
  message : String
  /-- The names of values and the texts that show them. -/
  fields : List (String × String)
deriving DecidableEq, Repr

namespace LogEvent

/-- The names of all that an event tells, its message included. -/
def fieldNames (e : LogEvent) : List String := "message" :: e.fields.map (·.1)

/-- A character of a message as the log shows it: those that could steer a terminal are written out. -/
def shownChar (c : Char) : List Char :=
  let code := Nat.toDigits 16 c.toNat
  if ['\x07', '\x08', '\x0c', '\x1b', '\x7f'].contains c then
    '\\' :: 'x' :: (List.replicate (2 - code.length) '0' ++ code)
  else if 0x80 ≤ c.toNat ∧ c.toNat < 0xA0 then "\\u\x7b".toList ++ code ++ ['\x7d']
  else [c]

/-- A message as the log shows it. -/
def shownMessage (s : String) : String := String.ofList (s.toList.flatMap shownChar)

/-- The line of the log for an event. -/
def line (isPainted : Bool) (e : LogEvent) : String :=
  let look (p : Paint) (s : String) : String := Paint.paintIf isPainted (some p) 0 s
  let field (f : String × String) : String := " " ++ look .italic f.1 ++ look .dimmed "=" ++ f.2
  e.level.text isPainted ++ " " ++ look .dimmed e.target ++ look .dimmed ":" ++ " " ++
    shownMessage e.message ++ String.join (e.fields.map field)

end LogEvent

end RouteScribe
