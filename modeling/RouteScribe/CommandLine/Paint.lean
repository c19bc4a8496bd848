/-
Module: RouteScribe.CommandLine.Paint
Layer: CommandLine
Purpose: Text for terminals. A painted text stands between a control sequence that turns its look on and one that
  turns every look off; where the text itself turns every look off, its own is turned on again. The spaces
  that fill a column are painted as well.
Imports: none
Trusted boundary: human-reviewed spec
Main exports: Paint, Paint.paint, padded
Open obligations: none
-/

namespace RouteScribe

/-- A look of text on a terminal. -/
inductive Paint where
  | bold
  | dimmed
  | italic
  /-- Bold and underlined. -/
  | heading
  | red
  | green
  | yellow
  | blue
  | magenta
  | cyan
deriving DecidableEq, Repr

/-- A text filled up with spaces to a width. -/
def padded (width : Nat) (cs : List Char) : List Char :=
  cs ++ List.replicate (width - cs.length) ' '

namespace Paint

/-- The numbers by which terminals know a look. -/
def numbers : Paint → List String
  | .bold => ["1"]
  | .dimmed => ["2"]
  | .italic => ["3"]
  | .heading => ["1", "4"]
  | .red => ["31"]
  | .green => ["32"]
  | .yellow => ["33"]
  | .blue => ["34"]
  | .magenta => ["35"]
  | .cyan => ["36"]

/-- The control sequences that turn a look on. -/
def start (p : Paint) : List Char := p.numbers.flatMap fun n => ("\x1b[" ++ n ++ "m").toList

/-- The control sequence that turns every look off. -/
def stop : List Char := "\x1b[0m".toList

/-- A text in which a look is turned on again wherever every look is turned off. `skipped` characters still
    belong to the last place where that happens. -/
def restarted (p : Paint) (skipped : Nat) : List Char → List Char
  | [] => []
  | c :: cs =>
    match skipped with
    | 0 =>
      if stop.isPrefixOf (c :: cs) then c :: p.restarted (stop.length - 1) cs
      else c :: p.restarted 0 cs
    | 1 => c :: (p.start ++ p.restarted 0 cs)
    | n + 2 => c :: p.restarted (n + 1) cs

/-- A text of at least some width with a look. -/
def paint (p : Paint) (width : Nat) (s : String) : String :=
  String.ofList (p.start ++ padded width (p.restarted 0 s.toList) ++ stop)

/-- A text of at least some width, with a look if it has one and looks are wanted. -/
def paintIf (isWanted : Bool) (p : Option Paint) (width : Nat) (s : String) : String :=
  match isWanted, p with
  | true, some p => p.paint width s
  | _, _ => String.ofList (padded width s.toList)

end Paint

end RouteScribe
