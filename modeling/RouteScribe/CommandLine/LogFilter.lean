/-
Module: RouteScribe.CommandLine.LogFilter
Layer: CommandLine
Purpose: Which events the log shows. A filter is a list of rules, written one behind the other with commas between
  them. Of the rules that are about an event the most specific one decides how far its level may go down;
  an event that no rule is about is not shown.
Imports: RouteScribe.CommandLine.LogEvent, RouteScribe.Text.Blank, RouteScribe.Text.Letters,
  RouteScribe.Text.Split
Trusted boundary: human-reviewed spec
Main exports: LogRule, LogRule.ofText?, LogFilter, LogFilter.ofText?, LogFilter.shows
Open obligations: none
-/
import RouteScribe.CommandLine.LogEvent
import RouteScribe.Text.Blank
import RouteScribe.Text.Letters
import RouteScribe.Text.Split

namespace RouteScribe

/-- A rule of a filter. -/
structure LogRule where
  /-- What the targets of its events start with. -/
  target : Option String := none
  /-- A name that its events give a value. -/
  field : Option String := none
  /-- Whether the rule is about spans of time alone, of which the program has none. -/
  isForSpans : Bool := false
  /-- The rank of the last level that is shown. With zero none is. -/
  limit : Nat
deriving DecidableEq, Repr

namespace LogRule

/-!
### Matching
-/

/-- Whether a rule is about an event. -/
def isAbout (r : LogRule) (e : LogEvent) : Bool :=
  !r.isForSpans && r.target.all (fun start => start.toList.isPrefixOf e.target.toList) &&
    r.field.all fun name => e.fieldNames.contains name

/-- How specific a rule is: the octets of its target count first, then whether it asks for a name. -/
def specificity (r : LogRule) : Nat × Nat :=
  ((r.target.map fun t => t.utf8ByteSize + 1).getD 0, if r.field.isSome then 1 else 0)

/-- Whether a rule decides before another one that stands earlier. Rules that are equally specific go by
    their texts, the greater one first, and of two with the same texts the later one decides. -/
def decidesBefore (later earlier : LogRule) : Bool :=
  let a := later.specificity
  let b := earlier.specificity
  let key (r : LogRule) : List String := [r.target.getD "", r.field.getD ""]
  if a.1 ≠ b.1 then b.1 < a.1
  else if a.2 ≠ b.2 then b.2 < a.2
  else !decide (key later < key earlier)

/-!
### Reading
-/

/-- The rank of the last level. -/
def lastRank : Nat := 5

/-- The words for limits, in the order of their ranks. -/
def limitWords : List String := ["off", "error", "warn", "info", "debug", "trace"]

/-- The number that digits stand for, with or without a plus sign. -/
def number? (cs : List Char) : Option Nat :=
  let digits := match cs with
    | '+' :: rest => rest
    | _ => cs
  if !digits.isEmpty && digits.all Char.isDigit then
    some (digits.foldl (fun n d => 10 * n + (d.toNat - '0'.toNat)) 0)
  else none

/-- The limit that a word or a number stands for. -/
def limit? (cs : List Char) : Option Nat :=
  match number? cs with
  | some n => if n ≤ lastRank then some n else none
  | none => limitWords.findIdx? (· = (String.ofList cs).toLower)

/-- The limit behind an equals sign, unless the rule is indented. Where it is empty everything is shown. -/
def limitBehindEquals? (isIndented : Bool) (cs : List Char) : Option Nat :=
  if isIndented then none else if cs.isEmpty then some lastRank else limit? cs

/-- The limit behind the bracket that closes. -/
def limitBehindBracket? (isIndented : Bool) : List Char → Option Nat
  | '=' :: cs => limitBehindEquals? isIndented cs
  | cs => if cs.all Text.isBlank then some lastRank else none

/-- The rule that goes on behind the bracket that opens: with the name of a span, and in braces the name of
    a value, maybe with the value. The name of a span and a value make it a rule for spans. -/
def ofBracket? (isIndented : Bool) (target : Option String) (cs : List Char) : Option LogRule := do
  let span := cs.takeWhile fun c => c ≠ ']' ∧ c ≠ '\x7b'
  match cs.drop span.length with
  | ']' :: rest => pure { target, isForSpans := true, limit := ← limitBehindBracket? isIndented rest }
  | '\x7b' :: rest =>
    let field := rest.takeWhile (· ≠ '\x7d')
    match field, rest.drop field.length with
    | _ :: _, '\x7d' :: ']' :: rest =>
      let name := String.ofList (field.takeWhile (· ≠ '='))
      let isForSpans := !span.isEmpty || field.contains '='
      pure { target, field := some name, isForSpans, limit := ← limitBehindBracket? isIndented rest }
    | _, _ => none
  | _ => none

/-- A character that a rule may start with. -/
def isStart (c : Char) : Bool := Text.isLetterOrNumber c || ['-', ':', '_', '['].contains c

/-- The rule that a text stands for: a limit, a target, or a target with a limit. White space around a rule
    belongs to its words. -/
def ofText? (s : String) : Option LogRule :=
  let cs := s.toList
  let bare := Text.dropStart Text.isBlank cs
  let isIndented := bare.length < cs.length
  let word := cs.takeWhile fun c => c ≠ '=' ∧ c ≠ '['
  let target := if word.isEmpty then none else some (String.ofList word)
  if !bare.head?.any isStart then none
  else
    match cs.drop word.length with
    | '=' :: rest => (limitBehindEquals? isIndented rest).map fun limit => { target, limit }
    | '[' :: rest => ofBracket? isIndented target rest
    | _ =>
      match limit? word with
      | some limit => some { limit }
      | none => some { target, limit := lastRank }

end LogRule

/-- A filter of the log. -/
abbrev LogFilter := List LogRule

namespace LogFilter

/-- The filter that shows warnings and errors. -/
def standard : LogFilter := [{ limit := LogLevel.warning.rank }]

/-- The filter that a text stands for. Without any rule it shows errors. -/
def ofText? (s : String) : Option LogFilter := do
  let rules ← ((Text.parts ',' s).filter (· ≠ "")).mapM LogRule.ofText?
  pure (if rules.isEmpty then [{ limit := LogLevel.error.rank }] else rules)

/-- The rule that decides about an event, if one is about it. -/
def decisive? (f : LogFilter) (e : LogEvent) : Option LogRule :=
  (f.filter (·.isAbout e)).foldl (fun best r =>
    if best.all r.decidesBefore then some r else best) none

/-- Whether an event is shown. -/
def shows (f : LogFilter) (e : LogEvent) : Bool :=
  (f.decisive? e).any fun r => e.level.rank ≤ r.limit

end LogFilter

end RouteScribe
