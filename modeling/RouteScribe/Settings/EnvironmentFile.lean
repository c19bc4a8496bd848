/-
Module: RouteScribe.Settings.EnvironmentFile
Layer: Settings
Purpose: Files that assign variables. A line assigns one variable, and goes on over further lines as long as a
  quotation mark is open. Variables are only assigned that are not there yet, and a fault ends the reading
  without touching the assignments before it.
Imports: RouteScribe.Text.Blank, RouteScribe.Text.Letters, RouteScribe.Text.Split
Trusted boundary: human-reviewed spec
Main exports: Variables, EnvironmentFile.extend
Open obligations: none
-/
import RouteScribe.Text.Blank
import RouteScribe.Text.Letters
import RouteScribe.Text.Split

namespace RouteScribe

/-- Variables with their values, in the order in which they were assigned. -/
abbrev Variables := List (String × String)

namespace EnvironmentFile

/-!
### Lines
-/

/-- What is open at a place of a line. -/
inductive LineState where
  /-- Nothing is open. -/
  | closed
  /-- Nothing is open, and there is white space before. -/
  | gap
  /-- A character counts as written. -/
  | escape
  | single
  | singleEscape
  | double
  | doubleEscape
  /-- The rest of the line is a comment. -/
  | comment
deriving DecidableEq, Repr

namespace LineState

/-- What is open behind a character outside of quotation marks. -/
def opening (c : Char) : LineState :=
  if c = '\\' then .escape
  else if c = '"' then .double
  else if c = '\'' then .single
  else .closed

/-- What is open behind a character. -/
def next : LineState → Char → LineState
  | .closed, c => if Text.isBlank c && c != '\n' && c != '\r' then .gap else opening c
  | .gap, c => if c = '#' then .comment else opening c
  | .escape, _ => .closed
  | .single, c => if c = '\\' then .singleEscape else if c = '\'' then .closed else .single
  | .singleEscape, _ => .single
  | .double, c => if c = '\\' then .doubleEscape else if c = '"' then .closed else .double
  | .doubleEscape, _ => .double
  | .comment, _ => .comment

end LineState

/-- The characters of a line before its comment, and what is open behind them. -/
def readLine (state : LineState) : List Char → List Char × LineState
  | [] => ([], state)
  | c :: cs =>
    match state.next c with
    | .comment => ([], .comment)
    | state =>
      let (taken, last) := readLine state cs
      (c :: taken, last)

/-- A line without the characters that end it. -/
def withoutEnd (cs : List Char) : List Char :=
  match cs.reverse with
  | '\n' :: '\r' :: rest => rest.reverse
  | '\n' :: rest => rest.reverse
  | _ => cs

/-- The next line of a file. -/
inductive NextLine where
  /-- The file is at its end. -/
  | none
  /-- The file ends before the line does. -/
  | unfinished
  | line (text : List Char) (rest : List (List Char))

/-- The line that starts with `before` and goes on with the following ones, as far as it reaches. A line
    that starts with a comment is empty. -/
def joinLines (state : LineState) (before : List Char) : List (List Char) → NextLine
  | [] => if state = .closed then .none else .unfinished
  | next :: rest =>
    if (Text.dropStart Text.isBlank (before ++ next)).head? = some '#' then .line [] rest
    else
      match readLine state next with
      | (taken, .closed) => .line (withoutEnd (before ++ taken)) rest
      | (taken, .comment) => .line (before ++ taken) rest
      | (taken, state) => joinLines state (before ++ taken) rest

/-- The lines of a file, each with the line feed at its end. -/
def linesOf (cs : List Char) : List (List Char) :=
  let parts := Text.splitAt '\n' cs
  (parts.dropLast.map fun part => part ++ ['\n']) ++ (parts.getLast?.toList.filter (!·.isEmpty))

/-!
### Values
-/

/-- The name of a variable whose value is put in. -/
structure Mention where
  isBraced : Bool := false
  name : List Char := []

/-- A value as far as it is read. -/
structure Value where
  text : List Char := []
  inSingle : Bool := false
  inDouble : Bool := false
  isEscaped : Bool := false
  mention : Option Mention := none
  /-- Whether nothing but a comment may follow. -/
  isOver : Bool := false

/-- What the environment has for a name: the rest of the first assignment that starts with the name and an
    equals sign. So the name may reach into the value. -/
def findAssigned? (known : Variables) (name : List Char) : Option (List Char) :=
  let start := name ++ ['=']
  if name.isEmpty then none
  else known.findSome? fun assignment =>
    let text := assignment.1.toList ++ '=' :: assignment.2.toList
    if start.isPrefixOf text then some (text.drop start.length) else none

/-- The value of a variable: that of the environment, or else the one that the file gave it last. -/
def valueOf (known assigned : Variables) (name : List Char) : List Char :=
  match findAssigned? known name with
  | some value => value
  | none => ((assigned.reverse.lookup (String.ofList name)).getD "").toList

/-- The character that an escaped one stands for. -/
def escaped? (c : Char) : Option Char :=
  if c = 'n' then some '\n'
  else if ['\\', '\'', '"', '$', ' '].contains c then some c
  else none

namespace Value

/-- A value with a character behind it. -/
def push (v : Value) (c : Char) : Value := { v with text := v.text ++ [c] }

/-- Put in the value of the variable that is mentioned. -/
def settle (valueOf : List Char → List Char) (v : Value) : Value :=
  match v.mention with
  | none => v
  | some mention => { v with text := v.text ++ valueOf mention.name, mention := none }

/-- A further character of the mention of a variable. -/
def extendMention (valueOf : List Char → List Char) (v : Value) (mention : Mention) (c : Char) :
    Value :=
  if Text.isLetterOrNumber c || (mention.isBraced && c != '\x7d') then
    { v with mention := some { mention with name := mention.name ++ [c] } }
  else if mention.isBraced then v.settle valueOf
  else if c = '\x7b' && mention.name.isEmpty then { v with mention := some ⟨true, []⟩ }
  else if c = '$' then { v.settle valueOf with mention := some {} }
  else (v.settle valueOf).push c

/-- A further character of a value. -/
def extend (valueOf : List Char → List Char) (v : Value) (c : Char) : Option Value :=
  if v.isEscaped then (escaped? c).map fun d => { v.push d with isEscaped := false }
  else if v.inSingle then
    some (if c = '\'' then { v with inSingle := false } else v.push c)
  else
    match v.mention with
    | some mention => some (v.extendMention valueOf mention c)
    | none =>
      if c = '$' then some { v with mention := some {} }
      else if c = '\\' then some { v with isEscaped := true }
      else if v.inDouble then
        some (if c = '"' then { v with inDouble := false } else v.push c)
      else if c = '\'' then some { v with inSingle := true }
      else if c = '"' then some { v with inDouble := true }
      else if c = ' ' || c = '\t' then some { v with isOver := true }
      else some (v.push c)

/-- The text of a value that goes on with the given characters. Behind a blank outside of quotation marks
    only a comment may stand. -/
def read (valueOf : List Char → List Char) (v : Value) : List Char → Option (List Char)
  | [] =>
    let isOpen := v.inSingle || v.inDouble || v.mention.any (·.isBraced)
    if isOpen then none else some (v.settle valueOf).text
  | c :: cs =>
    if v.isOver then
      if c = ' ' || c = '\t' then read valueOf v cs
      else if c = '#' then read valueOf v []
      else none
    else
      match v.extend valueOf c with
      | none => none
      | some v => read valueOf v cs

end Value

/-!
### Assignments
-/

/-- The name at the start of a line, and what follows behind white space. -/
def readName (cs : List Char) : Option (List Char × List Char) :=
  let isNameStart (c : Char) : Bool := c.isAlpha || c == '_'
  let isNameChar (c : Char) : Bool := c.isAlphanum || c == '_' || c == '.'
  let name := cs.takeWhile isNameChar
  if (cs.head?).any isNameStart then
    some (name, Text.dropStart Text.isBlank (cs.drop name.length))
  else none

/-- What a line says. -/
inductive Statement where
  | nothing
  | assignment (name : List Char) (value : List Char)

/-- The value behind an equals sign, without white space before it. -/
def behindEquals? : List Char → Option (List Char)
  | '=' :: cs => some (Text.dropStart Text.isBlank cs)
  | _ => none

/-- What a line says, or nothing if it cannot be read. The word `export` may stand before the name of a
    variable. -/
def readStatement (line : List Char) : Option Statement :=
  let line := Text.dropStart Text.isBlank (Text.dropEnd Text.isBlank line)
  if line.isEmpty || line.head? = some '#' then some .nothing
  else do
    let (name, rest) ← readName line
    match behindEquals? rest with
    | some value => pure (.assignment name value)
    | none =>
      if name ≠ "export".toList then none
      else
        let (name, rest) ← readName rest
        let value ← behindEquals? rest
        pure (.assignment name value)

/-- The value that is assigned. -/
def readValue (known assigned : Variables) (cs : List Char) : Option (List Char) :=
  if cs.isEmpty || cs.head? = some '#' then some []
  else Value.read (valueOf known assigned) {} cs

/-- Add a variable that is not there yet. -/
def addNew (known : Variables) (name value : String) : Variables :=
  if (known.lookup name).isSome then known else known ++ [(name, value)]

/-- The variables that are known when some lines of a file have been read. `assigned` holds those of the
    lines before. -/
def extendBy : Nat → (known assigned : Variables) → List (List Char) → Variables
  | 0, known, _, _ => known
  | fuel + 1, known, assigned, lines =>
    match joinLines .closed [] lines with
    | .none => known
    | .unfinished => known
    | .line text rest =>
      match readStatement text with
      | none => known
      | some .nothing => extendBy fuel known assigned rest
      | some (.assignment name value) =>
        match readValue known assigned value with
        | none => known
        | some value =>
          let name := String.ofList name
          let value := String.ofList value
          extendBy fuel (addNew known name value) (assigned ++ [(name, value)]) rest

/-- The variables together with those that the text of a file assigns. -/
def extend (known : Variables) (text : String) : Variables :=
  let cs := text.toList
  let lines := linesOf (if cs.head? = some '\ufeff' then cs.drop 1 else cs)
  extendBy (lines.length + 1) known [] lines

end EnvironmentFile

end RouteScribe
