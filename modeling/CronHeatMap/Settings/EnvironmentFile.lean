import CronHeatMap.Settings
import CronHeatMap.Text.Category

/-!
# The environment file

Variables that are kept in a file, one on each line. They are added to the environment unless it has
a variable with that name already. Reading stops at the first line that is malformed; the lines
before it count.

A value may be quoted. Single quotes take everything as it stands; elsewhere, backslashes escape and
a dollar sign stands for the value of a variable. Quoted values and escaped line breaks extend a
line over several lines of the file.
-/

namespace CronHeatMap.EnvironmentFile

/-! ### Logical lines -/

/-- Where a line has got to, as far as its end is concerned. -/
inductive Scan where
  /-- The line may end. -/
  | plain
  /-- After a blank, a number sign begins a comment. -/
  | blank
  | escape
  | single
  | singleEscape
  | double
  | doubleEscape
deriving Repr, DecidableEq

/-- A blank that does not end the line. -/
def isInnerBlank (c : Char) : Bool := Text.isBlank c && c != '\n' && c != '\r'

/-- Reads a character outside of quotes. -/
def Scan.outside (c : Char) : Scan :=
  if c = '\\' then .escape
  else if c = '"' then .double
  else if c = '\'' then .single
  else .plain

/-- Reads a character. -/
def Scan.next (s : Scan) (c : Char) : Scan :=
  match s with
  | plain => if isInnerBlank c then blank else .outside c
  | blank => .outside c
  | escape => plain
  | single => if c = '\\' then singleEscape else if c = '\'' then plain else single
  | singleEscape => single
  | double => if c = '\\' then doubleEscape else if c = '"' then plain else double
  | doubleEscape => double

/-- Reads a line of the file up to a comment: its text, where it has got to, and whether a comment
has ended it. -/
def scan : Scan → List Char → List Char × Scan × Bool
  | s, [] => ([], s, false)
  | s, c :: cs =>
    if s = .blank ∧ c = '#' then ([], s, true)
    else
      let (text, s, commented) := scan (s.next c) cs
      (c :: text, s, commented)

/-- The lines of a file with their line breaks. -/
def physicalLines (cs : List Char) : List (List Char) :=
  match (Text.pieces (· == '\n') cs).reverse with
  | [] => []
  | last :: earlier =>
    (earlier.map (· ++ ['\n'])).reverse ++ (if last.isEmpty then [] else [last])

/-- Drops the line break at the end of a line. -/
def dropBreak (line : List Char) : List Char :=
  if line.getLast? = some '\n' then Text.dropReturn line.dropLast else line

/-- The line is a comment. -/
def isComment (line : List Char) : Bool := (Text.trimStart line).head? = some '#'

/-- Joins the lines of a file to logical lines, after what has been read of one. A logical line that
does not end is nothing, and ends the file. -/
def logicalLines (open? : List Char) (s : Scan) : List (List Char) → List (Option (List Char))
  | [] => if s = .plain then [] else [none]
  | line :: lines =>
    if isComment (open? ++ line) then some [] :: logicalLines [] .plain lines
    else
      let (text, s, commented) := scan s line
      if commented then some (open? ++ text) :: logicalLines [] .plain lines
      else if s = .plain then some (dropBreak (open? ++ text)) :: logicalLines [] .plain lines
      else logicalLines (open? ++ text) s lines

/-! ### Values -/

/-- A variable whose name is being read. -/
inductive Reference where
  /-- After a dollar sign. -/
  | bare (name : List Char)
  /-- In braces. -/
  | braced (name : List Char)
deriving Repr, DecidableEq

/-- How a character of a value is meant. -/
inductive Quoting where
  | unquoted
  | single
  | double
deriving Repr, DecidableEq

/-- How far a value has been read. -/
structure Reading where
  /-- The value so far, latest character first. -/
  output : List Char := []
  quoting : Quoting := .unquoted
  escaped : Bool := false
  reference : Option Reference := none
  /-- Only a comment may follow. -/
  ended : Bool := false

namespace Reading

/-- Adds characters to the value. -/
def add (r : Reading) (cs : List Char) : Reading := { r with output := cs.reverse ++ r.output }

/-- Reads a character that belongs to no reference. -/
def plain (r : Reading) (c : Char) : Reading :=
  if c = '$' then { r with reference := some (.bare []) }
  else match r.quoting with
    | .single => r.add [c]
    | .double =>
      if c = '"' then { r with quoting := .unquoted }
      else if c = '\\' then { r with escaped := true }
      else r.add [c]
    | .unquoted =>
      if c = '\'' then { r with quoting := .single }
      else if c = '"' then { r with quoting := .double }
      else if c = '\\' then { r with escaped := true }
      else if c = ' ' ∨ c = '\t' then { r with ended := true }
      else r.add [c]

/-- Reads a character of a reference. -/
def refer (value : List Char → List Char) (r : Reading) (c : Char) : Reference → Reading
  | .bare name =>
    if Text.isAlphanumeric c then { r with reference := some (.bare (name ++ [c])) }
    else if c = '\x7b' ∧ name = [] then { r with reference := some (.braced []) }
    else
      let r := { r.add (value name) with reference := none }
      if c = '$' then { r with reference := some (.bare []) } else r.add [c]
  | .braced name =>
    if c = '\x7d' then { r.add (value name) with reference := none }
    else { r with reference := some (.braced (name ++ [c])) }

/-- The character that an escape stands for. -/
def escape? (c : Char) : Option Char :=
  if c = 'n' then some '\n' else if c ∈ ['\\', '\'', '"', '$', ' '] then some c else none

/-- Reads the rest of a value. -/
def finish? (value : List Char → List Char) (r : Reading) : List Char → Option (List Char)
  | [] =>
    match r.quoting, r.reference with
    | .unquoted, none => some r.output.reverse
    | .unquoted, some (.bare name) => some (r.add (value name)).output.reverse
    | _, _ => none
  | c :: cs =>
    if r.ended then
      if c = ' ' ∨ c = '\t' then finish? value r cs
      else if c = '#' then finish? value r []
      else none
    else if r.escaped then
      match escape? c with
      | some c => finish? value { r.add [c] with escaped := false } cs
      | none => none
    else if r.quoting = .single then
      finish? value (if c = '\'' then { r with quoting := .unquoted } else r.add [c]) cs
    else match r.reference with
      | some reference => finish? value (r.refer value c reference) cs
      | none => finish? value (r.plain c) cs

end Reading

/-! ### Lines -/

/-- Reads the name of a variable. -/
def name? (cs : List Char) : Option (String × List Char) :=
  match cs with
  | [] => none
  | c :: _ =>
    if c.isAlpha ∨ c = '_' then
      let (name, rest) := cs.span fun c => c.isAlphanum || c == '_' || c == '.'
      some (String.ofList name, rest)
    else none

/-- Reads an equals sign. -/
def afterEquals? : List Char → Option (List Char)
  | '=' :: cs => some cs
  | _ => none

/-- The word that may stand in front of a name. -/
def exportWord : String := "export"

/-- Reads a name and the equals sign after it. -/
def nameBeforeValue? (cs : List Char) : Option (String × List Char) := do
  let (name, rest) ← name? cs
  let rest := Text.trimStart rest
  match afterEquals? rest with
  | some cs => return (name, cs)
  | none =>
    guard (name = exportWord)
    let (name, rest) ← name? rest
    return (name, ← afterEquals? (Text.trimStart rest))

/-- What a line says. -/
inductive Line where
  | nothing
  | variable (name value : String)
deriving Repr, DecidableEq

/-- Reads a line, given the values of variables. Blanks around it do not matter, not even escaped
ones. -/
def line? (value : List Char → List Char) (cs : List Char) : Option Line :=
  let isNothing (cs : List Char) : Bool := cs.isEmpty || cs.head? == some '#'
  let cs := Text.trim cs
  if isNothing cs then some .nothing
  else do
    let (name, cs) ← nameBeforeValue? cs
    let cs := Text.trimStart cs
    if isNothing cs then return .variable name ""
    return .variable name (String.ofList (← Reading.finish? value {} cs))

/-- The value of a variable, or nothing if there is none: that of the environment, or else the
latest of the file. -/
def valueIn (env assigned : Environment) (name : List Char) : List Char :=
  ((env.lookup (String.ofList name) <|> assigned.lookup (String.ofList name)).getD "").toList

/-- Adds the variables of logical lines to an environment. -/
def extend (env assigned : Environment) : List (Option (List Char)) → Environment
  | [] => env
  | none :: _ => env
  | some cs :: lines =>
    match line? (valueIn env assigned) cs with
    | none => env
    | some .nothing => extend env assigned lines
    | some (.variable name value) =>
      extend (if (env.lookup name).isSome then env else env ++ [(name, value)])
        ((name, value) :: assigned) lines

/-- Drops the mark that may stand at the very front of a text. -/
def dropMark : List Char → List Char
  | '\ufeff' :: cs => cs
  | cs => cs

/-- An environment with the variables of a file. -/
def load (text : String) (env : Environment) : Environment :=
  extend env [] (logicalLines [] .plain (physicalLines (dropMark text.toList)))

end CronHeatMap.EnvironmentFile
