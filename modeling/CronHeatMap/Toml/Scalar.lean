import CronHeatMap.Calendar.Date
import CronHeatMap.Toml.Node
import CronHeatMap.Toml.Number

/-!
# TOML scalars

Strings in their four ways of writing, and the words that stand for numbers, truth values and dates.
-/

namespace CronHeatMap.Toml

/-- The characters that may stand in comments and on the lines of strings. -/
def isPrintable (c : Char) : Bool := c == '\t' || (0x20 ≤ c.toNat && c.toNat != 0x7F)

/-- The blanks within a line. -/
def isSpace (c : Char) : Bool := c == ' ' || c == '\t'

/-- A text without the blanks at its front. -/
def skipSpace (cs : List Char) : List Char := cs.dropWhile isSpace

/-- What follows the line break at the front of a text, if there is one. -/
def afterBreak? : List Char → Option (List Char)
  | '\n' :: cs => some cs
  | '\r' :: '\n' :: cs => some cs
  | _ => none

/-! ### Strings -/

/-- The character with a number, if there is one. -/
def charOf? (n : Nat) : Option Char := if n.isValidChar then some (Char.ofNat n) else none

/-- The number that hexadecimal digits spell. -/
def hex? (cs : List Char) : Option Nat :=
  cs.foldlM (fun n c => (Text.Form.hexValue? c).map (16 * n + ·)) 0

/-- Reads an escape after its backslash. -/
def escape? : List Char → Option (Char × List Char)
  | 'b' :: cs => some ('\x08', cs)
  | 't' :: cs => some ('\t', cs)
  | 'n' :: cs => some ('\n', cs)
  | 'f' :: cs => some ('\x0c', cs)
  | 'r' :: cs => some ('\r', cs)
  | '"' :: cs => some ('"', cs)
  | '\\' :: cs => some ('\\', cs)
  | 'u' :: cs => digits 4 cs
  | 'U' :: cs => digits 8 cs
  | _ => none
where
  /-- Reads a character by its number, which has `n` digits. -/
  digits (n : Nat) (cs : List Char) : Option (Char × List Char) :=
    if cs.length < n then none
    else (hex? (cs.take n) >>= charOf?).map fun c => (c, cs.drop n)

/-- Reads the rest of a string on one line, in which backslashes escape. `fuel` bounds the number of
characters. -/
def basic? : Nat → List Char → Option (List Char × List Char)
  | 0, _ => none
  | _, [] => none
  | _, '"' :: cs => some ([], cs)
  | fuel + 1, '\\' :: cs => do
    let (c, cs) ← escape? cs
    let (text, rest) ← basic? fuel cs
    return (c :: text, rest)
  | fuel + 1, c :: cs =>
    if isPrintable c then (basic? fuel cs).map fun (text, rest) => (c :: text, rest) else none

/-- Reads the rest of a string on one line, in which nothing escapes. -/
def literal? : List Char → Option (List Char × List Char)
  | [] => none
  | '\'' :: cs => some ([], cs)
  | c :: cs =>
    if isPrintable c then (literal? cs).map fun (text, rest) => (c :: text, rest) else none

/-- Drops the blanks and line breaks at the front of a text. -/
def skipBlank : List Char → List Char
  | '\r' :: '\n' :: cs => skipBlank cs
  | c :: cs => if isSpace c || c == '\n' then skipBlank cs else c :: cs
  | [] => []

/-- Reads the rest of a string on several lines, which `quote` closes when it comes three times.
With `escapes`, backslashes escape, and one at the end of a line joins it with the next. `fuel`
bounds the number of steps. -/
def lines? (quote : Char) (escapes : Bool) : Nat → List Char → Option (List Char × List Char)
  | 0, _ => none
  | _, [] => none
  | fuel + 1, c :: cs =>
    if c = quote then
      let run := 1 + (cs.takeWhile (· == quote)).length
      if run < 3 then (lines? quote escapes fuel cs).map fun (text, rest) => (c :: text, rest)
      else
        let kept := min (run - 3) 2
        some (List.replicate kept quote, (c :: cs).drop (kept + 3))
    else if c = '\\' ∧ escapes then
      match afterBreak? (skipSpace cs) with
      | some rest => lines? quote escapes fuel (skipBlank rest)
      | none => do
        let (c, cs) ← escape? cs
        let (text, rest) ← lines? quote escapes fuel cs
        return (c :: text, rest)
    else match afterBreak? (c :: cs) with
      | some rest => (lines? quote escapes fuel rest).map fun (text, rest) => ('\n' :: text, rest)
      | none =>
        if isPrintable c then
          (lines? quote escapes fuel cs).map fun (text, rest) => (c :: text, rest)
        else none

/-- Reads a string on one line, which keys may be, too. -/
def line? : List Char → Option (String × List Char)
  | '"' :: cs => (basic? (cs.length + 1) cs).map fun (text, rest) => (String.ofList text, rest)
  | '\'' :: cs => (literal? cs).map fun (text, rest) => (String.ofList text, rest)
  | _ => none

/-- Reads a string. -/
def string? (cs : List Char) : Option (String × List Char) :=
  let several (quote : Char) (escapes : Bool) (cs : List Char) : Option (String × List Char) :=
    let cs := (afterBreak? cs).getD cs
    (lines? quote escapes (cs.length + 1) cs).map fun (text, rest) => (String.ofList text, rest)
  match cs with
  | '"' :: '"' :: '"' :: cs => several '"' true cs
  | '\'' :: '\'' :: '\'' :: cs => several '\'' false cs
  | cs => line? cs

/-! ### Dates and times -/

/-- Reads a number of exactly `width` digits in a range. -/
def field? (width low high : Nat) (cs : List Char) : Option (Nat × List Char) := do
  guard (width ≤ cs.length)
  let n ← Text.readDigits? (cs.take width)
  guard (low ≤ n ∧ n ≤ high)
  return (n, cs.drop width)

/-- Reads a character. -/
def mark? (isMark : Char → Bool) : List Char → Option (List Char)
  | [] => none
  | c :: cs => if isMark c then some cs else none

/-- Reads a date. -/
def date? (cs : List Char) : Option (List Char) := do
  let (year, cs) ← field? 4 0 9999 cs
  let cs ← mark? (· == '-') cs
  let (month, cs) ← field? 2 1 12 cs
  let cs ← mark? (· == '-') cs
  let (day, cs) ← field? 2 1 31 cs
  guard (Calendar.Exists year month day)
  return cs

/-- Reads the fraction of a second, if there is one. -/
def fraction? : List Char → Option (List Char)
  | '.' :: c :: cs => if c.isDigit then some (cs.dropWhile Char.isDigit) else none
  | '.' :: [] => none
  | cs => some cs

/-- Reads a time of day. -/
def time? (cs : List Char) : Option (List Char) := do
  let (_, cs) ← field? 2 0 23 cs
  let cs ← mark? (· == ':') cs
  let (_, cs) ← field? 2 0 59 cs
  let cs ← mark? (· == ':') cs
  let (_, cs) ← field? 2 0 60 cs
  fraction? cs

/-- Reads the distance from universal time, if there is one. -/
def offset? : List Char → Option (List Char)
  | [] => some []
  | c :: cs =>
    if c = 'Z' ∨ c = 'z' then some cs
    else if c = '+' ∨ c = '-' then do
      let (_, cs) ← field? 2 0 23 cs
      let cs ← mark? (· == ':') cs
      let (_, cs) ← field? 2 0 59 cs
      return cs
    else some (c :: cs)

/-- The text is a date, a time, or both with a letter or a space between them. -/
def isDatetime (cs : List Char) : Bool :=
  match date? cs with
  | some [] => true
  | some (c :: rest) =>
    (c == 'T' || c == 't' || c == ' ') && (time? rest >>= offset?) == some []
  | none => time? cs == some []

/-! ### Words -/

/-- The characters of words. -/
def inWord (c : Char) : Bool :=
  c.isAlphanum || c == '+' || c == '-' || c == '_' || c == '.' || c == ':'

/-- The scalar that a word stands for. -/
def ofWord? (cs : List Char) : Option Scalar :=
  if cs = "true".toList then some (.boolean true)
  else if cs = "false".toList then some (.boolean false)
  else match integer? cs with
    | some n => some (.integer n)
    | none =>
      if isFloat cs then some (.float (String.ofList cs))
      else if isDatetime cs then some (.datetime (String.ofList cs))
      else none

/-- Reads a word. A date may be followed by a space and a time. -/
def word? (cs : List Char) : Option (Scalar × List Char) :=
  let (word, rest) := cs.span inWord
  match rest with
  | ' ' :: d :: _ =>
    if date? word = some [] ∧ d.isDigit then
      let (time, rest) := rest.tail.span inWord
      (ofWord? (word ++ ' ' :: time)).map fun s => (s, rest)
    else (ofWord? word).map fun s => (s, rest)
  | _ => (ofWord? word).map fun s => (s, rest)

/-- Reads a scalar. -/
def scalar? (cs : List Char) : Option (Scalar × List Char) :=
  match cs with
  | '"' :: _ => (string? cs).map fun (text, rest) => (.string text, rest)
  | '\'' :: _ => (string? cs).map fun (text, rest) => (.string text, rest)
  | _ => word? cs

end CronHeatMap.Toml
