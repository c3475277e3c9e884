import CronHeatMap.Text.Form

/-!
# JSON texts

Reads a JSON text into a tree. The grammar is strict: white space is limited to four characters,
control characters may not stand in strings, nothing may follow the value. Escaped surrogates are
allowed anywhere in a string, but a string in which they do not come in pairs has no content.
-/

namespace CronHeatMap.Json

/-- A JSON value. -/
inductive Value where
  | null
  | bool (b : Bool)
  /-- A number as it was written. -/
  | number (literal : List Char)
  /-- A string with its content, if it has one. -/
  | string (content : Option String)
  | array (items : List Value)
  /-- The members in the order written, repeated keys included. -/
  | object (members : List (Option String × Value))
deriving Inhabited

/-- The characters that may stand between the parts of a text. -/
def isSpace (c : Char) : Bool := c == ' ' || c == '\n' || c == '\t' || c == '\r'

/-- A text without the white space at its front. -/
def skipSpace (cs : List Char) : List Char := cs.dropWhile isSpace

/-! ### Strings -/

/-- A part of a string: a character, or a code unit that was escaped by number. -/
inductive Piece where
  | char (c : Char)
  | codeUnit (n : Nat)

/-- The number that four hexadecimal digits spell. -/
def hex4? (a b c d : Char) : Option Nat := do
  let digit := Text.Form.hexValue?
  return (((← digit a) * 16 + (← digit b)) * 16 + (← digit c)) * 16 + (← digit d)

/-- The character that a letter after a backslash stands for. -/
def escaped? : Char → Option Char
  | '"' => some '"'
  | '\\' => some '\\'
  | '/' => some '/'
  | 'b' => some '\x08'
  | 'f' => some '\x0c'
  | 'n' => some '\n'
  | 'r' => some '\r'
  | 't' => some '\t'
  | _ => none

/-- Reads the rest of a string up to its closing quotation mark. -/
def pieces? : List Char → Option (List Piece × List Char)
  | [] => none
  | '"' :: cs => some ([], cs)
  | '\\' :: 'u' :: a :: b :: c :: d :: cs => do
    let n ← hex4? a b c d
    let (ps, rest) ← pieces? cs
    return (.codeUnit n :: ps, rest)
  | '\\' :: e :: cs => do
    let c ← escaped? e
    let (ps, rest) ← pieces? cs
    return (.char c :: ps, rest)
  | c :: cs =>
    if c.toNat < 0x20 ∨ c = '\\' then none
    else (pieces? cs).map fun (ps, rest) => (.char c :: ps, rest)

/-- The first half of a surrogate pair. -/
def isHigh (n : Nat) : Bool := 0xD800 ≤ n && n < 0xDC00

/-- The second half of a surrogate pair. -/
def isLow (n : Nat) : Bool := 0xDC00 ≤ n && n < 0xE000

/-- The content of a string, unless a half of a surrogate pair stands alone. -/
def content? : List Piece → Option (List Char)
  | [] => some []
  | .char c :: ps => (content? ps).map (c :: ·)
  | .codeUnit n :: .codeUnit m :: ps =>
    if isHigh n && isLow m then
      (content? ps).map (Char.ofNat (0x10000 + (n - 0xD800) * 0x400 + (m - 0xDC00)) :: ·)
    else if isHigh n || isLow n then none
    else (content? (.codeUnit m :: ps)).map (Char.ofNat n :: ·)
  | .codeUnit n :: ps =>
    if isHigh n || isLow n then none else (content? ps).map (Char.ofNat n :: ·)

/-- Reads a string after its opening quotation mark. -/
def string? (cs : List Char) : Option (Option String × List Char) :=
  (pieces? cs).map fun (ps, rest) => ((content? ps).map String.ofList, rest)

/-! ### Numbers -/

/-- The digits at the front of a text, and what follows them. -/
def digits (cs : List Char) : List Char × List Char := cs.span Char.isDigit

/-- Reads one digit or more. -/
def digits? (cs : List Char) : Option (List Char × List Char) :=
  let (ds, rest) := digits cs
  if ds.isEmpty then none else some (ds, rest)

/-- Reads the whole part of a number, which has no needless zero in front. -/
def whole? : List Char → Option (List Char × List Char)
  | '0' :: cs => some (['0'], cs)
  | cs => digits? cs

/-- Reads the fraction of a number, if there is one. -/
def fraction? : List Char → Option (List Char × List Char)
  | '.' :: cs => (digits? cs).map fun (ds, rest) => ('.' :: ds, rest)
  | cs => some ([], cs)

/-- Reads the exponent of a number, if there is one. -/
def exponent? : List Char → Option (List Char × List Char)
  | c :: cs =>
    if c = 'e' ∨ c = 'E' then
      match cs with
      | '+' :: cs => (digits? cs).map fun (ds, rest) => (c :: '+' :: ds, rest)
      | '-' :: cs => (digits? cs).map fun (ds, rest) => (c :: '-' :: ds, rest)
      | cs => (digits? cs).map fun (ds, rest) => (c :: ds, rest)
    else some ([], c :: cs)
  | [] => some ([], [])

/-- Reads a number without a sign. -/
def unsigned? (cs : List Char) : Option (List Char × List Char) := do
  let (ws, cs) ← whole? cs
  let (fs, cs) ← fraction? cs
  let (es, cs) ← exponent? cs
  return (ws ++ fs ++ es, cs)

/-- Reads a number. -/
def number? : List Char → Option (List Char × List Char)
  | '-' :: cs => (unsigned? cs).map fun (ds, rest) => ('-' :: ds, rest)
  | cs => unsigned? cs

/-! ### Values -/

mutual

/-- Reads a value, descending at most `depth` steps. -/
def value? : Nat → List Char → Option (Value × List Char)
  | 0, _ => none
  | depth + 1, cs =>
    match skipSpace cs with
    | 'n' :: 'u' :: 'l' :: 'l' :: cs => some (.null, cs)
    | 't' :: 'r' :: 'u' :: 'e' :: cs => some (.bool true, cs)
    | 'f' :: 'a' :: 'l' :: 's' :: 'e' :: cs => some (.bool false, cs)
    | '"' :: cs => (string? cs).map fun (s, rest) => (.string s, rest)
    | '[' :: cs =>
      match skipSpace cs with
      | ']' :: cs => some (.array [], cs)
      | cs => (items? depth cs).map fun (vs, rest) => (.array vs, rest)
    | '\x7b' :: cs =>
      match skipSpace cs with
      | '\x7d' :: cs => some (.object [], cs)
      | cs => (members? depth cs).map fun (ms, rest) => (.object ms, rest)
    | cs => (number? cs).map fun (literal, rest) => (.number literal, rest)

/-- Reads one item or more, up to the end of the array. -/
def items? : Nat → List Char → Option (List Value × List Char)
  | 0, _ => none
  | depth + 1, cs => do
    let (v, cs) ← value? depth cs
    match skipSpace cs with
    | ',' :: cs =>
      let (vs, rest) ← items? depth cs
      return (v :: vs, rest)
    | ']' :: cs => return ([v], cs)
    | _ => none

/-- Reads one member or more, up to the end of the object. -/
def members? : Nat → List Char → Option (List (Option String × Value) × List Char)
  | 0, _ => none
  | depth + 1, cs => do
    let '"' :: cs := skipSpace cs | none
    let (key, cs) ← string? cs
    let ':' :: cs := skipSpace cs | none
    let (v, cs) ← value? depth cs
    match skipSpace cs with
    | ',' :: cs =>
      let (ms, rest) ← members? depth cs
      return ((key, v) :: ms, rest)
    | '\x7d' :: cs => return ([(key, v)], cs)
    | _ => none

end

/-- Reads a text that consists of one value. Each step of the descent takes up a character, so the
length of the text bounds their number. -/
def parse? (text : String) : Option Value :=
  let cs := text.toList
  match value? (cs.length + 1) cs with
  | some (v, rest) => if (skipSpace rest).isEmpty then some v else none
  | none => none

end CronHeatMap.Json
