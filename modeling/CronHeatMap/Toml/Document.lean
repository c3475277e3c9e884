import CronHeatMap.Toml.Scalar

/-!
# Reading TOML documents

A document consists of lines. A line in brackets begins a table, one in double brackets a further
table of a series, and any other line gives a key its value in the table that was begun last. Arrays
and some strings extend over several lines.
-/

namespace CronHeatMap.Toml

/-! ### Comments and line ends -/

/-- Skips the blanks at the front of a line and a comment, up to the end of the line. -/
def skipComment? (cs : List Char) : Option (List Char) :=
  match skipSpace cs with
  | '#' :: cs =>
    let comment := cs.takeWhile (· != '\n')
    let rest := cs.dropWhile (· != '\n')
    let returns := !rest.isEmpty && comment.getLast? == some '\r'
    if (if returns then comment.dropLast else comment).all isPrintable then some rest else none
  | cs => some cs

/-- Reads the end of a line. The last line needs no line break. -/
def lineEnd? (cs : List Char) : Option (List Char) :=
  match skipComment? cs with
  | some [] => some []
  | some cs => afterBreak? cs
  | none => none

/-- Skips blanks, line breaks and comments. `fuel` bounds the number of lines. -/
def skipLines? : Nat → List Char → Option (List Char)
  | 0, cs => some cs
  | fuel + 1, cs =>
    match skipComment? cs with
    | some rest =>
      match afterBreak? rest with
      | some rest => skipLines? fuel rest
      | none => some rest
    | none => none

/-! ### Keys -/

/-- The characters of keys without quotes. -/
def inKey (c : Char) : Bool := c.isAlphanum || c == '_' || c == '-'

/-- Reads a key. -/
def key? (cs : List Char) : Option (String × List Char) :=
  match line? cs with
  | some found => some found
  | none =>
    let (key, rest) := cs.span inKey
    if key.isEmpty then none else some (String.ofList key, rest)

/-- How many keys in a row, and how many arrays and inline tables within one another, a document may
have. -/
def deepest : Nat := 79

/-- Reads one key or more, with dots between them. `fuel` bounds their number. -/
def keys? : Nat → List Char → Option (List String × List Char)
  | 0, _ => none
  | fuel + 1, cs => do
    let (key, cs) ← key? (skipSpace cs)
    match skipSpace cs with
    | '.' :: cs =>
      let (keys, rest) ← keys? fuel cs
      return (key :: keys, rest)
    | rest => return ([key], rest)

/-- Reads keys and the equals sign after them. -/
def keysBeforeValue? (cs : List Char) : Option (List String × List Char) := do
  let (keys, cs) ← keys? deepest cs
  let '=' :: cs := cs | none
  return (keys, skipSpace cs)

/-! ### Values -/

mutual

/-- Reads a value. `fuel` bounds the number of values and their parts, and `depth` how many arrays
and inline tables may lie within one another. -/
def value? : Nat → Nat → List Char → Option (Node × List Char)
  | 0, _, _ => none
  | fuel + 1, depth, cs =>
    match cs, depth with
    | '[' :: _, 0 => none
    | '[' :: cs, depth + 1 => (items? fuel depth cs).map fun (items, rest) => (.array items, rest)
    | '\x7b' :: _, 0 => none
    | '\x7b' :: cs, depth + 1 =>
      match skipSpace cs with
      | '\x7d' :: cs => some (.table .closed [], cs)
      | cs => (pairs? fuel depth [] cs).map fun (entries, rest) => (.table .closed entries, rest)
    | cs, _ => (scalar? cs).map fun (s, rest) => (.scalar s, rest)

/-- Reads the rest of an array, which may end in a comma. -/
def items? : Nat → Nat → List Char → Option (List Node × List Char)
  | 0, _, _ => none
  | fuel + 1, depth, cs => do
    let cs ← skipLines? cs.length cs
    if let ']' :: cs := cs then
      return ([], cs)
    let (item, cs) ← value? fuel depth cs
    let cs ← skipLines? cs.length cs
    match cs with
    | ',' :: cs =>
      let (items, rest) ← items? fuel depth cs
      return (item :: items, rest)
    | ']' :: cs => return ([item], cs)
    | _ => none

/-- Reads the rest of an inline table, whose entries so far are given. -/
def pairs? : Nat → Nat → Entries → List Char → Option (Entries × List Char)
  | 0, _, _, _ => none
  | fuel + 1, depth, entries, cs => do
    let (keys, cs) ← keysBeforeValue? cs
    let (node, cs) ← value? fuel depth cs
    let entries ← Entries.assign? node keys entries
    match skipSpace cs with
    | ',' :: cs => pairs? fuel depth entries cs
    | '\x7d' :: cs => return (entries, cs)
    | _ => none

end

/-! ### Lines -/

/-- A document that is being read: its root and the keys of the table that was begun last. -/
structure Draft where
  root : Entries := []
  current : List String := []

/-- Reads the keys of a header, and the brackets that close it. -/
def header? (closing : List Char) (cs : List Char) : Option (List String × List Char) := do
  let (keys, cs) ← keys? deepest cs
  guard (closing.isPrefixOf cs)
  return (keys, cs.drop closing.length)

/-- Reads a line that is neither blank nor a comment. -/
def line (d : Draft) (cs : List Char) : Option (Draft × List Char) :=
  match cs with
  | '[' :: '[' :: cs => do
    let (keys, cs) ← header? [']', ']'] cs
    return ({ root := ← Entries.openSeries? keys d.root, current := keys }, cs)
  | '[' :: cs => do
    let (keys, cs) ← header? [']'] cs
    return ({ root := ← Entries.openTable? keys d.root, current := keys }, cs)
  | cs => do
    let (keys, cs) ← keysBeforeValue? cs
    let (node, cs) ← value? (cs.length + 1) deepest cs
    return ({ d with root := ← Entries.within? (Entries.assign? node keys) d.current d.root }, cs)

/-- Reads lines. `fuel` bounds their number. -/
def document? : Nat → Draft → List Char → Option Draft
  | 0, _, _ => none
  | fuel + 1, d, cs => do
    match ← skipLines? cs.length cs with
    | [] => return d
    | cs =>
      let (d, cs) ← line d cs
      document? fuel d (← lineEnd? cs)

/-- Drops the mark that may stand at the very front of a text. -/
def dropMark : List Char → List Char
  | '\ufeff' :: cs => cs
  | cs => cs

/-- Reads a document. -/
def parse? (text : String) : Option Entries :=
  let cs := dropMark text.toList
  (document? (cs.length + 1) {} cs).map Draft.root

end CronHeatMap.Toml
