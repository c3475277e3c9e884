import CronHeatMap.Text.Lines

/-!
# Launch options

How the words of the command line are read. An option has a long name after two hyphens, and maybe a
letter after one. Its value is attached, with an equals sign or directly after the letter, or it is
the next word, which then may not look like an option.

Words are read from left to right. An option that still lacks its value when the next option has
been recognised is at fault then; hence a word that cannot be recognised at all is reported first.
-/

namespace CronHeatMap

/-- The options that take a value. -/
inductive Setting where
  | server
  | date
  | timezone
  | config
  | url
  | expression
deriving Repr, DecidableEq

/-- The options. -/
inductive Flag where
  /-- An option that takes a value. -/
  | setting (s : Setting)
  | once
  | help
deriving Repr, DecidableEq

/-- How the program is launched. -/
structure Options where
  server : Option String := none
  date : Option String := none
  timezone : Option String := none
  config : Option String := none
  url : Option String := none
  expressions : List String := []
  once : Bool := false
deriving Repr, DecidableEq, Inhabited

namespace Options

/-- Why the words of the command line are refused. -/
inductive Fault where
  /-- An option is given twice, or together with one that excludes it. -/
  | conflict
  /-- A word is no option. -/
  | unknown
  /-- The value of an option is missing. -/
  | noValue
  /-- An option that takes no value has one. -/
  | needlessValue
  /-- Help is asked for. -/
  | help
deriving Repr, DecidableEq

/-- The option with a long name. -/
def long? (name : String) : Option Flag :=
  match name with
  | "server" => some (.setting .server)
  | "date" => some (.setting .date)
  | "timezone" => some (.setting .timezone)
  | "config" => some (.setting .config)
  | "url" => some (.setting .url)
  | "expression" => some (.setting .expression)
  | "once" => some .once
  | "help" => some .help
  | _ => none

/-- The option with a letter. -/
def short? : Char → Option Flag
  | 'e' => some (.setting .expression)
  | 'h' => some .help
  | _ => none

/-- Sets something that may be set once only. -/
def setOnce (old : Option String) (value : String) : Except Fault (Option String) :=
  match old with
  | none => .ok (some value)
  | some _ => .error .conflict

/-- Gives a setting its value. -/
def set (o : Options) (value : String) : Setting → Except Fault Options
  | .server => (setOnce o.server value).map fun server => { o with server }
  | .date => (setOnce o.date value).map fun date => { o with date }
  | .timezone => (setOnce o.timezone value).map fun timezone => { o with timezone }
  | .config => (setOnce o.config value).map fun config => { o with config }
  | .url => (setOnce o.url value).map fun url => { o with url }
  | .expression => .ok { o with expressions := o.expressions ++ [value] }

/-- What has been read so far: the options, and a setting with its value, or still without it, that
has not been put into them. -/
structure Progress where
  options : Options := {}
  pending : Option (Setting × Option String) := none

namespace Progress

/-- Puts the pending setting into the options. -/
def settle (p : Progress) : Except Fault Options :=
  match p.pending with
  | none => .ok p.options
  | some (_, none) => .error .noValue
  | some (setting, some value) => p.options.set value setting

/-- Reads an option with the value attached to it, if there is one. -/
def option (p : Progress) (attached : Option (List Char)) : Flag → Except Fault Progress
  | .setting setting => do
    let options ← p.settle
    match attached with
    | some value => return { options := ← options.set (String.ofList value) setting }
    | none => return { options, pending := some (setting, none) }
  | .once => do
    let options ← p.settle
    if options.once then throw .conflict
    return { options := { options with once := true } }
  | .help => do
    let _ ← p.settle
    throw .help

/-- Reads an option by its long name, which an equals sign may follow. -/
def long (p : Progress) (cs : List Char) : Except Fault Progress :=
  let (name, attached) := match Text.cutAt (· == '=') cs with
    | some (name, value) => (name, some value)
    | none => (cs, none)
  match long? (String.ofList name), attached with
  | none, _ => .error .unknown
  | some (.setting setting), _ => p.option attached (.setting setting)
  | some _, some _ => .error .needlessValue
  | some flag, none => p.option none flag

/-- Reads an option by its letter. What follows the letter is its value. -/
def short (p : Progress) (letter : Char) (rest : List Char) : Except Fault Progress :=
  match short? letter, rest with
  | none, _ => .error .unknown
  | some flag, [] => p.option none flag
  | some flag, '=' :: value => p.option (some value) flag
  | some flag, value => p.option (some value) flag

/-- Reads a word. -/
def word (p : Progress) (cs : List Char) : Except Fault Progress :=
  match cs, p.pending with
  | '-' :: '-' :: name, _ => p.long name
  | '-' :: letter :: rest, _ => p.short letter rest
  | _, some (setting, none) => .ok { p with pending := some (setting, some (String.ofList cs)) }
  | _, _ => .error .unknown

end Progress

/-- Two hyphens alone say that no options follow; but there is nothing else that could. -/
def endOfOptions : String := "--"

/-- Reads words after some progress. -/
def readWords (p : Progress) : List String → Except Fault Options
  | [] => p.settle
  | w :: ws =>
    if w = endOfOptions then (if ws.isEmpty then p.settle else .error .unknown)
    else (p.word w.toList).bind fun p => readWords p ws

/-- An address excludes what it already holds. -/
def inConflict (o : Options) : Bool := o.url.isSome && (o.date.isSome || !o.expressions.isEmpty)

/-- Reads the words of the command line. -/
def parse (words : List String) : Except Fault Options := do
  let options ← readWords {} words
  if options.inConflict then throw .conflict
  return options

/-- Why the words of the command line are refused, in words. -/
def Fault.message : Fault → String
  | conflict => "an option is given twice, or excludes another one"
  | unknown => "a word is no option"
  | noValue => "the value of an option is missing"
  | needlessValue => "an option that takes no value has one"
  | help => "help is asked for"

/-- What the options do, in words. -/
def overview : List String :=
  ["Usage: crontention [options]",
   "",
   "--server <url>           address of the service",
   "--date <text>            date to ask about (today or YYYY-MM-DD)",
   "--timezone <zone>        IANA time zone of the axes",
   "--config <path>          settings file",
   "--url <query>            shareable query to start with",
   "-e, --expression <cron>  expression to start with, more than once if need be",
   "--once                   paint once and exit",
   "-h, --help               print this help"]

end Options

end CronHeatMap
