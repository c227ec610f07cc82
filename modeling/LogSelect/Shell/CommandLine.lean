import LogSelect.Text.Digits
import LogSelect.Text.Lines

/-!
Command lines.

A word that starts with a dash is an option, unless it is a dash alone, a negative number or holds a
space; behind the divider `--` no word is.  Long options may be shortened as far as they stay
distinct, and short ones may be joined.  The other words are taken in turn as the schema, the log
and the query.  The log takes the query with it: where the words up to an option end with the log,
there is no query.
-/

namespace LogSelect.CommandLine

inductive Flag where
  | help
  | json
  | ignoreCase
  | verbose
  | quiet
  deriving DecidableEq, Repr

def spellings : List (String × Flag) :=
  [("-h", .help), ("--help", .help), ("--json", .json), ("-i", .ignoreCase),
    ("--ignore-case", .ignoreCase), ("-v", .verbose), ("--verbose", .verbose), ("-q", .quiet),
    ("--quiet", .quiet)]

/-- Why nothing is to be run: help was asked for, or the command line has no meaning. -/
inductive Stop where
  | help
  | usage
  deriving DecidableEq, Repr

def Stop.code : Stop → Nat
  | .help => 0
  | .usage => 2

def usageText : String :=
  "usage: logquery [-h] [--json] [-i] [-v | -q] schema path [query]\n\n" ++
  "Query free-form log files with a small SQL dialect.\n\n" ++
  "  schema             JSON schema file (regex + columns)\n" ++
  "  path               log file or directory of log files\n" ++
  "  query              query to run; starts a REPL when omitted\n\n" ++
  "  -h, --help         show this help message and exit\n" ++
  "  --json             print results as JSON\n" ++
  "  -i, --ignore-case  compare strings case-insensitively\n" ++
  "  -v, --verbose      log progress to stderr\n" ++
  "  -q, --quiet        only log errors\n"

/-- Text that is attached to an option, and whether an equal sign stands between. -/
structure Attached where
  equalSign : Bool
  text : List Char

inductive Word where
  | operand (text : String)
  | divider
  | option (flag : Flag) (long : Bool) (attached : Option Attached)
  | unknownOption

def splitEqual (cs : List Char) : List Char × Option Attached :=
  match cs.dropWhile (· != '=') with
  | [] => (cs, none)
  | _ :: rest => (cs.takeWhile (· != '='), some ⟨true, rest⟩)

def flag? (name : List Char) : Option Flag :=
  spellings.lookup (String.ofList name)

def isNumber (cs : List Char) : Bool :=
  let cs := if cs.getLast? = some '\n' then cs.dropLast else cs
  match cs.dropWhile isDigit with
  | [] => !cs.isEmpty
  | '.' :: rest => !rest.isEmpty && rest.all isDigit
  | _ => false

def withoutOption (arg : String) : Word :=
  if isNumber arg.toList.tail || arg.toList.contains ' ' then .operand arg else .unknownOption

/-- The meaning of a word in front of the divider.  A shortened option must not be ambiguous. -/
def word (arg : String) : Except Stop Word :=
  match arg.toList with
  | '-' :: c :: rest =>
    let (name, attached) := splitEqual ('-' :: c :: rest)
    match flag? arg.toList, attached, flag? name with
    | some flag, _, _ => .ok (.option flag (c == '-') none)
    | none, some attached, some flag => .ok (.option flag (c == '-') (some attached))
    | none, _, _ =>
      if c = '-' then
        match spellings.filter fun spelling => name.isPrefixOf spelling.1.toList with
        | [] => .ok (withoutOption arg)
        | [(_, flag)] => .ok (.option flag true attached)
        | _ => .error .usage
      else
        match flag? ['-', c] with
        | some flag => .ok (.option flag false (some ⟨false, rest⟩))
        | none => .ok (withoutOption arg)
  | _ => .ok (.operand arg)

def words : List String → Except Stop (List Word)
  | [] => .ok []
  | arg :: args =>
    if arg = "--" then .ok (.divider :: args.map .operand)
    else do
      let word ← word arg
      return word :: (← words args)

/-- The options that are joined in one word, and whether they end in an unknown one.  Text can only
be attached to a short option, without an equal sign, and reads as further options. -/
def joined (flag : Flag) : List Char → Except Stop (List Flag × Bool)
  | [] => .ok ([flag], false)
  | c :: rest =>
    if c = '-' then .error .usage
    else
      match flag? ['-', c], rest with
      | none, _ => .ok ([flag], true)
      | some _, '=' :: _ => .error .usage
      | some next, rest => (joined next rest).map fun (flags, unknown) => (flag :: flags, unknown)

def flagsOf (flag : Flag) (long : Bool) : Option Attached → Except Stop (List Flag × Bool)
  | none => .ok ([flag], false)
  | some attached =>
    if long || attached.equalSign || attached.text.isEmpty then .error .usage
    else joined flag attached.text

structure Gathered where
  flags : List Flag
  /-- Schema and log.  A divider that is taken for one of them leaves it out. -/
  operands : List (Option String)
  query : Option String
  /-- Whether there are words without use. -/
  surplus : Bool

namespace Gathered

def empty : Gathered :=
  ⟨[], [], none, false⟩

def set (gathered : Gathered) (flag : Flag) : Except Stop Gathered :=
  let excludes (a b : Flag) : Bool := flag == a && gathered.flags.contains b
  if flag = .help then .error .help
  else if excludes .verbose .quiet || excludes .quiet .verbose then .error .usage
  else .ok { gathered with flags := flag :: gathered.flags }

def operandText (divided : Bool) (text : String) : Option String :=
  if text = "--" && !divided then none else some text

def passDivider : List Word → Bool × List Word
  | .divider :: rest => (true, rest)
  | words => (false, words)

/-- The operand at the front, with a divider before or behind it. -/
def takeOperand? (words : List Word) : Option (Option String × List Word) :=
  let (before, words) := passDivider words
  match words with
  | .operand text :: rest =>
    let (behind, rest) := passDivider rest
    some (operandText (before || behind) text, rest)
  | _ => none

def fill (gathered : Gathered) (words : List Word) : Gathered × List Word :=
  let take (gathered : Gathered) (words : List Word) : Gathered × List Word :=
    match takeOperand? words with
    | some (operand, rest) =>
      ({ gathered with operands := gathered.operands ++ [operand] }, rest)
    | none => (gathered, words)
  if gathered.operands.length = 2 then (gathered, words)
  else
    let (one, rest) := take gathered words
    let (two, rest) := if one.operands.length = 1 then take one rest else (one, rest)
    if two.operands.length = 2 then
      match takeOperand? rest with
      | some (query, rest) => ({ two with query }, rest)
      | none => (two, rest)
    else
      (two, rest)

def isOption : Word → Bool
  | .option .. | .unknownOption => true
  | .operand _ | .divider => false

/-- Gather words.  At the beginning and behind an option the missing operands are filled. -/
def gather (atStart : Bool) (gathered : Gathered) : List Word → Except Stop Gathered
  | [] => .ok gathered
  | .option flag long attached :: rest => do
    let (flags, unknown) ← flagsOf flag long attached
    let gathered ← flags.foldlM set gathered
    gather true { gathered with surplus := gathered.surplus || unknown } rest
  | .unknownOption :: rest => gather true { gathered with surplus := true } rest
  | word :: rest =>
    if atStart then
      let run := (word :: rest).takeWhile (!isOption ·)
      let (filled, left) := gathered.fill run
      gather false { filled with surplus := filled.surplus || !left.isEmpty } rest
    else
      gather false gathered rest

end Gathered

structure Options where
  /-- The paths of the schema and of the log, which may be lost. -/
  schema : Option String
  log : Option String
  query : Option String
  json : Bool
  ignoreCase : Bool
  verbose : Bool
  deriving DecidableEq, Repr

def read (args : List String) : Except Stop Options := do
  let gathered ← Gathered.empty.gather true (← words args)
  match gathered.operands with
  | [schema, log] =>
    if gathered.surplus then throw .usage
    let has (flag : Flag) : Bool := gathered.flags.contains flag
    return ⟨schema, log, gathered.query, has .json, has .ignoreCase, has .verbose⟩
  | _ => throw .usage

end LogSelect.CommandLine
