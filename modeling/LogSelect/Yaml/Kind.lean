import LogSelect.Pattern.Match
import LogSelect.Pattern.Read

/-!
The kinds of nodes.  A tag names the kind; a scalar without tag and quotes tells its kind by its
form.
-/

namespace LogSelect.Yaml

inductive Kind where
  | null
  | truth
  | whole
  | real
  | text
  | bytes
  | timestamp
  | sequence
  | mapping
  | set
  | pairs
  /-- The key under which a mapping takes over the entries of others. -/
  | merge
  /-- The key of the value that stands for a whole mapping. -/
  | default
  | unknown
  deriving DecidableEq, Repr

/-- A way to write scalars of a kind: a pattern, and the characters that may come first. -/
structure Form where
  kind : Kind
  starts : String
  pattern : Pattern

namespace Kind

def tagStart : List Char :=
  "tag:yaml.org,2002:".toList

def tags : List (String × Kind) :=
  [("null", .null), ("bool", .truth), ("int", .whole), ("float", .real), ("str", .text),
    ("binary", .bytes), ("timestamp", .timestamp), ("seq", .sequence), ("map", .mapping),
    ("set", .set), ("omap", .pairs), ("pairs", .pairs), ("merge", .merge), ("value", .default)]

def ofTag (tag : List Char) : Kind :=
  if tagStart.isPrefixOf tag then
    (tags.lookup (String.ofList (tag.drop tagStart.length))).getD .unknown
  else
    .unknown

/-- The kind by an optional tag.  No tag, or the tag of one exclamation mark, leaves `standard`. -/
def ofMark (standard : Kind) : Option (List Char) → Kind
  | none => standard
  | some tag => if tag = ['!'] then standard else ofTag tag

def pattern (text : String) : Pattern :=
  (Pattern.ofText text).toOption.getD ⟨.empty, []⟩

/-- The forms of scalars.  Whole numbers may be binary, octal, decimal, hexadecimal or in base 60,
and numbers may be divided by underscores. -/
def forms : List Form :=
  [⟨.truth, "yYnNtTfFoO",
      pattern ("^(?:yes|Yes|YES|no|No|NO|true|True|TRUE|false|False|FALSE" ++
        "|on|On|ON|off|Off|OFF)$")⟩,
    ⟨.real, "-+0123456789.",
      pattern ("^(?:[-+]?(?:[0-9][0-9_]*)\\.[0-9_]*(?:[eE][-+][0-9]+)?" ++
        "|\\.[0-9][0-9_]*(?:[eE][-+][0-9]+)?" ++
        "|[-+]?[0-9][0-9_]*(?::[0-5]?[0-9])+\\.[0-9_]*" ++
        "|[-+]?\\.(?:inf|Inf|INF)|\\.(?:nan|NaN|NAN))$")⟩,
    ⟨.whole, "-+0123456789",
      pattern ("^(?:[-+]?0b[0-1_]+|[-+]?0[0-7_]+|[-+]?(?:0|[1-9][0-9_]*)" ++
        "|[-+]?0x[0-9a-fA-F_]+|[-+]?[1-9][0-9_]*(?::[0-5]?[0-9])+)$")⟩,
    ⟨.merge, "<", pattern "^(?:<<)$"⟩,
    ⟨.null, "~nN", pattern "^(?:~|null|Null|NULL)$"⟩,
    ⟨.timestamp, "0123456789",
      pattern ("^(?:[0-9][0-9][0-9][0-9]-[0-9][0-9]-[0-9][0-9]" ++
        "|[0-9][0-9][0-9][0-9]-[0-9][0-9]?-[0-9][0-9]?(?:[Tt]|[ \\t]+)[0-9][0-9]?" ++
        ":[0-9][0-9]:[0-9][0-9](?:\\.[0-9]*)?" ++
        "(?:[ \\t]*(?:Z|[-+][0-9][0-9]?(?::[0-9][0-9])?))?)$")⟩,
    ⟨.default, "=", pattern "^(?:=)$"⟩,
    ⟨.unknown, "!&*", pattern "^(?:!|&|\\*)$"⟩]

/-- The kind of a scalar that has no other mark than its form.  Nothing at all is null. -/
def ofForm (text : String) : Kind :=
  match text.toList with
  | [] => .null
  | c :: _ =>
    let fits (form : Form) : Bool :=
      form.starts.toList.contains c && (form.pattern.search text).isSome
    ((forms.find? fits).map (·.kind)).getD .text

end Kind

end LogSelect.Yaml
