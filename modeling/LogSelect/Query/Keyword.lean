/-!
The thirteen reserved words.  A word is reserved if its upper-case form is one of them.  Some
characters outside ASCII take part: the sharp s, the dotless i, the long s and the ligatures of
Latin letters have upper-case forms of ASCII letters.
-/

namespace LogSelect

/-- A reserved word, named by its part in a query. -/
inductive Keyword where
  | select | label | source | filter
  | conj | disj | neg
  | order | key | ascending | descending
  | limit | offset
  deriving DecidableEq, Repr

namespace Keyword

def spelling : Keyword → String
  | .select => "SELECT"
  | .label => "AS"
  | .source => "FROM"
  | .filter => "WHERE"
  | .conj => "AND"
  | .disj => "OR"
  | .neg => "NOT"
  | .order => "ORDER"
  | .key => "BY"
  | .ascending => "ASC"
  | .descending => "DESC"
  | .limit => "LIMIT"
  | .offset => "OFFSET"

def all : List Keyword :=
  [.select, .label, .source, .filter, .conj, .disj, .neg, .order, .key, .ascending, .descending,
    .limit, .offset]

/-- The characters outside ASCII whose upper-case form consists of ASCII letters. -/
def foreignCapitals : List (Char × List Char) :=
  [('ß', ['S', 'S']), ('ı', ['I']), ('ſ', ['S']), ('ﬀ', ['F', 'F']), ('ﬁ', ['F', 'I']),
    ('ﬂ', ['F', 'L']), ('ﬃ', ['F', 'F', 'I']), ('ﬄ', ['F', 'F', 'L']), ('ﬅ', ['S', 'T']),
    ('ﬆ', ['S', 'T'])]

/-- The upper-case form of `c`, as far as it can matter for a reserved word: characters whose form
is not made of ASCII letters stand for themselves. -/
def capitals (c : Char) : List Char :=
  (foreignCapitals.lookup c).getD [c.toUpper]

def ofWord? (word : List Char) : Option Keyword :=
  all.find? fun keyword => word.flatMap capitals == keyword.spelling.toList

end Keyword

end LogSelect
