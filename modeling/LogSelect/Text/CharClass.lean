/-!
Character classes given by their boundaries: the ascending code points at which membership
changes, starting from "not a member".
-/

namespace LogSelect

/-- A set of characters, by the code points at which membership changes. -/
structure CharClass where
  boundaries : List Nat

/-- Membership of `code`, given the membership `inside` of all code points below the list. -/
def CharClass.memberFrom (code : Nat) (inside : Bool) : List Nat → Bool
  | [] => inside
  | boundary :: rest =>
    if code < boundary then inside else memberFrom code (!inside) rest

def CharClass.contains (charClass : CharClass) (c : Char) : Bool :=
  CharClass.memberFrom c.toNat false charClass.boundaries

end LogSelect
