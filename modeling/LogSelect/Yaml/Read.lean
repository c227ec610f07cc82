import LogSelect.Yaml.Node
import LogSelect.Yaml.Value

/-!
Data from YAML texts.

A mapping takes over the entries of the mappings under its merge keys; its own entries count more.
A key given twice keeps its first place and its last value.  Of several faults the one nearest to
the root counts, and of equally near ones the first.
-/

namespace LogSelect.Yaml

/-- An error, and how deep under a node it lies. -/
structure Fault where
  depth : Nat
  error : Error

abbrev Built (α : Type) := Except Fault α

namespace Built

def here {α : Type} (error : Error) : Built α :=
  .error ⟨0, error⟩

def inside {α : Type} (built : Built α) : Built α :=
  built.mapError fun fault => { fault with depth := fault.depth + 1 }

def both {α β : Type} : Built α → Built β → Built (α × β)
  | .ok a, .ok b => .ok (a, b)
  | .error e, .error f => .error (if f.depth < e.depth then f else e)
  | .error e, .ok _ | .ok _, .error e => .error e

end Built

open Built

def isKey : Datum → Bool
  | .list _ | .map _ | .set _ => false
  | _ => true

/-- A key, which is found unfit once it is built. -/
def checkKey (key : Built Datum) : Built Datum :=
  match key with
  | .ok datum => if isKey datum then key else here .malformed
  | .error fault => if fault.depth = 0 then key else here .malformed

/-- Whether the members of a node of a kind are built after the node itself. -/
def Kind.isCollection : Kind → Bool
  | .sequence | .mapping | .set | .pairs => true
  | _ => false

def misshapen {α : Type} (kind : Kind) : Built α :=
  .error ⟨if kind.isCollection then 1 else 0, .malformed⟩

def scalarOf (kind : Kind) (text : String) : Built Datum :=
  if kind.isCollection then misshapen kind else (valueOf kind text).mapError (⟨0, ·⟩)

namespace Node

def kind : Node → Kind
  | .scalar kind _ | .sequence kind _ | .mapping kind _ => kind

mutual

/-- The text of a scalar, or of the value that stands for a mapping. -/
def scalarText? : Node → Option String
  | .scalar _ text => some text
  | .sequence .. => none
  | .mapping _ entries => defaultText? entries

def defaultText? : List (Node × Node) → Option String
  | [] => none
  | (key, value) :: entries =>
    if key.kind = .default then value.scalarText? else defaultText? entries

end

mutual

def build : Node → Built Datum
  | .scalar kind text => scalarOf kind text
  | .sequence kind items =>
    match kind with
    | .sequence => inside ((buildAll items).map .list)
    | .pairs => inside ((buildPairs items).map .list)
    | kind => misshapen kind
  | .mapping kind entries =>
    match kind with
    | .mapping =>
      inside ((both (buildMerged entries) (buildOwn entries)).map fun (merged, own) =>
        Datum.mapOf (merged ++ own))
    | .set =>
      inside ((both (buildMerged entries) (buildOwn entries)).map fun (merged, own) =>
        .set ((merged ++ own).foldl (fun known (key, _) =>
          if known.any (·.sameKey key) then known else known ++ [key]) []))
    | kind =>
      match defaultText? entries with
      | some text => scalarOf kind text
      | none => misshapen kind

def buildAll : List Node → Built (List Datum)
  | [] => .ok []
  | item :: items => (both item.build (buildAll items)).map fun (datum, data) => datum :: data

def buildPairs : List Node → Built (List Datum)
  | [] => .ok []
  | .mapping _ [(key, value)] :: items =>
    (both (both key.build value.build) (buildPairs items)).map fun ((key, value), pairs) =>
      .pair key value :: pairs
  | _ :: _ => here .malformed

/-- The key of an entry.  The key that stands for a whole mapping is a text here. -/
def buildKey : Node → Built Datum
  | .scalar kind text => checkKey (scalarOf (if kind = .default then .text else kind) text)
  | node => checkKey node.build

def buildOwn : List (Node × Node) → Built (List (Datum × Datum))
  | [] => .ok []
  | (key, value) :: entries =>
    if key.kind = .merge then buildOwn entries
    else (both (both key.buildKey value.build) (buildOwn entries)).map fun (entry, own) =>
      entry :: own

def buildMerged : List (Node × Node) → Built (List (Datum × Datum))
  | [] => .ok []
  | (key, value) :: entries =>
    if key.kind = .merge then
      (both value.buildSource (buildMerged entries)).map fun (first, others) => first ++ others
    else
      buildMerged entries

/-- The entries under a merge key: those of a mapping, or of several, of which the first counts
most. -/
def buildSource : Node → Built (List (Datum × Datum))
  | .scalar .. => here .malformed
  | .mapping _ entries =>
    (both (buildMerged entries) (buildOwn entries)).map fun (merged, own) => merged ++ own
  | .sequence _ items => buildSources items

/-- The entries of several mappings, those of the last one first. -/
def buildSources : List Node → Built (List (Datum × Datum))
  | [] => .ok []
  | .mapping _ entries :: items =>
    (both (both (buildMerged entries) (buildOwn entries)) (buildSources items)).map
      fun ((merged, own), others) => others ++ (merged ++ own)
  | _ :: _ => here .malformed

end

end Node

def read (s : String) : Except Error Datum := do
  (← Node.ofTokens (tokens s.toList)).build.mapError Fault.error

end LogSelect.Yaml
