import LogSelect.Schema.Basic

/-!
Schemas from texts in JSON and in YAML.
-/

namespace LogSelect.Schema

def ofJson (text : String) : Except SchemaError Schema :=
  match Json.read text with
  | .ok datum => ofDatum datum
  | .error e => .error (.json e)

def ofYaml (text : String) : Except SchemaError Schema :=
  match Yaml.read text with
  | .ok datum => ofDatum datum
  | .error e => .error (.yaml e)

end LogSelect.Schema
