import Mathlib.Data.List.Basic

/-!
# Configuration values

Every option the pipeline reads is a `yaml_rust2::Yaml` node. The accessors used are
`as_str`, `as_i64`, `as_bool`, `as_vec`, `as_hash` and indexing a mapping by a string
key, which yields `BadValue` when the key is absent or the node is not a mapping.
Mappings are `LinkedHashMap`s: their entries are kept in insertion order, which is the
order the `customHeaders` loop and the `errorPages` loop see.
-/

namespace Karpacz

/-- A YAML node. `Integer` holds an `i64`; every property here holds for all integers. -/
inductive Yaml
  | real (text : String)
  | integer (i : Int)
  | string (s : String)
  | boolean (b : Bool)
  | array (items : List Yaml)
  | hash (entries : List (Yaml × Yaml))
  | alias (n : Nat)
  | null
  | badValue

namespace Yaml

def asStr : Yaml → Option String
  | string s => some s
  | _ => none

def asI64 : Yaml → Option Int
  | integer i => some i
  | _ => none

def asBool : Yaml → Option Bool
  | boolean b => some b
  | _ => none

def asVec : Yaml → Option (List Yaml)
  | array items => some items
  | _ => none

def asHash : Yaml → Option (List (Yaml × Yaml))
  | hash entries => some entries
  | _ => none

def isNull : Yaml → Bool
  | null => true
  | _ => false

/-- Whether a mapping key is the string `k`. -/
def isKey (k : String) : Yaml → Bool
  | string s => s == k
  | _ => false

/-- The value under the string key `k` of a mapping's entries, or `BadValue`. -/
def lookup (k : String) (entries : List (Yaml × Yaml)) : Yaml :=
  ((entries.find? fun e => isKey k e.1).map Prod.snd).getD badValue

/-- `yaml[k]`. -/
def index (y : Yaml) (k : String) : Yaml :=
  match y with
  | hash entries => lookup k entries
  | _ => badValue

end Yaml

/-- Modelled from the spec: `ferron_common::ServerConfigRoot` is not under `src/`. It is
the effective configuration, a mapping from option names to values; `get` returns
`BadValue` for an option that is not set. -/
structure ServerConfigRoot where
  entries : List (Yaml × Yaml)

/-- `ServerConfigRoot::get`. -/
def ServerConfigRoot.get (c : ServerConfigRoot) (k : String) : Yaml := Yaml.lookup k c.entries

end Karpacz
