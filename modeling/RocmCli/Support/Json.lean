import RocmCli.Support.Text

namespace RocmCli

/-!
# JSON values

Values as the programs' JSON reader hands them on, and the views they take of
them.
-/

/-- Numbers as the JSON reader keeps them apart. -/
inductive JsonNumber where
  | unsigned (value : UInt64)
  | negative (value : Int64)
  | float (text : String)
  deriving DecidableEq, Repr

inductive Json where
  | null
  | bool (value : Bool)
  | number (value : JsonNumber)
  | string (value : String)
  | array (values : List Json)
  | object (entries : List (String × Json))

namespace Json

def asObject : Json -> Option (List (String × Json))
  | object entries => some entries
  | _ => none

def asArray : Json -> Option (List Json)
  | array values => some values
  | _ => none

def asStr : Json -> Option String
  | string value => some value
  | _ => none

def asBool : Json -> Option Bool
  | bool value => some value
  | _ => none

def asU64 : Json -> Option Nat
  | number (.unsigned value) => some value.toNat
  | _ => none

def isNull : Json -> Bool
  | null => true
  | _ => false

/-- The value under a key of an object. -/
def get (value : Json) (key : String) : Option Json := value.asObject.bind (List.lookup key)

end Json

end RocmCli
