import WikiSync.Number.Binary64

/-!
# YAML Values

What a YAML document means once its scalars are resolved and its aliases are
replaced by what they refer to.

## Main definitions

* `Value`: The type.
* `Value.same`: Equality, for which the order of a mapping does not count.
* `Value.get?`: The value of a text key of a mapping.
-/

namespace WikiSync.Yaml

/-- A number with a point or an exponent. -/
inductive Real where
  | finite (value : Binary64)
  | infinite (negative : Bool)
  | notANumber
deriving DecidableEq, Repr

namespace Real

/-- Equality of numbers: the two zeros are equal, and so is what is not a
number. -/
def same : Real → Real → Bool
  | finite x, finite y => x = y || (x.mantissa = 0 && y.mantissa = 0)
  | x, y => x = y

/-- The written form of a number. -/
def text : Real → String
  | finite x => x.text
  | infinite negative => if negative then "-.inf" else ".inf"
  | notANumber => ".nan"

end Real

/-- A value. -/
inductive Value where
  | null
  | bool (value : Bool)
  | integer (value : Int)
  | real (value : Real)
  | string (text : String)
  | sequence (items : List Value)
  | mapping (entries : List (Value × Value))
  | tagged (tag : String) (value : Value)

namespace Value

mutual

/-- Whether two values are equal. -/
def same : Value → Value → Bool
  | null, null => true
  | bool a, bool b => a == b
  | integer a, integer b => a == b
  | real a, real b => a.same b
  | string a, string b => a == b
  | sequence as, sequence bs => sameItems as bs
  | mapping es, mapping fs => es.length == fs.length && entriesIn es fs
  | tagged s a, tagged t b => s == t && same a b
  | _, _ => false

/-- Whether two lists of values are equal. -/
def sameItems : List Value → List Value → Bool
  | [], [] => true
  | a :: as, b :: bs => same a b && sameItems as bs
  | _, _ => false

/-- Whether each entry of a mapping is an entry of another one. -/
def entriesIn : List (Value × Value) → List (Value × Value) → Bool
  | [], _ => true
  | e :: es, fs => entryIn e fs && entriesIn es fs

/-- Whether an entry is one of a mapping. -/
def entryIn : Value × Value → List (Value × Value) → Bool
  | (k, v), fs => fs.any fun (k', v') => same k k' && same v v'

end

/-- The value without its tag. -/
def untagged : Value → Value
  | tagged _ v => v.untagged
  | v => v

/-- The value of a text key, if this is a mapping that has it. -/
def get? (v : Value) (key : String) : Option Value :=
  match v.untagged with
  | mapping entries => (entries.find? fun e => e.1.same (.string key)).map (·.2)
  | _ => none

end Value

end WikiSync.Yaml
