import WikiSync.Number.Binary64

/-!
# JSON Values

The values of JSON, as a text writes them down: an object keeps its entries in
order and may repeat a key, and a number keeps its digits. A string may hold
half of a surrogate pair; then it spells no text.

## Main definitions

* `JsonNumber`, `JsonValue`: The types.
* `JsonValue.isProper`: Whether a value can be held in memory.
-/

namespace WikiSync

/-- The number `digits * 10 ^ exponent`, with a sign. -/
structure JsonNumber where
  negative : Bool
  digits : Nat
  exponent : Int
  /-- Whether it is written without a point and an exponent. -/
  integral : Bool
deriving DecidableEq, Repr

/-- A JSON value. -/
inductive JsonValue where
  | null
  | bool (value : Bool)
  | number (value : JsonNumber)
  /-- A string, with its text if it spells one. -/
  | string (text : Option String)
  | array (items : List JsonValue)
  | object (entries : List (Option String × JsonValue))

namespace JsonValue

/-- How deep arrays and objects nest at most in a value that is held in
memory. -/
def maxDepth : Nat := 127

mutual

/-- Whether a value can be held in memory: its strings spell texts, its
numbers are finite, and it nests `depth` deep at most. -/
def isProperAt : Nat → JsonValue → Bool
  | _, null | _, bool _ => true
  | _, number n => (Binary64.ofDecimal? n.negative n.digits n.exponent).isSome
  | _, string text => text.isSome
  | 0, array _ | 0, object _ => false
  | depth + 1, array items => areProperAt depth items
  | depth + 1, object entries => entriesProperAt depth entries

/-- Whether values can be held in memory. -/
def areProperAt : Nat → List JsonValue → Bool
  | _, [] => true
  | depth, v :: vs => isProperAt depth v && areProperAt depth vs

/-- Whether the entries of an object can be held in memory. -/
def entriesProperAt : Nat → List (Option String × JsonValue) → Bool
  | _, [] => true
  | depth, e :: es => entryProperAt depth e && entriesProperAt depth es

/-- Whether an entry of an object can be held in memory. -/
def entryProperAt : Nat → Option String × JsonValue → Bool
  | depth, (key, v) => key.isSome && isProperAt depth v

end

/-- Whether a value can be held in memory. -/
def isProper (v : JsonValue) : Bool :=
  isProperAt maxDepth v

/-- The value of a key of an object; of several the last one counts. -/
def get? (v : JsonValue) (key : String) : Option JsonValue :=
  match v with
  | object entries => entries.reverse.lookup (some key)
  | _ => none

/-- The text of a string. -/
def text? : JsonValue → Option String
  | string text => text
  | _ => none

/-- The natural number below a bound that a value is. Only plain digits will
do. -/
def natural? (bound : Nat) : JsonValue → Option Nat
  | number n => if n.integral && !n.negative && n.digits < bound then some n.digits else none
  | _ => none

/-- A string. -/
def ofText (s : String) : JsonValue :=
  string (some s)

/-- A natural number. -/
def ofNat (n : Nat) : JsonValue :=
  number ⟨false, n, 0, true⟩

/-- An object. -/
def ofFields (fields : List (String × JsonValue)) : JsonValue :=
  object (fields.map fun (key, v) => (some key, v))

end JsonValue

end WikiSync
