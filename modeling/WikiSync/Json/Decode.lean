import WikiSync.Json.Value

/-!
# Decoding JSON

Records out of JSON values. A record is written as an object, whose other keys
do not matter, or as an array of its fields in order. A key must not be given
twice.

## Main definitions

* `fields?`: The fields of a record.
* `required`, `orElse`, `nullable`: Ways to read a field.
-/

namespace WikiSync.JsonValue

/-- The value of a field in the entries of an object, none if it is given
twice. -/
def field? (entries : List (Option String × JsonValue)) (name : String) :
    Option (Option JsonValue) :=
  match entries.filter fun e => e.1 == some name with
  | [] => some none
  | [e] => some (some e.2)
  | _ => none

/-- The fields of a record with certain names. -/
def fields? (names : List String) : JsonValue → Option (List (Option JsonValue))
  | object entries =>
    if entries.all fun e => e.1.isSome then names.mapM (field? entries) else none
  | array items =>
    if items.length ≤ names.length then
      some (items.map some ++ List.replicate (names.length - items.length) none)
    else none
  | _ => none

/-- A field that must be given. -/
def required {α : Type} (decode : JsonValue → Option α) (field : Option JsonValue) : Option α :=
  field.bind decode

/-- A field that has a value if it is not given. -/
def orElse {α : Type} (default : α) (decode : JsonValue → Option α) :
    Option JsonValue → Option α
  | some v => decode v
  | none => some default

/-- A field that may be null or not given. -/
def nullable {α : Type} (decode : JsonValue → Option α) : Option JsonValue → Option (Option α)
  | none | some null => some none
  | some v => (decode v).map some

/-- The items of an array. -/
def list? {α : Type} (decode : JsonValue → Option α) : JsonValue → Option (List α)
  | array items => items.mapM decode
  | _ => none

end WikiSync.JsonValue
