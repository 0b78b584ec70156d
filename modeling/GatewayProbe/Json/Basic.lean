/-
JSON values.

A value is kept the way the rest of the library needs it: an object holds each key once, its fields
in ascending order of their keys, and a number is either a whole number or a double, never both.

* `Json` — the values, `Json.ofFields` builds an object and lets the last value of a key win;
* `Json.get?`, `Json.at?` — the field of an object, the value at the end of a path;
* `Json.asText?`, `Json.asItems?`, … — the content of a value of one kind.
-/
import GatewayProbe.Decimal.Word

namespace GatewayProbe

/-- A JSON number. Whole numbers keep their value, all others are doubles. -/
inductive Number where
  | whole (value : Int)
  | double (value : Float)

/-- A JSON value. -/
inductive Json where
  | null
  | bool (value : Bool)
  | number (value : Number)
  | text (value : String)
  | array (items : List Json)
  | object (fields : List (String × Json))

instance : Inhabited Json := ⟨.null⟩

namespace Json

/-- Puts a field in its place among fields in ascending order, replacing one of the same key. -/
def insertField (key : String) (value : Json) : List (String × Json) → List (String × Json)
  | [] => [(key, value)]
  | (k, v) :: rest =>
    if key = k then (key, value) :: rest
    else if key < k then (key, value) :: (k, v) :: rest
    else (k, v) :: insertField key value rest

theorem lookup_insertField_of_ne {key k : String} {value : Json} {fields : List (String × Json)}
    (h : k ≠ key) : (insertField key value fields).lookup k = fields.lookup k := by
  have hk : (k == key) = false := beq_false_of_ne h
  fun_induction insertField key value fields with
  | case1 => simp [List.lookup_cons, hk]
  | case2 other rest => simp [List.lookup_cons, hk]
  | case3 name other rest hne hlt => simp [List.lookup_cons, hk]
  | case4 name other rest hne hnlt ih => simp [List.lookup_cons, ih]

/-- The object with the given fields; of two fields with one key the last counts. -/
def ofFields (fields : List (String × Json)) : Json :=
  .object (fields.foldl (fun acc field => insertField field.1 field.2 acc) [])

/-- A whole number. -/
def ofNat (n : Nat) : Json := .number (.whole n)

/-- A double. -/
def ofFloat (x : Float) : Json := .number (.double x)

/-- A list of texts. -/
def ofTexts (texts : List String) : Json := .array (texts.map .text)

/-- A text or null. -/
def ofText? : Option String → Json
  | some value => .text value
  | none => .null

/-- The field `key` of an object. -/
def get? (key : String) : Json → Option Json
  | .object fields => fields.lookup key
  | _ => none

/-- The field of an object that is mentioned first, where no later one has its key. -/
theorem get?_ofFields {key : String} {value : Json} {rest : List (String × Json)}
    (h : ∀ field ∈ rest, field.1 ≠ key) :
    (ofFields ((key, value) :: rest)).get? key = some value := by
  have hfold : ∀ acc : List (String × Json), acc.lookup key = some value →
      (rest.foldl (fun acc field => insertField field.1 field.2 acc) acc).lookup key =
        some value := by
    induction rest with
    | nil => exact fun _ hacc => hacc
    | cons field rest ih =>
      intro acc hacc
      obtain ⟨hfield, hrest⟩ := List.forall_mem_cons.mp h
      refine ih hrest _ ?_
      rw [lookup_insertField_of_ne hfield.symm]
      exact hacc
  exact hfold _ (by simp [insertField])

/-- An object with the value of a key replaced or added; anything else stays as it is. -/
def set (object : Json) (key : String) (value : Json) : Json :=
  match object with
  | .object fields => .object (insertField key value fields)
  | other => other

/-- The item of a list, or the field of an object, that one step of a path names. -/
def step? (name : String) : Json → Option Json
  | .object fields => fields.lookup name
  | .array items =>
    if name.toList.all Char.isDigit && (name.length = 1 || name.toList.head? ≠ some '0') then
      name.toNat?.bind (items[·]?)
    else none
  | _ => none

/-- The value at the end of a path of names and positions. -/
def at? (path : List String) (value : Json) : Option Json :=
  path.foldlM (fun v name => v.step? name) value

/-- The content of a text. -/
def asText? : Json → Option String
  | .text value => some value
  | _ => none

theorem bind_asText?_eq_some_iff {found : Option Json} {text : String} :
    found.bind asText? = some text ↔ found = some (.text text) := by
  rw [Option.bind_eq_some_iff]
  constructor
  · rintro ⟨value, rfl, htext⟩
    cases value with
    | text content =>
      cases htext
      rfl
    | null | bool _ | number _ | array _ | object _ => cases htext
  · exact fun h => ⟨.text text, h, rfl⟩

/-- The content of a truth value. -/
def asBool? : Json → Option Bool
  | .bool value => some value
  | _ => none

/-- The items of a list. -/
def asItems? : Json → Option (List Json)
  | .array items => some items
  | _ => none

/-- A whole number that fits 64 signed bits. -/
def asInt64? : Json → Option Int
  | .number (.whole n) => if Decimal.isSigned64 n then some n else none
  | _ => none

/-- A value is an object. -/
def isObject : Json → Bool
  | .object _ => true
  | _ => false

/-- The keys of an object, in ascending order. -/
def keys : Json → List String
  | .object fields => fields.map Prod.fst
  | _ => []

end Json

/-- Equality of numbers: a whole number never equals a double. -/
def Number.same : Number → Number → Bool
  | .whole m, .whole n => m == n
  | .double x, .double y => x == y
  | _, _ => false

namespace Json

mutual

/-- Equality of values. -/
def same : Json → Json → Bool
  | .null, .null => true
  | .bool a, .bool b => a == b
  | .number a, .number b => a.same b
  | .text a, .text b => a == b
  | .array as, .array bs => sameItems as bs
  | .object as, .object bs => sameFields as bs
  | _, _ => false

/-- Equality of lists of values. -/
def sameItems : List Json → List Json → Bool
  | [], [] => true
  | a :: as, b :: bs => same a b && sameItems as bs
  | _, _ => false

/-- Equality of lists of fields. -/
def sameFields : List (String × Json) → List (String × Json) → Bool
  | [], [] => true
  | (k, a) :: as, (l, b) :: bs => k == l && same a b && sameFields as bs
  | _, _ => false

end

mutual

/-- Every field of `part` occurs in `whole`, at any depth of objects; all else must be equal. -/
def within : Json → Json → Bool
  | .object fields, whole => fieldsWithin fields whole
  | part, whole => same part whole

/-- Every one of the fields occurs in `whole`, which must be an object. -/
def fieldsWithin : List (String × Json) → Json → Bool
  | [], whole => whole.isObject
  | (key, part) :: rest, whole =>
    (match whole.get? key with
      | some value => within part value
      | none => false) && fieldsWithin rest whole

end

end Json
end GatewayProbe
