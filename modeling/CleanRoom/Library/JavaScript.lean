import CleanRoom.Library.Throwing
import Mathlib.Data.List.Nodup

/-!
# JavaScript values

The values a parsed JSON document can hold, together with `undefined` for a
property that is absent. An object is the list of its own properties, one entry
per name. A number is the rational value of the double that the parser produced.
On a value that is not an object only names that no prototype defines are read.
-/

namespace CleanRoom.JavaScript

inductive JsValue where
  | undefined
  | null
  | bool (value : Bool)
  | number (value : Rat)
  | string (value : String)
  | array (items : List JsValue)
  | object (fields : List (String × JsValue))

/-- The answers of `typeof` on these values. -/
inductive JsType where
  | undefined
  | object
  | boolean
  | number
  | string
deriving DecidableEq

def JsType.name : JsType → String
  | .undefined => "undefined"
  | .object => "object"
  | .boolean => "boolean"
  | .number => "number"
  | .string => "string"

namespace JsValue

/-- `typeof null` is `"object"`, which the type checks of the callers inherit. -/
def typeOf : JsValue → JsType
  | undefined => .undefined
  | null => .object
  | bool _ => .boolean
  | number _ => .number
  | string _ => .string
  | array _ => .object
  | object _ => .object

def truthy : JsValue → Bool
  | undefined => false
  | null => false
  | bool value => value
  | number value => value != 0
  | string value => value != ""
  | array _ => true
  | object _ => true

/-- A property of a value that is known to be neither `undefined` nor `null`. -/
def field (key : String) : JsValue → JsValue
  | object fields => (fields.lookup key).getD undefined
  | _ => undefined

/-- Property access as the engine performs it. -/
def get (value : JsValue) (key : String) : Except String JsValue :=
  match value with
  | undefined => .error s!"TypeError: cannot read property '{key}' of undefined"
  | null => .error s!"TypeError: cannot read property '{key}' of null"
  | present => .ok (present.field key)

/-- Comparison with a string literal by `===`. -/
def isString (value : JsValue) (text : String) : Bool :=
  match value with
  | string found => found == text
  | _ => false

/-- The equality by which a `Set` and `Array.includes` compare primitives. Two
arrays or objects of one parsed document are different references. -/
def sameValueZero : JsValue → JsValue → Bool
  | undefined, undefined => true
  | null, null => true
  | bool left, bool right => left == right
  | number left, number right => left == right
  | string left, string right => left == right
  | _, _ => false

theorem same_value_eq (left right : JsValue) (same : left.sameValueZero right = true) :
    left = right := by
  cases left <;> cases right <;> simp_all [sameValueZero]

def isArray : JsValue → Bool
  | array _ => true
  | _ => false

def isInteger : JsValue → Bool
  | number value => value.den == 1
  | _ => false

def setField (target : JsValue) (key : String) (value : JsValue) : JsValue :=
  match target with
  | object fields =>
      if (fields.lookup key).isSome then
        object (fields.map fun entry => if entry.1 = key then (key, value) else entry)
      else object (fields ++ [(key, value)])
  | other => other

def deleteField (key : String) : JsValue → JsValue
  | object fields => object (fields.filter fun entry => entry.1 != key)
  | other => other

@[simp] theorem is_string_iff (value : JsValue) (text : String) :
    value.isString text = true ↔ value = string text := by
  cases value <;> simp [isString]

/-- Reading a property succeeds exactly when the value is neither `undefined`
nor `null`, and then it returns the plain field. -/
theorem get_ok (value result : JsValue) (key : String) (read : value.get key = .ok result) :
    result = value.field key := by
  cases value <;> simp [get] at read <;> exact read.symm

end JsValue

/-- The UTF-16 code units of a text, over which the string methods work. -/
def utf16Units (text : String) : List Nat :=
  text.toList.flatMap fun char =>
    let code := char.toNat
    if code < 0x10000 then [code]
    else [0xD800 + (code - 0x10000) / 0x400, 0xDC00 + (code - 0x10000) % 0x400]

def jsLength (text : String) : Nat := (utf16Units text).length

theorem js_length_ascii (text : String) (ascii : ∀ char ∈ text.toList, char.toNat < 128) :
    jsLength text = text.toList.length := by
  unfold jsLength utf16Units
  generalize text.toList = chars at ascii
  induction chars with
  | nil => rfl
  | cons char rest ih =>
      have small : char.toNat < 0x10000 := by
        have bound := ascii char List.mem_cons_self
        omega
      rw [List.flatMap_cons, List.length_append,
        ih fun other member => ascii other (List.mem_cons_of_mem _ member)]
      simp [small, Nat.add_comm]

/-- The enumerable property names of a value, in order. The elements of an array
and the code units of a string are named by their index. -/
def JsValue.keys : JsValue → List String
  | .object fields => fields.map Prod.fst
  | .array items => (List.range items.length).map toString
  | .string text => (List.range (jsLength text)).map toString
  | _ => []

/-- The names that every object literal inherits from `Object.prototype`. -/
def inheritedNames : List String :=
  ["constructor", "toString", "toLocaleString", "valueOf", "hasOwnProperty", "isPrototypeOf",
    "propertyIsEnumerable", "__proto__", "__defineGetter__", "__defineSetter__",
    "__lookupGetter__", "__lookupSetter__"]

/-- Whether indexing an object literal with these property names by `key` gives
something other than `undefined`: an inherited name does as well. -/
def literalDefines (names : List String) (key : String) : Bool :=
  names.contains key || inheritedNames.contains key

mutual

/-- The text of a value inside a template literal. How the engine writes a
number is left to `numberText`. -/
def JsValue.display (numberText : Rat → String) : JsValue → String
  | .undefined => "undefined"
  | .null => "null"
  | .bool value => if value then "true" else "false"
  | .number value => numberText value
  | .string text => text
  | .array items => String.intercalate "," (displayItems numberText items)
  | .object _ => "[object Object]"

/-- The elements as `join` writes them: `null` and `undefined` leave no text. -/
def displayItems (numberText : Rat → String) : List JsValue → List String
  | [] => []
  | .undefined :: rest => "" :: displayItems numberText rest
  | .null :: rest => "" :: displayItems numberText rest
  | item :: rest => item.display numberText :: displayItems numberText rest

end

def jsonEscaped (char : Char) : String :=
  if char = '"' then "\\\""
  else if char = '\\' then "\\\\"
  else if char.toNat = 8 then "\\b"
  else if char.toNat = 9 then "\\t"
  else if char.toNat = 10 then "\\n"
  else if char.toNat = 12 then "\\f"
  else if char.toNat = 13 then "\\r"
  else if char.toNat < 32 then
    "\\u00" ++ String.ofList [Nat.digitChar (char.toNat / 16), Nat.digitChar (char.toNat % 16)]
  else char.toString

/-- A string as `JSON.stringify` writes it. -/
def jsonQuoted (text : String) : String :=
  "\"" ++ String.join (text.toList.map jsonEscaped) ++ "\""

def setSize (values : List JsValue) : Nat :=
  (values.foldl (fun seen value =>
    if seen.any fun other => other.sameValueZero value then seen else seen ++ [value]) []).length

private theorem set_fold_strings (texts : List String) (seen : List String)
    (distinct : (seen ++ texts).Nodup) :
    ((texts.map JsValue.string).foldl (fun seen value =>
      if seen.any fun other => other.sameValueZero value then seen else seen ++ [value])
        (seen.map JsValue.string)) = (seen ++ texts).map JsValue.string := by
  induction texts generalizing seen with
  | nil => simp
  | cons text rest ih =>
      have fresh : text ∉ seen := by
        intro member
        exact (List.nodup_append.mp distinct).2.2 text member text (by simp) rfl
      have unseen : ((seen.map JsValue.string).any fun other =>
          other.sameValueZero (JsValue.string text)) = false := by
        rw [List.any_eq_false]
        intro value member
        obtain ⟨old, oldMember, rfl⟩ := List.mem_map.mp member
        have different : old ≠ text := by
          intro same
          exact fresh (same ▸ oldMember)
        simpa [JsValue.sameValueZero] using different
      have next := ih (seen ++ [text]) (by simpa using distinct)
      simp only [List.map_cons, List.foldl_cons, unseen]
      simpa using next

theorem set_size_of_nodup (texts : List String) (distinct : texts.Nodup) :
    setSize (texts.map JsValue.string) = texts.length := by
  have folded := set_fold_strings texts [] (by simpa using distinct)
  simp only [List.map_nil, List.nil_append] at folded
  rw [setSize, folded, List.length_map]

theorem set_size_of_strings (values : List JsValue)
    (strings : ∀ value ∈ values, ∃ text, value = .string text) (distinct : values.Nodup) :
    setSize values = values.length := by
  obtain ⟨texts, rfl⟩ : ∃ texts, values = List.map JsValue.string texts := by
    induction values with
    | nil => exact ⟨[], rfl⟩
    | cons value rest ih =>
        obtain ⟨text, rfl⟩ := strings value (by simp)
        obtain ⟨texts, rfl⟩ := ih (by
          intro other member
          exact strings other (List.mem_cons_of_mem _ member)) (List.nodup_cons.mp distinct).2
        exact ⟨text :: texts, rfl⟩
  rw [set_size_of_nodup texts (List.Nodup.of_map _ distinct), List.length_map]

end CleanRoom.JavaScript
