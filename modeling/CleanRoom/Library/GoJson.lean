import CleanRoom.Library.JsonText
import Mathlib.Data.List.Forall2
import Mathlib.Data.String.Basic

/-!
# JSON documents as Go values

`json.Unmarshal` into an `interface{}` gives maps, slices, strings, booleans and `float64`
numbers. A map is kept here sorted by its keys, and a `float64` as the text that
`json.Marshal` writes for it.
-/

namespace CleanRoom.GoJson

open JsonText

def insertField (key : String) (value : Json) : List (String × Json) → List (String × Json)
  | [] => [(key, value)]
  | (other, stored) :: fields =>
      if key < other then (key, value) :: (other, stored) :: fields
      else if key = other then (key, value) :: fields
      else (other, stored) :: insertField key value fields

/-- A missing key reads as `nil`, as `null` does. -/
def fieldOf (fields : List (String × Json)) (key : String) : Json :=
  (fields.lookup key).getD .null

/-- `json.Marshal` of such a value. -/
def marshal (value : Json) : List Char := print value

end CleanRoom.GoJson
