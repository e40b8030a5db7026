import Mathlib.Tactic.Common

/-!
# Codes that end by themselves

A code writes values as characters and reads them back, whatever follows.
-/

namespace CleanRoom.Codes

structure Code (Value : Type) where
  write : Value → List Char
  read : List Char → Option (Value × List Char)
  read_write : ∀ value rest, read (write value ++ rest) = some (value, rest)

variable {Value Other : Type}

namespace Code

def text (code : Code Value) (value : Value) : String := String.ofList (code.write value)

def value (code : Code Value) (text : String) : Except String Value :=
  match code.read text.toList with
  | some (value, []) => .ok value
  | _ => .error "The text is not that of a value."

theorem value_text (code : Code Value) (value : Value) :
    code.value (code.text value) = .ok value := by
  have read := code.read_write value []
  rw [List.append_nil] at read
  rw [Code.value, text, String.toList_ofList, read]

theorem text_ne_empty (code : Code Value) (value : Value) (written : code.write value ≠ []) :
    code.text value ≠ "" := by
  intro empty
  have chars := congrArg String.toList empty
  rw [text, String.toList_ofList] at chars
  exact written chars

def char : Code Char where
  write char := [char]
  read
    | [] => none
    | char :: rest => some (char, rest)
  read_write _ _ := rfl

def map (code : Code Value) (make : Value → Other) (back : Other → Value)
    (inverse : ∀ other, make (back other) = other) : Code Other where
  write other := code.write (back other)
  read chars := (code.read chars).map fun (value, rest) => (make value, rest)
  read_write other rest := by simp [code.read_write, inverse]

def option (code : Code Value) : Code (Option Value) where
  write
    | none => ['0']
    | some value => '1' :: code.write value
  read
    | '0' :: rest => some (none, rest)
    | '1' :: chars => (code.read chars).map fun (value, rest) => (some value, rest)
    | _ => none
  read_write value rest := by cases value <;> simp [code.read_write]

def pair (first : Code Value) (second : Code Other) : Code (Value × Other) where
  write both := first.write both.1 ++ second.write both.2
  read chars := do
    let (value, chars) ← first.read chars
    let (other, rest) ← second.read chars
    return ((value, other), rest)
  read_write both rest := by simp [first.read_write, second.read_write]

def readMany (code : Code Value) : Nat → List Char → Option (List Value × List Char)
  | 0, rest => some ([], rest)
  | count + 1, chars => do
      let (value, chars) ← code.read chars
      let (values, rest) ← readMany code count chars
      return (value :: values, rest)

theorem read_many_write (code : Code Value) (values : List Value) (rest : List Char) :
    code.readMany values.length (values.flatMap code.write ++ rest) = some (values, rest) := by
  induction values with
  | nil => rfl
  | cons value values induction => simp [readMany, code.read_write, induction]

/-- The values behind their number. -/
def list (code : Code Value) : Code (List Value) where
  write values := List.replicate values.length '1' ++ '0' :: values.flatMap code.write
  read chars :=
    let count := (chars.takeWhile (· == '1')).length
    code.readMany count (chars.drop (count + 1))
  read_write values rest := by simp [List.drop_append, read_many_write]

def string : Code String := char.list.map String.ofList String.toList fun _ => String.ofList_toList

end Code

end CleanRoom.Codes
