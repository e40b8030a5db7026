import Mathlib.Tactic.Common

/-!
# JSON texts

The syntax of JSON as a machine that reads one character at a time, in the way
in which the scanner of a streaming decoder does: a mode for the token that is
being read, and a stack of the arrays and objects that are open. Nesting is
limited. An object keeps its members in the order of the text, repeated names
included. What is read can be printed and read back.
-/

namespace CleanRoom.JsonText

inductive Json where
  | null
  | bool (value : Bool)
  | number (token : String)
  | string (text : String)
  | array (items : List Json)
  | object (fields : List (String × Json))

inductive Token where
  | openArray
  | closeArray
  | openObject
  | closeObject
  | comma
  | colon
  | null
  | bool (value : Bool)
  | number (token : String)
  | string (text : String)

/-- A string is read as characters and as code units of `\u` escapes. -/
inductive Piece where
  | char (value : Char)
  | unit (value : Nat)

def isHighSurrogate (value : Nat) : Bool := 0xD800 ≤ value && value < 0xDC00

def isLowSurrogate (value : Nat) : Bool := 0xDC00 ≤ value && value < 0xE000

def unitChar (value : Nat) : Char :=
  if isHighSurrogate value || isLowSurrogate value then '\uFFFD' else Char.ofNat value

def decodePieces : List Piece → List Char
  | [] => []
  | .char value :: rest => value :: decodePieces rest
  | [.unit value] => [unitChar value]
  | .unit value :: .char next :: rest => unitChar value :: decodePieces (.char next :: rest)
  | .unit high :: .unit low :: rest =>
      if isHighSurrogate high && isLowSurrogate low then
        Char.ofNat (0x10000 + (high - 0xD800) * 0x400 + (low - 0xDC00)) :: decodePieces rest
      else unitChar high :: decodePieces (.unit low :: rest)

inductive NumberPart where
  | sign
  | zero
  | digits
  | point
  | fraction
  | exponent
  | exponentSign
  | exponentDigits
deriving DecidableEq

def NumberPart.complete : NumberPart → Bool
  | zero | digits | fraction | exponentDigits => true
  | sign | point | exponent | exponentSign => false

def NumberPart.next (part : NumberPart) (char : Char) : Option NumberPart :=
  match part with
  | sign =>
      if char = '0' then some zero else if char.isDigit then some digits else none
  | zero => afterWhole
  | digits => if char.isDigit then some digits else afterWhole
  | point => if char.isDigit then some fraction else none
  | fraction =>
      if char.isDigit then some fraction
      else if char = 'e' ∨ char = 'E' then some exponent
      else none
  | exponent =>
      if char = '+' ∨ char = '-' then some exponentSign
      else if char.isDigit then some exponentDigits
      else none
  | exponentSign => if char.isDigit then some exponentDigits else none
  | exponentDigits => if char.isDigit then some exponentDigits else none
where
  afterWhole : Option NumberPart :=
    if char = '.' then some point
    else if char = 'e' ∨ char = 'E' then some exponent
    else none

inductive Mode where
  | between
  | string (pieces : List Piece)
  | escape (pieces : List Piece)
  | unicode (pieces : List Piece) (digits : List Nat)
  | number (part : NumberPart) (read : List Char)
  /-- A word of which the letters in `rest` are still to come. -/
  | word (rest : List Char) (token : Token)
  | broken

inductive Frame where
  | array (items : List Json)
  | object (fields : List (String × Json)) (key : String)

inductive Parser where
  | value (stack : List Frame)
  | firstItem (stack : List Frame)
  | firstKey (stack : List Frame)
  | nextKey (fields : List (String × Json)) (stack : List Frame)
  | colon (fields : List (String × Json)) (key : String) (stack : List Frame)
  | afterItem (items : List Json) (stack : List Frame)
  | afterField (fields : List (String × Json)) (stack : List Frame)
  | done (value : Json)
  | broken

def maxNestingDepth : Nat := 10000

def deliver (value : Json) : List Frame → Parser
  | [] => .done value
  | .array items :: stack => .afterItem (items ++ [value]) stack
  | .object fields key :: stack => .afterField (fields ++ [(key, value)]) stack

def startValue (token : Token) (stack : List Frame) : Parser :=
  match token with
  | .openArray => if stack.length < maxNestingDepth then .firstItem stack else .broken
  | .openObject => if stack.length < maxNestingDepth then .firstKey stack else .broken
  | .null => deliver .null stack
  | .bool value => deliver (.bool value) stack
  | .number token => deliver (.number token) stack
  | .string text => deliver (.string text) stack
  | _ => .broken

def Parser.accept (parser : Parser) (token : Token) : Parser :=
  match parser, token with
  | .value stack, token => startValue token stack
  | .firstItem stack, .closeArray => deliver (.array []) stack
  | .firstItem stack, token => startValue token (.array [] :: stack)
  | .firstKey stack, .closeObject => deliver (.object []) stack
  | .firstKey stack, .string text => .colon [] text stack
  | .nextKey fields stack, .string text => .colon fields text stack
  | .colon fields key stack, .colon => .value (.object fields key :: stack)
  | .afterItem items stack, .comma => .value (.array items :: stack)
  | .afterItem items stack, .closeArray => deliver (.array items) stack
  | .afterField fields stack, .comma => .nextKey fields stack
  | .afterField fields stack, .closeObject => deliver (.object fields) stack
  | _, _ => .broken

structure Scanner where
  mode : Mode
  parser : Parser

def Scanner.start : Scanner := ⟨.between, .value []⟩

def isSpace (char : Char) : Bool :=
  char = ' ' || char = '\t' || char = '\r' || char = '\n'

def hexValue (char : Char) : Option Nat :=
  if '0' ≤ char ∧ char ≤ '9' then some (char.toNat - '0'.toNat)
  else if 'a' ≤ char ∧ char ≤ 'f' then some (char.toNat - 'a'.toNat + 10)
  else if 'A' ≤ char ∧ char ≤ 'F' then some (char.toNat - 'A'.toNat + 10)
  else none

def escapedChar (char : Char) : Option Char :=
  if char = '"' then some '"'
  else if char = '\\' then some '\\'
  else if char = '/' then some '/'
  else if char = 'b' then some '\x08'
  else if char = 'f' then some '\x0C'
  else if char = 'n' then some '\n'
  else if char = 'r' then some '\r'
  else if char = 't' then some '\t'
  else none

inductive Start where
  | space
  | punctuation (token : Token)
  | quote
  | number (part : NumberPart)
  | word (rest : List Char) (token : Token)
  | unknown

def punctuationMarks : List (Char × Token) :=
  [('[', .openArray), (']', .closeArray), ('\x7b', .openObject), ('\x7d', .closeObject),
    (',', .comma), (':', .colon)]

def words : List (Char × List Char × Token) :=
  [('t', ['r', 'u', 'e'], .bool true), ('f', ['a', 'l', 's', 'e'], .bool false),
    ('n', ['u', 'l', 'l'], .null)]

def numberStart (char : Char) : Option NumberPart :=
  if char = '-' then some .sign
  else if char = '0' then some .zero
  else if char.isDigit then some .digits
  else none

def startOf (char : Char) : Start :=
  if isSpace char then .space
  else if char = '"' then .quote
  else
    match punctuationMarks.lookup char with
    | some token => .punctuation token
    | none =>
        match numberStart char with
        | some part => .number part
        | none =>
            match words.lookup char with
            | some (rest, token) => .word rest token
            | none => .unknown

def scanBetween (parser : Parser) (char : Char) : Scanner :=
  match startOf char with
  | .space => ⟨.between, parser⟩
  | .punctuation token => ⟨.between, parser.accept token⟩
  | .quote => ⟨.string [], parser⟩
  | .number part => ⟨.number part [char], parser⟩
  | .word rest token => ⟨.word rest token, parser⟩
  | .unknown => ⟨.broken, parser⟩

def scanString (pieces : List Piece) (parser : Parser) (char : Char) : Scanner :=
  if char = '"' then ⟨.between, parser.accept (.string (String.ofList (decodePieces pieces)))⟩
  else if char = '\\' then ⟨.escape pieces, parser⟩
  else if char.toNat < 0x20 then ⟨.broken, parser⟩
  else ⟨.string (pieces ++ [.char char]), parser⟩

def Scanner.scan (scanner : Scanner) (char : Char) : Scanner :=
  match scanner.mode with
  | .between => scanBetween scanner.parser char
  | .string pieces => scanString pieces scanner.parser char
  | .escape pieces =>
      if char = 'u' then ⟨.unicode pieces [], scanner.parser⟩
      else
        match escapedChar char with
        | some meant => ⟨.string (pieces ++ [.char meant]), scanner.parser⟩
        | none => ⟨.broken, scanner.parser⟩
  | .unicode pieces digits =>
      match hexValue char with
      | none => ⟨.broken, scanner.parser⟩
      | some digit =>
          match digits with
          | [first, second, third] =>
              let value := first * 0x1000 + second * 0x100 + third * 0x10 + digit
              ⟨.string (pieces ++ [.unit value]), scanner.parser⟩
          | _ => ⟨.unicode pieces (digits ++ [digit]), scanner.parser⟩
  | .number part read =>
      match part.next char with
      | some part => ⟨.number part (read ++ [char]), scanner.parser⟩
      | none =>
          if part.complete then
            scanBetween (scanner.parser.accept (.number (String.ofList read))) char
          else ⟨.broken, scanner.parser⟩
  | .word rest token =>
      match rest with
      | [] => ⟨.broken, scanner.parser⟩
      | [last] =>
          if char = last then ⟨.between, scanner.parser.accept token⟩
          else ⟨.broken, scanner.parser⟩
      | letter :: more =>
          if char = letter then ⟨.word more token, scanner.parser⟩
          else ⟨.broken, scanner.parser⟩
  | .broken => scanner

def Scanner.run (scanner : Scanner) (text : List Char) : Scanner := text.foldl Scanner.scan scanner

def Scanner.finish (scanner : Scanner) : Parser :=
  match scanner.mode with
  | .between => scanner.parser
  | .number part read =>
      if part.complete then scanner.parser.accept (.number (String.ofList read)) else .broken
  | _ => .broken

def parse (text : List Char) : Option Json :=
  match (Scanner.start.run text).finish with
  | .done value => some value
  | _ => none

def lowerHex (value : Nat) : Char := "0123456789abcdef".toList.getD value '0'

/-- Whether a character is written as a `\u` escape. -/
def isEscapedByCode (char : Char) : Bool :=
  char.toNat < 0x20 || char = '<' || char = '>' || char = '&' || char.toNat = 0x2028 ||
    char.toNat = 0x2029

def shortEscape (char : Char) : Option Char :=
  if char = '"' then some '"'
  else if char = '\\' then some '\\'
  else if char = '\x08' then some 'b'
  else if char = '\x0C' then some 'f'
  else if char = '\n' then some 'n'
  else if char = '\r' then some 'r'
  else if char = '\t' then some 't'
  else none

def escape (char : Char) : List Char :=
  match shortEscape char with
  | some letter => ['\\', letter]
  | none =>
      if isEscapedByCode char then
        let code := char.toNat
        ['\\', 'u', lowerHex (code / 0x1000), lowerHex (code / 0x100 % 0x10),
          lowerHex (code / 0x10 % 0x10), lowerHex (code % 0x10)]
      else [char]

def printString (text : String) : List Char :=
  '"' :: text.toList.flatMap escape ++ ['"']

mutual

def print : Json → List Char
  | .null => ['n', 'u', 'l', 'l']
  | .bool true => ['t', 'r', 'u', 'e']
  | .bool false => ['f', 'a', 'l', 's', 'e']
  | .number token => token.toList
  | .string text => printString text
  | .array items => '[' :: printItems items ++ [']']
  | .object fields => '\x7b' :: printFields fields ++ ['\x7d']

def printItems : List Json → List Char
  | [] => []
  | [item] => print item
  | item :: items => print item ++ ',' :: printItems items

def printFields : List (String × Json) → List Char
  | [] => []
  | [(key, value)] => printString key ++ ':' :: print value
  | (key, value) :: fields => printString key ++ ':' :: (print value ++ ',' :: printFields fields)

end

end CleanRoom.JsonText
