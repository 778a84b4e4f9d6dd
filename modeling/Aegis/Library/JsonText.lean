import Aegis.Library.Json

/-! # `JSON.parse`

A text is read character by character, with a stack of the arrays and objects that are open.
Strings are kept as UTF-16 code units until they are closed; a lone surrogate, which no character
is, becomes the replacement character. -/

namespace Aegis.JsonText

open Json

/-! ## Strings and numbers -/

def charOf (unit : ℕ) : Char := if unit.isValidChar then Char.ofNat unit else '\uFFFD'

/-- A high and a low surrogate in a row are one character. -/
def decode : List ℕ → List Char
  | [] => []
  | [unit] => [charOf unit]
  | high :: low :: units =>
      if 0xD800 ≤ high ∧ high < 0xDC00 ∧ 0xDC00 ≤ low ∧ low < 0xE000 then
        charOf (0x10000 + (high - 0xD800) * 0x400 + (low - 0xDC00)) :: decode units
      else charOf high :: decode (low :: units)

/-- The code units of a character, the last one first. -/
def unitsOf (c : Char) : List ℕ :=
  if c.toNat < 0x10000 then [c.toNat]
  else [0xDC00 + (c.toNat - 0x10000) % 0x400, 0xD800 + (c.toNat - 0x10000) / 0x400]

def escaped (c : Char) : Option ℕ :=
  [('"', 0x22), ('\\', 0x5C), ('/', 0x2F), ('b', 0x8), ('f', 0xC), ('n', 0xA), ('r', 0xD),
    ('t', 0x9)].lookup c

def isNumberChar (c : Char) : Bool := isDigit c || ['-', '+', '.', 'e', 'E'].contains c

/-- Digits without a leading zero, a fraction and an exponent. -/
def unsignedNumber (cs : List Char) : Option ℚ :=
  let whole := cs.takeWhile isDigit
  let rest := cs.dropWhile isDigit
  if whole = [] ∨ (whole.head? = some '0' ∧ whole.length ≠ 1) then none
  else if rest.head? = some '.' ∧ rest.tail.takeWhile isDigit = [] then none
  else unsignedDecimal cs

def number (cs : List Char) : Option ℚ :=
  if cs.head? = some '-' then (unsignedNumber cs.tail).map fun q => -q else unsignedNumber cs

/-! ## The reader -/

/-- An open array or object: what it holds so far, the last one first, and the key that waits
for its value. -/
inductive Frame where
  | arr (items : List Json)
  | obj (fields : List (String × Json)) (key : String)

/-- What a string is: a value, or the next key of an object. -/
inductive Slot where
  | value
  | key (fields : List (String × Json))

inductive Escape where
  | none
  | backslash
  | unicode (digits : List ℕ)

/-- What the next character belongs to; `first` directly after an opening bracket. -/
inductive Mode where
  | value (first : Bool)
  | key (fields : List (String × Json)) (first : Bool)
  | colon (fields : List (String × Json)) (key : String)
  | text (slot : Slot) (units : List ℕ) (escape : Escape)
  | word (rest : List Char) (value : Json)
  | number (cs : List Char)
  | done (value : Json)

structure Reader where
  stack : List Frame
  mode : Mode

def isBlank (c : Char) : Bool := [' ', '\t', '\n', '\r'].contains c

/-- After a value: its array or object goes on or ends. -/
def stepDone (stack : List Frame) (value : Json) (c : Char) : Option Reader :=
  if isBlank c then some ⟨stack, .done value⟩
  else match stack with
    | [] => none
    | .arr items :: stack =>
        if c = ',' then some ⟨.arr (value :: items) :: stack, .value false⟩
        else if c = ']' then some ⟨stack, .done (.arr (value :: items).reverse)⟩
        else none
    | .obj fields key :: stack =>
        if c = ',' then some ⟨stack, .key ((key, value) :: fields) false⟩
        else if c = '}' then some ⟨stack, .done (.obj ((key, value) :: fields).reverse)⟩
        else none

def stepValue (stack : List Frame) (first : Bool) (c : Char) : Option Reader :=
  if isBlank c then some ⟨stack, .value first⟩
  else if c = '"' then some ⟨stack, .text .value [] .none⟩
  else if c = '[' then some ⟨.arr [] :: stack, .value true⟩
  else if c = '{' then some ⟨stack, .key [] true⟩
  else if c = ']' ∧ first = true then some ⟨stack.tail, .done (.arr [])⟩
  else if c = 't' then some ⟨stack, .word ['r', 'u', 'e'] (.bool true)⟩
  else if c = 'f' then some ⟨stack, .word ['a', 'l', 's', 'e'] (.bool false)⟩
  else if c = 'n' then some ⟨stack, .word ['u', 'l', 'l'] .null⟩
  else if isDigit c ∨ c = '-' then some ⟨stack, .number [c]⟩
  else none

def stepKey (stack : List Frame) (fields : List (String × Json)) (first : Bool) (c : Char) :
    Option Reader :=
  if isBlank c then some ⟨stack, .key fields first⟩
  else if c = '"' then some ⟨stack, .text (.key fields) [] .none⟩
  else if c = '}' ∧ first = true then some ⟨stack, .done (.obj [])⟩
  else none

/-- The value of an object is read inside its frame. -/
def stepColon (stack : List Frame) (fields : List (String × Json)) (key : String) (c : Char) :
    Option Reader :=
  if isBlank c then some ⟨stack, .colon fields key⟩
  else if c = ':' then some ⟨.obj fields key :: stack, .value false⟩
  else none

def closeText (stack : List Frame) (units : List ℕ) : Slot → Reader
  | .value => ⟨stack, .done (.str (String.ofList (decode units.reverse)))⟩
  | .key fields => ⟨stack, .colon fields (String.ofList (decode units.reverse))⟩

def stepText (stack : List Frame) (slot : Slot) (units : List ℕ) (escape : Escape) (c : Char) :
    Option Reader :=
  match escape with
  | .none =>
      if c = '"' then some (closeText stack units slot)
      else if c = '\\' then some ⟨stack, .text slot units .backslash⟩
      else if c.toNat < 0x20 then none
      else some ⟨stack, .text slot (unitsOf c ++ units) .none⟩
  | .backslash =>
      if c = 'u' then some ⟨stack, .text slot units (.unicode [])⟩
      else (escaped c).map fun unit => ⟨stack, .text slot (unit :: units) .none⟩
  | .unicode digits =>
      (digitVal c).map fun digit =>
        if digits.length = 3 then
          ⟨stack, .text slot (digitsVal 16 (digits ++ [digit]) :: units) .none⟩
        else ⟨stack, .text slot units (.unicode (digits ++ [digit]))⟩

def stepWord (stack : List Frame) (value : Json) (c : Char) : List Char → Option Reader
  | [] => none
  | [last] => if c = last then some ⟨stack, .done value⟩ else none
  | next :: rest => if c = next then some ⟨stack, .word rest value⟩ else none

/-- A number ends with the first character that is none of it. -/
def stepNumber (stack : List Frame) (cs : List Char) (c : Char) : Option Reader :=
  if isNumberChar c then some ⟨stack, .number (cs ++ [c])⟩
  else (number cs).bind fun q => stepDone stack (.num q) c

def step (r : Reader) (c : Char) : Option Reader :=
  match r.mode with
  | .value first => stepValue r.stack first c
  | .key fields first => stepKey r.stack fields first c
  | .colon fields key => stepColon r.stack fields key c
  | .text slot units escape => stepText r.stack slot units escape c
  | .word rest value => stepWord r.stack value c rest
  | .number cs => stepNumber r.stack cs c
  | .done value => stepDone r.stack value c

/-- The value of a text that has ended. -/
def finish (r : Reader) : Option Json :=
  match r.stack, r.mode with
  | [], .done value => some value
  | [], .number cs => (number cs).map .num
  | _, _ => none

/-- `JSON.parse`; `none` where it throws. -/
def parse (text : String) : Option Json :=
  (text.toList.foldlM step ⟨[], .value false⟩).bind finish

example : (parse " [\x7b\"a\": [1.5e1, true]\x7d ]").isSome = true := by decide

example : (parse "[1,]").isNone = true := by decide

end Aegis.JsonText
