import Aegis.Library.JsString
import Aegis.Library.Number
import Aegis.Library.Text
import Mathlib.Data.List.TakeWhile

/-! # Parsed JSON and its conversions

The values of `JSON.parse` under the abstract operations `ToString` and `ToNumber`. No
parsed value is callable, so an object with a key `toString` of its own has no primitive
value and both conversions throw on it. -/

namespace Aegis

inductive Json where
  | null
  | bool (b : Bool)
  | num (q : ℚ)
  | str (s : String)
  | arr (items : List Json)
  | obj (fields : List (String × Json))

namespace Json

open JsString Text

/-- `value.key`; of repeated keys the last one counts, and only objects have keys. -/
def get (value : Json) (key : String) : Option Json :=
  match value with
  | obj fields => fields.reverse.lookup key
  | _ => none

/-- `value ?? undefined`: an absent and a null member are both nullish. -/
def get? (value : Json) (key : String) : Option Json :=
  match value.get key with
  | some null | none => none
  | some v => some v

def isNull : Json → Bool
  | null => true
  | _ => false

def isNum : Json → Bool
  | num _ => true
  | _ => false

/-- `Boolean(value)`. -/
def truthy : Json → Bool
  | null => false
  | bool b => b
  | num q => q ≠ 0
  | str s => s ≠ ""
  | arr _ | obj _ => true

mutual

/-- Whether `String(value)` returns; an array is joined from its items. -/
def printable : Json → Bool
  | obj fields => !(fields.any fun f => f.1 = "toString")
  | arr items => allPrintable items
  | _ => true

def allPrintable : List Json → Bool
  | [] => true
  | item :: items => item.printable && allPrintable items

end

/-! ## Numeric strings -/

section Numeral

def digitsVal (base : ℕ) (digits : List ℕ) : ℕ := digits.foldl (fun n d => base * n + d) 0

def digitVal (c : Char) : Option ℕ :=
  let n := c.toNat
  if 48 ≤ n ∧ n ≤ 57 then some (n - 48)
  else if 97 ≤ n ∧ n ≤ 102 then some (n - 87)
  else if 65 ≤ n ∧ n ≤ 70 then some (n - 55)
  else none

/-- All characters as digits of the base; at least one is needed. -/
def wholeNumeral (base : ℕ) (cs : List Char) : Option ℕ :=
  match cs.mapM digitVal with
  | some (d :: ds) => if (d :: ds).all (· < base) then some (digitsVal base (d :: ds)) else none
  | _ => none

def isDigit (c : Char) : Bool := 48 ≤ c.toNat && c.toNat ≤ 57

def decimals (cs : List Char) : List ℕ := cs.map fun c => c.toNat - 48

/-- An optional exponent that must end the string. -/
def exponent (cs : List Char) : Option ℤ :=
  match cs with
  | [] => some 0
  | e :: rest =>
      if e = 'e' ∨ e = 'E' then
        match rest with
        | '-' :: ds => (wholeNumeral 10 ds).map fun n => -(n : ℤ)
        | '+' :: ds => (wholeNumeral 10 ds).map Int.ofNat
        | ds => (wholeNumeral 10 ds).map Int.ofNat
      else none

/-- `StrUnsignedDecimalLiteral` other than `Infinity`. -/
def unsignedDecimal (cs : List Char) : Option ℚ :=
  let whole := cs.takeWhile isDigit
  let rest := cs.dropWhile isDigit
  let fraction := match rest with
    | '.' :: rest => rest.takeWhile isDigit
    | _ => []
  let rest := match rest with
    | '.' :: rest => rest.dropWhile isDigit
    | _ => rest
  if whole = [] ∧ fraction = [] then none
  else (exponent rest).map fun e =>
    (digitsVal 10 (decimals (whole ++ fraction)) : ℚ) * 10 ^ e.toNat /
      10 ^ (fraction.length + (-e).toNat)

/-- `StringToNumber` of a trimmed, nonempty string. -/
def numeral (cs : List Char) : JsNumber :=
  match cs with
  | '0' :: 'x' :: ds | '0' :: 'X' :: ds => radix 16 ds
  | '0' :: 'o' :: ds | '0' :: 'O' :: ds => radix 8 ds
  | '0' :: 'b' :: ds | '0' :: 'B' :: ds => radix 2 ds
  | '-' :: cs => if cs = "Infinity".toList then .negInfinity else signed (-1) cs
  | '+' :: cs => if cs = "Infinity".toList then .infinity else signed 1 cs
  | cs => if cs = "Infinity".toList then .infinity else signed 1 cs
where
  radix (base : ℕ) (ds : List Char) : JsNumber :=
    match wholeNumeral base ds with
    | some n => .fin n
    | none => .nan
  signed (sign : ℚ) (cs : List Char) : JsNumber :=
    match unsignedDecimal cs with
    | some q => .fin (sign * q)
    | none => .nan

/-- `Number(s)` of a string. -/
def stringToNumber (s : String) : JsNumber :=
  match (trim s).toList with
  | [] => .fin 0
  | cs => numeral cs

end Numeral

/-! ## `Number` -/

mutual

/-- `Number(String([value]))`: the item of an array, printed and read back. -/
def itemToNumber : Json → JsNumber
  | null => .fin 0
  | bool _ => .nan
  | num q => .fin q
  | str s => stringToNumber s
  | arr items => joinedToNumber items
  | obj _ => .nan

/-- Two items are joined by a comma, which no numeral has. -/
def joinedToNumber : List Json → JsNumber
  | [] => .fin 0
  | item :: items => match items with
      | [] => item.itemToNumber
      | _ :: _ => .nan

end

/-- `Number(value)`; `none` when the conversion throws. -/
def toNumber (value : Json) : Option JsNumber :=
  if value.printable then
    some (match value with
      | null => .fin 0
      | bool b => .fin (if b then 1 else 0)
      | value => itemToNumber value)
  else none

/-- `Number(value)` of a member that may be absent. -/
def memberToNumber (value : Option Json) : Option JsNumber :=
  match value with
  | none => some .nan
  | some value => value.toNumber

@[simp] theorem toNumber_num (q : ℚ) : (num q).toNumber = some (.fin q) := rfl

example : (str " 4.25e1 ").toNumber = some (.fin (85 / 2)) := by decide +kernel

example : (arr [arr [str "0x2D"]]).toNumber = some (.fin 45) := by decide

/-! ## Numerals that were printed -/

theorem isDigit_eq (c : Char) : isDigit c = c.isDigit := by
  rw [Bool.eq_iff_iff, Char.isDigit_iff_toNat, isDigit, Bool.and_eq_true, decide_eq_true_eq,
    decide_eq_true_eq]
  rfl

theorem isSpace_of_isDigit {c : Char} (h : isDigit c = true) : isSpace c = false := by
  simp only [isDigit, Bool.and_eq_true, decide_eq_true_eq] at h
  simp [isSpace]
  omega

theorem digitsVal_decimals (cs : List Char) :
    digitsVal 10 (decimals cs) = Nat.ofDigitChars 10 cs 0 := by
  rw [digitsVal, decimals, List.foldl_map, Nat.ofDigitChars_eq_foldl]
  rfl

section Digits

variable {cs : List Char} (hdigits : ∀ c ∈ cs, isDigit c = true)

include hdigits

theorem trim_ofList : trim (String.ofList cs) = String.ofList cs := by
  have hdrop (l : List Char) (hl : ∀ c ∈ l, isDigit c = true) : l.dropWhile isSpace = l := by
    cases l with
    | nil => rfl
    | cons c l => rw [List.dropWhile_cons_of_neg (by simp [isSpace_of_isDigit (hl c (by simp))])]
  rw [trim, String.toList_ofList, hdrop cs hdigits, hdrop cs.reverse (by simpa using hdigits),
    List.reverse_reverse]

theorem unsignedDecimal_digits (hne : cs ≠ []) :
    unsignedDecimal cs = some (Nat.ofDigitChars 10 cs 0 : ℚ) := by
  have htake : cs.takeWhile isDigit = cs := List.takeWhile_eq_self_iff.mpr hdigits
  have hdrop : cs.dropWhile isDigit = [] := List.dropWhile_eq_nil_iff.mpr hdigits
  simp only [unsignedDecimal, htake, hdrop, hne, false_and, if_false, List.append_nil, exponent,
    Option.map_some, digitsVal_decimals]
  simp

theorem signed_digits (hne : cs ≠ []) :
    numeral.signed 1 cs = .fin (Nat.ofDigitChars 10 cs 0 : ℚ) := by
  simp [numeral.signed, unsignedDecimal_digits hdigits hne]

theorem numeral_digits (hne : cs ≠ []) : numeral cs = .fin (Nat.ofDigitChars 10 cs 0 : ℚ) := by
  have hno (c : Char) (hc : isDigit c = false) : c ∉ cs := by
    intro h
    simp [hdigits c h] at hc
  unfold numeral
  split
  all_goals first
    | exact absurd (List.mem_cons_of_mem _ (List.mem_cons_self)) (hno _ (by decide))
    | exact absurd List.mem_cons_self (hno _ (by decide))
    | skip
  rw [if_neg, signed_digits hdigits hne]
  rintro rfl
  exact hno 'I' (by decide) (by decide)

end Digits

/-- `Number` reads a padded decimal numeral back. -/
theorem stringToNumber_padStart (n width : ℕ) :
    stringToNumber (padStart n.repr width '0') = .fin n := by
  have hdigits : ∀ c ∈ (padStart n.repr width '0').toList, isDigit c = true := by
    intro c hc
    rcases mem_padStart hc with rfl | hc
    · decide
    · rw [isDigit_eq]
      exact isDigit_of_mem_repr hc
  have hval : Nat.ofDigitChars 10 (padStart n.repr width '0').toList 0 = n := by
    simp [padStart, Nat.ofDigitChars_append, Nat.toList_repr]
  have hne : (padStart n.repr width '0').toList ≠ [] := by
    simp [padStart]
  have htrim := trim_ofList hdigits
  rw [String.ofList_toList] at htrim
  rw [stringToNumber, htrim]
  split
  · rename_i h
    exact absurd h hne
  · rw [numeral_digits hdigits hne, hval]

theorem stringToNumber_repr (n : ℕ) : stringToNumber n.repr = .fin n := by
  have hpad : padStart n.repr 0 '0' = n.repr := by
    rw [padStart, Nat.zero_sub, List.replicate_zero, List.nil_append, String.ofList_toList]
  rw [← hpad]
  exact stringToNumber_padStart n 0

end Json

end Aegis
