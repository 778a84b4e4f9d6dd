import Mathlib.Data.List.Basic
import Mathlib.Tactic.IntervalCases

/-! # Trimming and case as in JavaScript

Strings are compared with ASCII constants after a change of case. The tables therefore
hold the ASCII letters and those other characters whose image consists of ASCII letters. -/

namespace Aegis.JsString

def isSpace (c : Char) : Bool :=
  c.toNat ∈ [0x9, 0xA, 0xB, 0xC, 0xD, 0x20, 0xA0, 0x1680, 0x2028, 0x2029, 0x202F, 0x205F, 0x3000,
    0xFEFF] || (0x2000 ≤ c.toNat && c.toNat ≤ 0x200A)

def trim (s : String) : String :=
  String.ofList ((s.toList.dropWhile isSpace).reverse.dropWhile isSpace).reverse

/-- The sharp s, the dotless i, the long s and the Latin ligatures have ASCII capitals. -/
def upperChar (c : Char) : List Char :=
  match c.toNat with
  | 0xDF => ['S', 'S']
  | 0x131 => ['I']
  | 0x17F => ['S']
  | 0xFB00 => ['F', 'F']
  | 0xFB01 => ['F', 'I']
  | 0xFB02 => ['F', 'L']
  | 0xFB03 => ['F', 'F', 'I']
  | 0xFB04 => ['F', 'F', 'L']
  | 0xFB05 | 0xFB06 => ['S', 'T']
  | _ => [c.toUpper]

def toUpperCase (s : String) : String := String.ofList (s.toList.flatMap upperChar)

/-- So do the Kelvin sign and the dotted capital I have ASCII small letters. -/
def lowerChar (c : Char) : List Char :=
  match c.toNat with
  | 0x212A => ['k']
  | 0x130 => ['i', '\u0307']
  | _ => [c.toLower]

def toLowerCase (s : String) : String := String.ofList (s.toList.flatMap lowerChar)

/-- The number of UTF-16 code units. -/
def length (s : String) : ℕ :=
  s.toList.length + (s.toList.filter fun c => 0xFFFF < c.toNat).length

/-- The pieces of `s.split(/\s+/)` that are not empty. -/
def words (s : String) : List String :=
  ((s.toList.splitOnP isSpace).filter (· ≠ [])).map String.ofList

/-- `s.replace(/\D/g, '')`. -/
def digits (s : String) : String := String.ofList (s.toList.filter Char.isDigit)

/-- `haystack.includes(needle)`. -/
def includes (haystack needle : String) : Bool :=
  haystack.toList.tails.any needle.toList.isPrefixOf

/-- `s.replace(/c/g, replacement)` for a character that is no pattern and a replacement without
one. -/
def replaceAll (c : Char) (replacement s : String) : String :=
  String.ofList (s.toList.flatMap fun d => if d = c then replacement.toList else [d])

end Aegis.JsString

/-! ## Repeated changes of case -/

namespace Aegis.JsString

theorem toUpper_eq_self {c : Char} (h : ¬(97 ≤ c.toNat ∧ c.toNat ≤ 122)) : c.toUpper = c :=
  dif_neg h

theorem upperChar_toUpper {c : Char} (h : 97 ≤ c.toNat ∧ c.toNat ≤ 122) :
    upperChar c.toUpper = [c.toUpper] := by
  obtain ⟨n, hn⟩ : ∃ n, n = c.toNat := ⟨_, rfl⟩
  have hc : c = Char.ofNat n := by rw [hn, Char.ofNat_toNat]
  rw [← hn] at h
  obtain ⟨hlo, hhi⟩ := h
  subst hc
  interval_cases n <;> rfl

theorem upperChar_ne_nil (c : Char) : upperChar c ≠ [] := by
  unfold upperChar
  split <;> simp

theorem upperChar_special {c c' : Char} (hspecial : upperChar c ≠ [c.toUpper])
    (h : c' ∈ upperChar c) : c' ∈ ['S', 'I', 'F', 'L', 'T'] := by
  unfold upperChar at hspecial h
  split at hspecial
  case h_11 => exact absurd rfl hspecial
  all_goals
    rename_i hcode
    simp only [hcode, List.mem_cons, List.not_mem_nil, or_false] at h
    simp only [List.mem_cons, List.not_mem_nil, or_false]
    tauto

/-- An image is left alone. -/
theorem upperChar_of_mem {c c' : Char} (h : c' ∈ upperChar c) : upperChar c' = [c'] := by
  by_cases hspecial : upperChar c = [c.toUpper]
  · rw [hspecial, List.mem_singleton] at h
    subst h
    by_cases hletter : 97 ≤ c.toNat ∧ c.toNat ≤ 122
    · exact upperChar_toUpper hletter
    · rw [toUpper_eq_self hletter] at hspecial ⊢
      exact hspecial
  · have hcapital := upperChar_special hspecial h
    simp only [List.mem_cons, List.not_mem_nil, or_false] at hcapital
    rcases hcapital with rfl | rfl | rfl | rfl | rfl <;> rfl

theorem flatMap_upperChar (cs : List Char) (h : ∀ c ∈ cs, upperChar c = [c]) :
    cs.flatMap upperChar = cs := by
  induction cs with
  | nil => rfl
  | cons c cs ih =>
      rw [List.flatMap_cons, h c (by simp), ih fun c hc => h c (by simp [hc])]
      rfl

theorem toUpperCase_toUpperCase (s : String) : toUpperCase (toUpperCase s) = toUpperCase s := by
  simp only [toUpperCase, String.toList_ofList]
  rw [flatMap_upperChar]
  intro c hc
  obtain ⟨c', -, himage⟩ := List.mem_flatMap.mp hc
  exact upperChar_of_mem himage

theorem toUpperCase_eq_empty_iff {s : String} : toUpperCase s = "" ↔ s = "" := by
  constructor
  · intro h
    cases hs : s.toList with
    | nil => exact String.toList_eq_nil_iff.mp hs
    | cons c cs =>
        have hempty : (s.toList.flatMap upperChar) = [] := by
          simpa [toUpperCase] using congrArg String.toList h
        rw [hs, List.flatMap_cons, List.append_eq_nil_iff] at hempty
        exact absurd hempty.1 (upperChar_ne_nil c)
  · rintro rfl
    rfl

end Aegis.JsString
