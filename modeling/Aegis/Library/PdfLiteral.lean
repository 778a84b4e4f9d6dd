import Aegis.Library.Base64

/-! # Literal strings of PDF

A literal string stands between parentheses. Those inside it are balanced or escaped by a
backslash, which also escapes itself, names control characters and starts octal codes. -/

namespace Aegis.PdfLiteral

open Base64

/-- Where the reader of a string stands, `depth` parentheses inside it being open. -/
inductive Mode where
  | plain (depth : ℕ)
  | escaped (depth : ℕ)
  /-- An octal code with up to `left` digits to come. -/
  | octal (depth left value : ℕ)
  /-- After a backslash and a carriage return. -/
  | continued (depth : ℕ)
  | closed
  deriving DecidableEq, Repr

/-- What a byte adds to the string, and where the reader stands then. -/
def plainByte (depth b : ℕ) : List ℕ × Mode :=
  if b = 0x5C then ([], .escaped depth)
  else if b = 0x28 then ([b], .plain (depth + 1))
  else if b = 0x29 then
    match depth with
    | 0 => ([], .closed)
    | depth + 1 => ([b], .plain depth)
  else ([b], .plain depth)

def isOctal (b : ℕ) : Bool := 0x30 ≤ b && b < 0x38

/-- A backslash before another byte than these is ignored. -/
def escapedByte (depth b : ℕ) : List ℕ × Mode :=
  if isOctal b then ([], .octal depth 2 (b - 0x30))
  else
    match b with
    | 0x6E => ([0x0A], .plain depth)
    | 0x72 => ([0x0D], .plain depth)
    | 0x74 => ([0x09], .plain depth)
    | 0x62 => ([0x08], .plain depth)
    | 0x66 => ([0x0C], .plain depth)
    | 0x0A => ([], .plain depth)
    | 0x0D => ([], .continued depth)
    | b => ([b], .plain depth)

def nextByte : Mode → ℕ → List ℕ × Mode
  | .plain depth, b => plainByte depth b
  | .escaped depth, b => escapedByte depth b
  | .octal depth left value, b =>
      if isOctal b ∧ 0 < left then
        let value := value * 8 + (b - 0x30)
        if left = 1 then ([value % 256], .plain depth) else ([], .octal depth (left - 1) value)
      else (value % 256 :: (plainByte depth b).1, (plainByte depth b).2)
  | .continued depth, b => if b = 0x0A then ([], .plain depth) else plainByte depth b
  | .closed, _ => ([], .closed)

/-- The literal strings of a content stream, un-escaped. Inside a string the reader carries what
it has read of it; a string that is not closed is none. -/
def literals : Option (List ℕ × Mode) → List ℕ → List (List ℕ)
  | _, [] => []
  | none, b :: bs => if b = 0x28 then literals (some ([], .plain 0)) bs else literals none bs
  | some (value, mode), b :: bs =>
      match nextByte mode b with
      | (read, .closed) => (value ++ read) :: literals none bs
      | (read, mode) => literals (some (value ++ read, mode)) bs

theorem literals_skip {text : List ℕ} (h : 0x28 ∉ text) (rest : List ℕ) :
    literals none (text ++ rest) = literals none rest := by
  induction text with
  | nil => rfl
  | cons b text ih =>
      obtain ⟨hb, htext⟩ := not_or.mp (List.mem_cons.not.mp h)
      rw [List.cons_append, literals, if_neg (Ne.symm hb), ih htext]

/-! ## Escaping -/

def isSpecial (b : ℕ) : Bool := b = 0x28 || b = 0x29 || b = 0x5C

/-- Parentheses and backslashes get a backslash. -/
def escape (bytes : List ℕ) : List ℕ :=
  bytes.flatMap fun b => if isSpecial b then [0x5C, b] else [b]

@[simp] theorem escape_nil : escape [] = [] := rfl

theorem escape_cons_special {b : ℕ} (hb : isSpecial b = true) (bytes : List ℕ) :
    escape (b :: bytes) = 0x5C :: b :: escape bytes := by
  simp [escape, hb]

theorem escape_cons_plain {b : ℕ} (hb : isSpecial b = false) (bytes : List ℕ) :
    escape (b :: bytes) = b :: escape bytes := by
  simp [escape, hb]

theorem escape_of_plain {bytes : List ℕ} (h : ∀ b ∈ bytes, isSpecial b = false) :
    escape bytes = bytes := by
  induction bytes with
  | nil => rfl
  | cons b bytes ih =>
      rw [escape_cons_plain (h b (by simp)), ih fun c hc => h c (by simp [hc])]

theorem plainByte_plain {b : ℕ} (depth : ℕ) (hb : isSpecial b = false) :
    plainByte depth b = ([b], .plain depth) := by
  simp only [isSpecial, Bool.or_eq_false_iff, decide_eq_false_iff_not] at hb
  simp [plainByte, hb]

theorem escapedByte_special {b : ℕ} (depth : ℕ) (hb : isSpecial b = true) :
    escapedByte depth b = ([b], .plain depth) := by
  simp only [isSpecial, Bool.or_eq_true, decide_eq_true_eq] at hb
  rcases hb with (rfl | rfl) | rfl
  · rfl
  · rfl
  · rfl

/-- An escaped text is read as the text, and the reader stands where it stood. -/
theorem literals_escape (value bytes rest : List ℕ) :
    literals (some (value, .plain 0)) (escape bytes ++ rest) =
      literals (some (value ++ bytes, .plain 0)) rest := by
  induction bytes generalizing value with
  | nil => rw [escape_nil, List.nil_append, List.append_nil]
  | cons b bytes ih =>
      cases hb : isSpecial b with
      | true =>
          have hslash : nextByte (.plain 0) 0x5C = ([], .escaped 0) := rfl
          have hnext : nextByte (.escaped 0) b = ([b], .plain 0) := escapedByte_special 0 hb
          rw [escape_cons_special hb, List.cons_append, List.cons_append, literals, hslash]
          dsimp only
          rw [literals, hnext]
          dsimp only
          rw [ih, List.append_nil, List.append_assoc, List.singleton_append]
      | false =>
          have hnext : nextByte (.plain 0) b = ([b], .plain 0) := plainByte_plain 0 hb
          rw [escape_cons_plain hb, List.cons_append, literals, hnext]
          dsimp only
          rw [ih, List.append_assoc, List.singleton_append]

/-- The string ends at the parenthesis that follows the escaped text. -/
theorem literals_literal (bytes rest : List ℕ) :
    literals none (0x28 :: (escape bytes ++ 0x29 :: rest)) = bytes :: literals none rest := by
  have hopen : literals none (0x28 :: (escape bytes ++ 0x29 :: rest)) =
      literals (some ([], .plain 0)) (escape bytes ++ 0x29 :: rest) := rfl
  rw [hopen, literals_escape, List.nil_append, literals]
  simp [nextByte, plainByte]

example : literals none (utf8 "(a\\(b) (c(d)e\\\\) (\\101\\n) (f(g)") =
    ["a(b", "c(d)e\\", "A\n"].map utf8 := by decide

/-! ## Ends of lines -/

/-- Every end of line as a reader takes it: a carriage return is one, and a line feed after it
belongs to it. -/
def endsOfLines : Bool → List ℕ → List ℕ
  | _, [] => []
  | afterReturn, b :: bytes =>
      if b = 0x0A ∧ afterReturn = true then endsOfLines false bytes
      else if b = 0x0D then 0x0A :: endsOfLines true bytes
      else b :: endsOfLines false bytes

theorem endsOfLines_append {b : ℕ} (hb : b ≠ 0x0A) (hreturn : b ≠ 0x0D) (afterReturn : Bool)
    (bytes rest : List ℕ) :
    endsOfLines afterReturn (bytes ++ b :: rest) =
      endsOfLines afterReturn bytes ++ b :: endsOfLines false rest := by
  induction bytes generalizing afterReturn with
  | nil => simp [endsOfLines, hb, hreturn]
  | cons c bytes ih =>
      simp only [List.cons_append, endsOfLines, ih]
      split_ifs <;> rfl

/-- A text without carriage returns. -/
theorem endsOfLines_skip {text : List ℕ} (h : 0x0D ∉ text) (rest : List ℕ) :
    endsOfLines false (text ++ rest) = text ++ endsOfLines false rest := by
  induction text with
  | nil => rfl
  | cons b text ih =>
      obtain ⟨hb, htext⟩ := not_or.mp (List.mem_cons.not.mp h)
      simp [endsOfLines, Ne.symm hb, ih htext]

/-- Neither a carriage return nor a line feed is escaped. -/
theorem endsOfLines_escape (afterReturn : Bool) (bytes : List ℕ) :
    endsOfLines afterReturn (escape bytes) = escape (endsOfLines afterReturn bytes) := by
  induction bytes generalizing afterReturn with
  | nil => rfl
  | cons b bytes ih =>
      cases hb : isSpecial b with
      | true =>
          have hne : b ≠ 0x0A ∧ b ≠ 0x0D := by
            constructor <;> rintro rfl <;> cases hb
          rw [escape_cons_special hb]
          simp [endsOfLines, hne, ih, escape_cons_special hb]
      | false =>
          rw [escape_cons_plain hb]
          simp only [endsOfLines, ih]
          split_ifs with hfeed hreturn
          · rfl
          · exact (escape_cons_plain rfl _).symm
          · exact (escape_cons_plain hb _).symm

end Aegis.PdfLiteral
