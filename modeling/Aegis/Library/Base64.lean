import Mathlib.Data.List.TakeWhile
import Mathlib.Tactic.Common

/-! # Base64 and UTF-8

Texts as bytes, and bytes in the URL-safe base64 alphabet without padding. -/

namespace Aegis.Base64

def alphabet : List Char :=
  "ABCDEFGHIJKLMNOPQRSTUVWXYZabcdefghijklmnopqrstuvwxyz0123456789-_".toList

def sextet (n : ℕ) : Char := alphabet.getD (n % 64) 'A'

/-- Three bytes become four characters; a rest of one or two becomes two or three. -/
def encode : List ℕ → List Char
  | [] => []
  | [a] => [sextet (a / 4), sextet (a % 4 * 16)]
  | [a, b] => [sextet (a / 4), sextet (a % 4 * 16 + b / 16), sextet (b % 16 * 4)]
  | a :: b :: c :: rest =>
      [sextet (a / 4), sextet (a % 4 * 16 + b / 16), sextet (b % 16 * 4 + c / 64), sextet c] ++
        encode rest

/-- `Buffer.from(s).toString('base64url')`. -/
def base64url (s : String) : String := String.ofList (encode (s.toUTF8.toList.map UInt8.toNat))

/-! ## Decoding -/

/-- The value of a character of the standard or the URL-safe alphabet. -/
def sextetVal (c : Char) : Option ℕ :=
  match c with
  | '+' => some 62
  | '/' => some 63
  | c => alphabet.idxOf? c

/-- Four values become three bytes; a rest of two or three becomes one or two. -/
def decode : List ℕ → List ℕ
  | a :: b :: c :: d :: rest =>
      [a * 4 + b / 16, b % 16 * 16 + c / 4, c % 4 * 64 + d] ++ decode rest
  | [a, b, c] => [a * 4 + b / 16, b % 16 * 16 + c / 4]
  | [a, b] => [a * 4 + b / 16]
  | _ => []

/-- `Buffer.from(s, 'base64url')`: other characters are skipped, a padding ends the text. -/
def bytesOf (s : String) : List ℕ :=
  decode ((s.toList.takeWhile (· ≠ '=')).filterMap sextetVal)

/-! ## UTF-8 -/

def replacement : Char := '\uFFFD'

/-- The rest of a character: continuation bytes to come, the range of the next one, and the
value so far. -/
inductive Pending where
  | idle
  | within (needed lower upper value : ℕ)
  deriving DecidableEq, Repr

/-- The first byte of a character, if it can be one. -/
def startByte (b : ℕ) : List Char × Pending :=
  if b < 0x80 then ([Char.ofNat b], .idle)
  else if 0xC2 ≤ b ∧ b < 0xE0 then ([], .within 1 0x80 0xBF (b - 0xC0))
  else if 0xE0 ≤ b ∧ b < 0xF0 then
    ([], .within 2 (if b = 0xE0 then 0xA0 else 0x80) (if b = 0xED then 0x9F else 0xBF) (b - 0xE0))
  else if 0xF0 ≤ b ∧ b < 0xF5 then
    ([], .within 3 (if b = 0xF0 then 0x90 else 0x80) (if b = 0xF4 then 0x8F else 0xBF) (b - 0xF0))
  else ([replacement], .idle)

/-- A byte out of range breaks the character off and starts another. -/
def nextByte : Pending → ℕ → List Char × Pending
  | .idle, b => startByte b
  | .within needed lower upper value, b =>
      if lower ≤ b ∧ b ≤ upper then
        let value := value * 64 + b % 64
        if needed ≤ 1 then ([Char.ofNat value], .idle)
        else ([], .within (needed - 1) 0x80 0xBF value)
      else (replacement :: (startByte b).1, (startByte b).2)

/-- `buffer.toString('utf8')`. -/
def decodeUtf8 : Pending → List ℕ → List Char
  | .idle, [] => []
  | .within _ _ _ _, [] => [replacement]
  | pending, b :: bytes => (nextByte pending b).1 ++ decodeUtf8 (nextByte pending b).2 bytes

/-- The bytes of a character. -/
def charBytes (c : Char) : List ℕ := (String.utf8EncodeChar c).map UInt8.toNat

section Characters

variable {lower upper value b : ℕ} (rest : List ℕ)

theorem decodeUtf8_cons (pending : Pending) :
    decodeUtf8 pending (b :: rest) =
      (nextByte pending b).1 ++ decodeUtf8 (nextByte pending b).2 rest := by
  cases pending <;> rfl

theorem nextByte_within {needed : ℕ} (h : lower ≤ b ∧ b ≤ upper) :
    nextByte (.within needed lower upper value) b =
      if needed ≤ 1 then ([Char.ofNat (value * 64 + b % 64)], .idle)
      else ([], .within (needed - 1) 0x80 0xBF (value * 64 + b % 64)) :=
  if_pos h

theorem decodeUtf8_last (h : lower ≤ b ∧ b ≤ upper) :
    decodeUtf8 (.within 1 lower upper value) (b :: rest) =
      Char.ofNat (value * 64 + b % 64) :: decodeUtf8 .idle rest := by
  rw [decodeUtf8_cons, nextByte_within h]
  rfl

theorem decodeUtf8_continue {needed : ℕ} (h : lower ≤ b ∧ b ≤ upper) :
    decodeUtf8 (.within (needed + 2) lower upper value) (b :: rest) =
      decodeUtf8 (.within (needed + 1) 0x80 0xBF (value * 64 + b % 64)) rest := by
  rw [decodeUtf8_cons, nextByte_within h, if_neg (by omega)]
  rfl

theorem decodeUtf8_start {chars : List Char} {pending : Pending}
    (h : startByte b = (chars, pending)) :
    decodeUtf8 .idle (b :: rest) = chars ++ decodeUtf8 pending rest := by
  have hnext : nextByte .idle b = (chars, pending) := h
  rw [decodeUtf8_cons, hnext]

theorem decodeUtf8_one (h : b < 0x80) :
    decodeUtf8 .idle (b :: rest) = Char.ofNat b :: decodeUtf8 .idle rest :=
  decodeUtf8_start rest (if_pos h)

theorem decodeUtf8_two (h : 0xC2 ≤ b ∧ b < 0xE0) :
    decodeUtf8 .idle (b :: rest) = decodeUtf8 (.within 1 0x80 0xBF (b - 0xC0)) rest :=
  decodeUtf8_start rest ((if_neg (by omega)).trans (if_pos h))

theorem decodeUtf8_three (h : 0xE0 ≤ b ∧ b < 0xF0) :
    decodeUtf8 .idle (b :: rest) =
      decodeUtf8 (.within 2 (if b = 0xE0 then 0xA0 else 0x80) (if b = 0xED then 0x9F else 0xBF)
        (b - 0xE0)) rest :=
  decodeUtf8_start rest ((if_neg (by omega)).trans ((if_neg (by omega)).trans (if_pos h)))

theorem decodeUtf8_four (h : 0xF0 ≤ b ∧ b < 0xF5) :
    decodeUtf8 .idle (b :: rest) =
      decodeUtf8 (.within 3 (if b = 0xF0 then 0x90 else 0x80) (if b = 0xF4 then 0x8F else 0xBF)
        (b - 0xF0)) rest :=
  decodeUtf8_start rest ((if_neg (by omega)).trans ((if_neg (by omega)).trans
    ((if_neg (by omega)).trans (if_pos h))))

theorem charBytes_eq (c : Char) :
    charBytes c =
      if c.toNat ≤ 0x7F then [c.toNat]
      else if c.toNat ≤ 0x7FF then [c.toNat / 64 % 32 + 0xC0, c.toNat % 64 + 0x80]
      else if c.toNat ≤ 0xFFFF then
        [c.toNat / 4096 % 16 + 0xE0, c.toNat / 64 % 64 + 0x80, c.toNat % 64 + 0x80]
      else
        [c.toNat / 262144 % 8 + 0xF0, c.toNat / 4096 % 64 + 0x80, c.toNat / 64 % 64 + 0x80,
          c.toNat % 64 + 0x80] := by
  have hnat (n : ℕ) (h : n < 256) : (UInt8.ofNat n).toNat = n := Nat.mod_eq_of_lt h
  have hval : c.val.toNat = c.toNat := rfl
  simp only [charBytes, String.utf8EncodeChar, hval]
  split_ifs with h1 h2 h3
  · simp only [List.map_cons, List.map_nil]
    rw [hnat _ (by omega)]
  · simp only [List.map_cons, List.map_nil]
    rw [hnat _ (by omega), hnat _ (by omega)]
  · simp only [List.map_cons, List.map_nil]
    rw [hnat _ (by omega), hnat _ (by omega), hnat _ (by omega)]
  · simp only [List.map_cons, List.map_nil]
    rw [hnat _ (by omega), hnat _ (by omega), hnat _ (by omega), hnat _ (by omega)]

/-- Bytes below 0x80 are characters of their own. -/
theorem toNat_of_mem_charBytes {c : Char} {b : ℕ} (hb : b ∈ charBytes c) (hlt : b < 0x80) :
    c.toNat = b := by
  rw [charBytes_eq] at hb
  split_ifs at hb with h1 h2 h3
  · exact (List.mem_singleton.mp hb).symm
  · simp only [List.mem_cons, List.not_mem_nil, or_false] at hb
    omega
  · simp only [List.mem_cons, List.not_mem_nil, or_false] at hb
    omega
  · simp only [List.mem_cons, List.not_mem_nil, or_false] at hb
    omega

/-- A character is read back from its bytes. -/
theorem decodeUtf8_charBytes (c : Char) :
    decodeUtf8 .idle (charBytes c ++ rest) = c :: decodeUtf8 .idle rest := by
  have hvalid : c.toNat < 0xD800 ∨ 0xDFFF < c.toNat ∧ c.toNat < 0x110000 := c.valid
  have hchar (n : ℕ) (h : n = c.toNat) : Char.ofNat n = c := by rw [h, Char.ofNat_toNat]
  rw [charBytes_eq]
  split_ifs with h1 h2 h3
  · rw [List.cons_append, List.nil_append, decodeUtf8_one rest (by omega), hchar _ rfl]
  · simp only [List.cons_append, List.nil_append]
    rw [decodeUtf8_two _ (by omega), decodeUtf8_last _ (by omega), hchar _ (by omega)]
  · simp only [List.cons_append, List.nil_append]
    rw [decodeUtf8_three _ (by omega),
      decodeUtf8_continue _ (by constructor <;> split_ifs <;> omega), decodeUtf8_last _ (by omega),
      hchar _ (by omega)]
  · simp only [List.cons_append, List.nil_append]
    rw [decodeUtf8_four _ (by omega),
      decodeUtf8_continue _ (by constructor <;> split_ifs <;> omega),
      decodeUtf8_continue _ (by omega), decodeUtf8_last _ (by omega), hchar _ (by omega)]

end Characters

/-! ### Texts -/

theorem toList_loop (bs : ByteArray) (i : ℕ) (r : List UInt8) :
    ByteArray.toList.loop bs i r = r.reverse ++ bs.data.toList.drop i := by
  fun_induction ByteArray.toList.loop bs i r with
  | case1 i r h ih =>
      have hi : i < bs.data.toList.length := by simpa using h
      have hget : bs.get! i = bs.data[i]! := by
        cases bs
        rfl
      have hitem : bs.data[i]! = bs.data.toList[i] := by
        rw [getElem!_pos bs.data i h]
        rfl
      rw [hitem] at hget
      rw [ih, List.reverse_cons, List.append_assoc, List.singleton_append, hget,
        List.getElem_cons_drop]
  | case2 i r h =>
      have hi : bs.data.toList.length ≤ i := by simpa using Nat.le_of_not_lt h
      rw [List.drop_eq_nil_of_le hi, List.append_nil]

/-- The bytes of a text are those of its characters. -/
theorem utf8_eq (s : String) :
    s.toUTF8.toList.map UInt8.toNat = s.toList.flatMap charBytes := by
  have hdata : s.toUTF8.data.toList = s.toList.flatMap String.utf8EncodeChar := by
    rw [String.toUTF8_eq_toByteArray, ← String.utf8Encode_toList, List.utf8Encode,
      List.toList_data_toByteArray]
  rw [ByteArray.toList, toList_loop, hdata, List.reverse_nil, List.nil_append, List.drop_zero,
    List.map_flatMap]
  rfl

/-- The bytes of a text. -/
def utf8 (s : String) : List ℕ := s.toList.flatMap charBytes

@[simp] theorem utf8_append (s t : String) : utf8 (s ++ t) = utf8 s ++ utf8 t := by
  simp [utf8]

theorem notMem_utf8 {s : String} {c : Char} (hc : c.toNat < 0x80) (h : c ∉ s.toList) :
    c.toNat ∉ utf8 s := by
  intro hmem
  obtain ⟨d, hd, hbyte⟩ := List.mem_flatMap.mp hmem
  rw [Char.toNat_inj.mp (toNat_of_mem_charBytes hbyte hc)] at hd
  exact h hd

theorem length_utf8 (s : String) : (utf8 s).length = s.utf8ByteSize := by
  rw [utf8, ← utf8_eq, List.length_map, ByteArray.toList, toList_loop, List.reverse_nil,
    List.nil_append, List.drop_zero, Array.length_toList]
  rfl

theorem utf8_join (parts : List String) : utf8 (String.join parts) = parts.flatMap utf8 := by
  rw [utf8, String.toList_join, List.flatMap_assoc]
  rfl

theorem decodeUtf8_utf8 (cs : List Char) : decodeUtf8 .idle (cs.flatMap charBytes) = cs := by
  induction cs with
  | nil => rfl
  | cons c cs ih => rw [List.flatMap_cons, decodeUtf8_charBytes, ih]

/-! ## The way back -/

theorem alphabet_eq : alphabet =
    ['A', 'B', 'C', 'D', 'E', 'F', 'G', 'H', 'I', 'J', 'K', 'L', 'M', 'N', 'O', 'P', 'Q', 'R',
      'S', 'T', 'U', 'V', 'W', 'X', 'Y', 'Z', 'a', 'b', 'c', 'd', 'e', 'f', 'g', 'h', 'i', 'j',
      'k', 'l', 'm', 'n', 'o', 'p', 'q', 'r', 's', 't', 'u', 'v', 'w', 'x', 'y', 'z', '0', '1',
      '2', '3', '4', '5', '6', '7', '8', '9', '-', '_'] := String.toList_ofList

@[simp] theorem sextetVal_sextet (n : ℕ) : sextetVal (sextet n) = some (n % 64) := by
  have hall : ∀ n < 64, sextetVal (sextet n) = some n := by
    simp only [sextet, sextetVal, alphabet_eq]
    decide
  have hmod : sextet n = sextet (n % 64) := by rw [sextet, sextet, Nat.mod_mod]
  rw [hmod, hall _ (Nat.mod_lt _ (by decide))]

theorem sextet_ne_padding (n : ℕ) : sextet n ≠ '=' := by
  intro h
  have hval := sextetVal_sextet n
  have hnone : sextetVal '=' = none := by
    simp only [sextetVal, alphabet_eq]
    decide
  rw [h, hnone] at hval
  cases hval

theorem padding_notMem_encode (bytes : List ℕ) : '=' ∉ encode bytes := by
  induction bytes using encode.induct with
  | case1 => simp [encode]
  | case2 a => simp [encode, (sextet_ne_padding _).symm]
  | case3 a b => simp [encode, (sextet_ne_padding _).symm]
  | case4 a b c rest ih => simp [encode, (sextet_ne_padding _).symm, ih]

/-- Decoding undoes encoding. -/
theorem decode_encode {bytes : List ℕ} (h : ∀ b ∈ bytes, b < 256) :
    decode ((encode bytes).filterMap sextetVal) = bytes := by
  induction bytes using encode.induct with
  | case1 => simp [encode, decode]
  | case2 a =>
      have ha := h a (by simp)
      simp only [encode, List.filterMap_cons, List.filterMap_nil, sextetVal_sextet, decode,
        List.cons.injEq, and_true]
      omega
  | case3 a b =>
      have ha := h a (by simp)
      have hb := h b (by simp)
      simp only [encode, List.filterMap_cons, List.filterMap_nil, sextetVal_sextet, decode,
        List.cons.injEq, and_true]
      omega
  | case4 a b c rest ih =>
      have ha := h a (by simp)
      have hb := h b (by simp)
      have hc := h c (by simp)
      have hrest := ih fun d hd => h d (by simp [hd])
      simp only [encode, List.cons_append, List.nil_append, List.filterMap_cons, sextetVal_sextet,
        decode, hrest, List.cons.injEq, and_true]
      omega

/-- `Buffer.from(s, 'base64url').toString('utf8')`. -/
def decodeBase64url (s : String) : String := String.ofList (decodeUtf8 .idle (bytesOf s))

/-- A text is read back from its encoding. -/
theorem decodeBase64url_base64url (s : String) : decodeBase64url (base64url s) = s := by
  have hbytes : ∀ b ∈ s.toUTF8.toList.map UInt8.toNat, b < 256 := by
    intro b hb
    obtain ⟨byte, -, rfl⟩ := List.mem_map.mp hb
    exact byte.toNat_lt
  have hplain : (encode (s.toUTF8.toList.map UInt8.toNat)).takeWhile (· ≠ '=') =
      encode (s.toUTF8.toList.map UInt8.toNat) := by
    rw [List.takeWhile_eq_self_iff]
    intro c hc
    have hne : c ≠ '=' := fun h => padding_notMem_encode _ (h ▸ hc)
    simpa using hne
  rw [decodeBase64url, bytesOf, base64url, String.toList_ofList, hplain, decode_encode hbytes,
    utf8_eq, decodeUtf8_utf8, String.ofList_toList]

end Aegis.Base64
