import Aegis.Library.PdfLiteral
import Aegis.Model.FraudReview
import Mathlib.Data.List.Induction

/-! # The report as a PDF file

A reader finds the cross-reference table by `startxref`, the objects by its entries, and the lines
of the report as the literal strings of the content stream. -/

namespace Aegis.FraudService

open Base64 PdfLiteral

/-! ## The property -/

/-- `digits` is a decimal numeral for `n` of that width. -/
structure IsNumeral (width : ℕ) (digits : String) (n : ℕ) : Prop where
  length : digits.toList.length = width
  isDigit : ∀ c ∈ digits.toList, c.isDigit = true
  value : Nat.ofDigitChars 10 digits.toList 0 = n

/-- What is at a place of the file. -/
def At (pdf : List ℕ) (place : ℕ) (text : List ℕ) : Prop := text <+: pdf.drop place

/-- Objects 1 to 5 follow the heading one after the other, each at its `offset`, and the table
follows them, its entries of 20 bytes each after a heading of 9; `stream` is the content. -/
structure WellFormed (lines : List String) (pdf : List ℕ) (offset : ℕ → ℕ) (xrefStart : ℕ)
    (stream : List ℕ) : Prop where
  heading : At pdf 0 (utf8 "%PDF-1.3\n")
  first : offset 1 = 9
  objects : ∀ n, 1 ≤ n → n ≤ 5 → ∃ object body, At pdf (offset n) object ∧
    object = utf8 (toString n ++ " 0 obj\n") ++ body ++ utf8 "\nendobj\n" ∧
    offset (n + 1) = offset n + object.length
  last : offset 6 = xrefStart
  entries : pdf.length < 10 ^ 10 → ∀ n, 1 ≤ n → n ≤ 5 → ∃ digits, IsNumeral 10 digits (offset n) ∧
    At pdf (xrefStart + 9 + 20 * n) (utf8 (digits ++ " 00000 n \n"))
  content : At pdf (offset 4) (utf8 ("4 0 obj\n<< /Length " ++ toString stream.length ++
    " >>\nstream\n") ++ stream ++ utf8 "\nendstream\nendobj\n")
  xref : At pdf xrefStart (utf8 "xref\n0 6\n0000000000 65535 f \n")
  startxref : utf8 ("startxref\n" ++ toString xrefStart ++ "\n%%EOF\n") <:+ pdf
  strings : literals none stream = lines.map utf8
  /-- For a reader that takes every end of line in a string for a line feed. -/
  strings_endsOfLines : literals none (endsOfLines false stream) =
    lines.map fun line => endsOfLines false (utf8 line)

/-! ## The lines -/

def escapeChar (c : Char) : List Char :=
  if c = '\\' ∨ c = '(' ∨ c = ')' then ['\\', c] else [c]

theorem toList_escape (value : String) :
    (escape value).toList = value.toList.flatMap escapeChar := by
  simp only [escape, JsString.replaceAll, String.toList_ofList, List.flatMap_assoc]
  congr 1
  funext c
  by_cases hslash : c = '\\'
  · subst hslash
    rfl
  by_cases hopen : c = '('
  · subst hopen
    rfl
  by_cases hclose : c = ')'
  · subst hclose
    rfl
  simp [escapeChar, hslash, hopen, hclose]

theorem not_isSpecial_of_mem {c : Char} (hc : ¬(c = '\\' ∨ c = '(' ∨ c = ')')) {b : ℕ}
    (hb : b ∈ charBytes c) : isSpecial b = false := by
  rw [← Bool.not_eq_true]
  intro hspecial
  simp only [isSpecial, Bool.or_eq_true, decide_eq_true_eq] at hspecial
  have hval : c.toNat = b := toNat_of_mem_charBytes hb (by omega)
  rw [← hval] at hspecial
  rcases hspecial with (hopen | hclose) | hslash
  · exact hc (.inr (.inl (Char.toNat_inj.mp hopen)))
  · exact hc (.inr (.inr (Char.toNat_inj.mp hclose)))
  · exact hc (.inl (Char.toNat_inj.mp hslash))

/-- Escaping a character escapes its bytes. -/
theorem charBytes_escapeChar (c : Char) :
    (escapeChar c).flatMap charBytes = PdfLiteral.escape (charBytes c) := by
  by_cases hc : c = '\\' ∨ c = '(' ∨ c = ')'
  · rcases hc with rfl | rfl | rfl <;> decide
  · rw [escapeChar, if_neg hc, escape_of_plain fun b hb => not_isSpecial_of_mem hc hb,
      List.flatMap_singleton]

theorem utf8_escape (value : String) : utf8 (escape value) = PdfLiteral.escape (utf8 value) := by
  rw [utf8, toList_escape, List.flatMap_assoc, PdfLiteral.escape, utf8, List.flatMap_assoc]
  exact List.flatMap_congr fun c _ => charBytes_escapeChar c

/-- A line of the content up to its string. -/
def contentPrefix (index : ℕ) : String :=
  "1 0 0 1 50 " ++ toString (760 - index * 16 : ℤ) ++ " Tm "

theorem utf8_contentLine (index : ℕ) (line : String) (rest : List ℕ) :
    utf8 (contentLine index line) ++ rest = utf8 (contentPrefix index) ++
      [0x28] ++ (PdfLiteral.escape (utf8 line) ++ 0x29 :: (utf8 " Tj" ++ rest)) := by
  have hopen : utf8 " Tm (" = utf8 " Tm " ++ [0x28] := by decide
  have hclose : utf8 ") Tj" = 0x29 :: utf8 " Tj" := by decide
  simp only [contentLine, contentPrefix, utf8_append, utf8_escape, hopen, hclose,
    List.append_assoc, List.cons_append, List.nil_append]

theorem notMem_contentPrefix {c : Char} (h : c = '(' ∨ c = '\r') (index : ℕ) :
    c.toNat ∉ utf8 (contentPrefix index) := by
  have hnumeral : c ∉ (760 - index * 16 : ℤ).repr.toList := by
    rcases h with rfl | rfl
    · exact Text.notMem_int_repr rfl (by decide)
    · exact Text.notMem_int_repr rfl (by decide)
  apply notMem_utf8
  · rcases h with rfl | rfl <;> decide
  · rcases h with rfl | rfl <;> simp [contentPrefix, hnumeral]

theorem literals_contentLine (index : ℕ) (line : String) (rest : List ℕ) :
    literals none (utf8 (contentLine index line) ++ rest) = utf8 line :: literals none rest := by
  have hend : 0x28 ∉ utf8 " Tj" := by decide
  rw [utf8_contentLine, List.append_assoc, literals_skip (notMem_contentPrefix (.inl rfl) index),
    List.singleton_append, literals_literal, literals_skip hend]

/-- A reader that takes every end of line for a line feed does so in the line alone. -/
theorem literals_contentLine_endsOfLines (index : ℕ) (line : String) (rest : List ℕ) :
    literals none (endsOfLines false (utf8 (contentLine index line) ++ rest)) =
      endsOfLines false (utf8 line) :: literals none (endsOfLines false rest) := by
  have hopen : 0x0D ∉ [0x28] := by decide
  have hend : 0x0D ∉ utf8 " Tj" := by decide
  have hstring : 0x28 ∉ utf8 " Tj" := by decide
  rw [utf8_contentLine, List.append_assoc,
    endsOfLines_skip (notMem_contentPrefix (.inr rfl) index), endsOfLines_skip hopen,
    endsOfLines_append (by decide) (by decide), endsOfLines_escape, endsOfLines_skip hend,
    literals_skip (notMem_contentPrefix (.inl rfl) index), List.singleton_append,
    literals_literal, literals_skip hstring]

/-- Texts on lines of their own, each with a string of its own, for a reader that first makes
`view` of the bytes. -/
theorem literals_intercalate {f : ℕ → String → String} {view : List ℕ → List ℕ}
    {value : String → List ℕ} (hf : ∀ i line rest,
      literals none (view (utf8 (f i line) ++ rest)) = value line :: literals none (view rest))
    (hbreak : ∀ rest, literals none (view (utf8 "\n" ++ rest)) = literals none (view rest))
    (lines : List String) (rest : List ℕ) :
    literals none (view (utf8 ("\n".intercalate (lines.mapIdx f)) ++ rest)) =
      lines.map value ++ literals none (view rest) := by
  induction lines generalizing f with
  | nil => rfl
  | cons line lines ih =>
      cases lines with
      | nil => simpa using hf 0 line rest
      | cons next lines =>
          have htail := ih (f := fun i => f (i + 1)) fun i => hf (i + 1)
          rw [List.mapIdx_cons, String.intercalate_cons_of_ne_nil (by simp), utf8_append,
            utf8_append, List.append_assoc, List.append_assoc, hf, hbreak, htail]
          rfl

theorem utf8_contentStream (lines : List String) : utf8 (contentStream lines) =
    utf8 "BT /F1 12 Tf\n" ++
      (utf8 ("\n".intercalate (lines.mapIdx contentLine)) ++ utf8 "\nET") := by
  rw [contentStream, utf8_append, utf8_append, List.append_assoc]

theorem literals_contentStream (lines : List String) :
    literals none (utf8 (contentStream lines)) = lines.map utf8 := by
  have hbegin : 0x28 ∉ utf8 "BT /F1 12 Tf\n" := by decide
  have hbreak : 0x28 ∉ utf8 "\n" := by decide
  have hend : literals none (utf8 "\nET") = [] := by decide
  have hlines := @literals_intercalate contentLine id utf8 literals_contentLine
    (literals_skip hbreak) lines (utf8 "\nET")
  rw [utf8_contentStream, literals_skip hbegin]
  simpa only [id, hend, List.append_nil] using hlines

/-- Where carriage returns are not kept, a line is read with line feeds in their place, and so one
without them as it is. -/
theorem literals_contentStream_endsOfLines (lines : List String) :
    literals none (endsOfLines false (utf8 (contentStream lines))) =
      lines.map fun line => endsOfLines false (utf8 line) := by
  have hbegin : 0x0D ∉ utf8 "BT /F1 12 Tf\n" ∧ 0x28 ∉ utf8 "BT /F1 12 Tf\n" := by decide
  have hbreak : 0x0D ∉ utf8 "\n" ∧ 0x28 ∉ utf8 "\n" := by decide
  have hend : literals none (endsOfLines false (utf8 "\nET")) = [] := by decide
  have hlines := literals_intercalate literals_contentLine_endsOfLines
    (fun rest => by rw [endsOfLines_skip hbreak.1, literals_skip hbreak.2]) lines (utf8 "\nET")
  rw [utf8_contentStream, endsOfLines_skip hbegin.1, literals_skip hbegin.2, hlines, hend,
    List.append_nil]

/-! ## The places of the parts -/

/-- The number of bytes. -/
def size (parts : List String) : ℕ := (parts.flatMap utf8).length

theorem size_append (parts rest : List String) : size (parts ++ rest) = size parts + size rest := by
  simp [size]

theorem size_singleton (part : String) : size [part] = byteLength part := by
  simp [size, byteLength, length_utf8]

/-- A part is where those before it end. -/
theorem at_part {parts : List String} {n : ℕ} {part : String} {text : List ℕ}
    (hpart : parts[n]? = some part) (h : text <+: utf8 part) :
    At (parts.flatMap utf8) (size (parts.take n)) text := by
  have hsplit :
      parts.flatMap utf8 = (parts.take n).flatMap utf8 ++ (parts.drop n).flatMap utf8 := by
    rw [← List.flatMap_append, List.take_append_drop]
  have hdrop : parts.drop n = part :: parts.drop (n + 1) := by
    rw [List.drop_eq_getElem?_toList_append, hpart]
    rfl
  rw [At, size, hsplit, List.drop_left, hdrop, List.flatMap_cons]
  exact h.trans (List.prefix_append _ _)

theorem At.right {pdf text rest : List ℕ} {place : ℕ} (h : At pdf place (text ++ rest)) :
    At pdf (place + text.length) rest := by
  obtain ⟨after, hafter⟩ := h
  rw [At, ← List.drop_drop, ← hafter, List.append_assoc, List.drop_left]
  exact List.prefix_append rest after

theorem At.initial {pdf text rest : List ℕ} {place : ℕ} (h : At pdf place rest)
    (hinitial : text <+: rest) : At pdf place text := hinitial.trans h

theorem size_take_le (parts : List String) (n : ℕ) : size (parts.take n) ≤ size parts := by
  have hsplit := size_append (parts.take n) (parts.drop n)
  rw [List.take_append_drop] at hsplit
  omega

/-- An offset is recorded for every part but the heading, which has a zero in its place. -/
structure Measured (file : PdfParts) : Prop where
  length : file.offsets.length = file.parts.length
  offset : ∀ n, 0 < n → n < file.parts.length → file.offsets[n]? = some (size (file.parts.take n))
  total : file.total = size file.parts

theorem Measured.addObject {file : PdfParts} (h : Measured file) (obj : String) :
    Measured (addObject file obj) where
  length := by simp [FraudService.addObject, h.length]
  offset n hpos hlt := by
    simp only [FraudService.addObject, List.length_append, List.length_singleton] at hlt ⊢
    by_cases hn : n < file.parts.length
    · rw [List.getElem?_append_left (by rw [h.length]; exact hn), h.offset n hpos hn,
        List.take_append_of_le_length hn.le]
    · obtain rfl : n = file.parts.length := by omega
      rw [List.getElem?_append_right h.length.le, h.length, Nat.sub_self, List.take_left]
      simp [h.total]
  total := by
    simp [FraudService.addObject, size_append, size_singleton, h.total]

theorem measured_addObjects (objects : List String) :
    Measured (addObjects objects) ∧
      (addObjects objects).parts = pdfHeader :: objects.map fun obj => obj ++ "\n" := by
  induction objects using List.reverseRecOn with
  | nil =>
      refine ⟨⟨rfl, fun n hpos hlt => ?_, (size_singleton pdfHeader).symm⟩, rfl⟩
      simp only [addObjects, List.foldl_nil, List.length_singleton] at hlt
      omega
  | append_singleton objects obj ih =>
      have hstep : addObjects (objects ++ [obj]) = addObject (addObjects objects) obj := by
        simp [addObjects]
      obtain ⟨hmeasured, hparts⟩ := ih
      rw [hstep]
      refine ⟨hmeasured.addObject obj, ?_⟩
      simp [addObject, hparts]

/-! ## The table -/

theorem intercalate_lines {lines : List String} (h : lines ≠ []) :
    utf8 ("\n".intercalate lines ++ "\n") = lines.flatMap fun line => utf8 (line ++ "\n") := by
  induction lines with
  | nil => exact absurd rfl h
  | cons line lines ih =>
      cases lines with
      | nil => simp
      | cons next lines =>
          have htail := ih (by simp)
          rw [String.intercalate_cons_of_ne_nil (by simp), List.flatMap_cons, ← htail]
          simp only [utf8_append, List.append_assoc]

theorem length_flatMap_of_eq {α β : Type*} {f : α → List β} {width : ℕ} {blocks : List α}
    (h : ∀ block ∈ blocks, (f block).length = width) :
    (blocks.flatMap f).length = width * blocks.length := by
  induction blocks with
  | nil => rfl
  | cons block blocks ih =>
      have hblock := h block (by simp)
      have hrest := ih fun b hb => h b (List.mem_cons_of_mem block hb)
      rw [List.flatMap_cons, List.length_append, hblock, hrest, List.length_cons, Nat.mul_succ,
        Nat.add_comm]

theorem isNumeral_padStart {n : ℕ} (h : n < 10 ^ 10) :
    IsNumeral 10 (Text.padStart (toString n) 10 '0') n where
  length := Text.length_padStart ((Nat.length_repr_le_iff (by omega)).mpr h)
  isDigit c hc := by
    rcases Text.mem_padStart hc with rfl | hc
    · rfl
    · exact Text.isDigit_of_mem_repr hc
  value := by
    have hrepr : toString n = n.repr := rfl
    simp [Text.padStart, Nat.ofDigitChars_append, hrepr, Nat.toList_repr]

theorem IsNumeral.utf8_length {width n : ℕ} {digits : String} (h : IsNumeral width digits n) :
    (utf8 digits).length = width := by
  have hone : ∀ c ∈ digits.toList, charBytes c = [c.toNat] := by
    intro c hc
    have hdigit := h.isDigit c hc
    simp only [Char.isDigit, Bool.and_eq_true, decide_eq_true_eq] at hdigit
    have hle : c.toNat ≤ 57 := hdigit.2
    rw [charBytes_eq, if_pos (by omega)]
  rw [utf8, List.flatMap_congr hone, ← List.map_eq_flatMap, List.length_map, h.length]

/-- The entries of the table, that of object 0 first. -/
def pdfEntries (offsets : List ℕ) : List String :=
  "0000000000 65535 f " :: offsets.tail.map xrefLine

theorem utf8_pdfXref {objects : List String} (h : objects.length = 5) (offsets : List ℕ) :
    utf8 (pdfXref objects offsets) = utf8 "xref\n0 6\n" ++
      (pdfEntries offsets).flatMap fun line => utf8 (line ++ "\n") := by
  have hlines := intercalate_lines
    (List.cons_ne_nil ("xref\n0 " ++ toString (objects.length + 1)) (pdfEntries offsets))
  have hhead : utf8 ("xref\n0 " ++ toString (5 + 1) ++ "\n") = utf8 "xref\n0 6\n" := by decide
  rw [List.flatMap_cons, h, hhead] at hlines
  rw [pdfXref, h]
  exact hlines

theorem length_entry {offsets : List ℕ} (h : ∀ offset ∈ offsets.tail, offset < 10 ^ 10) :
    ∀ line ∈ pdfEntries offsets, (utf8 (line ++ "\n")).length = 20 := by
  intro line hline
  rcases List.mem_cons.mp hline with rfl | hline
  · decide
  · obtain ⟨offset, hoffset, rfl⟩ := List.mem_map.mp hline
    have hdigits := (isNumeral_padStart (h offset hoffset)).utf8_length
    have hrest : (utf8 " 00000 n ").length + (utf8 "\n").length = 10 := by decide
    simp only [xrefLine, utf8_append, List.length_append, hdigits]
    omega

/-! ## The file -/

theorem pdfObjects_getElem? (stream : String) : ∀ n < 5, ∃ body,
    (pdfObjects stream)[n]? = some (toString (n + 1) ++ " 0 obj\n" ++ body ++ "\nendobj") := by
  intro n hn
  match n with
  | 0 => exact ⟨"<< /Type /Catalog /Pages 2 0 R >>", congrArg some (by decide)⟩
  | 1 => exact ⟨"<< /Type /Pages /Kids [3 0 R] /Count 1 >>", congrArg some (by decide)⟩
  | 2 => exact ⟨"<< /Type /Page /Parent 2 0 R /MediaBox [0 0 612 792] /Contents 4 0 R " ++
      "/Resources << /Font << /F1 " ++ fontRef ++ " >> >> >>", congrArg some (by decide)⟩
  | 3 =>
      have hhead : "4 0 obj\n<< /Length " = toString (3 + 1) ++ " 0 obj\n" ++ "<< /Length " := by
        decide
      have hend : "\nendstream\nendobj" = "\nendstream" ++ "\nendobj" := by decide
      refine ⟨"<< /Length " ++ (toString (byteLength stream) ++ (" >>\nstream\n" ++ (stream ++
        "\nendstream"))), congrArg some ?_⟩
      rw [hhead, hend]
      simp only [String.append_assoc]
  | 4 => exact ⟨"<< /Type /Font /Subtype /Type1 /BaseFont /Helvetica >>",
      congrArg some (by decide)⟩

section File

variable (lines : List String)

def reportObjects : List String := pdfObjects (contentStream lines)

def reportFile : PdfParts := addObjects (reportObjects lines)

/-- All parts of the file. -/
def reportParts : List String :=
  (reportFile lines).parts ++ [pdfXref (reportObjects lines) (reportFile lines).offsets,
    pdfTrailer (reportObjects lines) (reportFile lines).total]

/-- The bytes of the file. -/
def report : List ℕ := (buildSimplePdf lines).toList.map UInt8.toNat

theorem report_eq : report lines = (reportParts lines).flatMap utf8 := by
  rw [report, buildSimplePdf, utf8_eq]
  exact utf8_join (reportParts lines)

theorem measured_report : Measured (reportFile lines) :=
  (measured_addObjects (reportObjects lines)).1

theorem parts_report : (reportFile lines).parts =
    pdfHeader :: (reportObjects lines).map fun obj => obj ++ "\n" :=
  (measured_addObjects (reportObjects lines)).2

theorem length_reportObjects : (reportObjects lines).length = 5 := rfl

theorem length_parts : (reportFile lines).parts.length = 6 := by
  rw [parts_report, List.length_cons, List.length_map, length_reportObjects]

theorem take_reportParts {n : ℕ} (hn : n ≤ 6) :
    (reportParts lines).take n = (reportFile lines).parts.take n := by
  rw [reportParts, List.take_append_of_le_length (by rwa [length_parts])]

/-- Where a part begins. -/
def reportOffset (n : ℕ) : ℕ := size ((reportParts lines).take n)

variable {lines} {n : ℕ}

theorem reportParts_object {obj : String} (h : (reportObjects lines)[n]? = some obj) :
    (reportParts lines)[n + 1]? = some (obj ++ "\n") := by
  obtain ⟨hlt, hget⟩ := List.getElem?_eq_some_iff.mp h
  rw [reportParts, parts_report, List.cons_append, List.getElem?_cons_succ,
    List.getElem?_append_left (by simpa using hlt), List.getElem?_map, h]
  rfl

theorem reportParts_xref : (reportParts lines)[6]? =
    some (pdfXref (reportObjects lines) (reportFile lines).offsets) := by
  rw [reportParts, List.getElem?_append_right (by rw [length_parts]), length_parts]
  rfl

theorem reportOffset_lt (h : (report lines).length < 10 ^ 10) (n : ℕ) :
    reportOffset lines n < 10 ^ 10 := by
  have hle := size_take_le (reportParts lines) n
  rw [report_eq] at h
  exact lt_of_le_of_lt hle h

/-- The recorded offsets are those of the objects. -/
theorem offsets_report (hpos : 0 < n) (hn : n ≤ 5) :
    (reportFile lines).offsets[n]? = some (reportOffset lines n) := by
  rw [reportOffset, take_reportParts lines (by omega)]
  exact (measured_report lines).offset n hpos (by rw [length_parts]; omega)

theorem total_report : (reportFile lines).total = reportOffset lines 6 := by
  rw [reportOffset, take_reportParts lines le_rfl, (measured_report lines).total,
    List.take_of_length_le (length_parts lines).le]

theorem at_report {part : String} {text : List ℕ} (hpart : (reportParts lines)[n]? = some part)
    (h : text <+: utf8 part) : At (report lines) (reportOffset lines n) text := by
  rw [report_eq]
  exact at_part hpart h

theorem reportOffset_succ {part : String} (hpart : (reportParts lines)[n]? = some part) :
    reportOffset lines (n + 1) = reportOffset lines n + (utf8 part).length := by
  have htake : (reportParts lines).take (n + 1) = (reportParts lines).take n ++ [part] := by
    rw [List.take_add_one, hpart]
    rfl
  rw [reportOffset, htake, size_append, size_singleton, byteLength, length_utf8, reportOffset]

theorem at_object (hpos : 1 ≤ n) (hn : n ≤ 5) : ∃ object body,
    At (report lines) (reportOffset lines n) object ∧
      object = utf8 (toString n ++ " 0 obj\n") ++ body ++ utf8 "\nendobj\n" ∧
      reportOffset lines (n + 1) = reportOffset lines n + object.length := by
  obtain ⟨body, hobj⟩ := pdfObjects_getElem? (contentStream lines) (n - 1) (by omega)
  rw [Nat.sub_add_cancel hpos] at hobj
  have hpart := reportParts_object hobj
  rw [Nat.sub_add_cancel hpos] at hpart
  have hend : utf8 "\nendobj\n" = utf8 "\nendobj" ++ utf8 "\n" := by decide
  refine ⟨_, utf8 body, at_report hpart List.prefix_rfl, ?_, reportOffset_succ hpart⟩
  rw [utf8_append, utf8_append, utf8_append _ body, hend]
  simp only [List.append_assoc]

theorem at_content : At (report lines) (reportOffset lines 4)
    (utf8 ("4 0 obj\n<< /Length " ++ toString (utf8 (contentStream lines)).length ++
      " >>\nstream\n") ++ utf8 (contentStream lines) ++ utf8 "\nendstream\nendobj\n") := by
  have hend : utf8 "\nendstream\nendobj\n" = utf8 "\nendstream\nendobj" ++ utf8 "\n" := by decide
  refine at_report (reportParts_object rfl) ?_
  rw [hend, length_utf8, ← utf8_append, ← List.append_assoc, ← utf8_append, ← utf8_append]
  exact List.prefix_rfl

theorem at_xref (lines : List String) : At (report lines) (reportOffset lines 6)
    (utf8 "xref\n0 6\n" ++ (pdfEntries (reportFile lines).offsets).flatMap fun line =>
      utf8 (line ++ "\n")) := by
  have hxref := utf8_pdfXref (length_reportObjects lines) (reportFile lines).offsets
  exact at_report reportParts_xref (hxref ▸ List.prefix_rfl)

theorem tail_offsets_lt (h : (report lines).length < 10 ^ 10) :
    ∀ offset ∈ (reportFile lines).offsets.tail, offset < 10 ^ 10 := by
  intro offset hoffset
  obtain ⟨m, hm⟩ := List.mem_iff_getElem?.mp hoffset
  rw [List.getElem?_tail] at hm
  have hlt : m + 1 < (reportFile lines).offsets.length := (List.getElem?_eq_some_iff.mp hm).1
  rw [(measured_report lines).length, length_parts] at hlt
  rw [offsets_report (by omega) (by omega)] at hm
  exact Option.some.inj hm ▸ reportOffset_lt h (m + 1)

theorem length_pdfEntries : (pdfEntries (reportFile lines).offsets).length = 6 := by
  rw [pdfEntries, List.length_cons, List.length_map, List.length_tail,
    (measured_report lines).length, length_parts]

theorem pdfEntries_getElem? (hpos : 1 ≤ n) (hn : n ≤ 5) :
    (pdfEntries (reportFile lines).offsets)[n]? = some (xrefLine (reportOffset lines n)) := by
  obtain ⟨m, rfl⟩ : ∃ m, n = m + 1 := ⟨n - 1, by omega⟩
  rw [pdfEntries, List.getElem?_cons_succ, List.getElem?_map, List.getElem?_tail,
    offsets_report hpos hn, Option.map_some]

/-- The entries before the `n`-th one have 20 bytes each. -/
theorem at_entry (h : (report lines).length < 10 ^ 10) (hpos : 1 ≤ n) (hn : n ≤ 5) :
    At (report lines) (reportOffset lines 6 + 9 + 20 * n)
      (utf8 (Text.padStart (toString (reportOffset lines n)) 10 '0' ++ " 00000 n \n")) := by
  have hlengths := length_entry (tail_offsets_lt h)
  have hbefore : ((pdfEntries (reportFile lines).offsets).take n).length = n := by
    rw [List.length_take, length_pdfEntries]
    omega
  have hsplit := List.take_append_drop n (pdfEntries (reportFile lines).offsets)
  have hdrop : (pdfEntries (reportFile lines).offsets).drop n = xrefLine (reportOffset lines n) ::
      (pdfEntries (reportFile lines).offsets).drop (n + 1) := by
    rw [List.drop_eq_getElem?_toList_append, pdfEntries_getElem? hpos hn]
    rfl
  have hentries := (at_xref lines).right
  rw [← hsplit, List.flatMap_append] at hentries
  have hplace := hentries.right
  rw [length_flatMap_of_eq fun line hline => hlengths line (List.mem_of_mem_take hline), hbefore,
    hdrop, List.flatMap_cons] at hplace
  refine hplace.initial ?_
  have hend : utf8 " 00000 n \n" = utf8 " 00000 n " ++ utf8 "\n" := by decide
  rw [xrefLine, utf8_append, utf8_append, utf8_append, hend, ← List.append_assoc]
  exact List.prefix_append _ _

theorem at_startxref : utf8 ("startxref\n" ++ toString (reportOffset lines 6) ++ "\n%%EOF\n") <:+
    report lines := by
  have hhead : utf8 ("trailer\n<< /Size " ++ toString (5 + 1) ++ " /Root 1 0 R >>\nstartxref\n") =
      utf8 "trailer\n<< /Size 6 /Root 1 0 R >>\n" ++ utf8 "startxref\n" := by decide
  have htrailer : utf8 (pdfTrailer (reportObjects lines) (reportFile lines).total) =
      utf8 "trailer\n<< /Size 6 /Root 1 0 R >>\n" ++
        utf8 ("startxref\n" ++ toString (reportOffset lines 6) ++ "\n%%EOF\n") := by
    unfold pdfTrailer
    rw [length_reportObjects, total_report, utf8_append, utf8_append, hhead, utf8_append,
      utf8_append]
    simp only [List.append_assoc]
  have hlast : reportParts lines = (reportFile lines).parts ++
      [pdfXref (reportObjects lines) (reportFile lines).offsets] ++
        [pdfTrailer (reportObjects lines) (reportFile lines).total] := by
    simp [reportParts]
  rw [report_eq, hlast, List.flatMap_append, List.flatMap_singleton, htrailer]
  exact (List.suffix_append _ _).trans (List.suffix_append _ _)

theorem parts_zero (lines : List String) : (reportParts lines)[0]? = some pdfHeader := by
  rw [reportParts, parts_report]
  rfl

theorem reportOffset_one (lines : List String) : reportOffset lines 1 = 9 := by
  have hzero : reportOffset lines 0 = 0 := rfl
  have hlength : (utf8 pdfHeader).length = 9 := by decide
  rw [reportOffset_succ (parts_zero lines), hzero, hlength]

/-- The entry of object 0 comes first. -/
theorem at_heading (lines : List String) : At (report lines) (reportOffset lines 6)
    (utf8 "xref\n0 6\n0000000000 65535 f \n") := by
  refine (at_xref lines).initial ?_
  rw [pdfEntries, List.flatMap_cons, ← List.append_assoc]
  exact List.prefix_append _ _

/-- The report is a well-formed file, whatever its lines. -/
theorem buildSimplePdf_wellFormed (lines : List String) : ∃ offset xrefStart stream,
    WellFormed lines ((buildSimplePdf lines).toList.map UInt8.toNat) offset xrefStart stream := by
  refine ⟨reportOffset lines, reportOffset lines 6, utf8 (contentStream lines), ?_⟩
  exact {
    heading := at_report (parts_zero lines) List.prefix_rfl
    first := reportOffset_one lines
    objects := fun n hpos hn => at_object hpos hn
    last := rfl
    entries := fun h n hpos hn =>
      ⟨_, isNumeral_padStart (reportOffset_lt h n), at_entry h hpos hn⟩
    content := at_content
    xref := at_heading lines
    startxref := at_startxref
    strings := literals_contentStream lines
    strings_endsOfLines := literals_contentStream_endsOfLines lines }

end File

end Aegis.FraudService
