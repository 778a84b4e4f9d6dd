import Aegis.Model.ZoneDrivers

/-! # The scan meets its texts

The scan lists every cell whose text names a trigger state, as long as it can read the texts of
all the others: an exception at one key empties the whole answer. -/

namespace Aegis.ZoneScan

open JsString
open RedisState (Redis ZoneState get isZoneKey cellOfKey scannedLabel isHaltedZone
  PARAMETRIC_TRIGGER_STATES)

/-! ## What a record says -/

/-- `zone_state`, or else `state`; null counts as absent. -/
def label (state : Json) : Option Json := (state.get? "zone_state").or (state.get? "state")

/-- An object whose label names a trigger state in some case. -/
def Names (state : Json) : Prop :=
  (∃ fields, state = .obj fields) ∧
    ∃ s, label state = some (.str s) ∧ toUpperCase s ∈ PARAMETRIC_TRIGGER_STATES

/-- A value other than null, whose label is a string if there is one. -/
def Legible (state : Json) : Prop :=
  state.isNull = false ∧ ∀ value ∈ label state, ∃ s, value = .str s

/-- A text that is empty, or that parses to a legible value. -/
def Readable (raw : String) : Prop := raw = "" ∨ ∃ state ∈ JsonText.parse raw, Legible state

/-- The cell has a text that names a trigger state. -/
def Halted (texts : Texts) (cell : String) (state : Json) : Prop :=
  ':' ∉ cell.toList ∧ ∃ raw, ("zone:" ++ cell, raw) ∈ texts.entries ∧
    JsonText.parse raw = some state ∧ Names state

section Records

variable {state : Json}

theorem get?_eq_none (h : ∀ fields, state ≠ .obj fields) (key : String) :
    state.get? key = none := by
  cases state with
  | obj fields => exact absurd rfl (h fields)
  | _ => rfl

/-- The label of an object; nothing else has one. -/
theorem obj_of_label {value : Json} (h : label state = some value) :
    ∃ fields, state = .obj fields := by
  by_contra hobj
  have hnot : ∀ fields, state ≠ .obj fields := fun fields heq => hobj ⟨fields, heq⟩
  rw [label, get?_eq_none hnot, get?_eq_none hnot] at h
  cases h

theorem upperCase_eq_none_iff (value : Option Json) :
    upperCase value = none ↔ ¬∀ v ∈ value, ∃ s, v = .str s := by
  rcases value with - | v
  · simp [upperCase]
  · cases v <;> simp [upperCase]

theorem scannedState_eq (state : Json) :
    scannedState state = if state.isNull then none else upperCase (label state) := by
  rw [scannedState, label]
  split
  · rfl
  · cases state.get? "zone_state" with
    | none => rfl
    | some value => cases value <;> rfl

theorem scannedState_eq_none_iff : scannedState state = none ↔ ¬Legible state := by
  rw [scannedState_eq, Legible]
  cases state.isNull with
  | true => simp
  | false => simp [upperCase_eq_none_iff]

/-- What the scan looks up in the list of the trigger states is the label. -/
theorem any_scannedState_iff {zs : Option String} (h : scannedState state = some zs) :
    zs.any PARAMETRIC_TRIGGER_STATES.contains = true ↔ Names state := by
  rw [scannedState_eq] at h
  have hlabel : (∃ s, label state = some (.str s) ∧ toUpperCase s ∈ PARAMETRIC_TRIGGER_STATES) ↔
      zs.any PARAMETRIC_TRIGGER_STATES.contains = true := by
    split at h
    · cases h
    · cases hvalue : label state with
      | none =>
          rw [hvalue] at h
          cases h
          simp
      | some value =>
          rw [hvalue] at h
          cases value with
          | str s =>
              cases h
              simp
          | _ => cases h
  rw [← hlabel, Names]
  constructor
  · rintro ⟨s, hs, hstate⟩
    exact ⟨obj_of_label hs, s, hs, hstate⟩
  · exact And.right

end Records

/-! ## Keys -/

section Keys

variable {texts : Texts} {key raw cell : String}

theorem length_splitOn_eq_one_iff {cs : List Char} {c : Char} :
    (cs.splitOn c).length = 1 ↔ c ∉ cs := by
  constructor
  · intro h hmem
    obtain ⟨before, after, rfl⟩ := List.append_of_mem hmem
    have hbefore := List.length_pos_iff.mpr (List.splitOn_ne_nil c before)
    have hafter := List.length_pos_iff.mpr (List.splitOn_ne_nil c after)
    rw [List.splitOn_append_cons_self, List.length_append] at h
    omega
  · intro h
    rw [List.splitOn_eq_singleton h]
    rfl

theorem isZoneKey_iff (cell : String) : isZoneKey ("zone:" ++ cell) = true ↔ ':' ∉ cell.toList := by
  have hkey : ("zone:" ++ cell).toList = ['z', 'o', 'n', 'e'] ++ ':' :: cell.toList := by simp
  rw [isZoneKey, hkey, List.splitOn_append_cons_self_of_not_mem (by decide), List.length_cons,
    decide_eq_true_iff, ← length_splitOn_eq_one_iff]
  omega

theorem cellOfKey_zone (cell : String) : cellOfKey ("zone:" ++ cell) = cell := by
  simp [cellOfKey]

/-- The keys that the scan reads. -/
def zoneKeys (texts : Texts) : List String := texts.keys.filter isZoneKey

theorem mem_zoneKeys : key ∈ zoneKeys texts ↔
    ∃ cell, key = "zone:" ++ cell ∧ ':' ∉ cell.toList ∧ ∃ raw, (key, raw) ∈ texts.entries := by
  have hentry : key ∈ texts.entries.map Prod.fst ↔ ∃ raw, (key, raw) ∈ texts.entries := by
    simp
  rw [zoneKeys, Texts.keys, List.mem_filter, List.mem_filter, hentry]
  constructor
  · rintro ⟨⟨hraw, hzone⟩, hkey⟩
    obtain ⟨cs, hcs⟩ := List.isPrefixOf_iff_prefix.mp hzone
    have hcell : key = "zone:" ++ String.ofList cs := by
      apply String.toList_inj.mp
      rw [← hcs]
      simp
    rw [hcell, isZoneKey_iff] at hkey
    exact ⟨String.ofList cs, hcell, hkey, hraw⟩
  · rintro ⟨cell, rfl, hplain, hraw⟩
    have hzone : "zone:".toList.isPrefixOf ("zone:" ++ cell).toList = true := by
      rw [List.isPrefixOf_iff_prefix, String.toList_append]
      exact List.prefix_append _ _
    exact ⟨⟨hraw, hzone⟩, (isZoneKey_iff cell).mpr hplain⟩

/-- A key has one text. -/
theorem get_eq_some_iff : texts.get key = some raw ↔ (key, raw) ∈ texts.entries := by
  obtain ⟨entries, hnodup⟩ := texts
  rw [Texts.get]
  dsimp only
  induction entries with
  | nil => simp
  | cons entry entries ih =>
      obtain ⟨key', raw'⟩ := entry
      obtain ⟨hnew, hrest⟩ := List.nodup_cons.mp hnodup
      rw [List.lookup_cons]
      by_cases hkey : key = key'
      · subst hkey
        have hnot : (key, raw) ∉ entries := fun hmem =>
          hnew (List.mem_map.mpr ⟨(key, raw), hmem, rfl⟩)
        simp [hnot, eq_comm]
      · simp [hkey, ih hrest, beq_false_of_ne hkey]

end Keys

/-! ## The loop -/

section Loop

variable {texts : Texts} {key raw : String} {keys : List String} {found : List (String × Json)}

theorem scanKey_eq (h : texts.get key = some raw) : scanKey texts key =
    if raw = "" then some []
    else (JsonText.parse raw).bind fun state => (scannedState state).map fun zs =>
      if zs.any PARAMETRIC_TRIGGER_STATES.contains then [(cellOfKey key, state)] else [] := by
  rw [scanKey, h]

theorem scanKey_eq_none_iff (h : texts.get key = some raw) :
    scanKey texts key = none ↔ ¬Readable raw := by
  rw [scanKey_eq h, Readable]
  by_cases hempty : raw = ""
  · simp [hempty]
  · cases hparse : JsonText.parse raw with
    | none => simp [hempty]
    | some state => simp [hempty, scannedState_eq_none_iff]

/-- The empty text does not parse, so that leaving it out loses nothing. -/
theorem parse_empty : JsonText.parse "" = none := rfl

theorem mem_scanKey (h : texts.get key = some raw) (hfound : scanKey texts key = some found)
    {entry : String × Json} : entry ∈ found ↔
      entry.1 = cellOfKey key ∧ JsonText.parse raw = some entry.2 ∧ Names entry.2 := by
  rw [scanKey_eq h] at hfound
  by_cases hempty : raw = ""
  · rw [if_pos hempty] at hfound
    cases hfound
    simp [hempty, parse_empty]
  · rw [if_neg hempty] at hfound
    obtain ⟨state, hparse, hscan⟩ := Option.bind_eq_some_iff.mp hfound
    obtain ⟨zs, hzs, rfl⟩ := Option.map_eq_some_iff.mp hscan
    have hnames := any_scannedState_iff hzs
    rw [hparse]
    by_cases hany : zs.any PARAMETRIC_TRIGGER_STATES.contains = true
    · rw [if_pos hany, List.mem_singleton]
      constructor
      · rintro rfl
        exact ⟨rfl, rfl, hnames.mp hany⟩
      · rintro ⟨hcell, hstate, -⟩
        exact Prod.ext hcell (Option.some.inj hstate).symm
    · rw [if_neg hany]
      constructor
      · intro hmem
        cases hmem
      · rintro ⟨-, hstate, hnamed⟩
        cases hstate
        exact absurd (hnames.mpr hnamed) hany

theorem scanKeys_eq_none_iff :
    scanKeys texts keys = none ↔ ∃ key ∈ keys, scanKey texts key = none := by
  induction keys with
  | nil => simp [scanKeys]
  | cons key keys ih =>
      rw [scanKeys, List.exists_mem_cons_iff, ← ih]
      cases scanKey texts key with
      | none => simp
      | some found => simp

theorem mem_scanKeys (hfound : scanKeys texts keys = some found) {entry : String × Json} :
    entry ∈ found ↔ ∃ key ∈ keys, ∃ one, scanKey texts key = some one ∧ entry ∈ one := by
  induction keys generalizing found with
  | nil =>
      cases hfound
      simp
  | cons key keys ih =>
      rw [scanKeys] at hfound
      obtain ⟨one, hone, hrest⟩ := Option.bind_eq_some_iff.mp hfound
      obtain ⟨rest, htail, rfl⟩ := Option.map_eq_some_iff.mp hrest
      rw [List.mem_append, List.exists_mem_cons_iff, ih htail, hone]
      simp

/-- A key is found at most once, under its own cell. -/
theorem map_fst_scanKeys (hfound : scanKeys texts keys = some found) :
    (found.map Prod.fst).Sublist (keys.map cellOfKey) := by
  induction keys generalizing found with
  | nil =>
      cases hfound
      exact .slnil
  | cons key keys ih =>
      rw [scanKeys] at hfound
      obtain ⟨one, hone, hrest⟩ := Option.bind_eq_some_iff.mp hfound
      obtain ⟨rest, htail, rfl⟩ := Option.map_eq_some_iff.mp hrest
      have hsub : (one.map Prod.fst).Sublist [cellOfKey key] := by
        rw [scanKey] at hone
        split at hone
        · cases hone
          simp
        · split at hone
          · cases hone
            simp
          · obtain ⟨state, -, hscan⟩ := Option.bind_eq_some_iff.mp hone
            obtain ⟨zs, -, rfl⟩ := Option.map_eq_some_iff.mp hscan
            split <;> simp
      rw [List.map_append, List.map_cons, ← List.singleton_append]
      exact hsub.append (ih htail)

end Loop

/-! ## The typed records -/

section TypedRecords

variable {record : ZoneState} {state : Json} {texts : Texts} {now : ℤ} {redis : Redis}

/-- The member of a typed record. -/
def textOf : Option Json → Option String
  | some (.str s) => some s
  | _ => none

structure Describes (record : ZoneState) (state : Json) : Prop where
  zone_state : record.zone_state = textOf (state.get? "zone_state")
  state : record.state = textOf (state.get? "state")

/-- The text of the key is legible, and the store has its record. -/
def Typed (texts : Texts) (now : ℤ) (redis : Redis) (key : String) : Prop :=
  ∃ raw state record, texts.get key = some raw ∧ JsonText.parse raw = some state ∧
    Legible state ∧ get redis.zones now (cellOfKey key) = some record ∧ Describes record state

theorem scannedState_of_describes (hlegible : Legible state) (h : Describes record state) :
    scannedState state = some (scannedLabel record) := by
  rw [scannedState_eq, hlegible.1, scannedLabel, h.zone_state, h.state]
  have hlabel := hlegible.2
  rw [label] at hlabel ⊢
  cases hzone : state.get? "zone_state" with
  | some value =>
      rw [hzone] at hlabel
      obtain ⟨s, rfl⟩ := hlabel value rfl
      rfl
  | none =>
      rw [hzone] at hlabel
      cases hstate : state.get? "state" with
      | none => rfl
      | some value =>
          obtain ⟨s, rfl⟩ := hlabel value hstate
          rfl

/-- One turn of the loop and one record of the typed scan have the same cells. -/
theorem scanKey_of_typed {key : String} (h : Typed texts now redis key) :
    ∃ found, scanKey texts key = some found ∧ found.map Prod.fst =
      ((((get redis.zones now (cellOfKey key)).filter isHaltedZone).map fun state =>
        (cellOfKey key, state)).map Prod.fst).toList := by
  obtain ⟨raw, state, record, hraw, hparse, hlegible, hrecord, hdescribes⟩ := h
  have hempty : raw ≠ "" := by
    intro hnil
    rw [hnil, parse_empty] at hparse
    cases hparse
  rw [scanKey_eq hraw, if_neg hempty, hparse, hrecord, Option.bind_some,
    scannedState_of_describes hlegible hdescribes, Option.map_some]
  refine ⟨_, rfl, ?_⟩
  have hlabel : isHaltedZone record =
      (scannedLabel record).any PARAMETRIC_TRIGGER_STATES.contains := rfl
  rw [← hlabel, Option.filter_some]
  by_cases hhalted : isHaltedZone record = true
  · rw [if_pos hhalted, if_pos hhalted]
    rfl
  · rw [if_neg hhalted, if_neg hhalted]
    rfl

theorem scanKeys_of_typed {keys : List String} (h : ∀ key ∈ keys, Typed texts now redis key) :
    ∃ found, scanKeys texts keys = some found ∧ found.map Prod.fst =
      (keys.filterMap fun key => ((get redis.zones now (cellOfKey key)).filter isHaltedZone).map
        fun state => (cellOfKey key, state)).map Prod.fst := by
  induction keys with
  | nil => exact ⟨[], rfl, rfl⟩
  | cons key keys ih =>
      obtain ⟨one, hone, hcells⟩ := scanKey_of_typed (h key List.mem_cons_self)
      obtain ⟨rest, hrest, hmore⟩ := ih fun key' hkey' => h key' (List.mem_cons_of_mem _ hkey')
      refine ⟨one ++ rest, by simp [scanKeys, hone, hrest], ?_⟩
      rw [List.map_append, hcells, hmore, List.filterMap_cons]
      cases ((get redis.zones now (cellOfKey key)).filter isHaltedZone) with
      | none => rfl
      | some state => rfl

/-- Over texts that have their records in the store, the scan finds the cells that the typed scan
finds. -/
theorem getAllHaltedZones_typed (h : ∀ key ∈ zoneKeys texts, Typed texts now redis key)
    (up : Bool) :
    (getAllHaltedZones up texts).map Prod.fst =
      (RedisState.getAllHaltedZones up now redis texts.keys).map Prod.fst := by
  cases up with
  | false => rfl
  | true =>
      obtain ⟨found, hfound, hcells⟩ := scanKeys_of_typed h
      rw [zoneKeys] at hfound hcells
      rw [getAllHaltedZones, if_pos rfl, hfound, Option.getD_some, hcells]
      rfl

end TypedRecords

/-! ## The law -/

/-- One entry for each cell whose text names a trigger state, and no other. -/
structure ScanLaw (texts : Texts) : Prop where
  once : ((getAllHaltedZones true texts).map Prod.fst).Nodup
  exact : ∀ cell state, (cell, state) ∈ getAllHaltedZones true texts ↔ Halted texts cell state

section Law

variable {texts : Texts}

theorem nodup_zoneKeys : ((zoneKeys texts).map cellOfKey).Nodup := by
  have hkeys : (zoneKeys texts).Nodup := (texts.nodup.filter _).filter _
  refine hkeys.map_on ?_
  intro key hkey key' hkey' hcell
  obtain ⟨cell, rfl, -⟩ := mem_zoneKeys.mp hkey
  obtain ⟨cell', rfl, -⟩ := mem_zoneKeys.mp hkey'
  rw [cellOfKey_zone, cellOfKey_zone] at hcell
  rw [hcell]

/-- The scan that meets no exception. -/
theorem scan_exact {found : List (String × Json)} (h : scanKeys texts (zoneKeys texts) = some found)
    (cell : String) (state : Json) : (cell, state) ∈ found ↔ Halted texts cell state := by
  rw [mem_scanKeys h]
  constructor
  · rintro ⟨key, hkey, one, hone, hentry⟩
    obtain ⟨cell', rfl, hplain, raw, hraw⟩ := mem_zoneKeys.mp hkey
    obtain ⟨hcell, hparse, hnames⟩ := (mem_scanKey (get_eq_some_iff.mpr hraw) hone).mp hentry
    rw [cellOfKey_zone] at hcell
    dsimp only at hcell
    subst hcell
    exact ⟨hplain, raw, hraw, hparse, hnames⟩
  · rintro ⟨hplain, raw, hraw, hparse, hnames⟩
    have hkey : "zone:" ++ cell ∈ zoneKeys texts :=
      mem_zoneKeys.mpr ⟨cell, rfl, hplain, raw, hraw⟩
    cases hone : scanKey texts ("zone:" ++ cell) with
    | none =>
        have hnone := scanKeys_eq_none_iff.mpr ⟨_, hkey, hone⟩
        rw [h] at hnone
        cases hnone
    | some one =>
        refine ⟨_, hkey, one, hone, ?_⟩
        exact (mem_scanKey (get_eq_some_iff.mpr hraw) hone).mpr
          ⟨(cellOfKey_zone cell).symm, hparse, hnames⟩

/-- The scan keeps its law just when the text of every zone is readable, or there is no halted
zone that it could lose. -/
theorem scan_law_iff (texts : Texts) : ScanLaw texts ↔
    (∀ cell raw, ':' ∉ cell.toList → ("zone:" ++ cell, raw) ∈ texts.entries → Readable raw) ∨
      ∀ cell state, ¬Halted texts cell state := by
  have hanswer : getAllHaltedZones true texts = (scanKeys texts (zoneKeys texts)).getD [] := rfl
  cases hscan : scanKeys texts (zoneKeys texts) with
  | some found =>
      have hreadable : ∀ cell raw, ':' ∉ cell.toList → ("zone:" ++ cell, raw) ∈ texts.entries →
          Readable raw := by
        intro cell raw hplain hraw
        by_contra hnot
        have hnone := scanKeys_eq_none_iff.mpr ⟨_, mem_zoneKeys.mpr ⟨cell, rfl, hplain, raw, hraw⟩,
          (scanKey_eq_none_iff (get_eq_some_iff.mpr hraw)).mpr hnot⟩
        rw [hscan] at hnone
        cases hnone
      refine iff_of_true ⟨?_, ?_⟩ (.inl hreadable)
      · rw [hanswer, hscan]
        exact nodup_zoneKeys.sublist (map_fst_scanKeys hscan)
      · rw [hanswer, hscan]
        exact scan_exact hscan
  | none =>
      rw [hscan, Option.getD_none] at hanswer
      obtain ⟨key, hkey, hnone⟩ := scanKeys_eq_none_iff.mp hscan
      obtain ⟨cell, rfl, hplain, raw, hraw⟩ := mem_zoneKeys.mp hkey
      have hnot := (scanKey_eq_none_iff (get_eq_some_iff.mpr hraw)).mp hnone
      constructor
      · intro hlaw
        right
        intro cell state hhalted
        have hentry := (hlaw.exact cell state).mpr hhalted
        rw [hanswer] at hentry
        cases hentry
      · rintro (hreadable | hnohalt)
        · exact absurd (hreadable cell raw hplain hraw) hnot
        · constructor
          · rw [hanswer]
            exact List.nodup_nil
          · intro cell state
            rw [hanswer]
            exact iff_of_false List.not_mem_nil (hnohalt cell state)

end Law

/-! ## One bad record -/

def haltedText : String := "\x7b\"zone_state\":\"halted\"\x7d"

/-- A halted zone beside one that another producer left as `null`. -/
def besideNull : Texts := ⟨[("zone:a", haltedText), ("zone:b", "null")], by decide⟩

theorem halted_of_haltedText : ∃ state, JsonText.parse haltedText = some state ∧ Names state := by
  refine ⟨.obj [("zone_state", .str "halted")], ?_, ⟨_, rfl⟩, "halted", rfl, by decide⟩
  rfl

theorem halted_zone_lost : (∃ state, Halted besideNull "a" state) ∧
    ∀ state, ("a", state) ∉ getAllHaltedZones true besideNull := by
  obtain ⟨state, hparse, hnames⟩ := halted_of_haltedText
  refine ⟨⟨state, by decide, haltedText, List.mem_cons_self, hparse, hnames⟩, ?_⟩
  have hempty : getAllHaltedZones true besideNull = [] := by
    apply List.isEmpty_iff.mp
    decide
  intro other hmem
  rw [hempty] at hmem
  cases hmem

end Aegis.ZoneScan
