import Aegis.Model.DriverFactory

/-! # Driver ids

The provider and the identifier are joined by a bar and split at every bar. -/

namespace Aegis.DynamicQCommerce

open PremiumService

/-! ## What an id encodes -/

section Raw

theorem isInternal_createInternalDriverId (provider identifier : String) :
    isInternal (createInternalDriverId provider identifier) = true := by
  simp [isInternal, createInternalDriverId, List.isPrefixOf]

theorem rawOf_createInternalDriverId (provider identifier : String) :
    rawOf (createInternalDriverId provider identifier) = provider ++ "|" ++ identifier := by
  have hdrop : (createInternalDriverId provider identifier).toList.drop 4 =
      (Base64.base64url (provider ++ "|" ++ identifier)).toList := by
    simp [createInternalDriverId]
  rw [rawOf, hdrop, String.ofList_toList, Base64.decodeBase64url_base64url]

/-- No provider has a bar in its name. -/
theorem bar_notMem_value (p : QCommerceProvider) : '|' ∉ p.value.toList := by
  cases p <;> decide

theorem value_ne_empty (p : QCommerceProvider) : p.value ≠ "" := by
  cases p <;> decide

theorem ofValue?_value (p : QCommerceProvider) : QCommerceProvider.ofValue? p.value = some p := by
  cases p <;> decide

theorem value_of_ofValue? {s : String} {p : QCommerceProvider}
    (h : QCommerceProvider.ofValue? s = some p) : p.value = s := by
  simpa using List.find?_some h

/-- What was put in as the identifier: the text behind the first bar. -/
def encodedIdentifier (driverId : String) : String :=
  String.ofList ((rawOf driverId).toList.dropWhile (· ≠ '|')).tail

/-- An identifier as far as its first bar. -/
def firstPart (identifier : String) : String :=
  String.ofList (identifier.toList.takeWhile (· ≠ '|'))

theorem all_ne_bar {cs : List Char} (h : '|' ∉ cs) : ∀ c ∈ cs, decide (c ≠ '|') = true := by
  intro c hc
  have hne : c ≠ '|' := fun hbar => h (hbar ▸ hc)
  simpa using hne

theorem firstPart_eq_self_iff {identifier : String} :
    firstPart identifier = identifier ↔ '|' ∉ identifier.toList := by
  rw [firstPart, ← String.toList_inj, String.toList_ofList, List.takeWhile_eq_self_iff]
  constructor
  · intro h hbar
    simpa using h '|' hbar
  · exact all_ne_bar

theorem splitOn_eq_cons (cs : List Char) :
    ∃ rest, cs.splitOn '|' = cs.takeWhile (· ≠ '|') :: rest := by
  by_cases h : '|' ∈ cs
  · obtain ⟨before, after, rfl, hbefore⟩ := List.eq_append_cons_of_mem h
    have htake : (before ++ '|' :: after).takeWhile (· ≠ '|') = before := by
      rw [List.takeWhile_append_of_pos (all_ne_bar hbefore), List.takeWhile_cons_of_neg (by simp),
        List.append_nil]
    exact ⟨_, by rw [List.splitOn_append_cons_self_of_not_mem hbefore, htake]⟩
  · have htake : cs.takeWhile (· ≠ '|') = cs := List.takeWhile_eq_self_iff.mpr (all_ne_bar h)
    exact ⟨[], by rw [List.splitOn_eq_singleton h, htake]⟩

/-- The first two pieces of a text with a bar. -/
theorem split_bar {provider : String} (h : '|' ∉ provider.toList) (identifier : String) :
    ∃ rest, split (provider ++ "|" ++ identifier) '|' =
      provider :: firstPart identifier :: rest := by
  obtain ⟨rest, hrest⟩ := splitOn_eq_cons identifier.toList
  have hlist : (provider ++ "|" ++ identifier).toList =
      provider.toList ++ '|' :: identifier.toList := by simp
  refine ⟨rest.map String.ofList, ?_⟩
  rw [split, hlist, List.splitOn_append_cons_self_of_not_mem h, hrest, List.map_cons, List.map_cons,
    String.ofList_toList, firstPart]

theorem encodedIdentifier_of {driverId provider identifier : String} (h : '|' ∉ provider.toList)
    (hraw : rawOf driverId = provider ++ "|" ++ identifier) :
    encodedIdentifier driverId = identifier := by
  have hlist : (provider ++ "|" ++ identifier).toList =
      provider.toList ++ '|' :: identifier.toList := by simp
  have hdrop : (provider.toList ++ '|' :: identifier.toList).dropWhile (· ≠ '|') =
      '|' :: identifier.toList := by
    rw [List.dropWhile_append_of_pos (all_ne_bar h), List.dropWhile_cons_of_neg (by simp)]
  rw [encodedIdentifier, hraw, hlist, hdrop, List.tail_cons, String.ofList_toList]

end Raw

/-! ## What an id decodes to -/

section Decoding

variable {driverId : String}

/-- The pieces of an id whose raw text begins with a provider. -/
theorem decodeInternalDriverId_of {p : QCommerceProvider} {identifier : String}
    (hinternal : isInternal driverId = true)
    (hraw : rawOf driverId = p.value ++ "|" ++ identifier) :
    decodeInternalDriverId driverId =
      if firstPart identifier = "" then none else some ⟨p, firstPart identifier⟩ := by
  obtain ⟨rest, hsplit⟩ := split_bar (bar_notMem_value p) identifier
  rw [decodeInternalDriverId, if_pos hinternal, hraw, hsplit]
  simp only [value_ne_empty, false_or, ofValue?_value, Option.map_some]

/-- An id that is accepted begins with a provider and a bar. -/
theorem rawOf_of_decode {decoded : DecodedDriverId}
    (h : decodeInternalDriverId driverId = some decoded) :
    isInternal driverId = true ∧
      rawOf driverId = decoded.provider.value ++ "|" ++ encodedIdentifier driverId := by
  by_cases hinternal : isInternal driverId = true
  · rw [decodeInternalDriverId, if_pos hinternal] at h
    refine ⟨hinternal, ?_⟩
    by_cases hbar : '|' ∈ (rawOf driverId).toList
    · obtain ⟨before, after, hraw, hbefore⟩ := List.eq_append_cons_of_mem hbar
      have htext : rawOf driverId = String.ofList before ++ "|" ++ String.ofList after := by
        rw [← String.toList_inj, hraw]
        simp
      have hprovider : '|' ∉ (String.ofList before).toList := by rwa [String.toList_ofList]
      obtain ⟨rest, hsplit⟩ := split_bar hprovider (String.ofList after)
      rw [encodedIdentifier_of hprovider htext]
      rw [htext, hsplit] at h
      simp only at h
      split at h
      · cases h
      · obtain ⟨p, hp, rfl⟩ := Option.map_eq_some_iff.mp h
        rw [value_of_ofValue? hp, ← htext]
    · rw [split, List.splitOn_eq_singleton hbar] at h
      cases h
  · rw [decodeInternalDriverId, if_neg hinternal] at h
    cases h

theorem decodeInternalDriverId_eq_some {decoded : DecodedDriverId}
    (h : decodeInternalDriverId driverId = some decoded) :
    isInternal driverId = true ∧ decoded.identifier = firstPart (encodedIdentifier driverId) ∧
      decoded.identifier ≠ "" := by
  obtain ⟨hinternal, hraw⟩ := rawOf_of_decode h
  rw [decodeInternalDriverId_of hinternal hraw] at h
  split at h
  · cases h
  · rename_i hne
    have hidentifier := congrArg DecodedDriverId.identifier (Option.some.inj h)
    exact ⟨hinternal, hidentifier.symm, hidentifier ▸ hne⟩

/-- A pair is read back unless its identifier has a bar. -/
theorem decode_create_iff (p : QCommerceProvider) {s : String} (hs : s ≠ "") :
    decodeInternalDriverId (createInternalDriverId p.value s) = some ⟨p, s⟩ ↔ '|' ∉ s.toList := by
  rw [decodeInternalDriverId_of (isInternal_createInternalDriverId _ _)
    (rawOf_createInternalDriverId _ _), ← firstPart_eq_self_iff]
  constructor
  · intro h
    split at h
    · cases h
    · simpa using h
  · intro h
    rw [h, if_neg hs]

theorem createInternalDriverId_inj {p p' : QCommerceProvider} {s s' : String}
    (h : createInternalDriverId p.value s = createInternalDriverId p'.value s') :
    p = p' ∧ s = s' := by
  have hraw := congrArg rawOf h
  rw [rawOf_createInternalDriverId, rawOf_createInternalDriverId] at hraw
  obtain ⟨hvalue, hs⟩ := (Text.append_sep_inj_left rfl (bar_notMem_value p)
    (bar_notMem_value p')).mp hraw
  have hp := congrArg QCommerceProvider.ofValue? hvalue
  rw [ofValue?_value, ofValue?_value] at hp
  exact ⟨Option.some_injective _ hp, hs⟩

end Decoding

/-! ## The owner check -/

section Owner

variable {driverId : String} {decoded : DecodedDriverId}

/-- A caller who is no administrator, with an id of the database, which is a UUID. -/
structure Caller (user : RequestUser) : Prop where
  role : user.role ≠ .ADMIN
  id : isInternal user.id = false

theorem assertAuthorizedDriver_iff (h : decodeInternalDriverId driverId = some decoded)
    {user : RequestUser} (huser : Caller user) :
    assertAuthorizedDriver user driverId = .ok () ↔ user.email = decoded.identifier := by
  obtain ⟨hinternal, -, hne⟩ := decodeInternalDriverId_eq_some h
  have hid : user.id ≠ driverId := by
    intro hid
    have hcaller := huser.id
    rw [hid, hinternal] at hcaller
    cases hcaller
  rw [assertAuthorizedDriver, if_neg huser.role, if_neg hid]
  simp only [hinternal, h, Option.mem_some_iff, exists_eq_left', true_and]
  constructor
  · intro hok
    split at hok
    · rename_i hemail
      exact hemail.2.symm
    · cases hok
  · intro hemail
    rw [if_pos ⟨hemail ▸ hne, hemail.symm⟩]

/-- The check asks for the whole identifier unless it has a bar. -/
theorem ownerCheck_iff (h : decodeInternalDriverId driverId = some decoded) :
    (∀ user, Caller user → assertAuthorizedDriver user driverId = .ok () →
      encodedIdentifier driverId = user.email) ↔ '|' ∉ (encodedIdentifier driverId).toList := by
  obtain ⟨-, hfirst, -⟩ := decodeInternalDriverId_eq_some h
  rw [← firstPart_eq_self_iff, ← hfirst]
  constructor
  · intro hall
    have hadmitted : Caller ⟨"", decoded.identifier, .DRIVER⟩ := ⟨nofun, rfl⟩
    exact (hall _ hadmitted ((assertAuthorizedDriver_iff h hadmitted).mpr rfl)).symm
  · intro hwhole user huser hok
    rw [← hwhole]
    exact ((assertAuthorizedDriver_iff h huser).mp hok).symm

end Owner

/-- Ids tell pairs apart; a pair is read back, and an id admits its owner alone, exactly where
the identifier has no bar. -/
theorem driverId_faithful_iff (p : QCommerceProvider) (s driverId : String) :
    (s ≠ "" → (decodeInternalDriverId (createInternalDriverId p.value s) = some ⟨p, s⟩ ↔
      '|' ∉ s.toList)) ∧
    (∀ (p' : QCommerceProvider) (s' : String),
      createInternalDriverId p.value s = createInternalDriverId p'.value s' → p = p' ∧ s = s') ∧
    ∀ decoded : DecodedDriverId, decodeInternalDriverId driverId = some decoded →
      ((∀ user, Caller user → assertAuthorizedDriver user driverId = .ok () →
        encodedIdentifier driverId = user.email) ↔ '|' ∉ (encodedIdentifier driverId).toList) :=
  ⟨decode_create_iff p, fun _ _ => createInternalDriverId_inj, fun _ => ownerCheck_iff⟩

namespace Bars

/-- A caller whose address is the first part of another driver's identifier. -/
def stranger : RequestUser := ⟨"8c0c9dd2-51b7-4b4f-9a52-0d8c9c2b2a11", "asha@aegis.in", .DRIVER⟩

end Bars

open Bars in
theorem driverId_not_faithful :
    decodeInternalDriverId (createInternalDriverId "zepto" "asha@aegis.in|2") =
        some ⟨.ZEPTO, "asha@aegis.in"⟩ ∧
      assertAuthorizedDriver stranger (createInternalDriverId "zepto" "asha@aegis.in|2") = .ok () ∧
      encodedIdentifier (createInternalDriverId "zepto" "asha@aegis.in|2") ≠ stranger.email := by
  decide +kernel

theorem driverId_faithful_asha :
    decodeInternalDriverId (createInternalDriverId QCommerceProvider.ZEPTO.value "asha@aegis.in") =
      some ⟨.ZEPTO, "asha@aegis.in"⟩ :=
  ((driverId_faithful_iff .ZEPTO "asha@aegis.in" "").1 (by decide)).mpr (by decide)

end Aegis.DynamicQCommerce
