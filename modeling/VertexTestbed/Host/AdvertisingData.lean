import VertexTestbed.Lib.LittleEndian

/-!
# Advertising data

`radio/ad.py`: advertising data is a sequence of elements `len(1) | type(1) | value(len - 1)`, where
the length byte counts the type and the value. `parse_ad` walks the elements, without its `strict`
flag, which no receiver sets; `find_manufacturer` picks the first manufacturer element of a company
and strips the company id.

`parse_ad_flatten` and `encoded_parse_ad` are the two directions between elements and bytes: what
was written is read back, and what is read is there. `find_manufacturer_element` says what a
receiver is handed when the data is a single manufacturer element: the payload `strip_company`
leaves of its value.
-/

namespace VertexTestbed.Host

/-- `AD_MANUFACTURER`. -/
def AD_MANUFACTURER : UInt8 := 0xFF

/-- `Element`. -/
structure Element where
  type : UInt8
  value : Bytes
  deriving DecidableEq

/-- `element`: the length byte is computed; `none` where the value is too long. -/
def element (ad_type : UInt8) (value : Bytes) : Option Bytes :=
  if 254 < value.length then none
  else some (UInt8.ofNat (value.length + 1) :: ad_type :: value)

/-- `parse_ad`. A zero length is padding and ends the walk, and so does an element that declares
more bytes than remain. -/
def parse_ad : Bytes → List Element
  | [] => []
  | length :: rest =>
    if length = 0 then []
    else if rest.length < length.toNat then []
    else ⟨byteAt rest 0, fieldAt rest 1 (length.toNat - 1)⟩ :: parse_ad (rest.drop length.toNat)
  termination_by data => data.length

/-- The test and the cut `find_manufacturer` makes on one element's value. -/
def strip_company (company_id : ℕ) (value : Bytes) : Option Bytes :=
  if 2 ≤ value.length ∧ leNat (fieldAt value 0 2) = company_id then some (value.drop 2) else none

/-- `find_manufacturer`. -/
def find_manufacturer (data : Bytes) (company_id : ℕ) : Option Bytes :=
  (parse_ad data).findSome? fun el ↦
    if el.type = AD_MANUFACTURER then strip_company company_id el.value else none

/-- `MAX_AD_LEN`. -/
def MAX_AD_LEN : ℕ := 31

/-- `build_ad`; `none` where the elements exceed the limit. -/
def build_ad (elements : List Bytes) (limit : ℕ) : Option Bytes :=
  if limit < elements.flatten.length then none else some elements.flatten

/-! ### The walk reads back what was written -/

/-- The bytes of an element. -/
def Element.encoded (el : Element) : Bytes :=
  UInt8.ofNat (el.value.length + 1) :: el.type :: el.value

theorem element_eq_some_iff {ad_type : UInt8} {value data : Bytes} :
    element ad_type value = some data ↔
      value.length ≤ 254 ∧ data = Element.encoded ⟨ad_type, value⟩ := by
  rw [element]
  split_ifs with hlong
  · exact ⟨fun h ↦ (by cases h), fun h ↦ absurd h.1 (not_le.mpr hlong)⟩
  · exact ⟨fun h ↦ ⟨not_lt.mp hlong, (Option.some.inj h).symm⟩, fun h ↦ congrArg some h.2.symm⟩

/-- **An element is read back**, whatever follows it. -/
theorem parse_ad_append {ad_type : UInt8} {value data : Bytes}
    (h : element ad_type value = some data) (rest : Bytes) :
    parse_ad (data ++ rest) = ⟨ad_type, value⟩ :: parse_ad rest := by
  obtain ⟨hshort, rfl⟩ := element_eq_some_iff.mp h
  have hlength : (UInt8.ofNat (value.length + 1)).toNat = value.length + 1 := by
    rw [UInt8.toNat_ofNat']
    omega
  have hne : UInt8.ofNat (value.length + 1) ≠ 0 := by
    intro hzero
    rw [hzero] at hlength
    cases hlength
  have hfits : ¬(ad_type :: (value ++ rest)).length < value.length + 1 := by
    rw [List.length_cons, List.length_append]
    omega
  rw [Element.encoded, List.cons_append, List.cons_append, parse_ad, if_neg hne, hlength,
    if_neg hfits, byteAt_cons_zero, Nat.add_sub_cancel, fieldAt, List.drop_succ_cons,
    List.drop_zero, List.take_left, List.drop_succ_cons, List.drop_left]

/-- The walk over one element is that element. -/
theorem parse_ad_element {ad_type : UInt8} {value data : Bytes}
    (h : element ad_type value = some data) : parse_ad data = [⟨ad_type, value⟩] := by
  have happend := parse_ad_append h []
  rwa [List.append_nil, parse_ad] at happend

/-- **A sequence of elements is read back.** -/
theorem parse_ad_flatten {els : List Element} {parts : List Bytes}
    (h : els.map (fun el ↦ element el.type el.value) = parts.map some) (rest : Bytes) :
    parse_ad (parts.flatten ++ rest) = els ++ parse_ad rest := by
  induction els generalizing parts with
  | nil =>
    rw [List.map_nil, List.nil_eq, List.map_eq_nil_iff] at h
    rw [h]
    rfl
  | cons el els ih =>
    cases parts with
    | nil => cases h
    | cons part parts =>
      rw [List.map_cons, List.map_cons, List.cons.injEq] at h
      rw [List.flatten_cons, List.append_assoc, parse_ad_append h.1, ih h.2, List.cons_append]

/-- Zeros are padding. -/
theorem parse_ad_zeros (k : ℕ) : parse_ad (List.replicate k 0) = [] := by
  cases k with
  | zero => rw [List.replicate_zero, parse_ad]
  | succ k => rw [List.replicate_succ, parse_ad, if_pos rfl]

/-- **The walk yields only what is there**: written out again, the elements are the data up to where
the walk ends. -/
theorem encoded_parse_ad (data : Bytes) :
    ∃ rest, data = (parse_ad data).flatMap Element.encoded ++ rest := by
  induction data using parse_ad.induct with
  | case1 => exact ⟨[], by rw [parse_ad]; rfl⟩
  | case2 rest => exact ⟨0 :: rest, by rw [parse_ad, if_pos rfl]; rfl⟩
  | case3 length rest hzero hshort =>
    exact ⟨length :: rest, by rw [parse_ad, if_neg hzero, if_pos hshort]; rfl⟩
  | case4 length rest hzero hshort ih =>
    obtain ⟨tail, htail⟩ := ih
    have hpos : 0 < length.toNat := Nat.pos_of_ne_zero fun h0 ↦ hzero (UInt8.toNat_inj.mp h0)
    have hlen : (fieldAt rest 1 (length.toNat - 1)).length = length.toNat - 1 :=
      fieldAt_length (by omega)
    -- What the length byte counts: the type and the value.
    have hspan : rest.take length.toNat =
        byteAt rest 0 :: fieldAt rest 1 (length.toNat - 1) := by
      have hone : fieldAt rest 0 1 = [byteAt rest 0] := fieldAt_one (by omega)
      have hsplit := fieldAt_add rest 0 1 (length.toNat - 1)
      rw [hone, Nat.add_sub_cancel' hpos] at hsplit
      exact hsplit
    have hhead : Element.encoded ⟨byteAt rest 0, fieldAt rest 1 (length.toNat - 1)⟩ =
        length :: rest.take length.toNat := by
      rw [Element.encoded, hlen, Nat.sub_add_cancel hpos, UInt8.ofNat_toNat, hspan]
    refine ⟨tail, ?_⟩
    rw [parse_ad, if_neg hzero, if_neg hshort, List.flatMap_cons, hhead, List.append_assoc, ← htail,
      List.cons_append, List.take_append_drop]

/-- A length byte counts no more than 254 bytes of value. -/
theorem length_le_of_mem_parse_ad {data : Bytes} {el : Element} (h : el ∈ parse_ad data) :
    el.value.length ≤ 254 := by
  induction data using parse_ad.induct with
  | case1 =>
    rw [parse_ad] at h
    exact absurd h List.not_mem_nil
  | case2 rest =>
    rw [parse_ad, if_pos rfl] at h
    exact absurd h List.not_mem_nil
  | case3 length rest hzero hshort =>
    rw [parse_ad, if_neg hzero, if_pos hshort] at h
    exact absurd h List.not_mem_nil
  | case4 length rest hzero hshort ih =>
    rw [parse_ad, if_neg hzero, if_neg hshort] at h
    obtain rfl | htail := List.mem_cons.mp h
    · have hbyte := length.toNat_lt
      have hlen : (fieldAt rest 1 (length.toNat - 1)).length ≤ length.toNat - 1 := by
        rw [fieldAt, List.length_take]
        exact min_le_left _ _
      exact hlen.trans (by omega)
    · exact ih htail

/-- An element takes at least two bytes. -/
theorem two_mul_length_parse_ad_le (data : Bytes) : 2 * (parse_ad data).length ≤ data.length := by
  have hencoded : ∀ els : List Element, 2 * els.length ≤ (els.flatMap Element.encoded).length := by
    intro els
    induction els with
    | nil => exact le_rfl
    | cons el els ih =>
      rw [List.flatMap_cons, List.length_append, List.length_cons, Element.encoded,
        List.length_cons, List.length_cons]
      omega
  obtain ⟨rest, hrest⟩ := encoded_parse_ad data
  have hlen := congrArg List.length hrest
  rw [List.length_append] at hlen
  exact (hencoded _).trans (by omega)

/-- Each value is a slice of the data, behind its length and its type. -/
theorem slice_of_mem_parse_ad {data : Bytes} {el : Element} (h : el ∈ parse_ad data) :
    ∃ i, i + 2 + el.value.length ≤ data.length ∧ el.type = byteAt data (i + 1) ∧
      el.value = fieldAt data (i + 2) el.value.length := by
  obtain ⟨rest, hrest⟩ := encoded_parse_ad data
  obtain ⟨pre, post, hsplit⟩ := List.append_of_mem h
  set lead := pre.flatMap Element.encoded with hlead
  have hdata : data = lead ++ ([UInt8.ofNat (el.value.length + 1), el.type] ++
      (el.value ++ (post.flatMap Element.encoded ++ rest))) := by
    rw [hrest, hsplit, List.flatMap_append, List.flatMap_cons]
    simp [Element.encoded, hlead]
  refine ⟨lead.length, ?_, ?_, ?_⟩
  · rw [hdata]
    simp only [List.length_append, List.length_cons, List.length_nil]
    omega
  · rw [hdata, byteAt]
    simp
  · rw [hdata, fieldAt_append_right (by omega), fieldAt_append_right (by simp)]
    simp [fieldAt]

/-- **A single manufacturer element** hands its receiver what `strip_company` leaves of its
value. -/
theorem find_manufacturer_element {value data : Bytes} (company_id : ℕ)
    (h : element AD_MANUFACTURER value = some data) :
    find_manufacturer data company_id = strip_company company_id value := by
  rw [find_manufacturer, parse_ad_element h, List.findSome?_cons]
  cases strip_company company_id value <;> rfl

end VertexTestbed.Host
