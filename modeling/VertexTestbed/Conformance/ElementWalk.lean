import VertexTestbed.Conformance.AirWire
import VertexTestbed.Conformance.Recording
import VertexTestbed.Firmware.DeviceFound
import VertexTestbed.Host.HciReports

/-!
# Which element the two receivers find

Both receivers see the same elements (`parse_eq_visit`), and both are after a manufacturer element
of this company. The host goes on behind one of another company; the board's callback returns false
for it, and the walk ends there. So they part on a payload in which such an element stands in front
of one of this company, and on no other (`same_element_iff`).
-/

namespace VertexTestbed.Conformance

open Firmware Host

/-! ### The elements both see -/

/-- A walk over elements that a callback can end. -/
def visit {σ : Type} (func : BtData → σ → Bool × σ) : List Element → σ → σ
  | [], s => s
  | el :: els, s =>
    if (func ⟨el.type, el.value⟩ s).1 then visit func els (func ⟨el.type, el.value⟩ s).2
    else (func ⟨el.type, el.value⟩ s).2

/-- **The board's walk is over the elements of `parse_ad`.** -/
theorem parse_eq_visit {bt : BtDataParse} (hbt : bt.Walks) {σ : Type}
    (func : BtData → σ → Bool × σ) (ad : Bytes) (s : σ) :
    bt.parse ad func s = visit func (parse_ad ad) s := by
  induction ad using parse_ad.induct generalizing s with
  | case1 =>
    rw [hbt.nil, parse_ad]
    rfl
  | case2 rest =>
    rw [hbt.padding, parse_ad, if_pos rfl]
    rfl
  | case3 len rest hzero hshort =>
    rw [hbt.truncated len rest func s hshort, parse_ad, if_neg hzero, if_pos hshort]
    rfl
  | case4 len rest hzero hshort ih =>
    have hpos : 0 < len.toNat := Nat.pos_of_ne_zero fun h0 ↦ hzero (UInt8.toNat_inj.mp h0)
    have hlen : (fieldAt rest 1 (len.toNat - 1)).length = len.toNat - 1 :=
      fieldAt_length (by omega)
    have hone : fieldAt rest 0 1 = [byteAt rest 0] := fieldAt_one (by omega)
    have hspan : rest = byteAt rest 0 ::
        (fieldAt rest 1 (len.toNat - 1) ++ rest.drop len.toNat) := by
      have hsplit := fieldAt_add rest 0 1 (len.toNat - 1)
      rw [hone, Nat.add_sub_cancel' hpos] at hsplit
      have hwhole := List.take_append_drop len.toNat rest
      rw [show rest.take len.toNat = fieldAt rest 0 len.toNat from rfl, hsplit] at hwhole
      exact hwhole.symm
    have hwalk := hbt.element len (byteAt rest 0) (fieldAt rest 1 (len.toNat - 1))
      (rest.drop len.toNat) func s (by omega)
    rw [← hspan, ih] at hwalk
    rw [hwalk, parse_ad, if_neg hzero, if_neg hshort]
    rfl

/-- The value of a manufacturer element. -/
def manufacturerOf (el : Element) : Option Bytes :=
  if el.type = AD_MANUFACTURER then some el.value else none

theorem manufacturerOf_of_type {el : Element} (h : el.type = AD_MANUFACTURER) :
    manufacturerOf el = some el.value :=
  if_pos h

theorem manufacturerOf_of_ne {el : Element} (h : el.type ≠ AD_MANUFACTURER) :
    manufacturerOf el = none :=
  if_neg h

theorem eq_of_manufacturerOf {el : Element} {value : Bytes} (h : manufacturerOf el = some value) :
    el = ⟨AD_MANUFACTURER, value⟩ := by
  obtain ⟨type, v⟩ := el
  rw [manufacturerOf] at h
  split_ifs at h with htype
  exact congrArg₂ Element.mk htype (Option.some.inj h)

/-- The values of the manufacturer elements, in order. -/
def manufacturerValues (ad : Bytes) : List Bytes :=
  (parse_ad ad).filterMap manufacturerOf

theorem find_manufacturer_eq (ad : Bytes) (company_id : ℕ) :
    find_manufacturer ad company_id =
      (manufacturerValues ad).findSome? (strip_company company_id) := by
  rw [find_manufacturer, manufacturerValues]
  induction parse_ad ad with
  | nil => rfl
  | cons el els ih =>
    by_cases htype : el.type = AD_MANUFACTURER
    · rw [List.findSome?_cons, if_pos htype, ih,
        List.filterMap_cons_some (manufacturerOf_of_type htype), List.findSome?_cons]
    · rw [List.findSome?_cons, if_neg htype, ih,
        List.filterMap_cons_none (manufacturerOf_of_ne htype)]

theorem takePacket_given (a : AgentParams) (p : DecodedPacket) (s : Found) :
    (takePacket a p s).given = s.given := by
  rw [takePacket]
  cases agentNeighborIndex a p.node <;> rfl

/-- The callback ends the walk at a manufacturer element, which it gives to the decoder. -/
theorem onDataParse_manufacturer (a : AgentParams) {data : BtData}
    (htype : data.type = btDataManufacturerData) (s : Found) :
    (onDataParse (some a) data s).1 = false ∧
      (onDataParse (some a) data s).2.given = some data.data := by
  rw [onDataParse, if_neg (not_not.mpr htype)]
  dsimp only
  cases airWireDecodeAny data.data with
  | error e => cases e <;> exact ⟨rfl, rfl⟩
  | ok p => exact ⟨rfl, takePacket_given a p _⟩

/-- The walk ends at the first manufacturer element. -/
theorem visit_of_values {els : List Element} {v : Bytes} {rest : List Bytes}
    (h : els.filterMap manufacturerOf = v :: rest) (a : AgentParams) (s : Found) :
    visit (onDataParse (some a)) els s =
      (onDataParse (some a) ⟨btDataManufacturerData, v⟩ s).2 := by
  induction els with
  | nil => cases h
  | cons el els ih =>
    rw [visit]
    by_cases htype : el.type = AD_MANUFACTURER
    · rw [List.filterMap_cons_some (manufacturerOf_of_type htype), List.cons.injEq] at h
      have hdata : BtData.mk el.type el.value = ⟨btDataManufacturerData, v⟩ :=
        congrArg₂ BtData.mk htype h.1
      rw [hdata, (onDataParse_manufacturer a rfl s).1]
      rfl
    · have hgo : onDataParse (some a) ⟨el.type, el.value⟩ s = (true, s) := if_pos htype
      rw [List.filterMap_cons_none (manufacturerOf_of_ne htype)] at h
      rw [hgo, if_pos rfl, ih h]

/-- Without one it changes nothing. -/
theorem visit_of_no_values {els : List Element} (h : els.filterMap manufacturerOf = [])
    (a : AgentParams) (s : Found) : visit (onDataParse (some a)) els s = s := by
  induction els with
  | nil => rfl
  | cons el els ih =>
    have hnone := List.filterMap_eq_nil_iff.mp h el List.mem_cons_self
    have htype : el.type ≠ AD_MANUFACTURER := by
      intro htype
      rw [manufacturerOf_of_type htype] at hnone
      cases hnone
    have hgo : onDataParse (some a) ⟨el.type, el.value⟩ s = (true, s) := if_pos htype
    rw [List.filterMap_cons_none hnone] at h
    rw [visit, hgo, if_pos rfl, ih h]

/-- **The board's decoder is given the first manufacturer element**, whosever it is. -/
theorem parse_given {bt : BtDataParse} (hbt : bt.Walks) (a : AgentParams) (ad : Bytes) {s : Found}
    (hs : s.given = none) :
    (bt.parse ad (onDataParse (some a)) s).given = (manufacturerValues ad).head? := by
  rw [parse_eq_visit hbt]
  cases hvalues : manufacturerValues ad with
  | nil => rw [visit_of_no_values hvalues, hs]; rfl
  | cons v rest =>
    rw [visit_of_values hvalues, (onDataParse_manufacturer a rfl s).2]
    rfl

/-- **A report whose first manufacturer element decodes** is taken in as the packet it decodes to.
-/
theorem onDeviceFoundReport_of_ok {bt : BtDataParse} (hbt : bt.Walks) (a : AgentParams) (s : Found)
    (rssi : Int8) {ad v : Bytes} {rest : List Bytes} (hvalues : manufacturerValues ad = v :: rest)
    {p : DecodedPacket} (hp : airWireDecodeAny v = .ok p) :
    (onDeviceFoundReport bt (some a) s rssi ad).rx =
      onDeviceFound s.rx a p.toStatePacketType rssi := by
  have hcall : ∀ s', (onDataParse (some a) ⟨btDataManufacturerData, v⟩ s').2 =
      takePacket a p { s' with given := some v } := by
    intro s'
    rw [onDataParse, if_neg (not_not.mpr rfl)]
    dsimp only
    rw [hp]
  have hne : s.counters.ours + 1 ≠ s.counters.ours := by
    intro heq
    exact absurd (add_eq_left.mp heq) (by decide)
  simp only [onDeviceFoundReport, parse_eq_visit hbt, visit_of_values hvalues, hcall, takePacket,
    onDeviceFound]
  cases hindex : agentNeighborIndex a p.node with
  | none => simp [hindex]
  | some i => simp [hindex, hne]

/-! ### The same element -/

/-- The payload the board's decoder has in hand behind the two tests it begins with, which are those
of `find_manufacturer`: the value it is given during the walk, if it is of this company. -/
def boardElement (bt : BtDataParse) (a : AgentParams) (s : Found) (ad : Bytes) : Option Bytes :=
  (bt.parse ad (onDataParse (some a)) { s with given := none }).given.bind
    (strip_company manufacturerId)

/-- Both receivers hand the same element to their decoders, or both none. -/
def SameElement (bt : BtDataParse) (a : AgentParams) (s : Found) (ad : Bytes) : Prop :=
  boardElement bt a s ad = find_manufacturer ad COMPANY_ID

/-- The value is of this company. -/
def Ours (value : Bytes) : Prop :=
  2 ≤ value.length ∧ leNat (fieldAt value 0 2) = COMPANY_ID

/-- The first manufacturer element of the payload is of another company, or too short to name one,
and one of this company stands behind it. -/
def Shadowed (ad : Bytes) : Prop :=
  ∃ (before between : List Element) (foreign mine : Bytes) (rest : Bytes),
    ad = before.flatMap Element.encoded ++ (Element.encoded ⟨AD_MANUFACTURER, foreign⟩ ++
        (between.flatMap Element.encoded ++
          (Element.encoded ⟨AD_MANUFACTURER, mine⟩ ++ rest))) ∧
      (∀ el ∈ before ++ between, el.value.length ≤ 254) ∧ foreign.length ≤ 254 ∧
      mine.length ≤ 254 ∧ (∀ el ∈ before, el.type ≠ AD_MANUFACTURER) ∧ ¬Ours foreign ∧ Ours mine

theorem strip_company_isSome_iff (value : Bytes) :
    (strip_company COMPANY_ID value).isSome = true ↔ Ours value := by
  rw [strip_company, Ours]
  split_ifs with h
  · exact ⟨fun _ ↦ h, fun _ ↦ rfl⟩
  · exact ⟨fun hnone ↦ (by cases hnone), fun hours ↦ absurd hours h⟩

/-- The first of a list and the first that passes are the same unless one that fails stands before
one that passes. -/
theorem head_bind_eq_findSome_iff {α β : Type*} (f : α → Option β) (xs : List α) :
    xs.head?.bind f = xs.findSome? f ↔
      ¬∃ x rest, xs = x :: rest ∧ f x = none ∧ ∃ y ∈ rest, (f y).isSome := by
  cases xs with
  | nil => exact ⟨fun _ ⟨x, rest, h, _⟩ ↦ (by cases h), fun _ ↦ rfl⟩
  | cons x rest =>
    rw [List.head?_cons, List.findSome?_cons, Option.bind_some]
    cases hx : f x with
    | some y =>
      refine ⟨fun _ ⟨x', rest', h, hnone, _⟩ ↦ ?_, fun _ ↦ rfl⟩
      rw [List.cons.injEq] at h
      rw [← h.1, hx] at hnone
      cases hnone
    | none =>
      dsimp only
      rw [eq_comm, List.findSome?_eq_none_iff]
      constructor
      · rintro hall ⟨x', rest', h, -, y, hy, hsome⟩
        rw [List.cons.injEq] at h
        rw [hall y (h.2 ▸ hy)] at hsome
        cases hsome
      · intro hnot y hy
        by_contra hne
        exact hnot ⟨x, rest, rfl, hx, y, hy, Option.isSome_iff_ne_none.mpr hne⟩

/-- Shadowing, on the manufacturer values. -/
theorem shadowed_iff (ad : Bytes) :
    Shadowed ad ↔ ∃ v rest, manufacturerValues ad = v :: rest ∧ ¬Ours v ∧ ∃ v' ∈ rest, Ours v' := by
  have hencode : ∀ els : List Element, (∀ el ∈ els, el.value.length ≤ 254) →
      els.map (fun el ↦ element el.type el.value) = (els.map Element.encoded).map some := by
    intro els hshort
    rw [List.map_map]
    exact List.map_congr_left fun el hel ↦ element_eq_some_iff.mpr ⟨hshort el hel, rfl⟩
  constructor
  · rintro ⟨before, between, foreign, mine, rest, had, hvalues, hforeign, hmine, htype, hnot, hours⟩
    -- Well-formed elements are parsed one after another up to the one of this company.
    have hread : parse_ad ad = before ++ ⟨AD_MANUFACTURER, foreign⟩ ::
        (between ++ ⟨AD_MANUFACTURER, mine⟩ :: parse_ad rest) := by
      have hbefore := hencode before fun el hel ↦ hvalues el (List.mem_append_left _ hel)
      have hbetween := hencode between fun el hel ↦ hvalues el (List.mem_append_right _ hel)
      rw [had, List.flatMap_def, List.flatMap_def, parse_ad_flatten hbefore,
        parse_ad_append (element_eq_some_iff.mpr ⟨hforeign, rfl⟩), parse_ad_flatten hbetween,
        parse_ad_append (element_eq_some_iff.mpr ⟨hmine, rfl⟩)]
    have hnone : before.filterMap manufacturerOf = [] :=
      List.filterMap_eq_nil_iff.mpr fun el hel ↦ manufacturerOf_of_ne (htype el hel)
    refine ⟨foreign, between.filterMap manufacturerOf ++
      mine :: (parse_ad rest).filterMap manufacturerOf, ?_, hnot, mine, by simp, hours⟩
    rw [manufacturerValues, hread, List.filterMap_append, hnone, List.nil_append,
      List.filterMap_cons_some (manufacturerOf_of_type rfl), List.filterMap_append,
      List.filterMap_cons_some (manufacturerOf_of_type rfl)]
  · rintro ⟨v, vs, hvs, hnot, mine, hmem, hours⟩
    -- The first manufacturer element ends the elements before it; the one of this company comes
    -- later.
    obtain ⟨before, el, after, hsplit, htype, hel, rfl⟩ := List.filterMap_eq_cons_iff.mp hvs
    obtain ⟨el', hel', hmine⟩ := List.mem_filterMap.mp hmem
    obtain ⟨between, rest', rfl⟩ := List.append_of_mem hel'
    obtain ⟨rest, hdata⟩ := encoded_parse_ad ad
    have hvalues : ∀ e ∈ parse_ad ad, e.value.length ≤ 254 := fun e ↦ length_le_of_mem_parse_ad
    rw [hsplit] at hdata hvalues
    have hforeign := eq_of_manufacturerOf hel
    have hmine' := eq_of_manufacturerOf hmine
    refine ⟨before, between, v, mine, rest'.flatMap Element.encoded ++ rest, ?_, ?_, ?_, ?_, ?_,
      hnot,
      hours⟩
    · rw [hdata, hforeign, hmine']
      simp only [List.flatMap_append, List.flatMap_cons, List.append_assoc]
    · intro e he
      refine hvalues e ?_
      obtain hb | hb := List.mem_append.mp he
      · exact List.mem_append_left _ hb
      · exact List.mem_append_right _ (List.mem_cons_of_mem _ (List.mem_append_left _ hb))
    · have hlen := hvalues el (List.mem_append_right _ List.mem_cons_self)
      rwa [hforeign] at hlen
    · have hlen := hvalues el' (List.mem_append_right _ (List.mem_cons_of_mem _ hel'))
      rwa [hmine'] at hlen
    · intro e he hmfr
      have hnone := htype e he
      rw [manufacturerOf_of_type hmfr] at hnone
      cases hnone

/-- The two choices, on the manufacturer values. -/
theorem sameElement_iff_values {bt : BtDataParse} (hbt : bt.Walks) (a : AgentParams) (s : Found)
    (ad : Bytes) :
    SameElement bt a s ad ↔
      ¬∃ v rest, manufacturerValues ad = v :: rest ∧ ¬Ours v ∧ ∃ v' ∈ rest, Ours v' := by
  have hpasses : ∀ v, (strip_company manufacturerId v).isSome = true ↔ Ours v :=
    strip_company_isSome_iff
  have hfails : ∀ v, strip_company manufacturerId v = none ↔ ¬Ours v := by
    intro v
    rw [← hpasses, Option.not_isSome_iff_eq_none]
  rw [SameElement, boardElement, parse_given hbt a ad rfl, find_manufacturer_eq]
  show _ = (manufacturerValues ad).findSome? (strip_company manufacturerId) ↔ _
  rw [head_bind_eq_findSome_iff]
  simp only [hfails, hpasses]

/-- **The receivers find the same element unless one of another company stands in front of it.** -/
theorem same_element_iff {bt : BtDataParse} (hbt : bt.Walks) (a : AgentParams) (s : Found)
    (ad : Bytes) : SameElement bt a s ad ↔ ¬Shadowed ad := by
  rw [sameElement_iff_values hbt, shadowed_iff]

/-- An advertisement of this fleet: a name, then one manufacturer element. -/
def fleetAd : Bytes :=
  [0x04, 0x09, 0x4C, 0x41, 0x42, 0x09, 0xFF, 0x59, 0x00, 0x7F, 0x03, 0x40, 0x6F, 0x40, 0x01]

theorem same_element_iff_fleet :
    SameElement btDataParse twoNeighborBoard.params .init fleetAd ↔ ¬Shadowed fleetAd :=
  same_element_iff btDataParse_walks twoNeighborBoard.params .init fleetAd

/-- An element of another company in front of one of node 3. -/
def mixedAd : Bytes :=
  [0x05, 0xFF, 0x4C, 0x00, 0x10, 0x02, 0x09, 0xFF, 0x59, 0x00, 0x7F, 0x03, 0x40, 0x6F, 0x40, 0x01]

theorem manufacturerValues_mixedAd :
    manufacturerValues mixedAd =
      [[0x4C, 0x00, 0x10, 0x02], [0x59, 0x00, 0x7F, 0x03, 0x40, 0x6F, 0x40, 0x01]] := by
  have hels : [Element.mk 0xFF [0x4C, 0x00, 0x10, 0x02],
      ⟨0xFF, [0x59, 0x00, 0x7F, 0x03, 0x40, 0x6F, 0x40, 0x01]⟩].map
        (fun el ↦ element el.type el.value) =
      [[0x05, 0xFF, 0x4C, 0x00, 0x10, 0x02],
        [0x09, 0xFF, 0x59, 0x00, 0x7F, 0x03, 0x40, 0x6F, 0x40, 0x01]].map some := by
    decide
  have hread := parse_ad_flatten hels []
  rw [parse_ad, List.append_nil] at hread
  have hparse : parse_ad mixedAd = _ := hread
  rw [manufacturerValues, hparse]
  rfl

/-- The host finds the packet of node 3, the board stops in front of it. -/
theorem mixedAd_parts : ¬SameElement btDataParse twoNeighborBoard.params .init mixedAd := by
  rw [sameElement_iff_values btDataParse_walks, not_not, manufacturerValues_mixedAd]
  refine ⟨_, _, rfl, ?_, _, List.mem_singleton_self _, ?_⟩
  · exact fun h ↦ absurd h.2 (by decide)
  · exact ⟨by decide, by decide⟩

end VertexTestbed.Conformance
