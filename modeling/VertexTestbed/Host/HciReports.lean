import VertexTestbed.Host.AdvertisingData

/-!
# Advertising reports

`parse_adv_reports` of `radio/hci.py`: a subevent code, a declared count, and that many reports,
each with its own length from the air and its RSSI behind the data. The walk stops at the declared
count and at the first report that is not there whole.

`walk_reports_append` reads one report back whatever follows it, and `walk_reports_take` says that
cutting the bytes loses reports from the end only.
-/

namespace VertexTestbed.Host

/-- `SUBEVT_ADV_REPORT`. -/
def SUBEVT_ADV_REPORT : UInt8 := 0x02

/-- `AdvReport`. -/
structure AdvReport where
  event_type : UInt8
  addr_type : UInt8
  addr : Bytes
  data : Bytes
  rssi : Int8
  deriving DecidableEq

/-- The loop of `parse_adv_reports`; `rest` is what is left from `off`. -/
def walk_reports : ℕ → Bytes → List AdvReport
  | 0, _ => []
  | num + 1, rest =>
    if rest.length < 9 then []
    else
      let dlen := (byteAt rest 8).toNat
      if rest.length < 9 + dlen + 1 then []
      else
        { event_type := byteAt rest 0
          addr_type := byteAt rest 1
          addr := fieldAt rest 2 6
          data := fieldAt rest 9 dlen
          rssi := (byteAt rest (9 + dlen)).toInt8 } ::
          walk_reports num (rest.drop (9 + dlen + 1))

/-- `parse_adv_reports`. -/
def parse_adv_reports (params : Bytes) : List AdvReport :=
  if params = [] ∨ byteAt params 0 ≠ SUBEVT_ADV_REPORT then []
  else walk_reports (if 1 < params.length then (byteAt params 1).toNat else 0) (params.drop 2)

/-! ### Reports written and read -/

/-- A report as a controller sends it: a six-byte address, and data whose length fits a byte. -/
def AdvReport.Sendable (r : AdvReport) : Prop :=
  r.addr.length = 6 ∧ r.data.length ≤ 255

/-- The bytes of a report. -/
def AdvReport.encoded (r : AdvReport) : Bytes :=
  r.event_type :: r.addr_type ::
    (r.addr ++ UInt8.ofNat r.data.length :: (r.data ++ [r.rssi.toUInt8]))

/-- The subevent that carries a list of reports. -/
def adv_report_params (reports : List AdvReport) : Bytes :=
  SUBEVT_ADV_REPORT :: UInt8.ofNat reports.length :: reports.flatMap AdvReport.encoded

/-- **A report is read back**, whatever follows it. -/
theorem walk_reports_append {r : AdvReport} (h : r.Sendable) (num : ℕ) (rest : Bytes) :
    walk_reports (num + 1) (r.encoded ++ rest) = r :: walk_reports num rest := by
  obtain ⟨event_type, addr_type, addr, data, rssi⟩ := r
  obtain ⟨haddr, hdata⟩ : addr.length = 6 ∧ data.length ≤ 255 := h
  -- The nine bytes in front of the data, then the data, then the RSSI.
  set front := event_type :: addr_type :: (addr ++ [UInt8.ofNat data.length]) with hfront
  have hnine : front.length = 9 := by
    simp [hfront, haddr]
  have hwhole : AdvReport.encoded ⟨event_type, addr_type, addr, data, rssi⟩ ++ rest =
      front ++ (data ++ (rssi.toUInt8 :: rest)) := by
    simp [AdvReport.encoded, hfront]
  have hdlen : (byteAt (front ++ (data ++ (rssi.toUInt8 :: rest))) 8).toNat = data.length := by
    have height : (event_type :: addr_type :: addr).length = 8 := by
      simp [haddr]
    have hbyte : byteAt (front ++ (data ++ (rssi.toUInt8 :: rest))) (8 + 0) =
        UInt8.ofNat data.length := by
      have hsplit : front ++ (data ++ (rssi.toUInt8 :: rest)) =
          (event_type :: addr_type :: addr) ++
            (UInt8.ofNat data.length :: (data ++ (rssi.toUInt8 :: rest))) := by
        simp [hfront]
      rw [hsplit, byteAt_behind height, byteAt_cons_zero]
    rw [Nat.add_zero] at hbyte
    rw [hbyte, UInt8.toNat_ofNat', Nat.mod_eq_of_lt (by omega)]
  have haddr' : fieldAt (front ++ (data ++ (rssi.toUInt8 :: rest))) 2 6 = addr := by
    have hsplit : front ++ (data ++ (rssi.toUInt8 :: rest)) =
        [event_type, addr_type] ++
          (addr ++ (UInt8.ofNat data.length :: (data ++ (rssi.toUInt8 :: rest)))) := by
      simp [hfront]
    have htwo : [event_type, addr_type].length = 2 := rfl
    rw [hsplit, ← Nat.add_zero 2, fieldAt_behind htwo, fieldAt_append_left haddr]
  have hdata' : fieldAt (front ++ (data ++ (rssi.toUInt8 :: rest))) 9 data.length = data := by
    rw [← Nat.add_zero 9, fieldAt_behind hnine, fieldAt_append_left rfl]
  have hrssi : byteAt (front ++ (data ++ (rssi.toUInt8 :: rest))) (9 + data.length) =
      rssi.toUInt8 := by
    rw [byteAt_behind hnine, ← Nat.add_zero data.length, byteAt_behind rfl, byteAt_cons_zero]
  have hrest : (front ++ (data ++ (rssi.toUInt8 :: rest))).drop (9 + data.length + 1) = rest := by
    have hsplit : front ++ (data ++ (rssi.toUInt8 :: rest)) =
        (front ++ data ++ [rssi.toUInt8]) ++ rest := by
      simp
    rw [hsplit]
    refine List.drop_left' ?_
    rw [List.length_append, List.length_append, hnine]
    rfl
  have hlen : (front ++ (data ++ (rssi.toUInt8 :: rest))).length =
      9 + data.length + 1 + rest.length := by
    simp only [List.length_append, List.length_cons, hnine]
    omega
  rw [hwhole, walk_reports, if_neg (by omega)]
  simp only [hdlen]
  rw [if_neg (by omega), haddr', hdata', hrssi, hrest, Int8.toInt8_toUInt8]
  rfl

/-- **The reports are read back**, as many as are declared. -/
theorem walk_reports_flatMap {reports : List AdvReport} (h : ∀ r ∈ reports, r.Sendable) :
    walk_reports reports.length (reports.flatMap AdvReport.encoded) = reports := by
  induction reports with
  | nil => rfl
  | cons r reports ih =>
    rw [List.flatMap_cons, List.length_cons, walk_reports_append (h r List.mem_cons_self),
      ih fun r' hr' ↦ h r' (List.mem_cons_of_mem _ hr')]

/-- **Cutting the bytes cuts the reports**: what is left of them is walked into the first of what
they held. -/
theorem walk_reports_take (num n : ℕ) (rest : Bytes) :
    walk_reports num (rest.take n) <+: walk_reports num rest := by
  induction num generalizing n rest with
  | zero => exact List.prefix_rfl
  | succ num ih =>
    have hcut : (rest.take n).length = min n rest.length := List.length_take
    rw [walk_reports, walk_reports]
    by_cases hhead : (rest.take n).length < 9
    · rw [if_pos hhead]
      exact List.nil_prefix
    · -- The length byte is before the cut.
      have hdlen : byteAt (rest.take n) 8 = byteAt rest 8 := byteAt_take (by omega)
      have hhead' : ¬rest.length < 9 := by omega
      simp only [hdlen, if_neg hhead, if_neg hhead']
      by_cases hbody : (rest.take n).length < 9 + (byteAt rest 8).toNat + 1
      · rw [if_pos hbody]
        exact List.nil_prefix
      · have hbody' : ¬rest.length < 9 + (byteAt rest 8).toNat + 1 := by omega
        rw [if_neg hbody, if_neg hbody', byteAt_take (by omega), byteAt_take (by omega),
          byteAt_take (by omega), fieldAt_take (by omega), fieldAt_take (by omega), List.drop_take]
        exact List.cons_prefix_cons.mpr ⟨rfl, ih _ _⟩

/-- The count byte tells how many reports there are. -/
theorem parse_adv_reports_params {reports : List AdvReport} (hcount : reports.length ≤ 255)
    (h : ∀ r ∈ reports, r.Sendable) : parse_adv_reports (adv_report_params reports) = reports := by
  have hnum : (UInt8.ofNat reports.length).toNat = reports.length := by
    rw [UInt8.toNat_ofNat', Nat.mod_eq_of_lt (by omega)]
  have hcode : ¬(adv_report_params reports = [] ∨
      byteAt (adv_report_params reports) 0 ≠ SUBEVT_ADV_REPORT) := by
    simp [adv_report_params]
  rw [parse_adv_reports, if_neg hcode, adv_report_params, if_pos (by simp), byteAt_cons_succ,
    byteAt_cons_zero, hnum]
  exact walk_reports_flatMap h

theorem parse_adv_reports_take (params : Bytes) (n : ℕ) :
    parse_adv_reports (params.take n) <+: parse_adv_reports params := by
  have hcut : (params.take n).length = min n params.length := List.length_take
  by_cases hlong : 1 < (params.take n).length
  · have hne : params.take n ≠ [] := List.ne_nil_of_length_pos (by omega)
    have hne' : params ≠ [] := List.ne_nil_of_length_pos (by omega)
    have hlong' : 1 < params.length := by omega
    have hcode : byteAt (params.take n) 0 = byteAt params 0 := byteAt_take (by omega)
    have hnum : byteAt (params.take n) 1 = byteAt params 1 := byteAt_take (by omega)
    simp only [parse_adv_reports, hne, hne', false_or, hcode, hnum, if_pos hlong, if_pos hlong',
      List.drop_take]
    split_ifs
    · exact List.prefix_rfl
    · exact walk_reports_take _ _ _
  · -- Without its count the subevent holds nothing.
    have hnone : parse_adv_reports (params.take n) = [] := by
      rw [parse_adv_reports, if_neg hlong]
      split_ifs
      · rfl
      · rfl
    rw [hnone]
    exact List.nil_prefix

/-! ### Nothing is lost -/

/-- **Advertising data and report parsing lose nothing.** Elements are read back from what
`element` wrote, padded with zeros or not; from any bytes the walk yields only slices, in order and
one at least every two bytes; reports are read back from the subevent that carries them, and a
truncated subevent gives the first of them. -/
theorem parsing_loses_nothing :
    (∀ (els : List Element) (parts : List Bytes) (k : ℕ),
        els.map (fun el ↦ element el.type el.value) = parts.map some →
          parse_ad (parts.flatten ++ List.replicate k 0) = els ∧
            ∀ limit ad, build_ad parts limit = some ad → parse_ad ad = els) ∧
      (∀ data : Bytes,
        (parse_ad data).flatMap Element.encoded <+: data ∧
          2 * (parse_ad data).length ≤ data.length ∧
          ∀ el ∈ parse_ad data, ∃ i, i + 2 + el.value.length ≤ data.length ∧
            el.type = byteAt data (i + 1) ∧ el.value = fieldAt data (i + 2) el.value.length) ∧
      ∀ reports : List AdvReport, reports.length ≤ 255 → (∀ r ∈ reports, r.Sendable) →
        parse_adv_reports (adv_report_params reports) = reports ∧
          ∀ n, parse_adv_reports ((adv_report_params reports).take n) <+: reports := by
  refine ⟨fun els parts k h ↦ ⟨?_, fun limit ad had ↦ ?_⟩, fun data ↦ ⟨?_, ?_, ?_⟩,
    fun reports hcount h ↦ ⟨parse_adv_reports_params hcount h, fun n ↦ ?_⟩⟩
  · rw [parse_ad_flatten h, parse_ad_zeros, List.append_nil]
  · rw [build_ad] at had
    split_ifs at had
    obtain rfl := Option.some.inj had
    have hwhole := parse_ad_flatten h []
    rwa [List.append_nil, parse_ad, List.append_nil] at hwhole
  · obtain ⟨rest, hrest⟩ := encoded_parse_ad data
    exact ⟨rest, hrest.symm⟩
  · exact two_mul_length_parse_ad_le data
  · exact fun el hel ↦ slice_of_mem_parse_ad hel
  · have htake := parse_adv_reports_take (adv_report_params reports) n
    rwa [parse_adv_reports_params hcount h] at htake

end VertexTestbed.Host
