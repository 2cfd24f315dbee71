import VertexTestbed.Conformance.Framing
import VertexTestbed.Lib.Crc

/-!
# What the frame check catches

`proto_crc16` is the shift register of `Lib.Crc` over the polynomial of CRC-16/CCITT
(`protoCrc16_toBitVec`), and `crc16` is the same number. The polynomial has an odd number of
feedback taps and a constant term, and the register is two bytes wide, so the corruptions the
library's two theorems are about are those of this check: an odd number of flipped bits, and
anything within two neighbouring bytes.

A receiver that has seen such a payload under an intact header compares two checks that differ and
delivers nothing (`feed_corrupt`).
-/

namespace VertexTestbed.Conformance

open Host Firmware

/-! ### The check is the register -/

/-- The polynomial of both sides, without its leading term. -/
def generator : BitVec 16 :=
  0x1021#16

theorem odd_weight_generator : Odd (Crc.weight generator) := by
  decide

theorem generator_constant : generator.getLsbD 0 = true := rfl

theorem and_top_ne_zero_iff (r : BitVec 16) : r &&& 0x8000#16 ≠ 0#16 ↔ r.msb = true := by
  have htop : (0x8000#16 : BitVec 16) = BitVec.twoPow 16 15 := rfl
  rw [htop, BitVec.and_twoPow, BitVec.msb_eq_getLsbD_last]
  cases r.getLsbD 15 with
  | false => decide
  | true => decide

theorem protoCrcBit_toBitVec (crc : UInt16) :
    (protoCrcBit crc).toBitVec = Crc.shift generator crc.toBitVec := by
  have htop : crc &&& 0x8000 ≠ 0 ↔ crc.toBitVec.msb = true := by
    rw [← and_top_ne_zero_iff, ne_eq, ne_eq, ← UInt16.toBitVec_inj]
    rfl
  rw [protoCrcBit, Crc.shift]
  by_cases h : crc.toBitVec.msb = true
  · rw [if_pos h, if_pos (htop.mpr h)]
    rfl
  · rw [if_neg h, if_neg (htop.not.mpr h)]
    rfl

theorem protoCrcByte_toBitVec (crc : UInt16) (byte : UInt8) :
    (protoCrcByte crc byte).toBitVec = Crc.absorb generator crc.toBitVec byte := by
  have hbits : ∀ (n : ℕ) (c : UInt16),
      (protoCrcBit^[n] c).toBitVec = (Crc.shift generator)^[n] c.toBitVec := by
    intro n
    induction n with
    | zero => exact fun _ ↦ rfl
    | succ n ih =>
      intro c
      rw [Function.iterate_succ_apply, Function.iterate_succ_apply, ih, protoCrcBit_toBitVec]
  exact hbits 8 _

/-- **The board's check is the register's remainder.** -/
theorem protoCrc16_toBitVec (data : Bytes) :
    (protoCrc16 data).toBitVec = Crc.digest generator 0xFFFF#16 data := by
  induction data using List.reverseRecOn with
  | nil => rfl
  | append_singleton data byte ih =>
    rw [protoCrc16, List.foldl_append, Crc.digest_append, ← ih]
    exact protoCrcByte_toBitVec _ byte

theorem crc16_eq_iff (xs ys : Bytes) :
    crc16 xs = crc16 ys ↔
      Crc.digest generator 0xFFFF#16 xs = Crc.digest generator 0xFFFF#16 ys := by
  rw [← protoCrc16_toNat, ← protoCrc16_toNat, UInt16.toNat_inj, ← UInt16.toBitVec_inj,
    protoCrc16_toBitVec, protoCrc16_toBitVec]

/-! ### Corrupted payloads -/

/-- A corruption of a payload that the check is chosen for: it changes an odd number of bits, or it
changes something, all of it within two neighbouring bytes. -/
def Corrupts (p p' : Bytes) : Prop :=
  p'.length = p.length ∧ (Odd (Crc.flips p' p) ∨ p' ≠ p ∧ Crc.WithinTwo p' p)

/-- The bytes of a frame with another payload in the place of its own. -/
def withPayload (bytes p' : Bytes) : Bytes :=
  bytes.take 4 ++ p' ++ bytes.drop (4 + p'.length)

/-- **The check sees it**, whatever is in front of the payload. -/
theorem crc16_ne_of_corrupts {p p' : Bytes} (h : Corrupts p p') (head : Bytes) :
    crc16 (head ++ p') ≠ crc16 (head ++ p) := by
  obtain ⟨hlen, hodd | ⟨hne, htwo⟩⟩ := h
  · rw [ne_eq, crc16_eq_iff]
    exact Crc.digest_ne_of_odd_flips odd_weight_generator (by decide) _ head hlen hodd
  · rw [ne_eq, crc16_eq_iff]
    exact Crc.digest_ne_of_withinTwo generator_constant (by decide) _ head hlen hne htwo

theorem withPayload_build (t : UInt8) {p p' : Bytes} (hlen : p'.length = p.length) :
    withPayload (FrameParser.hostFormat.build t p) p' =
      Host.sof ::
        (Format.head t p'.length ++ p' ++ leBytes 2 (crc16 (Format.head t p.length ++ p))) := by
  have hhead : (Format.head t p.length).length = 3 := rfl
  have htake : (FrameParser.hostFormat.build t p).take 4 = Host.sof :: Format.head t p.length := by
    rw [Format.build, List.append_assoc, List.take_succ_cons]
    exact congrArg _ (List.take_left' hhead)
  have hdrop : (FrameParser.hostFormat.build t p).drop (4 + p'.length) =
      leBytes 2 (crc16 (Format.head t p.length ++ p)) := by
    have hfront : (Host.sof :: (Format.head t p.length ++ p)).length = 4 + p'.length := by
      rw [List.length_cons, List.length_append, hhead, hlen]
      omega
    exact List.drop_left' hfront
  rw [withPayload, htake, hdrop, hlen]
  simp only [List.cons_append, List.append_assoc]

/-- **A parser that follows a receiver delivers nothing** for a frame so corrupted, and is idle
behind it. -/
theorem feed_corrupt {F : Format} {σ : Type} {step : σ → UInt8 → σ × Option Frame}
    {Follows : σ → F.State → Prop} {waiting : σ → Prop}
    (hsof : F.sof = Host.sof) (hcheck : ∀ data, F.check data = crc16 data)
    (hidle : ∀ s, waiting s → Follows s .idle) (hwaiting : ∀ s, Follows s .idle → waiting s)
    (hstep : ∀ s t b, Follows s t →
      Follows (step s b).1 (F.step t b).1 ∧ (step s b).2 = (F.step t b).2)
    {t : UInt8} {p p' bytes : Bytes} (hfits : F.Fits t p.length) (h : Corrupts p p')
    (hbytes : buildFrame t p = .ok bytes) {s : σ} (hs : waiting s) :
    (feed step s (withPayload bytes p')).2 = [] ∧
      waiting (feed step s (withPayload bytes p')).1 := by
  obtain ⟨hlen, rfl⟩ := FrameParser.buildFrame_eq_ok hbytes
  have hshort : p'.length < 65536 := by
    rw [h.1]
    exact hlen.trans_lt (by decide)
  have hfits' : F.Fits t p'.length := by rwa [h.1]
  have hne : F.check (Format.head t p'.length ++ p') ≠ crc16 (Format.head t p.length ++ p) := by
    rw [hcheck, h.1]
    exact crc16_ne_of_corrupts h _
  have hfeed := Format.feed_frame hfits' hshort (crc16_lt (Format.head t p.length ++ p)) []
  rw [List.append_nil, hsof, if_neg hne] at hfeed
  obtain ⟨hend, hout⟩ := feed_related hstep (hidle s hs) (withPayload _ p')
  rw [withPayload_build t h.1] at hend hout ⊢
  rw [hfeed] at hend hout
  exact ⟨hout, hwaiting _ hend⟩

/-! ### Both sides -/

/-- **The frame check catches what it is chosen for**: the check of a corrupted payload is another
one, neither parser delivers a frame for it, and the remainder that the board continues from the
header over the payload is the host's check of both. -/
theorem frame_check_catches :
    (∀ (t : UInt8) (p p' : Bytes), Corrupts p p' →
        crc16 (t :: leBytes 2 p.length ++ p') ≠ crc16 (t :: leBytes 2 p.length ++ p)) ∧
      (∀ (t : UInt8) (p p' bytes : Bytes), Corrupts p p' → buildFrame t p = .ok bytes →
        HostKnows (t, p) → ∀ q : FrameParser, q.state = .waitSof →
          (feed FrameParser.feedByte q (withPayload bytes p')).2 = [] ∧
            (feed FrameParser.feedByte q (withPayload bytes p')).1.state = .waitSof) ∧
      (∀ (t : UInt8) (p p' bytes : Bytes), Corrupts p p' → buildFrame t p = .ok bytes →
        BoardKnows (t, p) → ∀ q : ProtoParser, q.state = .waitSof →
          (feed protoFeed q (withPayload bytes p')).2 = [] ∧
            (feed protoFeed q (withPayload bytes p')).1.state = .waitSof) ∧
      ∀ (t : UInt8) (n : ℕ) (payload : Bytes),
        (payload.foldl protoCrcByte (protoCrc16 (t :: leBytes 2 n))).toNat =
          crc16 (t :: leBytes 2 n ++ payload) := by
  refine ⟨fun t p p' h ↦ crc16_ne_of_corrupts h _, ?_, ?_, ?_⟩
  · intro t p p' bytes h hbytes hknown q hq
    have hlen := (FrameParser.buildFrame_eq_ok hbytes).1
    exact feed_corrupt (F := FrameParser.hostFormat) rfl (fun _ ↦ rfl)
      (fun _ ↦ FrameParser.follows_idle) (fun _ ↦ FrameParser.state_of_follows_idle)
      FrameParser.feedByte_follows ((FrameParser.hostFormat_fits_iff t _).mpr ⟨hknown, hlen⟩) h
      hbytes hq
  · intro t p p' bytes h hbytes hknown q hq
    exact feed_corrupt (F := boardFormat) rfl protoCrc16_toNat
      (fun _ ↦ protoFollows_idle) (fun _ ↦ state_of_protoFollows_idle) protoFeed_follows
      ((boardFormat_fits_iff t _).mpr hknown) h hbytes hq
  · intro t n payload
    rw [← protoCrc16_toNat, protoCrc16, protoCrc16, List.foldl_append]

/-- A `NETWORK` payload: node 21, enabled, with the neighbours 22 and 23. -/
def sampleNetwork : Bytes :=
  [1, 21, 22, 23]

/-- The neighbours the other way round: two flipped bits, in two neighbouring bytes. -/
def swappedNetwork : Bytes :=
  [1, 21, 23, 22]

/-- The flag gone: one flipped bit. -/
def disabledNetwork : Bytes :=
  [0, 21, 22, 23]

theorem corrupts_swapped : Corrupts sampleNetwork swappedNetwork := by
  refine ⟨rfl, Or.inr ⟨by decide, 2, fun j h₂ h₃ ↦ ?_⟩⟩
  rcases lt_or_ge j 4 with hj | hj
  · interval_cases j
    · rfl
    · rfl
    · exact absurd rfl h₂
    · exact absurd rfl h₃
  · rw [List.getElem?_eq_none (by exact hj), List.getElem?_eq_none (by exact hj)]

theorem corrupts_disabled : Corrupts sampleNetwork disabledNetwork :=
  ⟨rfl, Or.inl (by decide)⟩

/-- A board configured with the neighbours swapped, or switched off, would follow another experiment
than the one that was sent; neither payload gets past either parser. -/
theorem frame_check_catches_network :
    crc16 (protoTNetwork :: leBytes 2 sampleNetwork.length ++ swappedNetwork) ≠
        crc16 (protoTNetwork :: leBytes 2 sampleNetwork.length ++ sampleNetwork) ∧
      ∃ bytes, buildFrame protoTNetwork sampleNetwork = .ok bytes ∧
        (feed FrameParser.feedByte .init (withPayload bytes swappedNetwork)).2 = [] ∧
        (feed protoFeed protoParserInit (withPayload bytes swappedNetwork)).2 = [] ∧
        (feed protoFeed protoParserInit (withPayload bytes disabledNetwork)).2 = [] := by
  obtain ⟨hcheck, hhost, hboard, -⟩ := frame_check_catches
  have hbuilt := FrameParser.buildFrame_eq protoTNetwork (p := sampleNetwork) (by decide)
  have hhostKnows : HostKnows (protoTNetwork, sampleNetwork) :=
    (isKnownType_iff protoTNetwork).mpr ⟨.network, rfl⟩
  have hboardKnows : BoardKnows (protoTNetwork, sampleNetwork) :=
    ⟨by decide, by decide⟩
  exact ⟨hcheck _ _ _ corrupts_swapped, _, hbuilt,
    (hhost _ _ _ _ corrupts_swapped hbuilt hhostKnows .init rfl).1,
    (hboard _ _ _ _ corrupts_swapped hbuilt hboardKnows protoParserInit rfl).1,
    (hboard _ _ _ _ corrupts_disabled hbuilt hboardKnows protoParserInit rfl).1⟩

end VertexTestbed.Conformance
