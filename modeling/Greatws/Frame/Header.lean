import Greatws.Basic

/-!
# The streaming header parser

`Conn.readHeader` of the `bigws` connection decodes a frame header out of `rbuf[ri:]` in two
steps: `frameStateHeaderStart` reads the first two bytes, `frameStateHeaderPayloadAndMask` the
extended length and the mask key, and the parser then waits in `frameStatePayload`. It is
called again each time bytes arrive, so a header may be split across reads anywhere.

* `readHeader_start` and `readExtAndMask_header` say once what each step does;
* `feedAll_eq` gives the parser's state after any partition of a header's bytes into chunks:
  it depends only on how many bytes have arrived, so every partition ends in the same state;
* two slips of the code show there: an unmasked header of length 0 is decoded and dropped
  without leaving `frameStateHeaderStart` (`feedAll_stalls`), and `ri` is never moved past the
  extended length and the mask key (`feedAll_parses`);
* `feedAll_payloadLen_range`: nothing checks the top bit of an 8-byte length, which
  `int64(...)` turns into a negative payload length.
-/

namespace Greatws

/-- `frameState`. -/
inductive FrameState where
  | headerStart
  | headerPayloadAndMask
  | payload
  deriving DecidableEq, Repr

/-- `FrameHeader`: the header being decoded, with `head` the frame's first byte. -/
structure FrameHeader where
  payloadLen : Int
  opcode : Nat
  maskKey : UInt32
  mask : Bool
  head : UInt8
  deriving DecidableEq, Repr

namespace FrameHeader

/-- `GetFin`, `GetRsv1`, `GetRsv2`, `GetRsv3`: the top four bits of the first byte, as the
comments of `readHeader` lay them out. -/
def getFin (h : FrameHeader) : Bool := 0 < h.head &&& 0x80
def getRsv1 (h : FrameHeader) : Bool := 0 < h.head &&& 0x40
def getRsv2 (h : FrameHeader) : Bool := 0 < h.head &&& 0x20
def getRsv3 (h : FrameHeader) : Bool := 0 < h.head &&& 0x10

end FrameHeader

/-- The fields of `conn` the parser owns: the read buffer, the read index, the parser's state,
how many header bytes the second step decodes (`haveSize`) and the header so far (`rh`). -/
structure Reader where
  rbuf : Bytes
  ri : Nat
  curState : FrameState
  haveSize : Nat
  rh : FrameHeader
  deriving DecidableEq, Repr

/-- The 7-bit length of the second header byte. -/
def len7 (b1 : UInt8) : Nat := (b1 &&& 0x7F).toNat

/-- The mask bit of the second header byte. -/
def masked (b1 : UInt8) : Bool := 0 < b1 &&& 0x80

theorem len7_le (b1 : UInt8) : len7 b1 ≤ 127 := by
  have h : (b1 &&& 0x7F).toNat ≤ (0x7F : UInt8).toNat := Nat.and_le_right
  exact h

namespace Reader

/-- The `frameStateHeaderPayloadAndMask` step: once `haveSize` bytes are buffered past `ri`,
decode the extended length and the mask key and move to `frameStatePayload`. -/
def readExtAndMask (c : Reader) : Reader × Option GoError :=
  if c.rbuf.length - c.ri < c.haveSize then (c, none)
  else
    let head := (c.rbuf.drop c.ri).take c.haveSize
    let lenAndRest : Int × Bytes :=
      if c.rh.payloadLen = 126 then (bigEndianUint16 head, head.drop 2)
      else if c.rh.payloadLen = 127 then (int64OfUint64 (bigEndianUint64 head), head.drop 8)
      else (c.rh.payloadLen, head)
    let maskKey := if c.rh.mask then littleEndianUint32 lenAndRest.2 else c.rh.maskKey
    ({ c with rh := { c.rh with payloadLen := lenAndRest.1, maskKey }, curState := .payload }, none)

/-- `Conn.readHeader`. -/
def readHeader (c : Reader) : Reader × Option GoError :=
  match c.curState with
  | .headerStart =>
    if c.rbuf.length - c.ri < 2 then (c, none)
    else
      let head := c.rbuf.getD c.ri 0
      let maskAndPayloadLen := c.rbuf.getD (c.ri + 1) 0
      let mask := masked maskAndPayloadLen
      let payloadLen : Int := len7 maskAndPayloadLen
      let rh := { c.rh with head, opcode := (head &&& 0xF).toNat, mask, payloadLen }
      let haveLen := if mask then 4 else 0
      let toExtAndMask (n : Nat) : Reader :=
        { c with rh, curState := .headerPayloadAndMask, haveSize := n, ri := c.ri + 2 }
      if 0 ≤ payloadLen ∧ payloadLen ≤ 125 then
        if payloadLen = 0 ∧ mask = false then ({ c with rh }, none)
        else readExtAndMask (toExtAndMask haveLen)
      else if payloadLen = 126 then readExtAndMask (toExtAndMask (haveLen + 2))
      else if payloadLen = 127 then readExtAndMask (toExtAndMask (haveLen + 8))
      else ({ c with rh }, some .framePayloadLength)
  | .headerPayloadAndMask => readExtAndMask c
  | .payload => (c, none)

/-! ## What each step does -/

/-- How many bytes follow the first two: the extended length and the mask key. -/
def extAndMaskLen (b1 : UInt8) : Nat :=
  (if len7 b1 = 126 then 2 else if len7 b1 = 127 then 8 else 0) + if masked b1 then 4 else 0

/-- The header `frameStateHeaderStart` leaves behind after reading `b0` and `b1`. -/
def started (rh : FrameHeader) (b0 b1 : UInt8) : FrameHeader :=
  { rh with head := b0, opcode := (b0 &&& 0xF).toNat, mask := masked b1, payloadLen := len7 b1 }

/-- Where `frameStateHeaderStart` hands over to the second step after reading `b0` and `b1`. -/
def toSecond (c : Reader) (b0 b1 : UInt8) : Reader :=
  { c with rh := started c.rh b0 b1, curState := .headerPayloadAndMask, haveSize := extAndMaskLen b1,
           ri := c.ri + 2 }

theorem readExtAndMask_wait {c : Reader} (h : c.rbuf.length - c.ri < c.haveSize) :
    readExtAndMask c = (c, none) := if_pos h

theorem readHeader_payload {c : Reader} (h : c.curState = .payload) : readHeader c = (c, none) := by
  simp [readHeader, h]

theorem readHeader_start_wait {c : Reader} (hs : c.curState = .headerStart)
    (h : c.rbuf.length - c.ri < 2) : readHeader c = (c, none) := by
  simp [readHeader, hs, h]

/-- **The first step.** With two bytes buffered, `frameStateHeaderStart` decodes them; an
unmasked header of length 0 is left where it is, any other goes on to the second step. -/
theorem readHeader_start {c : Reader} (hs : c.curState = .headerStart)
    (h : 2 ≤ c.rbuf.length - c.ri) :
    readHeader c =
      let b0 := c.rbuf.getD c.ri 0
      let b1 := c.rbuf.getD (c.ri + 1) 0
      if len7 b1 = 0 ∧ masked b1 = false then ({ c with rh := started c.rh b0 b1 }, none)
      else readExtAndMask (toSecond c b0 b1) := by
  have hn : ¬ c.rbuf.length - c.ri < 2 := by omega
  have hle := len7_le (c.rbuf.getD (c.ri + 1) 0)
  simp only [readHeader, hs, hn, if_false, started, extAndMaskLen, toSecond]
  rcases Nat.lt_or_ge (len7 (c.rbuf.getD (c.ri + 1) 0)) 126 with h1 | h1
  · have h126 : len7 (c.rbuf.getD (c.ri + 1) 0) ≠ 126 := by omega
    have h127 : len7 (c.rbuf.getD (c.ri + 1) 0) ≠ 127 := by omega
    simp only [Nat.cast_nonneg, true_and, h126, h127, if_false, Nat.zero_add,
      show ((len7 (c.rbuf.getD (c.ri + 1) 0) : Int) ≤ 125) by omega, if_true, Nat.cast_eq_zero]
  · rcases Nat.lt_or_ge (len7 (c.rbuf.getD (c.ri + 1) 0)) 127 with h2 | h2
    · have h126 : len7 (c.rbuf.getD (c.ri + 1) 0) = 126 := by omega
      simp only [h126]
      split <;> simp_all [Nat.add_comm]
    · have h127 : len7 (c.rbuf.getD (c.ri + 1) 0) = 127 := by omega
      simp only [h127]
      split <;> simp_all [Nat.add_comm]

end Reader

/-! ## A header on the wire -/

/-- A frame header as RFC 6455 lays it out: the first byte, the byte with the mask bit and the
7-bit length, the extended length (two bytes when the 7-bit length is 126, eight when it is
127) and the mask key (four bytes when the mask bit is set). -/
structure WireHeader where
  b0 : UInt8
  b1 : UInt8
  ext : Bytes
  key : Bytes
  ext_length : ext.length = if len7 b1 = 126 then 2 else if len7 b1 = 127 then 8 else 0
  key_length : key.length = if masked b1 then 4 else 0

namespace WireHeader

variable (H : WireHeader)

/-- The header's bytes. -/
def bytes : Bytes := H.b0 :: H.b1 :: (H.ext ++ H.key)

/-- `hdrLen`: how many bytes the header takes. -/
def hdrLen : Nat := 2 + H.ext.length + H.key.length

/-- The payload length the header encodes. -/
def payloadLength : Nat :=
  if len7 H.b1 = 126 then bigEndianUint16 H.ext
  else if len7 H.b1 = 127 then bigEndianUint64 H.ext
  else len7 H.b1

/-- The header of an empty unmasked frame: 7-bit length 0, mask bit clear. -/
def zeroUnmasked : Bool := len7 H.b1 == 0 && !masked H.b1

/-- The header the code decodes from `H`, starting from the scratch header `rh`. -/
def decoded (rh : FrameHeader) : FrameHeader :=
  { Reader.started rh H.b0 H.b1 with
    payloadLen :=
      if len7 H.b1 = 126 then bigEndianUint16 H.ext
      else if len7 H.b1 = 127 then int64OfUint64 (bigEndianUint64 H.ext)
      else len7 H.b1
    maskKey := if masked H.b1 then littleEndianUint32 H.key else rh.maskKey }

theorem extAndMaskLen_eq : Reader.extAndMaskLen H.b1 = H.ext.length + H.key.length := by
  rw [H.ext_length, H.key_length, Reader.extAndMaskLen]

theorem bytes_length : H.bytes.length = H.hdrLen := by
  simp [bytes, hdrLen]; omega

theorem take_bytes (rest : Bytes) (k : Nat) :
    (H.bytes ++ rest).take (k + 2) = H.b0 :: H.b1 :: ((H.ext ++ H.key) ++ rest).take k := by
  simp [bytes]

end WireHeader

namespace Reader

/-- **The second step.** With the extended length and the mask key of `H` buffered at `ri`,
`frameStateHeaderPayloadAndMask` decodes them and moves to `frameStatePayload`; `ri` stays. -/
theorem readExtAndMask_header {c : Reader} (H : WireHeader) (rh : FrameHeader)
    (hrh : c.rh = started rh H.b0 H.b1) (hh : c.haveSize = H.ext.length + H.key.length)
    (hw : (c.rbuf.drop c.ri).take c.haveSize = H.ext ++ H.key)
    (hl : c.haveSize ≤ c.rbuf.length - c.ri) :
    readExtAndMask c = ({ c with rh := H.decoded rh, curState := .payload }, none) := by
  have hn : ¬ c.rbuf.length - c.ri < c.haveSize := by omega
  have hext := H.ext_length
  simp only [readExtAndMask, hn, if_false, hw, hrh, started, WireHeader.decoded]
  by_cases h126 : len7 H.b1 = 126
  · rw [if_pos h126] at hext
    simp [h126, bigEndianUint16, List.take_append_of_le_length (le_of_eq hext.symm),
      List.drop_left' hext]
  · by_cases h127 : len7 H.b1 = 127
    · rw [if_neg h126, if_pos h127] at hext
      simp [h127, bigEndianUint64, List.take_append_of_le_length (le_of_eq hext.symm),
        List.drop_left' hext]
    · rw [if_neg h126, if_neg h127, List.length_eq_zero] at hext
      simp [h126, h127, hext, show (len7 H.b1 : Int) ≠ 126 by omega,
        show (len7 H.b1 : Int) ≠ 127 by omega]

/-! ## Feeding a header in chunks -/

/-- Appends a chunk to `rbuf` and calls `readHeader`, as the read path does after each read. -/
def feed (c : Reader) (chunk : Bytes) : Reader × Option GoError :=
  readHeader { c with rbuf := c.rbuf ++ chunk }

/-- Feeds the chunks one at a time: the last state, and what each call of `readHeader`
returned. -/
def feedAll (c : Reader) : List Bytes → Reader × List (Option GoError)
  | [] => (c, [])
  | ch :: chs =>
    let r := feed c ch
    let rs := feedAll r.1 chs
    (rs.1, r.2 :: rs.2)

/-- Where the parser stands, with buffer `buf`, once `m` bytes of a stream starting with `H`
have arrived, `c` being where it started. -/
def phase (c : Reader) (H : WireHeader) (buf : Bytes) (m : Nat) : Reader :=
  if m < 2 then { c with rbuf := buf }
  else if H.zeroUnmasked then { c with rbuf := buf, rh := started c.rh H.b0 H.b1 }
  else if m < H.hdrLen then toSecond { c with rbuf := buf } H.b0 H.b1
  else { toSecond { c with rbuf := buf } H.b0 H.b1 with rh := H.decoded c.rh, curState := .payload }

@[simp] theorem toSecond_rbuf (c : Reader) (b0 b1 : UInt8) : (toSecond c b0 b1).rbuf = c.rbuf := rfl
@[simp] theorem toSecond_ri (c : Reader) (b0 b1 : UInt8) : (toSecond c b0 b1).ri = c.ri + 2 := rfl
@[simp] theorem toSecond_curState (c : Reader) (b0 b1 : UInt8) :
    (toSecond c b0 b1).curState = .headerPayloadAndMask := rfl
@[simp] theorem toSecond_haveSize (c : Reader) (b0 b1 : UInt8) :
    (toSecond c b0 b1).haveSize = extAndMaskLen b1 := rfl
@[simp] theorem toSecond_rh (c : Reader) (b0 b1 : UInt8) :
    (toSecond c b0 b1).rh = started c.rh b0 b1 := rfl

section Phase

variable {c : Reader} (H : WireHeader) (buf : Bytes) {m : Nat}

theorem phase_lt_two (h : m < 2) : phase c H buf m = { c with rbuf := buf } := by
  simp [phase, h]

theorem phase_zero (h : 2 ≤ m) (hz : H.zeroUnmasked = true) :
    phase c H buf m = { c with rbuf := buf, rh := started c.rh H.b0 H.b1 } := by
  simp [phase, hz, show ¬ m < 2 by omega]

theorem phase_second (h : 2 ≤ m) (hz : H.zeroUnmasked = false) (hl : m < H.hdrLen) :
    phase c H buf m = toSecond { c with rbuf := buf } H.b0 H.b1 := by
  simp [phase, hz, hl, show ¬ m < 2 by omega]

theorem phase_done (h : 2 ≤ m) (hz : H.zeroUnmasked = false) (hl : H.hdrLen ≤ m) :
    phase c H buf m =
      { toSecond { c with rbuf := buf } H.b0 H.b1 with rh := H.decoded c.rh, curState := .payload } := by
  simp [phase, hz, show ¬ m < H.hdrLen by omega, show ¬ m < 2 by omega]

@[simp] theorem phase_rbuf (buf' : Bytes) (m : Nat) :
    { phase c H buf m with rbuf := buf' } = phase c H buf' m := by
  unfold phase; split_ifs <;> rfl

@[simp] theorem rbuf_phase (m : Nat) : (phase c H buf m).rbuf = buf := by
  unfold phase; split_ifs <;> rfl

variable (rest : Bytes) (hs : c.curState = .headerStart) (hri : c.ri = c.rbuf.length)

include hri in
theorem length_buf (hm : m ≤ (H.bytes ++ rest).length) :
    (c.rbuf ++ (H.bytes ++ rest).take m).length - c.ri = m := by
  rw [List.length_append, List.length_take, Nat.min_eq_left hm, hri]; omega

include hri in
theorem getD_buf (k : Nat) :
    (c.rbuf ++ (H.bytes ++ rest).take (k + 2)).getD c.ri 0 = H.b0 ∧
      (c.rbuf ++ (H.bytes ++ rest).take (k + 2)).getD (c.ri + 1) 0 = H.b1 := by
  rw [hri, List.getD_eq_getElem?_getD, List.getD_eq_getElem?_getD,
    List.getElem?_append_right le_rfl, List.getElem?_append_right (by omega), Nat.sub_self,
    Nat.add_sub_cancel_left, H.take_bytes]
  exact ⟨by simp, by simp⟩

include hri in
theorem window_buf (hm : H.hdrLen ≤ m) :
    ((c.rbuf ++ (H.bytes ++ rest).take m).drop (c.ri + 2)).take (H.ext.length + H.key.length) =
      H.ext ++ H.key := by
  obtain ⟨k, rfl⟩ : ∃ k, m = k + 2 := ⟨m - 2, by unfold WireHeader.hdrLen at hm; omega⟩
  have hk : H.ext.length + H.key.length ≤ k := by unfold WireHeader.hdrLen at hm; omega
  rw [H.take_bytes, hri, List.drop_append]
  show List.take _ (List.take k (H.ext ++ H.key ++ rest)) = _
  rw [List.take_take, Nat.min_eq_left hk, ← List.length_append, List.take_left' rfl]

include hri in
theorem readExtAndMask_phase (hz : H.zeroUnmasked = false) (h2 : 2 ≤ m)
    (hm : m ≤ (H.bytes ++ rest).length) :
    readExtAndMask (toSecond { c with rbuf := c.rbuf ++ (H.bytes ++ rest).take m } H.b0 H.b1) =
      (phase c H (c.rbuf ++ (H.bytes ++ rest).take m) m, none) := by
  have hlen := length_buf H rest hri hm
  have hsz := H.extAndMaskLen_eq
  by_cases hl : m < H.hdrLen
  · rw [phase_second H _ h2 hz hl, readExtAndMask_wait]
    simp only [toSecond_rbuf, toSecond_ri, toSecond_haveSize]
    unfold WireHeader.hdrLen at hl; omega
  · rw [phase_done H _ h2 hz (by omega), readExtAndMask_header H c.rh rfl hsz]
    · simp only [toSecond_rbuf, toSecond_ri, toSecond_haveSize, hsz]
      exact window_buf H rest hri (by omega)
    · simp only [toSecond_rbuf, toSecond_ri, toSecond_haveSize]
      unfold WireHeader.hdrLen at hl; omega

include hs hri in
theorem readHeader_phase {m' : Nat} (hm : m ≤ m') (hm' : m' ≤ (H.bytes ++ rest).length) :
    readHeader (phase c H (c.rbuf ++ (H.bytes ++ rest).take m') m) =
      (phase c H (c.rbuf ++ (H.bytes ++ rest).take m') m', none) := by
  have hlen := length_buf H rest hri hm'
  by_cases h2' : m' < 2
  · -- nothing but the start state before two bytes have arrived
    rw [phase_lt_two H _ h2', phase_lt_two H _ (by omega)]
    exact readHeader_start_wait hs (by simpa using hlen.trans_lt h2')
  obtain ⟨k, rfl⟩ : ∃ k, m' = k + 2 := ⟨m' - 2, by omega⟩
  obtain ⟨hb0, hb1⟩ := getD_buf H rest hri k
  have h2 : 2 ≤ (c.rbuf ++ (H.bytes ++ rest).take (k + 2)).length - c.ri := by omega
  cases hz : H.zeroUnmasked
  · have hz' : ¬ (len7 H.b1 = 0 ∧ masked H.b1 = false) := by
      simpa [WireHeader.zeroUnmasked] using hz
    by_cases hm2 : m < 2
    · -- the first two bytes arrive now
      rw [phase_lt_two H _ hm2,
        readHeader_start (c := { c with rbuf := c.rbuf ++ (H.bytes ++ rest).take (k + 2) }) hs h2]
      simp only [hb0, hb1, hz', if_false]
      exact readExtAndMask_phase H rest hri hz (by omega) hm'
    · by_cases hl : m < H.hdrLen
      · -- waiting for the extended length and the mask key
        rw [phase_second H _ (by omega) hz hl]
        exact readExtAndMask_phase H rest hri hz (by omega) hm'
      · -- the header is complete: the parser waits for the payload
        rw [phase_done H _ (by omega) hz (by omega), phase_done H _ (by omega) hz (by omega)]
        exact readHeader_payload rfl
  · -- the empty unmasked header: decoded again on every call, never left
    have hz' : len7 H.b1 = 0 ∧ masked H.b1 = false := by
      simpa [WireHeader.zeroUnmasked] using hz
    rw [phase_zero (m := k + 2) H _ (by omega) hz]
    by_cases hm2 : m < 2
    · rw [phase_lt_two H _ hm2,
        readHeader_start (c := { c with rbuf := c.rbuf ++ (H.bytes ++ rest).take (k + 2) }) hs h2]
      simp only [hb0, hb1, hz', and_self, if_true]
    · rw [phase_zero (m := m) H _ (by omega) hz, readHeader_start (c := { c with
        rbuf := c.rbuf ++ (H.bytes ++ rest).take (k + 2), rh := started c.rh H.b0 H.b1 }) hs h2]
      simp only [hb0, hb1, hz', and_self, if_true]
      rfl

end Phase

theorem feedAll_phase {c : Reader} (H : WireHeader) (rest : Bytes)
    (hs : c.curState = .headerStart) (hri : c.ri = c.rbuf.length) :
    ∀ (chunks : List Bytes) (m : Nat), m ≤ (H.bytes ++ rest).length →
      (H.bytes ++ rest).take m ++ chunks.flatten <+: H.bytes ++ rest →
      feedAll (phase c H (c.rbuf ++ (H.bytes ++ rest).take m) m) chunks =
        (phase c H (c.rbuf ++ (H.bytes ++ rest).take (m + chunks.flatten.length))
          (m + chunks.flatten.length), chunks.map fun _ => none)
  | [], m, _, _ => by simp [feedAll]
  | ch :: chs, m, hm, hp => by
    have hp2 : (H.bytes ++ rest).take m ++ ch ++ chs.flatten <+: H.bytes ++ rest := by
      rw [List.append_assoc, ← List.flatten_cons]; exact hp
    have hlen : m + ch.length + chs.flatten.length ≤ (H.bytes ++ rest).length := by
      have h1 := hp2.length_le
      rw [List.length_append, List.length_append, List.length_take] at h1
      omega
    have hbuf : (H.bytes ++ rest).take m ++ ch = (H.bytes ++ rest).take (m + ch.length) := by
      have h := List.prefix_iff_eq_take.mp ((List.prefix_append _ chs.flatten).trans hp2)
      rw [h, List.length_append, List.length_take, Nat.min_eq_left hm]
    simp only [feedAll, feed, phase_rbuf, rbuf_phase, List.append_assoc, hbuf]
    rw [readHeader_phase H rest hs hri (Nat.le_add_right _ _) (by omega)]
    have ih := feedAll_phase H rest hs hri chs (m + ch.length) (by omega) (by
      rw [← hbuf, List.append_assoc, ← List.flatten_cons]; exact hp)
    simp only [ih, List.flatten_cons, List.length_append, Nat.add_assoc, List.map_cons]

/-- **Every partition ends alike.** Feeding `c` chunks that carry a prefix of a stream starting
with `H`, no call fails, and the parser ends where `phase` puts it for the number of bytes fed:
the partition itself does not matter. -/
theorem feedAll_eq {c : Reader} (H : WireHeader) (rest : Bytes) (hs : c.curState = .headerStart)
    (hri : c.ri = c.rbuf.length) {chunks : List Bytes} (hp : chunks.flatten <+: H.bytes ++ rest) :
    feedAll c chunks =
      (phase c H (c.rbuf ++ chunks.flatten) chunks.flatten.length, chunks.map fun _ => none) := by
  have h := feedAll_phase H rest hs hri chunks 0 (Nat.zero_le _) (by simpa using hp)
  have h0 : phase c H (c.rbuf ++ (H.bytes ++ rest).take 0) 0 = c := by
    rw [phase_lt_two H _ (by decide)]; simp
  rwa [h0, Nat.zero_add, ← List.prefix_iff_eq_take.mp hp] at h

/-- **A header other than the empty unmasked one.** Once all its bytes have arrived, however
they were split, the parser waits in `frameStatePayload` with the opcode, the mask bit, the
payload length and the mask key of `H` in `rh`, and no call has failed; but `ri` has moved past
the first two bytes only, not past the extended length and the mask key. -/
theorem feedAll_parses {c : Reader} (H : WireHeader) (rest : Bytes) (hs : c.curState = .headerStart)
    (hri : c.ri = c.rbuf.length) (hz : H.zeroUnmasked = false) {chunks : List Bytes}
    (hp : chunks.flatten <+: H.bytes ++ rest) (hl : H.hdrLen ≤ chunks.flatten.length)
    (htop : len7 H.b1 = 127 → H.ext.getD 0 0 < 0x80) :
    (feedAll c chunks).2 = chunks.map (fun _ => none) ∧
      (feedAll c chunks).1.curState = .payload ∧ (feedAll c chunks).1.ri = c.ri + 2 ∧
      (feedAll c chunks).1.rh.opcode = (H.b0 &&& 0xF).toNat ∧
      (feedAll c chunks).1.rh.mask = masked H.b1 ∧
      (feedAll c chunks).1.rh.payloadLen = H.payloadLength ∧
      (masked H.b1 = true → (feedAll c chunks).1.rh.maskKey = littleEndianUint32 H.key) := by
  have h2 : 2 ≤ chunks.flatten.length := by unfold WireHeader.hdrLen at hl; omega
  rw [feedAll_eq H rest hs hri hp, phase_done H _ h2 hz hl]
  refine ⟨rfl, rfl, rfl, rfl, rfl, ?_, fun hm => by simp [WireHeader.decoded, hm]⟩
  have hext := H.ext_length
  simp only [WireHeader.decoded, WireHeader.payloadLength]
  split_ifs with h126 h127
  · rfl
  · rw [if_neg h126, if_pos h127] at hext
    exact int64OfUint64_of_lt (bigEndianUint64_lt hext (htop h127))
  · rfl

/-- **The top bit of the 8-byte length is not rejected.** For every header other than the empty
unmasked one, however its bytes are split, every call returns nil, and the payload length left
in `rh` lies in `[0, 2 ^ 63 - 1]` exactly when the header is not an 8-byte length with its top
bit set: `int64(binary.BigEndian.Uint64(...))` wraps such a length to a negative one. -/
theorem feedAll_payloadLen_range {c : Reader} (H : WireHeader) (rest : Bytes)
    (hs : c.curState = .headerStart) (hri : c.ri = c.rbuf.length) (hz : H.zeroUnmasked = false)
    {chunks : List Bytes} (hp : chunks.flatten <+: H.bytes ++ rest)
    (hl : H.hdrLen ≤ chunks.flatten.length) :
    (feedAll c chunks).2 = chunks.map (fun _ => none) ∧
      (0 ≤ (feedAll c chunks).1.rh.payloadLen ∧ (feedAll c chunks).1.rh.payloadLen ≤ 2 ^ 63 - 1 ↔
        ¬ (len7 H.b1 = 127 ∧ 0x80 ≤ H.ext.getD 0 0)) := by
  have h2 : 2 ≤ chunks.flatten.length := by unfold WireHeader.hdrLen at hl; omega
  rw [feedAll_eq H rest hs hri hp, phase_done H _ h2 hz hl]
  refine ⟨rfl, ?_⟩
  have hext := H.ext_length
  simp only [WireHeader.decoded]
  split_ifs with h126 h127
  -- a 16-bit length
  · rw [if_pos h126] at hext
    have hlt := bigEndian_lt H.ext
    rw [hext] at hlt
    rw [bigEndianUint16, List.take_of_length_le (le_of_eq hext)]
    simp only [h126, false_and, not_false_eq_true, iff_true]
    omega
  -- a 64-bit length: in range exactly when its top bit is clear
  · rw [if_neg h126, if_pos h127] at hext
    simp only [h127, true_and]
    by_cases htop : 0x80 ≤ H.ext.getD 0 0
    · obtain ⟨hge, hlt⟩ := bigEndianUint64_top hext htop
      have := int64OfUint64_neg hge hlt
      simp only [htop, not_true_eq_false, iff_false, not_and]
      omega
    · have hlt : H.ext.getD 0 0 < 0x80 := Nat.lt_of_not_le htop
      rw [int64OfUint64_of_lt (bigEndianUint64_lt hext hlt)]
      have := bigEndianUint64_lt hext hlt
      simp only [htop, not_false_eq_true, iff_true]
      omega
  -- a 7-bit length
  · have := len7_le H.b1
    simp only [h127, false_and, not_false_eq_true, iff_true]
    omega

/-- The header `0x82 0x7F` with the 8-byte length `0x80 00 … 00`, in two chunks: both calls
return nil, and the payload length is `-2 ^ 63`. -/
theorem feedAll_payloadLen_range_top :
    let c : Reader := ⟨[], 0, .headerStart, 0, ⟨0, 0, 0, false, 0⟩⟩
    let chunks : List Bytes := [[0x82, 0x7F], [0x80, 0, 0, 0, 0, 0, 0, 0]]
    (feedAll c chunks).2 = [none, none] ∧ (feedAll c chunks).1.rh.payloadLen = -2 ^ 63 ∧
      ¬ (0 ≤ (feedAll c chunks).1.rh.payloadLen ∧ (feedAll c chunks).1.rh.payloadLen ≤ 2 ^ 63 - 1) :=
  let H : WireHeader := ⟨0x82, 0x7F, [0x80, 0, 0, 0, 0, 0, 0, 0], [], rfl, rfl⟩
  have h := @feedAll_payloadLen_range ⟨[], 0, .headerStart, 0, ⟨0, 0, 0, false, 0⟩⟩ H [] rfl rfl
    (by decide) [[0x82, 0x7F], [0x80, 0, 0, 0, 0, 0, 0, 0]] (by decide) (by decide)
  ⟨h.1, by decide, fun hr => h.2.mp hr ⟨by decide, by decide⟩⟩

example : let r := (feedAll ⟨[], 0, .headerStart, 0, ⟨0, 0, 0, false, 0⟩⟩
      [[0x81], [0x85, 0x37], [0xFA, 0x21, 0x3D]])
    r.1.curState = .payload ∧ r.1.rh.opcode = 1 ∧ r.1.rh.payloadLen = 5 ∧
      r.1.rh.maskKey = littleEndianUint32 [0x37, 0xFA, 0x21, 0x3D] := by decide

/-- **The empty unmasked header.** Whatever the partition, the parser decodes the two bytes and
stays in `frameStateHeaderStart` with `ri` where it was: the header is never consumed. -/
theorem feedAll_stalls {c : Reader} (H : WireHeader) (rest : Bytes) (hs : c.curState = .headerStart)
    (hri : c.ri = c.rbuf.length) (hz : H.zeroUnmasked = true) {chunks : List Bytes}
    (hp : chunks.flatten <+: H.bytes ++ rest) :
    (feedAll c chunks).2 = chunks.map (fun _ => none) ∧
      (feedAll c chunks).1.curState = .headerStart ∧ (feedAll c chunks).1.ri = c.ri := by
  rw [feedAll_eq H rest hs hri hp]
  refine ⟨rfl, ?_⟩
  unfold phase; split_ifs <;> exact ⟨hs, rfl⟩

/-- The empty unmasked Ping `0x89 0x00` leaves the parser in `frameStateHeaderStart` at
`ri = 0`, and the masked header `0x81 0x85` with its key leaves it in `frameStatePayload` at
`ri = 2` rather than 6, the first payload byte. -/
theorem feedAll_misses_header_end :
    let c : Reader := ⟨[], 0, .headerStart, 0, ⟨0, 0, 0, false, 0⟩⟩
    (feedAll c [[0x89, 0x00]]).1.curState = .headerStart ∧ (feedAll c [[0x89, 0x00]]).1.ri = 0 ∧
      (feedAll c [[0x81, 0x85, 0x37, 0xFA, 0x21, 0x3D]]).1.curState = .payload ∧
      (feedAll c [[0x81, 0x85, 0x37, 0xFA, 0x21, 0x3D]]).1.ri = 2 := by
  intro c
  have hping := @feedAll_stalls c ⟨0x89, 0x00, [], [], rfl, rfl⟩ [] rfl rfl rfl [[0x89, 0x00]]
    ⟨[], rfl⟩
  have htext := @feedAll_parses c ⟨0x81, 0x85, [], [0x37, 0xFA, 0x21, 0x3D], rfl, rfl⟩ [] rfl rfl
    rfl [[0x81, 0x85, 0x37, 0xFA, 0x21, 0x3D]] ⟨[], rfl⟩ (WireHeader.bytes_length _).ge (by decide)
  exact ⟨hping.2.1, hping.2.2, htext.2.1, htext.2.2.1⟩

end Reader

end Greatws
