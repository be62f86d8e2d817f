import Greatws.Frame.Callback
import Greatws.Write.Buffer

/-!
# `WriteMessage` and the write path of `bigws`

`conn.go` writes a message by building one final frame and handing it to `frame.WriteFrame`,
which writes it into the embedded `conn` through `conn.Write`; bytes the socket defers wait in
`wbuf` for `flushOrClose`. Unlike `writeOrAddPoll` of `conn_unix.go`, this path slices with the
count `unix.Write` reports, which is `-1` when the call fails.

* `Bigws.write_slices_count`: `conn.Write` and `flushOrClose` panic on the `-1` of an EAGAIN,
  a short write that succeeds drops the rest of the bytes, and a flush the socket takes in full
  keeps them in `wbuf`;
* `writeMessage_delivers`: the frame `WriteMessage` hands over for a Text or Binary message, as
  the peer's dispatcher receives it, delivers the message once and closes nothing, when the
  sender's compression flag is the receiver's decompression flag.
-/

namespace Greatws

namespace Bigws

/-- The fields of `bigws`'s `Conn` its write path touches, with the bytes its socket took. -/
structure Conn where
  wbuf : Bytes
  /-- The bytes the socket has taken so far, in order. -/
  sent : Bytes
  /-- `closed`, set when `flushOrClose` closes the fd. -/
  closed : Bool
  deriving DecidableEq, Repr

namespace Conn

/-- `conn.Write` (lines 77-97), on the socket's answer `a`. The unsent bytes are copied from
`b[n:]`, with `n` the count `unix.Write` reported. -/
def write (a : SockAnswer) (c : Conn) (b : Bytes) : Except GoPanic (Conn × Int × Option GoError) :=
  let curN := b.length
  let merged := decide (0 < c.wbuf.length)
  let c := if merged then { c with wbuf := c.wbuf ++ b } else c
  let b := if merged then c.wbuf else b
  let c := { c with sent := c.sent ++ a.taken b }
  match a.unixWrite b with
  | (n, some e) =>
    if e.isRetry then do
      let rest ← sliceFrom b n
      pure ({ c with wbuf := rest }, curN, none)
    else pure (c, n, some (.errno e))
  | (n, none) => pure (c, n, none)

/-- `Conn.flushOrClose` (lines 380-395): `copy(wbuf, wbuf[n:])` and `wbuf[:len(wbuf)-n]` keep
the bytes from `n` on; a fatal error closes the fd. -/
def flushOrClose (a : SockAnswer) (c : Conn) : Except GoPanic Conn :=
  let c' := { c with sent := c.sent ++ a.taken c.wbuf }
  match a.unixWrite c.wbuf with
  | (n, some e) =>
    if e.isRetry then do
      let rest ← sliceFrom c.wbuf n
      pure { c' with wbuf := rest }
    else pure { c' with closed := true }
  | (_, none) => pure c'

end Conn

/-- **The write path slices with the reported count.** An EAGAIN reports `-1`, and `b[n:]` in
`conn.Write` and `wbuf[n:]` in `flushOrClose` panic on it; a write of two bytes that the socket
takes one of returns with the second byte neither sent nor in `wbuf`; and a flush the socket
takes in full leaves its bytes in `wbuf` to be sent again. -/
theorem write_slices_count :
    Conn.write (.fail .eagain) ⟨[], [], false⟩ [0x81] = .error (.sliceBoundsOutOfRange (-1) 1) ∧
    Conn.flushOrClose (.fail .eagain) ⟨[0x81], [], false⟩ =
      .error (.sliceBoundsOutOfRange (-1) 1) ∧
    Conn.write (.accept 1) ⟨[], [], false⟩ [0x81, 0x00] = .ok (⟨[], [0x81], false⟩, 1, none) ∧
    Conn.flushOrClose (.accept 2) ⟨[0x81, 0x00], [], false⟩ =
      .ok ⟨[0x81, 0x00], [0x81, 0x00], false⟩ :=
  ⟨rfl, rfl, rfl, rfl⟩

end Bigws

/-! ## `WriteMessage` -/

/-- What `WriteMessage` hands to `frame.WriteFrame`: the payload and the header's fields. -/
structure WireFrame where
  payload : Bytes
  fin : Bool
  rsv1 : Bool
  isMask : Bool
  code : Nat
  maskValue : UInt32
  deriving DecidableEq, Repr

/-- `Conn.WriteMessage` (lines 405-439), up to the frame it hands to `frame.WriteFrame`, from
the sender's configuration, whether it is a client, whether it is closed, and the
`rand.Uint32()` a client draws. -/
def writeMessage (cfg : Config) (codec : Codec) (client closed : Bool) (random : UInt32) (op : Nat)
    (writeBuf : Bytes) : Except GoError WireFrame := do
  if closed then throw .closed
  if op = Opcode.text ∧ !cfg.utf8Check writeBuf then throw .textNotUTF8
  let rsv1 := cfg.compression && (decide (op = Opcode.text) || decide (op = Opcode.binary))
  let writeBuf ← if rsv1 then codec.deflate writeBuf else pure writeBuf
  let maskValue : UInt32 := if client then random else 0
  pure ⟨writeBuf, true, rsv1, client, op, maskValue⟩

/-- Modelled from the spec: `frame.WriteFrame` is not in the sources. It writes FIN, RSV1 and
the opcode into a frame's first byte, with RSV2 and RSV3 clear. -/
def frameHead (fin rsv1 : Bool) (code : Nat) : UInt8 :=
  (if fin then 0x80 else 0) ||| (if rsv1 then 0x40 else 0) ||| UInt8.ofNat code

theorem frameHead_bits (fin rsv1 : Bool) {code : Nat}
    (hop : code = Opcode.text ∨ code = Opcode.binary) :
    let h : FrameHeader := ⟨0, code, 0, false, frameHead fin rsv1 code⟩
    h.getFin = fin ∧ h.getRsv1 = rsv1 ∧ h.getRsv2 = false ∧ h.getRsv3 = false := by
  simp only [Opcode.text, Opcode.binary] at hop
  cases fin <;> cases rsv1 <;> rcases hop with rfl | rfl <;> decide

/-- The frame the peer's `processCallback` gets for `wf`, unmasked. -/
def WireFrame.received (wf : WireFrame) : Frame :=
  ⟨⟨wf.payload.length, wf.code, 0, false, frameHead wf.fin wf.rsv1 wf.code⟩, wf.payload, rfl⟩

/-- **A message arrives as it was sent.** For a Text or Binary message `m`, valid UTF-8 if
Text, from a connection that is not closed to a peer with no fragmented message in progress,
whose decompression flag is the sender's compression flag, and a codec whose inflate undoes
its deflate: `WriteMessage` hands over one final frame with RSV1 set exactly when the sender
compresses, and the peer's `processCallback` on it returns nil, invokes `OnMessage(op, m)` once
and nothing else, and leaves its state as it was. -/
theorem writeMessage_delivers {sender receiver : Config} {codec : Codec}
    {wm : Nat → Bytes → Option GoError} {client : Bool} {random : UInt32} {op : Nat} {m : Bytes}
    {c : Fragments}
    (hcodec : ∀ x, ∃ y, codec.deflate x = .ok y ∧ codec.inflate y = .ok x)
    (hcomp : sender.compression = receiver.decompression)
    (hop : op = Opcode.text ∨ op = Opcode.binary) (hu : op = Opcode.text → utf8Valid m = true)
    (hc : c.fragmentFrameHeader = none) :
    ∃ wf, writeMessage sender codec client false random op m = .ok wf ∧ wf.fin = true ∧
      wf.rsv1 = sender.compression ∧ wf.code = op ∧
      processCallback receiver codec wm c wf.received = ⟨c, [.onMessage op m], none⟩ := by
  have hcheck (cfg : Config) : ¬ (op = Opcode.text ∧ cfg.utf8Check m = false) := fun ⟨ht, hf⟩ => by
    simp [Config.utf8Check_of_valid cfg (hu ht)] at hf
  -- the frame on the wire, compressed or not
  obtain ⟨y, hy⟩ : ∃ y, (if sender.compression then codec.deflate m else pure m) = .ok y ∧
      inflateIf codec (sender.compression && receiver.decompression) y = .ok m := by
    cases hs : sender.compression
    · exact ⟨m, rfl, rfl⟩
    · obtain ⟨y, hd, hi⟩ := hcodec m
      exact ⟨y, hd, by simpa [← hcomp, hs, inflateIf, decode] using hi⟩
  let wf : WireFrame := ⟨y, true, sender.compression, client, op, if client then random else 0⟩
  have hw : writeMessage sender codec client false random op m = .ok wf := by
    have hck : ¬ (op = 1 ∧ sender.utf8Check m = false) := hcheck sender
    have hd : op = 1 ∨ op = 2 := hop
    have hy₁ := hy.1
    cases hs : sender.compression <;> simp only [hs, if_true, if_false, Bool.false_eq_true] at hy₁ <;>
      simp [writeMessage, hs, hd, hck, hy₁, wf]
  obtain ⟨hfin, hrsv1, hrsv2, hrsv3⟩ : wf.received.header.getFin = true ∧
      wf.received.header.getRsv1 = sender.compression ∧ wf.received.header.getRsv2 = false ∧
      wf.received.header.getRsv3 = false := frameHead_bits true sender.compression hop
  have hdone : Completes receiver codec c wf.received op m :=
    .single hc hop hfin hrsv2 hrsv3 (by rw [hrsv1, hcomp]; exact id) (by rw [hrsv1]; exact hy.2)
  refine ⟨wf, hw, rfl, rfl, rfl, ?_⟩
  rw [processCallback_completes hdone, if_neg (hcheck receiver), hc]

/-- A Text message sent uncompressed by a server. -/
theorem writeMessage_delivers_text :
    ∃ wf, writeMessage ⟨false, false, false, false, true⟩ ⟨.ok, .ok⟩ false false 0 Opcode.text [0x68] =
        .ok wf ∧ wf.fin = true ∧ wf.rsv1 = false ∧ wf.code = Opcode.text ∧
      processCallback ⟨false, false, false, false, true⟩ ⟨.ok, .ok⟩ (fun _ _ => none) .init
        wf.received = ⟨.init, [.onMessage Opcode.text [0x68]], none⟩ :=
  @writeMessage_delivers _ _ _ _ false 0 _ _ _ (fun x => ⟨x, rfl, rfl⟩) rfl (.inl rfl)
    (fun _ => by decide) rfl

end Greatws
