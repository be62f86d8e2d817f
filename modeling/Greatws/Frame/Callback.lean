import Greatws.Frame.Header

/-!
# The dispatcher

`Conn.processCallback` of the `bigws` connection takes one complete frame, applies the
protocol policy of the spec's section 4.5, reassembles fragmented messages in
`fragmentFrameHeader` and `fragmentFramePayload`, and invokes the user callbacks.

It is modelled as a function from the dispatcher's state and a frame to an `Outcome`: the new
state, what it did in order (`Event`: the callbacks it invoked and the frames it handed to
`WriteTimeout`), and the error it returned. What `WriteMessage` answers for a frame, and the
deflate codec, are parameters. The Go function falls through four blocks; each is a definition
of its own:

* `processContinuation`: a non-control frame while a fragmented message is in progress;
* `processData`: a Text or Binary frame;
* `processControl` and `processClose`: a Close, Ping or Pong frame;
* any other opcode is rejected with `ErrOpcode`.

`Completes` says when a frame completes a data message, and `processCallback_completes` gives
the two outcomes. `processCallback_control` says what a final control frame does in every
state: the fragmented message stays, and a Ping or Pong whose reply is not written reaches
`OnMessage` without its payload. `processCallback_rejects` shows that every frame the policy
forbids is answered by one Close frame with status 1002.
-/

namespace Greatws

/-- `frame.Frame`: a decoded header and its unmasked payload, of the length the header gives. -/
structure Frame where
  header : FrameHeader
  payload : Bytes
  payloadLen_eq : header.payloadLen = payload.length

/-- What the dispatcher does that is seen outside it: the callbacks it invokes, and the frames
it hands to `WriteTimeout` (that is, to `WriteMessage`). -/
inductive Event where
  | onMessage (op : Nat) (payload : Bytes)
  | onClose (err : Option GoError)
  | write (op : Nat) (payload : Bytes)
  deriving DecidableEq, Repr

/-- The permessage-deflate codec with no context takeover (`compressNoContextTakeover` and
`decompressNoContextTakeover`, outside the sources): a payload compressed, or inflated, and read
to its end. -/
structure Codec where
  deflate : Bytes → Except GoError Bytes
  inflate : Bytes → Except GoError Bytes

/-- `decode`: inflate a payload. -/
def decode (codec : Codec) (payload : Bytes) : Except GoError Bytes := codec.inflate payload

/-- The fields of `conn` the dispatcher owns: the fragmented message in progress. -/
structure Fragments where
  fragmentFramePayload : Bytes
  fragmentFrameHeader : Option FrameHeader

/-- No fragmented message in progress, as a connection starts. -/
def Fragments.init : Fragments := ⟨[], none⟩

/-- What one call of `processCallback` leaves: the dispatcher's state, what it did, in order,
and the error it returned. -/
structure Outcome where
  frag : Fragments
  events : List Event
  err : Option GoError

/-- `Conn.failRsv1`: RSV1 is an error unless decompression is on and the opcode is a data one. -/
def failRsv1 (cfg : Config) (op : Nat) : Bool :=
  if !cfg.decompression then true
  else if op != Opcode.text && op != Opcode.binary then true
  else false

/-- `Conn.writeErrAndOnClose`: hand a Close frame with `code` to `WriteTimeout`, then (deferred)
invoke `OnClose(userErr)`; return the write's error, or else `userErr`. -/
def writeErrAndOnClose (wm : Nat → Bytes → Option GoError) (code : StatusCode)
    (userErr : GoError) : List Event × Option GoError :=
  ([.write Opcode.close (statusCodeToBytes code), .onClose (some userErr)],
    some ((wm Opcode.close (statusCodeToBytes code)).getD userErr))

section Dispatch

variable (cfg : Config) (codec : Codec) (wm : Nat → Bytes → Option GoError)

/-- The payload a data message delivers: inflated when `compressed`. -/
def inflateIf (compressed : Bool) (payload : Bytes) : Except GoError Bytes :=
  if compressed then decode codec payload else .ok payload

/-- Lines 217-245 of `processCallback`: a non-control frame while the message `fh` is in
progress must be a Continuation; the final one is inflated, checked and delivered. -/
def processContinuation (fh : FrameHeader) (c : Fragments) (f : Frame) : Outcome :=
  if f.header.opcode = Opcode.continuation then
    let payload := c.fragmentFramePayload ++ f.payload
    if f.header.getFin then
      match inflateIf codec (fh.getRsv1 && cfg.decompression) payload with
      | .error e => ⟨{ c with fragmentFramePayload := payload }, [], some e⟩
      | .ok p =>
        if fh.opcode = Opcode.text ∧ cfg.utf8Check p = false then
          ⟨{ c with fragmentFramePayload := p }, [.onClose (some .textNotUTF8)], some .textNotUTF8⟩
        else ⟨Fragments.init, [.onMessage fh.opcode p], none⟩
    else ⟨{ c with fragmentFramePayload := payload }, [], none⟩
  else ⟨c, (writeErrAndOnClose wm protocolError .frameOpcode).1, some .frameOpcode⟩

/-- Lines 248-280: a Text or Binary frame. Without FIN it opens a fragmented message; with FIN
it is inflated when `rsv1` and decompression is on, checked, and delivered. (`c.Close()` of
this version does nothing.) -/
def processData (rsv1 : Bool) (c : Fragments) (f : Frame) : Outcome :=
  if f.header.getFin = false then
    ⟨⟨if c.fragmentFramePayload = [] then c.fragmentFramePayload ++ f.payload
        else c.fragmentFramePayload, some f.header⟩, [], none⟩
  else
    match inflateIf codec (rsv1 && cfg.decompression) f.payload with
    | .error e => ⟨c, [], some e⟩
    | .ok p =>
      if f.header.opcode = Opcode.text ∧ cfg.utf8Check p = false then
        ⟨c, [.onClose (some .textNotUTF8)], some .textNotUTF8⟩
      else ⟨c, [.onMessage f.header.opcode p], none⟩

/-- Lines 294-320: a final Close frame of at most 125 bytes. Its status code and reason are
checked, and it is echoed. -/
def processClose (c : Fragments) (f : Frame) : Outcome :=
  let ret (r : List Event × Option GoError) : Outcome := ⟨c, r.1, r.2⟩
  if f.payload.length = 0 then ret (writeErrAndOnClose wm normalClosure .closePayloadTooSmall)
  else if f.payload.length < 2 then ret (writeErrAndOnClose wm protocolError .closePayloadTooSmall)
  else if cfg.utf8Check (f.payload.drop 2) = false then
    ret (writeErrAndOnClose wm protocolError .textNotUTF8)
  else if validCode (bigEndianUint16 f.payload) = false then
    ret (writeErrAndOnClose wm protocolError .closeValue)
  else match wm Opcode.close f.payload with
    | some e => ⟨c, [.write Opcode.close f.payload], some e⟩
    | none => ⟨c, [.write Opcode.close f.payload, .onClose (some (.closeErrMsg f.payload))],
        some (.closeErrMsg f.payload)⟩

/-- Lines 282-340: a Close, Ping or Pong frame. -/
def processControl (c : Fragments) (f : Frame) : Outcome :=
  if 125 < f.header.payloadLen then
    ⟨c, (writeErrAndOnClose wm protocolError .maxControlFrameSize).1, some .maxControlFrameSize⟩
  else if f.header.getFin = false then
    ⟨c, (writeErrAndOnClose wm protocolError .notBeFragmented).1, some .notBeFragmented⟩
  else if f.header.opcode = Opcode.close then processClose cfg wm c f
  else if f.header.opcode = Opcode.ping ∧ cfg.replyPing = true then
    match wm Opcode.pong f.payload with
    | some e => ⟨c, [.write Opcode.pong f.payload, .onClose (some e)], some e⟩
    | none => ⟨c, [.write Opcode.pong f.payload, .onMessage f.header.opcode f.payload], none⟩
  else if f.header.opcode = Opcode.pong ∧ cfg.ignorePong = true then ⟨c, [], none⟩
  else ⟨c, [.onMessage f.header.opcode []], none⟩

/-- Lines 248-343: what follows the fragment block, by opcode. -/
def processFrame (rsv1 : Bool) (c : Fragments) (f : Frame) : Outcome :=
  if f.header.opcode = Opcode.text ∨ f.header.opcode = Opcode.binary then
    processData cfg codec rsv1 c f
  else if f.header.opcode = Opcode.close ∨ f.header.opcode = Opcode.ping ∨
      f.header.opcode = Opcode.pong then
    processControl cfg wm c f
  else ⟨c, (writeErrAndOnClose wm protocolError .opcode).1, some .opcode⟩

/-- The opcode the RSV1 test of `processCallback` uses: that of the message in progress, if
any, else the frame's own. -/
def messageOpcode (c : Fragments) (f : Frame) : Nat :=
  match c.fragmentFrameHeader with
  | some fh => fh.opcode
  | none => f.header.opcode

/-- The RSV test of `processCallback`. -/
def rsvFails (c : Fragments) (f : Frame) : Bool :=
  f.header.getRsv1 && failRsv1 cfg (messageOpcode c f) || f.header.getRsv2 || f.header.getRsv3

/-- `Conn.processCallback`. -/
def processCallback (c : Fragments) (f : Frame) : Outcome :=
  let rsv1 := f.header.getRsv1
  if rsvFails cfg c f then
    let r := writeErrAndOnClose wm protocolError .rsv123
    ⟨c, r.1, r.2⟩
  else match c.fragmentFrameHeader with
    | some fh =>
      if Opcode.isControl f.header.opcode = false then processContinuation cfg codec wm fh c f
      else processFrame cfg codec wm rsv1 c f
    | none => processFrame cfg codec wm rsv1 c f

/-! ## What a call does -/

variable {cfg codec wm} {c : Fragments} {f : Frame}

theorem processCallback_rsv (h : rsvFails cfg c f = true) :
    processCallback cfg codec wm c f =
      ⟨c, (writeErrAndOnClose wm protocolError .rsv123).1,
        (writeErrAndOnClose wm protocolError .rsv123).2⟩ := by
  simp [processCallback, h]

theorem processCallback_pass (h : rsvFails cfg c f = false) :
    processCallback cfg codec wm c f =
      match c.fragmentFrameHeader with
      | some fh =>
        if Opcode.isControl f.header.opcode = false then processContinuation cfg codec wm fh c f
        else processFrame cfg codec wm f.header.getRsv1 c f
      | none => processFrame cfg codec wm f.header.getRsv1 c f := by
  simp [processCallback, h]

/-- `f` completes a data message of opcode `op` whose payload, inflated when its first frame
has RSV1 and decompression is on, is `p`; its RSV bits are those the policy allows. Either `f`
is a single final Text or Binary frame, or the final Continuation of a fragmented message. -/
inductive Completes (cfg : Config) (codec : Codec) : Fragments → Frame → Nat → Bytes → Prop
  | single {c : Fragments} {f : Frame} {p : Bytes} :
      c.fragmentFrameHeader = none →
      (f.header.opcode = Opcode.text ∨ f.header.opcode = Opcode.binary) →
      f.header.getFin = true → f.header.getRsv2 = false → f.header.getRsv3 = false →
      (f.header.getRsv1 = true → cfg.decompression = true) →
      inflateIf codec (f.header.getRsv1 && cfg.decompression) f.payload = .ok p →
      Completes cfg codec c f f.header.opcode p
  | last {c : Fragments} {f : Frame} {fh : FrameHeader} {p : Bytes} :
      c.fragmentFrameHeader = some fh → (fh.opcode = Opcode.text ∨ fh.opcode = Opcode.binary) →
      f.header.opcode = Opcode.continuation →
      f.header.getFin = true → f.header.getRsv2 = false → f.header.getRsv3 = false →
      (f.header.getRsv1 = true → cfg.decompression = true) →
      inflateIf codec (fh.getRsv1 && cfg.decompression) (c.fragmentFramePayload ++ f.payload) =
        .ok p →
      Completes cfg codec c f fh.opcode p

theorem failRsv1_data {op : Nat} (hop : op = Opcode.text ∨ op = Opcode.binary)
    (hd : cfg.decompression = true) : failRsv1 cfg op = false := by
  rcases hop with rfl | rfl <;> simp [failRsv1, hd]

theorem rsvFails_data (hop : messageOpcode c f = Opcode.text ∨ messageOpcode c f = Opcode.binary)
    (h2 : f.header.getRsv2 = false) (h3 : f.header.getRsv3 = false)
    (h1 : f.header.getRsv1 = true → cfg.decompression = true) : rsvFails cfg c f = false := by
  cases hr : f.header.getRsv1
  · simp [rsvFails, hr, h2, h3]
  · simp [rsvFails, hr, h2, h3, failRsv1_data hop (h1 hr)]

/-- The outcome of a frame that completes a data message, by the configured check of its
payload: delivered with `OnMessage` when the check passes, else the connection is told
`ErrTextNotUTF8` through `OnClose` and nothing is written. -/
theorem processCallback_completes {op : Nat} {p : Bytes} (h : Completes cfg codec c f op p) :
    processCallback cfg codec wm c f =
      if op = Opcode.text ∧ cfg.utf8Check p = false then
        ⟨match c.fragmentFrameHeader with
          | some _ => { c with fragmentFramePayload := p }
          | none => c, [.onClose (some .textNotUTF8)], some .textNotUTF8⟩
      else
        ⟨match c.fragmentFrameHeader with
          | some _ => Fragments.init
          | none => c, [.onMessage op p], none⟩ := by
  cases h with
  | single hc hop hfin h2 h3 h1 hp =>
    rw [processCallback_pass (rsvFails_data (by simpa [messageOpcode, hc] using hop) h2 h3 h1), hc]
    simp only [processFrame, hop, if_true, processData, hfin, hp]
    rfl
  | last hc hop hcont hfin h2 h3 h1 hp =>
    rw [processCallback_pass (rsvFails_data (by simpa [messageOpcode, hc] using hop) h2 h3 h1)]
    simp [hc, hcont, Opcode.isControl, processContinuation, hfin, hp]

/-! ## Control frames -/

theorem processCallback_control_eq
    (hop : f.header.opcode = Opcode.close ∨ f.header.opcode = Opcode.ping ∨
      f.header.opcode = Opcode.pong)
    (h1 : f.header.getRsv1 = false) (h2 : f.header.getRsv2 = false)
    (h3 : f.header.getRsv3 = false) :
    processCallback cfg codec wm c f = processControl cfg wm c f := by
  have hctl : Opcode.isControl f.header.opcode = true := by
    rcases hop with h | h | h <;> simp [Opcode.isControl, h]
  have hframe : processFrame cfg codec wm f.header.getRsv1 c f = processControl cfg wm c f := by
    rcases hop with h | h | h <;> simp [processFrame, h]
  rw [processCallback_pass (by simp [rsvFails, h1, h2, h3])]
  cases c.fragmentFrameHeader <;> simp [hctl, hframe]

/-- A control frame a peer may interleave with a message: a final Ping or Pong of at most 125
bytes with its RSV bits clear. -/
def PingPong (f : Frame) : Prop :=
  (f.header.opcode = Opcode.ping ∨ f.header.opcode = Opcode.pong) ∧ f.header.getFin = true ∧
    f.header.getRsv1 = false ∧ f.header.getRsv2 = false ∧ f.header.getRsv3 = false ∧
    f.payload.length ≤ 125

/-- What the dispatcher does with a Ping or Pong whose reply, if any, is written. -/
def pingPongEvents (cfg : Config) (f : Frame) : List Event :=
  if f.header.opcode = Opcode.ping ∧ cfg.replyPing = true then
    [.write Opcode.pong f.payload, .onMessage f.header.opcode f.payload]
  else if f.header.opcode = Opcode.pong ∧ cfg.ignorePong = true then []
  else [.onMessage f.header.opcode []]

theorem processCallback_pingPong (hf : PingPong f) (hw : wm Opcode.pong f.payload = none) :
    processCallback cfg codec wm c f = ⟨c, pingPongEvents cfg f, none⟩ := by
  obtain ⟨hop, hfin, h1, h2, h3, hlen⟩ := hf
  have hlen' : ¬ 125 < f.header.payloadLen := by rw [f.payloadLen_eq]; omega
  have hw' : wm 10 f.payload = none := hw
  rw [processCallback_control_eq (.inr hop) h1 h2 h3]
  rcases hop with hop | hop <;>
    simp [hop, processControl, hlen', hfin, pingPongEvents, hw'] <;> split_ifs <;> rfl

theorem processClose_frag : (processClose cfg wm c f).frag = c := by
  unfold processClose
  repeat' split
  all_goals rfl

theorem processControl_frag : (processControl cfg wm c f).frag = c := by
  unfold processControl
  repeat' split
  all_goals first | rfl | exact processClose_frag

theorem processClose_echoes (hw : wm Opcode.close f.payload = none) (hl : 2 ≤ f.payload.length)
    (hv : validCode (bigEndianUint16 f.payload) = true) (hu : utf8Valid (f.payload.drop 2) = true) :
    processClose cfg wm c f =
      ⟨c, [.write Opcode.close f.payload, .onClose (some (.closeErrMsg f.payload))],
        some (.closeErrMsg f.payload)⟩ := by
  have hw' : wm 8 f.payload = none := hw
  simp [processClose, show f.payload.length ≠ 0 by omega, show ¬ f.payload.length < 2 by omega,
    Config.utf8Check_of_valid cfg hu, hv, hw']

/-- **Control frames.** In every state, with or without a fragmented message in progress, and
with every write succeeding: a final Close, Ping or Pong frame of at most 125 bytes with its
RSV bits clear leaves the fragmented message as it was. A Ping is answered with one Pong of its
payload and `OnMessage(Ping, p)` when `replyPing` is on, and gets `OnMessage(Ping, nil)`
otherwise; a Pong gets nothing when `ignorePong` is on and `OnMessage(Pong, nil)` otherwise; a
Close with a permitted status code and a UTF-8 reason is echoed once and invokes `OnClose` once,
and no `OnMessage`. -/
theorem processCallback_control (hw : ∀ op p, wm op p = none)
    (hop : f.header.opcode = Opcode.close ∨ f.header.opcode = Opcode.ping ∨
      f.header.opcode = Opcode.pong)
    (hfin : f.header.getFin = true) (h1 : f.header.getRsv1 = false)
    (h2 : f.header.getRsv2 = false) (h3 : f.header.getRsv3 = false)
    (hlen : f.payload.length ≤ 125) :
    (processCallback cfg codec wm c f).frag = c ∧
    (f.header.opcode = Opcode.ping → (processCallback cfg codec wm c f).events =
      if cfg.replyPing then [.write Opcode.pong f.payload, .onMessage Opcode.ping f.payload]
      else [.onMessage Opcode.ping []]) ∧
    (f.header.opcode = Opcode.pong → (processCallback cfg codec wm c f).events =
      if cfg.ignorePong then [] else [.onMessage Opcode.pong []]) ∧
    (f.header.opcode = Opcode.close → 2 ≤ f.payload.length →
      validCode (bigEndianUint16 f.payload) = true → utf8Valid (f.payload.drop 2) = true →
      (processCallback cfg codec wm c f).events =
        [.write Opcode.close f.payload, .onClose (some (.closeErrMsg f.payload))]) := by
  have hlen' : ¬ 125 < f.header.payloadLen := by rw [f.payloadLen_eq]; omega
  have hctl := @processCallback_control_eq cfg codec wm c f hop h1 h2 h3
  rcases hop with hcl | hpp
  -- a Close frame goes to `processClose`
  · have hclose : processControl cfg wm c f = processClose cfg wm c f := by
      simp [processControl, hlen', hfin, hcl]
    refine ⟨by rw [hctl, processControl_frag], fun h => by simp [hcl] at h,
      fun h => by simp [hcl] at h, fun _ hl hv hu => ?_⟩
    rw [hctl, hclose, processClose_echoes (hw _ _) hl hv hu]
  -- a Ping or a Pong
  · have hpp' := @processCallback_pingPong cfg codec wm c f ⟨hpp, hfin, h1, h2, h3, hlen⟩
      (hw Opcode.pong f.payload)
    refine ⟨by rw [hpp'], fun hp => ?_, fun hp => ?_,
      fun hc => by rcases hpp with h | h <;> simp [h] at hc⟩
    · cases hr : cfg.replyPing <;> simp [hpp', pingPongEvents, hp, hr]
    · cases hi : cfg.ignorePong <;> simp [hpp', pingPongEvents, hp, hi]

/-- A Ping carrying `hi`, with `replyPing` off: `OnMessage` gets the Ping with no payload. -/
theorem processCallback_control_ping :
    (processCallback ⟨false, false, false, false, false⟩ ⟨.ok, .ok⟩ (fun _ _ => none) .init
      ⟨⟨2, 9, 0, false, 0x89⟩, [0x68, 0x69], rfl⟩).events = [.onMessage Opcode.ping []] :=
  (processCallback_control (fun _ _ => rfl) (.inr (.inl rfl)) (by decide) (by decide) (by decide)
    (by decide) (by decide)).2.1 rfl

/-! ## Rejections -/

/-- The answer to a frame the policy forbids: one Close frame with status 1002 handed to
`WriteTimeout`, then one `OnClose` with an error, no `OnMessage`, and an error returned. -/
def Rejected (o : Outcome) : Prop :=
  (∃ e, o.events = [.write Opcode.close (statusCodeToBytes protocolError), .onClose (some e)]) ∧
    o.err ≠ none

theorem rejected_writeErr (c : Fragments) (e : GoError) {x : Option GoError} (hx : x ≠ none) :
    Rejected ⟨c, (writeErrAndOnClose wm protocolError e).1, x⟩ := ⟨⟨e, rfl⟩, hx⟩

/-- The frames that `processFrame` rejects: an opcode that is neither data nor control, a
control frame that is fragmented or longer than 125 bytes, a Close frame of one byte or with a
forbidden status code or a reason that fails the configured check. -/
def FrameBad (cfg : Config) (f : Frame) : Prop :=
  (f.header.opcode ≠ Opcode.text ∧ f.header.opcode ≠ Opcode.binary ∧
      Opcode.isControl f.header.opcode = false) ∨
    (Opcode.isControl f.header.opcode = true ∧ (f.header.getFin = false ∨ 125 < f.payload.length)) ∨
    (f.header.opcode = Opcode.close ∧ (f.payload.length = 1 ∨ 2 ≤ f.payload.length ∧
      (validCode (bigEndianUint16 f.payload) = false ∨ cfg.utf8Check (f.payload.drop 2) = false)))

theorem processClose_rejects (hl : f.payload.length = 1 ∨ 2 ≤ f.payload.length ∧
      (validCode (bigEndianUint16 f.payload) = false ∨ cfg.utf8Check (f.payload.drop 2) = false)) :
    Rejected (processClose cfg wm c f) := by
  unfold processClose
  rcases hl with hl | ⟨hl, hv | hu⟩
  · simp only [hl, if_false, show 1 < 2 by decide, if_true]
    exact rejected_writeErr c _ (by simp [writeErrAndOnClose])
  · simp only [show f.payload.length ≠ 0 by omega, show ¬ f.payload.length < 2 by omega,
      hv, if_false, if_true]
    split_ifs <;> exact rejected_writeErr c _ (by simp [writeErrAndOnClose])
  · simp only [show f.payload.length ≠ 0 by omega, show ¬ f.payload.length < 2 by omega,
      hu, if_false, if_true]
    exact rejected_writeErr c _ (by simp [writeErrAndOnClose])

theorem processFrame_rejects (rsv1 : Bool) (h : FrameBad cfg f) :
    Rejected (processFrame cfg codec wm rsv1 c f) := by
  have hlen := f.payloadLen_eq
  unfold processFrame
  rcases h with ⟨ht, hb, hctl⟩ | ⟨hctl, hbad⟩ | ⟨hcl, hbad⟩
  · -- neither data nor control: `ErrOpcode`
    simp only [Opcode.isControl, Opcode.close, Opcode.pong, Bool.and_eq_false_iff,
      decide_eq_false_iff_not] at hctl
    rw [if_neg (by simp_all), if_neg (by simp; omega)]
    exact rejected_writeErr c _ (by simp)
  · -- a control frame that is fragmented or too long
    simp only [Opcode.isControl, Opcode.close, Opcode.pong, Bool.and_eq_true, decide_eq_true_eq] at hctl
    rw [if_neg (by simp; omega), if_pos (by simp; omega)]
    unfold processControl
    rcases hbad with hfin | hlong
    · split_ifs <;> exact rejected_writeErr c _ (by simp)
    · rw [if_pos (by omega)]; exact rejected_writeErr c _ (by simp)
  · -- a final Close frame of at most 125 bytes, with a bad payload
    rw [if_neg (by simp [hcl]), if_pos (by simp [hcl])]
    unfold processControl
    split_ifs
    · exact rejected_writeErr c _ (by simp)
    · exact rejected_writeErr c _ (by simp)
    · exact processClose_rejects hbad

/-- The frames the policy of the spec's section 4.5 forbids in the state `c`: RSV2 or RSV3
set; RSV1 set while decompression is off, or on a control frame outside a fragmented message;
a control frame fragmented or longer than 125 bytes; an opcode in 3-7 or 11-15; a Continuation
outside a fragmented message; a Text or Binary frame inside one; a Close frame of one byte, or
with a status code outside the permitted set, or a reason that fails the configured check. -/
def Violation (cfg : Config) (c : Fragments) (f : Frame) : Prop :=
  f.header.getRsv2 = true ∨ f.header.getRsv3 = true ∨
    (f.header.getRsv1 = true ∧ cfg.decompression = false) ∨
    (f.header.getRsv1 = true ∧ Opcode.isControl f.header.opcode = true ∧ c.fragmentFrameHeader = none) ∨
    (Opcode.isControl f.header.opcode = true ∧ (f.header.getFin = false ∨ 125 < f.payload.length)) ∨
    (3 ≤ f.header.opcode ∧ f.header.opcode ≤ 7 ∨ 11 ≤ f.header.opcode ∧ f.header.opcode ≤ 15) ∨
    (f.header.opcode = Opcode.continuation ∧ c.fragmentFrameHeader = none) ∨
    ((f.header.opcode = Opcode.text ∨ f.header.opcode = Opcode.binary) ∧
      c.fragmentFrameHeader ≠ none) ∨
    (f.header.opcode = Opcode.close ∧ (f.payload.length = 1 ∨ 2 ≤ f.payload.length ∧
      (validCode (bigEndianUint16 f.payload) = false ∨ cfg.utf8Check (f.payload.drop 2) = false)))

theorem violation_cases (h : Violation cfg c f) (hr : rsvFails cfg c f = false) :
    (c.fragmentFrameHeader ≠ none ∧ Opcode.isControl f.header.opcode = false ∧
      f.header.opcode ≠ Opcode.continuation) ∨
    ((c.fragmentFrameHeader = none ∨ Opcode.isControl f.header.opcode = true) ∧ FrameBad cfg f) := by
  simp only [rsvFails, Bool.or_eq_false_iff, Bool.and_eq_false_iff] at hr
  obtain ⟨⟨h1, h2⟩, h3⟩ := hr
  have hfail : f.header.getRsv1 = true → ¬ (cfg.decompression = false ∨
      (messageOpcode c f ≠ Opcode.text ∧ messageOpcode c f ≠ Opcode.binary)) := by
    intro hr1 hbad
    rcases h1 with h1 | h1
    · simp [hr1] at h1
    · rcases hbad with hd | ⟨ht, hb⟩ <;> simp_all [failRsv1]
  unfold FrameBad
  simp only [Violation, Opcode.isControl, Opcode.close, Opcode.pong, Bool.and_eq_true,
    decide_eq_true_eq, Bool.and_eq_false_iff, decide_eq_false_iff_not] at h ⊢
  rcases h with h | h | ⟨hr1, hd⟩ | ⟨hr1, hctl, hc⟩ | h | h | ⟨h0, hc⟩ | ⟨hdata, hc⟩ | h
  -- RSV2 and RSV3 fail the RSV test
  · simp [h] at h2
  · simp [h] at h3
  · exact absurd (Or.inl hd) (hfail hr1)
  · refine absurd (Or.inr ?_) (hfail hr1)
    simp only [messageOpcode, hc]; simp; omega
  · exact .inr ⟨.inr h.1, .inr (.inl h)⟩
  · cases hc : c.fragmentFrameHeader
    · exact .inr ⟨.inl rfl, .inl ⟨by simp; omega, by simp; omega, by omega⟩⟩
    · exact .inl ⟨by simp, by omega, by simp; omega⟩
  · exact .inr ⟨.inl hc, .inl ⟨by simp [h0], by simp [h0], by simp [h0]⟩⟩
  · exact .inl ⟨hc, by rcases hdata with h | h <;> simp [h], by rcases hdata with h | h <;> simp [h]⟩
  · exact .inr ⟨.inr (by simp [h.1]), .inr (.inr h)⟩

/-- **Protocol errors, and text that fails the check.** In every state, with or without a
fragmented message in progress, whatever `WriteMessage` answers: a frame the policy forbids is
answered by one Close frame with status 1002, one `OnClose` with an error, no `OnMessage`, and
an error; and a frame completing a Text message whose payload fails the configured check gets
one `OnClose(ErrTextNotUTF8)`, no frame written, no `OnMessage`, and `ErrTextNotUTF8`. -/
theorem processCallback_rejects :
    (∀ c f, Violation cfg c f → Rejected (processCallback cfg codec wm c f)) ∧
    (∀ c f p, Completes cfg codec c f Opcode.text p → cfg.utf8Check p = false →
      (processCallback cfg codec wm c f).events = [.onClose (some .textNotUTF8)] ∧
      (processCallback cfg codec wm c f).err = some .textNotUTF8) := by
  refine ⟨fun c f h => ?_, fun c f p h hu => ?_⟩
  · cases hr : rsvFails cfg c f
    · rw [processCallback_pass hr]
      rcases violation_cases h hr with ⟨hc, hctl, h0⟩ | ⟨hc, hbad⟩
      · obtain ⟨fh, hfh⟩ := Option.ne_none_iff_exists'.mp hc
        simp only [hfh, hctl, if_true, processContinuation, h0, if_false]
        exact rejected_writeErr c _ (by simp)
      · cases hfh : c.fragmentFrameHeader with
        | none => exact processFrame_rejects _ hbad
        | some fh =>
          have hctl : Opcode.isControl f.header.opcode = true := by simpa [hfh] using hc
          simp only [hctl]
          exact processFrame_rejects _ hbad
    · rw [processCallback_rsv hr]
      exact rejected_writeErr c _ (by simp [writeErrAndOnClose])
  · rw [processCallback_completes h]
    simp [hu]

end Dispatch

/-- Three frames the policy forbids that the code does not answer with a 1002 Close: a Text
frame `0xFF` that fails `utf8.Valid` gets `OnClose(ErrTextNotUTF8)` with no Close frame written;
a Ping with RSV1 inside a compressed Text message passes the RSV test, which reads the
message's opcode; and with the default check a Close frame whose reason `0xFF` is not UTF-8 is
echoed. -/
theorem processCallback_utf8_unreported :
    let codec : Codec := ⟨.ok, .ok⟩
    let wm : Nat → Bytes → Option GoError := fun _ _ => none
    (processCallback ⟨false, false, false, false, true⟩ codec wm .init
        ⟨⟨1, 1, 0, false, 0x81⟩, [0xFF], rfl⟩).events = [.onClose (some .textNotUTF8)] ∧
    utf8Valid [0xFF] = false ∧
    (processCallback ⟨false, true, false, false, false⟩ codec wm ⟨[0x01], some ⟨1, 1, 0, false, 0x41⟩⟩
        ⟨⟨0, 9, 0, false, 0xC9⟩, [], rfl⟩).err = none ∧
      ¬ Rejected (processCallback ⟨false, false, false, false, false⟩ codec wm .init
        ⟨⟨3, 8, 0, false, 0x88⟩, [0x03, 0xE8, 0xFF], rfl⟩) := by
  refine ⟨by decide, by decide, by decide, ?_⟩
  rintro ⟨⟨e, he⟩, -⟩
  have hev : (processCallback ⟨false, false, false, false, false⟩ ⟨.ok, .ok⟩ (fun _ _ => none) .init
      ⟨⟨3, 8, 0, false, 0x88⟩, [0x03, 0xE8, 0xFF], rfl⟩).events =
      [.write Opcode.close [0x03, 0xE8, 0xFF], .onClose (some (.closeErrMsg [0x03, 0xE8, 0xFF]))] := by
    decide
  rw [hev] at he
  exact absurd (List.cons.inj he).1 (by decide)

end Greatws
