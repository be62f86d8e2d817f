import Greatws.Loop.Registry
import Greatws.Write.Message

/-!
# The reactors of `bigws`

`apiPoll` of the epoll backend (lines 82-121) takes the events `EpollWait` reports and looks
each fd's connection up in the parent `MultiEventLoop`. An fd with no connection is closed. On a
connection, a readable event runs `processWebsocketFrame`, a writable one `flushOrClose`, and an
error or hang-up `Close`, in that order.

In this package `processWebsocketFrame` (lines 367-374) parses a header from `rbuf`, which no
code fills, and `readPayloadAndCallback` hands `processCallback` a zero `frame.Frame`; `Close`
does nothing. A frame the dispatcher hands to `WriteTimeout` goes through `WriteMessage` and
`conn.Write`; its bytes are a parameter, since `frame.WriteFrame` is not in the sources.

The state is the registry, the connection each map entry points to, and the callbacks invoked,
with the fd of their connection. A schedule interleaves the halves of `add` and `del`, users'
`WriteMessage` calls and the reactors' events (`ReactorStep`); `apiPoll` is its events in
order (`apiPoll_eq_run`).

* `readHeader_idem`: with nothing added to `rbuf`, a second `readHeader` changes nothing;
* `reach_no_message`: along every schedule, the only callbacks are a Close frame with status
  1002 followed by `OnClose(ErrOpcode)`, so `OnMessage` is never invoked, and every connection
  keeps the fragmented message it was stored with and a parser at most one `readHeader` past
  the one it was stored with;
* `flush_fatal_stale`: a fatal `flushOrClose` closes the fd but leaves the connection in its
  map, so later events on the fd number still find it, and the `del` that tears it down closes
  the fd a second time.
-/

namespace Greatws

theorem bind_eq_ok {ε α β : Type} {x : Except ε α} {f : α → Except ε β} {b : β} :
    x >>= f = .ok b ↔ ∃ a, x = .ok a ∧ f a = .ok b := by
  cases x <;> simp [bind, Except.bind]

@[simp] theorem ok_bind {ε α β : Type} {x : α} {f : α → Except ε β} : (Except.ok x >>= f) = f x :=
  rfl

/-! ### The parser without new bytes -/

namespace Reader

theorem readExtAndMask_fst (c : Reader) :
    (readExtAndMask c).1 = c ∨ (readExtAndMask c).1.curState = .payload := by
  unfold readExtAndMask
  by_cases hw : c.rbuf.length - c.ri < c.haveSize
  · exact .inl (by rw [if_pos hw])
  · exact .inr (by rw [if_neg hw])

theorem readHeader_readExtAndMask {c : Reader} (h : c.curState = .headerPayloadAndMask) :
    (readExtAndMask c).1.readHeader.1 = (readExtAndMask c).1 := by
  rcases readExtAndMask_fst c with hw | hw
  · rw [hw, readHeader, h]
    exact hw
  · rw [readHeader_payload hw]

/-- **`readHeader` is idempotent.** With no byte added to `rbuf` in between, a second call
leaves the parser where the first one left it: a header is decoded once, a header still waiting
for bytes waits, and a parser past the header stays there. -/
theorem readHeader_idem (c : Reader) : c.readHeader.1.readHeader.1 = c.readHeader.1 := by
  cases hs : c.curState with
  | payload => simp [readHeader, hs]
  | headerPayloadAndMask =>
    simp only [readHeader, hs]
    exact readHeader_readExtAndMask hs
  | headerStart =>
    by_cases h2 : 2 ≤ c.rbuf.length - c.ri
    · rw [readHeader_start hs h2]
      dsimp only
      split_ifs with h0
      -- an unmasked header of length 0 is decoded again from the same two bytes
      · have h := readHeader_start
          (c := { c with rh := started c.rh (c.rbuf.getD c.ri 0) (c.rbuf.getD (c.ri + 1) 0) }) hs h2
        dsimp only at h
        rw [h, if_pos h0]
        rfl
      · exact readHeader_readExtAndMask rfl
    · rw [readHeader_start_wait hs (by omega), readHeader_start_wait hs (by omega)]

end Reader

/-! ### Events -/

/-- The event bits of `golang.org/x/sys/unix` that `apiPoll` tests. -/
def epollIn : UInt32 := 0x1
def epollPri : UInt32 := 0x2
def epollOut : UInt32 := 0x4
def epollErr : UInt32 := 0x8
def epollHup : UInt32 := 0x10
def epollRdHup : UInt32 := 0x2000

/-- `unix.EpollEvent`: an fd and the events reported on it. -/
structure EpollEvent where
  fd : Int
  events : UInt32
  deriving DecidableEq, Repr

namespace EpollEvent

/-- The tests of lines 104, 108 and 112. -/
def readable (ev : EpollEvent) : Bool := 0 < ev.events &&& (epollIn ||| epollPri)
def writable (ev : EpollEvent) : Bool := 0 < ev.events &&& epollOut
def hangUp (ev : EpollEvent) : Bool := 0 < ev.events &&& (epollErr ||| epollHup ||| epollRdHup)

theorem epollOut_only (fd : Int) : (⟨fd, epollOut⟩ : EpollEvent).readable = false ∧
    (⟨fd, epollOut⟩ : EpollEvent).writable = true ∧ (⟨fd, epollOut⟩ : EpollEvent).hangUp = false :=
  have h : decide (0 < epollOut &&& (epollIn ||| epollPri)) = false ∧
      decide (0 < epollOut &&& epollOut) = true ∧
      decide (0 < epollOut &&& (epollErr ||| epollHup ||| epollRdHup)) = false := by decide
  h

end EpollEvent

/-! ### A connection -/

/-- The fields of `bigws`'s `Conn` its reactor's events touch: its `Config`, whether it is a
client, the header parser, the fragmented message in progress and the write path. -/
structure BigConn where
  cfg : Config
  client : Bool
  reader : Reader
  frag : Fragments
  wside : Bigws.Conn

/-- What the world answers while one event or one `WriteMessage` is handled: the
`rand.Uint32()` a client draws for its mask, and `unix.Write`'s answers to `conn.Write` and to
`flushOrClose`. -/
structure EventAnswers where
  random : UInt32
  write : SockAnswer
  flush : SockAnswer
  deriving DecidableEq, Repr

/-- `var f frame.Frame`: the zero frame, a Continuation with no payload and no bit set. -/
def zeroFrame : Frame := ⟨⟨0, 0, 0, false, 0⟩, [], rfl⟩

/-- What `processCallback` does with a frame whose opcode it does not know: a Close frame with
status 1002 handed to `WriteTimeout`, then `OnClose(ErrOpcode)`. -/
def opcodeRejection : List Event :=
  [.write Opcode.close (statusCodeToBytes protocolError), .onClose (some .opcode)]

theorem zeroFrame_bits : zeroFrame.header.getFin = false ∧ zeroFrame.header.getRsv1 = false ∧
    zeroFrame.header.getRsv2 = false ∧ zeroFrame.header.getRsv3 = false := by
  decide

theorem processCallback_zeroFrame (cfg : Config) (codec : Codec)
    (wm : Nat → Bytes → Option GoError) (c : Fragments) :
    processCallback cfg codec wm c zeroFrame =
      if c.fragmentFrameHeader = none then ⟨c, opcodeRejection, some .opcode⟩ else ⟨c, [], none⟩ := by
  obtain ⟨hfin, hrsv1, hrsv2, hrsv3⟩ := zeroFrame_bits
  have hop : zeroFrame.header.opcode = 0 := rfl
  have hrsv : rsvFails cfg c zeroFrame = false := by simp [rsvFails, hrsv1, hrsv2, hrsv3]
  rcases c with ⟨p, _ | fh⟩
  · simp [processCallback, hrsv, processFrame, hop, writeErrAndOnClose, opcodeRejection]
  · have hpay : zeroFrame.payload = [] := rfl
    simp [processCallback, hrsv, processContinuation, hop, hfin, hpay, Opcode.isControl]

namespace BigConn

section Conn

-- `frame.WriteFrame`, not in the sources: the bytes of a frame, which it hands to `conn.Write`
-- in one call (spec, section 4.7, step 5).
variable (codec : Codec) (encode : WireFrame → Bytes)

/-- `WriteTimeout` (lines 355-358), which is `WriteMessage`. -/
def writeTimeout (a : EventAnswers) (c : BigConn) (op : Nat) (data : Bytes) :
    Except GoPanic (BigConn × Option GoError) :=
  match writeMessage c.cfg codec c.client c.wside.closed a.random op data with
  | .error e => pure (c, some e)
  | .ok wf => do
    let (w, _, err) ← Bigws.Conn.write a.write c.wside (encode wf)
    pure ({ c with wside := w }, err)

/-- What `WriteTimeout` answers on the connection as it stands: the `wm` of its
`processCallback`. On the zero frame that hands one frame at most to `WriteTimeout`
(`processCallback_zeroFrame`), the one `performWrites` then writes. -/
def writeAnswer (a : EventAnswers) (c : BigConn) (op : Nat) (data : Bytes) : Option GoError :=
  match writeTimeout codec encode a c op data with
  | .ok (_, err) => err
  | .error _ => none

/-- The frames a call of `processCallback` handed to `WriteTimeout`, written in order. -/
def performWrites (a : EventAnswers) : BigConn → List Event → Except GoPanic BigConn
  | c, [] => pure c
  | c, .write op data :: es => do
    let (c, _) ← writeTimeout codec encode a c op data
    performWrites a c es
  | c, _ :: es => performWrites a c es

/-- `readPayloadAndCallback` (lines 360-365): `processCallback` on the zero frame, its error
dropped. -/
def readPayloadAndCallback (a : EventAnswers) (c : BigConn) :
    Except GoPanic (BigConn × List Event) := do
  let o := processCallback c.cfg codec (writeAnswer codec encode a c) c.frag zeroFrame
  let c ← performWrites codec encode a { c with frag := o.frag } o.events
  pure (c, o.events)

/-- `processWebsocketFrame` (lines 367-374): `readHeader`, its error dropped, then
`readPayloadAndCallback`. -/
def processWebsocketFrame (a : EventAnswers) (c : BigConn) :
    Except GoPanic (BigConn × List Event) :=
  readPayloadAndCallback codec encode a { c with reader := c.reader.readHeader.1 }

/-- `flushOrClose` (lines 380-395) on the connection's write path. -/
def flushOrClose (a : EventAnswers) (c : BigConn) : Except GoPanic BigConn := do
  let w ← Bigws.Conn.flushOrClose a.flush c.wside
  pure { c with wside := w }

/-- `Conn.Close` (line 444): nothing. -/
def close (c : BigConn) : BigConn := c

/-- What an event does to the connection it found, in the order `apiPoll` tests its bits
(lines 104-115): the connection after it, the callbacks invoked, and whether the fd was closed
(`flushOrClose`'s `unix.Close(c.fd)`). -/
def onEvent (a : EventAnswers) (ev : EpollEvent) (c : BigConn) :
    Except GoPanic (BigConn × List Event × Bool) :=
  (if ev.readable then processWebsocketFrame codec encode a c else pure (c, [])) >>= fun (c, es) =>
  (if ev.writable then flushOrClose a c else pure c) >>= fun c =>
  pure (if ev.hangUp then close c else c, es, ev.writable && !a.flush.notFatal)

/-! ### What an event does to a connection -/

variable {codec encode} {a : EventAnswers} {c c' : BigConn}

theorem writeTimeout_wside {op : Nat} {data : Bytes} {err : Option GoError}
    (h : writeTimeout codec encode a c op data = .ok (c', err)) : c' = { c with wside := c'.wside } := by
  unfold writeTimeout at h
  split at h
  · cases h; rfl
  · obtain ⟨⟨w, n, e⟩, -, h⟩ := bind_eq_ok.mp h
    cases h; rfl

theorem performWrites_wside {es : List Event} :
    performWrites codec encode a c es = .ok c' → c' = { c with wside := c'.wside } := by
  induction es generalizing c with
  | nil => intro h; cases h; rfl
  | cons e es ih =>
    cases e with
    | write op data =>
      intro h
      obtain ⟨⟨c₁, err⟩, h₁, h⟩ := bind_eq_ok.mp h
      rw [ih h, writeTimeout_wside h₁]
    | onMessage op data => exact ih
    | onClose err => exact ih

theorem processWebsocketFrame_ok {es : List Event}
    (h : processWebsocketFrame codec encode a c = .ok (c', es)) :
    c' = { c with reader := c.reader.readHeader.1, wside := c'.wside } ∧
      es = if c.frag.fragmentFrameHeader = none then opcodeRejection else [] := by
  simp only [processWebsocketFrame, readPayloadAndCallback, processCallback_zeroFrame] at h
  obtain ⟨c₁, h₁, h⟩ := bind_eq_ok.mp h
  cases h
  rw [performWrites_wside h₁]
  split_ifs <;> exact ⟨rfl, rfl⟩

/-- `c'` is what the reactor may have made of `c`: its configuration, role and fragmented
message as they were, and its parser as it was or one `readHeader` on. -/
structure Moved (c c' : BigConn) : Prop where
  cfg_eq : c'.cfg = c.cfg
  client_eq : c'.client = c.client
  frag_eq : c'.frag = c.frag
  reader_eq : c'.reader = c.reader ∨ c'.reader = c.reader.readHeader.1

theorem Moved.refl (c : BigConn) : Moved c c := ⟨rfl, rfl, rfl, .inl rfl⟩

theorem Moved.of_wside (h : c' = { c with wside := c'.wside }) : Moved c c' := by
  rw [h]; exact ⟨rfl, rfl, rfl, .inl rfl⟩

theorem Moved.trans {c₁ c₂ c₃ : BigConn} (h₁ : Moved c₁ c₂) (h₂ : Moved c₂ c₃) : Moved c₁ c₃ := by
  refine ⟨h₂.cfg_eq.trans h₁.cfg_eq, h₂.client_eq.trans h₁.client_eq, h₂.frag_eq.trans h₁.frag_eq,
    ?_⟩
  rcases h₁.reader_eq with h | h <;> rcases h₂.reader_eq with h' | h' <;> rw [h', h]
  · exact .inl rfl
  · exact .inr rfl
  · exact .inr rfl
  · exact .inr (Reader.readHeader_idem _)

theorem onEvent_ok {ev : EpollEvent} {es : List Event} {closedFd : Bool}
    (h : onEvent codec encode a ev c = .ok (c', es, closedFd)) :
    Moved c c' ∧ (es = [] ∨ es = opcodeRejection) := by
  obtain ⟨⟨c₁, es₁⟩, h₁, h⟩ := bind_eq_ok.mp h
  obtain ⟨c₂, h₂, h⟩ := bind_eq_ok.mp h
  -- the readable branch
  have hr : Moved c c₁ ∧ (es₁ = [] ∨ es₁ = opcodeRejection) := by
    split_ifs at h₁
    · obtain ⟨hc₁, rfl⟩ := processWebsocketFrame_ok h₁
      rw [hc₁]
      refine ⟨⟨rfl, rfl, rfl, .inr rfl⟩, ?_⟩
      split_ifs <;> simp
    · cases h₁; exact ⟨Moved.refl c, .inl rfl⟩
  -- the writable branch
  have hw : Moved c₁ c₂ := by
    split_ifs at h₂
    · obtain ⟨w, -, h₂⟩ := bind_eq_ok.mp h₂
      cases h₂; exact ⟨rfl, rfl, rfl, .inl rfl⟩
    · cases h₂; exact Moved.refl _
  simp only [pure, Except.pure, Except.ok.injEq, Prod.mk.injEq] at h
  obtain ⟨rfl, rfl, -⟩ := h
  refine ⟨?_, hr.2⟩
  split_ifs <;> exact hr.1.trans hw

theorem onEvent_flush_fatal {fd : Int} (ha : a.flush.notFatal = false) :
    onEvent codec encode a ⟨fd, epollOut⟩ c =
      .ok ({ c with wside := { c.wside with closed := true } }, [], true) := by
  obtain ⟨e, hf, he⟩ : ∃ e, a.flush = .fail e ∧ e.isRetry = false := by
    cases hf : a.flush with
    | accept k => simp [hf, SockAnswer.notFatal] at ha
    | fail e => exact ⟨e, rfl, by simpa [hf, SockAnswer.notFatal] using ha⟩
  obtain ⟨hr, hw, hh⟩ := EpollEvent.epollOut_only fd
  simp [onEvent, hr, hw, hh, flushOrClose, Bigws.Conn.flushOrClose, hf, he,
    SockAnswer.unixWrite, SockAnswer.taken, SockAnswer.notFatal, pure, Except.pure]

end Conn

end BigConn

/-! ### The reactors -/

/-- The reactors of `bigws` together: the registry, the connection each fd's map entry points
to (read where the registry holds the fd), and the callbacks invoked so far, each with its
connection's fd. -/
structure Reactor where
  registry : MultiEventLoop
  conns : Int → BigConn
  trace : List (Int × Event)

/-- One step of a schedule: half of `add` (registering the fd, or storing the connection), half
of `del`, a user's `WriteMessage` on the connection of an fd, or one event a reactor handles. -/
inductive ReactorStep where
  | addRead (fd : Int) (ok : Bool)
  | store (fd : Int) (c : BigConn)
  | delete (fd : Int)
  | close (fd : Int)
  | writeMessage (fd : Int) (op : Nat) (data : Bytes) (a : EventAnswers)
  | event (ev : EpollEvent) (a : EventAnswers)

namespace Reactor

section Steps

variable (codec : Codec) (encode : WireFrame → Bytes)

/-- `apiPoll`'s handling of one event (lines 98-115). -/
def handle (r : Reactor) (ev : EpollEvent) (a : EventAnswers) : Except GoPanic Reactor := do
  let found ← r.registry.getConn ev.fd
  if found then
    let (c, es, closedFd) ← (r.conns ev.fd).onEvent codec encode a ev
    pure ⟨if closedFd then r.registry.closeFd ev.fd else r.registry,
      Function.update r.conns ev.fd c, r.trace ++ es.map (ev.fd, ·)⟩
  else pure { r with registry := r.registry.closeFd ev.fd }

/-- One step. -/
def apply (r : Reactor) : ReactorStep → Except GoPanic Reactor
  | .addRead fd ok => do pure { r with registry := ← r.registry.addRead fd ok }
  | .store fd c => do
    pure { r with registry := ← r.registry.store fd, conns := Function.update r.conns fd c }
  | .delete fd => do pure { r with registry := ← r.registry.delete fd }
  | .close fd => pure { r with registry := r.registry.closeFd fd }
  | .writeMessage fd op data a => do
    let (c, _) ← (r.conns fd).writeTimeout codec encode a op data
    pure { r with conns := Function.update r.conns fd c }
  | .event ev a => r.handle codec encode ev a

/-- The steps of a schedule one after the other. -/
def run (r : Reactor) (steps : List ReactorStep) : Except GoPanic Reactor :=
  steps.foldlM (apply codec encode) r

/-- `apiPoll` (lines 82-121): `EpollWait`'s answer, then each event it reports, in order; the
number of events, or the wait's error. -/
def apiPoll (r : Reactor) (wait : Except Errno (List (EpollEvent × EventAnswers))) :
    Except GoPanic (Reactor × Nat × Option GoError) :=
  match wait with
  | .error e => pure (r, 0, some (.errno e))
  | .ok evs => do
    let r ← evs.foldlM (fun r p => r.handle codec encode p.1 p.2) r
    pure (r, evs.length, none)

/-- A call of `apiPoll` is a run of its events. -/
theorem apiPoll_eq_run (r : Reactor) (evs : List (EpollEvent × EventAnswers)) :
    apiPoll codec encode r (.ok evs) =
      (fun r' => (r', evs.length, none)) <$> run codec encode r (evs.map fun p => .event p.1 p.2) := by
  simp only [apiPoll, run, List.foldlM_map, apply]
  rfl

/-- What the schedule's `store`s put in the maps. -/
def storeStep (s : Int → BigConn) : ReactorStep → Int → BigConn
  | .store fd c => Function.update s fd c
  | _ => s

/-- The connection the last `store` of `steps` put in for each fd, or `conns₀`'s. -/
def storedConns (conns₀ : Int → BigConn) (steps : List ReactorStep) : Int → BigConn :=
  steps.foldl storeStep conns₀

/-- The callbacks come in pairs, a Close frame with status 1002 then `OnClose(ErrOpcode)`, each
pair on one connection. -/
def Rejections (trace : List (Int × Event)) : Prop :=
  ∃ fds : List Int, trace = fds.flatMap fun fd => opcodeRejection.map (fd, ·)

theorem Rejections.append {t : List (Int × Event)} {es : List Event} (h : Rejections t)
    (hes : es = [] ∨ es = opcodeRejection) (fd : Int) : Rejections (t ++ es.map (fd, ·)) := by
  obtain ⟨fds, rfl⟩ := h
  rcases hes with rfl | rfl
  · exact ⟨fds, by simp⟩
  · exact ⟨fds ++ [fd], by simp⟩

theorem Rejections.no_onMessage {t : List (Int × Event)} (h : Rejections t) :
    ∀ p ∈ t, ∀ op data, p.2 ≠ .onMessage op data := by
  obtain ⟨fds, rfl⟩ := h
  intro p hp op data
  simp only [List.mem_flatMap, List.mem_map, opcodeRejection, List.mem_cons,
    List.not_mem_nil, or_false] at hp
  obtain ⟨fd, -, e, he | he, rfl⟩ := hp <;> simp [he]

variable {codec encode} {r r' : Reactor} {s : Int → BigConn}

theorem update_moved {c : BigConn} {fd : Int} (hs : ∀ fd, BigConn.Moved (s fd) (r.conns fd))
    (hc : BigConn.Moved (s fd) c) : ∀ fd', BigConn.Moved (s fd') (Function.update r.conns fd c fd') := by
  intro fd'
  by_cases h : fd' = fd
  · subst h; simpa using hc
  · simpa [h] using hs fd'

theorem apply_inv {st : ReactorStep} (h : apply codec encode r st = .ok r')
    (hs : ∀ fd, BigConn.Moved (s fd) (r.conns fd)) (ht : Rejections r.trace) :
    (∀ fd, BigConn.Moved (storeStep s st fd) (r'.conns fd)) ∧ Rejections r'.trace := by
  cases st with
  | addRead fd ok =>
    obtain ⟨m, -, h⟩ := bind_eq_ok.mp h
    cases h; exact ⟨hs, ht⟩
  | store fd c =>
    obtain ⟨m, -, h⟩ := bind_eq_ok.mp h
    cases h
    refine ⟨fun fd' => ?_, ht⟩
    by_cases hfd : fd' = fd
    · subst hfd; simpa [storeStep] using BigConn.Moved.refl c
    · simpa [storeStep, hfd] using hs fd'
  | delete fd =>
    obtain ⟨m, -, h⟩ := bind_eq_ok.mp h
    cases h; exact ⟨hs, ht⟩
  | close fd => cases h; exact ⟨hs, ht⟩
  | writeMessage fd op data a =>
    obtain ⟨⟨c, err⟩, hw, h⟩ := bind_eq_ok.mp h
    cases h
    exact ⟨update_moved hs ((hs fd).trans (.of_wside (BigConn.writeTimeout_wside hw))), ht⟩
  | event ev a =>
    obtain ⟨found, -, h⟩ := bind_eq_ok.mp h
    split_ifs at h
    · obtain ⟨⟨c, es, closedFd⟩, he, h⟩ := bind_eq_ok.mp h
      cases h
      obtain ⟨hm, hes⟩ := BigConn.onEvent_ok he
      exact ⟨update_moved hs ((hs ev.fd).trans hm), ht.append hes ev.fd⟩
    · cases h; exact ⟨hs, ht⟩

theorem run_inv {steps : List ReactorStep} (h : run codec encode r steps = .ok r')
    (hs : ∀ fd, BigConn.Moved (s fd) (r.conns fd)) (ht : Rejections r.trace) :
    (∀ fd, BigConn.Moved (storedConns s steps fd) (r'.conns fd)) ∧ Rejections r'.trace := by
  induction steps generalizing r s with
  | nil => cases h; exact ⟨hs, ht⟩
  | cons st steps ih =>
    obtain ⟨r₁, h₁, h⟩ := bind_eq_ok.mp h
    obtain ⟨hs₁, ht₁⟩ := apply_inv h₁ hs ht
    exact ih h hs₁ ht₁

/-- **The reactors of `bigws` never deliver a message.** Along every schedule of registrations,
users' writes and events that runs without a panic, from any connections and no callback yet:
the callbacks invoked are Close frames with status 1002, each followed by `OnClose(ErrOpcode)`
on the same connection, so `OnMessage` is never invoked, whatever the peers send; and every
connection keeps the configuration and the fragmented message it was stored with, and a parser
at most one `readHeader` past the one it was stored with. -/
theorem reach_no_message (conns₀ : Int → BigConn) (m₀ : MultiEventLoop)
    (steps : List ReactorStep) (h : run codec encode ⟨m₀, conns₀, []⟩ steps = .ok r) :
    Rejections r.trace ∧ (∀ p ∈ r.trace, ∀ op data, p.2 ≠ .onMessage op data) ∧
      ∀ fd, BigConn.Moved (storedConns conns₀ steps fd) (r.conns fd) := by
  obtain ⟨hm, ht⟩ := run_inv h (fun fd => BigConn.Moved.refl (conns₀ fd)) ⟨[], rfl⟩
  exact ⟨ht, ht.no_onMessage, hm⟩

/-- A server connection with nothing buffered and no message in progress. -/
def idleServerConn : BigConn :=
  ⟨⟨false, false, false, false, false⟩, false, ⟨[], 0, .headerStart, 0, ⟨0, 0, 0, false, 0⟩⟩, .init,
    ⟨[], [], false⟩⟩

/-- An idle server connection stored on fd `4` of one reactor, and a readable event on it: the
schedule runs, and the event is answered by one rejection. -/
theorem reach_no_message_stored :
    let steps : List ReactorStep :=
      [.addRead 4 true, .store 4 idleServerConn, .event ⟨4, epollIn⟩ ⟨0, .accept 8, .accept 0⟩]
    ∃ r, run ⟨.ok, .ok⟩ WireFrame.payload ⟨⟨[⟨[], []⟩], []⟩, fun _ => idleServerConn, []⟩ steps =
        .ok r ∧ r.trace = opcodeRejection.map (4, ·) ∧
      Rejections r.trace ∧ (∀ p ∈ r.trace, ∀ op data, p.2 ≠ .onMessage op data) ∧
      ∀ fd, BigConn.Moved (storedConns (fun _ => idleServerConn) steps fd) (r.conns fd) := by
  intro steps
  exact ⟨_, rfl, rfl, @reach_no_message ⟨.ok, .ok⟩ WireFrame.payload _ (fun _ => idleServerConn)
    ⟨[⟨[], []⟩], []⟩ steps rfl⟩

end Steps

end Reactor

namespace MultiEventLoop

theorem getConn_closeFd (m : MultiEventLoop) (fd fd' : Int) :
    (m.closeFd fd').getConn fd = m.getConn fd := by
  have h (i : Nat) : ((m.closeFd fd').loops.getD i ⟨[], []⟩).conns = (m.loops.getD i ⟨[], []⟩).conns := by
    have h := congrArg EventLoop.conns (loop_closeFd (m := m) fd' i)
    exact h
  simp only [getConn, index_closeFd, h]

end MultiEventLoop

namespace Reactor

variable {codec : Codec} {encode : WireFrame → Bytes} {r : Reactor} {a : EventAnswers}

/-- **A fatal flush leaves a stale connection.** In a consistent registry, a writable event on a
registered fd whose `flushOrClose` fails for good closes the fd and marks the connection closed,
but leaves the connection in its reactor's map: the fd is in no poll set, yet `getConn` still
finds the connection for the fd number, and the `del` that tears it down closes the fd a second
time. -/
theorem flush_fatal_stale {fd : Int} {i : Nat} (hc : r.registry.Consistent)
    (hfd : fd ∈ (r.registry.loop i).pollSet) (ha : a.flush.notFatal = false) :
    ∃ r', r.handle codec encode ⟨fd, epollOut⟩ a = .ok r' ∧ (r'.conns fd).wside.closed = true ∧
      r'.registry.getConn fd = .ok true ∧ (∀ j, fd ∉ (r'.registry.loop j).pollSet) ∧
      ∃ m', r'.registry.del fd = .ok m' ∧ m'.closes = r.registry.closes ++ [fd, fd] := by
  have hget := (hc.pollEvent_eq hfd).1
  have hidx : r.registry.index fd = .ok i := hc.home i fd ((hc.same i fd).mp hfd)
  let c := r.conns fd
  refine ⟨⟨r.registry.closeFd fd,
    Function.update r.conns fd { c with wside := { c.wside with closed := true } }, r.trace⟩,
    ?_, by simp, by rw [MultiEventLoop.getConn_closeFd, hget], fun j => ?_, ?_⟩
  · simp [handle, hget, BigConn.onEvent_flush_fatal ha]
  · rw [MultiEventLoop.loop_closeFd]
    exact (hc.nodup_poll j).not_mem_erase
  · refine ⟨_, MultiEventLoop.del_eq (by rw [MultiEventLoop.index_closeFd, hidx]), ?_⟩
    simp [MultiEventLoop.closeFd, MultiEventLoop.modify]

end Reactor

end Greatws
