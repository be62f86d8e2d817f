import Greatws.Basic

/-!
# The read loop of `processWebsocketFrame`

On a readable event, greatws's `Conn.processWebsocketFrame` (lines 655-728) reads from the socket
into `rbuf[rw:]` until the socket has nothing more (EAGAIN), a read fails, or the stream ends;
each time the buffer is full it calls `readHeader` and `readPayloadAndCallback` and reads again.
It then parses what the buffer holds.

The loop never grows or compacts `rbuf` itself: once `rw` reaches the buffer's capacity, a read
into the empty slice `rbuf[rw:]` returns 0 bytes at once, and only the two parse routines can
make room. They are not in the sources: here they are parameters.

* `readOnce_progress`: a pass that goes on leaves the socket less to answer, or, on a full
  buffer, makes room or consumes bytes;
* `readLoop_returns`: if the parse routines make room or consume bytes at every full buffer
  (`Grows`), the loop returns, from every state of the buffer and on every finite sequence of
  the socket's answers; routines that double a full buffer do (`growWhenFull_grows`);
* `readLoop_spins`: a full buffer that the parse routines leave as it is keeps the loop reading
  0 bytes forever.
-/

namespace Greatws

/-- What the socket answers a `unix.Read` that has room to read into: bytes, or an errno. An
answer of no bytes is the end of the stream. -/
inductive ReadAnswer where
  | data (b : Bytes)
  | fail (e : Errno)
  deriving DecidableEq, Repr

/-- How much an answer is worth to the reader: its bytes, and one for the answer itself. -/
def ReadAnswer.weight : ReadAnswer → Nat
  | data b => b.length + 1
  | fail _ => 1

/-- What the socket has left to answer. -/
def answersWeight (as : List ReadAnswer) : Nat := (as.map ReadAnswer.weight).sum

/-- `unix.Read(fd, p)` with `len(p) = room`: at most `room` bytes of the socket's next answer,
whose rest stays for the next read. A read into a zero-length slice returns 0 bytes at once and
takes no answer, as read(2) does; once the answers run out the socket answers EAGAIN. -/
def unixRead (as : List ReadAnswer) (room : Nat) :
    List ReadAnswer × Except Errno {b : Bytes // b.length ≤ room} :=
  if room = 0 then (as, .ok ⟨[], Nat.zero_le _⟩)
  else match as with
    | [] => ([], .error .eagain)
    | .fail e :: as => (as, .error e)
    | .data b :: as =>
      (if room < b.length then .data (b.drop room) :: as else as,
        .ok ⟨b.take room, List.length_take_le _ _⟩)

theorem unixRead_weight {as as' : List ReadAnswer} {room : Nat} (hroom : 0 < room)
    {r : Except Errno {b : Bytes // b.length ≤ room}} (h : unixRead as room = (as', r)) :
    (∀ b, r = .ok b → b.1 = [] ∨ answersWeight as' < answersWeight as) ∧
      (r = .error .eintr → answersWeight as' < answersWeight as) := by
  simp only [unixRead, Nat.pos_iff_ne_zero.mp hroom, if_false] at h
  match as, h with
  | [], h => simp only [Prod.mk.injEq] at h; obtain ⟨-, rfl⟩ := h; simp
  | .fail e :: as, h =>
    simp only [Prod.mk.injEq] at h; obtain ⟨rfl, rfl⟩ := h
    simp [answersWeight, ReadAnswer.weight]
  | .data b :: as, h =>
    simp only [Prod.mk.injEq] at h; obtain ⟨rfl, rfl⟩ := h
    refine ⟨fun b' hb' => ?_, by simp⟩
    cases hb'
    by_cases hb : b = []
    · exact .inl (by simp [hb])
    · right
      have := List.length_pos_of_ne_nil hb
      split_ifs <;> simp [answersWeight, ReadAnswer.weight]; omega

/-- The fields of greatws's `Conn` the read path touches: the read buffer `*c.rbuf`, whose length
is its capacity, the consumer and producer indices `rr ≤ rw ≤ len(rbuf)`, and the rest of the
parser's state, which only the parse routines read. -/
structure ReadBuf (P : Type) where
  rbuf : Bytes
  rr : Nat
  rw : Nat
  parser : P
  rr_le : rr ≤ rw
  rw_le : rw ≤ rbuf.length

namespace ReadBuf

variable {P : Type}

/-- `len(rbuf[rw:])`: the room left to read into. -/
def room (c : ReadBuf P) : Nat := c.rbuf.length - c.rw

/-- The bytes read but not yet parsed. -/
def unread (c : ReadBuf P) : Nat := c.rw - c.rr

/-- `unix.Read` wrote `b` at `rw`, and `c.rw += n`. -/
def fill (c : ReadBuf P) (b : Bytes) : ReadBuf P where
  rbuf := c.rbuf.take c.rw ++ b ++ c.rbuf.drop (c.rw + b.length)
  rr := c.rr
  rw := c.rw + b.length
  parser := c.parser
  rr_le := by have := c.rr_le; omega
  rw_le := by have := c.rw_le; simp; omega

end ReadBuf

/-- How the read loop ends: the socket has nothing more (EAGAIN), a read failed, the stream
ended, or a parse routine failed on a full buffer. -/
inductive ReadEnd where
  | drained
  | failed (e : Errno)
  | eof
  | parseFailed (e : GoError)
  deriving DecidableEq, Repr

section Loop

variable {P : Type}
  (readHeader readPayloadAndCallback : ReadBuf P → ReadBuf P × Bool × Option GoError)

/-- Lines 692-697: `readHeader`, then `readPayloadAndCallback`, stopping at the first error. What
they report about a whole frame is ignored. -/
def parseFull (c : ReadBuf P) : ReadBuf P × Option GoError :=
  match readHeader c with
  | (c, _, some e) => (c, some e)
  | (c, _, none) =>
    match readPayloadAndCallback c with
    | (c, _, some e) => (c, some e)
    | (c, _, none) => (c, none)

/-- One pass of the loop of lines 658-709: read into `rbuf[rw:]`, and when the buffer is then
full, parse. The pass ends the loop (`.inl`) or goes on (`.inr`). -/
def readOnce (as : List ReadAnswer) (c : ReadBuf P) :
    (List ReadAnswer × ReadBuf P × ReadEnd) ⊕ (List ReadAnswer × ReadBuf P) :=
  match unixRead as c.room with
  | (as, .error e) =>
    if e = .eintr then .inr (as, c)
    else if e = .eagain then .inl (as, c, .drained)
    else .inl (as, c, .failed e)
  | (as, .ok ⟨b, _⟩) =>
    if b.length = 0 ∧ 0 < c.room then .inl (as, c, .eof)
    else
      let c := if 0 < b.length then c.fill b else c
      if c.room = 0 then
        match parseFull readHeader readPayloadAndCallback c with
        | (c, some e) => .inl (as, c, .parseFailed e)
        | (c, none) => .inr (as, c)
      else .inr (as, c)

/-- The read loop, with `fuel` passes at most (`none` when it runs out). -/
def readLoop : Nat → List ReadAnswer → ReadBuf P → Option (List ReadAnswer × ReadBuf P × ReadEnd)
  | 0, _, _ => none
  | fuel + 1, as, c =>
    match readOnce readHeader readPayloadAndCallback as c with
    | .inl r => some r
    | .inr (as, c) => readLoop fuel as c

/-- Lines 711-727: parse what the buffer holds until a routine fails or cannot go on. -/
def drainLoop : Nat → ReadBuf P → Option (ReadBuf P × Option GoError)
  | 0, _ => none
  | fuel + 1, c =>
    match readHeader c with
    | (c, _, some e) => some (c, some e)
    | (c, false, none) => some (c, none)
    | (c, true, none) =>
      match readPayloadAndCallback c with
      | (c, _, some e) => some (c, some e)
      | (c, false, none) => some (c, none)
      | (c, true, none) => drainLoop fuel c

/-- `Conn.processWebsocketFrame`: the read loop unless the connection uses io_uring, then the
parse loop; the error it returns, or `none` at the end of the stream, where it has invoked
`OnClose(io.EOF)` and started `closeAndWaitOnMessage`. -/
def processWebsocketFrame (useIoUring : Bool) (fuel : Nat) (as : List ReadAnswer) (c : ReadBuf P) :
    Option (List ReadAnswer × ReadBuf P × Option (Option GoError)) :=
  let drain (as : List ReadAnswer) (c : ReadBuf P) :=
    (drainLoop readHeader readPayloadAndCallback fuel c).map fun r => (as, r.1, some r.2)
  if useIoUring then drain as c
  else (readLoop readHeader readPayloadAndCallback fuel as c).bind fun
    | (as, c, .drained) => drain as c
    | (as, c, .failed e) => some (as, c, some (some (.errno e)))
    | (as, c, .eof) => some (as, c, none)
    | (as, c, .parseFailed e) => some (as, c, some (some e))

/-- What `readLoop_returns` asks of the absent parse routines: called on a full buffer, they
fail, or make room to read into, or consume bytes already read. This is a hypothesis, not the
spec's growth policy (section 4.4): that policy doubles the capacity only up to a cap and
compacts only once `rr` passes half the capacity, so at the cap it need not make room. -/
def Grows : Prop :=
  ∀ c : ReadBuf P, c.room = 0 → (parseFull readHeader readPayloadAndCallback c).2 = none →
    0 < (parseFull readHeader readPayloadAndCallback c).1.room ∨
      (parseFull readHeader readPayloadAndCallback c).1.unread < c.unread

/-! ## What one pass does -/

/-- **One pass.** A pass that goes on leaves the socket less to answer; or, the buffer being
full, it takes nothing from the socket and, under the growth policy, makes room or consumes bytes
already read. -/
theorem readOnce_progress (hg : Grows readHeader readPayloadAndCallback) {as as' : List ReadAnswer}
    {c c' : ReadBuf P} (h : readOnce readHeader readPayloadAndCallback as c = .inr (as', c')) :
    answersWeight as' < answersWeight as ∨
      answersWeight as' = answersWeight as ∧ c.room = 0 ∧ (0 < c'.room ∨ c'.unread < c.unread) := by
  by_cases hroom : c.room = 0
  -- a full buffer: the read returns 0 bytes and takes nothing, and the parse routines run
  · have hread : unixRead as c.room = (as, .ok ⟨[], Nat.zero_le _⟩) := by simp [unixRead, hroom]
    simp only [readOnce, hread, List.length_nil, hroom, lt_self_iff_false, and_false, if_false,
      if_true] at h
    rcases hp : parseFull readHeader readPayloadAndCallback c with ⟨c₂, _ | e⟩ <;>
      rw [hp] at h <;> simp only [Sum.inr.injEq, Prod.mk.injEq, reduceCtorEq] at h
    obtain ⟨rfl, rfl⟩ := h
    exact .inr ⟨rfl, hroom, by simpa [hp] using hg c hroom (by simp [hp])⟩
  -- room to read into: the read takes from the socket, or the pass ends
  · left
    rcases hread : unixRead as c.room with ⟨as₁, e | ⟨b, hb⟩⟩
    · have hw := (unixRead_weight (Nat.pos_of_ne_zero hroom) hread).2
      simp only [readOnce, hread] at h
      split_ifs at h with he
      · simp only [Sum.inr.injEq, Prod.mk.injEq] at h
        rw [← h.1]
        exact hw (by rw [he])
    · have hw := (unixRead_weight (Nat.pos_of_ne_zero hroom) hread).1 ⟨b, hb⟩ rfl
      simp only [readOnce, hread] at h
      by_cases hb0 : b = []
      -- no bytes with room to read into: the end of the stream
      · subst hb0
        simp [Nat.pos_of_ne_zero hroom] at h
      -- every pass that goes on carries the answers the read left
      · have hlt := hw.resolve_left hb0
        split_ifs at h <;> (try split at h) <;>
          simp only [Sum.inr.injEq, Prod.mk.injEq, reduceCtorEq] at h <;> rw [← h.1] <;> exact hlt

/-! ## The loop returns, or spins -/

/-- **The loop returns** if the parse routines make room or consume bytes at every full buffer:
from every state of the buffer and on every finite sequence of the socket's answers, after
finitely many passes. -/
theorem readLoop_returns (hg : Grows readHeader readPayloadAndCallback) (as : List ReadAnswer)
    (c : ReadBuf P) : ∃ fuel r, readLoop readHeader readPayloadAndCallback fuel as c = some r := by
  rcases h : readOnce readHeader readPayloadAndCallback as c with r | ⟨as', c'⟩
  · exact ⟨1, r, by simp [readLoop, h]⟩
  · obtain ⟨fuel, r, hr⟩ := readLoop_returns hg as' c'
    exact ⟨fuel + 1, r, by simp [readLoop, h, hr]⟩
termination_by (answersWeight as, if c.room = 0 then 1 else 0, c.unread)
decreasing_by
  rcases readOnce_progress readHeader readPayloadAndCallback hg h with hw | ⟨hw, hroom, hc⟩
  · exact Prod.Lex.left _ _ hw
  · rw [hw, hroom]
    refine Prod.Lex.right _ ?_
    rcases hc with hc | hc
    · exact Prod.Lex.left _ _ (by simp [Nat.pos_iff_ne_zero.mp hc])
    · by_cases h0 : c'.room = 0
      · rw [h0]; exact Prod.Lex.right _ hc
      · exact Prod.Lex.left _ _ (by simp [h0])

/-- A parse routine that does nothing but make room: on a full buffer it doubles the buffer's
capacity. -/
def growWhenFull (c : ReadBuf Unit) : ReadBuf Unit × Bool × Option GoError :=
  if c.room = 0 then
    ({ c with
      rbuf := c.rbuf ++ List.replicate (c.rbuf.length + 1) 0
      rw_le := by have := c.rw_le; simp; omega }, false, none)
  else (c, false, none)

theorem growWhenFull_grows : Grows growWhenFull fun c => (c, false, none) := by
  intro c hc _
  left
  have := c.rw_le
  simp only [parseFull, growWhenFull, hc, if_true]
  simp [ReadBuf.room]
  omega

theorem readLoop_returns_doubling (as : List ReadAnswer) (c : ReadBuf Unit) :
    ∃ fuel r, readLoop growWhenFull (fun c => (c, false, none)) fuel as c = some r :=
  readLoop_returns _ _ growWhenFull_grows as c

/-- A full buffer of two bytes, a socket holding three: four passes. -/
example : (readLoop growWhenFull (fun c => (c, false, none)) 4 [.data [1, 2, 3]]
    ⟨[0x82, 0x7E], 0, 2, (), by decide, by decide⟩).isSome := by
  decide

/-- **Without room, the loop spins.** A full buffer that the parse routines leave as it is, with
nil errors, keeps the loop reading 0 bytes and parsing forever, whatever the socket holds. -/
theorem readLoop_spins {c : ReadBuf P} (hfull : c.room = 0)
    (hfix : parseFull readHeader readPayloadAndCallback c = (c, none)) :
    ∀ fuel as, readLoop readHeader readPayloadAndCallback fuel as c = none
  | 0, _ => rfl
  | fuel + 1, as => by
    have hread : unixRead as c.room = (as, .ok ⟨[], Nat.zero_le _⟩) := by simp [unixRead, hfull]
    simp only [readLoop, readOnce, hread, List.length_nil, hfull, lt_self_iff_false, and_false,
      if_false, if_true, hfix]
    exact readLoop_spins hfull hfix fuel as

/-- A full buffer of two bytes, parse routines that leave it as it is: a thousand passes do not
end the loop. -/
theorem readLoop_spins_full :
    readLoop (fun c => (c, false, none)) (fun c => (c, false, none)) 1000 [.data [1, 2, 3]]
      (⟨[0x82, 0x7E], 0, 2, (), by decide, by decide⟩ : ReadBuf Unit) = none :=
  readLoop_spins (fun c => (c, false, none)) (fun c => (c, false, none))
    (c := ⟨[0x82, 0x7E], 0, 2, (), by decide, by decide⟩) rfl rfl 1000 _

end Loop

end Greatws
