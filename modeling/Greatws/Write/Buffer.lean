import Greatws.Basic

/-!
# The write buffer

`Conn.Write`, `writeOrAddPoll` and `flushOrClose` of `conn_unix.go`. Bytes the socket does not
take at once wait in `wbuf`, and the connection asks its reactor for write readiness; a
writable event later runs `flushOrClose`, which offers `wbuf` again.

The socket is the environment. Each `unix.Write` is answered by the next `SockAnswer` of a
list: the socket takes up to `k` bytes, or the call fails with an errno and reports `-1`, as
the system call does. Every way a socket may behave over a run is such a list; a run that needs
more answers than the list holds has not finished (`none`).

* `LoopRun`, `writeLoop_spec`: everything one call of the loop can do, said once;
* `writeOrAddPoll_bytes`, `writeOrAddPoll_armed`: what a call keeps, from the two shapes its
  callers give it;
* `WriteCall`: a run interleaves `Write` calls, the `flushOrClose` of writable events and the
  `closeInner` goroutines that a fatal socket error starts (line 623), whose `del` takes the fd
  out of the poll set and closes it;
* `runWrites_bytes`: over every run with no fatal socket error, the bytes the socket has taken
  followed by `wbuf` are the bytes written, in order;
* `runWrites_armed`, `runWrites_quiet`: every step keeps "a non-empty `wbuf` of an fd in the
  poll set has write readiness asked for", and with no fatal socket error no goroutine starts,
  so the fd stays in the poll set;
* `runWrites_armed_after_drain`: the converse fails, since a flush that drains `wbuf` leaves
  write readiness asked for.
-/

namespace Greatws

/-! ## The socket -/

/-- How the socket answers one `unix.Write`. -/
inductive SockAnswer where
  /-- It takes the first `k` bytes offered, or all of them if fewer are offered. -/
  | accept (k : Nat)
  /-- The call fails with `e`. -/
  | fail (e : Errno)
  deriving DecidableEq, Repr

/-- `errors.Is(err, unix.EAGAIN) || errors.Is(err, unix.EINTR)`. -/
def Errno.isRetry (e : Errno) : Bool := decide (e = .eagain) || decide (e = .eintr)

namespace SockAnswer

/-- What `unix.Write(fd, b)` returns: the count, `-1` when the call fails, and the error. -/
def unixWrite : SockAnswer → Bytes → Int × Option Errno
  | accept k, b => ((min k b.length : Nat), none)
  | fail e, _ => (-1, some e)

/-- The bytes the socket takes from `b`. -/
def taken : SockAnswer → Bytes → Bytes
  | accept k, b => b.take k
  | fail _, _ => []

/-- The answer is not a fatal error: the socket takes bytes, or asks to retry. -/
def notFatal : SockAnswer → Bool
  | accept _ => true
  | fail e => e.isRetry

end SockAnswer

/-! ## The write side of a connection -/

/-- The write side of a `Conn`, with what its reactor and its peer know of it. -/
structure WriteSide where
  wbuf : Bytes
  /-- The bytes the socket has taken so far, in order: what the peer receives. -/
  sent : Bytes
  /-- The fd is in its reactor's poll set. -/
  registered : Bool
  /-- Write readiness (EPOLLOUT) has been asked for. -/
  armed : Bool
  /-- The `closeInner` goroutines the write path has started and that have not run yet. -/
  closers : Nat
  deriving DecidableEq, Repr

/-- A connection with nothing written yet, in the poll set when `registered`. -/
def WriteSide.fresh (registered : Bool) : WriteSide := ⟨[], [], registered, false, 0⟩

/-- Modelled from the spec: `MultiEventLoop.addWrite` of this version is not in the sources.
The epoll backend's `addWrite` modifies the fd's entry to add EPOLLOUT, which fails with ENOENT
when the fd is not in the poll set. -/
def WriteSide.addWrite (c : WriteSide) : WriteSide × Option GoError :=
  if c.registered then ({ c with armed := true }, none) else (c, some (.errno .enoent))

/-- A `closeInner` goroutine the write path started runs (lines 546-559). Its
`multiEventLoop.del` is modelled from the spec, as this version's `del` is not in the sources:
it removes the connection from its reactor and closes the fd, so the fd leaves the poll set and
its write readiness goes with it; `wbuf` keeps its bytes. With no goroutine waiting the step
does nothing. -/
def WriteSide.closeInner (c : WriteSide) : WriteSide :=
  if c.closers = 0 then c
  else { c with registered := false, armed := false, closers := c.closers - 1 }

namespace WriteSide

variable {c : WriteSide}

@[simp] theorem closeInner_wbuf : c.closeInner.wbuf = c.wbuf := by
  unfold closeInner; split <;> rfl

@[simp] theorem closeInner_sent : c.closeInner.sent = c.sent := by
  unfold closeInner; split <;> rfl

theorem closeInner_of_zero (h : c.closers = 0) : c.closeInner = c := if_pos h

end WriteSide

/-- How the loop of `writeOrAddPoll` ends. -/
inductive LoopEnd where
  /-- `len(b) > 0` fails: everything was written, `total` bytes in all. -/
  | drained (total : Nat)
  /-- A `return` inside the loop, with its two results. -/
  | returned (n : Int) (err : Option GoError)
  deriving DecidableEq, Repr

/-- The loop of `writeOrAddPoll` (lines 596-631), on the socket's answers still to come, with
`b` left to write and `total` written so far. The `closeInner` goroutine a fatal error starts
(line 623) is counted in `closers`; it runs later, as a step of its own. -/
def writeLoop : List SockAnswer → WriteSide → Bytes → Nat →
    Option (List SockAnswer × WriteSide × LoopEnd)
  | as, c, [], total => some (as, c, .drained total)
  | [], _, _ :: _, _ => none
  | a :: as, c, b@(_ :: _), total =>
    let c := { c with sent := c.sent ++ a.taken b }
    match a.unixWrite b with
    | (n, some e) =>
      if e.isRetry then
        let n := if n < 0 then 0 else n
        match { c with wbuf := b.drop n.toNat }.addWrite with
        | (c, some err) => some (as, c, .returned 0 (some err))
        | (c, none) => some (as, c, .returned total none)
      else some (as, { c with closers := c.closers + 1 }, .returned n (some (.errno e)))
    | (n, none) =>
      if 0 < n then writeLoop as c (b.drop n.toNat) (total + n.toNat) else writeLoop as c b total

/-- `writeOrAddPoll` (lines 594-636): the loop, then `wbuf` is set to nil when it holds exactly
the `total` bytes just written. -/
def writeOrAddPoll (as : List SockAnswer) (c : WriteSide) (b : Bytes) :
    Option (List SockAnswer × WriteSide × Int × Option GoError) :=
  (writeLoop as c b 0).map fun
    | (as, c, .drained total) =>
      (as, if c.wbuf.length = total then { c with wbuf := [] } else c, total, none)
    | (as, c, .returned n err) => (as, c, n, err)

/-- `Conn.Write` (lines 578-592): bytes already waiting go first, so `b` is appended to `wbuf`
and the whole of it is offered. -/
def write (as : List SockAnswer) (c : WriteSide) (b : Bytes) :
    Option (List SockAnswer × WriteSide × Int × Option GoError) :=
  let curN := b.length
  let merged := decide (0 < c.wbuf.length)
  let c' := if merged then { c with wbuf := c.wbuf ++ b } else c
  let b' := if merged then c.wbuf ++ b else b
  (writeOrAddPoll as c' b').map fun (as, c, _, err) =>
    match err with
    | some err => (as, c, 0, some err)
    | none => (as, c, curN, none)

/-- `Conn.flushOrClose` (lines 642-648), run on a writable event. -/
def flushOrClose (as : List SockAnswer) (c : WriteSide) :
    Option (List SockAnswer × WriteSide × Option GoError) :=
  (writeOrAddPoll as c c.wbuf).map fun (as, c, _, err) => (as, c, err)

/-! ## What one call of the loop can do -/

/-- **What one call of the loop can do**: the socket takes a prefix `p` of `b`, then takes the
rest, or asks to retry, so that the rest waits in `wbuf` and write readiness is asked for, or
fails for good with an answer of the list, so that a `closeInner` goroutine is started. The
answers left over are a suffix of those the call started with. -/
inductive LoopRun (as : List SockAnswer) (c : WriteSide) (b : Bytes) (total : Nat)
    (as' : List SockAnswer) : WriteSide → LoopEnd → Prop
  | drained : as' <:+ as →
      LoopRun as c b total as' { c with sent := c.sent ++ b } (.drained (total + b.length))
  | retry (p r : Bytes) (n : Int) : as' <:+ as → b = p ++ r → r ≠ [] →
      LoopRun as c b total as'
        { c with sent := c.sent ++ p, wbuf := r, armed := c.armed || c.registered }
        (.returned n (if c.registered then none else some (.errno .enoent)))
  | fatal (p r : Bytes) (e : Errno) : as' <:+ as → b = p ++ r → r ≠ [] → .fail e ∈ as →
      e.isRetry = false →
      LoopRun as c b total as' { c with sent := c.sent ++ p, closers := c.closers + 1 }
        (.returned (-1) (some (.errno e)))

namespace LoopRun

variable {as as' : List SockAnswer} {c c' : WriteSide} {b : Bytes} {total : Nat} {e : LoopEnd}

theorem prepend {q : Bytes}
    (h : LoopRun as { c with sent := c.sent ++ q } b (total + q.length) as' c' e) :
    LoopRun as c (q ++ b) total as' c' e := by
  cases h with
  | drained hs =>
    simpa [Nat.add_assoc] using (drained hs : LoopRun as c (q ++ b) total as' _ _)
  | retry p r n hs hb hr =>
    simpa using retry (q ++ p) r n hs (by simp [hb]) hr
  | fatal p r e hs hb hr hmem he =>
    simpa using fatal (q ++ p) r e hs (by simp [hb]) hr hmem he

theorem cons (a : SockAnswer) (h : LoopRun as c b total as' c' e) :
    LoopRun (a :: as) c b total as' c' e := by
  have hsuf (hs : as' <:+ as) : as' <:+ a :: as := hs.trans (List.suffix_cons _ _)
  cases h with
  | drained hs => exact drained (hsuf hs)
  | retry p r n hs hb hr => exact retry p r n (hsuf hs) hb hr
  | fatal p r e hs hb hr hmem he =>
    exact fatal p r e (hsuf hs) hb hr (List.mem_cons_of_mem _ hmem) he

end LoopRun

theorem take_append_drop_min (k : Nat) (b : Bytes) : b.take k ++ b.drop (min k b.length) = b := by
  rcases le_total k b.length with h | h
  · rw [Nat.min_eq_left h, List.take_append_drop]
  · rw [Nat.min_eq_right h, List.drop_length, List.append_nil, List.take_of_length_le h]

/-- The loop's spec: every call that finishes is one of the runs `LoopRun` names. -/
theorem writeLoop_spec : ∀ {as : List SockAnswer} {c : WriteSide} {b : Bytes} {total : Nat}
    {as' : List SockAnswer} {c' : WriteSide} {e : LoopEnd},
    writeLoop as c b total = some (as', c', e) → LoopRun as c b total as' c' e
  | as, c, [], total, _, _, _, h => by
    simp only [writeLoop, Option.some.injEq, Prod.mk.injEq] at h
    obtain ⟨rfl, rfl, rfl⟩ := h
    simpa using (LoopRun.drained (List.suffix_refl as) : LoopRun as c [] total as _ _)
  | [], _, _ :: _, _, _, _, _, h => by simp [writeLoop] at h
  | .accept k :: as, c, x :: b, total, as', c', e, h => by
    simp only [writeLoop, SockAnswer.unixWrite, SockAnswer.taken] at h
    split_ifs at h with hk
    -- the socket took `n > 0` bytes: the rest is a run of the loop
    · rw [Int.toNat_ofNat] at h
      have h₁ : LoopRun as { c with sent := c.sent ++ (x :: b).take k }
          ((x :: b).drop (min k (x :: b).length)) (total + ((x :: b).take k).length) as' c' e := by
        rw [List.length_take]; exact writeLoop_spec h
      have h₂ := h₁.prepend
      rw [take_append_drop_min] at h₂
      exact h₂.cons _
    -- it took nothing
    · have hk0 : k = 0 := by simp at hk; omega
      subst hk0
      rw [List.take_zero] at h
      have h₁ : LoopRun as { c with sent := c.sent ++ [] } (x :: b) (total + ([] : Bytes).length)
          as' c' e :=
        writeLoop_spec h
      exact h₁.prepend.cons _
  | .fail err :: as, c, x :: b, total, as', c', e, h => by
    simp only [writeLoop, SockAnswer.unixWrite, SockAnswer.taken, List.append_nil] at h
    have hs : as <:+ .fail err :: as := List.suffix_cons _ _
    split_ifs at h with he hn
    -- EAGAIN or EINTR: the unsent bytes wait, and write readiness is asked for
    · cases hreg : c.registered <;> simp [WriteSide.addWrite, hreg] at h <;>
        obtain ⟨rfl, rfl, rfl⟩ := h
      · simpa [hreg] using (LoopRun.retry [] (x :: b) 0 hs rfl (List.cons_ne_nil _ _) :
          LoopRun (.fail err :: as) c (x :: b) total as _ _)
      · simpa [hreg] using (LoopRun.retry [] (x :: b) total hs rfl (List.cons_ne_nil _ _) :
          LoopRun (.fail err :: as) c (x :: b) total as _ _)
    · exact absurd (by decide) hn
    -- any other error
    · simp only [Option.some.injEq, Prod.mk.injEq] at h
      obtain ⟨rfl, rfl, rfl⟩ := h
      simpa using (LoopRun.fatal [] (x :: b) err hs rfl (List.cons_ne_nil _ _)
        (List.mem_cons_self _ _) (by simpa using he) :
          LoopRun (.fail err :: as) c (x :: b) total as _ _)

/-! ## What a call keeps -/

/-- **Write readiness**: while the fd is in the poll set, bytes waiting in `wbuf` have write
readiness asked for. -/
def Armed (c : WriteSide) : Prop := c.registered = true → c.wbuf ≠ [] → c.armed = true

theorem WriteSide.closeInner_armed {c : WriteSide} (hi : Armed c) : Armed c.closeInner := by
  unfold WriteSide.closeInner
  split
  · exact hi
  · exact fun h => absurd h Bool.false_ne_true

section Calls

variable {as as' : List SockAnswer} {c c' : WriteSide} {b : Bytes} {n : Int} {err : Option GoError}

/-- What `writeOrAddPoll` leaves of the connection once its loop has ended. -/
def WriteSide.afterLoop (c : WriteSide) : LoopEnd → WriteSide
  | .drained total => if c.wbuf.length = total then { c with wbuf := [] } else c
  | .returned _ _ => c

theorem writeOrAddPoll_spec (h : writeOrAddPoll as c b = some (as', c', n, err)) :
    ∃ c₁ e, LoopRun as c b 0 as' c₁ e ∧ c' = c₁.afterLoop e := by
  simp only [writeOrAddPoll, Option.map_eq_some'] at h
  obtain ⟨⟨as₁, c₁, e⟩, hl, hr⟩ := h
  cases e <;> simp only [Prod.mk.injEq] at hr <;> obtain ⟨rfl, rfl, -⟩ := hr <;>
    exact ⟨c₁, _, writeLoop_spec hl, rfl⟩

/-- **No byte lost, duplicated or reordered by a call**, given `wbuf` itself or with `wbuf`
empty, as its callers do: the bytes taken followed by `wbuf` are the bytes taken before
followed by `b`. -/
theorem writeOrAddPoll_bytes (hs : ∀ a ∈ as, a.notFatal = true) (hb : b = c.wbuf ∨ c.wbuf = [])
    (h : writeOrAddPoll as c b = some (as', c', n, err)) : c'.sent ++ c'.wbuf = c.sent ++ b := by
  obtain ⟨c₁, e, hrun, rfl⟩ := writeOrAddPoll_spec h
  cases hrun with
  | drained =>
    simp only [WriteSide.afterLoop]
    rcases hb with rfl | hb
    · simp
    · split_ifs <;> simp [hb]
  | retry p r _ _ hb hr => simp [WriteSide.afterLoop, hb]
  | fatal p r e _ _ _ hmem he => simpa [SockAnswer.notFatal, he] using hs _ hmem

theorem writeOrAddPoll_frame (h : writeOrAddPoll as c b = some (as', c', n, err)) :
    c'.registered = c.registered ∧ (c.armed = true → c'.armed = true) := by
  obtain ⟨c₁, e, hrun, rfl⟩ := writeOrAddPoll_spec h
  cases hrun with
  | drained => simp only [WriteSide.afterLoop]; split_ifs <;> exact ⟨rfl, id⟩
  | retry => exact ⟨rfl, fun ha => by simp [WriteSide.afterLoop, ha]⟩
  | fatal => exact ⟨rfl, id⟩

theorem writeOrAddPoll_closers (hs : ∀ a ∈ as, a.notFatal = true)
    (h : writeOrAddPoll as c b = some (as', c', n, err)) : c'.closers = c.closers := by
  obtain ⟨c₁, e, hrun, rfl⟩ := writeOrAddPoll_spec h
  cases hrun with
  | drained => simp only [WriteSide.afterLoop]; split_ifs <;> rfl
  | retry => rfl
  | fatal p r e _ _ _ hmem he => simpa [SockAnswer.notFatal, he] using hs _ hmem

theorem writeOrAddPoll_armed (hb : b = c.wbuf ∨ c.wbuf = []) (hi : Armed c)
    (h : writeOrAddPoll as c b = some (as', c', n, err)) : Armed c' := by
  obtain ⟨c₁, e, hrun, rfl⟩ := writeOrAddPoll_spec h
  cases hrun with
  | drained =>
    simp only [WriteSide.afterLoop]
    rcases hb with rfl | hb
    · simp [Armed]
    · split_ifs <;> simp [Armed, hb]
  | retry =>
    intro hr _
    simp only [WriteSide.afterLoop] at hr ⊢
    simp [hr]
  | fatal => exact hi

end Calls

/-! ## Runs of calls -/

/-- A step of the write path: a user `Write`, the `flushOrClose` of a writable event, or a
`closeInner` goroutine the write path started (line 623), which runs whenever it is
scheduled. -/
inductive WriteCall where
  | write (b : Bytes)
  | flush
  | closeInner
  deriving DecidableEq, Repr

namespace WriteCall

/-- The bytes the call writes. -/
def bytes : WriteCall → Bytes
  | write b => b
  | flush => []
  | closeInner => []

/-- The call, on the socket's answers still to come. -/
def run (as : List SockAnswer) (c : WriteSide) : WriteCall → Option (List SockAnswer × WriteSide)
  | write b => (Greatws.write as c b).map fun r => (r.1, r.2.1)
  | flush => (flushOrClose as c).map fun r => (r.1, r.2.1)
  | closeInner => some (as, c.closeInner)

variable {as as' : List SockAnswer} {c c' : WriteSide} {k : WriteCall}

/-- **What a step can do**: a goroutine's `del`, or a call of `writeOrAddPoll` on `wbuf`
itself or, with `wbuf` empty, on the new bytes; either way on the bytes waiting followed by
the bytes written. -/
theorem run_spec (h : k.run as c = some (as', c')) :
    (k = .closeInner ∧ as' = as ∧ c' = c.closeInner) ∨
    ∃ c₁ b₁ n err, writeOrAddPoll as c₁ b₁ = some (as', c', n, err) ∧
      (b₁ = c₁.wbuf ∨ c₁.wbuf = []) ∧ c₁.sent ++ b₁ = c.sent ++ c.wbuf ++ k.bytes ∧
      c₁.registered = c.registered ∧ c₁.armed = c.armed ∧ c₁.closers = c.closers ∧
      (Armed c → Armed c₁) := by
  cases k with
  | closeInner =>
    simp only [run, Option.some.injEq, Prod.mk.injEq] at h
    exact .inl ⟨rfl, h.1.symm, h.2.symm⟩
  | flush =>
    simp only [run, flushOrClose, Option.map_map, Option.map_eq_some'] at h
    obtain ⟨⟨_, _, n, err⟩, h, he⟩ := h
    cases he
    exact .inr ⟨c, c.wbuf, n, err, h, .inl rfl, by simp [bytes], rfl, rfl, rfl, id⟩
  | write b =>
    simp only [run, Greatws.write, Option.map_map, Option.map_eq_some'] at h
    obtain ⟨⟨_, _, n, err⟩, h, he⟩ := h
    refine .inr ?_
    cases err <;> cases he <;> by_cases hm : 0 < c.wbuf.length <;> simp only [hm, decide_True,
      decide_False, if_true, if_false, Bool.false_eq_true] at h
    all_goals first
      | exact ⟨_, _, _, _, h, .inl rfl, by simp [bytes], rfl, rfl, rfl,
          fun hi hr _ => hi hr (List.ne_nil_of_length_pos hm)⟩
      | exact ⟨_, _, _, _, h, .inr (List.eq_nil_of_length_eq_zero (by omega)), by
          simp [bytes, List.eq_nil_of_length_eq_zero (Nat.eq_zero_of_not_pos hm)], rfl, rfl, rfl,
          id⟩

theorem run_bytes (hs : ∀ a ∈ as, a.notFatal = true) (h : k.run as c = some (as', c')) :
    c'.sent ++ c'.wbuf = c.sent ++ c.wbuf ++ k.bytes := by
  rcases run_spec h with ⟨rfl, -, rfl⟩ | ⟨c₁, b₁, n, err, hw, hb, hsent, -⟩
  · simp [bytes]
  · rw [writeOrAddPoll_bytes hs hb hw, hsent]

theorem run_frame (hk : k ≠ .closeInner) (h : k.run as c = some (as', c')) :
    c'.registered = c.registered ∧ (c.armed = true → c'.armed = true) := by
  rcases run_spec h with ⟨rfl, -⟩ | ⟨c₁, b₁, n, err, hw, -, -, hreg, harm, -⟩
  · exact absurd rfl hk
  · obtain ⟨h₁, h₂⟩ := writeOrAddPoll_frame hw
    exact ⟨h₁.trans hreg, fun ha => h₂ (harm.trans ha)⟩

theorem run_quiet (hs : ∀ a ∈ as, a.notFatal = true) (h0 : c.closers = 0)
    (h : k.run as c = some (as', c')) : c'.closers = 0 ∧ c'.registered = c.registered := by
  rcases run_spec h with ⟨rfl, -, rfl⟩ | ⟨c₁, b₁, n, err, hw, -, -, hreg, -, hcl, -⟩
  · rw [WriteSide.closeInner_of_zero h0]; exact ⟨h0, rfl⟩
  · exact ⟨(writeOrAddPoll_closers hs hw).trans (hcl.trans h0),
      (writeOrAddPoll_frame hw).1.trans hreg⟩

theorem run_armed (hi : Armed c) (h : k.run as c = some (as', c')) : Armed c' := by
  rcases run_spec h with ⟨rfl, -, rfl⟩ | ⟨c₁, b₁, n, err, hw, hb, -, -, -, -, hi₁⟩
  · exact WriteSide.closeInner_armed hi
  · exact writeOrAddPoll_armed hb (hi₁ hi) hw

theorem run_suffix (h : k.run as c = some (as', c')) : as' <:+ as := by
  rcases run_spec h with ⟨rfl, rfl, -⟩ | ⟨c₁, b₁, n, err, hw, -⟩
  · exact List.suffix_refl _
  · obtain ⟨c₂, e, hrun, -⟩ := writeOrAddPoll_spec hw
    cases hrun <;> assumption

end WriteCall

/-- The calls one after the other. -/
def runWrites : List SockAnswer → WriteSide → List WriteCall → Option (List SockAnswer × WriteSide)
  | as, c, [] => some (as, c)
  | as, c, k :: ks => (k.run as c).bind fun r => runWrites r.1 r.2 ks

section Runs

variable {as as' : List SockAnswer} {c c' : WriteSide} {ks : List WriteCall}

theorem runWrites_cons {k : WriteCall} (h : runWrites as c (k :: ks) = some (as', c')) :
    ∃ as₁ c₁, k.run as c = some (as₁, c₁) ∧ runWrites as₁ c₁ ks = some (as', c') := by
  simp only [runWrites, Option.bind_eq_some] at h
  obtain ⟨⟨as₁, c₁⟩, h₁, h₂⟩ := h
  exact ⟨as₁, c₁, h₁, h₂⟩

theorem notFatal_of_run {k : WriteCall} {as₁ : List SockAnswer} {c₁ : WriteSide}
    (hs : ∀ a ∈ as, a.notFatal = true) (h : k.run as c = some (as₁, c₁)) :
    ∀ a ∈ as₁, a.notFatal = true :=
  fun a ha => hs a ((WriteCall.run_suffix h).subset ha)

/-- Over a run with no fatal socket error, the bytes taken followed by `wbuf` grow by the bytes
the run writes. -/
theorem runWrites_bytes (hs : ∀ a ∈ as, a.notFatal = true) (h : runWrites as c ks = some (as', c')) :
    c'.sent ++ c'.wbuf = c.sent ++ c.wbuf ++ ks.flatMap WriteCall.bytes := by
  induction ks generalizing as c with
  | nil => cases h; simp
  | cons k ks ih =>
    obtain ⟨as₁, c₁, h₁, h₂⟩ := runWrites_cons h
    rw [ih (notFatal_of_run hs h₁) h₂, WriteCall.run_bytes hs h₁]
    simp

theorem runWrites_frame (hk : ∀ k ∈ ks, k ≠ .closeInner)
    (h : runWrites as c ks = some (as', c')) :
    c'.registered = c.registered ∧ (c.armed = true → c'.armed = true) := by
  induction ks generalizing as c with
  | nil => cases h; exact ⟨rfl, id⟩
  | cons k ks ih =>
    obtain ⟨as₁, c₁, h₁, h₂⟩ := runWrites_cons h
    obtain ⟨hreg₁, harm₁⟩ := WriteCall.run_frame (hk k (List.mem_cons_self _ _)) h₁
    obtain ⟨hreg₂, harm₂⟩ := ih (fun k' hk' => hk k' (List.mem_cons_of_mem _ hk')) h₂
    exact ⟨hreg₂.trans hreg₁, harm₂ ∘ harm₁⟩

/-- Over a run with no fatal socket error from a state with no goroutine waiting, none is ever
started, and the fd keeps its place in the poll set. -/
theorem runWrites_quiet (hs : ∀ a ∈ as, a.notFatal = true) (h0 : c.closers = 0)
    (h : runWrites as c ks = some (as', c')) : c'.closers = 0 ∧ c'.registered = c.registered := by
  induction ks generalizing as c with
  | nil => cases h; exact ⟨h0, rfl⟩
  | cons k ks ih =>
    obtain ⟨as₁, c₁, h₁, h₂⟩ := runWrites_cons h
    obtain ⟨h0₁, hreg₁⟩ := WriteCall.run_quiet hs h0 h₁
    obtain ⟨h0₂, hreg₂⟩ := ih (notFatal_of_run hs h₁) h0₁ h₂
    exact ⟨h0₂, hreg₂.trans hreg₁⟩

/-- Over any run, `Armed` is kept. -/
theorem runWrites_armed (hi : Armed c) (h : runWrites as c ks = some (as', c')) : Armed c' := by
  induction ks generalizing as c with
  | nil => cases h; exact hi
  | cons k ks ih =>
    obtain ⟨as₁, c₁, h₁, h₂⟩ := runWrites_cons h
    exact ih (WriteCall.run_armed hi h₁) h₂

end Runs

/-! ## The write path's guarantees -/

/-- **No byte lost, duplicated or reordered.** From a fresh connection, over every run of
`Write` and `flushOrClose` calls on a socket that never fails for good, the bytes the socket
has taken followed by `wbuf` are the bytes written, in order; and a call whose bytes the
socket took in full leaves `wbuf` empty. -/
theorem runWrites_keeps_bytes :
    (∀ (as : List SockAnswer) (registered : Bool) (ks : List WriteCall) as' c',
      (∀ a ∈ as, a.notFatal = true) → runWrites as (.fresh registered) ks = some (as', c') →
      c'.sent ++ c'.wbuf = ks.flatMap WriteCall.bytes) ∧
    (∀ (as : List SockAnswer) (c : WriteSide) (k : WriteCall) as' c',
      (∀ a ∈ as, a.notFatal = true) → k.run as c = some (as', c') →
      c'.sent = c.sent ++ c.wbuf ++ k.bytes → c'.wbuf = []) := by
  refine ⟨fun as registered ks as' c' hs h => by simpa [WriteSide.fresh] using runWrites_bytes hs h,
    fun as c k as' c' hs h hsent => ?_⟩
  have hb := WriteCall.run_bytes hs h
  rw [← hsent] at hb
  simpa using hb

/-- A Write the socket defers, then a flush it takes in full. -/
theorem runWrites_keeps_bytes_deferred :
    let c' : WriteSide := ⟨[], [1, 2], true, true, 0⟩
    runWrites [.fail .eagain, .accept 2] (.fresh true) [.write [1, 2], .flush] = some ([], c') ∧
      c'.sent ++ c'.wbuf = [WriteCall.write [1, 2], .flush].flatMap WriteCall.bytes ∧
      WriteCall.flush.run [.accept 2] ⟨[1, 2], [], true, true, 0⟩ = some ([], c') ∧
      c'.wbuf = [] :=
  ⟨by decide, runWrites_keeps_bytes.1 [.fail .eagain, .accept 2] true _ [] _ (by decide) (by decide),
    by decide,
    runWrites_keeps_bytes.2 [.accept 2] ⟨[1, 2], [], true, true, 0⟩ .flush [] _ (by decide)
      (by decide) rfl⟩

/-- **Write readiness is asked for whenever bytes wait.** From a fresh connection in the poll
set, over every run of `Write` and `flushOrClose` calls on a socket that never fails for good,
a non-empty `wbuf` has write readiness asked for; and no `Write` or `flushOrClose` withdraws
it once asked. -/
theorem runWrites_armed_of_wbuf :
    (∀ (as : List SockAnswer) (ks : List WriteCall) as' c', (∀ a ∈ as, a.notFatal = true) →
      runWrites as (.fresh true) ks = some (as', c') → c'.wbuf ≠ [] → c'.armed = true) ∧
    (∀ (as : List SockAnswer) (c : WriteSide) (ks : List WriteCall) as' c',
      (∀ k ∈ ks, k ≠ .closeInner) → runWrites as c ks = some (as', c') →
      c.armed = true → c'.armed = true) := by
  refine ⟨fun as ks as' c' hs h hw => ?_, fun as c ks as' c' hk h => (runWrites_frame hk h).2⟩
  have hi : Armed (.fresh true) := fun _ h => absurd rfl h
  exact runWrites_armed hi h (runWrites_quiet hs rfl h).2 hw

/-- The same Write, before and after the flush. -/
theorem runWrites_armed_of_wbuf_deferred :
    let c : WriteSide := ⟨[1, 2], [], true, true, 0⟩
    runWrites [.fail .eagain] (.fresh true) [.write [1, 2]] = some ([], c) ∧ c.armed = true ∧
      runWrites [.accept 2] c [.flush] = some ([], ⟨[], [1, 2], true, true, 0⟩) ∧
      (⟨[], [1, 2], true, true, 0⟩ : WriteSide).armed = true :=
  ⟨by decide, runWrites_armed_of_wbuf.1 [.fail .eagain] [.write [1, 2]] [] _ (by decide)
      (by decide) (by decide),
    by decide,
    runWrites_armed_of_wbuf.2 [.accept 2] ⟨[1, 2], [], true, true, 0⟩ [.flush] [] _ (by decide)
      (by decide) rfl⟩

/-- A fatal error instead: the goroutine it starts takes the fd out of the poll set, and the
bytes stay in `wbuf` with write readiness gone. -/
example :
    runWrites [.fail .eagain, .fail (.other 32)] (.fresh true) [.write [1, 2], .flush, .closeInner] =
      some ([], ⟨[1, 2], [], false, false, 0⟩) := by
  decide

/-- Write readiness outlives the bytes: a Write the socket defers asks for it, and the flush
that drains `wbuf` does not withdraw it, so the fd stays armed with `wbuf` empty. -/
theorem runWrites_armed_after_drain :
    runWrites [.fail .eagain, .accept 2] (.fresh true) [.write [1, 2], .flush] =
      some ([], ⟨[], [1, 2], true, true, 0⟩) := by
  decide

end Greatws
