import Greatws.Basic
import Mathlib.Data.List.Lemmas
import Mathlib.Data.List.Nodup

/-!
# The reactors' registry

`MultiEventLoop` spreads connections over its reactors by `fd % numLoops`. `add` registers the
fd for reads in that reactor's poll set and stores the connection in the reactor's `conns`
map; `del` deletes it from the map and closes the fd; a reactor's `apiPoll` looks every fd it
has an event for up with `getConn`, and closes the fd when the map has no connection for it.

`add` and `del` each take two steps, and other goroutines and the reactors may come between
them: a schedule is a list of `Op`s, and every interleaving of calls is one (`runOps`). The
kernel drops a closed fd from every poll set; `closes` records the `unix.Close` calls.

* `consistent_add`, `consistent_del`: `add` of a fresh fd and `del`, each run whole, keep the
  poll sets and the maps in agreement (`Consistent`);
* `atomicReach_pollEvent`: so in every registry they reach, an event finds its connection and
  `apiPoll` closes nothing;
* `index_neg_one`: Go's `%` truncates, so the fd `-1` indexes the reactors at `-1`, out of
  range as soon as there are two of them;
* `apiPoll_closes_registering_fd`: a reactor's event between the two steps of `add` closes
  the new fd as an orphan, and `del` closes it again; an `add` whose registration fails still
  stores the connection.
-/

namespace Greatws

/-- A reactor of the epoll backend: the fds in its poll set and the keys of its `conns` map. -/
structure EventLoop where
  pollSet : List Int
  conns : List Int
  deriving DecidableEq, Repr

/-- A `MultiEventLoop`: its reactors, `numLoops` of them, and the fds closed so far, in
order. -/
structure MultiEventLoop where
  loops : List EventLoop
  closes : List Int
  deriving DecidableEq, Repr

namespace MultiEventLoop

/-- The index `fd % m.numLoops`, with Go's `%`, which truncates; `m.loops[i]` panics for an
index out of range. -/
def index (m : MultiEventLoop) (fd : Int) : Except GoPanic Nat :=
  if m.loops.length = 0 then .error .integerDivideByZero
  else
    let i := fd.tmod m.loops.length
    if 0 ≤ i ∧ i < m.loops.length then .ok i.toNat else .error (.indexOutOfRange i m.loops.length)

/-- The reactor `i` changed by `f`. -/
def modify (m : MultiEventLoop) (i : Nat) (f : EventLoop → EventLoop) : MultiEventLoop :=
  { m with loops := m.loops.modify f i }

/-- `m.loops[index].addRead(fd)`: EPOLL_CTL_ADD, which fails when `ok` is false. `add`
ignores its error. -/
def addRead (m : MultiEventLoop) (fd : Int) (ok : Bool) : Except GoPanic MultiEventLoop := do
  let i ← m.index fd
  pure (if ok then m.modify i fun l => { l with pollSet := l.pollSet ++ [fd] } else m)

/-- `m.loops[index].conns.Store(fd, c)`. -/
def store (m : MultiEventLoop) (fd : Int) : Except GoPanic MultiEventLoop := do
  let i ← m.index fd
  pure (m.modify i fun l => { l with conns := if fd ∈ l.conns then l.conns else l.conns ++ [fd] })

/-- `m.loops[index].conns.Delete(fd)`. -/
def delete (m : MultiEventLoop) (fd : Int) : Except GoPanic MultiEventLoop := do
  let i ← m.index fd
  pure (m.modify i fun l => { l with conns := l.conns.erase fd })

/-- `unix.Close(fd)`: recorded, and the kernel drops the fd from every poll set. -/
def closeFd (m : MultiEventLoop) (fd : Int) : MultiEventLoop :=
  ⟨m.loops.map fun l => { l with pollSet := l.pollSet.erase fd }, m.closes ++ [fd]⟩

/-- `getConn` (lines 54-60): whether the map of the fd's reactor holds a connection for it. -/
def getConn (m : MultiEventLoop) (fd : Int) : Except GoPanic Bool := do
  let i ← m.index fd
  pure (decide (fd ∈ (m.loops.getD i ⟨[], []⟩).conns))

/-- `add` (lines 40-45): register the fd for reads, then store the connection. -/
def add (m : MultiEventLoop) (fd : Int) (ok : Bool) : Except GoPanic MultiEventLoop := do
  let m ← m.addRead fd ok
  m.store fd

/-- `del` (lines 47-52): delete the connection, then close the fd. -/
def del (m : MultiEventLoop) (fd : Int) : Except GoPanic MultiEventLoop := do
  let m ← m.delete fd
  pure (m.closeFd fd)

/-- `apiPoll`'s handling of an event on `fd` (lines 97-104 of the epoll backend), as far as the
registry goes: an fd with no connection is closed. -/
def pollEvent (m : MultiEventLoop) (fd : Int) : Except GoPanic MultiEventLoop := do
  let found ← m.getConn fd
  pure (if found then m else m.closeFd fd)

end MultiEventLoop

/-- One step of the registry: half of `add` or of `del`, or a reactor's event. -/
inductive Op where
  | addRead (fd : Int) (ok : Bool)
  | store (fd : Int)
  | delete (fd : Int)
  | close (fd : Int)
  | event (fd : Int)
  deriving DecidableEq, Repr

/-- The step on the registry. -/
def Op.apply (m : MultiEventLoop) : Op → Except GoPanic MultiEventLoop
  | addRead fd ok => m.addRead fd ok
  | store fd => m.store fd
  | delete fd => m.delete fd
  | close fd => pure (m.closeFd fd)
  | event fd => m.pollEvent fd

/-- The steps of a schedule one after the other. -/
def runOps (m : MultiEventLoop) (ops : List Op) : Except GoPanic MultiEventLoop :=
  ops.foldlM Op.apply m

theorem runOps_add_del (m : MultiEventLoop) (fd : Int) (ok : Bool) :
    runOps m [.addRead fd ok, .store fd] = m.add fd ok ∧
      runOps m [.delete fd, .close fd] = m.del fd := by
  constructor <;> simp only [runOps, List.foldlM, Op.apply, MultiEventLoop.add, MultiEventLoop.del,
    bind_pure]

namespace MultiEventLoop

variable {m : MultiEventLoop} {fd : Int}

variable {m' : MultiEventLoop} {i : Nat}

/-- The reactor `i`, or an empty one past the last. -/
def loop (m : MultiEventLoop) (i : Nat) : EventLoop := m.loops.getD i ⟨[], []⟩

@[simp] theorem index_modify (f : EventLoop → EventLoop) : (m.modify i f).index fd = m.index fd := by
  simp [index, modify]

@[simp] theorem index_closeFd (fd' : Int) : (m.closeFd fd').index fd = m.index fd := by
  simp [index, closeFd]

theorem loop_modify (f : EventLoop → EventLoop) (j : Nat) :
    (m.modify i f).loop j = if i = j ∧ j < m.loops.length then f (m.loop j) else m.loop j := by
  simp only [loop, modify, List.getD_eq_getElem?_getD, List.getElem?_modify]
  by_cases hj : j < m.loops.length
  · simp only [List.getElem?_eq_getElem hj, hj, and_true]
    split_ifs <;> rfl
  · rw [List.getElem?_eq_none (by omega)]
    simp [hj]

theorem loop_closeFd (fd' : Int) (j : Nat) :
    (m.closeFd fd').loop j = { m.loop j with pollSet := (m.loop j).pollSet.erase fd' } := by
  simp only [loop, closeFd, List.getD_eq_getElem?_getD, List.getElem?_map]
  cases m.loops[j]? <;> rfl

theorem add_eq (hi : m.index fd = .ok i) :
    m.add fd true = .ok ((m.modify i fun l => { l with pollSet := l.pollSet ++ [fd] }).modify i
      fun l => { l with conns := if fd ∈ l.conns then l.conns else l.conns ++ [fd] }) := by
  have hi' : (m.modify i fun l => { l with pollSet := l.pollSet ++ [fd] }).index fd = .ok i := by
    rw [index_modify, hi]
  rw [add, addRead, hi]
  simp only [bind, Except.bind, pure, Except.pure, if_true]
  rw [store, hi']
  rfl

theorem del_eq (hi : m.index fd = .ok i) :
    m.del fd = .ok ((m.modify i fun l => { l with conns := l.conns.erase fd }).closeFd fd) := by
  rw [del, delete, hi]
  rfl

/-- **The registry agrees with the poll sets**: in every reactor the poll set and the map's keys
are the same fds, none twice, and every fd sits in the reactor `fd % numLoops`. -/
structure Consistent (m : MultiEventLoop) : Prop where
  nodup_poll : ∀ i, (m.loop i).pollSet.Nodup
  nodup_conns : ∀ i, (m.loop i).conns.Nodup
  same : ∀ i fd, fd ∈ (m.loop i).pollSet ↔ fd ∈ (m.loop i).conns
  home : ∀ i fd, fd ∈ (m.loop i).conns → m.index fd = .ok i

@[simp] theorem length_loops_modify (f : EventLoop → EventLoop) :
    (m.modify i f).loops.length = m.loops.length := List.length_modify _ _ _

theorem loop_of_le {j : Nat} (hj : m.loops.length ≤ j) : m.loop j = ⟨[], []⟩ := by
  rw [loop, List.getD_eq_getElem?_getD, List.getElem?_eq_none hj]
  rfl

@[simp] theorem loop_replicate (n : Nat) (closes : List Int) (j : Nat) :
    loop ⟨List.replicate n ⟨[], []⟩, closes⟩ j = ⟨[], []⟩ := by
  simp only [loop, List.getD_eq_getElem?_getD, List.getElem?_replicate]
  split_ifs <;> rfl

/-- `add` of an fd no reactor holds, with its registration succeeding, keeps the registry
consistent. -/
theorem consistent_add (hc : Consistent m) (hfresh : ∀ i, fd ∉ (m.loop i).conns)
    (h : m.add fd true = .ok m') : Consistent m' := by
  obtain ⟨i₀, hi₀⟩ : ∃ i₀, m.index fd = .ok i₀ := by
    cases hi : m.index fd
    · simp [MultiEventLoop.add, addRead, hi] at h; cases h
    · exact ⟨_, rfl⟩
  rw [add_eq hi₀, Except.ok.injEq] at h
  have hpoll : ∀ j, fd ∉ (m.loop j).pollSet := fun j hp => hfresh j ((hc.same j fd).mp hp)
  -- the fd joins both sets of reactor `i₀`, and nothing else changes
  have hloop : ∀ j, m'.loop j = if i₀ = j ∧ j < m.loops.length then
      ⟨(m.loop j).pollSet ++ [fd], (m.loop j).conns ++ [fd]⟩ else m.loop j := by
    intro j
    subst h
    simp only [loop_modify, length_loops_modify]
    by_cases hj : i₀ = j ∧ j < m.loops.length <;> simp [hj, hfresh]
  have hidx : ∀ fd', m'.index fd' = m.index fd' := by subst h; simp
  refine ⟨fun j => ?_, fun j => ?_, fun j fd' => ?_, fun j fd' => ?_⟩ <;> rw [hloop j] <;>
    split_ifs with hj
  · simp [List.nodup_append, hc.nodup_poll j, hpoll j]
  · exact hc.nodup_poll j
  · simp [List.nodup_append, hc.nodup_conns j, hfresh j]
  · exact hc.nodup_conns j
  · simp [hc.same j fd']
  · exact hc.same j fd'
  · rw [hidx]
    intro hmem
    rcases List.mem_append.mp hmem with hmem | hmem
    · exact hc.home j fd' hmem
    · rw [List.mem_singleton.mp hmem, hi₀, hj.1]
  · rw [hidx]; exact hc.home j fd'

/-- `del` keeps the registry consistent. -/
theorem consistent_del (hc : Consistent m) (h : m.del fd = .ok m') : Consistent m' := by
  obtain ⟨i₀, hi₀⟩ : ∃ i₀, m.index fd = .ok i₀ := by
    cases hi : m.index fd
    · simp [MultiEventLoop.del, delete, hi] at h
    · exact ⟨_, rfl⟩
  rw [del_eq hi₀, Except.ok.injEq] at h
  -- the fd leaves the map of reactor `i₀` and every poll set
  have hloop : ∀ j, m'.loop j = if i₀ = j ∧ j < m.loops.length then
      ⟨(m.loop j).pollSet.erase fd, (m.loop j).conns.erase fd⟩
      else ⟨(m.loop j).pollSet.erase fd, (m.loop j).conns⟩ := by
    intro j
    subst h
    rw [loop_closeFd, loop_modify]
    split_ifs <;> rfl
  have hidx : ∀ fd', m'.index fd' = m.index fd' := by subst h; simp
  have hmem (j : Nat) (fd' : Int) : fd' ∈ (m.loop j).pollSet.erase fd ↔
      fd' ≠ fd ∧ fd' ∈ (m.loop j).conns := by
    rw [(hc.nodup_poll j).mem_erase_iff, hc.same]
  refine ⟨fun j => ?_, fun j => ?_, fun j fd' => ?_, fun j fd' => ?_⟩ <;> rw [hloop j] <;>
    split_ifs with hj
  · exact (hc.nodup_poll j).erase fd
  · exact (hc.nodup_poll j).erase fd
  · exact (hc.nodup_conns j).erase fd
  · exact hc.nodup_conns j
  · rw [hmem, (hc.nodup_conns j).mem_erase_iff]
  -- an fd of another reactor is not `fd`, which sits in `i₀`
  · rw [hmem]
    refine ⟨fun h => h.2, fun h => ⟨?_, h⟩⟩
    intro he
    rw [he] at h
    have hj' : i₀ = j := by simpa [hi₀] using hc.home j fd h
    have hlt : j < m.loops.length := by
      by_contra hge
      simp [loop_of_le (Nat.le_of_not_lt hge)] at h
    exact hj ⟨hj', hlt⟩
  · rw [hidx]; exact fun h => hc.home j fd' (List.mem_of_mem_erase h)
  · rw [hidx]; exact hc.home j fd'

theorem Consistent.pollEvent_eq (hc : Consistent m) (hfd : fd ∈ (m.loop i).pollSet) :
    m.getConn fd = .ok true ∧ m.pollEvent fd = .ok m := by
  have hconn := (hc.same i fd).mp hfd
  have hget : m.getConn fd = .ok true := by
    rw [getConn, hc.home i fd hconn]
    simpa [loop] using hconn
  exact ⟨hget, by rw [pollEvent, hget]; rfl⟩

end MultiEventLoop

/-- The registries that `add` and `del`, each run whole, reach from reactors with nothing
registered, when every `add` is of an fd no reactor holds and its registration succeeds. -/
inductive AtomicReach : MultiEventLoop → Prop
  | init (n : Nat) (closes : List Int) : AtomicReach ⟨List.replicate n ⟨[], []⟩, closes⟩
  | add {m m' : MultiEventLoop} (fd : Int) : AtomicReach m → (∀ i, fd ∉ (m.loop i).conns) →
      m.add fd true = .ok m' → AtomicReach m'
  | del {m m' : MultiEventLoop} (fd : Int) : AtomicReach m → m.del fd = .ok m' → AtomicReach m'

theorem AtomicReach.consistent {m : MultiEventLoop} (h : AtomicReach m) : m.Consistent := by
  induction h with
  | init n closes => exact ⟨by simp, by simp, by simp, by simp⟩
  | add fd _ hfresh h ih => exact MultiEventLoop.consistent_add ih hfresh h
  | del fd _ h ih => exact MultiEventLoop.consistent_del ih h

/-- **With `add` and `del` run whole, every lookup finds its connection.** In every registry
that `add` and `del`, each run without a reactor's event between its two steps and with every
registration succeeding, reach from empty reactors, an event on an fd of a reactor's poll set
finds the fd's connection, and `apiPoll` closes no fd as an orphan. -/
theorem atomicReach_pollEvent {m : MultiEventLoop} {fd : Int} {i : Nat} (h : AtomicReach m)
    (hfd : fd ∈ (m.loop i).pollSet) : m.getConn fd = .ok true ∧ m.pollEvent fd = .ok m :=
  h.consistent.pollEvent_eq hfd

/-- Two reactors, and the fd `3` added whole to the second: an event on it finds its
connection. -/
theorem atomicReach_pollEvent_added :
    let m : MultiEventLoop := ⟨[⟨[], []⟩, ⟨[3], [3]⟩], []⟩
    AtomicReach m ∧ 3 ∈ (m.loop 1).pollSet ∧ m.getConn 3 = .ok true ∧ m.pollEvent 3 = .ok m :=
  have hreach : AtomicReach ⟨[⟨[], []⟩, ⟨[3], [3]⟩], []⟩ :=
    @AtomicReach.add ⟨List.replicate 2 ⟨[], []⟩, []⟩ _ 3 (.init 2 []) (fun j => by
      have h := congrArg EventLoop.conns (MultiEventLoop.loop_replicate 2 [] j)
      simp only [List.replicate] at h
      simp [h]) rfl
  ⟨hreach, by decide, @atomicReach_pollEvent _ 3 1 hreach (by decide)⟩

/-- With a negative fd, the index is negative: `-1` lands at `-1` whenever there are two
reactors or more, and `m.loops[-1]` panics. -/
theorem index_neg_one (m : MultiEventLoop) (h : 2 ≤ m.loops.length) :
    m.index (-1) = .error (.indexOutOfRange (-1) m.loops.length) := by
  have hpos : m.loops.length ≠ 0 := by omega
  have hmod : (-1 : Int).tmod m.loops.length = -1 := by
    obtain ⟨n, hn⟩ : ∃ n, m.loops.length = n + 2 := ⟨m.loops.length - 2, by omega⟩
    rw [hn]
    show -(((1 % (n + 2) : Nat)) : Int) = -1
    rw [Nat.mod_eq_of_lt (by omega)]
    rfl
  simp [MultiEventLoop.index, hpos, hmod]

/-- **The registry's two steps race with the reactor.** With two reactors and the fd `5`, which
lands in the second: an event between `addRead` and `conns.Store` finds no connection, so
`apiPoll` closes the new fd, the connection is stored with its fd closed, and the `del` that
tears it down closes `5` a second time; and an `add` whose `addRead` fails leaves the
connection in the map with its fd in no poll set. -/
theorem apiPoll_closes_registering_fd :
    let m₀ : MultiEventLoop := ⟨[⟨[], []⟩, ⟨[], []⟩], []⟩
    runOps m₀ [.addRead 5 true] = .ok ⟨[⟨[], []⟩, ⟨[5], []⟩], []⟩ ∧
    runOps m₀ [.addRead 5 true, .event 5, .store 5] = .ok ⟨[⟨[], []⟩, ⟨[], [5]⟩], [5]⟩ ∧
    runOps m₀ [.addRead 5 true, .event 5, .store 5, .delete 5, .close 5] =
      .ok ⟨[⟨[], []⟩, ⟨[], []⟩], [5, 5]⟩ ∧
    runOps m₀ [.addRead 5 false, .store 5] = .ok ⟨[⟨[], []⟩, ⟨[], [5]⟩], []⟩ :=
  ⟨rfl, rfl, rfl, rfl⟩

end Greatws
