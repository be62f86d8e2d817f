import Greatws.Basic

/-!
# The io_uring completion loop

`iouringState.run` (`api_iouring.go`, lines 150-176) submits what is pending and waits, peeks a
batch of at most 256 completion entries at the head of the completion queue, hands them to
`processConn` one by one, and moves the queue's head with `CQAdvance`: past the entry
`processConn` fails on, or past the whole batch. An EAGAIN, EINTR or ETIME from the wait ends
the call at once.

The completion queue of `giouring` is not in the sources: it is modelled as liburing documents
it, the entries the kernel has posted and a head that only `CQAdvance` moves. `processConn` is
not in the sources either; its answers are a parameter, one per call. A schedule interleaves
the kernel's posts with calls of `run`.

* `RunSpec`, `run_spec`: everything one call of `run` can do, said once;
* `Ring.InOrder`: the entries handed to `processConn` are exactly those the head has passed, in
  the queue's order; `runSteps_inOrder` keeps it along every schedule;
* `runSteps_drains`: calls whose wait succeeds hand over every entry left, at least one a call;
* `run_passes_each_once`: so every entry is handed to `processConn` once and in order, with the
  head moved by `k + 1` on a failure at entry `k`, by the batch's length otherwise, and not at
  all on an early return.
-/

namespace Greatws

/-- `ETIME`, errno 62 on Linux: the wait of `SubmitAndWaitTimeout` timed out. -/
def etime : Errno := .other 62

/-- Modelled from liburing: the completion queue of a ring, as the entries the kernel has
posted, oldest first, and the head, the number of them `CQAdvance` has consumed; with, kept for
the proofs only, the entries handed to `processConn` so far. -/
structure Ring (α : Type) where
  posted : List α
  head : Nat
  passed : List α
  deriving DecidableEq, Repr

namespace Ring

variable {α : Type}

/-- `PeekBatchCQE(cqes)`: at most `len(cqes)` entries from the head, none consumed. -/
def peekBatchCQE (q : Ring α) (len : Nat) : List α := (q.posted.drop q.head).take len

/-- `advance(n)`, that is `CQAdvance(n)`: the head moves past `n` entries. -/
def advance (q : Ring α) (n : Nat) : Ring α := { q with head := q.head + n }

/-- The kernel posts completion entries. -/
def post (q : Ring α) (es : List α) : Ring α := { q with posted := q.posted ++ es }

/-- `processConn(cqe)` is called. -/
def pass (q : Ring α) (cqe : α) : Ring α := { q with passed := q.passed ++ [cqe] }

@[simp] theorem advance_posted (q : Ring α) (n : Nat) : (q.advance n).posted = q.posted := rfl
@[simp] theorem advance_head (q : Ring α) (n : Nat) : (q.advance n).head = q.head + n := rfl
@[simp] theorem advance_passed (q : Ring α) (n : Nat) : (q.advance n).passed = q.passed := rfl
@[simp] theorem pass_posted (q : Ring α) (x : α) : (q.pass x).posted = q.posted := rfl
@[simp] theorem pass_head (q : Ring α) (x : α) : (q.pass x).head = q.head := rfl
@[simp] theorem pass_passed (q : Ring α) (x : α) : (q.pass x).passed = q.passed ++ [x] := rfl

theorem length_peekBatchCQE (q : Ring α) :
    (q.peekBatchCQE 256).length = min 256 (q.posted.length - q.head) := by
  rw [peekBatchCQE, List.length_take, List.length_drop]

/-- **The queue's order.** The entries handed to `processConn` are exactly those the head has
moved past, in the order the kernel posted them. -/
structure InOrder (q : Ring α) : Prop where
  head_le : q.head ≤ q.posted.length
  passed_eq : q.passed = q.posted.take q.head

theorem InOrder.post {q : Ring α} (h : q.InOrder) (es : List α) : (q.post es).InOrder where
  head_le := by have := h.head_le; simp [Ring.post]; omega
  passed_eq := by simp [Ring.post, h.passed_eq, List.take_append_of_le_length h.head_le]

theorem InOrder.consume {q : Ring α} (h : q.InOrder) {k : Nat}
    (hk : k ≤ (q.peekBatchCQE 256).length) :
    ({ q with passed := q.passed ++ (q.peekBatchCQE 256).take k }.advance k).InOrder := by
  rw [length_peekBatchCQE] at hk
  have := h.head_le
  refine ⟨show q.head + k ≤ q.posted.length by omega,
    show q.passed ++ (q.peekBatchCQE 256).take k = q.posted.take (q.head + k) from ?_⟩
  rw [h.passed_eq, peekBatchCQE, List.take_take, Nat.min_eq_left (by omega), List.take_add]

theorem drop_prefix_peek {q r : Ring α} (hp : r.posted = q.posted) (hh : q.head ≤ r.head)
    (es : List α) :
    (q.peekBatchCQE 256).drop (r.head - q.head) <+: (r.post es).peekBatchCQE 256 := by
  obtain ⟨k, hk⟩ : ∃ k, r.head = q.head + k := ⟨r.head - q.head, by omega⟩
  simp only [peekBatchCQE, List.drop_take, List.drop_drop, Ring.post, hp, hk, Nat.add_sub_cancel_left]
  rw [List.prefix_take_iff, List.drop_append_eq_append_drop]
  exact ⟨(List.take_prefix _ _).trans (List.prefix_append _ _), by simp⟩

end Ring

namespace IouringState

variable {α : Type} (processConn : Nat → Option GoError)

/-- Lines 163-172 of `run`: entry `i` of the `numberOfCQEs` peeked goes to `processConn`, whose
answer to its `k`-th call is `processConn k`; on an error the head moves past the entry and
the error is returned; after the last entry the head moves past all of them. -/
def runBatch (numberOfCQEs : Nat) : List α → Nat → Ring α → Ring α × Option GoError
  | [], _, q => (q.advance numberOfCQEs, none)
  | cqe :: cqes, i, q =>
    match processConn q.passed.length with
    | some err => ((q.pass cqe).advance (i + 1), some err)
    | none => runBatch numberOfCQEs cqes (i + 1) (q.pass cqe)

/-- Whether `SubmitAndWaitTimeout`'s error ends `run` at once: EAGAIN, EINTR or ETIME. -/
def EndsRun (submit : Option Errno) : Prop :=
  submit = some .eagain ∨ submit = some .eintr ∨ submit = some etime

instance (submit : Option Errno) : Decidable (EndsRun submit) :=
  inferInstanceAs (Decidable (_ ∨ _ ∨ _))

/-- `iouringState.run`, on what `SubmitAndWaitTimeout` answered (`none` for nil). Any other
error of the wait is overwritten, as in the code. -/
def run (submit : Option Errno) (q : Ring α) : Ring α × Option GoError :=
  if EndsRun submit then (q, none)
  else
    let cqes := q.peekBatchCQE 256
    runBatch processConn cqes.length cqes 0 q

/-- What happens to the ring: the kernel posts entries, or the reactor calls `run`. -/
inductive RingStep (α : Type) where
  | post (es : List α)
  | run (submit : Option Errno)
  deriving DecidableEq, Repr

/-- The ring after a schedule. -/
def runSteps : Ring α → List (RingStep α) → Ring α
  | q, [] => q
  | q, .post es :: steps => runSteps (q.post es) steps
  | q, .run submit :: steps => runSteps (run processConn submit q).1 steps

/-! ## What a call does -/

/-- The loop over a batch: if `processConn` fails on entry `k`, the entries up to it have been
handed over and the head has moved past them; if it fails on none, all have been handed over
and the head has moved by `numberOfCQEs`. -/
theorem runBatch_spec (n : Nat) : ∀ (cqes : List α) (i : Nat) (q : Ring α),
    (∃ k < cqes.length, ∃ err, (∀ j < k, processConn (q.passed.length + j) = none) ∧
        processConn (q.passed.length + k) = some err ∧
        runBatch processConn n cqes i q =
          ({ q with passed := q.passed ++ cqes.take (k + 1) }.advance (i + k + 1), some err)) ∨
      ((∀ j < cqes.length, processConn (q.passed.length + j) = none) ∧
        runBatch processConn n cqes i q = ({ q with passed := q.passed ++ cqes }.advance n, none))
  | [], i, q => .inr ⟨by simp, by simp [runBatch]⟩
  | cqe :: cqes, i, q => by
    cases h : processConn q.passed.length with
    | some err => exact .inl ⟨0, by simp, err, by simp, h, by simp [runBatch, h]; rfl⟩
    | none =>
      have hlen : (q.pass cqe).passed.length = q.passed.length + 1 := by simp
      -- the first entry succeeds: the rest of the batch decides
      have hfirst (j : Nat) (hj : ∀ j' < j, processConn (q.passed.length + 1 + j') = none) :
          ∀ j' < j + 1, processConn (q.passed.length + j') = none := fun j' hj' => by
        rcases j' with _ | j'
        · exact h
        · simpa [Nat.add_assoc, Nat.add_comm 1] using hj j' (by omega)
      rcases runBatch_spec n cqes (i + 1) (q.pass cqe) with ⟨k, hk, err, hj, he, hr⟩ | ⟨hj, hr⟩
      · rw [hlen] at hj he
        refine .inl ⟨k + 1, by simp; omega, err, hfirst k hj, by rwa [Nat.add_right_comm,
          Nat.add_assoc] at he, ?_⟩
        simp only [runBatch, h, hr]
        simp [Ring.pass, Nat.add_assoc, Nat.add_comm 1]
      · rw [hlen] at hj
        refine .inr ⟨hfirst cqes.length hj, ?_⟩
        simp only [runBatch, h, hr]
        simp [Ring.pass]

/-- What one call of `run` can do: return at once on EAGAIN, EINTR or ETIME; or, with `B` the
batch at the head, hand `B`'s first `k + 1` entries to `processConn` and move the head past
them when it fails on entry `k`; or hand all of `B` and move the head past it. -/
inductive RunSpec (submit : Option Errno) (q : Ring α) : Ring α × Option GoError → Prop
  | early : EndsRun submit → RunSpec submit q (q, none)
  | failed (k : Nat) (err : GoError) : ¬ EndsRun submit → k < (q.peekBatchCQE 256).length →
      (∀ j < k, processConn (q.passed.length + j) = none) →
      processConn (q.passed.length + k) = some err →
      RunSpec submit q
        ({ q with passed := q.passed ++ (q.peekBatchCQE 256).take (k + 1) }.advance (k + 1),
          some err)
  | drained : ¬ EndsRun submit →
      (∀ j < (q.peekBatchCQE 256).length, processConn (q.passed.length + j) = none) →
      RunSpec submit q
        ({ q with passed := q.passed ++ q.peekBatchCQE 256 }.advance (q.peekBatchCQE 256).length,
          none)

/-- `run`'s spec: every call is one of the runs `RunSpec` names. -/
theorem run_spec (submit : Option Errno) (q : Ring α) :
    RunSpec processConn submit q (run processConn submit q) := by
  by_cases he : EndsRun submit
  · rw [run, if_pos he]
    exact .early he
  · rw [run, if_neg he]
    rcases runBatch_spec processConn (q.peekBatchCQE 256).length (q.peekBatchCQE 256) 0 q with
      ⟨k, hk, err, hj, herr, hr⟩ | ⟨hj, hr⟩
    · rw [hr, Nat.zero_add]
      exact .failed k err he hk hj herr
    · rw [hr]
      exact .drained he hj

variable {processConn}

theorem RunSpec.inOrder {submit : Option Errno} {q : Ring α} {r : Ring α × Option GoError}
    (h : RunSpec processConn submit q r) (hq : q.InOrder) : r.1.InOrder := by
  cases h with
  | early => exact hq
  | failed k err _ hk => exact hq.consume hk
  | drained =>
    simpa using hq.consume (le_refl (q.peekBatchCQE 256).length)

theorem RunSpec.head_le {submit : Option Errno} {q : Ring α} {r : Ring α × Option GoError}
    (h : RunSpec processConn submit q r) : r.1.posted = q.posted ∧ q.head ≤ r.1.head := by
  cases h <;> simp

variable (processConn)

/-- **Along every schedule the queue's order holds.** -/
theorem runSteps_inOrder : ∀ (q : Ring α) (steps : List (RingStep α)), q.InOrder →
    (runSteps processConn q steps).InOrder
  | _, [], hq => hq
  | q, .post es :: steps, hq => runSteps_inOrder (q.post es) steps (hq.post es)
  | q, .run submit :: steps, hq =>
    runSteps_inOrder _ steps ((run_spec processConn submit q).inOrder hq)

theorem run_progress (q : Ring α) :
    (q.head < q.posted.length → q.head < (run processConn none q).1.head) ∧
      (q.head = q.posted.length → (run processConn none q).1.head = q.head) := by
  have hlen := q.length_peekBatchCQE
  have hr := run_spec processConn none q
  generalize run processConn none q = r at hr ⊢
  rcases hr with he | ⟨k, _, _, hk⟩ | ⟨_, _⟩
  · exact absurd he (by simp [EndsRun])
  -- a failure at entry `k` moves the head by `k + 1`, and there is no entry `k` past the end
  · refine ⟨fun _ => by simp, fun h => ?_⟩
    rw [h, Nat.sub_self] at hlen
    omega
  -- the whole batch moves the head by its length, which is 0 only past the end
  · refine ⟨fun h => by simp; omega, fun h => ?_⟩
    rw [h, Nat.sub_self] at hlen
    simp [hlen]

/-- **Later calls hand over the rest.** From an ordered queue, as many calls with a successful
wait as there are entries past the head leave the head at the end of the queue, every entry
handed to `processConn`. -/
theorem runSteps_drains : ∀ (n : Nat) (q : Ring α), q.InOrder → q.posted.length - q.head ≤ n →
    (runSteps processConn q (List.replicate n (.run none))).passed = q.posted
  | 0, q, hq, hn => by
    rw [List.replicate_zero, runSteps, hq.passed_eq, List.take_of_length_le (by omega)]
  | n + 1, q, hq, hn => by
    have hr := run_spec processConn none q
    have hq' := hr.inOrder hq
    obtain ⟨hp, hh⟩ := hr.head_le
    have hpl : (run processConn none q).1.posted.length = q.posted.length := by rw [hp]
    rw [List.replicate_succ, runSteps, ← hp]
    refine runSteps_drains n _ hq' ?_
    rcases Nat.lt_or_ge q.head q.posted.length with hlt | hge
    · have := (run_progress processConn q).1 hlt
      omega
    · have := (run_progress processConn q).2 (le_antisymm hq.head_le hge)
      omega

/-- **Every completion entry is handed to `processConn` once, in the queue's order.** For every
pattern of `processConn`'s answers: along every schedule of the kernel's posts and the calls of
`run`, from an empty queue, the entries handed to `processConn` are exactly those the head has
moved past, in the order they were posted. Every call returns at once on EAGAIN, EINTR or ETIME
and moves nothing; or, with `B` the batch at the head, moves the head by exactly `k + 1` when
`processConn` fails on entry `k` of `B`, after handing it `B`'s first `k + 1` entries, or by
exactly the length of `B` after handing it all of them. What a call leaves of its batch heads
the batch of the next one, whatever the kernel posts in between, and as many later calls with a
successful wait as there are entries left hand all of them over. -/
theorem run_passes_each_once :
    (∀ steps : List (RingStep α), (runSteps processConn ⟨[], 0, []⟩ steps).InOrder) ∧
    (∀ (submit : Option Errno) (q : Ring α), RunSpec processConn submit q (run processConn submit q)) ∧
    (∀ (submit : Option Errno) (q : Ring α) (es : List α),
      (q.peekBatchCQE 256).drop ((run processConn submit q).1.head - q.head) <+:
        ((run processConn submit q).1.post es).peekBatchCQE 256) ∧
    (∀ (q : Ring α) (n : Nat), q.InOrder → q.posted.length - q.head ≤ n →
      (runSteps processConn q (List.replicate n (.run none))).passed = q.posted) :=
  ⟨fun steps => runSteps_inOrder processConn _ steps ⟨le_refl _, rfl⟩, run_spec processConn,
    fun submit q es =>
      let h := (run_spec processConn submit q).head_le
      Ring.drop_prefix_peek h.1 h.2 es,
    fun q n => runSteps_drains processConn n q⟩

/-- Three entries, the second of which `processConn` fails on: the first call hands over two and
moves the head by two, the second hands over the third. -/
example : runSteps (fun k => if k = 1 then some .eof else none)
    (⟨[], 0, []⟩ : Ring Nat) [.post [7, 8, 9], .run none, .run none] = ⟨[7, 8, 9], 3, [7, 8, 9]⟩ ∧
    (IouringState.run (fun k => if k = 1 then some .eof else none) none
      (⟨[7, 8, 9], 0, []⟩ : Ring Nat)) = (⟨[7, 8, 9], 2, [7, 8]⟩, some .eof) := by
  decide

end IouringState

end Greatws
