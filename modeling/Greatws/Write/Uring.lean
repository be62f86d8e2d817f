import Mathlib.Data.Multiset.Basic
import Mathlib.Tactic.Abel
import Greatws.Basic

/-!
# The io_uring write path

`WriteFrameOnlyIoUring` (`conn_unix.go`, lines 734-786) takes a buffer from `bytespool`, writes
the frame header and the payload into it (masked for a client), and then tries up to three
times, each under `c.mu`, to file the write in the connection's `sync.Map` under a fresh
sequence number: it advances `wSeq`, wrapping to 0 at `math.MaxUint16`, skips a number that is
still filed, and otherwise stores the write, with a `free` that puts the buffer back, and asks
the reactor to queue it under the number's low 16 bits (`addWrite`). A failure before the loop,
or three filed numbers in a row, puts the buffer back and returns the error.

`c.mu` is released between tries, so the tries of concurrent calls interleave, and the reactor
completes queued writes meanwhile. A `UringStep` is one atomic piece: the part of a call before
the loop, one try, or one completion.

* `reach_inv`: along every interleaving of calls and completions, `wSeq` and every filed number
  stay below `math.MaxUint16`, the filed numbers are distinct and so are their 16-bit tags, every
  queued tag names one filed write, and every buffer taken from the pool is, exactly once, back
  in the pool, held by a call in its loop, or owned by one filed write;
* `reach_orphan`: a write filed whose `addWrite` failed stays filed, its buffer out of the pool,
  along every run that follows;
* `writeFrameOnlyIoUring_alone`: a call that runs alone files its write under the first of the
  next three sequence numbers that is free, and fails with `store seq failed` exactly when all
  three are filed.
-/

namespace Greatws

/-! ### Sequence numbers -/

/-- `math.MaxUint16`, where `wSeq` wraps. -/
def maxUint16 : UInt32 := 65535

/-- The number a try files under: `c.wSeq++`, then 0 in place of `math.MaxUint16`. -/
def nextSeq (w : UInt32) : UInt32 := if w + 1 = maxUint16 then 0 else w + 1

theorem nextSeq_lt {w : UInt32} (h : w.toNat < 65535) : (nextSeq w).toNat < 65535 := by
  unfold nextSeq
  split
  · decide
  · rename_i hne
    have hadd : (w + 1).toNat = (w.toNat + 1) % 2 ^ 32 := by
      show (w.toBitVec + 1#32).toNat = _
      rw [BitVec.toNat_add]
      rfl
    have : (w + 1).toNat ≠ 65535 := fun e => hne (UInt32.toNat.inj e)
    omega

theorem toUInt16_inj {a b : UInt32} (ha : a.toNat < 65535) (hb : b.toNat < 65535)
    (h : a.toUInt16 = b.toUInt16) : a = b := by
  have h' := congrArg UInt16.toNat h
  rw [show a.toUInt16.toNat = a.toNat from UInt16.toNat_ofNat_of_lt (show a.toNat < 65536 by omega),
    show b.toUInt16.toNat = b.toNat from UInt16.toNat_ofNat_of_lt (show b.toNat < 65536 by omega)] at h'
  exact UInt32.toNat.inj h'

/-! ### The state -/

/-- `ioUringWrite`: the frame's bytes and, for its `free`, the pool buffer they sit in (buffers
are told apart by the order they were taken). -/
structure IoUringWrite where
  writeBuf : Bytes
  buf : Nat
  deriving DecidableEq, Repr

/-- A call of `WriteFrameOnlyIoUring` inside its loop: its frame's bytes, its buffer, and the
tries it has left. -/
structure Storing where
  writeBuf : Bytes
  buf : Nat
  tries : Nat
  deriving DecidableEq, Repr

/-- What `WriteFrameOnlyIoUring` returns when it fails: an error of `frame.WriteHeader`,
`fw.Write` or the reactor's `addWrite`, passed through, or its own `store seq failed`. -/
inductive UringWriteErr where
  | passed (e : GoError)
  | storeSeqFailed
  deriving DecidableEq, Repr

/-- A connection's `onlyIoUringState` (`wSeq` and the map `m`) and what follows its buffers: how
many the calls took from the pool, those put back, the calls in their loop (a bag: a try takes
one out, and puts it back with one try fewer if it goes on), the tags of the writes queued and
not completed, and what the calls returned. -/
structure UringWrites where
  wSeq : UInt32
  m : List (UInt32 × IoUringWrite)
  taken : Nat
  returned : List Nat
  storing : List Storing
  queued : List UInt16
  results : List (Option UringWriteErr)
  deriving DecidableEq, Repr

namespace UringWrites

/-- A connection no write has touched. -/
def init : UringWrites := ⟨0, [], 0, [], [], [], []⟩

/-- `sync.Map.Store`: the key's entry, replacing any it had. -/
def mapStore (m : List (UInt32 × IoUringWrite)) (k : UInt32) (v : IoUringWrite) :
    List (UInt32 × IoUringWrite) :=
  m.filter (fun p => p.1 ≠ k) ++ [(k, v)]

theorem mapStore_fresh {m : List (UInt32 × IoUringWrite)} {k : UInt32} (v : IoUringWrite)
    (h : k ∉ m.map Prod.fst) : mapStore m k v = m ++ [(k, v)] := by
  rw [mapStore, List.filter_eq_self.mpr]
  intro p hp
  have : p.1 ≠ k := fun e => h (e ▸ List.mem_map_of_mem _ hp)
  simpa using this

variable (mask : UInt32 → Bytes → Bytes)

/-- Lines 735-751, with `mask.Mask` (not in the sources) a parameter: take a buffer, write the
header `frame.WriteHeader` answers and the payload (`fw.Write` answers `wr`), and mask the
payload for a client; an error puts the buffer back. -/
def prepare (s : UringWrites) (hdr : Except GoError Bytes) (wr : Option GoError) (payload : Bytes)
    (isMask : Bool) (maskValue : UInt32) : UringWrites :=
  let buf := s.taken
  let s := { s with taken := s.taken + 1 }
  match hdr, wr with
  | .error e, _ | .ok _, some e =>
    { s with returned := s.returned ++ [buf], results := s.results ++ [some (.passed e)] }
  | .ok h, none =>
    let writeBuf := h ++ if isMask then mask maskValue payload else payload
    { s with storing := s.storing ++ [⟨writeBuf, buf, 3⟩] }

/-- Lines 754-785: one try of the `k`-th call in its loop, under `c.mu`, with `aw` the answer of
the reactor's `addWrite`. A filed number costs a try, and the third puts the buffer back with
`store seq failed`; a free one files the write and returns what `addWrite` answered. -/
def tryStore (s : UringWrites) (k : Nat) (aw : Option GoError) : UringWrites :=
  match s.storing[k]? with
  | none => s
  | some c =>
    let newSeq := nextSeq s.wSeq
    let s := { s with wSeq := newSeq, storing := s.storing.eraseIdx k }
    if newSeq ∈ s.m.map Prod.fst then
      if c.tries = 1 then
        { s with returned := s.returned ++ [c.buf], results := s.results ++ [some .storeSeqFailed] }
      else { s with storing := s.storing ++ [{ c with tries := c.tries - 1 }] }
    else
      { s with
        m := mapStore s.m newSeq ⟨c.writeBuf, c.buf⟩
        queued := aw.elim (s.queued ++ [newSeq.toUInt16]) fun _ => s.queued
        results := s.results ++ [aw.map .passed] }

/-- An assumption about `processConn`, which completes io_uring writes and is not in the
sources; the spec says nothing of how a completion finds its write. Assumed: the completion of
the write queued under tag `t` deletes the write filed under a number with those 16 bits and
calls its `free`, and only a queued write completes. -/
def complete (s : UringWrites) (t : UInt16) : UringWrites :=
  if t ∈ s.queued then
    { s with
      m := s.m.filter (fun p => !(p.1.toUInt16 == t))
      queued := s.queued.erase t
      returned := s.returned ++ (s.m.filter (fun p => p.1.toUInt16 == t)).map (·.2.buf) }
  else s

/-- One atomic piece of the io_uring write path. -/
inductive UringStep where
  | prepare (hdr : Except GoError Bytes) (wr : Option GoError) (payload : Bytes) (isMask : Bool)
      (maskValue : UInt32)
  | tryStore (k : Nat) (aw : Option GoError)
  | complete (t : UInt16)

/-- A step. -/
def step (s : UringWrites) : UringStep → UringWrites
  | .prepare hdr wr payload isMask maskValue => prepare mask s hdr wr payload isMask maskValue
  | .tryStore k aw => tryStore s k aw
  | .complete t => complete s t

/-- Steps one after the other, in any interleaving of calls and completions. -/
def run (s : UringWrites) (steps : List UringStep) : UringWrites := steps.foldl (step mask) s

/-- `WriteFrameOnlyIoUring` run alone: the part before the loop and its three tries, with `aw`
the answer of `addWrite`, which at most one try calls. -/
def writeFrameOnlyIoUring (s : UringWrites) (hdr : Except GoError Bytes) (wr : Option GoError)
    (payload : Bytes) (isMask : Bool) (maskValue : UInt32) (aw : Option GoError) : UringWrites :=
  let k := s.storing.length
  let s := prepare mask s hdr wr payload isMask maskValue
  ((s.tryStore k aw).tryStore k aw).tryStore k aw

/-! ### The invariant -/

/-- Where each buffer taken from the pool is: back in the pool, with a call in its loop, or with
a filed write. -/
def owners (s : UringWrites) : List Nat :=
  s.returned ++ s.storing.map (·.buf) ++ s.m.map (·.2.buf)

/-- What every interleaving keeps. -/
structure Inv (s : UringWrites) : Prop where
  wSeq_lt : s.wSeq.toNat < 65535
  keys_lt : ∀ p ∈ s.m, p.1.toNat < 65535
  keys_nodup : (s.m.map Prod.fst).Nodup
  owners_perm : (owners s).Perm (List.range s.taken)
  queued_nodup : s.queued.Nodup
  queued_filed : ∀ t ∈ s.queued, ∃ p ∈ s.m, p.1.toUInt16 = t

theorem inv_init : init.Inv where
  wSeq_lt := by decide
  keys_lt := by simp [init]
  keys_nodup := by simp [init]
  owners_perm := by simp [init, owners]
  queued_nodup := by simp [init]
  queued_filed := by simp [init]

theorem perm_eraseIdx {α : Type} {l : List α} {k : Nat} (hk : k < l.length) :
    l.Perm (l[k] :: l.eraseIdx k) := by
  rw [List.eraseIdx_eq_take_drop_succ]
  conv_lhs => rw [← List.take_append_drop k l, List.drop_eq_getElem_cons hk]
  exact List.perm_middle

variable {mask} {s : UringWrites}

theorem Inv.prepare (h : s.Inv) (hdr : Except GoError Bytes) (wr : Option GoError)
    (payload : Bytes) (isMask : Bool) (maskValue : UInt32) :
    (prepare mask s hdr wr payload isMask maskValue).Inv := by
  have hp := h.owners_perm
  rw [← Multiset.coe_eq_coe] at hp
  unfold UringWrites.prepare
  split
  all_goals
    refine { h with owners_perm := ?_ }
    rw [← Multiset.coe_eq_coe, List.range_succ]
    simp only [owners, List.map_append, List.map_cons, List.map_nil, ← Multiset.coe_add] at hp ⊢
    rw [← hp]
    abel

theorem Inv.tryStore (h : s.Inv) (k : Nat) (aw : Option GoError) : (s.tryStore k aw).Inv := by
  unfold UringWrites.tryStore
  rcases hc : s.storing[k]? with _ | c
  · exact h
  obtain ⟨hk, rfl⟩ := List.getElem?_eq_some_iff.mp hc
  dsimp only
  have hp := h.owners_perm
  rw [← Multiset.coe_eq_coe] at hp
  have hs : (↑(s.storing.map (·.buf)) : Multiset Nat) =
      ↑[s.storing[k].buf] + ↑((s.storing.eraseIdx k).map (·.buf)) := by
    rw [Multiset.coe_add, Multiset.coe_eq_coe]
    exact (perm_eraseIdx hk).map _
  have hlt := nextSeq_lt h.wSeq_lt
  simp only [owners, ← Multiset.coe_add, hs] at hp
  by_cases hfiled : nextSeq s.wSeq ∈ s.m.map Prod.fst
  · rw [if_pos hfiled]
    split
    -- a filed number on the last try: the buffer goes back
    · refine { h with wSeq_lt := hlt, owners_perm := ?_ }
      rw [← Multiset.coe_eq_coe, ← hp]
      simp only [owners, List.map_append, ← Multiset.coe_add]
      abel
    -- a filed number: one try fewer
    · refine { h with wSeq_lt := hlt, owners_perm := ?_ }
      rw [← Multiset.coe_eq_coe, ← hp]
      simp only [owners, List.map_append, List.map_cons, List.map_nil, ← Multiset.coe_add]
      abel
  -- a free number: the write is filed under it
  · rw [if_neg hfiled]
    have hstore := mapStore_fresh ⟨s.storing[k].writeBuf, s.storing[k].buf⟩ hfiled
    have hne : ∀ p ∈ s.m, p.1.toUInt16 ≠ (nextSeq s.wSeq).toUInt16 := fun p hp' e =>
      hfiled (toUInt16_inj (h.keys_lt p hp') hlt e ▸ List.mem_map_of_mem _ hp')
    refine ⟨hlt, ?_, ?_, ?_, ?_, ?_⟩
    · simp only [hstore, List.mem_append, List.mem_singleton]
      rintro p (hp' | rfl)
      exacts [h.keys_lt p hp', hlt]
    · rw [hstore, List.map_append, List.nodup_append]
      refine ⟨h.keys_nodup, List.nodup_singleton _, fun x hx hx' => hfiled ?_⟩
      simp only [List.map_cons, List.map_nil, List.mem_singleton] at hx'
      exact hx' ▸ hx
    · rw [← Multiset.coe_eq_coe, ← hp]
      simp only [owners, hstore, List.map_append, List.map_cons, List.map_nil, ← Multiset.coe_add]
      abel
    · cases aw
      · refine List.nodup_append.mpr ⟨h.queued_nodup, List.nodup_singleton _, ?_⟩
        intro t ht ht'
        obtain ⟨p, hp', rfl⟩ := h.queued_filed t ht
        exact hne p hp' (List.mem_singleton.mp ht')
      · exact h.queued_nodup
    · intro t ht
      have ht' : t ∈ s.queued ∨ t = (nextSeq s.wSeq).toUInt16 := by
        cases aw
        · simpa using ht
        · exact .inl ht
      rcases ht' with ht' | rfl
      · obtain ⟨p, hp', e⟩ := h.queued_filed t ht'
        exact ⟨p, by simp [hstore, hp'], e⟩
      · exact ⟨(nextSeq s.wSeq, ⟨s.storing[k].writeBuf, s.storing[k].buf⟩), by simp [hstore], rfl⟩

theorem Inv.complete (h : s.Inv) (t : UInt16) : (s.complete t).Inv := by
  unfold UringWrites.complete
  split_ifs with hq
  · have hp := h.owners_perm
    have hsplit := List.filter_append_perm (fun p : UInt32 × IoUringWrite => p.1.toUInt16 == t) s.m
    refine ⟨h.wSeq_lt, fun p hp' => h.keys_lt p (List.mem_of_mem_filter hp'),
      h.keys_nodup.sublist ((List.filter_sublist _).map _), ?_, h.queued_nodup.erase t, ?_⟩
    · rw [← Multiset.coe_eq_coe] at hp hsplit ⊢
      have hsplit' := congrArg (Multiset.map (·.2.buf)) hsplit
      simp only [owners, ← Multiset.coe_add, Multiset.map_add, Multiset.map_coe] at hp hsplit' ⊢
      rw [← hp, ← hsplit']
      abel
    · intro t' ht'
      have hne : t' ≠ t := fun e => by
        subst e
        exact (List.Nodup.not_mem_erase h.queued_nodup) ht'
      obtain ⟨p, hp', e⟩ := h.queued_filed t' (List.mem_of_mem_erase ht')
      exact ⟨p, List.mem_filter.mpr ⟨hp', by simpa [e] using hne⟩, e⟩
  · exact h

theorem Inv.step (h : s.Inv) : ∀ st : UringStep, (step mask s st).Inv
  | .prepare hdr wr payload isMask maskValue => h.prepare hdr wr payload isMask maskValue
  | .tryStore k aw => h.tryStore k aw
  | .complete t => h.complete t

theorem Inv.run (h : s.Inv) (steps : List UringStep) : (run mask s steps).Inv := by
  induction steps generalizing s with
  | nil => exact h
  | cons st steps ih => exact ih (h.step st)

/-! ### Every interleaving -/

/-- **Every interleaving.** Along every interleaving of calls of `WriteFrameOnlyIoUring` and
completions, from a connection no write has touched: `wSeq` and every filed number stay below
`math.MaxUint16`, the filed numbers are distinct, every queued tag names a filed write, every
buffer taken from the pool is, exactly once, back in the pool, with a call in its loop, or with
one filed write; and two filed writes never share the 16-bit tag `addWrite` queues them under. -/
theorem reach_inv (steps : List UringStep) :
    (run mask init steps).Inv ∧ ∀ p ∈ (run mask init steps).m, ∀ q ∈ (run mask init steps).m,
      p.1.toUInt16 = q.1.toUInt16 → p.1 = q.1 := by
  have h := @Inv.run mask _ inv_init steps
  exact ⟨h, fun p hp q hq => toUInt16_inj (h.keys_lt p hp) (h.keys_lt q hq)⟩

theorem Inv.not_returned (h : s.Inv) {p : UInt32 × IoUringWrite} (hp : p ∈ s.m) :
    p.2.buf ∉ s.returned := by
  have hn := h.owners_perm.nodup_iff.mpr (List.nodup_range _)
  rw [owners, List.nodup_append] at hn
  exact fun hr => hn.2.2 (List.mem_append_left _ hr) (List.mem_map_of_mem _ hp)

theorem Inv.orphan_step (h : s.Inv) {p : UInt32 × IoUringWrite} (hp : p ∈ s.m)
    (hq : p.1.toUInt16 ∉ s.queued) (st : UringStep) :
    p ∈ (UringWrites.step mask s st).m ∧ p.1.toUInt16 ∉ (UringWrites.step mask s st).queued := by
  cases st with
  | prepare hdr wr payload isMask maskValue =>
    dsimp only [UringWrites.step, UringWrites.prepare]
    split <;> exact ⟨hp, hq⟩
  | tryStore k aw =>
    dsimp only [UringWrites.step]
    unfold UringWrites.tryStore
    split
    · exact ⟨hp, hq⟩
    dsimp only
    split
    · split <;> exact ⟨hp, hq⟩
    · rename_i hfiled
      have hne : p.1.toUInt16 ≠ (nextSeq s.wSeq).toUInt16 := fun e =>
        hfiled (toUInt16_inj (h.keys_lt p hp) (nextSeq_lt h.wSeq_lt) e ▸ List.mem_map_of_mem _ hp)
      rw [mapStore_fresh _ hfiled]
      refine ⟨List.mem_append_left _ hp, ?_⟩
      cases aw <;> simp [hq, hne]
  | complete t =>
    dsimp only [UringWrites.step]
    unfold UringWrites.complete
    split
    · rename_i ht
      have hne : p.1.toUInt16 ≠ t := fun e => hq (e ▸ ht)
      exact ⟨List.mem_filter.mpr ⟨hp, by simpa using hne⟩, fun h' => hq (List.mem_of_mem_erase h')⟩
    · exact ⟨hp, hq⟩

/-- **A write whose `addWrite` failed is never freed.** Once a write is filed and its tag is not
queued (the reactor's `addWrite` failed, and `WriteFrameOnlyIoUring` returned that error), no
completion deletes it: along every interleaving that follows, it stays filed, its sequence number
taken, and its buffer out of the pool. -/
theorem reach_orphan (h : s.Inv) {p : UInt32 × IoUringWrite} (hp : p ∈ s.m)
    (hq : p.1.toUInt16 ∉ s.queued) (steps : List UringStep) :
    p ∈ (run mask s steps).m ∧ p.2.buf ∉ (run mask s steps).returned := by
  induction steps generalizing s with
  | nil => exact ⟨hp, h.not_returned hp⟩
  | cons st steps ih =>
    obtain ⟨hp', hq'⟩ := h.orphan_step hp hq st
    exact ih (h.step st) hp' hq'

/-- A write filed after `addWrite` answered ENOENT, then a second write queued and completed:
the first stays filed, its buffer out of the pool. -/
theorem reach_orphan_enoent :
    let pre : List UringStep := [.prepare (.ok [0x82, 0]) none [] false 0,
      .tryStore 0 (some (.errno .enoent))]
    let post : List UringStep := [.prepare (.ok [0x82, 0]) none [] false 0, .tryStore 0 none,
      .complete 2]
    let s := run (fun _ b => b) init pre
    (1, ⟨[0x82, 0], 0⟩) ∈ (run (fun _ b => b) s post).m ∧
      0 ∉ (run (fun _ b => b) s post).returned ∧ (run (fun _ b => b) s post).queued = [] :=
  have h := reach_orphan (inv_init.run _) (p := (1, ⟨[0x82, 0], 0⟩)) (by decide) (by decide)
    [.prepare (.ok [0x82, 0]) none [] false 0, .tryStore 0 none, .complete 2]
  ⟨h.1, h.2, by decide⟩

/-! ### A call run alone -/

/-- The three numbers a call's tries probe, from `wSeq` on. -/
def probes (w : UInt32) : List UInt32 := [nextSeq w, nextSeq (nextSeq w), nextSeq (nextSeq (nextSeq w))]

/-- **A call run alone** (its frame written): it files its write under the first of the next
three sequence numbers that no write holds, with the buffer it took, and returns what
`addWrite` answered; when all three are held it files nothing, puts the buffer back and returns
`store seq failed`, with `wSeq` three numbers on. -/
theorem writeFrameOnlyIoUring_alone (s : UringWrites) (h payload : Bytes) (isMask : Bool)
    (maskValue : UInt32) (aw : Option GoError) :
    let r := writeFrameOnlyIoUring mask s (.ok h) none payload isMask maskValue aw
    let e : IoUringWrite := ⟨h ++ if isMask then mask maskValue payload else payload, s.taken⟩
    match (probes s.wSeq).find? (fun n => decide (n ∉ s.m.map Prod.fst)) with
    | some n => r.wSeq = n ∧ r.m = s.m ++ [(n, e)] ∧ r.returned = s.returned ∧
        r.results = s.results ++ [aw.map .passed]
    | none => r.wSeq = nextSeq (nextSeq (nextSeq s.wSeq)) ∧ r.m = s.m ∧
        r.returned = s.returned ++ [s.taken] ∧ r.results = s.results ++ [some .storeSeqFailed] := by
  have hlen : ∀ c : Storing, (s.storing ++ [c])[s.storing.length]? = some c :=
    List.getElem?_concat_length _
  have herase : ∀ c : Storing, (s.storing ++ [c]).eraseIdx s.storing.length = s.storing := fun c => by
    simp [List.eraseIdx_append_of_length_le]
  dsimp only [writeFrameOnlyIoUring, prepare]
  by_cases h1 : nextSeq s.wSeq ∈ s.m.map Prod.fst
  -- the first number is held
  · by_cases h2 : nextSeq (nextSeq s.wSeq) ∈ s.m.map Prod.fst
    · by_cases h3 : nextSeq (nextSeq (nextSeq s.wSeq)) ∈ s.m.map Prod.fst
      · simp only [tryStore, hlen, herase, h1, h2, h3, ↓reduceIte, OfNat.ofNat_ne_one,
          Nat.add_one_sub_one, probes, List.find?_cons_of_neg, List.find?_nil, not_true_eq_false,
          decide_False, Bool.false_eq_true, not_false_eq_true, and_self]
      · simp only [tryStore, hlen, herase, h1, h2, h3, ↓reduceIte, OfNat.ofNat_ne_one,
          Nat.add_one_sub_one, mapStore_fresh _ h3, List.getElem?_length, probes,
          List.find?_cons_of_neg, List.find?_cons_of_pos, not_true_eq_false, not_false_eq_true,
          decide_False, decide_True, Bool.false_eq_true, and_self]
    · simp only [tryStore, hlen, herase, h1, h2, ↓reduceIte, OfNat.ofNat_ne_one, Nat.add_one_sub_one,
        mapStore_fresh _ h2, List.getElem?_length, probes, List.find?_cons_of_neg,
        List.find?_cons_of_pos, not_true_eq_false, not_false_eq_true, decide_False, decide_True,
        Bool.false_eq_true, and_self]
  -- the first number is free
  · simp only [tryStore, hlen, herase, h1, ↓reduceIte, mapStore_fresh _ h1, List.getElem?_length,
      probes, List.find?_cons_of_pos, not_false_eq_true, decide_True, and_self]

/-- With 1 and 2 held, a call files its write under 3. -/
example : (writeFrameOnlyIoUring (fun _ b => b)
      ⟨0, [(1, ⟨[], 0⟩), (2, ⟨[], 1⟩)], 2, [], [], [], []⟩ (.ok [0x82, 0]) none [] false 0 none).m =
    [(1, ⟨[], 0⟩), (2, ⟨[], 1⟩), (3, ⟨[0x82, 0], 2⟩)] := by decide

end UringWrites

end Greatws
