import Greatws.Frame.Callback

/-!
# Reassembly over a stream of frames

`processAll` folds `processCallback` over the frames of a connection, as its read path hands
them over one at a time. A valid stream is a list of data messages, each a first Text or Binary
frame followed by Continuation frames, with Ping and Pong frames anywhere among them
(`Message`, `Message.Valid`).

* `processCallback_first`, `processCallback_middle` and `processCallback_completes` are the
  three steps of a message; `processCallback_pingPong` the step of a control frame;
* `processAll_message`: the frames of one message take the dispatcher from no message in
  progress back to none, and deliver the message once;
* `processAll_messages`: over a whole valid stream, every call returns nil, no `OnClose` is
  invoked, and the Text and Binary `OnMessage` calls are one per message, in wire order, with
  the message's opcode and its reassembled, inflated payload.
-/

namespace Greatws

/-- The `OnMessage` calls among `es` whose opcode is Text or Binary, in order. -/
def dataMessages (es : List Event) : List (Nat × Bytes) :=
  es.filterMap fun
    | .onMessage op p => if op = Opcode.text ∨ op = Opcode.binary then some (op, p) else none
    | _ => none

/-- No `OnClose` among `es`. -/
def NoOnClose (es : List Event) : Prop := ∀ e ∈ es, ∀ x, e ≠ .onClose x

@[simp] theorem dataMessages_nil : dataMessages [] = [] := rfl

@[simp] theorem dataMessages_append (es es' : List Event) :
    dataMessages (es ++ es') = dataMessages es ++ dataMessages es' :=
  List.filterMap_append _ _ _

theorem noOnClose_append {es es' : List Event} (h : NoOnClose es) (h' : NoOnClose es') :
    NoOnClose (es ++ es') := by
  intro e he
  rcases List.mem_append.mp he with he | he
  exacts [h e he, h' e he]

theorem dataMessages_pingPong (cfg : Config) {g : Frame} (hp : PingPong g) :
    dataMessages (pingPongEvents cfg g) = [] := by
  have hop : g.header.opcode ≠ 1 ∧ g.header.opcode ≠ 2 := by
    rcases hp.1 with h | h <;> simp [h]
  unfold pingPongEvents dataMessages
  split_ifs <;> simp [hop]

theorem noOnClose_pingPong (cfg : Config) (g : Frame) : NoOnClose (pingPongEvents cfg g) := by
  unfold pingPongEvents NoOnClose
  split_ifs <;> simp

section Stream

variable (cfg : Config) (codec : Codec) (wm : Nat → Bytes → Option GoError)

/-- `processCallback` folded over a stream of frames: the last state, everything done, in order,
and each call's error. -/
def processAll : Fragments → List Frame → Fragments × List Event × List (Option GoError)
  | c, [] => (c, [], [])
  | c, f :: fs =>
    let o := processCallback cfg codec wm c f
    let r := processAll o.frag fs
    (r.1, o.events ++ r.2.1, o.err :: r.2.2)

/-- A run of `processAll` from `c` over `fs` that ends in `c'`, returns nil at every call,
invokes no `OnClose`, and delivers the data messages `ms`, in order. -/
def Delivers (c : Fragments) (fs : List Frame) (c' : Fragments) (ms : List (Nat × Bytes)) : Prop :=
  (processAll cfg codec wm c fs).1 = c' ∧ (∀ e ∈ (processAll cfg codec wm c fs).2.2, e = none) ∧
    dataMessages (processAll cfg codec wm c fs).2.1 = ms ∧ NoOnClose (processAll cfg codec wm c fs).2.1

variable {cfg codec wm}

theorem processAll_append (c : Fragments) (fs gs : List Frame) :
    processAll cfg codec wm c (fs ++ gs) =
      ((processAll cfg codec wm (processAll cfg codec wm c fs).1 gs).1,
        (processAll cfg codec wm c fs).2.1 ++ (processAll cfg codec wm (processAll cfg codec wm c fs).1 gs).2.1,
        (processAll cfg codec wm c fs).2.2 ++ (processAll cfg codec wm (processAll cfg codec wm c fs).1 gs).2.2) := by
  induction fs generalizing c with
  | nil => rfl
  | cons f fs ih => simp [processAll, ih]


theorem Delivers.nil (c : Fragments) : Delivers cfg codec wm c [] c [] := by
  simp [Delivers, processAll, dataMessages, NoOnClose]

theorem Delivers.append {c c₁ c₂ : Fragments} {fs gs : List Frame} {ms₁ ms₂ : List (Nat × Bytes)}
    (h₁ : Delivers cfg codec wm c fs c₁ ms₁) (h₂ : Delivers cfg codec wm c₁ gs c₂ ms₂) :
    Delivers cfg codec wm c (fs ++ gs) c₂ (ms₁ ++ ms₂) := by
  obtain ⟨e₁, r₁, d₁, n₁⟩ := h₁
  obtain ⟨e₂, r₂, d₂, n₂⟩ := h₂
  subst e₁
  refine ⟨by rw [processAll_append]; exact e₂, ?_, ?_, ?_⟩ <;> rw [processAll_append]
  · intro e he; rcases List.mem_append.mp he with he | he; exacts [r₁ e he, r₂ e he]
  · simp [d₁, d₂]
  · exact noOnClose_append n₁ n₂

theorem delivers_single {c c' : Fragments} {f : Frame} {es : List Event}
    (h : processCallback cfg codec wm c f = ⟨c', es, none⟩) (hn : NoOnClose es) :
    Delivers cfg codec wm c [f] c' (dataMessages es) := by
  simp [Delivers, processAll, h, hn]

theorem delivers_pingPong (hw : ∀ p, wm Opcode.pong p = none) (c : Fragments) :
    ∀ gs : List Frame, (∀ g ∈ gs, PingPong g) → Delivers cfg codec wm c gs c []
  | [], _ => Delivers.nil c
  | g :: gs, hg => by
    have hp := hg g (List.mem_cons_self _ _)
    have h1 : Delivers cfg codec wm c [g] c (dataMessages (pingPongEvents cfg g)) :=
      delivers_single (processCallback_pingPong hp (hw _)) (noOnClose_pingPong cfg g)
    rw [dataMessages_pingPong cfg hp] at h1
    exact h1.append (delivers_pingPong hw c gs fun g' hg' => hg g' (List.mem_cons_of_mem _ hg'))

/-! ## The steps of a message -/

variable {c : Fragments} {f : Frame}

/-- The first frame of a fragmented message opens it. -/
theorem processCallback_first (hop : f.header.opcode = Opcode.text ∨ f.header.opcode = Opcode.binary)
    (hfin : f.header.getFin = false) (h2 : f.header.getRsv2 = false) (h3 : f.header.getRsv3 = false)
    (h1 : f.header.getRsv1 = true → cfg.decompression = true) :
    processCallback cfg codec wm Fragments.init f = ⟨⟨f.payload, some f.header⟩, [], none⟩ := by
  rw [processCallback_pass (rsvFails_data (by simpa [messageOpcode, Fragments.init] using hop) h2 h3 h1)]
  simp only [Fragments.init, processFrame, if_pos hop, processData, hfin]
  rfl

/-- A Continuation frame without FIN adds its payload to the message in progress. -/
theorem processCallback_middle {fh : FrameHeader} {acc : Bytes}
    (hcont : f.header.opcode = Opcode.continuation) (hfin : f.header.getFin = false)
    (h1 : f.header.getRsv1 = false) (h2 : f.header.getRsv2 = false) (h3 : f.header.getRsv3 = false) :
    processCallback cfg codec wm ⟨acc, some fh⟩ f = ⟨⟨acc ++ f.payload, some fh⟩, [], none⟩ := by
  rw [processCallback_pass (by simp [rsvFails, h1, h2, h3])]
  simp [hcont, Opcode.isControl, processContinuation, hfin]

theorem delivers_completes {op : Nat} {p : Bytes} (h : Completes cfg codec c f op p)
    (hu : op = Opcode.text → cfg.utf8Check p = true) :
    Delivers cfg codec wm c [f]
      (match c.fragmentFrameHeader with
        | some _ => Fragments.init
        | none => c) [(op, p)] := by
  have hop : op = Opcode.text ∨ op = Opcode.binary := by cases h <;> assumption
  have hnot : ¬ (op = Opcode.text ∧ cfg.utf8Check p = false) := fun ⟨ht, hf⟩ => by simp [hu ht] at hf
  have hd : dataMessages [.onMessage op p] = [(op, p)] := by
    simp only [dataMessages, List.filterMap_cons, List.filterMap_nil, if_pos hop]
  rw [← hd]
  exact delivers_single ((processCallback_completes h).trans (if_neg hnot)) (by simp [NoOnClose])

theorem delivers_middles (hw : ∀ p, wm Opcode.pong p = none) (fh : FrameHeader) :
    ∀ (xs : List (List Frame × Frame)) (acc : Bytes),
      (∀ x ∈ xs, x.2.header.opcode = Opcode.continuation ∧ x.2.header.getFin = false ∧
        x.2.header.getRsv1 = false ∧ x.2.header.getRsv2 = false ∧ x.2.header.getRsv3 = false) →
      (∀ x ∈ xs, ∀ g ∈ x.1, PingPong g) →
      Delivers cfg codec wm ⟨acc, some fh⟩ (xs.flatMap fun x => x.1 ++ [x.2])
        ⟨acc ++ (xs.map fun x => x.2.payload).flatten, some fh⟩ []
  | [], acc, _, _ => by simpa using (Delivers.nil _ : Delivers cfg codec wm ⟨acc, some fh⟩ [] _ [])
  | x :: xs, acc, hx, hc => by
    obtain ⟨hcont, hfin, h1, h2, h3⟩ := hx x (List.mem_cons_self _ _)
    have hctl : Delivers cfg codec wm ⟨acc, some fh⟩ x.1 ⟨acc, some fh⟩ [] :=
      delivers_pingPong hw _ x.1 (hc x (List.mem_cons_self _ _))
    have hmid : Delivers cfg codec wm ⟨acc, some fh⟩ [x.2] ⟨acc ++ x.2.payload, some fh⟩ [] :=
      delivers_single (processCallback_middle hcont hfin h1 h2 h3) (by simp [NoOnClose])
    have hrest := delivers_middles hw fh xs (acc ++ x.2.payload)
      (fun y hy => hx y (List.mem_cons_of_mem _ hy)) (fun y hy => hc y (List.mem_cons_of_mem _ hy))
    simpa using (hctl.append hmid).append hrest

end Stream

/-- One data message as it arrives: its data frames in order, the first a Text or Binary frame
and the others Continuations, each after the Ping and Pong frames that arrive just before it. -/
structure Message where
  first : List Frame × Frame
  rest : List (List Frame × Frame)

namespace Message

variable (m : Message)

/-- The message's frames on the wire. -/
def frames : List Frame := (m.first :: m.rest).flatMap fun x => x.1 ++ [x.2]

/-- The message's opcode: that of its first frame. -/
def opcode : Nat := m.first.2.header.opcode

/-- The payloads of its data frames, one after the other. -/
def assembled : Bytes := ((m.first :: m.rest).map fun x => x.2.payload).flatten

/-- `m` is a valid message that delivers `p`: a Text or Binary first frame with RSV1 only when
decompression is on, Continuations after it with their RSV bits clear, FIN on the last data
frame only, Ping and Pong frames among them, and a payload that inflates, when the first frame
has RSV1, to `p`, which passes the configured check if the message is Text. -/
structure Valid (cfg : Config) (codec : Codec) (p : Bytes) : Prop where
  data : m.opcode = Opcode.text ∨ m.opcode = Opcode.binary
  first_rsv : m.first.2.header.getRsv2 = false ∧ m.first.2.header.getRsv3 = false ∧
    (m.first.2.header.getRsv1 = true → cfg.decompression = true)
  rest_cont : ∀ x ∈ m.rest, x.2.header.opcode = Opcode.continuation ∧
    x.2.header.getRsv1 = false ∧ x.2.header.getRsv2 = false ∧ x.2.header.getRsv3 = false
  fin : (m.first :: m.rest).map (fun x => x.2.header.getFin) =
    List.replicate m.rest.length false ++ [true]
  controls : ∀ x ∈ m.first :: m.rest, ∀ g ∈ x.1, PingPong g
  inflate : inflateIf codec (m.first.2.header.getRsv1 && cfg.decompression) m.assembled = .ok p
  utf8 : m.opcode = Opcode.text → cfg.utf8Check p = true

end Message

section Stream

variable {cfg : Config} {codec : Codec} {wm : Nat → Bytes → Option GoError}

theorem fins_split {b₀ bL : Bool} {bs : List Bool} {n : Nat}
    (h : b₀ :: (bs ++ [bL]) = List.replicate n false ++ [true]) :
    b₀ = false ∧ (∀ b ∈ bs, b = false) ∧ bL = true := by
  have hs : b₀ :: bs = List.replicate n false ∧ [bL] = [true] := List.append_inj' h rfl
  have hn : n = bs.length + 1 := by simpa using (congrArg List.length hs.1).symm
  rw [hn, List.replicate_succ, List.cons_eq_cons, List.eq_replicate_iff] at hs
  exact ⟨hs.1.1, hs.1.2.2, by simpa using hs.2⟩

/-- **One message.** The frames of a valid message take the dispatcher from no message in
progress back to none, return nil at every call, and deliver the message once. -/
theorem processAll_message (hw : ∀ p, wm Opcode.pong p = none) {m : Message} {p : Bytes}
    (hv : m.Valid cfg codec p) :
    Delivers cfg codec wm Fragments.init m.frames Fragments.init [(m.opcode, p)] := by
  obtain ⟨⟨ctl₀, f₀⟩, rest⟩ := m
  obtain ⟨hop, ⟨h2, h3, h1⟩, hcont, hfin, hctl, hinf, hu⟩ := hv
  have hctl₀ : Delivers cfg codec wm Fragments.init ctl₀ Fragments.init [] :=
    delivers_pingPong hw _ ctl₀ (hctl _ (List.mem_cons_self _ _))
  rcases List.eq_nil_or_concat rest with rfl | ⟨mids, ⟨ctlL, fL⟩, rfl⟩
  -- a message of one frame
  · have hc : Completes cfg codec Fragments.init f₀ f₀.header.opcode p :=
      .single rfl hop (by simpa using hfin) h2 h3 h1 (by simpa [Message.assembled] using hinf)
    simpa [Message.frames] using hctl₀.append (delivers_completes hc hu)
  -- a fragmented message: the first frame, the middle ones, the last
  · simp only [List.concat_eq_append] at *
    obtain ⟨hfin₀, hfins, hfinL⟩ := fins_split (by simpa using hfin)
    have hmem : ∀ x ∈ mids, x ∈ mids ++ [(ctlL, fL)] := fun x hx => List.mem_append_left _ hx
    have hlast := hcont (ctlL, fL) (by simp)
    have hfirst : Delivers cfg codec wm Fragments.init [f₀] ⟨f₀.payload, some f₀.header⟩ [] :=
      delivers_single (processCallback_first hop hfin₀ h2 h3 h1) (by simp [NoOnClose])
    -- the payload gathered before the last frame
    let acc := f₀.payload ++ (mids.map fun x => x.2.payload).flatten
    have hmid : Delivers cfg codec wm ⟨f₀.payload, some f₀.header⟩
        (mids.flatMap fun x => x.1 ++ [x.2]) ⟨acc, some f₀.header⟩ [] :=
      delivers_middles hw f₀.header mids f₀.payload
        (fun x hx => ⟨(hcont x (hmem x hx)).1, hfins _ (List.mem_map_of_mem (fun x => x.2.header.getFin) hx),
          (hcont x (hmem x hx)).2⟩) (fun x hx => hctl x (List.mem_cons_of_mem _ (hmem x hx)))
    have hctlL : Delivers cfg codec wm ⟨acc, some f₀.header⟩ ctlL ⟨acc, some f₀.header⟩ [] :=
      delivers_pingPong hw _ ctlL (hctl (ctlL, fL) (by simp))
    have hc : Completes cfg codec ⟨acc, some f₀.header⟩ fL f₀.header.opcode p :=
      .last rfl hop hlast.1 (by simpa using hfinL) hlast.2.2.1 hlast.2.2.2
        (by simp [hlast.2.1]) (by simpa [acc, Message.assembled] using hinf)
    simpa [Message.frames] using
      ((((hctl₀.append hfirst).append hmid).append hctlL).append (delivers_completes hc hu))

/-- **Reassembly.** Over a stream of valid messages followed by Ping and Pong frames, with the
Pong replies written: every call returns nil, no `OnClose` is invoked, the dispatcher ends with
no message in progress, and the Text and Binary `OnMessage` calls are one per message, in wire
order, each with the message's opcode and its reassembled, inflated payload. -/
theorem processAll_messages (hw : ∀ p, wm Opcode.pong p = none) (msgs : List (Message × Bytes))
    (tail : List Frame) (hm : ∀ mp ∈ msgs, mp.1.Valid cfg codec mp.2)
    (ht : ∀ g ∈ tail, PingPong g) :
    Delivers cfg codec wm Fragments.init ((msgs.flatMap fun mp => mp.1.frames) ++ tail)
      Fragments.init (msgs.map fun mp => (mp.1.opcode, mp.2)) := by
  induction msgs with
  | nil => simpa using delivers_pingPong hw _ tail ht
  | cons mp msgs ih =>
    simpa using (processAll_message hw (hm mp (List.mem_cons_self _ _))).append
      (ih fun mp' h => hm mp' (List.mem_cons_of_mem _ h))

/-- The spec's two-fragment Binary message, with a Ping between its fragments. -/
theorem processAll_messages_fragmented :
    Delivers ⟨false, false, true, false, true⟩ ⟨.ok, .ok⟩ (fun _ _ => none) Fragments.init
      [⟨⟨2, 2, 0, false, 0x02⟩, [1, 2], rfl⟩, ⟨⟨0, 9, 0, false, 0x89⟩, [], rfl⟩,
        ⟨⟨2, 0, 0, false, 0x80⟩, [3, 4], rfl⟩]
      Fragments.init [(2, [1, 2, 3, 4])] :=
  processAll_messages (fun _ => rfl)
    [(⟨([], ⟨⟨2, 2, 0, false, 0x02⟩, [1, 2], rfl⟩),
      [([⟨⟨0, 9, 0, false, 0x89⟩, [], rfl⟩], ⟨⟨2, 0, 0, false, 0x80⟩, [3, 4], rfl⟩)]⟩, [1, 2, 3, 4])] []
    (by
      simp only [List.mem_singleton, forall_eq]
      exact ⟨Or.inr rfl, by decide, by decide, by decide, by simp [PingPong]; decide, rfl, by decide⟩)
    (by simp)

end Stream


end Greatws
