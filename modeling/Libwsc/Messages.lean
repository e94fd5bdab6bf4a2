import Libwsc.FrameEncoding

/-! Messages as the server fragments them, with pings and pongs between any two frames, and what
the frame handlers make of them. `expectStream` is the message-level reading: per message its
pings, then one outcome, with one validator check per fragment of uncompressed text and one
`rxInflate` on the whole of a compressed message. `runFrames_streamFrames` shows the handlers
make exactly those calls, for a sink that stops once it has failed the connection. -/
namespace Libwsc

/-- A control frame the server may send between any two frames. -/
inductive Control where
  | ping (payload : Bytes)
  | pong (payload : Bytes)
  deriving DecidableEq, Repr

def Control.frame : Control → Frame
  | .ping p => ⟨true, false, 9, p⟩
  | .pong p => ⟨true, false, 10, p⟩

/-- A data message: opcode 1 (text) or 2 (binary), RSV1 on its first frame, its first fragment,
and each further fragment with the control frames sent just before it. -/
structure Message where
  opcode : Nat
  compressed : Bool
  first : Bytes
  rest : List (List Control × Bytes)
  deriving DecidableEq, Repr

/-- `p1 ++ ... ++ pn` -/
def Message.payload (m : Message) : Bytes := m.first ++ (m.rest.map Prod.snd).flatten

/-- Text or binary, and every control frame among its fragments at most 125 bytes. -/
def Message.WellFormed (m : Message) : Prop :=
  (m.opcode = 1 ∨ m.opcode = 2) ∧ ∀ p ∈ m.rest, ∀ c ∈ p.1, c.frame.payload.length ≤ 125

instance (m : Message) : Decidable m.WellFormed := inferInstanceAs (Decidable (_ ∧ _))

/-- The continuation frames of a message, each after its control frames; FIN on the last. -/
def continuationFrames : List (List Control × Bytes) → List Frame
  | [] => []
  | (cs, p) :: more =>
    cs.map Control.frame ++ ⟨more.isEmpty, false, 0, p⟩ :: continuationFrames more

def Message.frames (m : Message) : List Frame :=
  ⟨m.rest.isEmpty, m.compressed, m.opcode, m.first⟩ :: continuationFrames m.rest

/-- A stream of messages, each after the control frames sent before it. -/
def streamFrames (ms : List (List Control × Message)) : List Frame :=
  ms.flatMap fun p => p.1.map Control.frame ++ p.2.frames

namespace Receiver

variable (env : Env)

/-- The handlers on a sequence of frames, as `onData`'s loop calls them: none once the sink
reports terminating, and an unknown opcode fails the connection. -/
def runFrames (st : Receiver) : List Frame → Receiver
  | [] => st
  | f :: fs =>
    if env.sink.rxIsTerminating st.trace then st
    else
      match handleFrame env st f.fin f.rsv1 f.opcode f.payload with
      | some st => runFrames st fs
      | none => st.fail 1002 "Unsupported opcode"

theorem handleFrame_isSome (st : Receiver) (fin rsv1 : Bool) {opcode : Nat}
    (hOp : opcode ∈ [0, 1, 2, 8, 9, 10]) (payload : Bytes) :
    (handleFrame env st fin rsv1 opcode payload).isSome := by
  simp only [List.mem_cons, List.mem_singleton, List.not_mem_nil, or_false] at hOp
  rcases hOp with rfl | rfl | rfl | rfl | rfl | rfl <;> rfl

/-- `runFrames` is `onData` on a buffer of the frames, each in any admissible length form. -/
theorem onData_encoded_runFrames (st : Receiver) (fs : List (Frame × LengthForm))
    (hfs : ∀ p ∈ fs, p.1.WellFormed ∧ p.2.Admits p.1.payload.length)
    (hce : ∀ p ∈ fs, p.1.rsv1 = true → ∀ t, env.sink.rxCompressionEnabled t = true) :
    ∃ rest, onData env st (fs.map fun p => p.1.encode p.2).flatten =
      some (runFrames env st (fs.map Prod.fst), rest) := by
  induction fs generalizing st with
  | nil => exact ⟨[], onData_of_done env (by unfold onDataStep; split_ifs <;> rfl)⟩
  | cons p fs ih =>
    obtain ⟨f, form⟩ := p
    obtain ⟨hf, hForm⟩ := hfs _ (List.mem_cons_self _ _)
    rw [List.map_cons, List.flatten_cons]
    by_cases hT : env.sink.rxIsTerminating st.trace = true
    · have hDone : onDataStep env st (f.encode form ++ (fs.map fun p => p.1.encode p.2).flatten) =
          .done st := by simp [onDataStep, hT]
      exact ⟨f.encode form ++ (fs.map fun p => p.1.encode p.2).flatten,
        (onData_of_done env hDone).trans (by simp [runFrames, hT])⟩
    obtain ⟨st1, hSt1⟩ := Option.isSome_iff_exists.mp (handleFrame_isSome env st f.fin f.rsv1 hf.1 f.payload)
    have hRead := readFrame_encode_append (env.sink.rxCompressionEnabled st.trace) f form hf hForm
      (fun h => hce _ (List.mem_cons_self _ _) h _) (fs.map fun p => p.1.encode p.2).flatten
    have hStep : onDataStep env st (f.encode form ++ (fs.map fun p => p.1.encode p.2).flatten) =
        .next st1 (fs.map fun p => p.1.encode p.2).flatten := by
      simp [onDataStep, hT, hRead, hSt1]
    obtain ⟨r, hr⟩ := ih st1 (fun p hp => hfs p (List.mem_cons_of_mem _ hp))
      (fun p hp => hce p (List.mem_cons_of_mem _ hp))
    exact ⟨r, by rw [onData_of_next env hStep, hr]; simp [runFrames, hT, hSt1]⟩

/-! ### The message-level reading -/

/-- The calls of control frames: `onRxPing` for a ping, none for a pong. -/
def pings (st : Receiver) : List Control → Receiver
  | [] => st
  | .ping p :: cs => pings (st.call (.onRxPing p)) cs
  | .pong _ :: cs => pings st cs

@[simp] theorem pings_append (st : Receiver) (cs cs' : List Control) :
    pings st (cs ++ cs') = pings (pings st cs) cs' := by
  induction cs generalizing st with
  | nil => rfl
  | cons c cs ih => cases c <;> simp [pings, ih]

/-- The validator on the fragments of a text message, each after its control frames, stopping
at the first `false`. -/
def checkFragments (st : Receiver) : List (List Control × Bytes) → Bool × Receiver
  | [] => (true, st)
  | (cs, p) :: more =>
    match (pings st cs).validateChunk env p with
    | (true, st) => checkFragments st more
    | (false, st) => (false, st)

/-- The verdict on a text message once its fragments are checked: `validateFinal` if they all
passed, then `onRxText`, or one 1007. The validator is reset after a rejection and at the end of
a fragmented message. -/
def textVerdict (fragmented : Bool) (msg : Bytes) : Bool × Receiver → Receiver
  | (false, st) => st.utf8Reset.fail 1007 "Invalid UTF-8 in text message"
  | (true, st) =>
    match st.validateFinal env with
    | (false, st) => st.utf8Reset.fail 1007 "Invalid UTF-8 in text message"
    | (true, st) => (if fragmented then st.utf8Reset else st).call (.onRxText msg)

/-- The outcome of a binary or a compressed message, taken whole once all its pings are made: a
compressed one is inflated once, the inflate stream is reset if the server asked for it, and its
text is checked whole. -/
def expectWhole (st : Receiver) (opcode : Nat) (compressed fragmented : Bool) (msg : Bytes) :
    Receiver :=
  let settle (st : Receiver) := if fragmented then st.utf8Reset else st
  if compressed then
    match rxInflate env st msg with
    | (false, _, st) => (settle st).fail 1007 "Decompression failed"
    | (true, out, st) =>
      let st := rxMaybeResetAfterMessage env st
      if opcode = 1 then
        match validateMessage env st out with
        | (false, st) => st.utf8Reset.fail 1007 "Invalid UTF-8 in text message"
        | (true, st) => (settle st).call (.onRxText out)
      else st.call (.onRxBinary out)
  else st.call (.onRxBinary msg)

/-- What one message should make happen: its pings in order, and exactly one outcome. -/
def expectMessage (st : Receiver) (m : Message) : Receiver :=
  if m.opcode = 1 ∧ m.compressed = false then
    textVerdict env (!m.rest.isEmpty) m.payload
      (checkFragments env st.utf8Reset (([], m.first) :: m.rest))
  else
    expectWhole env (pings st (m.rest.map Prod.fst).flatten) m.opcode m.compressed
      (!m.rest.isEmpty) m.payload

/-- Messages in order, until the sink reports terminating. -/
def expectStream (st : Receiver) : List (List Control × Message) → Receiver
  | [] => st
  | (cs, m) :: ms =>
    let st := expectMessage env (pings st cs) m
    if env.sink.rxIsTerminating st.trace then st else expectStream st ms

/-! ### The reassembly members are a frame of every other call -/

/-- The receiver with its reassembly members set. -/
@[simps]
def withFragments (st : Receiver) (inProgress compressed : Bool) (opcode : Nat) (msg : Bytes) :
    Receiver :=
  { st with messageInProgress := inProgress, compressedMessageInProgress := compressed,
            fragmentedOpcode := opcode, fragmentedMessage := msg }

section Frame

variable {env} (a b : Bool) (o : Nat) (d : Bytes)

/-- A record update of the reassembly members, as the handlers write it, is `withFragments`. -/
@[simp] theorem mk_eq_withFragments (st : Receiver) :
    ({ cfg := st.cfg, inflateInitialized := st.inflateInitialized,
       deflateInitialized := st.deflateInitialized, txCompressedBuf := st.txCompressedBuf,
       txPayloadLen := st.txPayloadLen, messageInProgress := a, compressedMessageInProgress := b,
       fragmentedOpcode := o, fragmentedMessage := d, trace := st.trace } : Receiver) =
      st.withFragments a b o d := rfl

@[simp] theorem call_withFragments (st : Receiver) (c : Call) :
    (st.withFragments a b o d).call c = (st.call c).withFragments a b o d := rfl

@[simp] theorem utf8Reset_withFragments (st : Receiver) :
    (st.withFragments a b o d).utf8Reset = st.utf8Reset.withFragments a b o d := rfl

@[simp] theorem fail_withFragments (st : Receiver) (code : Nat) (why : String) :
    (st.withFragments a b o d).fail code why = (st.fail code why).withFragments a b o d := rfl

@[simp] theorem validateChunk_withFragments (st : Receiver) (p : Bytes) :
    (st.withFragments a b o d).validateChunk env p =
      ((st.validateChunk env p).1, (st.validateChunk env p).2.withFragments a b o d) := rfl

@[simp] theorem validateFinal_withFragments (st : Receiver) :
    (st.withFragments a b o d).validateFinal env =
      ((st.validateFinal env).1, (st.validateFinal env).2.withFragments a b o d) := rfl

@[simp] theorem withFragments_withFragments (st : Receiver) (a' b' : Bool) (o' : Nat) (d' : Bytes) :
    (st.withFragments a b o d).withFragments a' b' o' d' = st.withFragments a' b' o' d' := rfl

@[simp] theorem clearFragments_withFragments (st : Receiver) :
    clearFragments (st.withFragments a b o d) = st.withFragments false false 0 [] := rfl

@[simp] theorem pings_withFragments (st : Receiver) (cs : List Control) :
    pings (st.withFragments a b o d) cs = (pings st cs).withFragments a b o d := by
  induction cs generalizing st with
  | nil => rfl
  | cons c cs ih => cases c <;> simp [pings, ih]

theorem inflateLoop_withFragments (st : Receiver) (input out : Bytes) :
    inflateLoop env (st.withFragments a b o d) input out =
      ((inflateLoop env st input out).1, (inflateLoop env st input out).2.1,
        (inflateLoop env st input out).2.2.withFragments a b o d) := by
  conv_lhs => rw [inflateLoop]
  conv_rhs => rw [inflateLoop]
  simp only [withFragments_trace, call_withFragments]
  by_cases hBuf : (env.zlib.inflate st.trace input 4096).ret = zBufError
  · have hFull : ¬4096 - (env.zlib.inflate st.trace input 4096).produced.length = 0 := by
      simp [env.zlib.inflate_bufError st.trace input 4096 hBuf]
    rw [dif_pos hBuf, dif_pos hBuf, dif_neg hFull, dif_neg hFull]
    split <;> rfl
  rw [dif_neg hBuf, dif_neg hBuf]
  by_cases hErr : (env.zlib.inflate st.trace input 4096).ret ≠ zOk ∧
      (env.zlib.inflate st.trace input 4096).ret ≠ zStreamEnd
  · rw [if_pos hErr, if_pos hErr]
  rw [if_neg hErr, if_neg hErr]
  by_cases hEnd : (env.zlib.inflate st.trace input 4096).ret = zStreamEnd
  · rw [if_pos hEnd, if_pos hEnd]
  rw [if_neg hEnd, if_neg hEnd]
  split
  · rfl
  have hOk : (env.zlib.inflate st.trace input 4096).ret = zOk := by
    by_contra hNe
    exact hErr ⟨hNe, hEnd⟩
  have := env.zlib.inflate_measure_lt st.trace input 4096 hOk
  exact inflateLoop_withFragments _ _ _
termination_by env.zlib.inflateMeasure st.trace input

@[simp] theorem rxInflate_withFragments (st : Receiver) (input : Bytes) :
    rxInflate env (st.withFragments a b o d) input =
      ((rxInflate env st input).1, (rxInflate env st input).2.1,
        (rxInflate env st input).2.2.withFragments a b o d) := by
  simp only [rxInflate, withFragments_cfg, withFragments_inflateInitialized]
  split_ifs <;> simp [inflateLoop_withFragments]

@[simp] theorem rxInitInflate_withFragments (st : Receiver) :
    rxInitInflate env (st.withFragments a b o d) =
      ((rxInitInflate env st).1, (rxInitInflate env st).2.withFragments a b o d) := by
  simp only [rxInitInflate, withFragments_cfg, withFragments_trace]
  split_ifs <;> rfl

@[simp] theorem rxMaybeResetAfterMessage_withFragments (st : Receiver) :
    rxMaybeResetAfterMessage env (st.withFragments a b o d) =
      (rxMaybeResetAfterMessage env st).withFragments a b o d := by
  simp only [rxMaybeResetAfterMessage, rxResetInflate, withFragments_cfg,
    withFragments_inflateInitialized]
  split_ifs
  · rfl
  · exact congrArg Prod.snd
      (@rxInitInflate_withFragments env a b o d { st.call .inflateEnd with inflateInitialized := false })
  · rfl

@[simp] theorem validateMessage_withFragments (st : Receiver) (msg : Bytes) :
    validateMessage env (st.withFragments a b o d) msg =
      ((validateMessage env st msg).1, (validateMessage env st msg).2.withFragments a b o d) := by
  unfold validateMessage
  rcases h : st.utf8Reset.validateChunk env msg with ⟨_ | _, st'⟩ <;> simp [h]

end Frame

/-! ### The handlers on a message in progress -/

section Handlers

variable {env}

theorem runFrames_cons_live {st : Receiver} (h : env.sink.rxIsTerminating st.trace = false)
    (f : Frame) (fs : List Frame) :
    runFrames env st (f :: fs) =
      match handleFrame env st f.fin f.rsv1 f.opcode f.payload with
      | some st => runFrames env st fs
      | none => st.fail 1002 "Unsupported opcode" := by
  simp [runFrames, h]

theorem runFrames_of_terminating {st : Receiver} (h : env.sink.rxIsTerminating st.trace = true)
    (fs : List Frame) : runFrames env st fs = st := by
  cases fs <;> simp [runFrames, h]

/-- A continuation of uncompressed text is checked on arrival; the last one ends the message. -/
theorem handleContinuationFrame_text (s : Receiver) (acc p : Bytes) (fin : Bool) :
    handleContinuationFrame env (s.withFragments true false 1 acc) p fin =
      match s.validateChunk env p with
      | (false, s) =>
        (s.utf8Reset.fail 1007 "Invalid UTF-8 in text message").withFragments true false 1 (acc ++ p)
      | (true, s) =>
        if fin then
          match s.validateFinal env with
          | (false, s) =>
            (s.utf8Reset.fail 1007 "Invalid UTF-8 in text message").withFragments true false 1
              (acc ++ p)
          | (true, s) => (s.utf8Reset.call (.onRxText (acc ++ p))).withFragments false false 0 []
        else s.withFragments true false 1 (acc ++ p) := by
  rcases hv : s.validateChunk env p with ⟨_ | _, s'⟩ <;>
    simp [handleContinuationFrame, deliverFragmentedMessage, hv]
  rcases hf : s'.validateFinal env with ⟨_ | _, s''⟩ <;> cases fin <;> simp [hf]

/-- A continuation of a binary or a compressed message is only appended, until the last. -/
theorem handleContinuationFrame_whole (s : Receiver) (b : Bool) (o : Nat) (acc p : Bytes)
    (hKind : o = 1 → b = true) :
    handleContinuationFrame env (s.withFragments true b o acc) p false =
      s.withFragments true b o (acc ++ p) := by
  have : (!b && o == 1) = false := by cases b <;> simp_all
  simp [handleContinuationFrame, this]

/-- The first frame of a fragmented message starts reassembly; uncompressed text is checked at
once. -/
theorem handleDataFrame_first (s : Receiver) (b : Bool) (o : Nat) (d p : Bytes) (op : Nat)
    (rsv1 comp : Bool) (hComp : (rsv1 && env.sink.rxCompressionEnabled s.trace) = comp) :
    handleDataFrame env (s.withFragments false b o d) p false op rsv1 =
      if op = 1 ∧ comp = false then
        match s.utf8Reset.validateChunk env p with
        | (false, s) =>
          (s.utf8Reset.fail 1007 "Invalid UTF-8 in text message").withFragments true false 1 p
        | (true, s) => s.withFragments true false 1 p
      else s.withFragments true comp op p := by
  simp only [handleDataFrame, withFragments_messageInProgress, withFragments_trace, hComp]
  by_cases hText : op = 1 ∧ comp = false
  · obtain ⟨rfl, rfl⟩ := hText
    rcases hv : s.utf8Reset.validateChunk env p with ⟨_ | _, s'⟩ <;> simp [hv]
  · have : (op == 1 && !comp) = false := by cases comp <;> simp_all
    simp [this, hText]

/-- The last continuation of a binary or a compressed message: the whole message is inflated
once if compressed, then delivered. -/
theorem handleContinuationFrame_lastWhole (s : Receiver) (b : Bool) (o : Nat) (acc p : Bytes)
    (hKind : o = 1 → b = true) :
    handleContinuationFrame env (s.withFragments true b o acc) p true =
      if b then
        match rxInflate env s (acc ++ p) with
        | (false, _, s) =>
          (s.utf8Reset.fail 1007 "Decompression failed").withFragments true true o (acc ++ p)
        | (true, out, s) =>
          deliverFragmentedMessage env ((rxMaybeResetAfterMessage env s).withFragments true true o out)
      else deliverFragmentedMessage env (s.withFragments true false o (acc ++ p)) := by
  cases b
  · have ho : o ≠ 1 := fun h => by simpa using hKind h
    simp [handleContinuationFrame, ho]
  · rcases hr : rxInflate env s (acc ++ p) with ⟨_ | _, out, s1⟩ <;>
      simp [handleContinuationFrame, hr]

end Handlers

/-! ### Whole messages -/

/-- `c` ends a message as `t` says: the same calls, and, if the connection goes on, no message
in progress. -/
def Finishes (c t : Receiver) : Prop :=
  c.trace = t.trace ∧
    (env.sink.rxIsTerminating t.trace = false → ∃ b o d, c = t.withFragments false b o d)

theorem finishes_clear {env} (t : Receiver) (b : Bool) (o : Nat) (d : Bytes) :
    Finishes env (t.withFragments false b o d) t :=
  ⟨rfl, fun _ => ⟨b, o, d, rfl⟩⟩

section Runs

variable {env} (hTerm : ∀ t, env.sink.rxIsTerminating t = t.any Call.endsConnection)
include hTerm

theorem terminating_append (t : List Call) (c : Call) :
    env.sink.rxIsTerminating (t ++ [c]) = (env.sink.rxIsTerminating t || c.endsConnection) := by
  simp [hTerm]

theorem terminating_fail (t : Receiver) (code : Nat) (why : String) :
    env.sink.rxIsTerminating (t.fail code why).trace = true := by
  simp [hTerm, Call.endsConnection]

theorem finishes_fail (t : Receiver) (code : Nat) (why : String) (a b : Bool) (o : Nat)
    (d : Bytes) : Finishes env ((t.fail code why).withFragments a b o d) (t.fail code why) :=
  ⟨rfl, fun h => by rw [terminating_fail hTerm] at h; cases h⟩

theorem terminating_pings (s : Receiver) (cs : List Control) :
    env.sink.rxIsTerminating (pings s cs).trace = env.sink.rxIsTerminating s.trace := by
  induction cs generalizing s with
  | nil => rfl
  | cons c cs ih => cases c <;> simp [pings, ih, hTerm, Call.endsConnection]

/-- Control frames between two frames make their pings and touch nothing else. -/
theorem runFrames_controls (s : Receiver) (a b : Bool) (o : Nat) (d : Bytes) (cs : List Control)
    (fs : List Frame) (hs : env.sink.rxIsTerminating s.trace = false)
    (hcs : ∀ c ∈ cs, c.frame.payload.length ≤ 125) :
    runFrames env (s.withFragments a b o d) (cs.map Control.frame ++ fs) =
      runFrames env ((pings s cs).withFragments a b o d) fs := by
  induction cs generalizing s with
  | nil => rfl
  | cons c cs ih =>
    have hc := hcs c (List.mem_cons_self _ _)
    have hcs' := fun c hc => hcs c (List.mem_cons_of_mem _ hc)
    rw [List.map_cons, List.cons_append, runFrames_cons_live (by simpa using hs)]
    cases c with
    | ping p =>
      have hp : ¬p.length > 125 := by simpa [Control.frame] using hc
      simp only [Control.frame, handleFrame, handlePingFrame, hp, if_false, call_withFragments]
      exact ih _ (by simpa [terminating_append hTerm, Call.endsConnection] using hs) hcs'
    | pong p => exact ih s hs hcs'

theorem live_validateChunk {s : Receiver} (hs : env.sink.rxIsTerminating s.trace = false)
    (p : Bytes) : env.sink.rxIsTerminating (s.validateChunk env p).2.trace = false := by
  simpa [validateChunk, terminating_append hTerm, Call.endsConnection] using hs

/-- The continuations of uncompressed text: one check per fragment, after its control frames,
until one fails or the last one ends the message. -/
theorem runFrames_text (s : Receiver) (acc : Bytes) (rest : List (List Control × Bytes))
    (fs : List Frame) (hs : env.sink.rxIsTerminating s.trace = false) (hRest : rest ≠ [])
    (hcs : ∀ q ∈ rest, ∀ c ∈ q.1, c.frame.payload.length ≤ 125) :
    ∃ c, runFrames env (s.withFragments true false 1 acc) (continuationFrames rest ++ fs) =
        runFrames env c fs ∧
      Finishes env c
        (textVerdict env true (acc ++ (rest.map Prod.snd).flatten) (checkFragments env s rest)) := by
  induction rest generalizing s acc with
  | nil => exact absurd rfl hRest
  | cons q more ih =>
    obtain ⟨cs, p⟩ := q
    have hs1 : env.sink.rxIsTerminating (pings s cs).trace = false :=
      (terminating_pings hTerm s cs).trans hs
    rw [continuationFrames, List.append_assoc, List.cons_append,
      runFrames_controls hTerm s _ _ _ _ cs _ hs (hcs _ (List.mem_cons_self _ _)),
      runFrames_cons_live (by simpa using hs1)]
    simp only [handleFrame, handleContinuationFrame_text, checkFragments]
    rcases hv : (pings s cs).validateChunk env p with ⟨_ | _, s2⟩
    · have hT := terminating_fail hTerm s2.utf8Reset 1007 "Invalid UTF-8 in text message"
      refine ⟨_, (runFrames_of_terminating (by simpa using hT) _).trans
        (runFrames_of_terminating (by simpa using hT) _).symm, ?_⟩
      exact finishes_fail hTerm _ _ _ _ _ _ _
    · have hs2 : env.sink.rxIsTerminating s2.trace = false := by
        simpa [hv] using live_validateChunk hTerm hs1 p
      cases more with
      | nil =>
        simp only [List.isEmpty_nil, if_true, continuationFrames, List.nil_append,
          checkFragments, textVerdict, List.map_cons, List.map_nil, List.flatten_cons,
          List.flatten_nil, List.append_nil]
        rcases hf : s2.validateFinal env with ⟨_ | _, s3⟩
        · exact ⟨_, rfl, finishes_fail hTerm _ _ _ _ _ _ _⟩
        · exact ⟨_, rfl, by simpa using finishes_clear _ false 0 []⟩
      | cons q' more' =>
        simp only [List.isEmpty_cons, Bool.false_eq_true, if_false]
        obtain ⟨c, hc, hFin⟩ := ih s2 (acc ++ p) hs2 (List.cons_ne_nil _ _)
          (fun q hq => hcs q (List.mem_cons_of_mem _ hq))
        exact ⟨c, hc, by simpa [List.append_assoc] using hFin⟩

/-- The last continuation of a binary or a compressed message ends it as `expectWhole` says. -/
theorem handleContinuationFrame_last (s : Receiver) (b : Bool) (o : Nat) (acc p : Bytes)
    (hKind : o = 1 → b = true) (hOp : o = 1 ∨ o = 2) :
    Finishes env (handleContinuationFrame env (s.withFragments true b o acc) p true)
      (expectWhole env s o b true (acc ++ p)) := by
  rw [handleContinuationFrame_lastWhole s b o acc p hKind]
  cases b
  · obtain rfl : o = 2 := by rcases hOp with rfl | rfl <;> simp_all
    simpa [deliverFragmentedMessage, expectWhole] using finishes_clear _ false 0 []
  · simp only [expectWhole, if_true]
    rcases hr : rxInflate env s (acc ++ p) with ⟨_ | _, out, s1⟩
    · simpa [hr] using finishes_fail hTerm _ _ _ _ _ _ _
    · rcases hOp with rfl | rfl
      · rcases hm : validateMessage env (rxMaybeResetAfterMessage env s1) out with ⟨_ | _, s2⟩
        · simpa [hr, hm, deliverFragmentedMessage] using finishes_fail hTerm _ _ _ _ _ _ _
        · simpa [hr, hm, deliverFragmentedMessage] using finishes_clear _ false 0 []
      · simpa [hr, deliverFragmentedMessage] using finishes_clear _ false 0 []

/-- The continuations of a binary or a compressed message: their pings, then the outcome of the
whole message at the last one. -/
theorem runFrames_whole (s : Receiver) (b : Bool) (o : Nat) (acc : Bytes)
    (rest : List (List Control × Bytes)) (fs : List Frame) (hKind : o = 1 → b = true)
    (hOp : o = 1 ∨ o = 2) (hs : env.sink.rxIsTerminating s.trace = false) (hRest : rest ≠ [])
    (hcs : ∀ q ∈ rest, ∀ c ∈ q.1, c.frame.payload.length ≤ 125) :
    ∃ c, runFrames env (s.withFragments true b o acc) (continuationFrames rest ++ fs) =
        runFrames env c fs ∧
      Finishes env c (expectWhole env (pings s (rest.map Prod.fst).flatten) o b true
        (acc ++ (rest.map Prod.snd).flatten)) := by
  induction rest generalizing s acc with
  | nil => exact absurd rfl hRest
  | cons q more ih =>
    obtain ⟨cs, p⟩ := q
    have hs1 : env.sink.rxIsTerminating (pings s cs).trace = false :=
      (terminating_pings hTerm s cs).trans hs
    rw [continuationFrames, List.append_assoc, List.cons_append,
      runFrames_controls hTerm s _ _ _ _ cs _ hs (hcs _ (List.mem_cons_self _ _)),
      runFrames_cons_live (by simpa using hs1)]
    simp only [handleFrame]
    cases more with
    | nil =>
      exact ⟨_, rfl, by simpa using handleContinuationFrame_last hTerm (pings s cs) b o acc p hKind hOp⟩
    | cons q' more' =>
      simp only [List.isEmpty_cons, handleContinuationFrame_whole _ _ _ _ _ hKind]
      obtain ⟨c, hc, hFin⟩ := ih (pings s cs) (acc ++ p) hs1 (List.cons_ne_nil _ _)
        (fun q hq => hcs q (List.mem_cons_of_mem _ hq))
      exact ⟨c, hc, by simpa [List.append_assoc] using hFin⟩

/-- A message in one frame is delivered, or refused, at once. -/
theorem handleDataFrame_whole (s : Receiver) (b : Bool) (o : Nat) (d p : Bytes) (op : Nat)
    (rsv1 comp : Bool) (hComp : (rsv1 && env.sink.rxCompressionEnabled s.trace) = comp)
    (hOp : op = 1 ∨ op = 2) :
    Finishes env (handleDataFrame env (s.withFragments false b o d) p true op rsv1)
      (expectMessage env s ⟨op, comp, p, []⟩) := by
  simp only [handleDataFrame, withFragments_messageInProgress, withFragments_trace, hComp,
    expectMessage, Message.payload, List.map_nil, List.flatten_nil, List.append_nil]
  cases comp
  · rcases hOp with rfl | rfl
    · rcases hv : s.utf8Reset.validateChunk env p with ⟨_ | _, s1⟩
      · simpa [deliverMessage, validateMessage, checkFragments, pings, textVerdict, hv] using
          finishes_fail hTerm _ _ _ _ _ _ _
      · rcases hf : s1.validateFinal env with ⟨_ | _, s2⟩
        · simpa [deliverMessage, validateMessage, checkFragments, pings, textVerdict, hv, hf] using
            finishes_fail hTerm _ _ _ _ _ _ _
        · simpa [deliverMessage, validateMessage, checkFragments, pings, textVerdict, hv, hf] using
            finishes_clear _ b o d
    · simpa [deliverMessage, expectWhole, pings] using finishes_clear _ b o d
  · rcases hr : rxInflate env s p with ⟨_ | _, out, s1⟩
    · simpa [expectWhole, pings, hr] using finishes_fail hTerm _ _ _ _ _ _ _
    · rcases hOp with rfl | rfl
      · rcases hm : validateMessage env (rxMaybeResetAfterMessage env s1) out with ⟨_ | _, s2⟩
        · simpa [expectWhole, pings, hr, hm, deliverMessage] using finishes_fail hTerm _ _ _ _ _ _ _
        · simpa [expectWhole, pings, hr, hm, deliverMessage] using finishes_clear _ b o d
      · simpa [expectWhole, pings, hr, deliverMessage] using finishes_clear _ b o d

/-- One message, from no message in progress, makes the calls `expectMessage` says. -/
theorem runFrames_message (s : Receiver) (b : Bool) (o : Nat) (d : Bytes) (m : Message)
    (fs : List Frame) (hs : env.sink.rxIsTerminating s.trace = false) (hm : m.WellFormed)
    (hComp : (m.compressed && env.sink.rxCompressionEnabled s.trace) = m.compressed) :
    ∃ c, runFrames env (s.withFragments false b o d) (m.frames ++ fs) = runFrames env c fs ∧
      Finishes env c (expectMessage env s m) := by
  obtain ⟨op, comp, first, rest⟩ := m
  obtain ⟨hOp, hcs⟩ := hm
  dsimp only at hOp hcs hComp
  rw [Message.frames, List.cons_append, runFrames_cons_live (by simpa using hs)]
  have hHandle : ∀ fin, handleFrame env (s.withFragments false b o d) fin comp op first =
      some (handleDataFrame env (s.withFragments false b o d) first fin op comp) := by
    rcases hOp with rfl | rfl <;> intro <;> rfl
  simp only [hHandle]
  cases rest with
  | nil => exact ⟨_, rfl, handleDataFrame_whole hTerm s b o d first op comp comp hComp hOp⟩
  | cons q more =>
    simp only [List.isEmpty_cons, handleDataFrame_first s b o d first op comp comp hComp]
    by_cases hText : op = 1 ∧ comp = false
    · obtain ⟨rfl, rfl⟩ := hText
      simp only [and_self, if_true]
      rcases hv : s.utf8Reset.validateChunk env first with ⟨_ | _, s1⟩
      · have hT := terminating_fail hTerm s1.utf8Reset 1007 "Invalid UTF-8 in text message"
        refine ⟨_, (runFrames_of_terminating (by simpa using hT) _).trans
          (runFrames_of_terminating (by simpa using hT) _).symm, ?_⟩
        simpa [expectMessage, checkFragments, pings, hv, textVerdict] using
          finishes_fail hTerm _ _ _ _ _ _ _
      · have hs0 : env.sink.rxIsTerminating s.utf8Reset.trace = false := by
          simpa [terminating_append hTerm, Call.endsConnection] using hs
        obtain ⟨c, hc, hFin⟩ := runFrames_text hTerm s1 first (q :: more) fs
          (by simpa [hv] using live_validateChunk hTerm hs0 first) (List.cons_ne_nil _ _) hcs
        exact ⟨c, hc, by simpa [expectMessage, checkFragments, pings, hv, Message.payload] using hFin⟩
    · rw [if_neg hText]
      obtain ⟨c, hc, hFin⟩ := runFrames_whole hTerm s comp op first (q :: more) fs
        (fun h => by cases comp <;> simp_all) hOp hs (List.cons_ne_nil _ _) hcs
      exact ⟨c, hc, by simpa [expectMessage, hText, Message.payload] using hFin⟩

theorem runFrames_streamFrames_of (ms : List (List Control × Message)) :
    ∀ (s : Receiver) (b : Bool) (o : Nat) (d : Bytes),
      env.sink.rxIsTerminating s.trace = false →
      (∀ p ∈ ms, (∀ c ∈ p.1, c.frame.payload.length ≤ 125) ∧ p.2.WellFormed) →
      (∀ p ∈ ms, p.2.compressed = true → ∀ t, env.sink.rxCompressionEnabled t = true) →
      (runFrames env (s.withFragments false b o d) (streamFrames ms)).trace =
        (expectStream env s ms).trace := by
  induction ms with
  | nil => intros; rfl
  | cons q ms ih =>
    intro s b o d hs hms hCe
    obtain ⟨cs, m⟩ := q
    obtain ⟨hcs, hm⟩ := hms _ (List.mem_cons_self _ _)
    have hs1 := (terminating_pings hTerm s cs).trans hs
    have hComp : (m.compressed && env.sink.rxCompressionEnabled (pings s cs).trace) =
        m.compressed := by
      cases h : m.compressed <;> simp [hCe _ (List.mem_cons_self _ _), h]
    rw [streamFrames, List.flatMap_cons, List.append_assoc,
      runFrames_controls hTerm s _ _ _ _ cs _ hs hcs]
    obtain ⟨c, hc, hTr, hIdle⟩ := runFrames_message hTerm (pings s cs) b o d m _ hs1 hm hComp
    rw [hc, expectStream]
    by_cases hE : env.sink.rxIsTerminating (expectMessage env (pings s cs) m).trace = true
    · rw [if_pos hE, runFrames_of_terminating (hTr ▸ hE)]
      exact hTr
    · obtain ⟨b', o', d', rfl⟩ := hIdle (by simpa using hE)
      rw [if_neg hE]
      exact ih _ b' o' d' (by simpa using hE) (fun p hp => hms p (List.mem_cons_of_mem _ hp))
        (fun p hp => hCe p (List.mem_cons_of_mem _ hp))

/-- Reassembly, for a sink that reports terminating once it has failed the connection: from no
message in progress, a stream of text and binary messages, each cut into any fragments, with
pings and pongs between any two frames, makes exactly the calls of `expectStream`. That is, per
ping one `onRxPing` with its payload; per message one outcome, `onRxText` or `onRxBinary` of
`p1 ++ ... ++ pn`, inflated once first if compressed, or one `onRxProtocolError 1007`; for
uncompressed text one `validateChunk` per fragment as it arrives; and nothing after a 1007. -/
theorem runFrames_streamFrames (st : Receiver) (hIdle : st.messageInProgress = false)
    (hLive : env.sink.rxIsTerminating st.trace = false) (ms : List (List Control × Message))
    (hms : ∀ p ∈ ms, (∀ c ∈ p.1, c.frame.payload.length ≤ 125) ∧ p.2.WellFormed)
    (hCe : ∀ p ∈ ms, p.2.compressed = true → ∀ t, env.sink.rxCompressionEnabled t = true) :
    (runFrames env st (streamFrames ms)).trace = (expectStream env st ms).trace := by
  have hSt : st = st.withFragments false st.compressedMessageInProgress st.fragmentedOpcode
      st.fragmentedMessage := by
    cases st
    simp_all [withFragments]
  conv_lhs => rw [hSt]
  exact runFrames_streamFrames_of hTerm ms st _ _ _ hLive hms hCe

end Runs

/-- Text `A` then `B` in two fragments, a ping `p` between them. -/
theorem runFrames_streamFrames_fragmentedText :
    (runFrames closingEnv {}
        (streamFrames [([], ⟨1, false, [0x41], [([.ping [0x70]], [0x42])]⟩)])).trace =
      [.utf8Reset, .validateChunk [0x41] true, .onRxPing [0x70], .validateChunk [0x42] true,
        .validateFinal true, .utf8Reset, .onRxText [0x41, 0x42]] :=
  (runFrames_streamFrames (fun _ => rfl) {} rfl rfl _ (by decide) fun _ _ _ _ => rfl).trans rfl

/-- A validator that accepts ASCII only, with `reinitFailEnv`'s sink, which never terminates. -/
def asciiEnv : Env :=
  { reinitFailEnv with
    utf8 := { validateChunk := fun _ p => p.all (· < 0x80), validateFinal := fun _ => true } }

/-- The validator is reset once more at the end of a fragmented text message, so the calls on it
are not only `reset`, the checks and `validateFinal`. And with a sink that goes on after a
protocol error, a text message whose first fragment is refused is still reassembled: one message
gets a 1007 and an `onRxText`. -/
theorem runFrames_textResetsAndRedelivers :
    (runFrames closingEnv {} (streamFrames [([], ⟨1, false, [0x41], [([], [0x42])]⟩)])).trace =
        [.utf8Reset, .validateChunk [0x41] true, .validateChunk [0x42] true, .validateFinal true,
          .utf8Reset, .onRxText [0x41, 0x42]] ∧
      (runFrames asciiEnv {} (streamFrames [([], ⟨1, false, [0xFF], [([], [0x41])]⟩)])).trace =
        [.utf8Reset, .validateChunk [0xFF] false, .utf8Reset,
          .onRxProtocolError 1007 "Invalid UTF-8 in text message", .validateChunk [0x41] true,
          .validateFinal true, .utf8Reset, .onRxText [0xFF, 0x41]] :=
  ⟨rfl, rfl⟩

end Receiver
end Libwsc
