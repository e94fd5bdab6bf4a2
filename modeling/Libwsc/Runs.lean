import Libwsc.Effects
import Libwsc.Lifecycle

/-! The receiver over whole runs. From construction, the connection calls the methods that set
up, use and tear down compression (`Op`) and hands arriving bytes to `onData`, in any order. Each
invariant below is shown once per method and once per move of a handler (`Effects`), and then
holds in every state such a run reaches. -/
namespace Libwsc
namespace Receiver

variable (env : Env)

/-! ### The methods on the zlib side -/

section Methods

/-- A call on zlib. -/
abbrev OnZlib : Call → Prop := (Call.onZlib · = true)

variable {env} {st s : Receiver}

theorem Confined.closeInflate (h : Confined OnZlib fragments st s) :
    Confined OnZlib fragments st
      (if s.inflateInitialized then { s.call .inflateEnd with inflateInitialized := false } else s) := by
  split_ifs
  · exact Confined.set (h.call (c := .inflateEnd) rfl rfl) rfl rfl
  · exact h

theorem Confined.closeDeflate (h : Confined OnZlib fragments st s) :
    Confined OnZlib fragments st
      (if s.deflateInitialized then { s.call .deflateEnd with deflateInitialized := false } else s) := by
  split_ifs
  · exact Confined.set (h.call (c := .deflateEnd) rfl rfl) rfl rfl
  · exact h

/-- The receive side's methods, seen from the zlib side. -/
theorem Confined.ofRx {st' : Receiver} (h : Confined (Call.onInflate · = true) rxKeep st st') :
    Confined OnZlib fragments st st' :=
  h.weaken (fun _ => Call.onZlib_of_onInflate) fun _ _ h => congrArg Prod.fst h

theorem shutdownCompression_confined (st : Receiver) :
    Confined OnZlib fragments st (shutdownCompression st) :=
  (Confined.refl st).closeInflate.closeDeflate.set rfl rfl

/-- A call on the deflate stream. -/
abbrev OnDeflate : Call → Prop := (Call.onDeflate · = true)

/-- The receive side: the reassembly members and the inflate stream's flag. -/
def rxSide (st : Receiver) : (Bool × Bool × Nat × Bytes) × Bool :=
  (fragments st, st.inflateInitialized)

@[simp] theorem rxSide_call (st : Receiver) (c : Call) : (st.call c).rxSide = st.rxSide := rfl

/-- The send side's methods, seen from the zlib side. -/
theorem Confined.ofTx {st' : Receiver} (h : Confined OnDeflate rxSide st st') :
    Confined OnZlib fragments st st' :=
  h.weaken (fun _ => Call.onZlib_of_onDeflate) fun _ _ h => congrArg Prod.fst h

variable (env)

theorem txInitDeflate_confined (st : Receiver) :
    Confined OnDeflate rxSide st (txInitDeflate env st).2 := by
  have h : Confined OnDeflate rxSide st (st.call (.deflateInit2 st.cfg.compressionLevel
      (-st.cfg.clientMaxWindowBits) (env.zlib.deflateInit2 st.trace st.cfg.compressionLevel
        (-st.cfg.clientMaxWindowBits)))) := (Confined.refl st).call rfl (rxSide_call _ _)
  unfold txInitDeflate
  dsimp only
  split_ifs
  · exact h
  · exact h.set rfl rfl

theorem initializeCompression_confined (st : Receiver) (cfg : PerMessageDeflateConfig) :
    Confined OnZlib fragments st (initializeCompression env st cfg).2 := by
  have h0 : Confined OnZlib fragments st { shutdownCompression st with cfg := cfg } :=
    (shutdownCompression_confined st).set rfl rfl
  unfold initializeCompression
  dsimp only
  split_ifs
  · exact h0
  have h1 := h0.trans (rxInitInflate_confined env _).ofRx
  rcases hInit : rxInitInflate env { shutdownCompression st with cfg := cfg } with ⟨_ | _, st1⟩ <;>
    rw [hInit] at h1
  · exact h1.trans (shutdownCompression_confined st1)
  have h2 := h1.trans (txInitDeflate_confined env st1).ofTx
  rcases hTx : txInitDeflate env st1 with ⟨_ | _, st2⟩ <;> rw [hTx] at h2 <;> simp only [hTx]
  · exact h2.closeInflate.trans (shutdownCompression_confined _)
  · exact h2

theorem txReinitAfterNoContextTakeover_confined (st : Receiver) :
    Confined OnDeflate rxSide st (txReinitAfterNoContextTakeover env st).2 := by
  have h : Confined OnDeflate rxSide st
      { st.call .deflateEnd with deflateInitialized := false } :=
    Confined.set ((Confined.refl st).call (c := .deflateEnd) rfl (rxSide_call _ _)) rfl rfl
  unfold txReinitAfterNoContextTakeover
  split_ifs
  · exact .refl st
  · exact h.trans (txInitDeflate_confined env _)

theorem txDeflateAttempt_confined (input : Bytes) (attempt : Nat) (st : Receiver) :
    Confined OnDeflate rxSide st (txDeflateAttempt env input attempt st).2.2.2 := by
  have h : Confined OnDeflate rxSide st (txResetDeflate st) := by
    unfold txResetDeflate
    split_ifs
    · exact .refl st
    · exact (Confined.refl st).call rfl (rxSide_call _ _)
  refine ((h.call ?_ (rxSide_call _ _)).call ?_ (rxSide_call _ _)).set rfl rfl <;> rfl

theorem txPrepare_confined (st : Receiver) (original : Bytes) (requestCompress : Bool) :
    Confined OnDeflate rxSide st (txPrepare env st original requestCompress).2 := by
  have h : Confined OnDeflate rxSide st (txDeflate env st original).2 := by
    unfold txDeflate
    split_ifs
    · exact .refl st
    exact txDeflateLoop_inv (Confined OnDeflate rxSide st) (Confined OnDeflate rxSide st) original
      (fun a s h => h.trans (txDeflateAttempt_confined env original a s))
      (fun _ _ h => h.set rfl rfl) (fun _ h => h)
      (fun s h => h.trans (txReinitAfterNoContextTakeover_confined env s)) 0 st (.refl st)
  unfold txPrepare
  split_ifs
  · exact .refl st
  rcases hTx : txDeflate env st original with ⟨_ | _, st'⟩ <;> rw [hTx] at h <;> exact h

/-- Every method on the zlib side calls zlib only and leaves the reassembly members alone. -/
theorem Op.confined (st : Receiver) : ∀ op : Op, Confined OnZlib fragments st (op.apply env st)
  | .initializeCompression cfg => initializeCompression_confined env st cfg
  | .shutdownCompression | .destroy => shutdownCompression_confined st
  | .txPrepare original requestCompress => (txPrepare_confined env st original requestCompress).ofTx
  | .rxInflate input => (rxInflate_confined env st input).ofRx
  | .rxMaybeResetAfterMessage => (rxMaybeResetAfterMessage_confined env st).ofRx

end Methods

/-! ### Runs -/

/-- The states a receiver reaches from construction, with the bytes left in its input buffer: a
method on the zlib side, or bytes appended to the buffer and `onData` run on it. An exception
out of `onData` ends the run. -/
inductive Reachable : Receiver → Bytes → Prop where
  | init : Reachable {} []
  | op {st : Receiver} {buf : Bytes} (h : Reachable st buf) (op : Op) :
      Reachable (op.apply env st) buf
  | data {st st' : Receiver} {buf rest : Bytes} (h : Reachable st buf) (chunk : Bytes)
      (hOn : onData env st (buf ++ chunk) = some (st', rest)) : Reachable st' rest

variable {env}

/-- What holds of a new receiver and is kept by every method and every pass of `onData` holds in
every reachable state. -/
theorem Reachable.inv (P : Receiver → Prop) (h0 : P {})
    (hOp : ∀ st (op : Op), P st → P (op.apply env st)) (hPass : ∀ {s s'}, Pass env s s' → P s → P s')
    {st : Receiver} {buf : Bytes} (h : Reachable env st buf) : P st := by
  induction h with
  | init => exact h0
  | op _ op ih => exact hOp _ op ih
  | data _ _ hOn ih => exact onData_inv P hPass hOn ih

/-! ### A run with compression

The run the witnesses below follow, with `syncEnv`: compression negotiated, `C` sent
compressed, the text `AB` received in two compressed fragments, a ping, a close with a reason,
and the destructor. -/

/-- After `initializeCompression` with compression enabled: both streams live. -/
def negotiated : Receiver :=
  { cfg := { enabled := true }, inflateInitialized := true, deflateInitialized := true,
    trace := [.inflateInit2 (-15) zOk, .deflateInit2 (-1) (-15) zOk] }

/-- After `txPrepare(C, true)`: the first pass's 65-byte buffer holds `C` and the trailer, and
the payload is its first byte. -/
def sentC : Receiver :=
  { negotiated with
    txCompressedBuf := [0x43, 0x00, 0x00, 0xFF, 0xFF] ++ List.replicate 60 0, txPayloadLen := 1,
    trace := negotiated.trace ++
      [.deflateReset, .deflateBound 1 1, .deflate [0x43] 65 ⟨zOk, 1, [0x43, 0x00, 0x00, 0xFF, 0xFF]⟩] }

/-- After `41 01 41`, the first fragment of a compressed text message. -/
def midMessage : Receiver :=
  { sentC with messageInProgress := true, compressedMessageInProgress := true,
               fragmentedOpcode := 1, fragmentedMessage := [0x41] }

/-- After the last fragment `80 01 42`: the message was inflated once, checked and delivered. -/
def delivered : Receiver :=
  { sentC with
    trace := sentC.trace ++
      [.inflate [0x41, 0x42, 0x00, 0x00, 0xFF, 0xFF] 4096 ⟨zOk, 6, [0x41, 0x42]⟩, .utf8Reset,
        .validateChunk [0x41, 0x42] true, .validateFinal true, .utf8Reset, .onRxText [0x41, 0x42]] }

/-- After the ping `89 01 50` and the close `88 04 03 E8 6F 6B`, code 1000 with the reason `ok`. -/
def closed : Receiver := (delivered.call (.onRxPing [0x50])).call (.onRxClose 1000 [0x6F, 0x6B])

theorem onData_firstFragment :
    onData syncEnv sentC [0x41, 0x01, 0x41] = some (midMessage, []) := by
  have hFrame : onDataStep syncEnv sentC [0x41, 0x01, 0x41] = .next midMessage [] := by rfl
  have hEmpty : onDataStep syncEnv midMessage [] = .done midMessage := by rfl
  exact (onData_of_next syncEnv hFrame).trans (onData_of_done syncEnv hEmpty)

/-- `syncEnv`'s `inflate` reads its whole input at once, so the loop makes one call, or two
when the first fills `tmp`. -/
theorem syncEnv_inflateLoop (st : Receiver) (input out : Bytes) :
    inflateLoop syncEnv st input out =
      if input = [] then (true, out, st.call (.inflate [] 4096 ⟨zBufError, 0, []⟩))
      else
        let r : ZResult := ⟨zOk, input.length, (input.take (input.length - 4)).take 4096⟩
        if r.produced.length < 4096 then (true, out ++ r.produced, st.call (.inflate input 4096 r))
        else (true, out ++ r.produced,
          (st.call (.inflate input 4096 r)).call (.inflate [] 4096 ⟨zBufError, 0, []⟩)) := by
  by_cases h : input = []
  · subst h; rw [inflateLoop]; rfl
  have hr : syncEnv.zlib.inflate st.trace input 4096 =
      ⟨zOk, input.length, (input.take (input.length - 4)).take 4096⟩ := if_neg h
  have hp : ((input.take (input.length - 4)).take 4096).length ≤ 4096 := List.length_take_le _ _
  rw [inflateLoop, hr, if_neg h]
  generalize (input.take (input.length - 4)).take 4096 = p at hp ⊢
  dsimp only
  rw [dif_neg (by decide), if_neg (by decide), if_neg (by decide), Nat.sub_self, List.drop_length]
  by_cases hs : p.length < 4096
  · rw [if_pos ⟨rfl, by omega⟩, if_pos hs]
  · rw [if_neg (by omega), if_neg hs, inflateLoop]
    rfl

theorem onData_lastFragment :
    onData syncEnv midMessage
      [0x80, 0x01, 0x42, 0x89, 0x01, 0x50, 0x88, 0x04, 0x03, 0xE8, 0x6F, 0x6B] = some (closed, []) := by
  have hLast : onDataStep syncEnv midMessage
      [0x80, 0x01, 0x42, 0x89, 0x01, 0x50, 0x88, 0x04, 0x03, 0xE8, 0x6F, 0x6B] =
        .next delivered [0x89, 0x01, 0x50, 0x88, 0x04, 0x03, 0xE8, 0x6F, 0x6B] := by
    simp only [onDataStep, handleFrame, handleContinuationFrame, rxInflate, syncEnv_inflateLoop]
    rfl
  have hPing : onDataStep syncEnv delivered [0x89, 0x01, 0x50, 0x88, 0x04, 0x03, 0xE8, 0x6F, 0x6B] =
      .next (delivered.call (.onRxPing [0x50])) [0x88, 0x04, 0x03, 0xE8, 0x6F, 0x6B] := by rfl
  have hReason : isValidUtf8 [0x6F, 0x6B] ([0x6F, 0x6B] : Bytes).length = true :=
    (isValidUtf8_iff le_rfl).mpr
      ((utf8Octets_cons_ascii (by decide)).mpr ((utf8Octets_cons_ascii (by decide)).mpr .nil))
  have hClose : onDataStep syncEnv (delivered.call (.onRxPing [0x50]))
      [0x88, 0x04, 0x03, 0xE8, 0x6F, 0x6B] =
        .next closed ([0x88, 0x04, 0x03, 0xE8, 0x6F, 0x6B].drop 6) := by
    refine onDataStep_of_frame syncEnv (by rfl) (by rfl) ?_
    show some (handleCloseFrame _ [0x03, 0xE8, 0x6F, 0x6B]) = _
    rw [handleCloseFrame, closeFields_cons_cons _ _ _ (by decide), if_pos hReason]
    rfl
  rw [onData_of_next syncEnv hLast, onData_of_next syncEnv hPing, onData_of_next syncEnv hClose]
  exact onData_of_done syncEnv (by rfl)

theorem reachable_midMessage : Reachable syncEnv midMessage [] := by
  have hSent : Op.apply syncEnv negotiated (.txPrepare [0x43] true) = sentC := by
    show (txPrepare syncEnv negotiated [0x43] true).2 = sentC
    unfold txPrepare txDeflate
    rw [txDeflateLoop]
    rfl
  have h : Reachable syncEnv sentC [] := by
    rw [← hSent]
    exact .op (.op .init (.initializeCompression { enabled := true })) _
  exact .data h _ onData_firstFragment

theorem reachable_closed : Reachable syncEnv closed [] :=
  .data reachable_midMessage _ onData_lastFragment

/-! ### The `z_stream`s -/

theorem Streams.allows_of_onZlib {c : Call} (hz : c.onZlib = false) (s : Streams) :
    s.allows c = true := by
  cases c <;> first | rfl | cases hz

theorem Streams.after_of_onZlib {c : Call} (hz : c.onZlib = false) (s : Streams) : s.after c = s := by
  cases s
  cases c <;> first | (cases hz; done) | simp [Streams.after, Streams.allows]

/-- A call that is not on zlib keeps the stream invariant. -/
theorem Lifecycle.callOff {st : Receiver} (h : Lifecycle st) {c : Call} (hz : c.onZlib = false) :
    Lifecycle (st.call c) :=
  h.call (Streams.allows_of_onZlib hz _) fun s => by rw [Streams.after_of_onZlib hz]; exact ⟨rfl, rfl⟩

theorem Move.lifecycle {st st' : Receiver} (h : Move env st st') (hL : Lifecycle st) :
    Lifecycle st' := by
  cases h with
  | call hz => exact hL.callOff hz
  | inflate input => exact rxInflate_lifecycle hL input
  | reset => exact rxMaybeResetAfterMessage_lifecycle hL
  | start | update | clear => exact hL.frame rfl rfl rfl fun _ => rfl

/-- Over every run, with any sink, validator and zlib: the flags say exactly which `z_stream` is
live and each implies that compression is enabled, and every zlib call, those `onData` makes
included, found its stream in the state the call needs. -/
theorem reachable_lifecycle {st : Receiver} {buf : Bytes} (h : Reachable env st buf) :
    Lifecycle st ∧ ∀ p c s, st.trace = p ++ c :: s → (streams p).allows c = true := by
  have hL : Lifecycle st := h.inv Lifecycle lifecycle_init (fun _ op h => h.apply op)
    fun hp h => Handled.inv Lifecycle Move.lifecycle (fun _ _ hz _ h => h.callOff hz) hp.2 h
  exact ⟨hL, (streams_wellUsed_iff _).mp hL.wellUsed⟩

theorem reachable_lifecycle_destroyed :
    Reachable syncEnv (Op.apply syncEnv closed .destroy) [] ∧
      Lifecycle (Op.apply syncEnv closed .destroy) ∧
      ∀ p c s, (Op.apply syncEnv closed .destroy).trace = p ++ c :: s →
        (streams p).allows c = true :=
  have h : Reachable syncEnv (Op.apply syncEnv closed .destroy) [] := .op reachable_closed .destroy
  ⟨h, reachable_lifecycle h⟩

/-! ### Reassembly -/

/-- In every reachable state a message in progress is text or binary, so the
`Unknown fragmented opcode` branch of `handleContinuationFrame` is dead, and with no message in
progress nothing of the last one is kept. -/
theorem reachable_reassembly {st : Receiver} {buf : Bytes} (h : Reachable env st buf) :
    (st.messageInProgress = true → st.fragmentedOpcode = 1 ∨ st.fragmentedOpcode = 2) ∧
      (st.messageInProgress = false → st.compressedMessageInProgress = false ∧
        st.fragmentedOpcode = 0 ∧ st.fragmentedMessage = []) := by
  have hR : Reassembly st := h.inv Reassembly ⟨nofun, fun _ => ⟨rfl, rfl, rfl⟩⟩
    (fun st op h => h.of_fragments (Op.confined env st op).keeps) fun hp h => hp.2.reassembly h
  exact ⟨hR.opcode, hR.idle⟩

theorem reachable_reassembly_midMessage :
    Reachable syncEnv midMessage [] ∧
      (midMessage.messageInProgress = true →
        midMessage.fragmentedOpcode = 1 ∨ midMessage.fragmentedOpcode = 2) ∧
      (midMessage.messageInProgress = false → midMessage.compressedMessageInProgress = false ∧
        midMessage.fragmentedOpcode = 0 ∧ midMessage.fragmentedMessage = []) :=
  ⟨reachable_midMessage, reachable_reassembly reachable_midMessage⟩

/-! ### What the sink is told -/

/-- In every reachable state, everything the sink was told is sound: each ping it was handed fits
a control frame, each close carries a permitted code and a well-formed reason of at most 123
bytes, and each protocol error is 1002 or 1007. -/
theorem reachable_sinkSound {st : Receiver} {buf : Bytes} (h : Reachable env st buf) :
    ∀ c ∈ st.trace, c.Sound := by
  refine h.inv (fun st => ∀ c ∈ st.trace, c.Sound) nofun (fun st op h => ?_) fun hp h => ?_
  · obtain ⟨⟨zs, hT, hzs⟩, -⟩ := Op.confined env st op
    intro c hc
    rcases List.mem_append.mp (hT ▸ hc) with hc | hc
    · exact h c hc
    · exact (Call.quiet_of_onZlib (hzs c hc)).2.2
  · obtain ⟨cs, e, hT, hcs, -, he⟩ := hp.2.trace
    intro c hc
    rw [hT, List.mem_append, List.mem_append] at hc
    rcases hc with (hc | hc) | hc
    · exact h c hc
    · exact (hcs c hc).2.1
    · exact (he c hc).1

/-- `81 01 43`, a text frame in the middle of the compressed message: a 1002. -/
theorem onData_newMessageMidway :
    onData syncEnv midMessage [0x81, 0x01, 0x43] = some (midMessage.fail 1002
      "Received new data frame when expecting continuation frame", []) :=
  (onData_of_next syncEnv (by rfl)).trans (onData_of_done syncEnv (by rfl))

/-- Both ends of the run: the ping, the text and the close with its reason, and a 1002. -/
theorem reachable_sinkSound_closed :
    Reachable syncEnv closed [] ∧ (∀ c ∈ closed.trace, c.Sound) ∧
      Reachable syncEnv
        (midMessage.fail 1002 "Received new data frame when expecting continuation frame") [] ∧
      ∀ c ∈ (midMessage.fail 1002
        "Received new data frame when expecting continuation frame").trace, c.Sound :=
  have h : Reachable syncEnv
      (midMessage.fail 1002 "Received new data frame when expecting continuation frame") [] :=
    .data reachable_midMessage _ onData_newMessageMidway
  ⟨reachable_closed, reachable_sinkSound reachable_closed, h, reachable_sinkSound h⟩

/-- No sink call follows a call that ends the connection. -/
def SilentAfterEnd (t : List Call) : Prop :=
  ∀ p c s, t = p ++ c :: s → c.endsConnection = true → ∀ d ∈ s, d.isSink = false

theorem silentAfterEnd_append {t zs : List Call} (h : SilentAfterEnd t)
    (hz : ∀ d ∈ zs, d.isSink = false) : SilentAfterEnd (t ++ zs) := by
  intro p c s hEq hc
  have hc' : c ∉ zs := fun hm => by
    have hq := hz c hm
    rw [Call.isSink_of_endsConnection hc] at hq
    cases hq
  rcases List.append_eq_append_iff.mp hEq with ⟨a, rfl, hZ⟩ | ⟨a, rfl, hS⟩
  · exact absurd (hZ ▸ List.mem_append_right a (List.mem_cons_self c s)) hc'
  rcases a with _ | ⟨x, a⟩
  · rw [List.nil_append] at hS
    exact absurd (hS ▸ List.mem_cons_self c s) hc'
  simp only [List.cons_append, List.cons.injEq] at hS
  obtain ⟨rfl, rfl⟩ := hS
  intro d hd
  rcases List.mem_append.mp hd with hd | hd
  · exact h p c a rfl hc d hd
  · exact hz d hd

/-- A trace with no ending call, followed by at most one more call, is silent after its end. -/
theorem silentAfterEnd_of_live {t e : List Call} (ht : t.any Call.endsConnection = false)
    (he : e.length ≤ 1) : SilentAfterEnd (t ++ e) := by
  intro p c s hEq hc d hd
  have hEmpty : ∀ a, e = a ++ c :: s → s = [] := fun a hE => by
    have hl := congrArg List.length hE
    simp only [List.length_append, List.length_cons] at hl
    exact List.length_eq_zero.mp (by omega)
  rcases List.append_eq_append_iff.mp hEq with ⟨a, -, hE⟩ | ⟨a, rfl, hS⟩
  · simp [hEmpty a hE] at hd
  rcases a with _ | ⟨x, a⟩
  · simp [hEmpty [] hS.symm] at hd
  simp only [List.cons_append, List.cons.injEq] at hS
  obtain ⟨rfl, -⟩ := hS
  simp [hc] at ht

/-- Once the sink has been told of a protocol error or a close, a sink that then reports
terminating is told nothing more: over every run, at most one call ends the connection and no
sink call comes after it. -/
theorem reachable_silentAfterEnd
    (hSink : ∀ t, t.any Call.endsConnection = true → env.sink.rxIsTerminating t = true)
    {st : Receiver} {buf : Bytes} (h : Reachable env st buf) : SilentAfterEnd st.trace := by
  refine h.inv (fun st => SilentAfterEnd st.trace) (fun _ _ _ h => by simp at h)
    (fun st op h => ?_) fun {s _} hp _ => ?_
  · obtain ⟨⟨zs, hT, hzs⟩, -⟩ := Op.confined env st op
    rw [hT]
    exact silentAfterEnd_append h fun d hd => (Call.quiet_of_onZlib (hzs d hd)).2.1
  · obtain ⟨hLive, hH⟩ := hp
    obtain ⟨cs, e, hT, hcs, he, -⟩ := hH.trace
    have ht : s.trace.any Call.endsConnection = false := by
      cases hA : s.trace.any Call.endsConnection
      · rfl
      · rw [hSink _ hA] at hLive; cases hLive
    rw [hT]
    refine silentAfterEnd_of_live ?_ he
    simp only [List.any_append, ht, Bool.false_or, List.any_eq_false]
    exact fun c hc => by simp [(hcs c hc).1]

/-- `88 00 89 00`, a close with no payload and then a ping, from a new receiver with a sink that
terminates on the close: the ping is left in the buffer. -/
theorem onData_closeThenPing :
    onData closingEnv {} [0x88, 0x00, 0x89, 0x00] =
      some (({} : Receiver).call (.onRxClose 1000 []), [0x89, 0x00]) := by
  have hClose : onDataStep closingEnv {} [0x88, 0x00, 0x89, 0x00] =
      .next (({} : Receiver).call (.onRxClose 1000 [])) [0x89, 0x00] := rfl
  have hStop : onDataStep closingEnv (({} : Receiver).call (.onRxClose 1000 [])) [0x89, 0x00] =
      .done (({} : Receiver).call (.onRxClose 1000 [])) := rfl
  exact (onData_of_next closingEnv hClose).trans (onData_of_done closingEnv hStop)

theorem reachable_silentAfterEnd_closeThenPing :
    (∀ t, t.any Call.endsConnection = true → closingEnv.sink.rxIsTerminating t = true) ∧
      Reachable closingEnv (({} : Receiver).call (.onRxClose 1000 [])) [0x89, 0x00] ∧
      SilentAfterEnd (({} : Receiver).call (.onRxClose 1000 [])).trace :=
  have hR : Reachable closingEnv (({} : Receiver).call (.onRxClose 1000 [])) [0x89, 0x00] :=
    .data .init [0x88, 0x00, 0x89, 0x00] onData_closeThenPing
  ⟨fun _ h => h, hR, reachable_silentAfterEnd (fun _ h => h) hR⟩

/-! ### Streams live exactly while compression is enabled -/

/-- The flags agree with the configuration: a stream is live exactly while compression is
enabled. -/
structure Steady (st : Receiver) : Prop where
  inflate : st.inflateInitialized = st.cfg.enabled
  deflate : st.deflateInitialized = st.cfg.enabled

theorem rxInflate_inflateInitialized (st : Receiver) (input : Bytes) :
    (rxInflate env st input).2.2.inflateInitialized = st.inflateInitialized := by
  unfold rxInflate
  split_ifs
  · rfl
  all_goals
    exact inflateLoop_inv (fun s => s.inflateInitialized = st.inflateInitialized)
      (fun _ _ h => h) _ _ _ rfl

/-- `rxInflate` keeps the flags and the configuration. -/
theorem Steady.rxInflate {st : Receiver} (h : Steady st) (input : Bytes) :
    Steady (rxInflate env st input).2.2 := by
  have hK := (rxInflate_confined env st input).keeps
  simp only [rxKeep, transmit, Prod.mk.injEq] at hK
  exact ⟨by rw [rxInflate_inflateInitialized, hK.2.1]; exact h.inflate,
    by rw [hK.2.2.1, hK.2.1]; exact h.deflate⟩

theorem Steady.shutdownCompression (st : Receiver) : Steady (shutdownCompression st) :=
  ⟨(shutdownCompression_inflateInitialized st).trans rfl,
    (shutdownCompression_deflateInitialized st).trans rfl⟩

section InitOk

variable (hInf : ∀ t bits, env.zlib.inflateInit2 t bits = zOk)
  (hDef : ∀ t level bits, env.zlib.deflateInit2 t level bits = zOk)

include hInf in
theorem rxInitInflate_ok (st : Receiver) : (rxInitInflate env st).1 = true ∧
    (rxInitInflate env st).2.inflateInitialized = true := by
  simp [rxInitInflate, hInf]

include hDef in
theorem txInitDeflate_ok (st : Receiver) : (txInitDeflate env st).1 = true ∧
    (txInitDeflate env st).2.deflateInitialized = true := by
  simp [txInitDeflate, hDef]

include hInf in
theorem Steady.rxMaybeResetAfterMessage {st : Receiver} (h : Steady st) :
    Steady (rxMaybeResetAfterMessage env st) := by
  unfold Receiver.rxMaybeResetAfterMessage rxResetInflate
  split_ifs with hOn hOff
  · exact h
  · simp only [Bool.and_eq_true] at hOn
    exact ⟨by rw [(rxInitInflate_ok hInf _).2, rxInitInflate_cfg]; exact hOn.1.symm,
      by rw [rxInitInflate_deflateInitialized, rxInitInflate_cfg]; exact h.deflate⟩
  · exact h

include hInf in
theorem Move.steady {st st' : Receiver} (h : Move env st st') (hS : Steady st) : Steady st' := by
  cases h with
  | call | start | update | clear => exact ⟨hS.inflate, hS.deflate⟩
  | inflate input => exact hS.rxInflate input
  | reset => exact hS.rxMaybeResetAfterMessage hInf

include hInf hDef in
theorem Steady.initializeCompression (st : Receiver) (cfg : PerMessageDeflateConfig) :
    Steady (initializeCompression env st cfg).2 := by
  unfold Receiver.initializeCompression
  dsimp only
  split_ifs with hOff
  · simp only [Bool.not_eq_true'] at hOff
    exact ⟨by simp [hOff], by simp [hOff]⟩
  simp only [Bool.not_eq_true', Bool.not_eq_false] at hOff
  generalize hs0 : { Receiver.shutdownCompression st with cfg := cfg } = st0
  replace hOff : st0.cfg.enabled = true := hs0 ▸ hOff
  obtain ⟨hOk1, hLive1⟩ := rxInitInflate_ok hInf st0
  obtain ⟨hOk2, hLive2⟩ := txInitDeflate_ok hDef (rxInitInflate env st0).2
  rw [show rxInitInflate env st0 = (true, (rxInitInflate env st0).2) from Prod.ext hOk1 rfl]
  dsimp only
  rw [show txInitDeflate env (rxInitInflate env st0).2 =
    (true, (txInitDeflate env (rxInitInflate env st0).2).2) from Prod.ext hOk2 rfl]
  exact ⟨by rw [txInitDeflate_inflateInitialized, hLive1, txInitDeflate_cfg, rxInitInflate_cfg, hOff],
    by rw [hLive2, txInitDeflate_cfg, rxInitInflate_cfg, hOff]⟩

theorem txDeflateAttempt_setup (input : Bytes) (attempt : Nat) (st : Receiver) :
    (txDeflateAttempt env input attempt st).2.2.2.cfg = st.cfg ∧
      (txDeflateAttempt env input attempt st).2.2.2.inflateInitialized = st.inflateInitialized ∧
      (txDeflateAttempt env input attempt st).2.2.2.deflateInitialized = st.deflateInitialized := by
  unfold txDeflateAttempt txResetDeflate
  split_ifs <;> exact ⟨rfl, rfl, rfl⟩

include hDef in
theorem Steady.txReinitAfterNoContextTakeover {st : Receiver} (h : Steady st)
    (hOn : st.cfg.enabled = true) : Steady (txReinitAfterNoContextTakeover env st).2 := by
  unfold Receiver.txReinitAfterNoContextTakeover
  split_ifs
  · exact h
  · exact ⟨by rw [txInitDeflate_inflateInitialized, txInitDeflate_cfg]; exact h.inflate,
      by rw [(txInitDeflate_ok hDef _).2, txInitDeflate_cfg]; exact hOn.symm⟩

include hDef in
theorem Steady.txPrepare {st : Receiver} (h : Steady st) (original : Bytes) (requestCompress : Bool) :
    Steady (txPrepare env st original requestCompress).2 := by
  unfold Receiver.txPrepare
  split_ifs with hOff
  · exact h
  simp only [Bool.or_eq_true, Bool.not_eq_true', not_or, Bool.not_eq_false] at hOff
  have hD : Steady (txDeflate env st original).2 := by
    unfold txDeflate
    rw [if_neg (by simp [hOff.2])]
    exact txDeflateLoop_inv (fun s => Steady s ∧ s.cfg.enabled = true) Steady original
      (fun a s h => by
        obtain ⟨hc, hi, hd⟩ := txDeflateAttempt_setup original a s
        exact ⟨⟨by rw [hi, hc]; exact h.1.inflate, by rw [hd, hc]; exact h.1.deflate⟩, hc ▸ h.2⟩)
      (fun _ _ h => ⟨⟨h.1.inflate, h.1.deflate⟩, h.2⟩) (fun _ h => h.1)
      (fun _ h => h.1.txReinitAfterNoContextTakeover hDef h.2) 0 st ⟨h, hOff.1.2⟩
  rcases hTx : txDeflate env st original with ⟨_ | _, st'⟩ <;> rw [hTx] at hD <;> exact hD

include hInf hDef in
theorem Steady.apply {st : Receiver} (h : Steady st) : ∀ op : Op, Steady (op.apply env st)
  | .initializeCompression cfg => Steady.initializeCompression hInf hDef st cfg
  | .shutdownCompression | .destroy => Steady.shutdownCompression st
  | .txPrepare original requestCompress => h.txPrepare hDef original requestCompress
  | .rxInflate input => h.rxInflate input
  | .rxMaybeResetAfterMessage => h.rxMaybeResetAfterMessage hInf

include hInf hDef in
/-- With a zlib whose `inflateInit2` and `deflateInit2` always return `Z_OK`, in every reachable
state each stream is live exactly while compression is enabled: the receiver never runs with
compression on and a stream down, nor keeps a stream once compression is off. -/
theorem reachable_steady {st : Receiver} {buf : Bytes} (h : Reachable env st buf) :
    st.inflateInitialized = st.cfg.enabled ∧ st.deflateInitialized = st.cfg.enabled := by
  have hS : Steady st := h.inv Steady ⟨rfl, rfl⟩ (fun _ op h => h.apply hInf hDef op)
    fun hp h => Handled.inv Steady (Move.steady hInf) (fun _ _ _ _ h => ⟨h.inflate, h.deflate⟩) hp.2 h
  exact ⟨hS.inflate, hS.deflate⟩

end InitOk

/-- `reinitFailEnv` with an `inflateInit2` that always returns `Z_OK`. -/
def steadyEnv : Env :=
  { reinitFailEnv with zlib := { reinitFailEnv.zlib with inflateInit2 := fun _ _ => zOk } }

theorem reachable_steady_initialize :
    (∀ t bits, steadyEnv.zlib.inflateInit2 t bits = zOk) ∧
      (∀ t level bits, steadyEnv.zlib.deflateInit2 t level bits = zOk) ∧
      Reachable steadyEnv (Op.apply steadyEnv {} (.initializeCompression { enabled := true })) [] ∧
      (Op.apply steadyEnv {} (.initializeCompression { enabled := true })).inflateInitialized =
        (Op.apply steadyEnv {} (.initializeCompression { enabled := true })).cfg.enabled ∧
      (Op.apply steadyEnv {} (.initializeCompression { enabled := true })).deflateInitialized =
        (Op.apply steadyEnv {} (.initializeCompression { enabled := true })).cfg.enabled :=
  ⟨fun _ _ => rfl, fun _ _ _ => rfl, .op .init _,
    reachable_steady (fun _ _ => rfl) (fun _ _ _ => rfl) (.op .init _)⟩

/-! ### Setting compression up -/

@[simp] theorem shutdownCompression_cfg (st : Receiver) : (shutdownCompression st).cfg = {} := rfl

theorem rxInitInflate_live {st : Receiver} (h : (rxInitInflate env st).1 = true) :
    (rxInitInflate env st).2.inflateInitialized = true := by
  unfold rxInitInflate at h ⊢
  dsimp only at h ⊢
  split_ifs at h ⊢
  rfl

theorem txInitDeflate_live {st : Receiver} (h : (txInitDeflate env st).1 = true) :
    (txInitDeflate env st).2.deflateInitialized = true := by
  unfold txInitDeflate at h ⊢
  dsimp only at h ⊢
  split_ifs at h ⊢
  rfl

/-- Whatever zlib answers, `initializeCompression(cfg)` is all or nothing. It returns true
exactly when it leaves both streams live if `cfg.enabled` and neither if not, and then `cfg`
is in force; when it returns false it leaves neither stream live, a deflate failure having ended
the inflate stream it had started, and the default configuration, with compression off. -/
theorem initializeCompression_result (st : Receiver) (cfg : PerMessageDeflateConfig) :
    ((initializeCompression env st cfg).1 = true ↔
      (initializeCompression env st cfg).2.inflateInitialized = cfg.enabled ∧
        (initializeCompression env st cfg).2.deflateInitialized = cfg.enabled) ∧
      ((initializeCompression env st cfg).1 = true → (initializeCompression env st cfg).2.cfg = cfg) ∧
      ((initializeCompression env st cfg).1 = false →
        (initializeCompression env st cfg).2.inflateInitialized = false ∧
          (initializeCompression env st cfg).2.deflateInitialized = false ∧
          (initializeCompression env st cfg).2.cfg = {}) := by
  unfold Receiver.initializeCompression
  dsimp only
  split_ifs with hEn
  · simp only [Bool.not_eq_true'] at hEn
    exact ⟨iff_of_true rfl ⟨by simp [hEn], by simp [hEn]⟩, fun _ => rfl, nofun⟩
  simp only [Bool.not_eq_true', Bool.not_eq_false] at hEn
  have hI1 := @rxInitInflate_live env { Receiver.shutdownCompression st with cfg := cfg }
  have hIc := @rxInitInflate_cfg env { Receiver.shutdownCompression st with cfg := cfg }
  rcases hI : rxInitInflate env { Receiver.shutdownCompression st with cfg := cfg } with
    ⟨_ | _, st1⟩ <;> rw [hI] at hI1 hIc <;> dsimp only
  · simp [hEn]
  have hD1 := @txInitDeflate_live env st1
  have hDi := @txInitDeflate_inflateInitialized env st1
  have hDc := @txInitDeflate_cfg env st1
  rcases hT : txInitDeflate env st1 with ⟨_ | _, st2⟩ <;> rw [hT] at hD1 hDi hDc <;> dsimp only
  · simp [hEn]
  have e1 : st2.inflateInitialized = true := hDi.trans (hI1 rfl)
  have e2 : st2.deflateInitialized = true := hD1 rfl
  exact ⟨iff_of_true rfl ⟨e1.trans hEn.symm, e2.trans hEn.symm⟩, fun _ => hDc.trans hIc, nofun⟩

/-! ### `onData` and the rest of the receiver -/

/-- `onData` never touches the transmit side: the configuration, the deflate stream's flag,
`tx_compressed_buf` and `tx_payload_len` stay as they were, so a payload `txPrepare` pointed into
the buffer survives any bytes received; and the only zlib calls it makes are on the inflate
stream. -/
theorem onData_keepsTransmit {st st' : Receiver} {buf rest : Bytes}
    (h : onData env st buf = some (st', rest)) :
    st'.cfg = st.cfg ∧ st'.deflateInitialized = st.deflateInitialized ∧
      st'.txCompressedBuf = st.txCompressedBuf ∧ st'.txPayloadLen = st.txPayloadLen ∧
      ∃ cs, st'.trace = st.trace ++ cs ∧ ∀ c ∈ cs, c.onZlib = true → c.onInflate = true := by
  have hC := onData_inv (Confined _ transmit st) (fun hp h => h.trans hp.2.confined) h (.refl st)
  have hK := hC.keeps
  simp only [transmit, Prod.mk.injEq] at hK
  exact ⟨hK.1, hK.2.1, hK.2.2.1, hK.2.2.2, hC.calls⟩

/-- Receiving the end of the compressed message, inflating it, keeps the compressed `C`. -/
theorem onData_keepsTransmit_lastFragment :
    onData syncEnv midMessage
        [0x80, 0x01, 0x42, 0x89, 0x01, 0x50, 0x88, 0x04, 0x03, 0xE8, 0x6F, 0x6B] = some (closed, []) ∧
      closed.cfg = midMessage.cfg ∧ closed.deflateInitialized = midMessage.deflateInitialized ∧
      closed.txCompressedBuf = midMessage.txCompressedBuf ∧
      closed.txPayloadLen = midMessage.txPayloadLen ∧
      ∃ cs, closed.trace = midMessage.trace ++ cs ∧ ∀ c ∈ cs, c.onZlib = true → c.onInflate = true :=
  ⟨onData_lastFragment, onData_keepsTransmit onData_lastFragment⟩

/-! ### Sending leaves reception alone -/

/-- `txPrepare` never touches the receive side: the reassembly members and the inflate
stream's flag stay as they were, and every call it makes is on the deflate stream. With
`onData_keepsTransmit`, sending and receiving work on disjoint parts of the receiver, so a
message half received, fragmented or compressed, is not disturbed by a send. -/
theorem txPrepare_keepsReceive (st : Receiver) (original : Bytes) (requestCompress : Bool) :
    (txPrepare env st original requestCompress).2.messageInProgress = st.messageInProgress ∧
      (txPrepare env st original requestCompress).2.compressedMessageInProgress =
        st.compressedMessageInProgress ∧
      (txPrepare env st original requestCompress).2.fragmentedOpcode = st.fragmentedOpcode ∧
      (txPrepare env st original requestCompress).2.fragmentedMessage = st.fragmentedMessage ∧
      (txPrepare env st original requestCompress).2.inflateInitialized = st.inflateInitialized ∧
      ∃ cs, (txPrepare env st original requestCompress).2.trace = st.trace ++ cs ∧
        ∀ c ∈ cs, c.onDeflate = true := by
  obtain ⟨hCalls, hK⟩ := txPrepare_confined env st original requestCompress
  simp only [rxSide, fragments, Prod.mk.injEq] at hK
  obtain ⟨⟨h1, h2, h3, h4⟩, h5⟩ := hK
  exact ⟨h1, h2, h3, h4, h5, hCalls⟩

/-! ### Where `onData` stops -/

theorem onDataStep_next_suffix {st st' : Receiver} {buf rest : Bytes}
    (h : onDataStep env st buf = .next st' rest) : rest <:+ buf := by
  unfold onDataStep at h
  split at h
  · cases h
  split at h <;> try cases h
  split at h <;> cases h
  exact List.drop_suffix _ _

theorem not_mem_of_handleFrame_eq_none {st : Receiver} {fin rsv1 : Bool} {opcode : Nat}
    {payload : Bytes} (h : handleFrame env st fin rsv1 opcode payload = none) :
    opcode ∉ [0, 1, 2, 8, 9, 10] := by
  simp only [List.mem_cons, List.mem_singleton, List.not_mem_nil, or_false]
  rintro (rfl | rfl | rfl | rfl | rfl | rfl) <;> cases h

/-- A pass that ends the loop: the sink was terminating, or the front of the buffer is not a
whole frame, or the frame there was refused with a 1002. -/
theorem onDataStep_done_cases {st st' : Receiver} {buf : Bytes}
    (h : onDataStep env st buf = .done st') :
    st' = st ∧ (env.sink.rxIsTerminating st.trace = true ∨
      readFrame (env.sink.rxCompressionEnabled st.trace) buf = .wait) ∨
    ∃ why, st' = st.fail 1002 why ∧ env.sink.rxIsTerminating st.trace = false ∧
      (readFrame (env.sink.rxCompressionEnabled st.trace) buf = .reject why ∨
        ∃ fin rsv1 opcode payload need, readFrame (env.sink.rxCompressionEnabled st.trace) buf =
          .frame fin rsv1 opcode payload need ∧ opcode ∉ [0, 1, 2, 8, 9, 10]) := by
  unfold onDataStep at h
  split_ifs at h with hTerm
  · cases h
    exact .inl ⟨rfl, .inl hTerm⟩
  simp only [Bool.not_eq_true] at hTerm
  split at h <;> try cases h
  · exact .inl ⟨rfl, .inr ‹_›⟩
  · exact .inr ⟨_, rfl, hTerm, .inl ‹_›⟩
  · split at h <;> cases h
    exact .inr ⟨_, rfl, hTerm, .inr ⟨_, _, _, _, _, ‹_›, not_mem_of_handleFrame_eq_none ‹_›⟩⟩

/-- `onData` leaves a tail of its input, and stops only when the sink reports terminating, when
what is left does not start with a whole frame, or when it refused the frame at the front with a
1002 (a bad header, or an opcode the `switch` has no case for), which it leaves in the buffer. It
never stops with a whole frame it could handle unhandled. -/
theorem onData_stops {st st' : Receiver} {buf rest : Bytes}
    (h : onData env st buf = some (st', rest)) :
    rest <:+ buf ∧ (env.sink.rxIsTerminating st'.trace = true ∨
      readFrame (env.sink.rxCompressionEnabled st'.trace) rest = .wait ∨
      ∃ (s : Receiver) (why : String), st' = s.fail 1002 why ∧ env.sink.rxIsTerminating s.trace = false ∧
        (readFrame (env.sink.rxCompressionEnabled s.trace) rest = .reject why ∨
          ∃ fin rsv1 opcode payload need, readFrame (env.sink.rxCompressionEnabled s.trace) rest =
            .frame fin rsv1 opcode payload need ∧ opcode ∉ [0, 1, 2, 8, 9, 10])) := by
  induction' hn : buf.length using Nat.strong_induction_on with n ih generalizing st buf
  rcases hs : onDataStep env st buf with s | ⟨s, r⟩ | _
  · rw [onData_of_done env hs] at h
    cases h
    refine ⟨List.suffix_refl _, ?_⟩
    rcases onDataStep_done_cases hs with ⟨rfl, hT | hW⟩ | ⟨why, rfl, hLive, hR⟩
    · exact .inl hT
    · exact .inr (.inl hW)
    · exact .inr (.inr ⟨st, why, rfl, hLive, hR⟩)
  · rw [onData_of_next env hs] at h
    obtain ⟨hSuf, hWhy⟩ := ih _ (hn ▸ by have := onDataStep_next_length env hs; omega) h rfl
    exact ⟨hSuf.trans (onDataStep_next_suffix hs), hWhy⟩
  · rw [onData_of_abort env hs] at h
    cases h

theorem onData_stops_closeThenPing :
    onData closingEnv {} [0x88, 0x00, 0x89, 0x00] =
      some (({} : Receiver).call (.onRxClose 1000 []), [0x89, 0x00]) ∧
    [0x89, 0x00] <:+ ([0x88, 0x00, 0x89, 0x00] : Bytes) ∧
      (closingEnv.sink.rxIsTerminating (({} : Receiver).call (.onRxClose 1000 [])).trace = true ∨
        readFrame (closingEnv.sink.rxCompressionEnabled
          (({} : Receiver).call (.onRxClose 1000 [])).trace) [0x89, 0x00] = .wait ∨
        ∃ (s : Receiver) (why : String), ({} : Receiver).call (.onRxClose 1000 []) = s.fail 1002 why ∧
          closingEnv.sink.rxIsTerminating s.trace = false ∧
          (readFrame (closingEnv.sink.rxCompressionEnabled s.trace) [0x89, 0x00] = .reject why ∨
            ∃ fin rsv1 opcode payload need, readFrame (closingEnv.sink.rxCompressionEnabled s.trace)
              [0x89, 0x00] = .frame fin rsv1 opcode payload need ∧ opcode ∉ [0, 1, 2, 8, 9, 10])) :=
  ⟨onData_closeThenPing, onData_stops onData_closeThenPing⟩

theorem rxInflate_of_off {st : Receiver} (hOff : st.inflateInitialized = false) (input : Bytes) :
    rxInflate env st input = (true, input, st) := by
  simp [rxInflate, hOff]

theorem rxMaybeResetAfterMessage_of_off {st : Receiver} (hOff : st.inflateInitialized = false) :
    rxMaybeResetAfterMessage env st = st := by
  simp [rxMaybeResetAfterMessage, rxResetInflate, hOff]

/-- With no live inflate stream, a move calls no zlib and starts no stream. -/
theorem Move.dormant {st st' : Receiver} (h : Move env st st') (hOff : st.inflateInitialized = false) :
    st'.inflateInitialized = false ∧ Confined (fun c => c.onZlib = false) (fun _ => ()) st st' := by
  cases h with
  | call hz => exact ⟨hOff, (Confined.refl _).call hz rfl⟩
  | inflate input => rw [rxInflate_of_off hOff]; exact ⟨hOff, .refl _⟩
  | reset => rw [rxMaybeResetAfterMessage_of_off hOff]; exact ⟨hOff, .refl _⟩
  | start | update | clear => exact ⟨hOff, (Confined.refl _).set rfl rfl⟩

/-- A receiver whose inflate stream is not live (compression not negotiated, or its set-up
failed) receives without a single zlib call, and `onData` never brings the stream up. -/
theorem onData_dormant {st st' : Receiver} {buf rest : Bytes} (hOff : st.inflateInitialized = false)
    (h : onData env st buf = some (st', rest)) :
    st'.inflateInitialized = false ∧ ∃ cs, st'.trace = st.trace ++ cs ∧ ∀ c ∈ cs, c.onZlib = false := by
  have hD := onData_inv
    (fun s => s.inflateInitialized = false ∧ Confined (fun c => c.onZlib = false) (fun _ => ()) st s)
    (fun hp h => Handled.inv
      (fun s => s.inflateInitialized = false ∧ Confined (fun c => c.onZlib = false) (fun _ => ()) st s)
      (fun hm h => (hm.dormant h.1).imp_right h.2.trans) (fun _ _ hz _ h => ⟨h.1, h.2.call hz rfl⟩)
      hp.2 h) h ⟨hOff, .refl st⟩
  exact ⟨hD.1, hD.2.calls⟩

/-- `C2 03 72 04 00`, a compressed binary frame, with compression on in the sink but no
inflate stream: its bytes reach the sink as they came, with no zlib call. -/
theorem onData_dormant_compressedBinary :
    ({} : Receiver).inflateInitialized = false ∧
      onData syncEnv {} [0xC2, 0x03, 0x72, 0x04, 0x00] =
        some (({} : Receiver).call (.onRxBinary [0x72, 0x04, 0x00]), []) ∧
      (({} : Receiver).call (.onRxBinary [0x72, 0x04, 0x00])).inflateInitialized = false ∧
      ∃ cs, (({} : Receiver).call (.onRxBinary [0x72, 0x04, 0x00])).trace = ({} : Receiver).trace ++ cs ∧
        ∀ c ∈ cs, c.onZlib = false :=
  have h : onData syncEnv {} [0xC2, 0x03, 0x72, 0x04, 0x00] =
      some (({} : Receiver).call (.onRxBinary [0x72, 0x04, 0x00]), []) :=
    (onData_of_next syncEnv (by rfl)).trans (onData_of_done syncEnv (by rfl))
  ⟨rfl, h, onData_dormant rfl h⟩

end Receiver
end Libwsc
