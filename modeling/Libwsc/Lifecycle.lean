import Libwsc.Compression

/-! The lifetime of the two `z_stream`s. Whether a stream is live is read off the trace alone:
its last `Init2` returned `Z_OK` and no `End` came after. The receiver's flags are shown to
follow that exactly, over any run of the methods that touch zlib. -/
namespace Libwsc

/-- What a trace says of the two `z_stream`s: which one is live, and whether every zlib call so
far found its stream in the state the call needs. -/
structure Streams where
  inflateLive : Bool := false
  deflateLive : Bool := false
  wellUsed : Bool := true
  deriving DecidableEq, Repr

namespace Streams

/-- `Init2` only on a stream that is not live; every other zlib call only on a live one. -/
def allows (s : Streams) : Call → Bool
  | .inflateInit2 .. => !s.inflateLive
  | .inflateEnd | .inflateReset | .inflate .. => s.inflateLive
  | .deflateInit2 .. => !s.deflateLive
  | .deflateEnd | .deflateReset | .deflateBound .. | .deflate .. => s.deflateLive
  | _ => true

/-- One more call: an `Init2` makes its stream live when it returns `Z_OK`, an `End` ends it. -/
def after (s : Streams) (c : Call) : Streams :=
  let s' : Streams := { s with wellUsed := s.wellUsed && s.allows c }
  match c with
  | .inflateInit2 _ ret => { s' with inflateLive := ret == zOk }
  | .inflateEnd => { s' with inflateLive := false }
  | .deflateInit2 _ _ ret => { s' with deflateLive := ret == zOk }
  | .deflateEnd => { s' with deflateLive := false }
  | _ => s'

@[simp] theorem wellUsed_after (s : Streams) (c : Call) :
    (s.after c).wellUsed = (s.wellUsed && s.allows c) := by
  cases c <;> rfl

end Streams

/-- The streams at the end of a trace begun with none live. -/
def streams (trace : List Call) : Streams := trace.foldl Streams.after {}

@[simp] theorem streams_nil : streams [] = {} := rfl

@[simp] theorem streams_append_singleton (t : List Call) (c : Call) :
    streams (t ++ [c]) = (streams t).after c := by
  simp [streams]

/-- `wellUsed` says what it should: every call of the trace was allowed where it was made. -/
theorem streams_wellUsed_iff (t : List Call) :
    (streams t).wellUsed = true ↔ ∀ p c s, t = p ++ c :: s → (streams p).allows c = true :=
  foldl_allowed_iff Streams.after Streams.wellUsed Streams.allows Streams.wellUsed_after {} rfl t

namespace Receiver

variable (env : Env)

/-- The flags say which streams are live, each only while compression is enabled, and no zlib
call was made on a stream in the wrong state. -/
structure Lifecycle (st : Receiver) : Prop where
  inflate_live : (streams st.trace).inflateLive = st.inflateInitialized
  deflate_live : (streams st.trace).deflateLive = st.deflateInitialized
  inflate_enabled : st.inflateInitialized = true → st.cfg.enabled = true
  deflate_enabled : st.deflateInitialized = true → st.cfg.enabled = true
  wellUsed : (streams st.trace).wellUsed = true

theorem lifecycle_init : Lifecycle {} := ⟨rfl, rfl, nofun, nofun, rfl⟩

variable {env} {st : Receiver}

/-- Members other than the flags, the configuration and the trace do not matter. -/
theorem Lifecycle.frame {st' : Receiver} (h : Lifecycle st) (hTrace : st'.trace = st.trace)
    (hInf : st'.inflateInitialized = st.inflateInitialized)
    (hDef : st'.deflateInitialized = st.deflateInitialized)
    (hCfg : st'.inflateInitialized = true ∨ st'.deflateInitialized = true →
      st'.cfg.enabled = st.cfg.enabled) : Lifecycle st' where
  inflate_live := by rw [hTrace, hInf, h.inflate_live]
  deflate_live := by rw [hTrace, hDef, h.deflate_live]
  inflate_enabled hOn := by rw [hCfg (.inl hOn)]; exact h.inflate_enabled (hInf ▸ hOn)
  deflate_enabled hOn := by rw [hCfg (.inr hOn)]; exact h.deflate_enabled (hDef ▸ hOn)
  wellUsed := by rw [hTrace]; exact h.wellUsed

/-- A call that starts and ends nothing keeps the invariant when its stream is in the right
state for it. -/
theorem Lifecycle.call {c : Call} (h : Lifecycle st) (hAllow : (streams st.trace).allows c = true)
    (hKeep : ∀ s : Streams,
      (s.after c).inflateLive = s.inflateLive ∧ (s.after c).deflateLive = s.deflateLive) :
    Lifecycle (st.call c) where
  inflate_live := by simp [(hKeep _).1, h.inflate_live]
  deflate_live := by simp [(hKeep _).2, h.deflate_live]
  inflate_enabled := h.inflate_enabled
  deflate_enabled := h.deflate_enabled
  wellUsed := by simp [h.wellUsed, hAllow]

theorem Lifecycle.inflateEnd (h : Lifecycle st) (hLive : st.inflateInitialized = true) :
    Lifecycle { st.call .inflateEnd with inflateInitialized := false } where
  inflate_live := by simp [Streams.after]
  deflate_live := by simpa [Streams.after] using h.deflate_live
  inflate_enabled := nofun
  deflate_enabled := h.deflate_enabled
  wellUsed := by simp [Streams.allows, h.wellUsed, h.inflate_live, hLive]

theorem Lifecycle.deflateEnd (h : Lifecycle st) (hLive : st.deflateInitialized = true) :
    Lifecycle { st.call .deflateEnd with deflateInitialized := false } where
  inflate_live := by simpa [Streams.after] using h.inflate_live
  deflate_live := by simp [Streams.after]
  inflate_enabled := h.inflate_enabled
  deflate_enabled := nofun
  wellUsed := by simp [Streams.allows, h.wellUsed, h.deflate_live, hLive]

/-- The first half of `shutdownCompression`, also run by `initializeCompression` when the
deflate stream fails to start. -/
theorem Lifecycle.closeInflate (h : Lifecycle st) :
    Lifecycle (if st.inflateInitialized then
      { st.call .inflateEnd with inflateInitialized := false } else st) := by
  split_ifs with hLive
  · exact h.inflateEnd hLive
  · exact h

theorem Lifecycle.closeDeflate (h : Lifecycle st) :
    Lifecycle (if st.deflateInitialized then
      { st.call .deflateEnd with deflateInitialized := false } else st) := by
  split_ifs with hLive
  · exact h.deflateEnd hLive
  · exact h

@[simp] theorem shutdownCompression_inflateInitialized (st : Receiver) :
    (shutdownCompression st).inflateInitialized = false := by
  unfold shutdownCompression; dsimp only; split_ifs <;> simp_all

@[simp] theorem shutdownCompression_deflateInitialized (st : Receiver) :
    (shutdownCompression st).deflateInitialized = false := by
  unfold shutdownCompression; dsimp only; split_ifs <;> simp_all

theorem shutdownCompression_lifecycle (h : Lifecycle st) : Lifecycle (shutdownCompression st) :=
  h.closeInflate.closeDeflate.frame rfl rfl rfl (by simp)

/-- With the invariant, `shutdownCompression` leaves no stream live. -/
theorem shutdownCompression_closes (h : Lifecycle st) :
    (streams (shutdownCompression st).trace).inflateLive = false ∧
      (streams (shutdownCompression st).trace).deflateLive = false := by
  have h' := shutdownCompression_lifecycle h
  rw [h'.inflate_live, h'.deflate_live]
  simp

@[simp] theorem rxInitInflate_cfg (st : Receiver) : (rxInitInflate env st).2.cfg = st.cfg := by
  unfold rxInitInflate; dsimp only; split_ifs <;> rfl

@[simp] theorem rxInitInflate_deflateInitialized (st : Receiver) :
    (rxInitInflate env st).2.deflateInitialized = st.deflateInitialized := by
  unfold rxInitInflate; dsimp only; split_ifs <;> rfl

@[simp] theorem txInitDeflate_cfg (st : Receiver) : (txInitDeflate env st).2.cfg = st.cfg := by
  unfold txInitDeflate; dsimp only; split_ifs <;> rfl

@[simp] theorem txInitDeflate_inflateInitialized (st : Receiver) :
    (txInitDeflate env st).2.inflateInitialized = st.inflateInitialized := by
  unfold txInitDeflate; dsimp only; split_ifs <;> rfl

/-- `rxInitInflate` on a stream that is not live, while compression is enabled. -/
theorem rxInitInflate_lifecycle (h : Lifecycle st) (hOff : st.inflateInitialized = false)
    (hOn : st.cfg.enabled = true) : Lifecycle (rxInitInflate env st).2 := by
  obtain ⟨hInf, hDef, -, hDefOn, hUsed⟩ := h
  unfold rxInitInflate; dsimp only
  split_ifs with hRet <;> constructor <;> simp_all [Streams.after, Streams.allows]

theorem txInitDeflate_lifecycle (h : Lifecycle st) (hOff : st.deflateInitialized = false)
    (hOn : st.cfg.enabled = true) : Lifecycle (txInitDeflate env st).2 := by
  obtain ⟨hInf, hDef, hInfOn, -, hUsed⟩ := h
  unfold txInitDeflate; dsimp only
  split_ifs with hRet <;> constructor <;> simp_all [Streams.after, Streams.allows]

theorem initializeCompression_lifecycle (h : Lifecycle st) (cfg : PerMessageDeflateConfig) :
    Lifecycle (initializeCompression env st cfg).2 := by
  have h0 : Lifecycle { shutdownCompression st with cfg := cfg } :=
    (shutdownCompression_lifecycle h).frame rfl rfl rfl (by simp)
  unfold initializeCompression
  dsimp only
  split_ifs with hOff
  · exact h0
  simp only [Bool.not_eq_true', Bool.not_eq_false] at hOff
  have h1 : Lifecycle (rxInitInflate env { shutdownCompression st with cfg := cfg }).2 :=
    rxInitInflate_lifecycle h0 (by simp) hOff
  have hDef : (rxInitInflate env { shutdownCompression st with cfg := cfg }).2.deflateInitialized =
    false := by simp
  have hOn : (rxInitInflate env { shutdownCompression st with cfg := cfg }).2.cfg.enabled = true := by
    simpa using hOff
  rcases hInit : rxInitInflate env { shutdownCompression st with cfg := cfg } with ⟨_ | _, st1⟩ <;>
    rw [hInit] at h1 hDef hOn
  · exact shutdownCompression_lifecycle h1
  have h2 : Lifecycle (txInitDeflate env st1).2 := txInitDeflate_lifecycle h1 hDef hOn
  rcases hTx : txInitDeflate env st1 with ⟨_ | _, st2⟩ <;> rw [hTx] at h2 <;> simp only [hTx]
  · exact shutdownCompression_lifecycle h2.closeInflate
  · exact h2

/-- `rxResetInflate`: the old stream is ended before the new one is started. -/
theorem rxResetInflate_lifecycle (h : Lifecycle st) : Lifecycle (rxResetInflate env st) := by
  unfold rxResetInflate
  split_ifs with hOff
  · exact h
  · simp only [Bool.not_eq_true', Bool.not_eq_false] at hOff
    exact rxInitInflate_lifecycle (h.inflateEnd hOff) rfl (h.inflate_enabled hOff)

theorem txResetDeflate_lifecycle (h : Lifecycle st) : Lifecycle (txResetDeflate st) := by
  unfold txResetDeflate
  split_ifs with hOff
  · exact h
  · simp only [Bool.not_eq_true', Bool.not_eq_false] at hOff
    exact h.call (by simp [Streams.allows, h.deflate_live, hOff]) fun _ => ⟨rfl, rfl⟩

theorem txReinitAfterNoContextTakeover_lifecycle (h : Lifecycle st) :
    Lifecycle (txReinitAfterNoContextTakeover env st).2 := by
  unfold txReinitAfterNoContextTakeover
  split_ifs with hOff
  · exact h
  · simp only [Bool.not_eq_true', Bool.not_eq_false] at hOff
    exact txInitDeflate_lifecycle (h.deflateEnd hOff) rfl (h.deflate_enabled hOff)

theorem rxMaybeResetAfterMessage_lifecycle (h : Lifecycle st) :
    Lifecycle (rxMaybeResetAfterMessage env st) := by
  unfold rxMaybeResetAfterMessage
  split_ifs
  · exact rxResetInflate_lifecycle h
  · exact h

@[simp] theorem txResetDeflate_deflateInitialized (st : Receiver) :
    (txResetDeflate st).deflateInitialized = st.deflateInitialized := by
  unfold txResetDeflate; split_ifs <;> rfl

@[simp] theorem txResetDeflate_cfg (st : Receiver) : (txResetDeflate st).cfg = st.cfg := by
  unfold txResetDeflate; split_ifs <;> rfl

/-- A pass of the retry loop on a live deflate stream: `deflateBound` and `deflate` find it
live, and it stays live. -/
theorem txDeflateAttempt_lifecycle (input : Bytes) (attempt : Nat)
    (h : Lifecycle st ∧ st.deflateInitialized = true) :
    Lifecycle (txDeflateAttempt env input attempt st).2.2.2 ∧
      (txDeflateAttempt env input attempt st).2.2.2.deflateInitialized = true := by
  obtain ⟨h, hLive⟩ := h
  have h1 := txResetDeflate_lifecycle h
  unfold txDeflateAttempt
  refine ⟨Lifecycle.frame ((h1.call ?_ ?_).call ?_ ?_) rfl rfl rfl fun _ => rfl,
    by simpa using hLive⟩ <;>
  simp [Streams.allows, Streams.after, h1.deflate_live, hLive]

theorem txDeflate_lifecycle (h : Lifecycle st) (input : Bytes) :
    Lifecycle (txDeflate env st input).2 := by
  unfold txDeflate
  split_ifs with hOff
  · exact h
  simp only [Bool.not_eq_true', Bool.not_eq_false] at hOff
  exact txDeflateLoop_inv (fun st => Lifecycle st ∧ st.deflateInitialized = true) Lifecycle
    input (fun a _ h => txDeflateAttempt_lifecycle input a h) (fun _ _ h => ⟨h.1.frame rfl rfl rfl fun _ => rfl, h.2⟩)
    (fun _ h => h.1) (fun _ h => txReinitAfterNoContextTakeover_lifecycle h.1) 0 st ⟨h, hOff⟩

theorem txPrepare_lifecycle (h : Lifecycle st) (original : Bytes) (requestCompress : Bool) :
    Lifecycle (txPrepare env st original requestCompress).2 := by
  unfold txPrepare
  split_ifs
  · exact h
  have h' : Lifecycle (txDeflate env st original).2 := txDeflate_lifecycle h original
  rcases hTx : txDeflate env st original with ⟨_ | _, st'⟩ <;> rw [hTx] at h' <;> exact h'

theorem rxInflate_lifecycle (h : Lifecycle st) (input : Bytes) :
    Lifecycle (rxInflate env st input).2.2 := by
  unfold rxInflate
  split_ifs with hOff hTakeover
  · exact h
  all_goals
    simp only [Bool.or_eq_true, Bool.not_eq_true', not_or, Bool.not_eq_false] at hOff
    refine inflateLoop_inv (fun st => Lifecycle st ∧ st.inflateInitialized = true)
      (fun _ _ h => ⟨h.1.call (by simp [Streams.allows, h.1.inflate_live, h.2])
        fun _ => ⟨rfl, rfl⟩, h.2⟩) _ _ _ ?_ |>.1
  · exact ⟨h.call (by simp [Streams.allows, h.inflate_live, hOff.2]) fun _ => ⟨rfl, rfl⟩, hOff.2⟩
  · exact ⟨h, hOff.2⟩

/-- The methods of `WebSocketReceiver` that touch the `z_stream`s, and its destructor. -/
inductive Op where
  | initializeCompression (cfg : PerMessageDeflateConfig)
  | shutdownCompression
  | txPrepare (original : Bytes) (requestCompress : Bool)
  | rxInflate (input : Bytes)
  | rxMaybeResetAfterMessage
  /-- `~WebSocketReceiver`, which runs `shutdownCompression`. -/
  | destroy

variable (env) in
/-- The receiver after one method call. -/
def Op.apply (st : Receiver) : Op → Receiver
  | .initializeCompression cfg => (Receiver.initializeCompression env st cfg).2
  | .shutdownCompression | .destroy => Receiver.shutdownCompression st
  | .txPrepare original requestCompress => (Receiver.txPrepare env st original requestCompress).2
  | .rxInflate input => (Receiver.rxInflate env st input).2.2
  | .rxMaybeResetAfterMessage => Receiver.rxMaybeResetAfterMessage env st

variable (env) in
/-- A sequence of method calls. -/
def runOps (st : Receiver) (ops : List Op) : Receiver := ops.foldl (Op.apply env) st

theorem Lifecycle.apply (h : Lifecycle st) : ∀ op : Op, Lifecycle (op.apply env st)
  | .initializeCompression cfg => initializeCompression_lifecycle h cfg
  | .shutdownCompression | .destroy => shutdownCompression_lifecycle h
  | .txPrepare original requestCompress => txPrepare_lifecycle h original requestCompress
  | .rxInflate input => rxInflate_lifecycle h input
  | .rxMaybeResetAfterMessage => rxMaybeResetAfterMessage_lifecycle h

theorem Lifecycle.runOps (h : Lifecycle st) (ops : List Op) : Lifecycle (runOps env st ops) := by
  induction ops generalizing st with
  | nil => exact h
  | cons op ops ih => exact ih (h.apply op)

/-- Over any sequence of method calls from a new receiver, whatever each `Init2` returns: the
flags are exactly the liveness of the streams and imply that compression is enabled, every
zlib call found its stream live (an `Init2`, not live), and `shutdownCompression` or the
destructor leaves no stream live. -/
theorem zstream_lifecycle (env : Env) (ops : List Op) :
    Lifecycle (runOps env {} ops) ∧
      (∀ p c s, (runOps env {} ops).trace = p ++ c :: s → (streams p).allows c = true) ∧
      ∀ op ∈ [Op.shutdownCompression, Op.destroy],
        (streams (runOps env {} (ops ++ [op])).trace).inflateLive = false ∧
          (streams (runOps env {} (ops ++ [op])).trace).deflateLive = false := by
  have h : Lifecycle (runOps env {} ops) := lifecycle_init.runOps ops
  refine ⟨h, (streams_wellUsed_iff _).mp h.wellUsed, ?_⟩
  simp only [List.mem_cons, List.mem_singleton, List.not_mem_nil, or_false]
  rintro op (rfl | rfl) <;>
    simpa [runOps, List.foldl_append, Op.apply] using shutdownCompression_closes h

end Receiver
end Libwsc
