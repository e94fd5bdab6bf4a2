import Libwsc.Receiver

/-! The permessage-deflate half of `WebSocketReceiver.cpp`: stream set-up and tear-down, the
outbound `txDeflate` retry loop behind `txPrepare`, and the inbound `rxInflate` chunk loop. Each
definition follows one method; zlib calls go through `Env.zlib` and are recorded in the trace. -/
namespace Libwsc
namespace Receiver

variable (env : Env)

/-- `00 00 FF FF`, the tail of a SYNC_FLUSH block that permessage-deflate leaves off the wire. -/
def syncTrailer : Bytes := [0x00, 0x00, 0xFF, 0xFF]

/-- `shutdownCompression`: end whichever streams are live, clear the transmit buffer and go back
to the default configuration. -/
def shutdownCompression (st : Receiver) : Receiver :=
  let st := if st.inflateInitialized then { st.call .inflateEnd with inflateInitialized := false }
    else st
  let st := if st.deflateInitialized then { st.call .deflateEnd with deflateInitialized := false }
    else st
  { st with txCompressedBuf := [], txPayloadLen := 0, cfg := {} }

/-- `rxInitInflate`: a raw inflate stream with the server's window. -/
def rxInitInflate (st : Receiver) : Bool × Receiver :=
  let bits := -st.cfg.serverMaxWindowBits
  let ret := env.zlib.inflateInit2 st.trace bits
  let st := st.call (.inflateInit2 bits ret)
  if ret ≠ zOk then (false, st) else (true, { st with inflateInitialized := true })

/-- `txInitDeflate`: a raw deflate stream with the client's window, memory level 8. -/
def txInitDeflate (st : Receiver) : Bool × Receiver :=
  let bits := -st.cfg.clientMaxWindowBits
  let ret := env.zlib.deflateInit2 st.trace st.cfg.compressionLevel bits
  let st := st.call (.deflateInit2 st.cfg.compressionLevel bits ret)
  if ret ≠ zOk then (false, st) else (true, { st with deflateInitialized := true })

/-- `initializeCompression`. A deflate failure after a good inflate ends the inflate stream
before `shutdownCompression` runs. -/
def initializeCompression (st : Receiver) (cfg : PerMessageDeflateConfig) : Bool × Receiver :=
  let st := { shutdownCompression st with cfg := cfg }
  if !cfg.enabled then (true, st)
  else
    match rxInitInflate env st with
    | (false, st) => (false, shutdownCompression st)
    | (true, st) =>
      match txInitDeflate env st with
      | (false, st) =>
        let st := if st.inflateInitialized then
            { st.call .inflateEnd with inflateInitialized := false } else st
        (false, shutdownCompression st)
      | (true, st) => (true, st)

/-- `rxResetInflate`: end the inflate stream and start a new one. The result of the new
`rxInitInflate` is dropped, as in the source. -/
def rxResetInflate (st : Receiver) : Receiver :=
  if !st.inflateInitialized then st
  else (rxInitInflate env { st.call .inflateEnd with inflateInitialized := false }).2

/-- `txResetDeflate` -/
def txResetDeflate (st : Receiver) : Receiver :=
  if !st.deflateInitialized then st else st.call .deflateReset

/-- `txReinitAfterNoContextTakeover`: `deflateEnd`, then the same `deflateInit2` as
`txInitDeflate`. -/
def txReinitAfterNoContextTakeover (st : Receiver) : Bool × Receiver :=
  if !st.deflateInitialized then (false, st)
  else txInitDeflate env { st.call .deflateEnd with deflateInitialized := false }

/-- `rxMaybeResetAfterMessage` -/
def rxMaybeResetAfterMessage (st : Receiver) : Receiver :=
  if st.cfg.enabled && st.cfg.serverNoContextTakeover then rxResetInflate env st else st

/-- `std::vector::resize(n)`: the first `n` bytes are kept, new ones are zero. -/
def resize (v : Bytes) (n : Nat) : Bytes := v.take n ++ List.replicate (n - v.length) 0

/-- What `deflate` leaves in a buffer whose front it wrote. -/
def overwrite (v out : Bytes) : Bytes := out ++ v.drop out.length

/-- Whether bytes `n-4 .. n-1` of the buffer read `00 00 FF FF`. -/
def endsWithSyncTrailer (buf : Bytes) (n : Nat) : Bool :=
  buf.getD (n - 4) 0 == 0x00 && buf.getD (n - 3) 0 == 0x00 &&
    buf.getD (n - 2) 0 == 0xFF && buf.getD (n - 1) 0 == 0xFF

/-- One pass of `txDeflate`'s retry loop up to its `deflate` call: reset the stream, size the
buffer from `deflateBound` and the pass's slack, and compress. Sizes are `size_t`, `avail_in` and
`avail_out` are `uInt`. Returns `bound`, `avail_out` before the call, and what `deflate` did. -/
def txDeflateAttempt (input : Bytes) (attempt : Nat) (st : Receiver) :
    Nat × Nat × ZResult × Receiver :=
  let st := txResetDeflate st
  let extra := 64 * (attempt + 1)
  let sourceLen := sizeT input.length
  let dBound := sizeT (env.zlib.deflateBound st.trace sourceLen)
  let st := st.call (.deflateBound sourceLen dBound)
  let bound := sizeT (dBound + extra)
  let buf := resize st.txCompressedBuf bound
  let chunk := input.take (uInt input.length)
  let availOut := uInt bound
  let r := env.zlib.deflate st.trace chunk availOut
  (bound, availOut, r,
    { st.call (.deflate chunk availOut r) with txCompressedBuf := overwrite buf r.produced })

/-- The `for (attempt = 0; attempt < 4; ++attempt)` loop of `txDeflate`; `produced` is the
`size_t` difference `bound - avail_out`. -/
def txDeflateLoop (input : Bytes) (attempt : Nat) (st : Receiver) : Bool × Receiver :=
  if attempt < 4 then
    let (bound, availOut, r, st) := txDeflateAttempt env input attempt st
    let availOutAfter := availOut - r.produced.length
    if r.ret ≠ zOk then
      if r.ret = zBufError ∨ availOutAfter = 0 then txDeflateLoop input (attempt + 1) st
      else (false, st)
    else
      let produced := bound - availOutAfter
      if produced < 4 then txDeflateLoop input (attempt + 1) st
      else if !endsWithSyncTrailer st.txCompressedBuf produced then
        txDeflateLoop input (attempt + 1) st
      else
        let st := { st with txPayloadLen := produced - 4 }
        if st.cfg.clientNoContextTakeover then txReinitAfterNoContextTakeover env st
        else (true, st)
  else (false, st)
termination_by 4 - attempt

/-- `txDeflate` -/
def txDeflate (st : Receiver) (input : Bytes) : Bool × Receiver :=
  if !st.deflateInitialized then (false, st) else txDeflateLoop env input 0 st

/-- `txPrepare`'s return value and its three reference parameters. -/
structure TxPrepared where
  ok : Bool
  payload : Bytes
  doCompress : Bool
  deriving DecidableEq, Repr

/-- `txPrepare`: the compressed payload (SYNC_FLUSH trailer left off) when compression was
requested, negotiated and succeeded, and the original bytes otherwise. -/
def txPrepare (st : Receiver) (original : Bytes) (requestCompress : Bool) :
    TxPrepared × Receiver :=
  if !requestCompress || !st.cfg.enabled || !st.deflateInitialized then
    (⟨true, original, false⟩, st)
  else
    match txDeflate env st original with
    | (false, st) => (⟨true, original, false⟩, st)
    | (true, st) => (⟨true, st.txCompressedBuf.take st.txPayloadLen, true⟩, st)

/-- The `while (true)` loop of `rxInflate`: `inflate` into a 4096-byte `tmp` and append what it
wrote. It ends because every `Z_OK` lowers zlib's measure. -/
def inflateLoop (st : Receiver) (input out : Bytes) : Bool × Bytes × Receiver :=
  let r := env.zlib.inflate st.trace input 4096
  let st' := st.call (.inflate input 4096 r)
  let availIn := input.length - r.consumed
  let availOut := 4096 - r.produced.length
  if hBuf : r.ret = zBufError then
    if hFull : 4096 - r.produced.length = 0 then inflateLoop st' (input.drop r.consumed) out
    else if availIn = 0 then (true, out, st')
    else (false, out, st')
  else if r.ret ≠ zOk ∧ r.ret ≠ zStreamEnd then (false, out, st')
  else if r.ret = zStreamEnd then (true, out ++ r.produced, st')
  else if availIn = 0 ∧ availOut ≠ 0 then (true, out ++ r.produced, st')
  else inflateLoop st' (input.drop r.consumed) (out ++ r.produced)
termination_by env.zlib.inflateMeasure st.trace input
decreasing_by
  · have hNil : r.produced = [] := env.zlib.inflate_bufError _ _ _ hBuf
    simp [hNil] at hFull
  · rename_i hErr hEnd
    have hOk : (env.zlib.inflate st.trace input 4096).ret = zOk := by
      by_contra hNe
      exact hErr ⟨hNe, hEnd⟩
    simpa using env.zlib.inflate_measure_lt st.trace input 4096 hOk

/-- `rxInflate`: append the trailer and inflate with SYNC_FLUSH, unless compression is off or
the inflate stream is not live, in which case the bytes pass through unchanged. `avail_in` is
the `uInt` cast of the trailer-extended size. -/
def rxInflate (st : Receiver) (input : Bytes) : Bool × Bytes × Receiver :=
  if !st.cfg.enabled || !st.inflateInitialized then (true, input, st)
  else
    let src := input ++ syncTrailer
    let st := if st.cfg.serverNoContextTakeover then st.call .inflateReset else st
    inflateLoop env st (src.take (uInt src.length)) []

section Loops

variable {env} (P Q : Receiver → Prop)

/-- What every `inflate` call keeps, the whole `rxInflate` loop keeps. -/
theorem inflateLoop_inv
    (hStep : ∀ st input, P st → P (st.call (.inflate input 4096 (env.zlib.inflate st.trace input 4096))))
    (st : Receiver) (input out : Bytes) (h : P st) : P (inflateLoop env st input out).2.2 := by
  rw [inflateLoop]
  have h' := hStep st input h
  have hNil := env.zlib.inflate_bufError st.trace input 4096
  split_ifs with hBuf hFull hIn hErr hEnd hDone
  · simp [hNil hBuf] at hFull
  all_goals try exact h'
  have hOk : (env.zlib.inflate st.trace input 4096).ret = zOk := by
    by_contra hNe
    exact hErr ⟨hNe, hEnd⟩
  have := env.zlib.inflate_measure_lt st.trace input 4096 hOk
  exact inflateLoop_inv hStep _ _ _ h'
termination_by env.zlib.inflateMeasure st.trace input

/-- One pass of the retry loop: it retries, gives up, or accepts a buffer that ends with the
trailer and records the payload length. -/
theorem txDeflateLoop_pass {input : Bytes} {attempt : Nat} (hA : attempt < 4) {st : Receiver}
    {bound availOut : Nat} {r : ZResult} {st' : Receiver}
    (hAtt : txDeflateAttempt env input attempt st = (bound, availOut, r, st')) :
    txDeflateLoop env input attempt st = txDeflateLoop env input (attempt + 1) st' ∨
      txDeflateLoop env input attempt st = (false, st') ∨
      (endsWithSyncTrailer st'.txCompressedBuf (bound - (availOut - r.produced.length)) = true ∧
        txDeflateLoop env input attempt st =
          if st'.cfg.clientNoContextTakeover then
            txReinitAfterNoContextTakeover env
              { st' with txPayloadLen := bound - (availOut - r.produced.length) - 4 }
          else (true, { st' with txPayloadLen := bound - (availOut - r.produced.length) - 4 })) := by
  rw [txDeflateLoop, if_pos hA, hAtt]
  dsimp only
  split_ifs <;> first
    | exact .inl rfl
    | exact .inr (.inl rfl)
    | exact .inr (.inr ⟨by simp_all, rfl⟩)

theorem txDeflateLoop_stop {input : Bytes} {attempt : Nat} (hA : ¬attempt < 4) (st : Receiver) :
    txDeflateLoop env input attempt st = (false, st) := by
  rw [txDeflateLoop, if_neg hA]

/-- What every pass keeps, and what the end of a pass makes of it, the retry loop gives. -/
theorem txDeflateLoop_inv (input : Bytes)
    (hAttempt : ∀ attempt st, P st → P (txDeflateAttempt env input attempt st).2.2.2)
    (hPayload : ∀ st n, P st → P { st with txPayloadLen := n })
    (hStop : ∀ st, P st → Q st) (hReinit : ∀ st, P st → Q (txReinitAfterNoContextTakeover env st).2)
    (attempt : Nat) (st : Receiver) (h : P st) : Q (txDeflateLoop env input attempt st).2 := by
  by_cases hA : attempt < 4
  swap
  · rw [txDeflateLoop_stop hA]; exact hStop _ h
  rcases hAtt : txDeflateAttempt env input attempt st with ⟨bound, availOut, r, st'⟩
  have h' : P st' := by simpa [hAtt] using hAttempt attempt st h
  rcases txDeflateLoop_pass hA hAtt with hL | hL | ⟨-, hL⟩ <;> rw [hL]
  · exact txDeflateLoop_inv input hAttempt hPayload hStop hReinit (attempt + 1) st' h'
  · exact hStop _ h'
  · split_ifs
    · exact hReinit _ (hPayload _ _ h')
    · exact hStop _ (hPayload _ _ h')
termination_by 4 - attempt

end Loops

end Receiver
end Libwsc
