import Libwsc.OnData

/-! Two ways `rxInflate` hands back bytes it did not inflate. The `uInt` cast of `src.size()`
gives `inflate` nothing of a payload of `2^32 - 4` bytes, and a failed `inflateInit2` in
`rxResetInflate` leaves compression enabled with no inflate stream, so the pass-through branch
delivers later compressed messages as they came off the wire. -/
namespace Libwsc
namespace Receiver

variable {env : Env}

/-- A loop pass on no input, where zlib can make no progress, ends the loop with success. -/
theorem inflateLoop_nil {st : Receiver} {out : Bytes}
    (hEmpty : (env.zlib.inflate st.trace [] 4096).ret = zBufError) :
    inflateLoop env st [] out = (true, out, st.call (.inflate [] 4096 (env.zlib.inflate st.trace [] 4096))) := by
  have hNil := env.zlib.inflate_bufError st.trace [] 4096 hEmpty
  rw [inflateLoop]
  simp [hEmpty, hNil]

/-- A pass that ends the stream ends the loop with what it wrote appended. -/
theorem inflateLoop_streamEnd {st : Receiver} {input out : Bytes}
    (hEnd : (env.zlib.inflate st.trace input 4096).ret = zStreamEnd) :
    inflateLoop env st input out = (true, out ++ (env.zlib.inflate st.trace input 4096).produced,
      st.call (.inflate input 4096 (env.zlib.inflate st.trace input 4096))) := by
  rw [inflateLoop]
  simp [hEnd, zStreamEnd, zBufError, zOk]

/-- With `|q| + 4 = 2^32`, `avail_in` is 0: `inflate` is given nothing, makes no progress, and
`rxInflate` reports success with an empty message, whatever `q` held. -/
theorem rxInflate_dropsPayload (st : Receiver) (q : Bytes) (hEnabled : st.cfg.enabled = true)
    (hLive : st.inflateInitialized = true) (hq : q.length + 4 = 2 ^ 32)
    (hEmpty : ∀ t, (env.zlib.inflate t [] 4096).ret = zBufError) :
    (rxInflate env st q).1 = true ∧ (rxInflate env st q).2.1 = [] := by
  have hCast : (q ++ syncTrailer).take (uInt (q ++ syncTrailer).length) = [] := by
    simp [syncTrailer, uInt, hq]
  unfold rxInflate
  simp only [hEnabled, hLive, Bool.not_true, Bool.or_self, Bool.false_eq_true, if_false, hCast]
  split_ifs <;> simp [inflateLoop_nil (hEmpty _)]

theorem reinitFailEnv_inflateLoop (st : Receiver) (input out : Bytes) :
    inflateLoop reinitFailEnv st input out =
      if input = [] then (true, out, st.call (.inflate [] 4096 ⟨zBufError, 0, []⟩))
      else (true, out, st.call (.inflate input 4096 ⟨zStreamEnd, input.length, []⟩)) := by
  split_ifs with h
  · subst h; exact inflateLoop_nil rfl
  · simpa [reinitFailEnv, h] using
      @inflateLoop_streamEnd reinitFailEnv st input out (by simp [reinitFailEnv, h])

/-- A payload of `2^32 - 4` bytes on a live stream comes back empty. -/
theorem rxInflate_dropsPayload_replicate :
    (rxInflate reinitFailEnv (initializeCompression reinitFailEnv {} { enabled := true }).2
        (List.replicate (2 ^ 32 - 4) 0)).1 = true ∧
      (rxInflate reinitFailEnv (initializeCompression reinitFailEnv {} { enabled := true }).2
        (List.replicate (2 ^ 32 - 4) 0)).2.1 = [] :=
  rxInflate_dropsPayload _ _ rfl rfl (List.length_replicate _ _ ▸ rfl) fun _ => rfl

/-- After `initializeCompression` with server_no_context_takeover, two compressed binary frames
`C2 01 AA`: the first is inflated and the `rxResetInflate` after it fails, so the second reaches
the sink as its wire byte, with no `inflate` call. -/
theorem onData_deliversWireBytes :
    (initializeCompression reinitFailEnv {} { enabled := true, serverNoContextTakeover := true }).1 ∧
      (onData reinitFailEnv
        (initializeCompression reinitFailEnv {} { enabled := true, serverNoContextTakeover := true }).2
        [0xC2, 0x01, 0xAA, 0xC2, 0x01, 0xAA]).map (fun r => r.1.trace) =
      some [.inflateInit2 (-15) zOk, .deflateInit2 (-1) (-15) zOk, .inflateReset,
        .inflate [0xAA, 0x00, 0x00, 0xFF, 0xFF] 4096 ⟨zStreamEnd, 5, []⟩, .inflateEnd,
        .inflateInit2 (-15) zMemError, .onRxBinary [], .onRxBinary [0xAA]] := by
  refine ⟨rfl, ?_⟩
  rw [onData_of_next reinitFailEnv (by
    simp only [onDataStep, handleFrame, handleDataFrame, rxInflate, reinitFailEnv_inflateLoop]; rfl)]
  rw [onData_of_next reinitFailEnv (by
    simp only [onDataStep, handleFrame, handleDataFrame, rxInflate, reinitFailEnv_inflateLoop]; rfl)]
  rw [onData_of_done reinitFailEnv (by simp only [onDataStep]; rfl)]
  rfl

end Receiver
end Libwsc
