import Libwsc.Receiver

/-! The header half of `WebSocketReceiver::onData`: what one pass of its loop reads at the front
of the input buffer before any handler runs. `readFrame` keeps the order of the source's checks,
since which of them fires first decides what the sink is told. -/
namespace Libwsc

/-- `ntohs`/`ntohll` of bytes copied out of the buffer: their big-endian value. -/
def beNat (bytes : Bytes) : Nat := bytes.foldl (fun acc b => acc * 256 + b.toNat) 0

/-- What one pass of `onData`'s loop makes of the front of the buffer. -/
inductive FrameRead where
  /-- `break`: the header or the payload is not all buffered yet. -/
  | wait
  /-- `onRxProtocolError(1002, why)` and `return`. -/
  | reject (why : String)
  /-- `payload.reserve(payload_len)` throws `std::length_error`. -/
  | lengthError
  /-- A whole frame, `need` bytes long, ready for the `switch (opcode)`. -/
  | frame (fin rsv1 : Bool) (opcode : Nat) (payload : Bytes) (need : Nat)
  deriving DecidableEq, Repr

/-- `header_len` and `payload_len` from the 7-bit length and the bytes after the first two, or
`none` (`break`) when the extended length is not buffered yet. -/
def payloadLength (len7 : Nat) (ext : Bytes) : Option (Nat × Nat) :=
  if len7 = 126 then (if ext.length < 2 then none else some (4, beNat (ext.take 2)))
  else if len7 = 127 then (if ext.length < 8 then none else some (10, beNat (ext.take 8)))
  else some (2, len7)

/-- `evbuffer_pullup(buf, size)`: `NULL` when `size` is zero or more than is buffered, and
otherwise the first `size` bytes, made contiguous. -/
def evbufferPullup (buf : Bytes) (size : Nat) : Option Bytes :=
  if size = 0 ∨ buf.length < size then none else some (buf.take size)

/-- `std::vector<uint8_t>::max_size()` with libstdc++ on a 64-bit target: `PTRDIFF_MAX`. -/
def vectorMaxSize : Nat := 2 ^ 63 - 1

/-- One pass of `onData` up to the `switch (opcode)`, given the sink's
`rxCompressionEnabled()`. `need` is `size_t`, so it wraps modulo `2^64`. -/
def readFrame (compressionEnabled : Bool) (buf : Bytes) : FrameRead :=
  match buf with
  | b0 :: b1 :: ext =>
    let fin := b0 &&& 0x80 != 0
    let rsv1 := b0 &&& 0x40 != 0
    let rsv2 := b0 &&& 0x20 != 0
    let rsv3 := b0 &&& 0x10 != 0
    let opcode := (b0 &&& 0x0F).toNat
    let mask := b1 &&& 0x80 != 0
    if (!compressionEnabled && rsv1) || rsv2 || rsv3 then .reject "Unexpected RSV bits"
    else if opcode &&& 0x08 != 0 && !fin then .reject "Control frame fragmented"
    else if mask then .reject "Masked frame from server"
    else
      match payloadLength (b1 &&& 0x7F).toNat ext with
      | none => .wait
      | some (headerLen, payloadLen) =>
        if opcode &&& 0x08 != 0 && payloadLen > 125 then .reject "Control frame payload too large"
        else
          let need := sizeT (headerLen + payloadLen)
          if buf.length < need then .wait
          else
            match evbufferPullup buf need with
            | none => .reject "Failed to pullup frame buffer"
            | some frame =>
              if vectorMaxSize < payloadLen then .lengthError
              else .frame fin rsv1 opcode ((frame.drop headerLen).take payloadLen) need
  | _ => .wait

end Libwsc

namespace Libwsc

theorem payloadLength_header {len7 : Nat} {ext : Bytes} {headerLen payloadLen : Nat}
    (h : payloadLength len7 ext = some (headerLen, payloadLen)) : 2 ≤ headerLen ∧ headerLen ≤ 10 := by
  unfold payloadLength at h
  split_ifs at h <;> cases h <;> omega

/-- A frame handed on has a header of two to ten bytes, is all in the buffer, and its payload
is exactly the bytes after the header: `need` did not wrap. -/
theorem readFrame_frame {ce : Bool} {buf : Bytes} {fin rsv1 : Bool} {opcode need : Nat}
    {payload : Bytes} (h : readFrame ce buf = .frame fin rsv1 opcode payload need) :
    ∃ headerLen payloadLen, 2 ≤ headerLen ∧ need = headerLen + payloadLen ∧
      need ≤ buf.length ∧ payload = (buf.drop headerLen).take payloadLen := by
  match buf, h with
  | b0 :: b1 :: ext, h =>
    unfold readFrame at h
    dsimp only at h
    by_cases hRsv : ((!ce && b0 &&& 0x40 != 0) || b0 &&& 0x20 != 0 || b0 &&& 0x10 != 0) = true
    · rw [if_pos hRsv] at h; cases h
    by_cases hFrag : ((b0 &&& 0x0F).toNat &&& 0x08 != 0 && !(b0 &&& 0x80 != 0)) = true
    · rw [if_neg hRsv, if_pos hFrag] at h; cases h
    by_cases hMask : (b1 &&& 0x80 != 0) = true
    · rw [if_neg hRsv, if_neg hFrag, if_pos hMask] at h; cases h
    rw [if_neg hRsv, if_neg hFrag, if_neg hMask] at h
    cases hLen : payloadLength (b1 &&& 0x7F).toNat ext with
    | none => rw [hLen] at h; cases h
    | some p =>
      obtain ⟨headerLen, payloadLen⟩ := p
      rw [hLen] at h
      obtain ⟨hLo, hHi⟩ := payloadLength_header hLen
      dsimp only at h
      split_ifs at h with hControl hWait hMax <;> split at h <;> try cases h
      · rename_i frame hPull
        have hNeed : sizeT (headerLen + payloadLen) = headerLen + payloadLen :=
          Nat.mod_eq_of_lt (by unfold vectorMaxSize at hMax; omega)
        unfold evbufferPullup at hPull
        split_ifs at hPull
        cases hPull
        refine ⟨headerLen, payloadLen, hLo, hNeed, by omega, ?_⟩
        rw [hNeed, List.drop_take, Nat.add_sub_cancel_left, List.take_take, min_self]

theorem payloadLength_append {len7 : Nat} {ext more : Bytes} {p : Nat × Nat}
    (h : payloadLength len7 ext = some p) : payloadLength len7 (ext ++ more) = some p := by
  unfold payloadLength at h ⊢
  split_ifs at h ⊢ <;> simp_all [List.take_append_of_le_length] <;> omega

theorem evbufferPullup_append {buf more : Bytes} {size : Nat} (h : size ≤ buf.length) :
    evbufferPullup (buf ++ more) size = evbufferPullup buf size := by
  have hOut : ¬buf.length < size := by omega
  have hOut' : ¬(buf ++ more).length < size := by simp; omega
  simp only [evbufferPullup, List.take_append_of_le_length h, hOut, hOut', or_false]

/-- What one pass decides about a buffer it does not wait on, more bytes behind it do not
change. -/
theorem readFrame_append {ce : Bool} {buf more : Bytes} (h : readFrame ce buf ≠ .wait) :
    readFrame ce (buf ++ more) = readFrame ce buf := by
  match buf, h with
  | b0 :: b1 :: ext, h =>
    simp only [List.cons_append]
    unfold readFrame at h ⊢
    dsimp only at h ⊢
    by_cases hRsv : ((!ce && b0 &&& 0x40 != 0) || b0 &&& 0x20 != 0 || b0 &&& 0x10 != 0) = true
    · rw [if_pos hRsv, if_pos hRsv]
    rw [if_neg hRsv] at h
    rw [if_neg hRsv, if_neg hRsv]
    by_cases hFrag : ((b0 &&& 0x0F).toNat &&& 0x08 != 0 && !(b0 &&& 0x80 != 0)) = true
    · rw [if_pos hFrag, if_pos hFrag]
    rw [if_neg hFrag] at h
    rw [if_neg hFrag, if_neg hFrag]
    by_cases hMask : (b1 &&& 0x80 != 0) = true
    · rw [if_pos hMask, if_pos hMask]
    rw [if_neg hMask] at h
    rw [if_neg hMask, if_neg hMask]
    cases hLen : payloadLength (b1 &&& 0x7F).toNat ext with
    | none => simp only [hLen, ne_eq, not_true_eq_false] at h
    | some p =>
      obtain ⟨headerLen, payloadLen⟩ := p
      rw [payloadLength_append hLen]
      simp only [hLen] at h ⊢
      by_cases hC : ((b0 &&& 15).toNat &&& 8 != 0 && decide (payloadLen > 125)) = true
      · simp only [hC, if_true]
      simp only [hC, if_false, Bool.false_eq_true] at h ⊢
      have hIn : ¬(b0 :: b1 :: ext).length < sizeT (headerLen + payloadLen) :=
        fun hW => h (by rw [if_pos hW])
      have hIn' : ¬((b0 :: b1 :: ext) ++ more).length < sizeT (headerLen + payloadLen) := by
        simp only [List.length_append] at hIn ⊢; omega
      rw [← List.cons_append, ← List.cons_append, if_neg hIn, if_neg hIn',
        evbufferPullup_append (Nat.not_lt.mp hIn)]

end Libwsc
