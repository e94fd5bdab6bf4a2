import Libwsc.Compression

/-! `txPrepare` against zlib's contract for one `Z_SYNC_FLUSH` call on a stream just reset.
Every pass of `txDeflate`'s loop starts with `deflateReset`, so what it sends refers to no
earlier message. A pass whose `size_t` buffer size does not fit zlib's 32-bit `avail_out` never
passes the trailer check: the bytes it reads lie past any that `deflate` ever wrote, and are
zero. The round trip needs zlib's output to fit the first pass's buffer: the contract lets a
`deflate` short of space stop with `Z_OK` and a full buffer, which `txDeflate` takes as done
whenever the bytes written end in `00 00 FF FF`. -/
namespace Libwsc

/-- zlib's raw deflate, by the contract `txDeflate` relies on. `encode m` is what one
`Z_SYNC_FLUSH` call writes for input `m` on a stream just reset by `deflateReset`: DEFLATE
blocks ending in `00 00 FF FF`. Given that much output space the call consumes all of `m`;
given less, it stops with `avail_out = 0` or returns `Z_BUF_ERROR`. That a raw inflate stream
turns `encode m` back into `m` is what `encode` means, not a field: the statements below say
which bytes are sent. `deflateBound` is at least its argument and fits `size_t` with the
loop's slack for any frame payload. -/
structure DeflateContract (z : Zlib) where
  encode : Bytes → Bytes
  encode_trailer : ∀ m, ∃ q, encode m = q ++ Receiver.syncTrailer
  deflate_enough : ∀ h s b m n, (encode m).length ≤ n →
    z.deflate (h ++ [.deflateReset, .deflateBound s b]) m n = ⟨zOk, m.length, encode m⟩
  deflate_short : ∀ h s b m n, n < (encode m).length →
    (z.deflate (h ++ [.deflateReset, .deflateBound s b]) m n).ret = zBufError ∨
      (z.deflate (h ++ [.deflateReset, .deflateBound s b]) m n).produced.length = n
  bound_ge : ∀ h n, n ≤ z.deflateBound h n
  bound_fits : ∀ h n, n < 2 ^ 63 → z.deflateBound h n + 256 < 2 ^ 64

namespace Receiver

/-- What a `txPrepare` result on `m` must be: success, and either the original bytes sent raw,
or a payload that with the trailer is the contract's encoding of `m`. -/
def TxPrepared.Sound {z : Zlib} (C : DeflateContract z) (m : Bytes) (p : TxPrepared) : Prop :=
  p.ok = true ∧ (p.doCompress = false → p.payload = m) ∧
    (p.doCompress = true → p.payload ++ syncTrailer = C.encode m)

variable {env : Env}

@[simp] theorem txReinitAfterNoContextTakeover_txCompressedBuf (st : Receiver) :
    (txReinitAfterNoContextTakeover env st).2.txCompressedBuf = st.txCompressedBuf := by
  simp only [txReinitAfterNoContextTakeover, txInitDeflate]
  split_ifs <;> rfl

@[simp] theorem txReinitAfterNoContextTakeover_txPayloadLen (st : Receiver) :
    (txReinitAfterNoContextTakeover env st).2.txPayloadLen = st.txPayloadLen := by
  simp only [txReinitAfterNoContextTakeover, txInitDeflate]
  split_ifs <;> rfl

section Contract

variable (C : DeflateContract env.zlib)

end Contract

end Receiver
end Libwsc
