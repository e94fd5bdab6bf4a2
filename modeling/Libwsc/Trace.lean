import Mathlib.Data.List.Basic
import Mathlib.Algebra.Group.Nat.Basic

/-! What `WebSocketReceiver` sees of the world. It owns no socket: it calls a sink
(`IWebSocketSinks`), a UTF-8 validator and zlib, and nothing else. Every call is recorded in a
trace, and every answer the receiver gets is a function of the trace so far, so one `Env` is any
deterministic sink, validator and zlib at once. -/
namespace Libwsc

/-- Bytes as the receiver handles them (`unsigned char`, `uint8_t`). -/
abbrev Bytes := List UInt8

/-- zlib's return codes, from `zlib.h`. -/
def zOk : Int := 0
def zStreamEnd : Int := 1
def zBufError : Int := -5
def zMemError : Int := -4

/-- What one `inflate` or `deflate` call reports back through its `z_stream`: the return code,
how far `next_in` advanced, and the bytes written at `next_out`. -/
structure ZResult where
  ret : Int
  consumed : Nat
  produced : Bytes
  deriving DecidableEq, Repr

/-- One call the receiver makes on its sink, its `Utf8Validator` or zlib, with what it was told.
The sink's two `const` queries are not calls: they change nothing. -/
inductive Call where
  | onRxPing (payload : Bytes)
  | onRxClose (code : Nat) (reason : Bytes)
  | onRxProtocolError (closeCode : Nat) (why : String)
  | onRxText (msg : Bytes)
  | onRxBinary (msg : Bytes)
  | utf8Reset
  | validateChunk (chunk : Bytes) (ok : Bool)
  | validateFinal (ok : Bool)
  | inflateInit2 (windowBits ret : Int)
  | inflateEnd
  | inflateReset
  | inflate (input : Bytes) (availOut : Nat) (result : ZResult)
  | deflateInit2 (level windowBits ret : Int)
  | deflateEnd
  | deflateReset
  | deflateBound (sourceLen bound : Nat)
  | deflate (input : Bytes) (availOut : Nat) (result : ZResult)
  deriving DecidableEq, Repr

/-- `IWebSocketSinks::rxCompressionEnabled` and `rxIsTerminating`. -/
structure Sink where
  rxCompressionEnabled : List Call → Bool
  rxIsTerminating : List Call → Bool

/-- The two answering methods of `Utf8Validator`, whose header is not among the sources; its
`reset` answers nothing and is only recorded. -/
structure Utf8Validator where
  validateChunk : List Call → Bytes → Bool
  validateFinal : List Call → Bool

/-- zlib, by the part of its contract the receiver's loops rely on. `inflate` never writes past
`avail_out`, reports `Z_BUF_ERROR` only when it made no progress, and on `Z_OK` lowers
`inflateMeasure`: the input still to read plus the output still owed, which is finite. -/
structure Zlib where
  inflateInit2 : List Call → Int → Int
  inflate : List Call → Bytes → Nat → ZResult
  deflateInit2 : List Call → Int → Int → Int
  deflateBound : List Call → Nat → Nat
  deflate : List Call → Bytes → Nat → ZResult
  inflateMeasure : List Call → Bytes → Nat
  inflate_produced_le : ∀ h input n, (inflate h input n).produced.length ≤ n
  inflate_bufError : ∀ h input n, (inflate h input n).ret = zBufError →
    (inflate h input n).produced = []
  inflate_measure_lt : ∀ h input n, (inflate h input n).ret = zOk →
    inflateMeasure (h ++ [.inflate input n (inflate h input n)])
      (input.drop (inflate h input n).consumed) < inflateMeasure h input
  deflate_produced_le : ∀ h input n, (deflate h input n).produced.length ≤ n

/-- Everything outside the receiver. -/
structure Env where
  sink : Sink
  utf8 : Utf8Validator
  zlib : Zlib

/-- An environment for concrete runs. The sink has compression on and never terminates, and
every text is valid. zlib's first `inflateInit2` succeeds and every later one fails with
`Z_MEM_ERROR`; `inflate` makes no progress on no input, and otherwise ends the stream at once
without output. -/
def reinitFailEnv : Env where
  sink := { rxCompressionEnabled := fun _ => true, rxIsTerminating := fun _ => false }
  utf8 := { validateChunk := fun _ _ => true, validateFinal := fun _ => true }
  zlib :=
    { inflateInit2 := fun t _ => if t.any (· matches .inflateInit2 ..) then zMemError else zOk
      inflate := fun _ input _ =>
        if input = [] then ⟨zBufError, 0, []⟩ else ⟨zStreamEnd, input.length, []⟩
      deflateInit2 := fun _ _ _ => zOk
      deflateBound := fun _ n => n
      deflate := fun _ _ _ => ⟨zBufError, 0, []⟩
      inflateMeasure := fun _ _ => 0
      inflate_produced_le := by intro _ input _; dsimp only; split <;> simp
      inflate_bufError := by intro _ input _; dsimp only; split <;> simp
      inflate_measure_lt := by
        intro _ input _; dsimp only; split <;> simp [zOk, zBufError, zStreamEnd]
      deflate_produced_le := fun _ _ n => Nat.zero_le n }

/-- For a fold over a trace that records whether every call was allowed where it was made, the
record says what it should. -/
theorem foldl_allowed_iff {α σ : Type} (step : σ → α → σ) (ok : σ → Bool) (allows : σ → α → Bool)
    (hStep : ∀ s a, ok (step s a) = (ok s && allows s a)) (s₀ : σ) (h₀ : ok s₀ = true)
    (t : List α) : ok (t.foldl step s₀) = true ↔
      ∀ p a s, t = p ++ a :: s → allows (p.foldl step s₀) a = true := by
  induction t using List.reverseRecOn with
  | nil => simp [h₀]
  | append_singleton t a ih =>
    rw [List.foldl_append, List.foldl_cons, List.foldl_nil, hStep, Bool.and_eq_true, ih]
    constructor
    · rintro ⟨hPre, hLast⟩ p a' s hEq
      rcases List.eq_nil_or_concat s with rfl | ⟨s', a'', rfl⟩
      · obtain ⟨rfl, hc⟩ := List.append_inj' hEq rfl
        simp only [List.cons.injEq, and_true] at hc
        exact hc ▸ hLast
      · have hEq' : t ++ [a] = (p ++ a' :: s') ++ [a''] := by simpa using hEq
        exact hPre p a' s' (List.append_inj' hEq' rfl).1
    · intro hAll
      exact ⟨fun p a' s hEq => hAll p a' (s ++ [a]) (by simp [hEq]), hAll t a [] rfl⟩

/-- The two calls after which the sink fails the connection. -/
def Call.endsConnection : Call → Bool
  | .onRxProtocolError .. | .onRxClose .. => true
  | _ => false

/-- `reinitFailEnv` with a sink that reports terminating once it has been told of a protocol
error or a close. -/
def closingEnv : Env :=
  { reinitFailEnv with
    sink := { rxCompressionEnabled := fun _ => true, rxIsTerminating := fun t => t.any Call.endsConnection } }


/-- An environment for concrete runs with compression on. The sink is `closingEnv`'s and every
text is valid; both `Init2`s succeed; and zlib's codec is the identity: `deflate` writes its
input and `00 00 FF FF` when both fit and reports `Z_BUF_ERROR` otherwise, and `inflate` reads
its whole input and writes it back without its last four bytes. -/
def syncEnv : Env where
  sink := closingEnv.sink
  utf8 := reinitFailEnv.utf8
  zlib :=
    { inflateInit2 := fun _ _ => zOk
      inflate := fun _ input n =>
        if input = [] then ⟨zBufError, 0, []⟩
        else ⟨zOk, input.length, (input.take (input.length - 4)).take n⟩
      deflateInit2 := fun _ _ _ => zOk
      deflateBound := fun _ n => n
      deflate := fun _ m n =>
        if m.length + 4 ≤ n then ⟨zOk, m.length, m ++ [0x00, 0x00, 0xFF, 0xFF]⟩
        else ⟨zBufError, 0, []⟩
      inflateMeasure := fun _ input => input.length
      inflate_produced_le := by
        intro _ input n; dsimp only; split
        · exact Nat.zero_le n
        · exact List.length_take_le _ _
      inflate_bufError := by intro _ input _; dsimp only; split <;> simp [zOk, zBufError]
      inflate_measure_lt := by
        intro _ input _; dsimp only; split <;> simp_all [zOk, zBufError, List.length_pos]
      deflate_produced_le := by intro _ m n; dsimp only; split <;> simp_all }

end Libwsc
