import Libwsc.Trace

/-! The state of one `WebSocketReceiver`: its negotiated deflate parameters, its zlib flags and
transmit buffer, its reassembly state, and the trace of every call it has made. The `z_stream`s
themselves are zlib's, so they live in the environment and are reached through the trace. -/
namespace Libwsc

/-- `PerMessageDeflateConfig`, with the defaults of `WebSocketReceiver.h`. -/
structure PerMessageDeflateConfig where
  enabled : Bool := false
  clientNoContextTakeover : Bool := false
  serverNoContextTakeover : Bool := false
  clientMaxWindowBits : Int := 15
  serverMaxWindowBits : Int := 15
  /-- `Z_DEFAULT_COMPRESSION` -/
  compressionLevel : Int := -1
  deriving DecidableEq, Repr

/-- The members of `WebSocketReceiver` that its methods read or write, with their initial
values. `trace` is not a member: it is every call made so far. -/
structure Receiver where
  cfg : PerMessageDeflateConfig := {}
  inflateInitialized : Bool := false
  deflateInitialized : Bool := false
  txCompressedBuf : Bytes := []
  txPayloadLen : Nat := 0
  messageInProgress : Bool := false
  compressedMessageInProgress : Bool := false
  fragmentedOpcode : Nat := 0
  fragmentedMessage : Bytes := []
  trace : List Call := []
  deriving DecidableEq, Repr

/-- `static_cast<uInt>`: zlib's `uInt` is 32 bits wide. -/
def uInt (n : Nat) : Nat := n % 2 ^ 32

/-- `static_cast<size_t>` and `uLong` on the 64-bit targets the library is built for. -/
def sizeT (n : Nat) : Nat := n % 2 ^ 64

namespace Receiver

/-- Make a call: the receiver's own members are untouched. -/
@[simps]
def call (st : Receiver) (c : Call) : Receiver := { st with trace := st.trace ++ [c] }

/-- `utf8Validator.reset()` -/
def utf8Reset (st : Receiver) : Receiver := st.call .utf8Reset

/-- `utf8Validator.validateChunk(p, n)`: the validator's answer, recorded with the call. -/
def validateChunk (env : Env) (st : Receiver) (p : Bytes) : Bool × Receiver :=
  let ok := env.utf8.validateChunk st.trace p
  (ok, st.call (.validateChunk p ok))

/-- `utf8Validator.validateFinal()` -/
def validateFinal (env : Env) (st : Receiver) : Bool × Receiver :=
  let ok := env.utf8.validateFinal st.trace
  (ok, st.call (.validateFinal ok))

/-- `_sinks.onRxProtocolError(code, why)` -/
def fail (st : Receiver) (code : Nat) (why : String) : Receiver :=
  st.call (.onRxProtocolError code why)

@[simp] theorem utf8Reset_trace (st : Receiver) : st.utf8Reset.trace = st.trace ++ [.utf8Reset] :=
  rfl

@[simp] theorem fail_trace (st : Receiver) (code : Nat) (why : String) :
    (st.fail code why).trace = st.trace ++ [.onRxProtocolError code why] := rfl

end Receiver
end Libwsc
