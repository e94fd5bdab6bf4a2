import Libwsc.Compression
import Libwsc.Utf8

/-! The four frame handlers of `WebSocketReceiver` and the `switch (opcode)` of `onData` that
calls them. Reassembly state lives in the receiver; every verdict reaches the sink as a call. -/
namespace Libwsc
namespace Receiver

variable (env : Env)

/-- `reset(); validateChunk(msg) && validateFinal()`, the whole-message UTF-8 check. -/
def validateMessage (st : Receiver) (msg : Bytes) : Bool × Receiver :=
  match st.utf8Reset.validateChunk env msg with
  | (true, st) => st.validateFinal env
  | (false, st) => (false, st)

/-- Lines 475-479 of `handleContinuationFrame`: no message in progress any more. -/
def clearFragments (st : Receiver) : Receiver :=
  { st with messageInProgress := false, compressedMessageInProgress := false,
            fragmentedMessage := [], fragmentedOpcode := 0 }

/-- The `switch (fragmented_opcode)` of `handleContinuationFrame`, on the reassembled (and, for
a compressed message, inflated) bytes. -/
def deliverFragmentedMessage (st : Receiver) : Receiver :=
  match st.fragmentedOpcode with
  | 1 =>
    let (ok, st) := if st.compressedMessageInProgress then validateMessage env st st.fragmentedMessage
      else st.validateFinal env
    if !ok then st.utf8Reset.fail 1007 "Invalid UTF-8 in text message"
    else clearFragments (st.utf8Reset.call (.onRxText st.fragmentedMessage))
  | 2 => clearFragments (st.call (.onRxBinary st.fragmentedMessage))
  | _ => st.fail 1002 "Unknown fragmented opcode"

/-- `handleContinuationFrame`: append, check the fragment if the message is uncompressed text,
and on `fin` inflate (once, on the whole message) and deliver. -/
def handleContinuationFrame (st : Receiver) (payload : Bytes) (fin : Bool) : Receiver :=
  if !st.messageInProgress then st.fail 1002 "continuation frame without initial frame"
  else
    let st := { st with fragmentedMessage := st.fragmentedMessage ++ payload }
    let (ok, st) := if !st.compressedMessageInProgress && st.fragmentedOpcode == 1 then
        st.validateChunk env payload else (true, st)
    if !ok then st.utf8Reset.fail 1007 "Invalid UTF-8 in text message"
    else if !fin then st
    else if st.compressedMessageInProgress then
      match rxInflate env st st.fragmentedMessage with
      | (false, _, st) => st.utf8Reset.fail 1007 "Decompression failed"
      | (true, output, st) =>
        deliverFragmentedMessage env (rxMaybeResetAfterMessage env { st with fragmentedMessage := output })
    else deliverFragmentedMessage env st

/-- The tail of `handleDataFrame` for an unfragmented message, on its (inflated) bytes. -/
def deliverMessage (st : Receiver) (opcode : Nat) (msg : Bytes) : Receiver :=
  if opcode == 1 then
    match validateMessage env st msg with
    | (false, st) => st.utf8Reset.fail 1007 "Invalid UTF-8 in text message"
    | (true, st) => st.call (.onRxText msg)
  else if opcode == 2 then st.call (.onRxBinary msg)
  else st.fail 1002 "Unsupported opcode"

/-- `handleDataFrame`: start reassembly on `!fin` (checking the first fragment of uncompressed
text), otherwise inflate if compressed and deliver at once. -/
def handleDataFrame (st : Receiver) (payload : Bytes) (fin : Bool) (opcode : Nat) (rsv1 : Bool) :
    Receiver :=
  if st.messageInProgress then
    st.fail 1002 "Received new data frame when expecting continuation frame"
  else
    let compressed := rsv1 && env.sink.rxCompressionEnabled st.trace
    if !fin then
      let st := { st with messageInProgress := true, fragmentedOpcode := opcode,
                          fragmentedMessage := payload, compressedMessageInProgress := compressed }
      if opcode == 1 && !compressed then
        match st.utf8Reset.validateChunk env payload with
        | (false, st) => st.utf8Reset.fail 1007 "Invalid UTF-8 in text message"
        | (true, st) => st
      else st
    else if compressed then
      match rxInflate env st payload with
      | (false, _, st) => st.fail 1007 "Decompression failed"
      | (true, msg, st) => deliverMessage env (rxMaybeResetAfterMessage env st) opcode msg
    else deliverMessage env st opcode payload

/-- The close codes `handleCloseFrame` accepts: 1000 to 1011 but 1004 to 1006, and 3000 to
4999. -/
def validCloseCode (code : Nat) : Bool :=
  (1000 ≤ code && code ≤ 1011 && code != 1004 && code != 1005 && code != 1006) ||
    (3000 ≤ code && code ≤ 4999)

/-- `ntohs` of two bytes read with `memcpy`: the big-endian value. -/
def be16 (hi lo : UInt8) : Nat := hi.toNat * 256 + lo.toNat

/-- Lines 552-596 of `handleCloseFrame`: `(close_code, close_reason, protocol_error)`. -/
def closeFields (payload : Bytes) : Nat × Bytes × Bool :=
  if payload.length > 125 then (1002, [], true)
  else if payload.length = 1 then (1002, [], true)
  else if payload.length ≥ 2 then
    let received := be16 (payload.getD 0 0) (payload.getD 1 0)
    let (closeCode, protocolError) :=
      if validCloseCode received then (received, false) else (1002, true)
    if payload.length > 2 then
      let reasonLen := min (payload.length - 2) 123
      if !isValidUtf8 (payload.drop 2) reasonLen then (1002, [], true)
      else (closeCode, (payload.drop 2).take reasonLen, protocolError)
    else (closeCode, [], protocolError)
  else (1000, [], false)

/-- `handleCloseFrame`: one `onRxClose`, with 1002 and no reason on any protocol error. -/
def handleCloseFrame (st : Receiver) (payload : Bytes) : Receiver :=
  let (closeCode, closeReason, protocolError) := closeFields payload
  st.call (.onRxClose (if protocolError then 1002 else closeCode)
    (if protocolError then [] else closeReason))

/-- `handlePingFrame` -/
def handlePingFrame (st : Receiver) (payload : Bytes) : Receiver :=
  if payload.length > 125 then st.fail 1002 "Control frame payload too large"
  else st.call (.onRxPing payload)

/-- The `switch (opcode)` of `onData`; `none` is its `default`, which fails the connection. A
pong is only logged. -/
def handleFrame (st : Receiver) (fin rsv1 : Bool) (opcode : Nat) (payload : Bytes) :
    Option Receiver :=
  match opcode with
  | 0 => some (handleContinuationFrame env st payload fin)
  | 1 => some (handleDataFrame env st payload fin 1 rsv1)
  | 2 => some (handleDataFrame env st payload fin 2 rsv1)
  | 8 => some (handleCloseFrame st payload)
  | 9 => some (handlePingFrame st payload)
  | 10 => some st
  | _ => none

end Receiver
end Libwsc
