import Libwsc.Framing
import Libwsc.Handlers

/-! `WebSocketReceiver::onData`: the `for (;;)` loop over the input buffer, one frame a pass,
until the sink reports terminating, a frame is not all buffered, or a frame is refused. An
exception leaving the loop is `none`. `feed` is the socket's side: append a chunk, call
`onData`, repeat. -/
namespace Libwsc
namespace Receiver

variable (env : Env)

/-- How one pass of the loop ends. -/
inductive Step where
  /-- `return` or `break`: `onData` ends with this state and the buffer as it is. -/
  | done (st : Receiver)
  /-- A frame was handled and `evbuffer_drain(buf, need)` left `rest`. -/
  | next (st : Receiver) (rest : Bytes)
  /-- An exception leaves `onData`. -/
  | abort

/-- One pass of `onData`'s loop. -/
def onDataStep (st : Receiver) (buf : Bytes) : Step :=
  if env.sink.rxIsTerminating st.trace then .done st
  else
    match readFrame (env.sink.rxCompressionEnabled st.trace) buf with
    | .wait => .done st
    | .reject why => .done (st.fail 1002 why)
    | .lengthError => .abort
    | .frame fin rsv1 opcode payload need =>
      match handleFrame env st fin rsv1 opcode payload with
      | some st' => .next st' (buf.drop need)
      | none => .done (st.fail 1002 "Unsupported opcode")

/-- A pass that goes on drains at least two bytes. -/
theorem onDataStep_next_length {st st' : Receiver} {buf rest : Bytes}
    (h : onDataStep env st buf = .next st' rest) : rest.length + 2 ≤ buf.length := by
  unfold onDataStep at h
  split at h
  · cases h
  · split at h <;> try cases h
    rename_i hFrame
    split at h
    · cases h
      obtain ⟨headerLen, payloadLen, hHeader, rfl, hLe, -⟩ := readFrame_frame hFrame
      simp only [List.length_drop]
      omega
    · cases h

/-- `onData`: passes until one ends the loop. -/
def onData (st : Receiver) (buf : Bytes) : Option (Receiver × Bytes) :=
  match h : onDataStep env st buf with
  | .done st' => some (st', buf)
  | .next st' rest => onData st' rest
  | .abort => none
termination_by buf.length
decreasing_by have := onDataStep_next_length env h; omega

theorem onData_of_done {st st' : Receiver} {buf : Bytes} (h : onDataStep env st buf = .done st') :
    onData env st buf = some (st', buf) := by
  rw [onData]; split <;> simp_all

theorem onData_of_next {st st' : Receiver} {buf rest : Bytes}
    (h : onDataStep env st buf = .next st' rest) : onData env st buf = onData env st' rest := by
  rw [onData]; split <;> simp_all

theorem onData_of_abort {st : Receiver} {buf : Bytes} (h : onDataStep env st buf = .abort) :
    onData env st buf = none := by
  rw [onData]; split <;> simp_all

/-- A pass over a whole frame that the `switch` handles goes on after it. -/
theorem onDataStep_of_frame {st st' : Receiver} {buf payload : Bytes} {fin rsv1 : Bool}
    {opcode need : Nat} (hLive : env.sink.rxIsTerminating st.trace = false)
    (hFrame : readFrame (env.sink.rxCompressionEnabled st.trace) buf =
      .frame fin rsv1 opcode payload need)
    (hH : handleFrame env st fin rsv1 opcode payload = some st') :
    onDataStep env st buf = .next st' (buf.drop need) := by
  simp [onDataStep, hLive, hFrame, hH]

/-- Bytes arriving in chunks: each is appended to the buffer and `onData` runs. -/
def feed : Receiver → Bytes → List Bytes → Option (Receiver × Bytes)
  | st, buf, [] => some (st, buf)
  | st, buf, c :: cs => (onData env st (buf ++ c)).bind fun (st, buf) => feed st buf cs

/-- `82 7F FF FF FF FF FF FF FF FF` announces a binary frame of `2^64 - 1` bytes. `need` wraps
to 9, which is buffered, so the frame is not waited for, and `payload.reserve(2^64 - 1)` throws
out of `onData`. -/
theorem readFrame_lengthWrap (ce : Bool) :
    readFrame ce [0x82, 0x7F, 0xFF, 0xFF, 0xFF, 0xFF, 0xFF, 0xFF, 0xFF, 0xFF] = .lengthError := by
  cases ce <;> rfl

theorem onData_lengthWrap (st : Receiver) :
    onData env st [0x82, 0x7F, 0xFF, 0xFF, 0xFF, 0xFF, 0xFF, 0xFF, 0xFF, 0xFF] =
      if env.sink.rxIsTerminating st.trace then
        some (st, [0x82, 0x7F, 0xFF, 0xFF, 0xFF, 0xFF, 0xFF, 0xFF, 0xFF, 0xFF])
      else none := by
  split_ifs with hTerm
  · exact onData_of_done env (by simp [onDataStep, hTerm])
  · exact onData_of_abort env (by simp [onDataStep, hTerm, readFrame_lengthWrap])

end Receiver
end Libwsc
