import Libwsc.Messages
import Libwsc.Chunking

/-! The framing rules of RFC 6455 §5 and RFC 7692 §6 that a server's frames must keep, and what
`onData` does at the first frame that breaks one: with a sink that stops once told, it raises one
`onRxProtocolError(1002)` there and at no earlier frame. Two rules are not checked at all: RSV1
on a control or a continuation frame while compression is on, and the top bit of a 64-bit
length. -/
namespace Libwsc

/-- A frame with every header field free, as a peer may put it on the wire. -/
structure RawFrame where
  fin : Bool
  rsv1 : Bool
  rsv2 : Bool
  rsv3 : Bool
  opcode : Nat
  mask : Bool
  maskKey : Bytes
  payload : Bytes
  deriving DecidableEq, Repr

/-- The frame as the handlers see it. -/
def RawFrame.toFrame (f : RawFrame) : Frame := ⟨f.fin, f.rsv1, f.opcode, f.payload⟩

/-- FIN, RSV1 to RSV3 and a 4-bit opcode. -/
def rawFirstByte (fin rsv1 rsv2 rsv3 : Bool) (opcode : Nat) : UInt8 :=
  UInt8.ofNat (fin.toNat * 128 + rsv1.toNat * 64 + rsv2.toNat * 32 + rsv3.toNat * 16 + opcode)

/-- The MASK bit set on the second byte. -/
def setMask (mask : Bool) : Bytes → Bytes
  | b :: bs => (if mask then b ||| 0x80 else b) :: bs
  | [] => []

/-- A frame on the wire: the masking key follows the length when MASK is set. -/
def RawFrame.encode (f : RawFrame) (form : LengthForm) : Bytes :=
  rawFirstByte f.fin f.rsv1 f.rsv2 f.rsv3 f.opcode ::
    (setMask f.mask (lengthField form f.payload.length) ++ (if f.mask then f.maskKey else []) ++
      f.payload)

/-- A 4-bit opcode, and a length the form can carry: in the 64-bit form, the top bit clear. -/
def RawFrame.Encodable (f : RawFrame) (form : LengthForm) : Prop :=
  f.opcode < 16 ∧ form.Admits f.payload.length

instance (f : RawFrame) (form : LengthForm) : Decidable (f.Encodable form) :=
  inferInstanceAs (Decidable (_ ∧ _))

theorem setMask_false (bs : Bytes) : setMask false bs = bs := by cases bs <;> rfl

/-- An unmasked frame is its header and its payload. -/
theorem RawFrame.length_encode (f : RawFrame) (form : LengthForm) (hM : f.mask = false) :
    (f.encode form).length = form.headerLen + f.payload.length := by
  have := length_lengthField form f.payload.length
  simp only [RawFrame.encode, hM, setMask_false, Bool.false_eq_true, if_false, List.append_nil,
    List.length_cons, List.length_append]
  omega

set_option maxRecDepth 10000 in
theorem rawFirstByte_bits (fin rsv1 rsv2 rsv3 : Bool) : ∀ opcode < 16,
    (rawFirstByte fin rsv1 rsv2 rsv3 opcode &&& 0x80 != 0) = fin ∧
      (rawFirstByte fin rsv1 rsv2 rsv3 opcode &&& 0x40 != 0) = rsv1 ∧
      (rawFirstByte fin rsv1 rsv2 rsv3 opcode &&& 0x20 != 0) = rsv2 ∧
      (rawFirstByte fin rsv1 rsv2 rsv3 opcode &&& 0x10 != 0) = rsv3 ∧
      (rawFirstByte fin rsv1 rsv2 rsv3 opcode &&& 0x0F).toNat = opcode := by
  cases fin <;> cases rsv1 <;> cases rsv2 <;> cases rsv3 <;> decide

set_option maxRecDepth 10000 in
theorem maskBit_set (b : UInt8) : ((b ||| 0x80) &&& 0x80 != 0) = true := by
  revert b; apply UInt8.forall_fin; decide

theorem opcode_control : ∀ n < 16, (n &&& 0x08 != 0) = decide (8 ≤ n) := by decide

/-- `readFrame` on an encoded frame, check by check in the source's order, in terms of the
frame's fields. -/
theorem readFrame_rawEncode (ce : Bool) (f : RawFrame) (form : LengthForm)
    (hf : f.Encodable form) (rest : Bytes) :
    readFrame ce (f.encode form ++ rest) =
      if (!ce && f.rsv1) || f.rsv2 || f.rsv3 then .reject "Unexpected RSV bits"
      else if decide (8 ≤ f.opcode) && !f.fin then .reject "Control frame fragmented"
      else if f.mask then .reject "Masked frame from server"
      else if decide (8 ≤ f.opcode) && decide (f.payload.length > 125) then
        .reject "Control frame payload too large"
      else .frame f.fin f.rsv1 f.opcode f.payload (form.headerLen + f.payload.length) := by
  obtain ⟨hFin, hRsv1, hRsv2, hRsv3, hOp⟩ := rawFirstByte_bits f.fin f.rsv1 f.rsv2 f.rsv3 _ hf.1
  obtain ⟨b1, ext, hExt, hMask, hLen⟩ := lengthField_read form hf.2 (f.payload ++ rest)
  obtain ⟨extL, hL⟩ : ∃ extL, lengthField form f.payload.length = b1 :: extL := by
    cases form <;> simp only [lengthField, List.cons_append, List.cons.injEq] at hExt ⊢ <;>
      exact ⟨_, hExt.1, rfl⟩
  have hCtl := opcode_control _ hf.1
  cases hM : f.mask
  · have hEnc : f.encode form ++ rest = rawFirstByte f.fin f.rsv1 f.rsv2 f.rsv3 f.opcode :: b1 :: ext := by
      simp [RawFrame.encode, hM, hL, setMask, ← hExt]
    have hFrame : f.encode form = rawFirstByte f.fin f.rsv1 f.rsv2 f.rsv3 f.opcode ::
        (lengthField form f.payload.length ++ f.payload) := by
      simp [RawFrame.encode, hM, hL, setMask]
    have hLenEnc := RawFrame.length_encode f form hM
    have hDrop : (f.encode form).drop form.headerLen = f.payload := by
      rw [hFrame, ← length_lengthField form f.payload.length, List.drop_succ_cons, List.drop_left]
    have hSmall : f.payload.length ≤ vectorMaxSize := by
      have := hf.2; unfold vectorMaxSize; cases form <;> simp only [LengthForm.Admits] at this <;> omega
    have hNeed : sizeT (form.headerLen + f.payload.length) = form.headerLen + f.payload.length := by
      apply Nat.mod_eq_of_lt
      unfold vectorMaxSize at hSmall
      cases form <;> simp [LengthForm.headerLen] <;> omega
    have hHeader : 2 ≤ form.headerLen := by cases form <;> decide
    have hAll : ¬(f.encode form ++ rest).length < form.headerLen + f.payload.length := by
      simp [hLenEnc]
    have hPull : evbufferPullup (f.encode form ++ rest) (form.headerLen + f.payload.length) =
        some (f.encode form) := by
      rw [evbufferPullup, if_neg (by omega), ← hLenEnc, List.take_left]
    rw [hEnc] at hAll hPull
    rw [hEnc]
    unfold readFrame
    simp only [hFin, hRsv1, hRsv2, hRsv3, hOp, hMask, hLen, hCtl, Bool.false_eq_true, if_false,
      hNeed, hAll, hPull, Nat.not_lt.mpr hSmall, hDrop, List.take_length]
  · have hEnc : f.encode form ++ rest =
        rawFirstByte f.fin f.rsv1 f.rsv2 f.rsv3 f.opcode :: (b1 ||| 0x80) ::
          (extL ++ f.maskKey ++ f.payload ++ rest) := by
      simp [RawFrame.encode, hM, hL, setMask]
    rw [hEnc]
    unfold readFrame
    simp only [hFin, hRsv1, hRsv2, hRsv3, hOp, maskBit_set, hCtl, if_true]

/-! ### The rules -/

/-- The framing rules a frame breaks, given whether compression is negotiated and whether a
fragmented message is in progress: MASK, RSV2 or RSV3 set; RSV1 without compression; a control
frame fragmented or over 125 bytes; an unknown opcode; a continuation with no message in
progress, or a new data frame during one. -/
def RawFrame.Violates (ce inProgress : Bool) (f : RawFrame) : Prop :=
  f.mask = true ∨ f.rsv2 = true ∨ f.rsv3 = true ∨ (f.rsv1 = true ∧ ce = false) ∨
    (8 ≤ f.opcode ∧ (f.fin = false ∨ 125 < f.payload.length)) ∨ f.opcode ∉ [0, 1, 2, 8, 9, 10] ∨
    (f.opcode = 0 ∧ inProgress = false) ∨ ((f.opcode = 1 ∨ f.opcode = 2) ∧ inProgress = true)

instance (ce inProgress : Bool) (f : RawFrame) : Decidable (f.Violates ce inProgress) :=
  inferInstanceAs (Decidable (_ ∨ _))

/-- Whether a fragmented message is in progress after a frame that keeps the rules. -/
def RawFrame.nextInProgress (inProgress : Bool) (f : RawFrame) : Bool :=
  if f.opcode < 8 then !f.fin else inProgress

/-- The position of the first frame that breaks a rule, if one does. -/
def firstViolation (ce : Bool) : Bool → List RawFrame → Option Nat
  | _, [] => none
  | p, f :: fs =>
    if f.Violates ce p then some 0 else (firstViolation ce (f.nextInProgress p) fs).map (· + 1)

/-- The calls by which a frame that keeps the rules may still end the connection: a close, or a
1007 on its payload. -/
def Call.endsByPayload : Call → Bool
  | .onRxClose .. => true
  | .onRxProtocolError code _ => code == 1007
  | _ => false

/-- Every call of the trace that ends the connection is a close or a 1007. -/
def Quiet (t : List Call) : Prop := ∀ c ∈ t, c.endsConnection = true → c.endsByPayload = true

@[simp] theorem quiet_nil : Quiet [] := nofun

@[simp] theorem quiet_cons (c : Call) (t : List Call) :
    Quiet (c :: t) ↔ (c.endsConnection = true → c.endsByPayload = true) ∧ Quiet t := by
  simp [Quiet]

@[simp] theorem quiet_append (t u : List Call) : Quiet (t ++ u) ↔ Quiet t ∧ Quiet u := by
  simp [Quiet, or_imp, forall_and]

namespace Receiver

variable {env : Env}

/-- The reassembly flag agrees with the frames so far, and a message in progress is text or
binary. -/
def Tracks (st : Receiver) (inProgress : Bool) : Prop :=
  st.messageInProgress = inProgress ∧
    (inProgress = true → st.fragmentedOpcode = 1 ∨ st.fragmentedOpcode = 2)

theorem withFragments_self (st : Receiver) :
    st.withFragments st.messageInProgress st.compressedMessageInProgress st.fragmentedOpcode
      st.fragmentedMessage = st := rfl

/-- `rxInflate` and `rxMaybeResetAfterMessage` leave the reassembly members alone. -/
theorem rxInflate_fragments (st : Receiver) (input : Bytes) :
    (rxInflate env st input).2.2.messageInProgress = st.messageInProgress ∧
      (rxInflate env st input).2.2.fragmentedOpcode = st.fragmentedOpcode := by
  have h := @rxInflate_withFragments env st.messageInProgress st.compressedMessageInProgress
    st.fragmentedOpcode st.fragmentedMessage st input
  rw [withFragments_self] at h
  rw [h]
  exact ⟨rfl, rfl⟩

theorem quiet_rxInflate {st : Receiver} (h : Quiet st.trace) (input : Bytes) :
    Quiet (rxInflate env st input).2.2.trace := by
  unfold rxInflate
  split_ifs
  · exact h
  all_goals
    refine inflateLoop_inv (fun st => Quiet st.trace)
      (fun _ _ h => by simpa [Call.endsConnection] using h) _ _ _ ?_
  · simpa [Call.endsConnection] using h
  · exact h

theorem quiet_rxMaybeResetAfterMessage {st : Receiver} (h : Quiet st.trace) :
    Quiet (rxMaybeResetAfterMessage env st).trace := by
  simp only [rxMaybeResetAfterMessage, rxResetInflate, rxInitInflate]
  split_ifs <;> simp [h, Call.endsConnection]

theorem quiet_validateMessage {st : Receiver} (h : Quiet st.trace) (msg : Bytes) :
    Quiet (validateMessage env st msg).2.trace := by
  unfold validateMessage
  have h1 : Quiet (st.utf8Reset.validateChunk env msg).2.trace := by
    simp [validateChunk, utf8Reset, h, Call.endsConnection]
  rcases hv : st.utf8Reset.validateChunk env msg with ⟨_ | _, st'⟩ <;> rw [hv] at h1
  · exact h1
  · simpa [validateFinal, Call.endsConnection] using h1

theorem rxMaybeResetAfterMessage_fragments (st : Receiver) :
    (rxMaybeResetAfterMessage env st).messageInProgress = st.messageInProgress ∧
      (rxMaybeResetAfterMessage env st).fragmentedOpcode = st.fragmentedOpcode := by
  have h := @rxMaybeResetAfterMessage_withFragments env st.messageInProgress
    st.compressedMessageInProgress st.fragmentedOpcode st.fragmentedMessage st
  rw [withFragments_self] at h
  rw [h]
  exact ⟨rfl, rfl⟩

theorem validateMessage_fragments (st : Receiver) (msg : Bytes) :
    (validateMessage env st msg).2.messageInProgress = st.messageInProgress := by
  have h := @validateMessage_withFragments env st.messageInProgress
    st.compressedMessageInProgress st.fragmentedOpcode st.fragmentedMessage st msg
  rw [withFragments_self] at h
  rw [h]
  rfl

/-- Delivering a text or binary message makes no 1002 and leaves the reassembly flag alone. -/
theorem deliverMessage_keeps {st : Receiver} (h : Quiet st.trace) {opcode : Nat}
    (hOp : opcode = 1 ∨ opcode = 2) (msg : Bytes) :
    Quiet (deliverMessage env st opcode msg).trace ∧
      (deliverMessage env st opcode msg).messageInProgress = st.messageInProgress := by
  rcases hOp with rfl | rfl
  · have hq := @quiet_validateMessage env st h msg
    have hm := @validateMessage_fragments env st msg
    rcases hv : validateMessage env st msg with ⟨_ | _, st'⟩ <;> rw [hv] at hq hm <;>
      dsimp only at hq hm <;>
      simp [deliverMessage, hv, hq, hm, fail, utf8Reset, Call.endsConnection, Call.endsByPayload]
  · simp [deliverMessage, h, Call.endsConnection]

/-- Delivering a reassembled text or binary message makes no 1002, and ends the message. -/
theorem deliverFragmentedMessage_keeps {st : Receiver}
    (hOp : st.fragmentedOpcode = 1 ∨ st.fragmentedOpcode = 2) (h : Quiet st.trace) :
    Quiet (deliverFragmentedMessage env st).trace ∧
      ((deliverFragmentedMessage env st).trace.any Call.endsConnection = false →
        (deliverFragmentedMessage env st).messageInProgress = false) := by
  rcases hOp with hO | hO
  · have hq : Quiet (if st.compressedMessageInProgress then
        validateMessage env st st.fragmentedMessage else st.validateFinal env).2.trace := by
      split_ifs
      · exact quiet_validateMessage h _
      · simpa [validateFinal, Call.endsConnection] using h
    rcases hv : (if st.compressedMessageInProgress then
        validateMessage env st st.fragmentedMessage else st.validateFinal env) with ⟨_ | _, st'⟩ <;>
      rw [hv] at hq <;>
      simp [deliverFragmentedMessage, hO, hv, hq, clearFragments, fail, utf8Reset,
        Call.endsConnection, Call.endsByPayload]
  · simp [deliverFragmentedMessage, hO, h, clearFragments, Call.endsConnection]

/-- A continuation while a text or binary message is in progress makes no 1002; unless it ends
the connection, the message is still in progress exactly when FIN is clear. -/
theorem handleContinuationFrame_keeps {st : Receiver} (hIn : st.messageInProgress = true)
    (hOp : st.fragmentedOpcode = 1 ∨ st.fragmentedOpcode = 2) (h : Quiet st.trace)
    (payload : Bytes) (fin : Bool) :
    Quiet (handleContinuationFrame env st payload fin).trace ∧
      ((handleContinuationFrame env st payload fin).trace.any Call.endsConnection = false →
        Tracks (handleContinuationFrame env st payload fin) !fin) := by
  rw [← withFragments_self st, hIn]
  generalize st.compressedMessageInProgress = b
  generalize st.fragmentedMessage = acc
  generalize st.fragmentedOpcode = o at hOp ⊢
  by_cases hText : o = 1 ∧ b = false
  · obtain ⟨rfl, rfl⟩ := hText
    rw [handleContinuationFrame_text]
    have hq1 : Quiet (st.validateChunk env payload).2.trace := by
      simpa [validateChunk, Call.endsConnection] using h
    rcases hv : st.validateChunk env payload with ⟨_ | _, s1⟩ <;> rw [hv] at hq1
    · simp [Tracks, fail, utf8Reset, hq1, Call.endsConnection, Call.endsByPayload]
    cases fin
    · simp [Tracks, hq1]
    · have hq2 : Quiet (s1.validateFinal env).2.trace := by
        simpa [validateFinal, Call.endsConnection] using hq1
      rcases hf : s1.validateFinal env with ⟨_ | _, s2⟩ <;> rw [hf] at hq2 <;>
        simp [Tracks, fail, utf8Reset, hf, hq2, Call.endsConnection, Call.endsByPayload]
  · have hKind : o = 1 → b = true := by cases b <;> simp_all
    cases fin
    · rw [handleContinuationFrame_whole _ _ _ _ _ hKind]
      exact ⟨by simpa using h, fun _ => ⟨rfl, fun _ => hOp⟩⟩
    rw [handleContinuationFrame_lastWhole _ _ _ _ _ hKind]
    cases b
    · obtain ⟨hq, hEnd⟩ := @deliverFragmentedMessage_keeps env
        (st.withFragments true false o (acc ++ payload)) hOp (by simpa using h)
      exact ⟨hq, fun hL => ⟨hEnd hL, nofun⟩⟩
    · have hq1 := @quiet_rxInflate env st h (acc ++ payload)
      rcases hr : rxInflate env st (acc ++ payload) with ⟨_ | _, out, s1⟩ <;> rw [hr] at hq1
      · simp [Tracks, fail, utf8Reset, hq1, Call.endsConnection, Call.endsByPayload]
      · obtain ⟨hq, hEnd⟩ := @deliverFragmentedMessage_keeps env
          ((rxMaybeResetAfterMessage env s1).withFragments true true o out) hOp
          (by simpa using @quiet_rxMaybeResetAfterMessage env s1 hq1)
        exact ⟨hq, fun hL => ⟨hEnd hL, nofun⟩⟩

/-- A text or binary frame while no message is in progress makes no 1002; unless it ends the
connection, a message is then in progress exactly when FIN is clear. -/
theorem handleDataFrame_keeps {st : Receiver} (hIn : st.messageInProgress = false)
    (h : Quiet st.trace) (payload : Bytes) (fin : Bool) {opcode : Nat}
    (hOp : opcode = 1 ∨ opcode = 2) (rsv1 : Bool) :
    Quiet (handleDataFrame env st payload fin opcode rsv1).trace ∧
      ((handleDataFrame env st payload fin opcode rsv1).trace.any Call.endsConnection = false →
        Tracks (handleDataFrame env st payload fin opcode rsv1) !fin) := by
  cases fin
  · rw [← withFragments_self st, hIn, handleDataFrame_first st _ _ _ payload opcode rsv1 _ rfl]
    split_ifs with hText
    · obtain ⟨rfl, -⟩ := hText
      have hq1 : Quiet (st.utf8Reset.validateChunk env payload).2.trace := by
        simpa [validateChunk, utf8Reset, Call.endsConnection] using h
      rcases hv : st.utf8Reset.validateChunk env payload with ⟨_ | _, s1⟩ <;> rw [hv] at hq1 <;>
        simp [Tracks, fail, utf8Reset, hq1, Call.endsConnection, Call.endsByPayload]
    · simp [Tracks, h, hOp]
  · simp only [handleDataFrame, hIn, Bool.false_eq_true, if_false, Bool.not_true]
    split_ifs with hC
    · have hq1 := @quiet_rxInflate env st h payload
      have hm1 := (@rxInflate_fragments env st payload).1
      rcases hr : rxInflate env st payload with ⟨_ | _, out, s1⟩ <;> rw [hr] at hq1 hm1
      · simp [Tracks, fail, hq1, Call.endsConnection, Call.endsByPayload]
      · obtain ⟨hq, hm⟩ := deliverMessage_keeps (quiet_rxMaybeResetAfterMessage hq1) hOp out
        refine ⟨hq, fun _ => ⟨?_, nofun⟩⟩
        rw [hm, (rxMaybeResetAfterMessage_fragments s1).1]
        exact hm1.trans hIn
    · obtain ⟨hq, hm⟩ := @deliverMessage_keeps env st h opcode hOp payload
      exact ⟨hq, fun _ => ⟨hm.trans hIn, nofun⟩⟩

/-- A frame that keeps the rules reaches a handler, which makes no 1002; unless it ends the
connection by a close or a 1007, the receiver then tracks the frames so far. -/
theorem handleFrame_keeps {ce : Bool} {st : Receiver} {p : Bool} (hT : Tracks st p)
    (h : Quiet st.trace) {f : RawFrame} (hf : ¬f.Violates ce p) :
    ∃ st1, handleFrame env st f.fin f.rsv1 f.opcode f.payload = some st1 ∧ Quiet st1.trace ∧
      (st1.trace.any Call.endsConnection = false → Tracks st1 (f.nextInProgress p)) := by
  simp only [RawFrame.Violates, not_or] at hf
  obtain ⟨-, -, -, -, hCtl, hKnown, hCont, hData⟩ := hf
  simp only [not_not, List.mem_cons, List.mem_singleton, List.not_mem_nil, or_false] at hKnown
  simp only [not_and, not_or] at hCtl hCont hData
  obtain ⟨hIn, hOp⟩ := hT
  have hData' : f.opcode < 8 → f.nextInProgress p = !f.fin := fun h8 => if_pos h8
  have hCtl' : 8 ≤ f.opcode → f.nextInProgress p = p := fun h8 => if_neg (by omega)
  rcases hKnown with hO | hO | hO | hO | hO | hO
  · obtain rfl : p = true := by simpa using hCont hO
    rw [hData' (by omega), hO]
    exact ⟨_, rfl, handleContinuationFrame_keeps hIn (hOp rfl) h f.payload f.fin⟩
  · obtain rfl : p = false := by simpa using hData (.inl hO)
    rw [hData' (by omega), hO]
    exact ⟨_, rfl, handleDataFrame_keeps hIn h f.payload f.fin (.inl rfl) f.rsv1⟩
  · obtain rfl : p = false := by simpa using hData (.inr hO)
    rw [hData' (by omega), hO]
    exact ⟨_, rfl, handleDataFrame_keeps hIn h f.payload f.fin (.inr rfl) f.rsv1⟩
  · rw [hO]
    rcases hc : closeFields f.payload with ⟨code, reason, perr⟩
    refine ⟨_, rfl, ?_⟩
    simp [handleCloseFrame, hc, h, Call.endsConnection, Call.endsByPayload]
  · have hLen : ¬f.payload.length > 125 := by have := hCtl (by omega); omega
    rw [hCtl' (by omega), hO]
    refine ⟨_, rfl, by simp [handlePingFrame, hLen, h, Call.endsConnection], fun _ => ?_⟩
    simp only [handlePingFrame, hLen, if_false]
    exact ⟨hIn, hOp⟩
  · rw [hCtl' (by omega), hO]
    exact ⟨_, rfl, h, fun _ => ⟨hIn, hOp⟩⟩

/-- Every call of a trace that has not ended the connection is quiet. -/
theorem quiet_of_live {t : List Call} (h : t.any Call.endsConnection = false) : Quiet t :=
  fun c hc hE => absurd hE (by simpa using List.any_eq_false.mp h c hc)

/-- An opcode outside the six is the `default` of the switch. -/
theorem handleFrame_eq_none {opcode : Nat} (h : opcode ∉ [0, 1, 2, 8, 9, 10]) (st : Receiver)
    (fin rsv1 : Bool) (payload : Bytes) : handleFrame env st fin rsv1 opcode payload = none := by
  simp only [List.mem_cons, List.mem_singleton, List.not_mem_nil, or_false, not_or] at h
  obtain ⟨h0, h1, h2, h8, h9, h10⟩ := h
  unfold handleFrame
  split <;> simp_all

/-- A continuation with no message in progress, or a new data frame during one, fails the
connection with a 1002 from its handler. -/
theorem handleFrame_outOfOrder {st : Receiver} {p : Bool} (hT : Tracks st p) {opcode : Nat}
    (h : (opcode = 0 ∧ p = false) ∨ ((opcode = 1 ∨ opcode = 2) ∧ p = true)) (fin rsv1 : Bool)
    (payload : Bytes) : ∃ why, handleFrame env st fin rsv1 opcode payload = some (st.fail 1002 why) := by
  rcases h with ⟨rfl, rfl⟩ | ⟨rfl | rfl, rfl⟩
  · exact ⟨"continuation frame without initial frame", by simp [handleFrame, handleContinuationFrame, hT.1]⟩
  all_goals exact ⟨"Received new data frame when expecting continuation frame",
    by simp [handleFrame, handleDataFrame, hT.1]⟩

section Stream

variable {ce : Bool} (hTerm : ∀ t, env.sink.rxIsTerminating t = t.any Call.endsConnection)
  (hCe : ∀ t, env.sink.rxCompressionEnabled t = ce)
include hTerm hCe

/-- A pass of `onData` over a frame that keeps the rules hands it to its handler and goes on
right after it. -/
theorem onDataStep_keeps {st st1 : Receiver} (hLive : st.trace.any Call.endsConnection = false)
    {f : RawFrame} {form : LengthForm} (hEnc : f.Encodable form) {p : Bool} (hf : ¬f.Violates ce p)
    (hSt1 : handleFrame env st f.fin f.rsv1 f.opcode f.payload = some st1) (rest : Bytes) :
    onDataStep env st (f.encode form ++ rest) = .next st1 rest := by
  simp only [RawFrame.Violates, not_or, not_and, Bool.not_eq_true, Bool.not_eq_false] at hf
  obtain ⟨hM, h2, h3, h1, hCtl, -⟩ := hf
  have hHead : ((!ce && f.rsv1) || f.rsv2 || f.rsv3) = false := by
    revert h1; cases ce <;> cases f.rsv1 <;> simp [h2, h3]
  have hCtl' : (decide (8 ≤ f.opcode) && !f.fin) = false ∧
      (decide (8 ≤ f.opcode) && decide (f.payload.length > 125)) = false := by
    by_cases h8 : 8 ≤ f.opcode <;> simp_all
  have hRead := readFrame_rawEncode ce f form hEnc rest
  simp only [hHead, hM, hCtl'.1, hCtl'.2, Bool.false_eq_true, if_false] at hRead
  simp only [onDataStep, hTerm, hLive, hCe, hRead, hSt1, Bool.false_eq_true, if_false]
  rw [← RawFrame.length_encode f form hM, List.drop_left]

/-- A header that `readFrame` refuses fails the connection with a 1002 and stops the loop. -/
theorem onData_of_reject {st : Receiver} (hLive : st.trace.any Call.endsConnection = false)
    {buf : Bytes} {why : String} (h : readFrame ce buf = .reject why) :
    onData env st buf = some (st.fail 1002 why, buf) :=
  onData_of_done env (by simp only [onDataStep, hTerm, hLive, hCe, h, Bool.false_eq_true, if_false])

/-- At a frame that breaks a rule, `onData` fails the connection with a 1002 and stops. -/
theorem onData_violates {st : Receiver} {p : Bool} (hT : Tracks st p)
    (hLive : st.trace.any Call.endsConnection = false) {f : RawFrame} {form : LengthForm}
    (hEnc : f.Encodable form) (hf : f.Violates ce p) (rest : Bytes) :
    ∃ why buf, onData env st (f.encode form ++ rest) = some (st.fail 1002 why, buf) := by
  have hNT : env.sink.rxIsTerminating st.trace = false := (hTerm _).trans hLive
  have hRead := readFrame_rawEncode ce f form hEnc rest
  split_ifs at hRead with hR hC hM hL
  iterate 4 exact ⟨_, _, onData_of_reject hTerm hCe hLive hRead⟩
  -- The header is sound: the frame has an unknown opcode or comes out of order.
  have hKind : f.opcode ∉ [0, 1, 2, 8, 9, 10] ∨ (f.opcode = 0 ∧ p = false) ∨
      ((f.opcode = 1 ∨ f.opcode = 2) ∧ p = true) := by
    rcases hf with h | h | h | ⟨h, hc⟩ | ⟨h8, h | h⟩ | h
    · exact absurd h hM
    · simp [h] at hR
    · simp [h] at hR
    · simp [h, hc] at hR
    · simp [h8, h] at hC
    · simp only [h8, decide_True, Bool.true_and, decide_eq_true_eq] at hL; omega
    · exact h
  rcases hKind with hU | hO
  · exact ⟨"Unsupported opcode", _, onData_of_done env (by simp only [onDataStep, hNT, hCe, hRead,
      handleFrame_eq_none hU, Bool.false_eq_true, if_false])⟩
  · obtain ⟨why, hW⟩ := @handleFrame_outOfOrder env st p hT f.opcode hO f.fin f.rsv1 f.payload
    have hStep : onDataStep env st (f.encode form ++ rest) =
        .next (st.fail 1002 why) ((f.encode form ++ rest).drop (form.headerLen + f.payload.length)) := by
      simp only [onDataStep, hNT, hCe, hRead, hW, Bool.false_eq_true, if_false]
    exact ⟨why, _, (onData_of_next env hStep).trans
      (onData_of_done env (by simp [onDataStep, hTerm, fail, Call.endsConnection]))⟩

/-- `onData` on a stream of frames: up to the first that breaks a rule it runs the handlers as
`runFrames` does, with no 1002; at that frame it fails the connection with a 1002 and stops. Only
a close or a 1007 on an earlier frame can end it sooner. -/
theorem onData_rawFrames (fs : List (RawFrame × LengthForm)) (hEnc : ∀ q ∈ fs, q.1.Encodable q.2)
    {st : Receiver} {p : Bool} (hT : Tracks st p) (hLive : st.trace.any Call.endsConnection = false) :
    (∀ k, firstViolation ce p (fs.map Prod.fst) = some k →
      (runFrames env st ((fs.take k).map (·.1.toFrame))).trace.any Call.endsByPayload = false →
      (runFrames env st ((fs.take k).map (·.1.toFrame))).trace.any Call.endsConnection = false ∧
      ∃ why buf, onData env st (fs.map fun q => q.1.encode q.2).flatten =
        some ((runFrames env st ((fs.take k).map (·.1.toFrame))).fail 1002 why, buf)) ∧
    (firstViolation ce p (fs.map Prod.fst) = none →
      (runFrames env st (fs.map (·.1.toFrame))).trace.any Call.endsByPayload = false →
      (runFrames env st (fs.map (·.1.toFrame))).trace.any Call.endsConnection = false ∧
      onData env st (fs.map fun q => q.1.encode q.2).flatten =
        some (runFrames env st (fs.map (·.1.toFrame)), [])) := by
  induction fs generalizing st p with
  | nil =>
    refine ⟨fun k hk => by simp [firstViolation] at hk, fun _ _ => ⟨hLive, ?_⟩⟩
    exact onData_of_done env (by simp [onDataStep, hTerm, hLive, readFrame]; rfl)
  | cons q fs ih =>
    obtain ⟨f, form⟩ := q
    have hf := hEnc _ (List.mem_cons_self _ _)
    simp only [List.map_cons, List.flatten_cons]
    by_cases hV : f.Violates ce p
    · simp only [firstViolation, hV, if_true, Option.some.injEq, reduceCtorEq, false_implies,
        and_true]
      rintro k rfl -
      exact ⟨hLive, onData_violates hTerm hCe hT hLive hf hV _⟩
    simp only [firstViolation, hV, if_false]
    obtain ⟨st1, hSt1, hQ1, hTr1⟩ := @handleFrame_keeps env ce st p hT (quiet_of_live hLive) f hV
    have hRun : ∀ gs, runFrames env st (f.toFrame :: gs) = runFrames env st1 gs := fun gs => by
      simp only [runFrames_cons_live ((hTerm _).trans hLive), RawFrame.toFrame, hSt1]
    rw [onData_of_next env (onDataStep_keeps hTerm hCe hLive hf hV hSt1 _)]
    by_cases hLive1 : st1.trace.any Call.endsConnection = false
    · obtain ⟨ihS, ihN⟩ := ih (fun q hq => hEnc q (List.mem_cons_of_mem _ hq)) (hTr1 hLive1) hLive1
      refine ⟨fun k hk => ?_, fun hk => ?_⟩
      · obtain ⟨k, hk1, rfl⟩ := Option.map_eq_some'.mp hk
        simpa only [List.take_succ_cons, List.map_cons, hRun] using ihS k hk1
      · simpa only [hRun] using ihN (Option.map_eq_none'.mp hk)
    · -- The frame ended the connection by a close or a 1007, so every later frame is ignored.
      have hEnd : st1.trace.any Call.endsByPayload = true := by
        simp only [Bool.not_eq_false, List.any_eq_true] at hLive1
        obtain ⟨c, hc, hE⟩ := hLive1
        exact List.any_eq_true.mpr ⟨c, hc, hQ1 c hc hE⟩
      have hStop : ∀ gs, runFrames env st (f.toFrame :: gs) = st1 := fun gs => by
        rw [hRun, runFrames_of_terminating (by simpa [hTerm] using hLive1)]
      refine ⟨fun k hk => ?_, fun _ => ?_⟩
      · obtain ⟨k, -, rfl⟩ := Option.map_eq_some'.mp hk
        simp [List.take_succ_cons, hStop, hEnd]
      · simp [hStop, hEnd]

/-- A peer's frames, cut into chunks at any points: with a sink that stops once told of a
protocol error or a close, and a fixed answer on compression, the receiver raises no 1002 before
the first frame that breaks a rule and one 1002 at it, and none at all when no frame does; the
frames before are handled as `runFrames` handles them. -/
theorem feed_firstViolation (st : Receiver) (hIdle : st.messageInProgress = false)
    (hLive : st.trace.any Call.endsConnection = false) (fs : List (RawFrame × LengthForm))
    (hEnc : ∀ q ∈ fs, q.1.Encodable q.2) (c : Bytes) (cs : List Bytes)
    (hChunks : (c :: cs).flatten = (fs.map fun q => q.1.encode q.2).flatten) :
    (∀ k, firstViolation ce false (fs.map Prod.fst) = some k →
      (runFrames env st ((fs.take k).map (·.1.toFrame))).trace.any Call.endsByPayload = false →
      (∀ why, Call.onRxProtocolError 1002 why ∉ (runFrames env st ((fs.take k).map (·.1.toFrame))).trace) ∧
      ∃ why buf, feed env st [] (c :: cs) =
        some ((runFrames env st ((fs.take k).map (·.1.toFrame))).fail 1002 why, buf)) ∧
    (firstViolation ce false (fs.map Prod.fst) = none →
      (runFrames env st (fs.map (·.1.toFrame))).trace.any Call.endsByPayload = false →
      (∀ why, Call.onRxProtocolError 1002 why ∉ (runFrames env st (fs.map (·.1.toFrame))).trace) ∧
      feed env st [] (c :: cs) = some (runFrames env st (fs.map (·.1.toFrame)), [])) := by
  have hFeed : feed env st [] (c :: cs) = onData env st (fs.map fun q => q.1.encode q.2).flatten := by
    rw [feed_cons_eq_onData (fun t _ _ => by simp [hTerm, Call.endsConnection]), List.nil_append,
      hChunks]
  have hNo : ∀ s : Receiver, s.trace.any Call.endsConnection = false →
      ∀ why, Call.onRxProtocolError 1002 why ∉ s.trace := fun s h why hm => by
    simpa [Call.endsConnection] using List.any_eq_false.mp h _ hm
  obtain ⟨hS, hN⟩ := onData_rawFrames hTerm hCe fs hEnc ⟨hIdle, nofun⟩ hLive
  rw [hFeed]
  exact ⟨fun k hk hq => (hS k hk hq).imp_left (hNo _), fun hk hq => (hN hk hq).imp_left (hNo _)⟩

end Stream

/-- A text frame, then a masked ping, cut mid-frame: the text is delivered, then one 1002. -/
theorem feed_firstViolation_maskedPing :
    ∃ why buf, feed closingEnv {} [] [[0x81, 0x01], [0x41, 0x89, 0x80], [1, 2, 3, 4]] =
      some ((runFrames closingEnv {} [⟨true, false, 1, [0x41]⟩]).fail 1002 why, buf) :=
  ((@feed_firstViolation closingEnv true (fun _ => rfl) (fun _ => rfl) {} rfl rfl
    [(⟨true, false, false, false, 1, false, [], [0x41]⟩, .short),
      (⟨true, false, false, false, 9, true, [1, 2, 3, 4], []⟩, .short)] (by decide)
    [0x81, 0x01] [[0x41, 0x89, 0x80], [1, 2, 3, 4]] rfl).1 1 rfl rfl).2

/-- Two frames that break a rule and draw no 1002, with compression on: a ping with RSV1 set,
`C9 00`, is answered as a ping, and a binary frame whose 64-bit length has its top bit set is
waited for as if 2^63 bytes were to come. -/
theorem onData_uncheckedRules :
    (onData closingEnv {} [0xC9, 0x00]).map (·.1.trace) = some [.onRxPing []] ∧
      onData closingEnv {} [0x82, 0x7F, 0x80, 0, 0, 0, 0, 0, 0, 0] =
        some ({}, [0x82, 0x7F, 0x80, 0, 0, 0, 0, 0, 0, 0]) := by
  have hPing : onDataStep closingEnv {} [0xC9, 0x00] =
      .next (({} : Receiver).call (.onRxPing [])) [] := rfl
  have hIdle : onDataStep closingEnv (({} : Receiver).call (.onRxPing [])) [] =
      .done (({} : Receiver).call (.onRxPing [])) := rfl
  refine ⟨by rw [onData_of_next _ hPing, onData_of_done _ hIdle]; rfl, onData_of_done _ rfl⟩

end Receiver

end Libwsc
