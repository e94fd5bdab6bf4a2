import Libwsc.OnData

/-! `onData` does not see how the socket cut the stream: a frame not yet all buffered is waited
for, and a decision made on a partial buffer is the one the whole buffer would give. The one
exception is a frame refused with a protocol error, which `onData` leaves in the buffer: unless
the sink stops after the error, the next call refuses it again. -/
namespace Libwsc
namespace Receiver

variable (env : Env)

/-- A pass that goes on goes on the same way with more bytes behind. -/
theorem onDataStep_next_append {st st' : Receiver} {buf rest : Bytes}
    (h : onDataStep env st buf = .next st' rest) (c : Bytes) :
    onDataStep env st (buf ++ c) = .next st' (rest ++ c) := by
  unfold onDataStep at h ⊢
  split_ifs at h ⊢ with hTerm
  split at h <;> try cases h
  rename_i fin rsv1 opcode payload need hFrame
  obtain ⟨-, -, -, -, hLe, -⟩ := readFrame_frame hFrame
  rw [readFrame_append (by simp [hFrame])]
  simp only [hFrame]
  split at h <;> cases h
  rename_i hHandle
  simp [hHandle, List.drop_append_of_le_length hLe]

theorem onDataStep_abort_append {st : Receiver} {buf : Bytes} (h : onDataStep env st buf = .abort)
    (c : Bytes) : onDataStep env st (buf ++ c) = .abort := by
  unfold onDataStep at h ⊢
  split_ifs at h ⊢ with hTerm
  split at h <;> try cases h
  · rename_i hFrame
    rw [readFrame_append (by simp [hFrame]), hFrame]
  · rename_i hFrame
    split at h <;> cases h

/-- A pass that ends the loop either leaves the receiver as it was (the sink is terminating, or
the frame is not all there) or reports a protocol error, which more bytes would not change. -/
theorem onDataStep_done_append {st st' : Receiver} {buf : Bytes}
    (h : onDataStep env st buf = .done st') (c : Bytes) :
    st' = st ∨
      (onDataStep env st (buf ++ c) = .done st' ∧ ∃ code why, st' = st.fail code why) := by
  unfold onDataStep at h ⊢
  split_ifs at h ⊢ with hTerm
  · exact .inl (Step.done.inj h).symm
  split at h <;> try cases h
  · exact .inl rfl
  · rename_i why hFrame
    rw [readFrame_append (by simp [hFrame]), hFrame]
    exact .inr ⟨by simp, 1002, why, rfl⟩
  · rename_i fin rsv1 opcode payload need hFrame
    rw [readFrame_append (by simp [hFrame]), hFrame]
    split at h <;> cases h
    rename_i hHandle
    simp only [hHandle]
    exact .inr ⟨by simp, 1002, _, rfl⟩

theorem onData_append_none (c : Bytes) (st : Receiver) (buf : Bytes) :
    onData env st buf = none → onData env st (buf ++ c) = none := by
  induction st, buf using onData.induct env with
  | case1 st buf st' hDone => simp [onData_of_done env hDone]
  | case2 st buf st' rest hNext ih =>
    rw [onData_of_next env hNext, onData_of_next env (onDataStep_next_append env hNext c)]
    exact ih
  | case3 st buf hAbort => exact fun _ => onData_of_abort env (onDataStep_abort_append env hAbort c)

section Terminating

variable {env}
variable (hStop : ∀ t code why, env.sink.rxIsTerminating (t ++ [.onRxProtocolError code why]) = true)
include hStop

/-- Calling `onData` again after more bytes arrive gives what one call on all the bytes gives. -/
theorem onData_append (c : Bytes) (st : Receiver) (buf : Bytes) :
    ∀ st1 buf1, onData env st buf = some (st1, buf1) →
      onData env st1 (buf1 ++ c) = onData env st (buf ++ c) := by
  induction st, buf using onData.induct env with
  | case1 st buf st' hDone =>
    intro st1 buf1 h
    rw [onData_of_done env hDone, Option.some.injEq, Prod.mk.injEq] at h
    obtain ⟨rfl, rfl⟩ := h
    rcases onDataStep_done_append env hDone c with rfl | ⟨hStep, code, why, rfl⟩
    · rfl
    · rw [onData_of_done env hStep]
      exact onData_of_done env (by simp [onDataStep, fail, hStop])
  | case2 st buf st' rest hNext ih =>
    intro st1 buf1 h
    rw [onData_of_next env hNext] at h
    rw [ih st1 buf1 h, onData_of_next env (onDataStep_next_append env hNext c)]
  | case3 st buf hAbort =>
    intro st1 buf1 h
    simp [onData_of_abort env hAbort] at h

/-- The induction behind chunking independence. -/
theorem feed_cons_eq_onData (st : Receiver) (buf c : Bytes) (cs : List Bytes) :
    feed env st buf (c :: cs) = onData env st (buf ++ (c :: cs).flatten) := by
  induction cs generalizing st buf c with
  | nil => simp [feed]
  | cons c' cs ih =>
    rw [feed, List.flatten_cons, ← List.append_assoc]
    cases hOne : onData env st (buf ++ c) with
    | none => exact (onData_append_none env _ st (buf ++ c) hOne).symm
    | some p =>
      obtain ⟨st1, buf1⟩ := p
      rw [Option.some_bind]
      dsimp only
      rw [ih, onData_append hStop _ st (buf ++ c) st1 buf1 hOne]

/-- Chunking independence, for a sink that stops after a protocol error: appending the chunks one
at a time and calling `onData` after each gives the same calls, state and leftover bytes as one
call on them all. -/
theorem feed_eq_onData (st : Receiver) (buf c : Bytes) (cs : List Bytes) :
    feed env st buf (c :: cs) = onData env st (buf ++ (c :: cs).flatten) :=
  feed_cons_eq_onData hStop st buf c cs

end Terminating

/-- With a sink that is told of the error but goes on, a frame with RSV3 set, `90 00`, refused
once when the stream arrives whole, is refused twice when a byte comes after it in a second
chunk. -/
theorem feed_rejectsTwice :
    (feed reinitFailEnv {} [] [[0x90, 0x00], [0x00]]).map (·.1.trace) =
        some [.onRxProtocolError 1002 "Unexpected RSV bits",
          .onRxProtocolError 1002 "Unexpected RSV bits"] ∧
      (onData reinitFailEnv {} [0x90, 0x00, 0x00]).map (·.1.trace) =
        some [.onRxProtocolError 1002 "Unexpected RSV bits"] := by
  have hFirst : onDataStep reinitFailEnv {} [0x90, 0x00] =
      .done (({} : Receiver).fail 1002 "Unexpected RSV bits") := rfl
  have hAgain : onDataStep reinitFailEnv (({} : Receiver).fail 1002 "Unexpected RSV bits")
      [0x90, 0x00, 0x00] = .done ((({} : Receiver).fail 1002 "Unexpected RSV bits").fail 1002
        "Unexpected RSV bits") := rfl
  have hWhole : onDataStep reinitFailEnv {} [0x90, 0x00, 0x00] =
      .done (({} : Receiver).fail 1002 "Unexpected RSV bits") := rfl
  refine ⟨?_, by rw [onData_of_done _ hWhole]; rfl⟩
  rw [feed, List.nil_append, onData_of_done _ hFirst, Option.some_bind]
  dsimp only
  rw [feed, show ([0x90, 0x00] ++ [0x00] : Bytes) = [0x90, 0x00, 0x00] from rfl,
    onData_of_done _ hAgain]
  rfl

/-- With a sink that stops after the error, the two agree. -/
theorem feed_eq_onData_rsv3 :
    feed closingEnv {} [] [[0x90, 0x00], [0x00]] = onData closingEnv {} [0x90, 0x00, 0x00] :=
  feed_eq_onData (fun t _ _ => by simp [closingEnv, Call.endsConnection]) {} [] [0x90, 0x00] [[0x00]]

end Receiver
end Libwsc
