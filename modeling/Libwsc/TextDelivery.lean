import Libwsc.Runs

/-! The text the receiver hands the sink. The validator's code is not among the sources: what
the receiver relies on is that `validateFinal()` answers true only when the bytes given to
`validateChunk` since the last `reset()` are well-formed UTF-8. With that, and a sink that reports
terminating once it has been told of a protocol error or a close, every `onRxText` of every run
carries well-formed UTF-8. The second cannot be dropped: with a sink that goes on after a 1007,
a text message whose first fragment the validator refused is still reassembled, checked from its
second fragment on, and delivered. -/
namespace Libwsc

/-- A call that hands the sink text hands it well-formed UTF-8. -/
def Call.TextOk (c : Call) : Prop := ∀ m, c = .onRxText m → Utf8Octets m

theorem Call.textOk_of_onZlib {c : Call} (hz : c.onZlib = true) : c.TextOk := by
  rintro m rfl
  cases hz

namespace Receiver

/-! ### What the validator has been given -/

/-- What a call does to the bytes given to the validator since its last `reset()`. -/
def feedValidator (acc : Bytes) : Call → Bytes
  | .utf8Reset => []
  | .validateChunk p _ => acc ++ p
  | _ => acc

/-- The bytes given to the validator since its last `reset()`. -/
def sinceReset (t : List Call) : Bytes := t.foldl feedValidator []

@[simp] theorem sinceReset_append (t s : List Call) :
    sinceReset (t ++ s) = s.foldl feedValidator (sinceReset t) :=
  List.foldl_append _ _ _ _

/-- Calls that do not touch the validator leave what it has been given alone. -/
theorem foldl_feedValidator_of {cs : List Call} (h : ∀ c ∈ cs, ∀ acc, feedValidator acc c = acc)
    (acc : Bytes) : cs.foldl feedValidator acc = acc := by
  induction cs generalizing acc with
  | nil => rfl
  | cons c cs ih =>
    rw [List.foldl_cons, h c (List.mem_cons_self c cs)]
    exact ih (fun d hd => h d (List.mem_cons_of_mem c hd)) acc

theorem feedValidator_of_onZlib {c : Call} (hz : c.onZlib = true) (acc : Bytes) :
    feedValidator acc c = acc := by
  cases c <;> first | rfl | cases hz

/-- An uncompressed text message in reassembly, whose fragments are checked as they arrive. -/
def Tracked (st : Receiver) : Prop :=
  st.messageInProgress = true ∧ st.fragmentedOpcode = 1 ∧ st.compressedMessageInProgress = false

theorem not_tracked_of_idle {st : Receiver} (h : st.messageInProgress = false) : ¬Tracked st :=
  fun hT => Bool.false_ne_true (h.symm.trans hT.1)

/-- Every text so far was well formed; and while the connection is live, the validator has been
given since its last reset exactly the uncompressed text message being reassembled. -/
structure TextSound (st : Receiver) : Prop where
  delivered : ∀ c ∈ st.trace, c.TextOk
  fed : st.trace.any Call.endsConnection = false → Tracked st →
    sinceReset st.trace = st.fragmentedMessage

theorem textSound_empty : TextSound {} :=
  ⟨fun _ h => absurd h (List.not_mem_nil _), fun _ h => absurd h (not_tracked_of_idle rfl)⟩

/-! ### One step at a time -/

section Steps

variable {st : Receiver}

theorem all_textOk_call {t : List Call} (h : ∀ c ∈ t, c.TextOk) {c : Call} (hc : c.TextOk) :
    ∀ d ∈ t ++ [c], d.TextOk := fun d hd =>
  (List.mem_append.mp hd).elim (h d) fun hd => List.mem_singleton.mp hd ▸ hc

theorem Confined.textOk {α : Type} {p : Call → Prop} {keep : Receiver → α} {st' : Receiver}
    (hc : Confined p keep st st') (hp : ∀ c, p c → c.TextOk) (h : ∀ c ∈ st.trace, c.TextOk) :
    ∀ c ∈ st'.trace, c.TextOk := by
  obtain ⟨⟨cs, hT, hcs⟩, -⟩ := hc
  intro c hc
  rw [hT] at hc
  exact (List.mem_append.mp hc).elim (h c) fun hc => hp c (hcs c hc)

theorem Confined.zlibTextOk {α : Type} {keep : Receiver → α} {st' : Receiver}
    (hc : Confined OnZlib keep st st') (h : ∀ c ∈ st.trace, c.TextOk) :
    ∀ c ∈ st'.trace, c.TextOk :=
  hc.textOk (fun _ => Call.textOk_of_onZlib) h

theorem live_of_append {t s : List Call} (h : (t ++ s).any Call.endsConnection = false) :
    t.any Call.endsConnection = false := by
  rw [List.any_append, Bool.or_eq_false_iff] at h
  exact h.1

/-- A state with no uncompressed text in reassembly only needs its texts well formed. -/
theorem TextSound.of_untracked (hD : ∀ c ∈ st.trace, c.TextOk) (hT : ¬Tracked st) :
    TextSound st :=
  ⟨hD, fun _ h => absurd h hT⟩

/-- After a call that ends the connection only the texts matter. -/
theorem TextSound.ending (hD : ∀ c ∈ st.trace, c.TextOk) {c : Call}
    (hc : c.endsConnection = true) : TextSound (st.call c) :=
  ⟨all_textOk_call hD (by rintro m rfl; cases hc), fun hLive => by simp [hc] at hLive⟩

theorem TextSound.fail (hD : ∀ c ∈ st.trace, c.TextOk) (code : Nat) (why : String) :
    TextSound (st.fail code why) :=
  TextSound.ending hD rfl

/-- The handlers' refusals after a check: `utf8Validator.reset()`, then the error. -/
theorem TextSound.resetFail (hD : ∀ c ∈ st.trace, c.TextOk) (code : Nat) (why : String) :
    TextSound (st.utf8Reset.fail code why) :=
  TextSound.fail (all_textOk_call hD (by rintro _ ⟨⟩)) code why

/-- A call that gives the validator nothing and the sink no ill-formed text. -/
theorem TextSound.call (h : TextSound st) {c : Call} (hFeed : ∀ acc, feedValidator acc c = acc)
    (hc : c.TextOk) : TextSound (st.call c) :=
  ⟨all_textOk_call h.delivered hc, fun hLive hT => by
    rw [call_trace, sinceReset_append, List.foldl_cons, hFeed, List.foldl_nil]
    exact h.fed (live_of_append hLive) hT⟩

/-- Calls on zlib that leave the reassembly members alone: the methods of `Op`, `rxInflate` and
`rxMaybeResetAfterMessage`. -/
theorem TextSound.zlib (h : TextSound st) {st' : Receiver} (hc : Confined OnZlib fragments st st') :
    TextSound st' := by
  refine ⟨hc.zlibTextOk h.delivered, fun hLive hTr => ?_⟩
  obtain ⟨⟨cs, hT, hcs⟩, hK⟩ := hc
  simp only [fragments, Prod.mk.injEq] at hK
  obtain ⟨hIn, hComp, hOp, hMsg⟩ := hK
  rw [hT] at hLive ⊢
  rw [sinceReset_append, foldl_feedValidator_of fun c hc => feedValidator_of_onZlib (hcs c hc),
    hMsg]
  exact h.fed (live_of_append hLive) ⟨hIn ▸ hTr.1, hOp ▸ hTr.2.1, hComp ▸ hTr.2.2⟩

end Steps

/-! ### The handlers -/

section Handlers

variable {env : Env} (hFinal : ∀ t, env.utf8.validateFinal t = true → Utf8Octets (sinceReset t))
  {st : Receiver}

include hFinal in
/-- `reset(); validateChunk(msg) && validateFinal()` passes only well-formed UTF-8, hands the sink
nothing, and leaves the reassembly members alone. -/
theorem validateMessage_text (st : Receiver) (msg : Bytes) :
    ((validateMessage env st msg).1 = true → Utf8Octets msg) ∧
      Confined Call.TextOk fragments st (validateMessage env st msg).2 := by
  have h1 : Confined Call.TextOk fragments st (st.utf8Reset.validateChunk env msg).2 :=
    ((Confined.refl st).call (by rintro _ ⟨⟩) (fragments_call _ _)).call (by rintro _ ⟨⟩)
      (fragments_call _ _)
  unfold validateMessage
  rcases hv : st.utf8Reset.validateChunk env msg with ⟨_ | _, s⟩ <;> rw [hv] at h1
  · exact ⟨nofun, h1⟩
  · refine ⟨fun hOk => ?_, h1.call (by rintro _ ⟨⟩) (fragments_call _ _)⟩
    simp only [validateChunk, Prod.mk.injEq] at hv
    obtain ⟨-, rfl⟩ := hv
    simpa [feedValidator, utf8Reset] using hFinal _ hOk

include hFinal in
/-- The delivery of a whole message, from `handleDataFrame` with none in progress. -/
theorem deliverMessage_textSound (h : ∀ c ∈ st.trace, c.TextOk)
    (hIdle : st.messageInProgress = false) (opcode : Nat) (msg : Bytes) :
    TextSound (deliverMessage env st opcode msg) := by
  unfold deliverMessage
  split_ifs
  · obtain ⟨hOk, hC⟩ := validateMessage_text hFinal st msg
    have hIdle' : (validateMessage env st msg).2.messageInProgress = false :=
      (congrArg (·.1) hC.keeps).trans hIdle
    have hD := hC.textOk (fun _ => id) h
    rcases hv : validateMessage env st msg with ⟨_ | _, s⟩ <;> rw [hv] at hOk hIdle' hD
    · exact .resetFail hD _ _
    · exact .of_untracked (all_textOk_call hD (by rintro m ⟨⟩; exact hOk rfl))
        (not_tracked_of_idle hIdle')
  · exact .of_untracked (all_textOk_call h (by rintro _ ⟨⟩)) (not_tracked_of_idle hIdle)
  · exact TextSound.fail h _ _

include hFinal in
/-- The delivery of a reassembled message: for uncompressed text, `validateFinal()` on what the
validator was given, which is the message. -/
theorem deliverFragmentedMessage_textSound (h : ∀ c ∈ st.trace, c.TextOk)
    (hFed : st.fragmentedOpcode = 1 → st.compressedMessageInProgress = false →
      sinceReset st.trace = st.fragmentedMessage) :
    TextSound (deliverFragmentedMessage env st) := by
  unfold deliverFragmentedMessage
  split
  · rename_i hOp
    obtain ⟨hOk, hC⟩ : ((if st.compressedMessageInProgress then
          validateMessage env st st.fragmentedMessage else st.validateFinal env).1 = true →
          Utf8Octets st.fragmentedMessage) ∧
        Confined Call.TextOk fragments st (if st.compressedMessageInProgress then
          validateMessage env st st.fragmentedMessage else st.validateFinal env).2 := by
      split_ifs with hComp
      · exact validateMessage_text hFinal st _
      · refine ⟨fun hOk => ?_, (Confined.refl st).call (by rintro _ ⟨⟩) (fragments_call _ _)⟩
        rw [← hFed hOp (by simpa using hComp)]
        exact hFinal st.trace hOk
    have hD := hC.textOk (fun _ => id) h
    rcases hv : (if st.compressedMessageInProgress then
        validateMessage env st st.fragmentedMessage else st.validateFinal env) with ⟨_ | _, s⟩ <;>
      rw [hv] at hOk hC hD
    · exact .resetFail hD _ _
    · refine .of_untracked (all_textOk_call (all_textOk_call hD (by rintro _ ⟨⟩)) ?_)
        (not_tracked_of_idle rfl)
      have hMsg : s.fragmentedMessage = st.fragmentedMessage := congrArg (·.2.2.2) hC.keeps
      rintro m ⟨⟩
      exact hMsg ▸ hOk rfl
  · exact .of_untracked (all_textOk_call h (by rintro _ ⟨⟩)) (not_tracked_of_idle rfl)
  · exact TextSound.fail h _ _

include hFinal in
theorem handleContinuationFrame_textSound (h : TextSound st)
    (hLive : st.trace.any Call.endsConnection = false) (payload : Bytes) (fin : Bool) :
    TextSound (handleContinuationFrame env st payload fin) := by
  unfold handleContinuationFrame
  by_cases hIdle : st.messageInProgress = false
  · rw [if_pos (by simp [hIdle])]
    exact TextSound.fail h.delivered _ _
  rw [if_neg (by simpa using hIdle)]
  simp only [Bool.not_eq_false] at hIdle
  dsimp only
  obtain ⟨ok, s, hv, hD, hFed⟩ : ∃ ok s, (if !st.compressedMessageInProgress &&
        st.fragmentedOpcode == 1 then
        ({ st with fragmentedMessage := st.fragmentedMessage ++ payload } : Receiver).validateChunk
          env payload
      else (true, { st with fragmentedMessage := st.fragmentedMessage ++ payload })) = (ok, s) ∧
      (∀ c ∈ s.trace, c.TextOk) ∧ (s.fragmentedOpcode = 1 → s.compressedMessageInProgress = false →
        sinceReset s.trace = s.fragmentedMessage) := by
    split_ifs with hChk
    · simp only [Bool.and_eq_true, Bool.not_eq_true', beq_iff_eq] at hChk
      refine ⟨_, _, rfl, all_textOk_call h.delivered (by rintro _ ⟨⟩), fun _ _ => ?_⟩
      rw [call_trace, sinceReset_append, h.fed hLive ⟨hIdle, hChk.2, hChk.1⟩]
      rfl
    · refine ⟨_, _, rfl, h.delivered, fun hOp hComp => absurd ?_ hChk⟩
      simp only at hOp hComp
      simp [hOp, hComp]
  rw [hv]
  dsimp only
  cases ok
  · exact .resetFail hD _ _
  cases fin
  · exact ⟨hD, fun _ hT => hFed hT.2.1 hT.2.2⟩
  simp only [Bool.not_true, Bool.false_eq_true, if_false]
  split_ifs with hComp
  · have hC := (rxInflate_confined env s s.fragmentedMessage).ofRx
    rcases hr : rxInflate env s s.fragmentedMessage with ⟨_ | _, out, s3⟩ <;> rw [hr] at hC
    · exact .resetFail (hC.zlibTextOk hD) _ _
    · have hC' := (rxMaybeResetAfterMessage_confined env { s3 with fragmentedMessage := out }).ofRx
      have e : (rxMaybeResetAfterMessage env
          { s3 with fragmentedMessage := out }).compressedMessageInProgress =
          s.compressedMessageInProgress :=
        (congrArg (·.2.1) hC'.keeps).trans (congrArg (·.2.1) hC.keeps)
      exact deliverFragmentedMessage_textSound hFinal (hC'.zlibTextOk (hC.zlibTextOk hD))
        fun _ hComp' => absurd (hComp'.symm.trans (e.trans hComp)) Bool.false_ne_true
  · exact deliverFragmentedMessage_textSound hFinal hD hFed

include hFinal in
theorem handleDataFrame_textSound (h : TextSound st) (payload : Bytes) (fin : Bool) (opcode : Nat)
    (rsv1 : Bool) : TextSound (handleDataFrame env st payload fin opcode rsv1) := by
  unfold handleDataFrame
  split_ifs with hBusy hFin
  · exact TextSound.fail h.delivered _ _
  · dsimp only
    split_ifs with hText
    · split <;> rename_i hv <;> simp only [validateChunk, Prod.mk.injEq] at hv <;>
        obtain ⟨-, rfl⟩ := hv
      · exact .resetFail (all_textOk_call (all_textOk_call h.delivered (by rintro _ ⟨⟩))
          (by rintro _ ⟨⟩)) _ _
      · exact ⟨all_textOk_call (all_textOk_call h.delivered (by rintro _ ⟨⟩)) (by rintro _ ⟨⟩),
          fun _ _ => by simp [feedValidator, utf8Reset]⟩
    · refine .of_untracked h.delivered fun hT => hText ?_
      obtain ⟨-, hOp, hComp⟩ := hT
      simp only at hOp hComp
      simp [hOp, hComp]
  · dsimp only
    split_ifs
    · have hC := (rxInflate_confined env st payload).ofRx
      have hIdle := (congrArg (·.1) hC.keeps).trans (by simpa using hBusy)
      rcases hr : rxInflate env st payload with ⟨_ | _, msg, s⟩ <;> rw [hr] at hC hIdle
      · exact TextSound.fail (hC.zlibTextOk h.delivered) _ _
      · have hC' := (rxMaybeResetAfterMessage_confined env s).ofRx
        exact deliverMessage_textSound hFinal (hC'.zlibTextOk (hC.zlibTextOk h.delivered))
          ((congrArg (·.1) hC'.keeps).trans hIdle) _ _
    · exact deliverMessage_textSound hFinal h.delivered (by simpa using hBusy) _ _

include hFinal in
/-- Every frame the `switch (opcode)` handles from a live state. -/
theorem handleFrame_textSound (h : TextSound st) (hLive : st.trace.any Call.endsConnection = false)
    {st' : Receiver} {fin rsv1 : Bool} {opcode : Nat} {payload : Bytes}
    (hF : handleFrame env st fin rsv1 opcode payload = some st') : TextSound st' := by
  unfold handleFrame at hF
  split at hF <;> cases hF
  · exact handleContinuationFrame_textSound hFinal h hLive payload fin
  · exact handleDataFrame_textSound hFinal h payload fin 1 rsv1
  · exact handleDataFrame_textSound hFinal h payload fin 2 rsv1
  · unfold handleCloseFrame
    rcases closeFields payload with ⟨_, _, _⟩
    exact TextSound.ending h.delivered rfl
  · unfold handlePingFrame
    split_ifs
    · exact TextSound.fail h.delivered _ _
    · exact h.call (fun _ => rfl) (by rintro _ ⟨⟩)
  · exact h

end Handlers

/-! ### Every run -/

section Runs

variable {env : Env}

/-- A pass of `onData` that goes on handled a frame, with the sink not terminating. -/
theorem onDataStep_next_frame {st st' : Receiver} {buf rest : Bytes}
    (h : onDataStep env st buf = .next st' rest) :
    env.sink.rxIsTerminating st.trace = false ∧
      ∃ fin rsv1 opcode payload, handleFrame env st fin rsv1 opcode payload = some st' := by
  unfold onDataStep at h
  split_ifs at h with hTerm
  simp only [Bool.not_eq_true] at hTerm
  split at h <;> try cases h
  split at h <;> cases h
  exact ⟨hTerm, _, _, _, _, ‹_›⟩

/-- What holds before `onData`, and is kept by every frame handled and every frame refused while
the sink is not terminating, holds after. -/
theorem onData_frames_inv (P : Receiver → Prop)
    (hFrame : ∀ {s s' fin rsv1 opcode payload}, env.sink.rxIsTerminating s.trace = false →
      handleFrame env s fin rsv1 opcode payload = some s' → P s → P s')
    (hFail : ∀ {s why}, env.sink.rxIsTerminating s.trace = false → P s → P (s.fail 1002 why))
    {st st' : Receiver} {buf rest : Bytes} (h : onData env st buf = some (st', rest)) (hP : P st) :
    P st' := by
  induction' hn : buf.length using Nat.strong_induction_on with n ih generalizing st buf
  rcases hs : onDataStep env st buf with s | ⟨s, r⟩ | _
  · rw [onData_of_done env hs] at h
    cases h
    rcases onDataStep_done_cases hs with ⟨rfl, -⟩ | ⟨why, rfl, hLive, -⟩
    · exact hP
    · exact hFail hLive hP
  · rw [onData_of_next env hs] at h
    obtain ⟨hLive, _, _, _, _, hF⟩ := onDataStep_next_frame hs
    exact ih _ (hn ▸ by have := onDataStep_next_length env hs; omega) h (hFrame hLive hF hP) rfl
  · rw [onData_of_abort env hs] at h
    cases h

/-- With a validator whose `validateFinal()` is right whenever it says yes, and a sink that
reports terminating once it has been told of a protocol error or a close: over every run of
methods and `onData` calls, whatever zlib answers, every `onRxText` carries well-formed UTF-8. -/
theorem reachable_textWellFormed
    (hSink : ∀ t, t.any Call.endsConnection = true → env.sink.rxIsTerminating t = true)
    (hFinal : ∀ t, env.utf8.validateFinal t = true → Utf8Octets (sinceReset t))
    {st : Receiver} {buf : Bytes} (h : Reachable env st buf) :
    ∀ m, Call.onRxText m ∈ st.trace → Utf8Octets m := by
  have hLive : ∀ {s : Receiver}, env.sink.rxIsTerminating s.trace = false →
      s.trace.any Call.endsConnection = false := fun {s} hT => by
    cases hA : s.trace.any Call.endsConnection
    · rfl
    · rw [hSink _ hA] at hT; cases hT
  have hS : TextSound st := by
    induction h with
    | init => exact textSound_empty
    | op _ op ih => exact ih.zlib (Op.confined env _ op)
    | data _ _ hOn ih =>
      exact onData_frames_inv TextSound
        (fun hT hF hP => handleFrame_textSound hFinal hP (hLive hT) hF)
        (fun _ hP => TextSound.fail hP.delivered _ _) hOn ih
  exact fun m hm => hS.delivered _ hm m rfl

/-- `closingEnv` with a validator that accepts, at the end of a message, ASCII only. -/
def asciiFinalEnv : Env :=
  { closingEnv with
    utf8 := { validateChunk := fun _ _ => true
              validateFinal := fun t => (sinceReset t).all (·.toNat ≤ 0x7F) } }

theorem utf8Octets_of_ascii {s : Bytes} (h : (s.all fun b => b.toNat ≤ 0x7F) = true) :
    Utf8Octets s := by
  induction s with
  | nil => exact .nil
  | cons a s ih =>
    simp only [List.all_cons, Bool.and_eq_true, decide_eq_true_eq] at h
    exact (utf8Octets_cons_ascii h.1).mpr (ih h.2)

/-- `81 01 41`, the text `A` in one frame, from a new receiver. -/
theorem onData_textA :
    onData asciiFinalEnv {} [0x81, 0x01, 0x41] =
      some (((({} : Receiver).utf8Reset.call (.validateChunk [0x41] true)).call
        (.validateFinal true)).call (.onRxText [0x41]), []) := by
  have hText : onDataStep asciiFinalEnv {} [0x81, 0x01, 0x41] =
      .next (((({} : Receiver).utf8Reset.call (.validateChunk [0x41] true)).call
        (.validateFinal true)).call (.onRxText [0x41])) [] := rfl
  have hEmpty : onDataStep asciiFinalEnv (((({} : Receiver).utf8Reset.call
      (.validateChunk [0x41] true)).call (.validateFinal true)).call (.onRxText [0x41])) [] =
      .done (((({} : Receiver).utf8Reset.call (.validateChunk [0x41] true)).call
        (.validateFinal true)).call (.onRxText [0x41])) := rfl
  exact (onData_of_next asciiFinalEnv hText).trans (onData_of_done asciiFinalEnv hEmpty)

theorem reachable_textWellFormed_textA :
    (∀ t, t.any Call.endsConnection = true → asciiFinalEnv.sink.rxIsTerminating t = true) ∧
      (∀ t, asciiFinalEnv.utf8.validateFinal t = true → Utf8Octets (sinceReset t)) ∧
      Reachable asciiFinalEnv (((({} : Receiver).utf8Reset.call (.validateChunk [0x41] true)).call
        (.validateFinal true)).call (.onRxText [0x41])) [] ∧
      ∀ m, Call.onRxText m ∈ (((({} : Receiver).utf8Reset.call
        (.validateChunk [0x41] true)).call (.validateFinal true)).call (.onRxText [0x41])).trace →
        Utf8Octets m := by
  have hSink : ∀ t, t.any Call.endsConnection = true →
      asciiFinalEnv.sink.rxIsTerminating t = true := fun _ h => h
  have hFinal : ∀ t, asciiFinalEnv.utf8.validateFinal t = true → Utf8Octets (sinceReset t) :=
    fun _ h => utf8Octets_of_ascii h
  have hR := Reachable.data .init [0x81, 0x01, 0x41] onData_textA
  exact ⟨hSink, hFinal, hR, reachable_textWellFormed hSink hFinal hR⟩

end Runs

end Receiver
end Libwsc
