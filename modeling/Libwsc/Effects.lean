import Mathlib.Logic.Relation
import Libwsc.Violations
import Libwsc.CloseFrame

/-! What one frame can do to a `WebSocketReceiver`, said once. A handler makes moves that end
nothing: calls on the sink or the validator, `rxInflate`, `rxMaybeResetAfterMessage`, and the
three changes of the reassembly members (a message starts, its bytes change, it ends). At most
one call that ends the connection follows, and it is the handler's last. Every invariant of the
data path is then a fact about these moves, proved once for each. -/
namespace Libwsc

/-- The calls that go to zlib. -/
def Call.onZlib : Call → Bool
  | .inflateInit2 .. | .inflateEnd | .inflateReset | .inflate .. | .deflateInit2 .. | .deflateEnd
  | .deflateReset | .deflateBound .. | .deflate .. => true
  | _ => false

/-- The calls that reach the sink. -/
def Call.isSink : Call → Bool
  | .onRxPing _ | .onRxClose .. | .onRxProtocolError .. | .onRxText _ | .onRxBinary _ => true
  | _ => false

/-- What the sink may be told: a ping's payload fits a control frame, a close carries a
permitted code and a well-formed reason of at most 123 bytes, and a protocol error is 1002 or
1007. -/
def Call.Sound : Call → Prop
  | .onRxPing payload => payload.length ≤ 125
  | .onRxClose code reason =>
    Receiver.PermittedCloseCode code ∧ Utf8Octets reason ∧ reason.length ≤ 123
  | .onRxProtocolError code _ => code = 1002 ∨ code = 1007
  | _ => True

/-- The calls on the inflate stream. -/
def Call.onInflate : Call → Bool
  | .inflateInit2 .. | .inflateEnd | .inflateReset | .inflate .. => true
  | _ => false

/-- What a handler may call short of ending the connection: nothing that ends it, only what the
sink may be told, and of zlib only the inflate stream. -/
def Call.Tame (c : Call) : Prop :=
  c.endsConnection = false ∧ c.Sound ∧ (c.onZlib = true → c.onInflate = true)

theorem Call.onZlib_of_onInflate {c : Call} (h : c.onInflate = true) : c.onZlib = true := by
  cases c <;> first | rfl | cases h

/-- The calls on the deflate stream. -/
def Call.onDeflate : Call → Bool
  | .deflateInit2 .. | .deflateEnd | .deflateReset | .deflateBound .. | .deflate .. => true
  | _ => false

theorem Call.onZlib_of_onDeflate {c : Call} (h : c.onDeflate = true) : c.onZlib = true := by
  cases c <;> first | rfl | cases h

/-- A zlib call ends nothing and reaches no sink. -/
theorem Call.quiet_of_onZlib {c : Call} (h : c.onZlib = true) :
    c.endsConnection = false ∧ c.isSink = false ∧ c.Sound := by
  cases c <;> first | exact ⟨rfl, rfl, trivial⟩ | cases h

theorem Call.tame_of_onInflate {c : Call} (h : c.onInflate = true) : c.Tame :=
  have hz := Call.quiet_of_onZlib (Call.onZlib_of_onInflate h)
  ⟨hz.1, hz.2.2, fun _ => h⟩

/-- An ending call is a sink call. -/
theorem Call.isSink_of_endsConnection {c : Call} (h : c.endsConnection = true) : c.isSink = true := by
  cases c <;> first | rfl | cases h

namespace Receiver

/-- The reassembly members. -/
def fragments (st : Receiver) : Bool × Bool × Nat × Bytes :=
  (st.messageInProgress, st.compressedMessageInProgress, st.fragmentedOpcode, st.fragmentedMessage)

@[simp] theorem fragments_call (st : Receiver) (c : Call) : (st.call c).fragments = st.fragments :=
  rfl

/-- The negotiated configuration and the transmit side: the deflate stream's flag,
`tx_compressed_buf` and `tx_payload_len`, which `txPrepare`'s `payload_ptr` points into. -/
def transmit (st : Receiver) : PerMessageDeflateConfig × Bool × Bytes × Nat :=
  (st.cfg, st.deflateInitialized, st.txCompressedBuf, st.txPayloadLen)

/-- What the receive side of compression keeps: the reassembly members and the transmit side. -/
def rxKeep (st : Receiver) : (Bool × Bool × Nat × Bytes) × PerMessageDeflateConfig × Bool × Bytes × Nat :=
  (fragments st, transmit st)

/-- `st'` is `st` after calls that `p` admits, with what `keep` reads unchanged. -/
structure Confined {α : Type} (p : Call → Prop) (keep : Receiver → α) (st st' : Receiver) :
    Prop where
  calls : ∃ cs, st'.trace = st.trace ++ cs ∧ ∀ c ∈ cs, p c
  keeps : keep st' = keep st

section Confined

variable {α : Type} {p : Call → Prop} {keep : Receiver → α} {st s s' : Receiver}

theorem Confined.refl (st : Receiver) : Confined p keep st st := ⟨⟨[], by simp, by simp⟩, rfl⟩

theorem Confined.call (h : Confined p keep st s) {c : Call} (hc : p c)
    (hk : keep (s.call c) = keep s) : Confined p keep st (s.call c) := by
  obtain ⟨⟨cs, hT, hcs⟩, hK⟩ := h
  refine ⟨⟨cs ++ [c], by simp [hT], ?_⟩, hk.trans hK⟩
  simpa [or_imp, forall_and] using ⟨hcs, hc⟩

/-- A record update that leaves the trace and what `keep` reads alone. -/
theorem Confined.set (h : Confined p keep st s) (hT : s'.trace = s.trace) (hK : keep s' = keep s) :
    Confined p keep st s' :=
  ⟨hT ▸ h.calls, hK.trans h.keeps⟩

theorem Confined.trans (h : Confined p keep st s) (h' : Confined p keep s s') :
    Confined p keep st s' := by
  obtain ⟨⟨cs, hT, hcs⟩, hK⟩ := h
  obtain ⟨⟨cs', hT', hcs'⟩, hK'⟩ := h'
  refine ⟨⟨cs ++ cs', by simp [hT', hT], ?_⟩, hK'.trans hK⟩
  simpa [or_imp, forall_and] using ⟨hcs, hcs'⟩

theorem Confined.weaken {β : Type} {q : Call → Prop} {keep' : Receiver → β}
    (hpq : ∀ c, p c → q c) (hk : ∀ s s', keep s' = keep s → keep' s' = keep' s)
    (h : Confined p keep st s) : Confined q keep' st s := by
  obtain ⟨⟨cs, hT, hcs⟩, hK⟩ := h
  exact ⟨⟨cs, hT, fun c hc => hpq c (hcs c hc)⟩, hk _ _ hK⟩

end Confined

variable (env : Env)

/-! ### The receive side of compression -/

theorem rxInitInflate_confined (st : Receiver) :
    Confined (Call.onInflate · = true) rxKeep st (rxInitInflate env st).2 := by
  have h : Confined (Call.onInflate · = true) rxKeep st
      (st.call (.inflateInit2 (-st.cfg.serverMaxWindowBits)
        (env.zlib.inflateInit2 st.trace (-st.cfg.serverMaxWindowBits)))) :=
    (Confined.refl st).call rfl rfl
  unfold rxInitInflate
  dsimp only
  split_ifs
  · exact h
  · exact h.set rfl rfl

theorem rxMaybeResetAfterMessage_confined (st : Receiver) :
    Confined (Call.onInflate · = true) rxKeep st (rxMaybeResetAfterMessage env st) := by
  have h : Confined (Call.onInflate · = true) rxKeep st
      { st.call .inflateEnd with inflateInitialized := false } :=
    Confined.set ((Confined.refl st).call (c := .inflateEnd) rfl rfl) rfl rfl
  unfold rxMaybeResetAfterMessage rxResetInflate
  split_ifs
  · exact .refl st
  · exact h.trans (rxInitInflate_confined env _)
  · exact .refl st

theorem rxInflate_confined (st : Receiver) (input : Bytes) :
    Confined (Call.onInflate · = true) rxKeep st (rxInflate env st input).2.2 := by
  unfold rxInflate
  split_ifs
  · exact .refl st
  all_goals
    refine inflateLoop_inv (Confined (Call.onInflate · = true) rxKeep st)
      (fun _ _ h => h.call rfl rfl) _ _ _ ?_
  · exact (Confined.refl st).call rfl rfl
  · exact .refl st

/-- One thing a handler does short of ending the connection. -/
inductive Move : Receiver → Receiver → Prop where
  /-- A call on the sink or the validator that ends nothing. -/
  | call {st : Receiver} {c : Call} (hz : c.onZlib = false) (hEnd : c.endsConnection = false)
      (hc : c.Sound) : Move st (st.call c)
  | inflate (st : Receiver) (input : Bytes) : Move st (rxInflate env st input).2.2
  | reset (st : Receiver) : Move st (rxMaybeResetAfterMessage env st)
  /-- The first frame of a fragmented text or binary message, with none in progress. -/
  | start {st : Receiver} (hIdle : st.messageInProgress = false) {opcode : Nat}
      (hO : opcode = 1 ∨ opcode = 2) (compressed : Bool) (msg : Bytes) :
      Move st (st.withFragments true compressed opcode msg)
  /-- The bytes of the message in progress change. -/
  | update {st : Receiver} (hIn : st.messageInProgress = true) (msg : Bytes) :
      Move st { st with fragmentedMessage := msg }
  | clear (st : Receiver) : Move st (clearFragments st)

/-- Moves, one after another. -/
abbrev Moves : Receiver → Receiver → Prop := Relation.ReflTransGen (Move env)

/-- A handler's work: moves, then at most one call that ends the connection. -/
def Handled (st st' : Receiver) : Prop :=
  ∃ s, Moves env st s ∧
    (st' = s ∨ ∃ c, c.onZlib = false ∧ c.endsConnection = true ∧ c.Sound ∧ st' = s.call c)

/-- One pass of `onData`'s loop that changes the receiver: the sink was not terminating, and a
frame was handled or refused. -/
def Pass (st st' : Receiver) : Prop :=
  env.sink.rxIsTerminating st.trace = false ∧ Handled env st st'

variable {env}

/-! ### Building blocks -/

theorem Moves.call {st : Receiver} {c : Call} (hz : c.onZlib = false)
    (hEnd : c.endsConnection = false) (hc : c.Sound) : Moves env st (st.call c) :=
  .single (.call hz hEnd hc)

theorem Moves.utf8Reset (st : Receiver) : Moves env st st.utf8Reset :=
  Moves.call rfl rfl trivial

theorem Moves.validateChunk (st : Receiver) (p : Bytes) :
    Moves env st (st.validateChunk env p).2 :=
  Moves.call rfl rfl trivial

theorem Moves.validateFinal (st : Receiver) : Moves env st (st.validateFinal env).2 :=
  Moves.call rfl rfl trivial

theorem Moves.validateMessage (st : Receiver) (msg : Bytes) :
    Moves env st (validateMessage env st msg).2 := by
  unfold Receiver.validateMessage
  have h1 := (@Moves.utf8Reset env st).trans (Moves.validateChunk _ msg)
  rcases hv : st.utf8Reset.validateChunk env msg with ⟨_ | _, s⟩ <;> rw [hv] at h1
  · exact h1
  · exact h1.trans (Moves.validateFinal s)

theorem Handled.of_moves {st st' : Receiver} (h : Moves env st st') : Handled env st st' :=
  ⟨st', h, .inl rfl⟩

/-- Moves before a handler's work are part of it. -/
theorem Handled.head {st s st' : Receiver} (h : Moves env st s) (h' : Handled env s st') :
    Handled env st st' := by
  obtain ⟨s', hs', hEnd⟩ := h'
  exact ⟨s', h.trans hs', hEnd⟩

theorem Handled.fail {st s : Receiver} (h : Moves env st s) {code : Nat}
    (hCode : code = 1002 ∨ code = 1007) (why : String) : Handled env st (s.fail code why) :=
  ⟨s, h, .inr ⟨.onRxProtocolError code why, rfl, rfl, hCode, rfl⟩⟩

/-! ### Closing -/

/-- Whatever the payload, the close `handleCloseFrame` reports is one the sink may be told. -/
theorem closeFields_sound (payload : Bytes) :
    (closeFields payload).2.2 = false →
      PermittedCloseCode (closeFields payload).1 ∧ Utf8Octets (closeFields payload).2.1 ∧
        (closeFields payload).2.1.length ≤ 123 := by
  unfold closeFields
  by_cases hLong : payload.length > 125
  · rw [if_pos hLong]; nofun
  by_cases hOne : payload.length = 1
  · rw [if_neg hLong, if_pos hOne]; nofun
  rw [if_neg hLong, if_neg hOne]
  by_cases hTwo : payload.length ≥ 2
  swap
  · rw [if_neg hTwo]
    exact fun _ => ⟨.inl ⟨le_refl _, by omega⟩, .nil, by simp⟩
  rw [if_pos hTwo]
  dsimp only
  by_cases hV : validCloseCode (be16 (payload.getD 0 0) (payload.getD 1 0)) = true
  swap
  · rw [if_neg hV]; dsimp only; split_ifs <;> nofun
  have hP := (validCloseCode_iff _).mp hV
  rw [if_pos hV]
  dsimp only
  split_ifs with hMore hBad
  · nofun
  · intro _
    have hLen : min (payload.length - 2) 123 ≤ (payload.drop 2).length := by
      simp only [List.length_drop]; omega
    refine ⟨hP, (isValidUtf8_iff hLen).mp (by simpa using hBad), ?_⟩
    simp only [List.length_take]; omega
  · exact fun _ => ⟨hP, .nil, by simp⟩

theorem handleCloseFrame_handled (st : Receiver) (payload : Bytes) :
    Handled env st (handleCloseFrame st payload) := by
  have hSound : (Call.onRxClose
      (if (closeFields payload).2.2 then 1002 else (closeFields payload).1)
      (if (closeFields payload).2.2 then [] else (closeFields payload).2.1)).Sound := by
    cases hErr : (closeFields payload).2.2
    · simpa [Call.Sound, hErr] using closeFields_sound payload hErr
    · rw [if_pos rfl, if_pos rfl]; exact ⟨.inl ⟨by decide, by decide⟩, .nil, by simp⟩
  exact ⟨st, .refl, .inr ⟨.onRxClose _ _, rfl, rfl, hSound, rfl⟩⟩

theorem handlePingFrame_handled (st : Receiver) (payload : Bytes) :
    Handled env st (handlePingFrame st payload) := by
  unfold handlePingFrame
  split_ifs with hLong
  · exact .fail .refl (.inl rfl) _
  · exact .of_moves (Moves.call (c := .onRxPing payload) rfl rfl (by simpa [Call.Sound] using hLong))

/-! ### Data -/

theorem deliverMessage_handled (st : Receiver) (opcode : Nat) (msg : Bytes) :
    Handled env st (deliverMessage env st opcode msg) := by
  unfold deliverMessage
  split_ifs
  · have h := @Moves.validateMessage env st msg
    rcases hv : validateMessage env st msg with ⟨_ | _, s⟩ <;> rw [hv] at h
    · exact .fail (h.trans (Moves.utf8Reset s)) (.inr rfl) _
    · exact .of_moves (h.trans (Moves.call (c := .onRxText msg) rfl rfl trivial))
  · exact .of_moves (Moves.call (c := .onRxBinary msg) rfl rfl trivial)
  · exact .fail .refl (.inl rfl) _

theorem deliverFragmentedMessage_handled (st : Receiver) :
    Handled env st (deliverFragmentedMessage env st) := by
  unfold deliverFragmentedMessage
  split
  · obtain ⟨ok, s, h, hv⟩ : ∃ ok s, Moves env st s ∧ (if st.compressedMessageInProgress then
        validateMessage env st st.fragmentedMessage else st.validateFinal env) = (ok, s) := by
      split_ifs
      · exact ⟨_, _, Moves.validateMessage st _, rfl⟩
      · exact ⟨_, _, Moves.validateFinal st, rfl⟩
    rw [hv]
    cases ok
    · exact .fail (h.trans (Moves.utf8Reset s)) (.inr rfl) _
    · exact .of_moves (((h.trans (Moves.utf8Reset s)).trans
        (Moves.call (c := .onRxText s.fragmentedMessage) rfl rfl trivial)).tail (.clear _))
  · exact .of_moves ((Moves.call (c := .onRxBinary st.fragmentedMessage) rfl rfl trivial).tail
      (.clear _))
  · exact .fail .refl (.inl rfl) _

theorem handleContinuationFrame_handled (st : Receiver) (payload : Bytes) (fin : Bool) :
    Handled env st (handleContinuationFrame env st payload fin) := by
  unfold handleContinuationFrame
  by_cases hIdle : st.messageInProgress = false
  · rw [if_pos (by simp [hIdle])]
    exact .fail .refl (.inl rfl) _
  rw [if_neg (by simpa using hIdle)]
  simp only [Bool.not_eq_false] at hIdle
  have h1 : Moves env st { st with fragmentedMessage := st.fragmentedMessage ++ payload } :=
    .single (.update hIdle _)
  generalize hs1 : ({ st with fragmentedMessage := st.fragmentedMessage ++ payload } : Receiver) = s1
    at h1
  dsimp only
  have hIn1 : s1.messageInProgress = true := hs1 ▸ hIdle
  obtain ⟨ok, s2, h2, hIn2, hv⟩ : ∃ ok s2, Moves env st s2 ∧ s2.messageInProgress = true ∧
      (if !s1.compressedMessageInProgress && s1.fragmentedOpcode == 1 then
        s1.validateChunk env payload else (true, s1)) = (ok, s2) := by
    split_ifs
    · exact ⟨_, _, h1.trans (Moves.validateChunk s1 payload), hIn1, rfl⟩
    · exact ⟨_, _, h1, hIn1, rfl⟩
  rw [hv]
  dsimp only
  cases ok
  · exact .fail (h2.trans (Moves.utf8Reset s2)) (.inr rfl) _
  cases fin
  · exact .of_moves h2
  simp only [Bool.not_true, Bool.false_eq_true, if_false]
  split_ifs
  · have h3 := h2.tail (.inflate s2 s2.fragmentedMessage)
    have hIn3 := (@rxInflate_fragments env s2 s2.fragmentedMessage).1.trans hIn2
    rcases hr : rxInflate env s2 s2.fragmentedMessage with ⟨_ | _, out, s3⟩ <;> rw [hr] at h3 hIn3
    · exact .fail (h3.trans (Moves.utf8Reset s3)) (.inr rfl) _
    · exact .head ((h3.tail (.update hIn3 out)).tail (.reset _))
        (deliverFragmentedMessage_handled _)
  · exact .head h2 (deliverFragmentedMessage_handled s2)

theorem handleDataFrame_handled (st : Receiver) (payload : Bytes) (fin : Bool) {opcode : Nat}
    (hO : opcode = 1 ∨ opcode = 2) (rsv1 : Bool) :
    Handled env st (handleDataFrame env st payload fin opcode rsv1) := by
  unfold handleDataFrame
  split_ifs with hBusy hFin
  · exact .fail .refl (.inl rfl) _
  · simp only [Bool.not_eq_true] at hBusy
    have h1 : Moves env st (st.withFragments true (rsv1 && env.sink.rxCompressionEnabled st.trace)
        opcode payload) := .single (.start hBusy hO _ _)
    simp only [mk_eq_withFragments]
    split_ifs
    · have h2 := (h1.trans (Moves.utf8Reset _)).trans (Moves.validateChunk _ payload)
      rcases hv : (st.withFragments true (rsv1 && env.sink.rxCompressionEnabled st.trace) opcode
          payload).utf8Reset.validateChunk env payload with ⟨_ | _, s⟩ <;> rw [hv] at h2
      · exact .fail (h2.trans (Moves.utf8Reset s)) (.inr rfl) _
      · exact .of_moves h2
    · exact .of_moves h1
  · dsimp only
    split_ifs
    · have h1 : Moves env st (rxInflate env st payload).2.2 := .single (.inflate st payload)
      rcases hr : rxInflate env st payload with ⟨_ | _, msg, s⟩ <;> rw [hr] at h1
      · exact .fail h1 (.inr rfl) _
      · exact .head (h1.tail (.reset s)) (deliverMessage_handled _ _ _)
    · exact deliverMessage_handled st opcode payload

/-- Every frame `onData` hands to the `switch (opcode)` is handled by moves and at most one
ending call. -/
theorem handleFrame_handled {st st' : Receiver} {fin rsv1 : Bool} {opcode : Nat}
    {payload : Bytes} (h : handleFrame env st fin rsv1 opcode payload = some st') :
    Handled env st st' := by
  unfold handleFrame at h
  split at h <;> cases h
  · exact handleContinuationFrame_handled st payload fin
  · exact handleDataFrame_handled st payload fin (.inl rfl) rsv1
  · exact handleDataFrame_handled st payload fin (.inr rfl) rsv1
  · exact handleCloseFrame_handled st payload
  · exact handlePingFrame_handled st payload
  · exact .of_moves .refl

/-! ### `onData` -/

/-- A pass that ends the loop leaves the receiver as it was, or refuses the frame. -/
theorem onDataStep_done {st st' : Receiver} {buf : Bytes} (h : onDataStep env st buf = .done st') :
    st' = st ∨ Pass env st st' := by
  unfold onDataStep at h
  split_ifs at h with hTerm
  · cases h; exact .inl rfl
  simp only [Bool.not_eq_true] at hTerm
  split at h <;> try cases h
  · exact .inl rfl
  · exact .inr ⟨hTerm, .fail .refl (.inl rfl) _⟩
  · split at h <;> cases h
    exact .inr ⟨hTerm, .fail .refl (.inl rfl) _⟩

theorem onDataStep_next {st st' : Receiver} {buf rest : Bytes}
    (h : onDataStep env st buf = .next st' rest) : Pass env st st' := by
  unfold onDataStep at h
  split_ifs at h with hTerm
  simp only [Bool.not_eq_true] at hTerm
  split at h <;> try cases h
  split at h <;> cases h
  exact ⟨hTerm, handleFrame_handled ‹_›⟩

/-- `onData` is a sequence of passes, each from a state whose sink was not terminating. -/
theorem onData_passes {st st' : Receiver} {buf rest : Bytes}
    (h : onData env st buf = some (st', rest)) : Relation.ReflTransGen (Pass env) st st' := by
  induction' hn : buf.length using Nat.strong_induction_on with n ih generalizing st buf
  rcases hs : onDataStep env st buf with s | ⟨s, r⟩ | _
  · rw [onData_of_done env hs] at h
    cases h
    rcases onDataStep_done hs with rfl | hPass
    · exact .refl
    · exact .single hPass
  · rw [onData_of_next env hs] at h
    exact .head (onDataStep_next hs)
      (ih _ (hn ▸ by have := onDataStep_next_length env hs; omega) h rfl)
  · rw [onData_of_abort env hs] at h
    cases h

/-! ### From one move to a run of `onData` -/

section Lift

variable (P : Receiver → Prop)

/-- What every move keeps and every ending call keeps, a handler's work keeps. -/
theorem Handled.inv (hMove : ∀ {s s'}, Move env s s' → P s → P s')
    (hEnd : ∀ s c, c.onZlib = false → c.endsConnection = true → P s → P (s.call c))
    {st st' : Receiver} (h : Handled env st st') (hP : P st) : P st' := by
  obtain ⟨s, hm, hE⟩ := h
  have hs : P s := by
    clear hE
    induction hm with
    | refl => exact hP
    | tail _ hLast ih => exact hMove hLast ih
  rcases hE with rfl | ⟨c, hz, hEnd', -, rfl⟩
  · exact hs
  · exact hEnd s c hz hEnd' hs

/-- What every pass keeps, `onData` keeps. -/
theorem onData_inv (hPass : ∀ {s s'}, Pass env s s' → P s → P s') {st st' : Receiver}
    {buf rest : Bytes} (h : onData env st buf = some (st', rest)) (hP : P st) : P st' := by
  have hr := onData_passes h
  clear h
  induction hr with
  | refl => exact hP
  | tail _ hLast ih => exact hPass hLast ih

end Lift

/-! ### What a handler calls, and what it leaves alone -/

/-- Every move makes only tame calls and leaves the transmit side alone. -/
theorem Move.confined {st st' : Receiver} (h : Move env st st') :
    Confined Call.Tame transmit st st' := by
  cases h with
  | call hz hEnd hc =>
    exact (Confined.refl _).call ⟨hEnd, hc, fun hz' => absurd (hz.symm.trans hz') Bool.false_ne_true⟩
      rfl
  | inflate input =>
    exact (rxInflate_confined env _ input).weaken (fun _ => Call.tame_of_onInflate)
      fun _ _ h => congrArg Prod.snd h
  | reset =>
    exact (rxMaybeResetAfterMessage_confined env _).weaken (fun _ => Call.tame_of_onInflate)
      fun _ _ h => congrArg Prod.snd h
  | start => exact (Confined.refl _).set rfl rfl
  | update => exact (Confined.refl _).set rfl rfl
  | clear => exact (Confined.refl _).set rfl rfl

theorem Moves.confined {st st' : Receiver} (h : Moves env st st') :
    Confined Call.Tame transmit st st' := by
  induction h with
  | refl => exact .refl _
  | tail _ hLast ih => exact ih.trans hLast.confined

/-- A handler's calls: tame ones, then at most one more, which is sound and not on zlib. -/
theorem Handled.trace {st st' : Receiver} (h : Handled env st st') :
    ∃ cs e, st'.trace = st.trace ++ cs ++ e ∧ (∀ c ∈ cs, c.Tame) ∧ e.length ≤ 1 ∧
      ∀ c ∈ e, c.Sound ∧ c.onZlib = false := by
  obtain ⟨s, hm, hE⟩ := h
  obtain ⟨⟨cs, hT, hcs⟩, -⟩ := hm.confined
  rcases hE with rfl | ⟨c, hz, -, hc, rfl⟩
  · exact ⟨cs, [], by simp [hT], hcs, by simp, by simp⟩
  · exact ⟨cs, [c], by simp [hT], hcs, by simp, by simp [hc, hz]⟩

/-- A handler leaves the transmit side alone and calls zlib only on the inflate stream. -/
theorem Handled.confined {st st' : Receiver} (h : Handled env st st') :
    Confined (fun c => c.onZlib = true → c.onInflate = true) transmit st st' :=
  Handled.inv (Confined _ transmit st)
    (fun hm h => h.trans (hm.confined.weaken (fun _ hc => hc.2.2) fun _ _ h => h))
    (fun _ _ hz _ h => h.call (fun hz' => absurd (hz.symm.trans hz') Bool.false_ne_true) rfl) h
    (.refl st)

/-! ### The reassembly members -/

/-- The reassembly members agree: a message in progress is text or binary, and with none in
progress nothing is left of the last one. -/
structure Reassembly (st : Receiver) : Prop where
  opcode : st.messageInProgress = true → st.fragmentedOpcode = 1 ∨ st.fragmentedOpcode = 2
  idle : st.messageInProgress = false →
    st.compressedMessageInProgress = false ∧ st.fragmentedOpcode = 0 ∧ st.fragmentedMessage = []

theorem Reassembly.of_fragments {st st' : Receiver} (h : Reassembly st)
    (hF : fragments st' = fragments st) : Reassembly st' := by
  simp only [fragments, Prod.mk.injEq] at hF
  obtain ⟨h1, h2, h3, h4⟩ := hF
  exact ⟨by rw [h1, h3]; exact h.opcode, by rw [h1, h2, h3, h4]; exact h.idle⟩

theorem Move.reassembly {st st' : Receiver} (h : Move env st st') (hR : Reassembly st) :
    Reassembly st' := by
  cases h with
  | call => exact hR.of_fragments rfl
  | inflate input => exact hR.of_fragments (congrArg Prod.fst (rxInflate_confined env _ input).keeps)
  | reset => exact hR.of_fragments (congrArg Prod.fst (rxMaybeResetAfterMessage_confined env _).keeps)
  | start _ hO => exact ⟨fun _ => hO, fun h => by simp at h⟩
  | update hIn => exact ⟨fun _ => hR.opcode hIn, fun h => absurd (hIn.symm.trans h) Bool.noConfusion⟩
  | clear => exact ⟨fun h => by simp [clearFragments] at h, fun _ => ⟨rfl, rfl, rfl⟩⟩

theorem Handled.reassembly {st st' : Receiver} (h : Handled env st st') (hR : Reassembly st) :
    Reassembly st' :=
  Handled.inv Reassembly Move.reassembly (fun _ _ _ _ h => h.of_fragments rfl) h hR

end Receiver
end Libwsc
