import Libwsc.Handlers

/-! What `handleCloseFrame` tells the sink. RFC 6455 §7.4 leaves 1004 to 1006 reserved and §7.1.6
wants the reason in UTF-8; the receiver answers anything else with 1002 and no reason. -/
namespace Libwsc
namespace Receiver

/-- The close codes a peer may send: 1000 to 1003, 1007 to 1011, and 3000 to 4999. -/
def PermittedCloseCode (k : Nat) : Prop :=
  (1000 ≤ k ∧ k ≤ 1003) ∨ (1007 ≤ k ∧ k ≤ 1011) ∨ (3000 ≤ k ∧ k ≤ 4999)

theorem validCloseCode_iff (k : Nat) : validCloseCode k = true ↔ PermittedCloseCode k := by
  simp only [validCloseCode, PermittedCloseCode, Bool.or_eq_true, Bool.and_eq_true,
    decide_eq_true_eq, bne_iff_ne, ne_eq]
  omega

/-- A reason of at most 123 bytes is checked and kept whole; an invalid code keeps it too, but
raises the protocol error. -/
theorem closeFields_cons_cons (b0 b1 : UInt8) (t : Bytes) (ht : t.length ≤ 123) :
    closeFields (b0 :: b1 :: t) =
      if isValidUtf8 t t.length then
        (if validCloseCode (be16 b0 b1) then (be16 b0 b1, t, false) else (1002, t, true))
      else (1002, [], true) := by
  unfold closeFields
  simp only [List.length_cons, List.getD_cons_zero, List.getD_cons_succ, List.drop_succ_cons,
    List.drop_zero]
  rw [if_neg (by omega), if_neg (by omega), if_pos (by omega)]
  cases t with
  | nil =>
    have hEmpty : isValidUtf8 [] 0 = true := by rw [isValidUtf8, isValidUtf8.go]; simp
    simp only [List.length_nil, hEmpty]
    cases validCloseCode (be16 b0 b1) <;> rfl
  | cons c t =>
    simp only [List.length_cons] at ht ⊢
    rw [if_pos (by omega), show min (t.length + 1 + 1 + 1 - 2) 123 = t.length + 1 by omega,
      List.take_of_length_le (by simp)]
    by_cases hU : isValidUtf8 (c :: t) (t.length + 1) = true <;>
      by_cases hV : validCloseCode (be16 b0 b1) = true <;> simp [hU, hV]

/-- `handleCloseFrame` makes exactly one call, `onRxClose`: `(1000, "")` for an empty payload,
`(1002, "")` for one byte, and otherwise the big-endian code and the rest as reason when the
code is permitted and the reason is well-formed UTF-8, `(1002, "")` when either is not. -/
theorem handleCloseFrame_reply (st : Receiver) (b : Bytes) (hb : b.length ≤ 125) :
    ∃ code reason, handleCloseFrame st b = st.call (.onRxClose code reason) ∧
      (b = [] → code = 1000 ∧ reason = []) ∧
      (b.length = 1 → code = 1002 ∧ reason = []) ∧
      (∀ b0 b1 t, b = b0 :: b1 :: t →
        (PermittedCloseCode (256 * b0.toNat + b1.toNat) ∧ Utf8Octets t →
          code = 256 * b0.toNat + b1.toNat ∧ reason = t) ∧
        (¬(PermittedCloseCode (256 * b0.toNat + b1.toNat) ∧ Utf8Octets t) →
          code = 1002 ∧ reason = [])) ∧
      PermittedCloseCode code ∧ Utf8Octets reason ∧ reason.length ≤ 123 := by
  have h1002 : PermittedCloseCode 1002 := .inl ⟨by omega, by omega⟩
  match b, hb with
  | [], _ =>
    exact ⟨1000, [], by simp [handleCloseFrame, closeFields], by simp, by simp, by simp,
      .inl ⟨le_refl _, by omega⟩, .nil, by simp⟩
  | [x], _ => exact ⟨1002, [], by simp [handleCloseFrame, closeFields], by simp, by simp,
      by simp, h1002, .nil, by simp⟩
  | b0 :: b1 :: t, hb =>
    have ht : t.length ≤ 123 := by simp at hb; omega
    have hUtf8 : isValidUtf8 t t.length = true ↔ Utf8Octets t := by
      simpa using isValidUtf8_iff (le_refl t.length)
    have hCode : be16 b0 b1 = 256 * b0.toNat + b1.toNat := by unfold be16; omega
    by_cases hOk : PermittedCloseCode (256 * b0.toNat + b1.toNat) ∧ Utf8Octets t
    · refine ⟨256 * b0.toNat + b1.toNat, t, ?_, by simp, by simp, ?_, hOk.1, hOk.2, ht⟩
      · have hV := (validCloseCode_iff _).mpr hOk.1
        simp [handleCloseFrame, closeFields_cons_cons b0 b1 t ht, hUtf8.mpr hOk.2, hV, hCode]
      · intro b0' b1' t' h
        simp only [List.cons.injEq] at h
        obtain ⟨rfl, rfl, rfl⟩ := h
        exact ⟨fun _ => ⟨rfl, rfl⟩, fun h => absurd hOk h⟩
    · refine ⟨1002, [], ?_, by simp, by simp, ?_, h1002, .nil, by simp⟩
      · by_cases hU : isValidUtf8 t t.length = true
        · have hV : validCloseCode (be16 b0 b1) = false := by
            rw [← Bool.not_eq_true, validCloseCode_iff, hCode]
            exact fun hP => hOk ⟨hP, hUtf8.mp hU⟩
          simp [handleCloseFrame, closeFields_cons_cons b0 b1 t ht, hU, hV]
        · simp [handleCloseFrame, closeFields_cons_cons b0 b1 t ht, hU]
      · intro b0' b1' t' h
        simp only [List.cons.injEq] at h
        obtain ⟨rfl, rfl, rfl⟩ := h
        exact ⟨fun h => absurd h hOk, fun _ => ⟨rfl, rfl⟩⟩

/-- A normal closure, `03 E8`, is passed on as 1000 with no reason. -/
theorem handleCloseFrame_normalClosure :
    handleCloseFrame {} [0x03, 0xE8] = ({} : Receiver).call (.onRxClose 1000 []) := by
  obtain ⟨code, reason, hCall, -, -, hTwo, -⟩ := handleCloseFrame_reply {} [0x03, 0xE8] (by decide)
  obtain ⟨rfl, rfl⟩ := (hTwo 0x03 0xE8 [] rfl).1 ⟨.inl ⟨by decide, by decide⟩, .nil⟩
  exact hCall

end Receiver
end Libwsc
