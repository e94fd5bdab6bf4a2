import Libwsc.Trace

/-! `WebSocketReceiver::isValidUtf8`, the check the receiver runs on close reasons, as the index
loop it is. Byte ranges are read through `toNat`, so each test of the loop is a comparison of
naturals. -/
namespace Libwsc

/-- `(b & 0xC0) == 0x80`: a continuation byte. -/
def isCont (b : UInt8) : Bool := b &&& 0xC0 == 0x80

/-- `isValidUtf8(bytes, len)`: walk `i` from `0`, reading `bytes[i]` and the bytes it needs
after it, and stop with `false` at the first sequence RFC 3629 does not allow. -/
def isValidUtf8 (bytes : Bytes) (len : Nat) : Bool :=
  go 0
where
  /-- The `while (i < len)` loop. -/
  go (i : Nat) : Bool :=
    if i < len then
      let b := bytes.getD i 0
      if b ≤ 0x7F then go (i + 1)
      else if b ≥ 0xF5 || (b ≥ 0xC0 && b ≤ 0xC1) then false
      else if b &&& 0xE0 == 0xC0 then
        if i + 1 ≥ len || !isCont (bytes.getD (i + 1) 0) then false
        else go (i + 2)
      else if b &&& 0xF0 == 0xE0 then
        if i + 2 ≥ len || !isCont (bytes.getD (i + 1) 0) || !isCont (bytes.getD (i + 2) 0) then
          false
        else if b == 0xE0 && bytes.getD (i + 1) 0 < 0xA0 then false
        else if b == 0xED && bytes.getD (i + 1) 0 ≥ 0xA0 then false
        else go (i + 3)
      else if b &&& 0xF8 == 0xF0 then
        if i + 3 ≥ len || !isCont (bytes.getD (i + 1) 0) || !isCont (bytes.getD (i + 2) 0) ||
            !isCont (bytes.getD (i + 3) 0) then false
        else if b == 0xF0 && bytes.getD (i + 1) 0 < 0x90 then false
        else if b == 0xF4 && bytes.getD (i + 1) 0 > 0x8F then false
        else go (i + 4)
      else false
    else true
  termination_by len - i

end Libwsc

namespace Libwsc

/-! ### RFC 3629 §4 -/

/-- `UTF8-tail = %x80-BF` -/
def Tail (b : UInt8) : Prop := 0x80 ≤ b.toNat ∧ b.toNat ≤ 0xBF

/-- `UTF8-char`: one constructor for each alternative of `UTF8-1` to `UTF8-4`. -/
inductive Utf8Char : Bytes → Prop where
  | ascii {a : UInt8} : a.toNat ≤ 0x7F → Utf8Char [a]
  | twoByte {a b : UInt8} : 0xC2 ≤ a.toNat → a.toNat ≤ 0xDF → Tail b → Utf8Char [a, b]
  | threeE0 {b c : UInt8} : 0xA0 ≤ b.toNat → b.toNat ≤ 0xBF → Tail c → Utf8Char [0xE0, b, c]
  | threeE1EC {a b c : UInt8} : 0xE1 ≤ a.toNat → a.toNat ≤ 0xEC → Tail b → Tail c →
      Utf8Char [a, b, c]
  | threeED {b c : UInt8} : 0x80 ≤ b.toNat → b.toNat ≤ 0x9F → Tail c → Utf8Char [0xED, b, c]
  | threeEEEF {a b c : UInt8} : 0xEE ≤ a.toNat → a.toNat ≤ 0xEF → Tail b → Tail c →
      Utf8Char [a, b, c]
  | fourF0 {b c d : UInt8} : 0x90 ≤ b.toNat → b.toNat ≤ 0xBF → Tail c → Tail d →
      Utf8Char [0xF0, b, c, d]
  | fourF1F3 {a b c d : UInt8} : 0xF1 ≤ a.toNat → a.toNat ≤ 0xF3 → Tail b → Tail c → Tail d →
      Utf8Char [a, b, c, d]
  | fourF4 {b c d : UInt8} : 0x80 ≤ b.toNat → b.toNat ≤ 0x8F → Tail c → Tail d →
      Utf8Char [0xF4, b, c, d]

/-- `UTF8-octets = *( UTF8-char )`: well-formed UTF-8. -/
inductive Utf8Octets : Bytes → Prop where
  | nil : Utf8Octets []
  | cons {c rest : Bytes} : Utf8Char c → Utf8Octets rest → Utf8Octets (c ++ rest)

theorem UInt8.toNat_inj {a b : UInt8} : a.toNat = b.toNat ↔ a = b :=
  ⟨UInt8.toNat.inj, congrArg _⟩

theorem UInt8.toNat_ofNat_mod (n : Nat) : (UInt8.ofNat n).toNat = n % 256 := rfl

/-- What a well-formed sequence may follow its first byte with; the first byte alone decides
how many bytes its character takes. -/
theorem utf8Octets_cons_iff (a : UInt8) (rest : Bytes) :
    Utf8Octets (a :: rest) ↔
      (a.toNat ≤ 0x7F ∧ Utf8Octets rest) ∨
      (0xC2 ≤ a.toNat ∧ a.toNat ≤ 0xDF ∧ ∃ b r, rest = b :: r ∧ Tail b ∧ Utf8Octets r) ∨
      (0xE0 ≤ a.toNat ∧ a.toNat ≤ 0xEF ∧ ∃ b c r, rest = b :: c :: r ∧ Tail b ∧
        (a.toNat = 0xE0 → 0xA0 ≤ b.toNat) ∧ (a.toNat = 0xED → b.toNat ≤ 0x9F) ∧ Tail c ∧
        Utf8Octets r) ∨
      (0xF0 ≤ a.toNat ∧ a.toNat ≤ 0xF4 ∧ ∃ b c d r, rest = b :: c :: d :: r ∧ Tail b ∧
        (a.toNat = 0xF0 → 0x90 ≤ b.toNat) ∧ (a.toNat = 0xF4 → b.toNat ≤ 0x8F) ∧ Tail c ∧
        Tail d ∧ Utf8Octets r) := by
  constructor
  · intro h
    generalize hx : a :: rest = x at h
    cases h with
    | nil => cases hx
    | cons hc hr =>
      cases hc with
      | ascii ha =>
        simp only [List.cons_append, List.nil_append, List.cons.injEq] at hx
        obtain ⟨rfl, rfl⟩ := hx
        exact .inl ⟨ha, hr⟩
      | twoByte ha ha' hb =>
        simp only [List.cons_append, List.nil_append, List.cons.injEq] at hx
        obtain ⟨rfl, rfl⟩ := hx
        exact .inr (.inl ⟨ha, ha', _, _, rfl, hb, hr⟩)
      | threeE0 hb hb' hc =>
        simp only [List.cons_append, List.nil_append, List.cons.injEq] at hx
        obtain ⟨rfl, rfl⟩ := hx
        exact .inr (.inr (.inl ⟨by decide, by decide, _, _, _, rfl, ⟨by omega, hb'⟩,
          fun _ => hb, fun h => absurd h (by decide), hc, hr⟩))
      | threeE1EC ha ha' hb hc =>
        simp only [List.cons_append, List.nil_append, List.cons.injEq] at hx
        obtain ⟨rfl, rfl⟩ := hx
        exact .inr (.inr (.inl ⟨by omega, by omega, _, _, _, rfl, hb, by omega, by omega, hc, hr⟩))
      | threeED hb hb' hc =>
        simp only [List.cons_append, List.nil_append, List.cons.injEq] at hx
        obtain ⟨rfl, rfl⟩ := hx
        exact .inr (.inr (.inl ⟨by decide, by decide, _, _, _, rfl, ⟨hb, by omega⟩,
          fun h => absurd h (by decide), fun _ => hb', hc, hr⟩))
      | threeEEEF ha ha' hb hc =>
        simp only [List.cons_append, List.nil_append, List.cons.injEq] at hx
        obtain ⟨rfl, rfl⟩ := hx
        exact .inr (.inr (.inl ⟨by omega, by omega, _, _, _, rfl, hb, by omega, by omega, hc, hr⟩))
      | fourF0 hb hb' hc hd =>
        simp only [List.cons_append, List.nil_append, List.cons.injEq] at hx
        obtain ⟨rfl, rfl⟩ := hx
        exact .inr (.inr (.inr ⟨by decide, by decide, _, _, _, _, rfl, ⟨by omega, hb'⟩,
          fun _ => hb, fun h => absurd h (by decide), hc, hd, hr⟩))
      | fourF1F3 ha ha' hb hc hd =>
        simp only [List.cons_append, List.nil_append, List.cons.injEq] at hx
        obtain ⟨rfl, rfl⟩ := hx
        exact .inr (.inr (.inr ⟨by omega, by omega, _, _, _, _, rfl, hb, by omega, by omega, hc,
          hd, hr⟩))
      | fourF4 hb hb' hc hd =>
        simp only [List.cons_append, List.nil_append, List.cons.injEq] at hx
        obtain ⟨rfl, rfl⟩ := hx
        exact .inr (.inr (.inr ⟨by decide, by decide, _, _, _, _, rfl, ⟨hb, by omega⟩,
          fun h => absurd h (by decide), fun _ => hb', hc, hd, hr⟩))
  · rintro (⟨ha, hr⟩ | ⟨ha, ha', b, r, rfl, hb, hr⟩ | ⟨ha, ha', b, c, r, rfl, hb, hE0, hED, hc, hr⟩ |
      ⟨ha, ha', b, c, d, r, rfl, hb, hF0, hF4, hc, hd, hr⟩)
    · exact .cons (c := [a]) (.ascii ha) hr
    · exact .cons (c := [a, b]) (.twoByte ha ha' hb) hr
    · refine .cons (c := [a, b, c]) ?_ hr
      rcases (by omega : a.toNat = 0xE0 ∨ (0xE1 ≤ a.toNat ∧ a.toNat ≤ 0xEC) ∨ a.toNat = 0xED ∨
        0xEE ≤ a.toNat) with hA | hA | hA | hA
      · obtain rfl : a = 0xE0 := UInt8.toNat.inj hA
        exact .threeE0 (hE0 rfl) hb.2 hc
      · exact .threeE1EC hA.1 hA.2 hb hc
      · obtain rfl : a = 0xED := UInt8.toNat.inj hA
        exact .threeED hb.1 (hED rfl) hc
      · exact .threeEEEF hA ha' hb hc
    · refine .cons (c := [a, b, c, d]) ?_ hr
      rcases (by omega : a.toNat = 0xF0 ∨ (0xF1 ≤ a.toNat ∧ a.toNat ≤ 0xF3) ∨ a.toNat = 0xF4)
        with hA | hA | hA
      · obtain rfl : a = 0xF0 := UInt8.toNat.inj hA
        exact .fourF0 (hF0 rfl) hb.2 hc hd
      · exact .fourF1F3 hA.1 hA.2 hb hc hd
      · obtain rfl : a = 0xF4 := UInt8.toNat.inj hA
        exact .fourF4 hb.1 (hF4 rfl) hc hd

/-! ### The index loop decides RFC 3629 -/

theorem UInt8.forall_fin {P : UInt8 → Prop} (h : ∀ v : Fin 256, P ⟨⟨v⟩⟩) (b : UInt8) : P b := by
  rcases b with ⟨⟨v⟩⟩; exact h v

theorem UInt8.beq_eq (a b : UInt8) : (a == b) = decide (a.toNat = b.toNat) := by
  rw [Bool.eq_iff_iff, beq_iff_eq, decide_eq_true_iff, UInt8.toNat_inj]

set_option maxRecDepth 10000 in
/-- The masks of the loop, on the byte's value: each picks out one range of bytes. -/
theorem masks_toNat : ∀ m < 256,
    decide (m &&& 0xC0 = 0x80) = (0x80 ≤ m && m ≤ 0xBF) ∧
    decide (m &&& 0xE0 = 0xC0) = (0xC0 ≤ m && m ≤ 0xDF) ∧
    decide (m &&& 0xF0 = 0xE0) = (0xE0 ≤ m && m ≤ 0xEF) ∧
    decide (m &&& 0xF8 = 0xF0) = (0xF0 ≤ m && m ≤ 0xF7) := by
  decide

theorem isCont_eq (b : UInt8) : isCont b = (0x80 ≤ b.toNat && b.toNat ≤ 0xBF) := by
  rw [isCont, UInt8.beq_eq, UInt8.and_toNat]
  exact (masks_toNat _ b.toNat_lt_size).1

theorem lead_masks (b : UInt8) :
    (b &&& 0xE0 == 0xC0) = (0xC0 ≤ b.toNat && b.toNat ≤ 0xDF) ∧
    (b &&& 0xF0 == 0xE0) = (0xE0 ≤ b.toNat && b.toNat ≤ 0xEF) ∧
    (b &&& 0xF8 == 0xF0) = (0xF0 ≤ b.toNat && b.toNat ≤ 0xF7) := by
  simp only [UInt8.beq_eq, UInt8.and_toNat]
  exact (masks_toNat _ b.toNat_lt_size).2
theorem UInt8.le_iff_toNat_le (a b : UInt8) : a ≤ b ↔ a.toNat ≤ b.toNat := Iff.rfl
theorem UInt8.lt_iff_toNat_lt (a b : UInt8) : a < b ↔ a.toNat < b.toNat := Iff.rfl

theorem window_cons {bytes : Bytes} {len i : Nat} (hLen : len ≤ bytes.length) (hi : i < len) :
    (bytes.take len).drop i = bytes.getD i 0 :: (bytes.take len).drop (i + 1) := by
  rw [List.drop_eq_getElem_cons (by simp; omega)]
  simp [List.getD_eq_getElem?_getD, List.getElem?_eq_getElem (show i < bytes.length by omega)]

theorem window_nil {bytes : Bytes} {len i : Nat} (hi : len ≤ i) :
    (bytes.take len).drop i = [] := by
  simp; omega

theorem utf8Octets_cons_ascii {a : UInt8} {r : Bytes} (ha : a.toNat ≤ 0x7F) :
    Utf8Octets (a :: r) ↔ Utf8Octets r := by
  rw [utf8Octets_cons_iff]
  constructor
  · rintro (⟨-, h⟩ | ⟨h, h', -⟩ | ⟨h, h', -⟩ | ⟨h, h', -⟩) <;> first | exact h | omega
  · exact fun h => .inl ⟨ha, h⟩

theorem utf8Octets_cons_bad {a : UInt8} {r : Bytes}
    (ha : (0x80 ≤ a.toNat ∧ a.toNat ≤ 0xC1) ∨ 0xF5 ≤ a.toNat) : ¬Utf8Octets (a :: r) := by
  rw [utf8Octets_cons_iff]
  rintro (⟨h, -⟩ | ⟨h, h', -⟩ | ⟨h, h', -⟩ | ⟨h, h', -⟩) <;> omega

theorem utf8Octets_cons_two {a : UInt8} {r : Bytes} (ha : 0xC2 ≤ a.toNat) (ha' : a.toNat ≤ 0xDF) :
    Utf8Octets (a :: r) ↔ ∃ b r', r = b :: r' ∧ Tail b ∧ Utf8Octets r' := by
  rw [utf8Octets_cons_iff]
  constructor
  · rintro (⟨h, -⟩ | ⟨-, -, h⟩ | ⟨h, h', -⟩ | ⟨h, h', -⟩) <;> first | exact h | omega
  · exact fun h => .inr (.inl ⟨ha, ha', h⟩)

theorem utf8Octets_cons_three {a : UInt8} {r : Bytes} (ha : 0xE0 ≤ a.toNat) (ha' : a.toNat ≤ 0xEF) :
    Utf8Octets (a :: r) ↔ ∃ b c r', r = b :: c :: r' ∧ Tail b ∧
      (a.toNat = 0xE0 → 0xA0 ≤ b.toNat) ∧ (a.toNat = 0xED → b.toNat ≤ 0x9F) ∧ Tail c ∧
      Utf8Octets r' := by
  rw [utf8Octets_cons_iff]
  constructor
  · rintro (⟨h, -⟩ | ⟨h, h', -⟩ | ⟨-, -, h⟩ | ⟨h, h', -⟩) <;> first | exact h | omega
  · exact fun h => .inr (.inr (.inl ⟨ha, ha', h⟩))

theorem utf8Octets_cons_four {a : UInt8} {r : Bytes} (ha : 0xF0 ≤ a.toNat) (ha' : a.toNat ≤ 0xF4) :
    Utf8Octets (a :: r) ↔ ∃ b c d r', r = b :: c :: d :: r' ∧ Tail b ∧
      (a.toNat = 0xF0 → 0x90 ≤ b.toNat) ∧ (a.toNat = 0xF4 → b.toNat ≤ 0x8F) ∧ Tail c ∧
      Tail d ∧ Utf8Octets r' := by
  rw [utf8Octets_cons_iff]
  constructor
  · rintro (⟨h, -⟩ | ⟨h, h', -⟩ | ⟨h, h', -⟩ | ⟨-, -, h⟩) <;> first | exact h | omega
  · exact fun h => .inr (.inr (.inr ⟨ha, ha', h⟩))

theorem isValidUtf8_go_iff {bytes : Bytes} {len : Nat} (hLen : len ≤ bytes.length) (i : Nat) :
    isValidUtf8.go bytes len i = true ↔ Utf8Octets ((bytes.take len).drop i) := by
  rw [isValidUtf8.go]
  by_cases hi : i < len
  swap
  · simp [hi, window_nil (not_lt.mp hi), Utf8Octets.nil]
  rw [window_cons hLen hi]
  have hb := (bytes.getD i 0).toNat_lt_size
  obtain ⟨m2, m3, m4⟩ := lead_masks (bytes.getD i 0)
  simp only [hi, if_true, m2, m3, m4, isCont_eq, UInt8.beq_eq, UInt8.le_iff_toNat_le,
    UInt8.lt_iff_toNat_lt, ge_iff_le, UInt8.reduceToNat, Bool.and_eq_true, Bool.or_eq_true,
    decide_eq_true_eq, Bool.not_eq_true', decide_eq_false_iff_not]
  generalize hB : bytes.getD i 0 = b at *
  have h1 := isValidUtf8_go_iff hLen (i + 1)
  have h2 := isValidUtf8_go_iff hLen (i + 2)
  have h3 := isValidUtf8_go_iff hLen (i + 3)
  have h4 := isValidUtf8_go_iff hLen (i + 4)
  -- The tests of the loop, in the source's order, one lead-byte class at a time.
  by_cases hAscii : b.toNat ≤ 127
  · rw [if_pos hAscii, utf8Octets_cons_ascii hAscii, h1]
  rw [if_neg hAscii]
  by_cases hBad : 245 ≤ b.toNat ∨ 192 ≤ b.toNat ∧ b.toNat ≤ 193
  · rw [if_pos hBad, Bool.false_eq_true, false_iff]
    exact utf8Octets_cons_bad (by omega)
  rw [if_neg hBad]
  by_cases hTwo : 192 ≤ b.toNat ∧ b.toNat ≤ 223
  · rw [if_pos hTwo, utf8Octets_cons_two (by omega) hTwo.2]
    by_cases hi1 : i + 1 < len
    · rw [window_cons hLen hi1]
      simp [Tail, ← h2, Nat.not_le.mpr hi1, and_assoc, Nat.add_assoc]
    · simp [window_nil (Nat.not_lt.mp hi1), Nat.not_lt.mp hi1]
  rw [if_neg hTwo]
  by_cases hThree : 224 ≤ b.toNat ∧ b.toNat ≤ 239
  · rw [if_pos hThree, utf8Octets_cons_three hThree.1 hThree.2]
    by_cases hi2 : i + 2 < len
    · rw [window_cons hLen (by omega : i + 1 < len), window_cons hLen hi2]
      simp [Tail, ← h3, Nat.not_le.mpr hi2, and_assoc, Nat.add_assoc]
      cases isValidUtf8.go bytes len (i + 3) <;> simp
      omega
    · rcases (by omega : len ≤ i + 1 ∨ len = i + 2) with hEnd | hEnd
      · simp [window_nil hEnd, hi2]
      · rw [window_cons hLen (by omega : i + 1 < len), window_nil (by omega : len ≤ i + 1 + 1)]
        simp [hEnd]
  rw [if_neg hThree]
  by_cases hFour : 240 ≤ b.toNat ∧ b.toNat ≤ 247
  · rw [if_pos hFour, utf8Octets_cons_four hFour.1 (by omega)]
    by_cases hi3 : i + 3 < len
    · rw [window_cons hLen (by omega : i + 1 < len), window_cons hLen (by omega : i + 2 < len),
        window_cons hLen hi3]
      simp [Tail, ← h4, Nat.not_le.mpr hi3, and_assoc, Nat.add_assoc]
      cases isValidUtf8.go bytes len (i + 4) <;> simp
      omega
    · rcases (by omega : len ≤ i + 1 ∨ len = i + 2 ∨ len = i + 3) with hEnd | hEnd | hEnd
      · simp [window_nil hEnd, hi3]
      · rw [window_cons hLen (by omega : i + 1 < len), window_nil (by omega : len ≤ i + 1 + 1)]
        simp [hEnd]
      · rw [window_cons hLen (by omega : i + 1 < len), window_cons hLen (by omega : i + 2 < len),
          window_nil (by omega : len ≤ i + 2 + 1)]
        simp [hEnd]
  rw [if_neg hFour, Bool.false_eq_true, false_iff]
  exact utf8Octets_cons_bad (.inl (by omega))
termination_by len - i

/-- `isValidUtf8(bytes, len)` accepts exactly the well-formed UTF-8 among the first `len`
bytes, whenever those bytes are there to read. -/
theorem isValidUtf8_iff {bytes : Bytes} {len : Nat} (hLen : len ≤ bytes.length) :
    isValidUtf8 bytes len = true ↔ Utf8Octets (bytes.take len) := by
  simpa using isValidUtf8_go_iff hLen 0

end Libwsc
