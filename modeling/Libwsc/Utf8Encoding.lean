import Libwsc.Utf8

/-! What `isValidUtf8(s, |s|)` accepts, said in Unicode: exactly the UTF-8 encodings of
sequences of Unicode scalar values, by the table of RFC 3629 §3, which is also Lean's own
`String.toUTF8`. And what its loop reads: run with every `bytes[j]` checked against `len` and
every `||` and `&&` short-circuited as in C, it never reads outside the string and finishes
within `len` passes, with the answer of the model in `Libwsc.Utf8`. -/
namespace Libwsc

/-! ### The table of RFC 3629 §3 -/

/-- The shortest UTF-8 form of the code point `v`: one to four bytes, by its range. -/
def encodeScalar (v : Nat) : Bytes :=
  if v ≤ 0x7F then [UInt8.ofNat v]
  else if v ≤ 0x7FF then [UInt8.ofNat (0xC0 + v / 64), UInt8.ofNat (0x80 + v % 64)]
  else if v ≤ 0xFFFF then
    [UInt8.ofNat (0xE0 + v / 4096), UInt8.ofNat (0x80 + v / 64 % 64), UInt8.ofNat (0x80 + v % 64)]
  else
    [UInt8.ofNat (0xF0 + v / 262144), UInt8.ofNat (0x80 + v / 4096 % 64),
      UInt8.ofNat (0x80 + v / 64 % 64), UInt8.ofNat (0x80 + v % 64)]

/-- `s` is the concatenated encoding of a list of Unicode scalar values, the code points other
than the surrogates `U+D800..U+DFFF`, up to `U+10FFFF` (Lean's `Nat.isValidChar`). -/
def EncodesScalars (s : Bytes) : Prop :=
  ∃ vs : List Nat, (∀ v ∈ vs, v.isValidChar) ∧ vs.flatMap encodeScalar = s

theorem UInt8.ofNat_eq {a : UInt8} {n : Nat} (h : n = a.toNat) : UInt8.ofNat n = a :=
  UInt8.toNat.inj (h ▸ UInt8.toNat_ofNat_of_lt (h ▸ a.toNat_lt_size))

theorem UInt32.toNat_shiftRight (a : UInt32) (k : Nat) (hk : k < 32) :
    (a >>> UInt32.ofNat k).toNat = a.toNat / 2 ^ k := by
  show (a.toBitVec >>> (UInt32.mod (UInt32.ofNat k) 32).toBitVec).toNat = _
  simp only [BitVec.ushiftRight_eq', BitVec.toNat_ushiftRight, Nat.shiftRight_eq_div_pow]
  have hShift : ((UInt32.ofNat k).mod 32).toBitVec.toNat = k := by
    show k % 2 ^ 32 % 32 = k
    omega
  rw [hShift]
  rfl

theorem UInt8.toNat_or (a b : UInt8) : (a ||| b).toNat = a.toNat ||| b.toNat :=
  BitVec.toNat_or _ _

set_option maxRecDepth 10000 in
/-- The encoder's byte shapes `110xxxxx`, `1110xxxx`, `11110xxx` and `10xxxxxx`, as sums. -/
theorem byte_shapes_toNat : ∀ m < 256, (m &&& 0x1f ||| 0xc0) = (0xC0 + m % 32) % 256 ∧
    (m &&& 0x0f ||| 0xe0) = (0xE0 + m % 16) % 256 ∧ (m &&& 0x07 ||| 0xf0) = (0xF0 + m % 8) % 256 ∧
    (m &&& 0x3f ||| 0x80) = (0x80 + m % 64) % 256 := by
  decide

theorem byte_shapes (x : UInt8) :
    (x &&& 0x1f ||| 0xc0) = UInt8.ofNat (0xC0 + x.toNat % 32) ∧
      (x &&& 0x0f ||| 0xe0) = UInt8.ofNat (0xE0 + x.toNat % 16) ∧
      (x &&& 0x07 ||| 0xf0) = UInt8.ofNat (0xF0 + x.toNat % 8) ∧
      (x &&& 0x3f ||| 0x80) = UInt8.ofNat (0x80 + x.toNat % 64) := by
  have k := byte_shapes_toNat x.toNat x.toNat_lt_size
  refine ⟨UInt8.toNat.inj ?_, UInt8.toNat.inj ?_, UInt8.toNat.inj ?_, UInt8.toNat.inj ?_⟩ <;>
    simp only [UInt8.toNat_or, UInt8.and_toNat, UInt8.reduceToNat, UInt8.toNat_ofNat_mod, k]

/-- `String.utf8EncodeChar`, Lean's UTF-8 encoder, is the table of RFC 3629 §3. -/
theorem utf8EncodeChar_eq (c : Char) : String.utf8EncodeChar c = encodeScalar c.toNat := by
  show _ = encodeScalar c.val.toNat
  have hValid : c.val.toNat < 0xD800 ∨ (0xDFFF < c.val.toNat ∧ c.val.toNat < 0x110000) := c.valid
  have h6 : (c.val >>> 6).toNat = c.val.toNat / 64 := UInt32.toNat_shiftRight c.val 6 (by decide)
  have h12 : (c.val >>> 12).toNat = c.val.toNat / 4096 :=
    UInt32.toNat_shiftRight c.val 12 (by decide)
  have h18 : (c.val >>> 18).toNat = c.val.toNat / 262144 :=
    UInt32.toNat_shiftRight c.val 18 (by decide)
  have e1 : (c.val ≤ 0x7f) = (c.val.toNat ≤ 0x7F) := rfl
  have e2 : (c.val ≤ 0x7ff) = (c.val.toNat ≤ 0x7FF) := rfl
  have e3 : (c.val ≤ 0xffff) = (c.val.toNat ≤ 0xFFFF) := rfl
  simp only [String.utf8EncodeChar, encodeScalar, e1, e2, e3, UInt32.toUInt8, Nat.toUInt8,
    (byte_shapes _).1, (byte_shapes _).2.1, (byte_shapes _).2.2.1, (byte_shapes _).2.2.2,
    UInt8.toNat_ofNat_mod, Nat.mod_mod_of_dvd _ (by decide : 64 ∣ 256),
    Nat.mod_mod_of_dvd _ (by decide : 32 ∣ 256), Nat.mod_mod_of_dvd _ (by decide : 16 ∣ 256),
    Nat.mod_mod_of_dvd _ (by decide : 8 ∣ 256), h6, h12, h18]
  -- only the lead bytes are left: their payload already fits the mask
  split_ifs <;> simp only [List.cons.injEq, and_true] <;> congr 2 <;> omega

/-- Lean's strings, read as their `toUTF8` bytes, are the encodings of scalar values. -/
theorem flatMap_utf8EncodeChar (cs : List Char) :
    cs.flatMap String.utf8EncodeChar = (cs.map Char.toNat).flatMap encodeScalar := by
  rw [show String.utf8EncodeChar = fun c => encodeScalar c.toNat from funext utf8EncodeChar_eq,
    List.flatMap_map]

theorem exists_chars_of_scalars : ∀ vs : List Nat, (∀ v ∈ vs, v.isValidChar) →
    ∃ cs : List Char, cs.map Char.toNat = vs
  | [], _ => ⟨[], rfl⟩
  | v :: vs, h =>
    let ⟨cs, hcs⟩ := exists_chars_of_scalars vs fun w hw => h w (.tail _ hw)
    ⟨Char.ofNatAux v (h v (.head _)) :: cs, by rw [List.map_cons, hcs]; rfl⟩

theorem encodesScalars_iff_toUTF8 (s : Bytes) :
    EncodesScalars s ↔ ∃ str : String, str.toUTF8.data.toList = s := by
  constructor
  · rintro ⟨vs, hvs, rfl⟩
    obtain ⟨cs, rfl⟩ := exists_chars_of_scalars vs hvs
    exact ⟨⟨cs⟩, flatMap_utf8EncodeChar cs⟩
  · rintro ⟨⟨cs⟩, rfl⟩
    refine ⟨cs.map Char.toNat, fun v hv => ?_, (flatMap_utf8EncodeChar cs).symm⟩
    obtain ⟨c, -, rfl⟩ := List.mem_map.mp hv
    exact c.valid

/-! ### The grammar of RFC 3629 §4 is the image of the table -/

theorem EncodesScalars.append {v : Nat} (hv : v.isValidChar) {bs r : Bytes}
    (he : encodeScalar v = bs) (hr : EncodesScalars r) : EncodesScalars (bs ++ r) := by
  obtain ⟨vs, hvs, rfl⟩ := hr
  refine ⟨v :: vs, List.forall_mem_cons.mpr ⟨hv, hvs⟩, ?_⟩
  rw [List.flatMap_cons, he]

theorem utf8Octets_encodeScalar_append {v : Nat} (hv : v.isValidChar) {r : Bytes}
    (hr : Utf8Octets r) : Utf8Octets (encodeScalar v ++ r) := by
  unfold encodeScalar
  split_ifs <;> simp only [List.cons_append, List.nil_append]
  · exact (utf8Octets_cons_ascii (by rw [UInt8.toNat_ofNat_mod]; omega)).mpr hr
  · refine (utf8Octets_cons_two ?_ ?_).mpr ⟨_, _, rfl, ?_, hr⟩ <;>
      simp only [Tail, UInt8.toNat_ofNat_mod] <;> omega
  · refine (utf8Octets_cons_three ?_ ?_).mpr ⟨_, _, _, rfl, ?_, ?_, ?_, ?_, hr⟩ <;>
      simp only [Tail, UInt8.toNat_ofNat_mod] <;> omega
  · refine (utf8Octets_cons_four ?_ ?_).mpr ⟨_, _, _, _, rfl, ?_, ?_, ?_, ?_, ?_, hr⟩ <;>
      simp only [Tail, UInt8.toNat_ofNat_mod] <;> omega

/-! Each alternative of §4 decodes to one scalar value: the payload bits of its bytes. -/

theorem encodeScalar_one {a : UInt8} (h1 : a.toNat ≤ 0x7F) :
    ∃ v : Nat, v.isValidChar ∧ encodeScalar v = [a] :=
  ⟨a.toNat, by omega, by rw [encodeScalar, if_pos h1, UInt8.ofNat_eq rfl]⟩

theorem encodeScalar_two {a b : UInt8} (h1 : 0xC2 ≤ a.toNat) (h2 : a.toNat ≤ 0xDF) (hb : Tail b) :
    ∃ v : Nat, v.isValidChar ∧ encodeScalar v = [a, b] := by
  unfold Tail at hb
  refine ⟨(a.toNat - 0xC0) * 64 + (b.toNat - 0x80), by omega, ?_⟩
  rw [encodeScalar, if_neg (by omega), if_pos (by omega), UInt8.ofNat_eq (a := a) (by omega),
    UInt8.ofNat_eq (a := b) (by omega)]

theorem encodeScalar_three {a b c : UInt8} (h1 : 0xE0 ≤ a.toNat) (h2 : a.toNat ≤ 0xEF)
    (hb : Tail b) (hE0 : a.toNat = 0xE0 → 0xA0 ≤ b.toNat) (hED : a.toNat = 0xED → b.toNat ≤ 0x9F)
    (hc : Tail c) : ∃ v : Nat, v.isValidChar ∧ encodeScalar v = [a, b, c] := by
  unfold Tail at hb hc
  refine ⟨(a.toNat - 0xE0) * 4096 + (b.toNat - 0x80) * 64 + (c.toNat - 0x80), by omega, ?_⟩
  have hOver : 0x800 ≤ (a.toNat - 0xE0) * 4096 + (b.toNat - 0x80) * 64 + (c.toNat - 0x80) := by
    omega
  clear hE0 hED
  rw [encodeScalar, if_neg (by omega), if_neg (by omega), if_pos (by omega),
    UInt8.ofNat_eq (a := a) (by omega), UInt8.ofNat_eq (a := b) (by omega),
    UInt8.ofNat_eq (a := c) (by omega)]

theorem encodeScalar_four {a b c d : UInt8} (h1 : 0xF0 ≤ a.toNat) (h2 : a.toNat ≤ 0xF4)
    (hb : Tail b) (hF0 : a.toNat = 0xF0 → 0x90 ≤ b.toNat) (hF4 : a.toNat = 0xF4 → b.toNat ≤ 0x8F)
    (hc : Tail c) (hd : Tail d) : ∃ v : Nat, v.isValidChar ∧ encodeScalar v = [a, b, c, d] := by
  unfold Tail at hb hc hd
  refine ⟨(a.toNat - 0xF0) * 262144 + (b.toNat - 0x80) * 4096 + (c.toNat - 0x80) * 64 +
    (d.toNat - 0x80), by omega, ?_⟩
  have hOver : 0x10000 ≤ (a.toNat - 0xF0) * 262144 + (b.toNat - 0x80) * 4096 +
      (c.toNat - 0x80) * 64 + (d.toNat - 0x80) := by
    omega
  clear hF0 hF4
  rw [encodeScalar, if_neg (by omega), if_neg (by omega), if_neg (by omega),
    UInt8.ofNat_eq (a := a) (by omega), UInt8.ofNat_eq (a := b) (by omega),
    UInt8.ofNat_eq (a := c) (by omega), UInt8.ofNat_eq (a := d) (by omega)]

theorem encodesScalars_of_utf8Octets (s : Bytes) (h : Utf8Octets s) : EncodesScalars s := by
  induction' hn : s.length using Nat.strong_induction_on with n ih generalizing s
  match s, h with
  | [], _ => exact ⟨[], nofun, rfl⟩
  | a :: rest, h =>
    have next {r : Bytes} (hr : Utf8Octets r) (hlt : r.length < n) : EncodesScalars r :=
      ih _ hlt r hr rfl
    subst hn
    rcases (utf8Octets_cons_iff a rest).mp h with
      ⟨h1, hr⟩ | ⟨h1, h2, b, r, rfl, hb, hr⟩ | ⟨h1, h2, b, c, r, rfl, hb, hE0, hED, hc, hr⟩ |
      ⟨h1, h2, b, c, d, r, rfl, hb, hF0, hF4, hc, hd, hr⟩
    · obtain ⟨v, hv, he⟩ := encodeScalar_one h1
      exact .append hv he (next hr (by simp only [List.length_cons]; omega))
    · obtain ⟨v, hv, he⟩ := encodeScalar_two h1 h2 hb
      exact .append hv he (next hr (by simp only [List.length_cons]; omega))
    · obtain ⟨v, hv, he⟩ := encodeScalar_three h1 h2 hb hE0 hED hc
      exact .append hv he (next hr (by simp only [List.length_cons]; omega))
    · obtain ⟨v, hv, he⟩ := encodeScalar_four h1 h2 hb hF0 hF4 hc hd
      exact .append hv he (next hr (by simp only [List.length_cons]; omega))

/-- The well-formed UTF-8 of RFC 3629 §4 is exactly what the table of §3 produces from scalar
values. -/
theorem utf8Octets_iff_encodesScalars (s : Bytes) : Utf8Octets s ↔ EncodesScalars s := by
  refine ⟨encodesScalars_of_utf8Octets s, ?_⟩
  rintro ⟨vs, hvs, rfl⟩
  induction vs with
  | nil => exact .nil
  | cons v vs ih =>
    rw [List.forall_mem_cons] at hvs
    rw [List.flatMap_cons]
    exact utf8Octets_encodeScalar_append hvs.1 (ih hvs.2)

/-! ### The loop's memory reads -/

/-- `bytes[j]` on the string `isValidUtf8` is handed: defined below `len` only; `none` is a read
outside the string. -/
def readAt (bytes : Bytes) (len j : Nat) : Option UInt8 :=
  if j < len then bytes.get? j else none

/-- C's `a || b`: `b`, which may read memory, is evaluated only when `a` is false. -/
def shortOr (a b : Option Bool) : Option Bool :=
  a.bind fun a => if a then some true else b

/-- C's `a && b`: `b` is evaluated only when `a` is true. -/
def shortAnd (a b : Option Bool) : Option Bool :=
  a.bind fun a => if a then b else some false

/-- `isValidUtf8(bytes, len)` with its memory accesses made explicit: the loop of
`isValidUtf8`, where each `bytes[j]` is a checked read and each `||` and `&&` short-circuits as
in C, run for at most `len` passes of the `while` loop. `none` is a read outside the string or a
loop that has not finished within its passes. -/
def isValidUtf8Checked (bytes : Bytes) (len : Nat) : Option Bool :=
  loop len 0
where
  /-- `(bytes[j] & 0xC0) != 0x80` -/
  notCont (j : Nat) : Option Bool := (readAt bytes len j).map fun c => !isCont c
  /-- The `while (i < len)` loop with `fuel` passes left. -/
  loop : Nat → Nat → Option Bool
    | 0, i => if i < len then none else some true
    | fuel + 1, i =>
      if i < len then do
        let b ← readAt bytes len i
        if b ≤ 0x7F then loop fuel (i + 1)
        else if b ≥ 0xF5 || (b ≥ 0xC0 && b ≤ 0xC1) then pure false
        else if b &&& 0xE0 == 0xC0 then
          if (← shortOr (some (i + 1 ≥ len)) (notCont (i + 1))) then pure false
          else loop fuel (i + 2)
        else if b &&& 0xF0 == 0xE0 then
          if (← shortOr (shortOr (some (i + 2 ≥ len)) (notCont (i + 1))) (notCont (i + 2))) then
            pure false
          else if (← shortAnd (some (b == 0xE0)) ((readAt bytes len (i + 1)).map (· < 0xA0))) then
            pure false
          else if (← shortAnd (some (b == 0xED)) ((readAt bytes len (i + 1)).map (· ≥ 0xA0))) then
            pure false
          else loop fuel (i + 3)
        else if b &&& 0xF8 == 0xF0 then
          if (← shortOr (shortOr (shortOr (some (i + 3 ≥ len)) (notCont (i + 1)))
              (notCont (i + 2))) (notCont (i + 3))) then pure false
          else if (← shortAnd (some (b == 0xF0)) ((readAt bytes len (i + 1)).map (· < 0x90))) then
            pure false
          else if (← shortAnd (some (b == 0xF4)) ((readAt bytes len (i + 1)).map (· > 0x8F))) then
            pure false
          else loop fuel (i + 4)
        else pure false
      else some true

theorem shortOr_some_some (a b : Bool) : shortOr (some a) (some b) = some (a || b) := by
  cases a <;> rfl

theorem shortAnd_some_some (a b : Bool) : shortAnd (some a) (some b) = some (a && b) := by
  cases a <;> rfl

theorem shortOr_true (b : Option Bool) : shortOr (some true) b = some true := rfl

theorem not_or_left {x y : Bool} (h : ¬(x || y) = true) : ¬x = true := by
  cases x <;> simp_all

theorem lt_of_not_guard {len j : Nat} {x : Bool} (h : ¬(decide (j ≥ len) || x) = true) :
    j < len := by
  simp only [Bool.or_eq_true, decide_eq_true_eq, not_or] at h
  omega

/-- Two `if`s on one condition, one in `Option` and one pure, agree branch by branch. -/
theorem ite_eq_some {c : Prop} [Decidable c] {a b : Option Bool} {x y : Bool}
    (ha : c → a = some x) (hb : ¬c → b = some y) :
    (if c then a else b) = some (if c then x else y) := by
  by_cases h : c
  · rw [if_pos h, if_pos h, ha h]
  · rw [if_neg h, if_neg h, hb h]

section Reads
variable {bytes : Bytes} {len : Nat} (hLen : len ≤ bytes.length)
include hLen

theorem readAt_of_lt {j : Nat} (hj : j < len) : readAt bytes len j = some (bytes.getD j 0) := by
  simp [readAt, hj, show j < bytes.length by omega]

theorem notCont_of_lt {j : Nat} (hj : j < len) :
    isValidUtf8Checked.notCont bytes len j = some (!isCont (bytes.getD j 0)) := by
  rw [isValidUtf8Checked.notCont, readAt_of_lt hLen hj]
  rfl

theorem shortAnd_readAt {j : Nat} (hj : j < len) (a : Bool) (p : UInt8 → Bool) :
    shortAnd (some a) ((readAt bytes len j).map p) = some (a && p (bytes.getD j 0)) := by
  rw [readAt_of_lt hLen hj]
  exact shortAnd_some_some _ _

/-! Each guard reads a byte only once the bound before it has held, so it evaluates to the test
of the model. -/

theorem guard_two (i : Nat) :
    shortOr (some (i + 1 ≥ len)) (isValidUtf8Checked.notCont bytes len (i + 1)) =
      some (i + 1 ≥ len || !isCont (bytes.getD (i + 1) 0)) := by
  by_cases h : i + 1 < len
  · rw [notCont_of_lt hLen h, shortOr_some_some]
  · simp only [show decide (i + 1 ≥ len) = true by simp; omega, shortOr_true, Bool.true_or]

theorem guard_three (i : Nat) :
    shortOr (shortOr (some (i + 2 ≥ len)) (isValidUtf8Checked.notCont bytes len (i + 1)))
        (isValidUtf8Checked.notCont bytes len (i + 2)) =
      some (i + 2 ≥ len || !isCont (bytes.getD (i + 1) 0) || !isCont (bytes.getD (i + 2) 0)) := by
  by_cases h : i + 2 < len
  · rw [notCont_of_lt hLen (by omega : i + 1 < len), notCont_of_lt hLen h, shortOr_some_some,
      shortOr_some_some]
  · simp only [show decide (i + 2 ≥ len) = true by simp; omega, shortOr_true, Bool.true_or]

theorem guard_four (i : Nat) :
    shortOr (shortOr (shortOr (some (i + 3 ≥ len)) (isValidUtf8Checked.notCont bytes len (i + 1)))
        (isValidUtf8Checked.notCont bytes len (i + 2)))
        (isValidUtf8Checked.notCont bytes len (i + 3)) =
      some (i + 3 ≥ len || !isCont (bytes.getD (i + 1) 0) || !isCont (bytes.getD (i + 2) 0) ||
        !isCont (bytes.getD (i + 3) 0)) := by
  by_cases h : i + 3 < len
  · rw [notCont_of_lt hLen (by omega : i + 1 < len), notCont_of_lt hLen (by omega : i + 2 < len),
      notCont_of_lt hLen h, shortOr_some_some, shortOr_some_some, shortOr_some_some]
  · simp only [show decide (i + 3 ≥ len) = true by simp; omega, shortOr_true, Bool.true_or]

/-- With `len - i` passes or more, the checked loop reads only below `len`, finishes, and
answers as the model's loop does. -/
theorem isValidUtf8Checked_loop_eq (fuel i : Nat) (hFuel : len - i ≤ fuel) :
    isValidUtf8Checked.loop bytes len fuel i = some (isValidUtf8.go bytes len i) := by
  induction fuel generalizing i with
  | zero =>
    have hi : ¬i < len := by omega
    rw [isValidUtf8Checked.loop, if_neg hi, isValidUtf8.go, if_neg hi]
  | succ fuel ih =>
    rw [isValidUtf8Checked.loop, isValidUtf8.go]
    refine ite_eq_some (fun hi => ?_) fun _ => rfl
    rw [readAt_of_lt hLen hi]
    refine ite_eq_some (fun _ => ih _ (by omega)) fun _ => ite_eq_some (fun _ => rfl) fun _ => ?_
    refine ite_eq_some (fun _ => ?_) fun _ =>
      ite_eq_some (fun _ => ?_) fun _ => ite_eq_some (fun _ => ?_) fun _ => rfl
    · rw [guard_two hLen]
      exact ite_eq_some (fun _ => rfl) fun hg => ih _ (by have := lt_of_not_guard hg; omega)
    · rw [guard_three hLen]
      refine ite_eq_some (fun _ => rfl) fun hg => ?_
      have h2 := lt_of_not_guard (not_or_left hg)
      rw [shortAnd_readAt hLen (by omega : i + 1 < len), shortAnd_readAt hLen (by omega : i + 1 < len)]
      exact ite_eq_some (fun _ => rfl) fun _ => ite_eq_some (fun _ => rfl) fun _ => ih _ (by omega)
    · rw [guard_four hLen]
      refine ite_eq_some (fun _ => rfl) fun hg => ?_
      have h3 := lt_of_not_guard (not_or_left (not_or_left hg))
      rw [shortAnd_readAt hLen (by omega : i + 1 < len), shortAnd_readAt hLen (by omega : i + 1 < len)]
      exact ite_eq_some (fun _ => rfl) fun _ => ite_eq_some (fun _ => rfl) fun _ => ih _ (by omega)

theorem isValidUtf8Checked_eq : isValidUtf8Checked bytes len = some (isValidUtf8 bytes len) :=
  isValidUtf8Checked_loop_eq hLen len 0 (Nat.sub_le len 0)

end Reads

/-- A three-byte sequence cut short by `len`: rejected before `bytes[2]` is read. -/
example : isValidUtf8Checked [0xE2, 0x82, 0xAC] 2 = some false := by decide

/-! ### The function -/

/-- `isValidUtf8(s, |s|)` returns true exactly on the UTF-8 encodings of lists of Unicode
scalar values (`U+0000..U+D7FF`, `U+E000..U+10FFFF`), by the table of RFC 3629 §3; and its
loop, with every `bytes[j]` checked, reads nothing outside `s` and finishes with that answer. -/
theorem isValidUtf8_iff_encodesScalars (s : Bytes) :
    (isValidUtf8 s s.length = true ↔
      ∃ vs : List Nat, (∀ v ∈ vs, v < 0xD800 ∨ (0xDFFF < v ∧ v < 0x110000)) ∧
        vs.flatMap encodeScalar = s) ∧
      isValidUtf8Checked s s.length = some (isValidUtf8 s s.length) := by
  refine ⟨?_, isValidUtf8Checked_eq le_rfl⟩
  rw [isValidUtf8_iff le_rfl, List.take_length, utf8Octets_iff_encodesScalars]
  rfl

/-- The same, in Lean's strings: `isValidUtf8(s, |s|)` accepts `s` exactly when `s` is the
`toUTF8` of some `String`. -/
theorem isValidUtf8_iff_toUTF8 (s : Bytes) :
    isValidUtf8 s s.length = true ↔ ∃ str : String, str.toUTF8.data.toList = s := by
  rw [isValidUtf8_iff le_rfl, List.take_length, utf8Octets_iff_encodesScalars,
    encodesScalars_iff_toUTF8]

end Libwsc
