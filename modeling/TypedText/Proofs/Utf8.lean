import TypedText.Proofs.Text.Whole
import TypedText.Utf8

/-!
# TypedText.Proofs.Utf8

What is written to a file reads back. The bytes of a code point are the front of whatever they stand
before (`front_encodeUnit`), so the bytes of a text without surrogates decode to it (`decode_encode`), and
as a file they do if it has no carriage return (`decodeFile_encode`).
-/

namespace TypedText
namespace Utf8

variable {c : CodePoint} {t : Text} {b second : UInt8} {k : Nat}

theorem isTail_iff : isTail b = true ↔ 0x80 ≤ b.toNat ∧ b.toNat < 0xC0 := by
  simp [isTail, UInt8.le_iff_toNat_le, UInt8.lt_iff_toNat_lt]

theorem secondFits_iff :
    secondFits b second = true ↔
      (0x80 ≤ second.toNat ∧ second.toNat < 0xC0) ∧ ¬ (b.toNat = 0xE0 ∧ second.toNat < 0xA0) ∧
        ¬ (b.toNat = 0xED ∧ 0xA0 ≤ second.toNat) ∧ ¬ (b.toNat = 0xF0 ∧ second.toNat < 0x90) ∧
        ¬ (b.toNat = 0xF4 ∧ 0x90 ≤ second.toNat) := by
  simp only [secondFits, Bool.and_eq_true, isTail_iff, Bool.not_eq_true', Bool.and_eq_false_imp,
    beq_iff_eq, decide_eq_false_iff_not, UInt8.lt_iff_toNat_lt, UInt8.le_iff_toNat_le, ← UInt8.toNat_inj]
  simp only [UInt8.reduceToNat]
  omega

/-! ## The front of bytes, by the number of them that make it -/

section Front

variable {more : Bool} {third fourth : UInt8} {rest : List UInt8}

theorem front_one (hb : b.toNat < 0x80) : front more b rest = .codePoint (.ofNat b.toNat) rest := by
  have hone : b < 0x80 := UInt8.lt_iff_toNat_lt.mpr hb
  simp only [front, if_pos hone]

/-- A first byte of several is neither a code point of its own nor an invalid start. -/
theorem first_of_several (hlow : 0xC2 ≤ b.toNat) (hhigh : b.toNat < 0xF5) :
    ¬ b < 0x80 ∧ ¬ (b < 0xC2 ∨ 0xF5 ≤ b) := by
  simp only [UInt8.lt_iff_toNat_lt, UInt8.le_iff_toNat_le, UInt8.reduceToNat]
  omega

theorem front_two (hlow : 0xC2 ≤ b.toNat) (hhigh : b.toNat < 0xE0)
    (hsecond : secondFits b second = true) :
    front more b (second :: rest) =
      .codePoint (.ofNat (b.toNat % 0x20 * 0x40 + bits second)) rest := by
  obtain ⟨hone, hstart⟩ := first_of_several hlow (by omega)
  have htwo : b < 0xE0 := UInt8.lt_iff_toNat_lt.mpr hhigh
  simp only [front, hone, hstart, hsecond, htwo, Bool.not_true, Bool.false_eq_true, if_false, if_true]

theorem front_three (hlow : 0xE0 ≤ b.toNat) (hhigh : b.toNat < 0xF0)
    (hsecond : secondFits b second = true) (hthird : isTail third = true) :
    front more b (second :: third :: rest) =
      .codePoint (.ofNat (b.toNat % 0x10 * 0x1000 + bits second * 0x40 + bits third)) rest := by
  obtain ⟨hone, hstart⟩ := first_of_several (b := b) (by omega) (by omega)
  have htwo : ¬ b < 0xE0 := by rw [UInt8.lt_iff_toNat_lt]; exact Nat.not_lt.mpr hlow
  have hthree : b < 0xF0 := UInt8.lt_iff_toNat_lt.mpr hhigh
  simp only [front, hone, hstart, hsecond, htwo, hthree, hthird, Bool.not_true, Bool.false_eq_true,
    if_false, if_true]

theorem front_four (hlow : 0xF0 ≤ b.toNat) (hhigh : b.toNat < 0xF5)
    (hsecond : secondFits b second = true) (hthird : isTail third = true)
    (hfourth : isTail fourth = true) :
    front more b (second :: third :: fourth :: rest) =
      .codePoint
        (.ofNat (b.toNat % 0x08 * 0x40000 + bits second * 0x1000 + bits third * 0x40 + bits fourth))
        rest := by
  obtain ⟨hone, hstart⟩ := first_of_several (b := b) (by omega) hhigh
  have htwo : ¬ b < 0xE0 := by rw [UInt8.lt_iff_toNat_lt]; exact Nat.not_lt.mpr (by simp; omega)
  have hthree : ¬ b < 0xF0 := by rw [UInt8.lt_iff_toNat_lt]; exact Nat.not_lt.mpr hlow
  simp only [front, hone, hstart, hsecond, htwo, hthree, hthird, hfourth, Bool.not_true,
    Bool.false_eq_true, if_false]

end Front

/-! ## What is written reads back -/

theorem toNat_byte (h : k < 0x100) : (UInt8.ofNat k).toNat = k :=
  UInt8.toNat_ofNat_of_lt' h

theorem isTail_tail (k : Nat) : isTail (UInt8.ofNat (0x80 + k % 0x40)) = true := by
  rw [isTail_iff, toNat_byte (by omega)]
  omega

theorem bits_tail (k : Nat) : bits (UInt8.ofNat (0x80 + k % 0x40)) = k % 0x40 := by
  rw [bits, toNat_byte (by omega)]
  omega

/-- The bytes of a code point that is no surrogate are the front of any bytes that start with them. -/
theorem front_encodeUnit (more : Bool) (hc : c.isSurrogate = false) (rest : List UInt8) :
    ∃ first after, encodeUnit c = first :: after ∧
      front more first (after ++ rest) = .codePoint c rest := by
  have hscalar : ¬ (0xD800 ≤ c.val ∧ c.val ≤ 0xDFFF) := by
    rw [← CodePoint.isSurrogate_iff, hc]
    simp
  have hlt := c.isLt
  have hself : ∀ {n}, n = c.val → CodePoint.ofNat n = c := by
    rintro n rfl
    exact CodePoint.ext (Nat.mod_eq_of_lt hlt)
  simp only [encodeUnit]
  split
  · refine ⟨_, _, rfl, ?_⟩
    have hfirst : (UInt8.ofNat c.val).toNat = c.val := toNat_byte (by omega)
    rw [front_one (by omega), hself hfirst]
    rfl
  · split
    · refine ⟨_, _, rfl, ?_⟩
      have hfirst : (UInt8.ofNat (0xC0 + c.val / 0x40)).toNat = 0xC0 + c.val / 0x40 :=
        toNat_byte (by omega)
      rw [List.singleton_append, front_two (by omega) (by omega), hself]
      · rw [bits_tail, hfirst]
        omega
      · rw [secondFits_iff, hfirst, toNat_byte (by omega)]
        omega
    · split
      · refine ⟨_, _, rfl, ?_⟩
        have hfirst : (UInt8.ofNat (0xE0 + c.val / 0x1000)).toNat = 0xE0 + c.val / 0x1000 :=
          toNat_byte (by omega)
        rw [List.cons_append, List.singleton_append,
          front_three (by omega) (by omega) ?_ (isTail_tail _), hself]
        · rw [bits_tail, bits_tail, hfirst]
          omega
        · rw [secondFits_iff, hfirst, toNat_byte (by omega)]
          omega
      · refine ⟨_, _, rfl, ?_⟩
        have hfirst : (UInt8.ofNat (0xF0 + c.val / 0x40000)).toNat = 0xF0 + c.val / 0x40000 :=
          toNat_byte (by omega)
        rw [List.cons_append, List.cons_append, List.singleton_append,
          front_four (by omega) (by omega) ?_ (isTail_tail _) (isTail_tail _), hself]
        · rw [bits_tail, bits_tail, bits_tail, hfirst]
          omega
        · rw [secondFits_iff, hfirst, toNat_byte (by omega)]
          omega

theorem decodeFrom_encode (ht : t.hasSurrogate = false) :
    ∀ {fuel position}, (t.flatMap encodeUnit).length ≤ fuel →
      decodeFrom fuel position (t.flatMap encodeUnit) = .ok t := by
  induction t with
  | nil => intro fuel position _; cases fuel <;> rfl
  | cons c rest ih =>
    intro fuel position hfuel
    obtain ⟨hc, hrest⟩ := Text.hasSurrogate_cons_eq_false_iff.mp ht
    obtain ⟨first, after, hbytes, hfront⟩ :=
      front_encodeUnit true hc (rest.flatMap encodeUnit)
    rw [List.flatMap_cons, hbytes, List.cons_append] at hfuel ⊢
    cases fuel with
    | zero => simp at hfuel
    | succ fuel =>
      have hleft : (rest.flatMap encodeUnit).length ≤ fuel := by
        simp only [List.length_cons, List.length_append] at hfuel
        omega
      simp only [decodeFrom, hfront, ih hrest hleft]

theorem decode_encode (ht : t.hasSurrogate = false) : decode (t.flatMap encodeUnit) = .ok t :=
  decodeFrom_encode ht (Nat.le_refl _)

theorem lineFeeds_eq_self (h : ∀ c ∈ t, c.val ≠ 0x0D) : lineFeeds t = t := by
  induction t with
  | nil => rfl
  | cons c rest ih =>
    rw [List.forall_mem_cons] at h
    rw [lineFeeds.eq_def]
    simp only [if_neg h.1, ih h.2]

theorem decodeFile_encode (ht : t.hasSurrogate = false) (hreturn : ∀ c ∈ t, c.val ≠ 0x0D) :
    decodeFile (t.flatMap encodeUnit) = .ok t := by
  rw [decodeFile, decode_encode ht]
  exact congrArg Except.ok (lineFeeds_eq_self hreturn)

end Utf8
end TypedText
