import Mathlib.Data.List.Induction
import TypedText.Ascii
import TypedText.Hex

/-!
# TypedText.Proofs.Hex

Bytes as hexadecimal digits, written and read. What has been written is read as it was
(`decodePairs?_encode`), and what can be read is, in small letters, what is written for the bytes
(`encode_of_decodePairs?`). What can be read at all is an even number of digits and nothing else
(`decode_digits`).
-/

namespace TypedText
namespace Hex

/-- One of `0` to `9`, `A` to `F` and `a` to `f`. -/
def IsDigit (c : CodePoint) : Prop :=
  (0x30 ≤ c.val ∧ c.val ≤ 0x39) ∨ (0x41 ≤ c.val ∧ c.val ≤ 0x46) ∨ (0x61 ≤ c.val ∧ c.val ≤ 0x66)

instance (c : CodePoint) : Decidable (IsDigit c) :=
  inferInstanceAs (Decidable (_ ∨ _))

/-- Two digits for each byte. -/
def Pairs (s : Text) : Prop :=
  s.length % 2 = 0 ∧ ∀ c ∈ s, IsDigit c

/-- The digit, in small letters, that a number below sixteen is written as. -/
def smallDigit (x : Nat) : CodePoint :=
  .ofChar (Nat.digitChar x)

variable {c d : CodePoint} {s t rest : Text} {x : Nat} {bytes : List UInt8}

/-! ## One digit -/

theorem isSome_digit?_iff : (digit? c).isSome = true ↔ IsDigit c := by
  simp only [digit?, IsDigit]
  split
  · simp [*]
  · split
    · simp [*]
    · split <;> simp [*]

theorem digit?_smallDigit (h : x < 16) : digit? (smallDigit x) = some x := by
  have htable : ∀ x < 16, digit? (smallDigit x) = some x := by decide
  exact htable x h

/-- What is read as a number is, in small letters, the digit that is written for it. -/
theorem lower_of_digit? (h : digit? c = some x) : x < 16 ∧ Ascii.lower [c] = [smallDigit x] := by
  have htable : ∀ n < 0x67, (digit? (.ofNat n)).all fun x =>
      x < 16 && Ascii.lower [.ofNat n] == [smallDigit x] := by decide
  have hlt : c.val < 0x67 := by
    have hdigit : IsDigit c := isSome_digit?_iff.mp (by rw [h]; rfl)
    rcases hdigit with hd | hd | hd <;> omega
  have hc : CodePoint.ofNat c.val = c := CodePoint.ext (Nat.mod_eq_of_lt c.isLt)
  have hx := htable c.val hlt
  rw [hc, h] at hx
  simpa using hx

/-! ## Pairs of digits -/

theorem encodeByte_eq (b : UInt8) :
    encodeByte b = [smallDigit (b.toNat / 16), smallDigit (b.toNat % 16)] := by
  have hlt : b.toNat / 16 < 16 := by
    have := b.toNat_lt
    omega
  simp [encodeByte, Text.hexDigits, smallDigit, Nat.mod_eq_of_lt hlt]

theorem encode_cons (b : UInt8) (bytes : List UInt8) :
    encode (b :: bytes) = smallDigit (b.toNat / 16) :: smallDigit (b.toNat % 16) :: encode bytes := by
  rw [encode, List.flatMap_cons, encodeByte_eq]
  rfl

theorem decodePairs?_cons_eq_some_iff :
    decodePairs? (c :: d :: rest) = some bytes ↔
      ∃ x y later, digit? c = some x ∧ digit? d = some y ∧ decodePairs? rest = some later ∧
        bytes = UInt8.ofNat (16 * x + y) :: later := by
  rw [decodePairs?]
  cases digit? c <;> cases digit? d <;> cases decodePairs? rest <;> simp [eq_comm]

theorem decodePairs?_encode (bytes : List UInt8) : decodePairs? (encode bytes) = some bytes := by
  induction bytes with
  | nil => rfl
  | cons b bytes ih =>
    have hlt := b.toNat_lt
    have hb : UInt8.ofNat (16 * (b.toNat / 16) + b.toNat % 16) = b := by
      rw [Nat.div_add_mod, UInt8.ofNat_toNat]
    rw [encode_cons, decodePairs?_cons_eq_some_iff]
    exact ⟨_, _, _, digit?_smallDigit (by omega), digit?_smallDigit (by omega), ih, by rw [hb]⟩

theorem isSome_decodePairs?_iff : (decodePairs? s).isSome = true ↔ Pairs s := by
  induction s using List.twoStepInduction with
  | nil => simp [decodePairs?, Pairs]
  | singleton c => simp [decodePairs?, Pairs]
  | cons_cons c d rest ih _ =>
    have hpairs : Pairs (c :: d :: rest) ↔ IsDigit c ∧ IsDigit d ∧ Pairs rest := by
      simp only [Pairs, List.length_cons, List.forall_mem_cons, Nat.add_assoc, Nat.add_mod_right]
      tauto
    rw [hpairs, ← ih, ← isSome_digit?_iff, ← isSome_digit?_iff, decodePairs?]
    cases digit? c <;> cases digit? d <;> cases decodePairs? rest <;> simp

/-- By induction on the text, two digits at a time. -/
theorem encode_of_decodePairs? (h : decodePairs? s = some bytes) : encode bytes = Ascii.lower s := by
  induction s using List.twoStepInduction generalizing bytes with
  | nil =>
    cases h
    rfl
  | singleton c => cases h
  | cons_cons c d rest ih _ =>
    obtain ⟨x, y, later, hx, hy, hlater, rfl⟩ := decodePairs?_cons_eq_some_iff.mp h
    obtain ⟨hx16, hlowerx⟩ := lower_of_digit? hx
    obtain ⟨hy16, hlowery⟩ := lower_of_digit? hy
    have hbyte : (UInt8.ofNat (16 * x + y)).toNat = 16 * x + y := Nat.mod_eq_of_lt (by omega)
    have hhigh : (16 * x + y) / 16 = x := by omega
    have hlow : (16 * x + y) % 16 = y := by omega
    have hlower : Ascii.lower (c :: d :: rest) =
        Ascii.lower [c] ++ (Ascii.lower [d] ++ Ascii.lower rest) := rfl
    rw [encode_cons, hbyte, hhigh, hlow, ih hlater, hlower, hlowerx, hlowery]
    rfl

/-! ## Whole texts -/

theorem encode_ne_nil (h : bytes ≠ []) : encode bytes ≠ [] := by
  cases bytes with
  | nil => exact absurd rfl h
  | cons b bytes => simp [encode_cons]

theorem decode_of_decodePairs? (hne : s ≠ []) (h : decodePairs? s = some bytes) :
    decode (some s) = .ok (some bytes) := by
  have hpairs : Pairs s := isSome_decodePairs?_iff.mp (by rw [h]; rfl)
  simp [decode, hne, hpairs.1, h]

theorem decode_of_not_pairs (hne : s ≠ []) (h : ¬ Pairs s) :
    decode (some s) = .error (if s.length % 2 = 0 then .notHex s else .oddLength s.length) := by
  have hnone : decodePairs? s = none := by
    rw [← Option.not_isSome_iff_eq_none, isSome_decodePairs?_iff]
    exact h
  by_cases heven : s.length % 2 = 0
  · simp [decode, hne, heven, hnone]
  · simp [decode, hne, heven]

/-- Bytes come of nothing but pairs of digits. -/
theorem decode_eq_ok_some_iff :
    decode (some s) = .ok (some bytes) ↔ s ≠ [] ∧ decodePairs? s = some bytes := by
  constructor
  · intro h
    have hne : s ≠ [] := by
      rintro rfl
      cases h
    refine ⟨hne, ?_⟩
    cases hpairs : decodePairs? s with
    | some other =>
      rw [decode_of_decodePairs? hne hpairs] at h
      cases h
      rfl
    | none =>
      have hnot : ¬ Pairs s := by simp [← isSome_decodePairs?_iff, hpairs]
      rw [decode_of_not_pairs hne hnot] at h
      cases h
  · rintro ⟨hne, h⟩
    exact decode_of_decodePairs? hne h

/-- **Writing and reading bytes undo each other.** Bytes that are written are read back. Of texts, just those
of pairs of digits are read, and what is written for their bytes is the text in small letters; so texts that
are read stand for the same bytes exactly if only the case of letters tells them apart. -/
theorem decode_digits :
    (∀ bytes, bytes ≠ [] → decode (some (encode bytes)) = .ok (some bytes)) ∧
    ∀ s : Text, s ≠ [] →
      ((∃ bytes, decode (some s) = .ok (some bytes)) ↔ s.length % 2 = 0 ∧ ∀ c ∈ s, IsDigit c) ∧
      (¬ (s.length % 2 = 0 ∧ ∀ c ∈ s, IsDigit c) →
        decode (some s) = .error (if s.length % 2 = 0 then .notHex s else .oddLength s.length)) ∧
      ∀ bytes, decode (some s) = .ok (some bytes) →
        encode bytes = Ascii.lower s ∧
        ∀ t other, decode (some t) = .ok (some other) →
          (bytes = other ↔ Ascii.lower s = Ascii.lower t) := by
  have hback : ∀ {s : Text} {bytes}, decode (some s) = .ok (some bytes) → encode bytes = Ascii.lower s :=
    fun h => encode_of_decodePairs? (decode_eq_ok_some_iff.mp h).2
  refine ⟨fun bytes hne => decode_of_decodePairs? (encode_ne_nil hne) (decodePairs?_encode bytes),
    fun s hne => ⟨?_, decode_of_not_pairs hne, fun bytes hbytes => ⟨hback hbytes, fun t other hother => ?_⟩⟩⟩
  · simp only [decode_eq_ok_some_iff, hne, ne_eq, not_false_eq_true, true_and]
    rw [← Option.isSome_iff_exists, isSome_decodePairs?_iff, Pairs]
  · rw [← hback hbytes, ← hback hother]
    refine ⟨congrArg encode, fun hsame => ?_⟩
    have hread := decodePairs?_encode bytes
    rw [hsame, decodePairs?_encode] at hread
    exact (Option.some.inj hread).symm

/-- The bytes `AB` and `07`, written, and read with letters of both cases; and a digit with a blank. -/
theorem decode_digits_mixed :
    (([0xAB, 0x07] : List UInt8) ≠ [] ∧ (Text.ofString "aB07") ≠ [] ∧ (Text.ofString "7 ") ≠ []) ∧
    decode (some (encode [0xAB, 0x07])) = .ok (some [0xAB, 0x07]) ∧
    encode [0xAB, 0x07] = Ascii.lower (Text.ofString "aB07") ∧
    decode (some (Text.ofString "7 ")) = .error (.notHex (Text.ofString "7 ")) := by
  have hne : Text.ofString "aB07" ≠ [] := by decide
  have hne' : Text.ofString "7 " ≠ [] := by decide
  have hread : decode (some (Text.ofString "aB07")) = .ok (some [0xAB, 0x07]) := by decide
  refine ⟨⟨by decide, hne, hne'⟩, decode_digits.1 _ (by decide), ?_, ?_⟩
  · exact ((decode_digits.2 _ hne).2.2 _ hread).1
  · exact (decode_digits.2 _ hne').2.1 (by decide)

end Hex
end TypedText
