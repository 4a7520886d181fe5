import MqttGateway.Library.Utf8

/-!
# Hexadecimal text

Two lower-case digits a byte.  The decoder also takes upper-case digits and leaves out
characters that it is told are blank, where a byte may begin; on lower-case text the two
are inverse to each other, so that every sequence of bytes has one lower-case spelling.

Main results:

- Theorem {lit}`decode_encode`: what was encoded is decoded.
- Theorem {lit}`exists_encode_eq`: lower-case text of even length is the encoding of something.
-/

namespace Toolkit
namespace Hex

open Utf8 (CodePoint)

/-- The lower-case digit of a number below sixteen. -/
def digit (n : Nat) : CodePoint :=
  Fin.ofNat 0x110000 (if n < 10 then 0x30 + n else 0x57 + n)

/-- The number of a digit of either case. -/
def digitValue (c : CodePoint) : Option Nat :=
  let n := c.val
  if 0x30 ≤ n ∧ n ≤ 0x39 then some (n - 0x30)
  else if 0x61 ≤ n ∧ n ≤ 0x66 then some (n - 0x57)
  else if 0x41 ≤ n ∧ n ≤ 0x46 then some (n - 0x37)
  else none

/-- A digit that is not in upper case. -/
def isLowerDigit (c : CodePoint) : Bool :=
  let n := c.val
  (0x30 ≤ n && n ≤ 0x39) || (0x61 ≤ n && n ≤ 0x66)

/-- The text of a sequence of bytes. -/
def encode : List UInt8 → List CodePoint
  | [] => []
  | b :: bytes => digit (b.toNat / 16) :: digit (b.toNat % 16) :: encode bytes

/-- The bytes of a text; no blank stands between the two digits of a byte. -/
def decode (blank : CodePoint → Bool) : List CodePoint → Option (List UInt8)
  | [] => some []
  | [c] => if blank c then some [] else none
  | c :: d :: rest =>
      if blank c then decode blank (d :: rest)
      else
        match digitValue c, digitValue d with
        | some high, some low => (decode blank rest).map (UInt8.ofNat (16 * high + low) :: ·)
        | _, _ => none

/-! ## Digits -/

theorem digitValue_digit {n : Nat} (h : n < 16) : digitValue (digit n) = some n := by
  have hall : ∀ n : Fin 16, digitValue (digit n) = some n.val := by decide
  exact hall ⟨n, h⟩

theorem isLowerDigit_digit {n : Nat} (h : n < 16) : isLowerDigit (digit n) = true := by
  have hall : ∀ n : Fin 16, isLowerDigit (digit n) = true := by decide
  exact hall ⟨n, h⟩

/-- A lower-case digit is the digit of its number. -/
theorem exists_digit_eq {c : CodePoint} (h : isLowerDigit c = true) : ∃ n < 16, digit n = c := by
  have hrange : (0x30 ≤ c.val ∧ c.val ≤ 0x39) ∨ (0x61 ≤ c.val ∧ c.val ≤ 0x66) := by
    simpa [isLowerDigit] using h
  rcases hrange with hdecimal | hletter
  · refine ⟨c.val - 0x30, by omega, ?_⟩
    rw [digit, if_pos (by omega), Nat.add_sub_cancel' hdecimal.1]
    exact Fin.ofNat_val_eq_self c
  · refine ⟨c.val - 0x57, by omega, ?_⟩
    rw [digit, if_neg (by omega), Nat.add_sub_cancel' (by omega)]
    exact Fin.ofNat_val_eq_self c

/-! ## Round trips -/

@[simp]
theorem length_encode (bytes : List UInt8) : (encode bytes).length = 2 * bytes.length := by
  induction bytes with
  | nil => rfl
  | cons b bytes ih =>
      rw [encode, List.length_cons, List.length_cons, ih, List.length_cons]
      omega

theorem isLowerDigit_of_mem_encode {bytes : List UInt8} {c : CodePoint} (h : c ∈ encode bytes) :
    isLowerDigit c = true := by
  induction bytes with
  | nil => cases h
  | cons b bytes ih =>
      have hb := b.toNat_lt
      rw [encode, List.mem_cons, List.mem_cons] at h
      rcases h with rfl | rfl | hrest
      · exact isLowerDigit_digit (by omega)
      · exact isLowerDigit_digit (by omega)
      · exact ih hrest

section

variable {blank : CodePoint → Bool}

/-- What was encoded is decoded. -/
theorem decode_encode (hblank : ∀ c, isLowerDigit c = true → blank c = false)
    (bytes : List UInt8) : decode blank (encode bytes) = some bytes := by
  induction bytes with
  | nil => rfl
  | cons b bytes ih =>
      have hb := b.toNat_lt
      have hhigh : b.toNat / 16 < 16 := by omega
      have hlow : b.toNat % 16 < 16 := by omega
      have hvisible : blank (digit (b.toNat / 16)) = false :=
        hblank _ (isLowerDigit_digit hhigh)
      have hbyte : UInt8.ofNat (16 * (b.toNat / 16) + b.toNat % 16) = b := by
        rw [Nat.div_add_mod]
        exact UInt8.ofNat_toNat
      rw [encode, decode, hvisible, if_neg Bool.false_ne_true, digitValue_digit hhigh,
        digitValue_digit hlow, ih]
      simp only [Option.map_some, hbyte]

/-- A sequence of bytes has one lower-case spelling. -/
theorem encode_injective {x y : List UInt8} (h : encode x = encode y) : x = y := by
  have hx : decode (fun _ => false) (encode x) = some x := decode_encode (fun _ _ => rfl) x
  rw [h, decode_encode fun _ _ => rfl, Option.some.injEq] at hx
  exact hx.symm

/-- Lower-case text of even length is the encoding of something. -/
theorem exists_encode_eq {text : List CodePoint} {n : Nat} (hlength : text.length = 2 * n)
    (hdigits : ∀ c ∈ text, isLowerDigit c = true) :
    ∃ bytes, bytes.length = n ∧ encode bytes = text := by
  induction n generalizing text with
  | zero =>
      have hnil : text = [] := List.eq_nil_of_length_eq_zero hlength
      exact ⟨[], rfl, hnil.symm⟩
  | succ n ih =>
      match text with
      | [] => simp at hlength
      | [c] =>
          rw [List.length_singleton] at hlength
          omega
      | c :: d :: rest =>
          rcases exists_digit_eq (hdigits c (by simp)) with ⟨high, hhigh, rfl⟩
          rcases exists_digit_eq (hdigits d (by simp)) with ⟨low, hlow, rfl⟩
          have hrest : rest.length = 2 * n := by
            rw [List.length_cons, List.length_cons] at hlength
            omega
          rcases ih hrest fun c hc => hdigits c (by simp [hc]) with ⟨bytes, hbytes, rfl⟩
          have hvalue : (UInt8.ofNat (16 * high + low)).toNat = 16 * high + low := by
            rw [UInt8.toNat_ofNat', Nat.mod_eq_of_lt]
            omega
          refine ⟨UInt8.ofNat (16 * high + low) :: bytes, by rw [List.length_cons, hbytes], ?_⟩
          rw [encode, hvalue]
          have hdiv : (16 * high + low) / 16 = high := by omega
          have hmod : (16 * high + low) % 16 = low := by omega
          rw [hdiv, hmod]

end

end Hex
end Toolkit
