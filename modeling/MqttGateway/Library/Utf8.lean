import Mathlib.Data.List.Basic
import Mathlib.Tactic.Common

/-!
# UTF-8 over code points that may be surrogates

Text is a list of code points below {lit}`0x110000`, surrogates included; a
surrogate has no encoding.  The decoder reads one byte at a time and reports
each maximal ill-formed piece of its input once, so that the strict decoder and
the replacing decoder are two readings of one scan.

Main results:

- Definition {lit}`scan`: the code points and ill-formed pieces of a byte string.
- Theorem {lit}`decodeReplace_eq_of_decode`: where strict decoding succeeds, decoding
  with replacement gives the same text.
- Theorems {lit}`decode_encode` and {lit}`encode_of_decode`: encoding and strict decoding are
  inverse to each other.
-/

namespace Toolkit

namespace Utf8

/-- A code point, surrogates included. -/
abbrev CodePoint := Fin 0x110000

instance neZero_codePoints : @NeZero Nat Zero.ofOfNat0 0x110000 :=
  ⟨by decide⟩

instance lawfulBEq_codePoint : LawfulBEq CodePoint :=
  inferInstance

/-- The replacement character put in the place of an ill-formed piece. -/
def replacement : CodePoint := 0xFFFD

/-! ## Encoding -/

/-- Surrogates are code points without an encoding of their own. -/
def isSurrogate (c : CodePoint) : Bool :=
  0xD800 ≤ c.val && c.val ≤ 0xDFFF

/-- The bytes of one code point. -/
def encodeOne (c : CodePoint) : Option (List UInt8) :=
  let n := c.val
  if isSurrogate c then none
  else if n < 0x80 then some [UInt8.ofNat n]
  else if n < 0x800 then
    some [UInt8.ofNat (0xC0 + n / 0x40), UInt8.ofNat (0x80 + n % 0x40)]
  else if n < 0x10000 then
    some [UInt8.ofNat (0xE0 + n / 0x1000), UInt8.ofNat (0x80 + n / 0x40 % 0x40),
      UInt8.ofNat (0x80 + n % 0x40)]
  else
    some [UInt8.ofNat (0xF0 + n / 0x40000), UInt8.ofNat (0x80 + n / 0x1000 % 0x40),
      UInt8.ofNat (0x80 + n / 0x40 % 0x40), UInt8.ofNat (0x80 + n % 0x40)]

/-- The bytes of a text, unless it holds a surrogate. -/
def encode : List CodePoint → Option (List UInt8)
  | [] => some []
  | c :: text => do
      let bytes ← encodeOne c
      let rest ← encode text
      return bytes ++ rest

/-! ## Decoding -/

/-- A sequence begun but not finished: the bits read so far, the number of
continuation bytes owed, and the range the next of them must lie in. -/
structure Partial where
  bits : Nat
  owed : Nat
  low : Nat
  high : Nat
deriving DecidableEq, Repr

/-- What a byte means between two sequences. -/
inductive Lead where
  | single (n : Nat)
  | opens (p : Partial)
  | invalid
deriving DecidableEq, Repr

/-- Classify the first byte of a sequence.  The narrowed ranges after {lit}`E0`,
{lit}`ED`, {lit}`F0` and {lit}`F4` rule out overlong forms, surrogates and values past the
last code point. -/
def lead (b : Nat) : Lead :=
  if b < 0x80 then .single b
  else if b < 0xC2 then .invalid
  else if b < 0xE0 then .opens ⟨b - 0xC0, 1, 0x80, 0xBF⟩
  else if b < 0xF0 then
    .opens ⟨b - 0xE0, 2, if b = 0xE0 then 0xA0 else 0x80, if b = 0xED then 0x9F else 0xBF⟩
  else if b < 0xF5 then
    .opens ⟨b - 0xF0, 3, if b = 0xF0 then 0x90 else 0x80, if b = 0xF4 then 0x8F else 0xBF⟩
  else .invalid

/-- The code point of a finished sequence. -/
def codePoint? (n : Nat) : Option CodePoint :=
  if h : n < 0x110000 then some ⟨n, h⟩ else none

/-- Scan bytes into code points; {lean}`none` marks one maximal ill-formed piece.
The first argument is the sequence the scan stands in. -/
def scanFrom : Option Partial → List UInt8 → List (Option CodePoint)
  | none, [] => []
  | some _, [] => [none]
  | state, b :: bytes =>
      match state with
      | some p =>
          if p.low ≤ b.toNat ∧ b.toNat ≤ p.high then
            let bits := p.bits * 0x40 + (b.toNat - 0x80)
            if p.owed ≤ 1 then codePoint? bits :: scanFrom none bytes
            else scanFrom (some ⟨bits, p.owed - 1, 0x80, 0xBF⟩) bytes
          else
            -- The byte that breaks a sequence is read again as a first byte.
            match lead b.toNat with
            | .single n => none :: codePoint? n :: scanFrom none bytes
            | .opens q => none :: scanFrom (some q) bytes
            | .invalid => none :: none :: scanFrom none bytes
      | none =>
          match lead b.toNat with
          | .single n => codePoint? n :: scanFrom none bytes
          | .opens q => scanFrom (some q) bytes
          | .invalid => none :: scanFrom none bytes

/-- Scan a whole byte string. -/
def scan (bytes : List UInt8) : List (Option CodePoint) :=
  scanFrom none bytes

/-- All entries of a list of options, if none is missing. -/
def allSome {α : Type*} : List (Option α) → Option (List α)
  | [] => some []
  | none :: _ => none
  | some a :: rest => (allSome rest).map (a :: ·)

/-- Strict decoding: any ill-formed piece is refused. -/
def decode (bytes : List UInt8) : Option (List CodePoint) :=
  allSome (scan bytes)

/-- Decoding with one replacement character for each ill-formed piece. -/
def decodeReplace (bytes : List UInt8) : List CodePoint :=
  (scan bytes).map fun piece => piece.getD replacement

theorem map_getD_of_allSome {α : Type*} {pieces : List (Option α)} {text : List α} (a : α)
    (h : allSome pieces = some text) : pieces.map (fun piece => piece.getD a) = text := by
  induction pieces generalizing text with
  | nil =>
      cases h
      rfl
  | cons piece rest ih =>
      cases piece with
      | none => cases h
      | some b =>
          rcases Option.map_eq_some_iff.mp h with ⟨tail, htail, rfl⟩
          simp [ih htail]

/-- Where strict decoding succeeds, decoding with replacement gives the same text. -/
theorem decodeReplace_eq_of_decode {bytes : List UInt8} {text : List CodePoint}
    (h : decode bytes = some text) : decodeReplace bytes = text :=
  map_getD_of_allSome replacement h

-- A lone continuation byte and a truncated sequence are one ill-formed piece each.
example : scan [0x32, 0xFF, 0xE2, 0x82] = [some 0x32, none, none] := by decide

/-! ## Round trips -/

theorem toNat_ofNat_of_lt {n : Nat} (h : n < 0x100) : (UInt8.ofNat n).toNat = n :=
  Nat.mod_eq_of_lt h

theorem ofNat_eq {n : Nat} {b : UInt8} (h : b.toNat = n) : UInt8.ofNat n = b := by
  rw [← h, UInt8.ofNat_toNat]

/-- The bytes of a code point, by their number. -/
theorem encodeOne_eq_some_iff {c : CodePoint} {bytes : List UInt8} :
    encodeOne c = some bytes ↔
      (c.val < 0x80 ∧ ∃ a, bytes = [a] ∧ a.toNat = c.val) ∨
      (0x80 ≤ c.val ∧ c.val < 0x800 ∧ ∃ a b, bytes = [a, b] ∧
        a.toNat = 0xC0 + c.val / 0x40 ∧ b.toNat = 0x80 + c.val % 0x40) ∨
      (0x800 ≤ c.val ∧ c.val < 0x10000 ∧ ¬(0xD800 ≤ c.val ∧ c.val ≤ 0xDFFF) ∧
        ∃ a b d, bytes = [a, b, d] ∧ a.toNat = 0xE0 + c.val / 0x1000 ∧
          b.toNat = 0x80 + c.val / 0x40 % 0x40 ∧ d.toNat = 0x80 + c.val % 0x40) ∨
      (0x10000 ≤ c.val ∧ ∃ a b d e, bytes = [a, b, d, e] ∧
        a.toNat = 0xF0 + c.val / 0x40000 ∧ b.toNat = 0x80 + c.val / 0x1000 % 0x40 ∧
        d.toNat = 0x80 + c.val / 0x40 % 0x40 ∧ e.toNat = 0x80 + c.val % 0x40) := by
  have hlt := c.isLt
  simp only [encodeOne, isSurrogate, Bool.and_eq_true, decide_eq_true_eq]
  constructor
  · intro h
    split_ifs at h with hsurrogate h1 h2 h3
    · cases h
      exact Or.inl ⟨h1, _, rfl, toNat_ofNat_of_lt (by omega)⟩
    · cases h
      exact Or.inr (Or.inl ⟨by omega, h2, _, _, rfl, toNat_ofNat_of_lt (by omega),
        toNat_ofNat_of_lt (by omega)⟩)
    · cases h
      exact Or.inr (Or.inr (Or.inl ⟨by omega, h3, hsurrogate, _, _, _, rfl,
        toNat_ofNat_of_lt (by omega), toNat_ofNat_of_lt (by omega),
        toNat_ofNat_of_lt (by omega)⟩))
    · cases h
      exact Or.inr (Or.inr (Or.inr ⟨by omega, _, _, _, _, rfl, toNat_ofNat_of_lt (by omega),
        toNat_ofNat_of_lt (by omega), toNat_ofNat_of_lt (by omega),
        toNat_ofNat_of_lt (by omega)⟩))
  · rintro (⟨h1, a, rfl, ha⟩ | ⟨h1, h2, a, b, rfl, ha, hb⟩ |
      ⟨h2, h3, hsurrogate, a, b, d, rfl, ha, hb, hd⟩ | ⟨h3, a, b, d, e, rfl, ha, hb, hd, he⟩)
    · rw [if_neg (by omega), if_pos h1, ofNat_eq ha]
    · rw [if_neg (by omega), if_neg (by omega), if_pos h2, ofNat_eq ha, ofNat_eq hb]
    · rw [if_neg hsurrogate, if_neg (by omega), if_neg (by omega), if_pos h3, ofNat_eq ha,
        ofNat_eq hb, ofNat_eq hd]
    · rw [if_neg (by omega), if_neg (by omega), if_neg (by omega), if_neg (by omega),
        ofNat_eq ha, ofNat_eq hb, ofNat_eq hd, ofNat_eq he]

theorem codePoint?_eq_some_iff {n : Nat} {c : CodePoint} :
    codePoint? n = some c ↔ n = c.val := by
  unfold codePoint?
  split
  · rw [Option.some.injEq, Fin.ext_iff]
  · next h =>
      have hlt := c.isLt
      constructor
      · intro hnone
        cases hnone
      · intro heq
        omega

/-- A byte in the range of a sequence that owes more bytes continues it. -/
theorem scanFrom_continues {p : Partial} {b : UInt8} (hlow : p.low ≤ b.toNat)
    (hhigh : b.toNat ≤ p.high) (howed : 1 < p.owed) (rest : List UInt8) :
    scanFrom (some p) (b :: rest) =
      scanFrom (some ⟨p.bits * 0x40 + (b.toNat - 0x80), p.owed - 1, 0x80, 0xBF⟩) rest := by
  rw [scanFrom, if_pos ⟨hlow, hhigh⟩, if_neg (Nat.not_le.mpr howed)]

/-- The last byte of a sequence ends it. -/
theorem scanFrom_finishes {p : Partial} {b : UInt8} (hlow : p.low ≤ b.toNat)
    (hhigh : b.toNat ≤ p.high) (howed : p.owed ≤ 1) (rest : List UInt8) :
    scanFrom (some p) (b :: rest) =
      codePoint? (p.bits * 0x40 + (b.toNat - 0x80)) :: scanFrom none rest := by
  rw [scanFrom, if_pos ⟨hlow, hhigh⟩, if_pos howed]

/-- The bytes of a code point are scanned to the code point. -/
theorem scanFrom_encodeOne {c : CodePoint} {bytes : List UInt8} (h : encodeOne c = some bytes)
    (rest : List UInt8) : scanFrom none (bytes ++ rest) = some c :: scanFrom none rest := by
  have hlt := c.isLt
  have hpoint : ∀ n, n = c.val → codePoint? n = some c := fun n => codePoint?_eq_some_iff.mpr
  rcases encodeOne_eq_some_iff.mp h with ⟨h1, a, rfl, ha⟩ | ⟨h1, h2, a, b, rfl, ha, hb⟩ |
    ⟨h2, h3, hsurrogate, a, b, d, rfl, ha, hb, hd⟩ | ⟨h3, a, b, d, e, rfl, ha, hb, hd, he⟩
  · have hlead : lead a.toNat = .single c.val := by
      rw [lead, if_pos (by omega), ha]
    simp only [List.cons_append, List.nil_append, scanFrom, hlead, hpoint _ rfl]
  · have hlead : lead a.toNat = .opens ⟨a.toNat - 0xC0, 1, 0x80, 0xBF⟩ := by
      rw [lead, if_neg (by omega), if_neg (by omega), if_pos (by omega)]
    simp only [List.cons_append, List.nil_append, scanFrom.eq_4, hlead]
    rw [scanFrom_finishes (by dsimp; omega) (by dsimp; omega) (by simp), hpoint]
    dsimp
    omega
  · have hlead : lead a.toNat = .opens ⟨a.toNat - 0xE0, 2,
        if a.toNat = 0xE0 then 0xA0 else 0x80, if a.toNat = 0xED then 0x9F else 0xBF⟩ := by
      rw [lead, if_neg (by omega), if_neg (by omega), if_neg (by omega), if_pos (by omega)]
    simp only [List.cons_append, List.nil_append, scanFrom.eq_4, hlead]
    rw [scanFrom_continues, scanFrom_finishes, hpoint]
    all_goals dsimp
    · omega
    · omega
    · omega
    · omega
    · split <;> omega
    · split <;> omega
    · omega
  · have hlead : lead a.toNat = .opens ⟨a.toNat - 0xF0, 3,
        if a.toNat = 0xF0 then 0x90 else 0x80, if a.toNat = 0xF4 then 0x8F else 0xBF⟩ := by
      rw [lead, if_neg (by omega), if_neg (by omega), if_neg (by omega), if_neg (by omega),
        if_pos (by omega)]
    simp only [List.cons_append, List.nil_append, scanFrom.eq_4, hlead]
    rw [scanFrom_continues, scanFrom_continues, scanFrom_finishes, hpoint]
    all_goals dsimp
    · omega
    · omega
    · omega
    · omega
    · omega
    · omega
    · omega
    · split <;> omega
    · split <;> omega
    · omega

/-- The bytes of a text are scanned to the text. -/
theorem scan_encode {text : List CodePoint} {bytes : List UInt8} (h : encode text = some bytes) :
    scan bytes = text.map some := by
  induction text generalizing bytes with
  | nil =>
      cases h
      rfl
  | cons c text ih =>
      rcases Option.bind_eq_some_iff.mp h with ⟨first, hfirst, hrest⟩
      rcases Option.bind_eq_some_iff.mp hrest with ⟨rest, hencode, heq⟩
      cases heq
      rw [scan, scanFrom_encodeOne hfirst, ← scan, ih hencode, List.map_cons]

theorem allSome_eq_some_iff {α : Type*} {pieces : List (Option α)} {text : List α} :
    allSome pieces = some text ↔ pieces = text.map some := by
  induction pieces generalizing text with
  | nil =>
      cases text with
      | nil => simp [allSome]
      | cons a text => simp [allSome]
  | cons piece rest ih =>
      cases piece with
      | none =>
          cases text with
          | nil => simp [allSome]
          | cons a text => simp [allSome]
      | some b =>
          cases text with
          | nil => simp [allSome]
          | cons a text => simp [allSome, ih, and_comm]

/-- Decoding undoes encoding. -/
theorem decode_encode {text : List CodePoint} {bytes : List UInt8} (h : encode text = some bytes) :
    decode bytes = some text :=
  allSome_eq_some_iff.mpr (scan_encode h)

/-- A text has one encoding, which no other text has. -/
theorem encode_injective {text text' : List CodePoint} {bytes : List UInt8}
    (h : encode text = some bytes) (h' : encode text' = some bytes) : text = text' :=
  Option.some.inj ((decode_encode h).symm.trans (decode_encode h'))

/-- A sequence that owes more bytes and is scanned without a fault goes on with a byte in its
range. -/
theorem continues_of_scanFrom {p : Partial} {bytes : List UInt8} {text : List CodePoint}
    (howed : 1 < p.owed) (h : scanFrom (some p) bytes = text.map some) :
    ∃ b rest, bytes = b :: rest ∧ p.low ≤ b.toNat ∧ b.toNat ≤ p.high ∧
      scanFrom (some ⟨p.bits * 0x40 + (b.toNat - 0x80), p.owed - 1, 0x80, 0xBF⟩) rest =
        text.map some := by
  cases bytes with
  | nil => cases text <;> simp [scanFrom] at h
  | cons b rest =>
      by_cases hrange : p.low ≤ b.toNat ∧ b.toNat ≤ p.high
      · rw [scanFrom_continues hrange.1 hrange.2 howed] at h
        exact ⟨b, rest, rfl, hrange.1, hrange.2, h⟩
      · rw [scanFrom, if_neg hrange] at h
        split at h <;> cases text <;> simp at h

/-- A sequence that owes one byte and is scanned without a fault ends with it. -/
theorem finishes_of_scanFrom {p : Partial} {bytes : List UInt8} {text : List CodePoint}
    (howed : p.owed ≤ 1) (h : scanFrom (some p) bytes = text.map some) :
    ∃ b rest c text', bytes = b :: rest ∧ text = c :: text' ∧ p.low ≤ b.toNat ∧
      b.toNat ≤ p.high ∧ p.bits * 0x40 + (b.toNat - 0x80) = c.val ∧
      scan rest = text'.map some := by
  cases bytes with
  | nil => cases text <;> simp [scanFrom] at h
  | cons b rest =>
      by_cases hrange : p.low ≤ b.toNat ∧ b.toNat ≤ p.high
      · rw [scanFrom_finishes hrange.1 hrange.2 howed] at h
        cases text with
        | nil => cases h
        | cons c text' =>
            rw [List.map_cons, List.cons.injEq, codePoint?_eq_some_iff] at h
            exact ⟨b, rest, c, text', rfl, rfl, hrange.1, hrange.2, h.1, h.2⟩
      · rw [scanFrom, if_neg hrange] at h
        split at h <;> cases text <;> simp at h

/-- What a first byte can be. -/
theorem lead_cases (b : Nat) :
    (b < 0x80 ∧ lead b = .single b) ∨ lead b = .invalid ∨
      (0xC2 ≤ b ∧ b < 0xE0 ∧ lead b = .opens ⟨b - 0xC0, 1, 0x80, 0xBF⟩) ∨
      (0xE0 ≤ b ∧ b < 0xF0 ∧ lead b = .opens ⟨b - 0xE0, 2, if b = 0xE0 then 0xA0 else 0x80,
        if b = 0xED then 0x9F else 0xBF⟩) ∨
      (0xF0 ≤ b ∧ b < 0xF5 ∧ lead b = .opens ⟨b - 0xF0, 3, if b = 0xF0 then 0x90 else 0x80,
        if b = 0xF4 then 0x8F else 0xBF⟩) := by
  by_cases h1 : b < 0x80
  · exact Or.inl ⟨h1, by rw [lead, if_pos h1]⟩
  · by_cases h2 : b < 0xC2
    · exact Or.inr (Or.inl (by rw [lead, if_neg h1, if_pos h2]))
    · by_cases h3 : b < 0xE0
      · refine Or.inr (Or.inr (Or.inl ⟨by omega, h3, ?_⟩))
        rw [lead, if_neg h1, if_neg h2, if_pos h3]
      · by_cases h4 : b < 0xF0
        · refine Or.inr (Or.inr (Or.inr (Or.inl ⟨by omega, h4, ?_⟩)))
          rw [lead, if_neg h1, if_neg h2, if_neg h3, if_pos h4]
        · by_cases h5 : b < 0xF5
          · refine Or.inr (Or.inr (Or.inr (Or.inr ⟨by omega, h5, ?_⟩)))
            rw [lead, if_neg h1, if_neg h2, if_neg h3, if_neg h4, if_pos h5]
          · refine Or.inr (Or.inl ?_)
            rw [lead, if_neg h1, if_neg h2, if_neg h3, if_neg h4, if_neg h5]

/-- The first bytes of what is scanned without a fault are those of its first code point. -/
theorem encodeOne_of_scan {a : UInt8} {bytes : List UInt8} {text : List CodePoint}
    (h : scan (a :: bytes) = text.map some) :
    ∃ c text' first rest, text = c :: text' ∧ a :: bytes = first ++ rest ∧ first ≠ [] ∧
      encodeOne c = some first ∧ scan rest = text'.map some := by
  rw [scan, scanFrom] at h
  rcases lead_cases a.toNat with ⟨hless, hlead⟩ | hlead | ⟨hfrom, hto, hlead⟩ |
    ⟨hfrom, hto, hlead⟩ | ⟨hfrom, hto, hlead⟩
  · rw [hlead] at h
    cases text with
    | nil => cases h
    | cons c text' =>
        rw [List.map_cons, List.cons.injEq, codePoint?_eq_some_iff] at h
        refine ⟨c, text', [a], bytes, rfl, rfl, List.cons_ne_nil _ _, ?_, h.2⟩
        exact encodeOne_eq_some_iff.mpr (Or.inl ⟨by omega, a, rfl, h.1⟩)
  · rw [hlead] at h
    cases text <;> cases h
  · rw [hlead] at h
    rcases finishes_of_scanFrom (Nat.le_refl 1) h with
      ⟨b, rest, c, text', rfl, rfl, hlow, hhigh, hvalue, hrest⟩
    dsimp only at hlow hhigh hvalue
    refine ⟨c, text', [a, b], rest, rfl, rfl, List.cons_ne_nil _ _, ?_, hrest⟩
    exact encodeOne_eq_some_iff.mpr (Or.inr (Or.inl
      ⟨by omega, by omega, a, b, rfl, by omega, by omega⟩))
  · rw [hlead] at h
    rcases continues_of_scanFrom (by simp) h with ⟨b, rest, rfl, hlow, hhigh, h⟩
    rcases finishes_of_scanFrom (by simp) h with
      ⟨d, rest, c, text', rfl, rfl, hlow', hhigh', hvalue, hrest⟩
    dsimp only at hlow hhigh hlow' hhigh' hvalue
    have hb : 0x80 ≤ b.toNat ∧ b.toNat ≤ 0xBF ∧ (a.toNat = 0xE0 → 0xA0 ≤ b.toNat) ∧
        (a.toNat = 0xED → b.toNat ≤ 0x9F) := by
      split_ifs at hlow hhigh <;> omega
    refine ⟨c, text', [a, b, d], rest, rfl, rfl, List.cons_ne_nil _ _, ?_, hrest⟩
    exact encodeOne_eq_some_iff.mpr (Or.inr (Or.inr (Or.inl
      ⟨by omega, by omega, by omega, a, b, d, rfl, by omega, by omega, by omega⟩)))
  · rw [hlead] at h
    rcases continues_of_scanFrom (by simp) h with ⟨b, rest, rfl, hlow, hhigh, h⟩
    rcases continues_of_scanFrom (by simp) h with ⟨d, rest, rfl, hlow', hhigh', h⟩
    rcases finishes_of_scanFrom (by simp) h with
      ⟨e, rest, c, text', rfl, rfl, hlow'', hhigh'', hvalue, hrest⟩
    dsimp only at hlow hhigh hlow' hhigh' hlow'' hhigh'' hvalue
    have hb : 0x80 ≤ b.toNat ∧ b.toNat ≤ 0xBF ∧ (a.toNat = 0xF0 → 0x90 ≤ b.toNat) ∧
        (a.toNat = 0xF4 → b.toNat ≤ 0x8F) := by
      split_ifs at hlow hhigh <;> omega
    refine ⟨c, text', [a, b, d, e], rest, rfl, rfl, List.cons_ne_nil _ _, ?_, hrest⟩
    exact encodeOne_eq_some_iff.mpr (Or.inr (Or.inr (Or.inr
      ⟨by omega, a, b, d, e, rfl, by omega, by omega, by omega, by omega⟩)))

/-- Encoding undoes decoding: every byte string that can be decoded is the encoding of its text. -/
theorem encode_of_decode {bytes : List UInt8} {text : List CodePoint}
    (h : decode bytes = some text) : encode text = some bytes := by
  rw [decode, allSome_eq_some_iff] at h
  induction hn : bytes.length using Nat.strongRecOn generalizing bytes text with
  | ind n ih =>
      cases bytes with
      | nil =>
          cases text with
          | nil => rfl
          | cons c text => cases h
      | cons a bytes =>
          rcases encodeOne_of_scan h with ⟨c, text', first, rest, rfl, hsplit, hne, hfirst, hrest⟩
          have hlength := congrArg List.length hsplit
          rw [List.length_append] at hlength
          have hpos := List.length_pos_of_ne_nil hne
          have htail := ih rest.length (by omega) hrest rfl
          rw [hsplit, encode, hfirst, htail]
          rfl

end Utf8

end Toolkit
