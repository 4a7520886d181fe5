import MqttGateway.Library.Effect
import MqttGateway.Library.Utf8

/-!
# Python values and exceptions

The parts of the language the gateway's modules are written in: strings as lists
of code points (lone surrogates included, as in a Python {lit}`str`), byte strings,
the exceptions that the modelled code raises or catches, the methods of {lit}`str` it
calls, and the non-blocking methods of {lit}`asyncio.Queue`.
-/

namespace MqttGateway

open Toolkit

/-- A Python {lit}`str`. -/
abbrev PyStr := List Utf8.CodePoint

/-- A Python {lit}`bytes` object. -/
abbrev Bytes := List UInt8

/-- The exceptions the gateway raises, catches or lets through.  {lit}`other` stands
for any class that no {lit}`except` clause of the modelled code names. -/
inductive PyException where
  | httpException (statusCode : Nat) (detail : String)
  | runtimeError (message : String)
  | valueError (message : String)
  | unicodeError
  | typeError
  | keyError
  | indexError
  | timeoutError
  | webSocketDisconnect
  | queueFull
  | queueEmpty
  | cancelledError
  | exceptionGroup
  | invalidTokenError
  | overflowError
  | other
deriving DecidableEq, Repr

/-- {lit}`except Exception` catches everything but a cancellation. -/
def PyException.isException : PyException → Bool
  | .cancelledError => false
  | _ => true

/-- A loop that raises nothing raises nothing for any element. -/
theorem forM_eq_ok {α : Type} {f : α → Except PyException Unit} {xs : List α}
    (h : forM xs f = .ok ()) {x : α} (hx : x ∈ xs) : f x = .ok () := by
  induction xs with
  | nil => cases hx
  | cons first rest ih =>
      rw [List.forM_cons] at h
      cases hfirst : f first with
      | error e =>
          rw [hfirst] at h
          cases h
      | ok _ =>
          rw [hfirst] at h
          rcases List.mem_cons.mp hx with rfl | hrest
          · exact hfirst
          · exact ih h hrest

theorem forM_eq_ok_of_forall {α : Type} {f : α → Except PyException Unit} {xs : List α}
    (h : ∀ x ∈ xs, f x = .ok ()) : forM xs f = .ok () := by
  induction xs with
  | nil => rfl
  | cons first rest ih =>
      rw [List.forM_cons, h first List.mem_cons_self]
      exact ih fun x hx => h x (List.mem_cons_of_mem _ hx)

/-- A loop that raises raises what one of its steps raises. -/
theorem exists_of_forM_eq_error {α : Type} {f : α → Except PyException Unit} {xs : List α}
    {e : PyException} (h : forM xs f = .error e) : ∃ x ∈ xs, f x = .error e := by
  induction xs with
  | nil => cases h
  | cons first rest ih =>
      rw [List.forM_cons] at h
      cases hfirst : f first with
      | error e' =>
          rw [hfirst] at h
          cases h
          exact ⟨first, List.mem_cons_self, hfirst⟩
      | ok _ =>
          rw [hfirst] at h
          rcases ih h with ⟨x, hx, hraises⟩
          exact ⟨x, List.mem_cons_of_mem _ hx, hraises⟩

/-- {lit}`any` over a test that may raise finds an element that passes. -/
theorem anyM_eq_ok_true {α : Type} {f : α → Except PyException Bool} {xs : List α}
    (h : xs.anyM f = .ok true) : ∃ x ∈ xs, f x = .ok true := by
  induction xs with
  | nil => cases h
  | cons first rest ih =>
      rw [List.anyM] at h
      cases hfirst : f first with
      | error e =>
          rw [hfirst] at h
          cases h
      | ok passed =>
          rw [hfirst] at h
          cases passed with
          | true => exact ⟨first, List.mem_cons_self, hfirst⟩
          | false =>
              rcases ih h with ⟨x, hx, hpass⟩
              exact ⟨x, List.mem_cons_of_mem _ hx, hpass⟩

/-- {lit}`any` over a test that may raise has tried every element before it fails. -/
theorem anyM_eq_ok_false {α : Type} {f : α → Except PyException Bool} {xs : List α}
    (h : xs.anyM f = .ok false) : ∀ x ∈ xs, f x = .ok false := by
  induction xs with
  | nil =>
      intro x hx
      cases hx
  | cons first rest ih =>
      rw [List.anyM] at h
      cases hfirst : f first with
      | error e =>
          rw [hfirst] at h
          cases h
      | ok passed =>
          rw [hfirst] at h
          cases passed with
          | true => cases h
          | false =>
              intro x hx
              rcases List.mem_cons.mp hx with rfl | hrest
              · exact hfirst
              · exact ih h x hrest

/-- {lit}`any` over a test that raises for no element has an answer. -/
theorem exists_anyM_eq_ok {α : Type} {f : α → Except PyException Bool} {xs : List α}
    (h : ∀ x ∈ xs, ∃ b, f x = .ok b) :
    ∃ b, xs.anyM f = .ok b ∧ (b = true ↔ ∃ x ∈ xs, f x = .ok true) := by
  induction xs with
  | nil => exact ⟨false, rfl, by simp⟩
  | cons first rest ih =>
      rcases h first List.mem_cons_self with ⟨passed, hfirst⟩
      rcases ih fun x hx => h x (List.mem_cons_of_mem _ hx) with ⟨b, hrest, hiff⟩
      rw [List.anyM, hfirst]
      cases passed with
      | true => exact ⟨true, rfl, by simp [hfirst]⟩
      | false => exact ⟨b, hrest, by simp [hfirst, hiff]⟩

/-- Code that reads and writes a state and may raise. -/
abbrev Py (σ α : Type) := Effect PyException σ α

namespace PyStr

/-- A string literal, character by character. -/
def lit (chars : List Char) : PyStr :=
  chars.map fun c => Fin.ofNat 0x110000 c.toNat

/-- The code point of a character. -/
def char (c : Char) : Utf8.CodePoint :=
  Fin.ofNat 0x110000 c.toNat

/-- {lit}`s.encode()`: UTF-8, a lone surrogate is refused. -/
def encode (s : PyStr) : Except PyException Bytes :=
  match Utf8.encode s with
  | some bytes => .ok bytes
  | none => .error .unicodeError

/-- {lit}`s.startswith(head)`. -/
def startsWith (s head : PyStr) : Bool :=
  head.isPrefixOf s

/-- {lit}`s[0]`. -/
def first (s : PyStr) : Except PyException Utf8.CodePoint :=
  match s with
  | [] => .error .indexError
  | c :: _ => .ok c

/-- {lit}`str.isspace` on one code point. -/
def isSpace (c : Utf8.CodePoint) : Bool :=
  let n := c.val
  (0x09 ≤ n && n ≤ 0x0D) || (0x1C ≤ n && n ≤ 0x20) || n = 0x85 || n = 0xA0 || n = 0x1680 ||
    (0x2000 ≤ n && n ≤ 0x200A) || n = 0x2028 || n = 0x2029 || n = 0x202F || n = 0x205F ||
    n = 0x3000

/-- {lit}`s.strip()`. -/
def strip (s : PyStr) : PyStr :=
  ((s.dropWhile isSpace).reverse.dropWhile isSpace).reverse

/-- {lit}`s.lower()` for text in Latin-1, which is what header values are decoded from. -/
def lower (s : PyStr) : PyStr :=
  s.map fun c =>
    let n := c.val
    if (0x41 ≤ n && n ≤ 0x5A) || (0xC0 ≤ n && n ≤ 0xDE && n ≠ 0xD7) then
      Fin.ofNat 0x110000 (n + 0x20)
    else c

/-- {lit}`s.partition(sep)` for a separator of one character, without the separator itself. -/
def partition (s : PyStr) (sep : Utf8.CodePoint) : PyStr × PyStr :=
  (s.takeWhile (fun c => c ≠ sep), (s.dropWhile (fun c => c ≠ sep)).tail)

end PyStr

/-! ## Bounded queues -/

namespace Queue

/-- {lit}`queue.full()`. -/
def full {α : Type} (maxsize : Nat) (queue : List α) : Bool :=
  0 < maxsize && maxsize ≤ queue.length

/-- {lit}`queue.put_nowait(item)`. -/
def putNowait {α : Type} (maxsize : Nat) (item : α) : Py (List α) Unit := do
  if full maxsize (← get) then
    throw .queueFull
  modify fun queue => queue ++ [item]

/-- {lit}`queue.get_nowait()`. -/
def getNowait {α : Type} : Py (List α) α := do
  match ← get with
  | [] => throw .queueEmpty
  | item :: rest =>
      set rest
      return item

theorem putNowait_run_of_lt {α : Type} {maxsize : Nat} {queue : List α}
    (h : queue.length < maxsize) (item : α) :
    (putNowait maxsize item).run queue = (.ok (), queue ++ [item]) := by
  have hfull : full maxsize queue = false := by
    simp [full]
    omega
  simp [putNowait, hfull]

theorem putNowait_run_of_full {α : Type} {maxsize : Nat} {queue : List α}
    (hpos : 1 ≤ maxsize) (h : maxsize ≤ queue.length) (item : α) :
    (putNowait maxsize item).run queue = (.error .queueFull, queue) := by
  have hfull : full maxsize queue = true := by
    simp [full]
    omega
  simp [putNowait, hfull]

@[simp]
theorem getNowait_run_cons {α : Type} (item : α) (rest : List α) :
    (getNowait : Py (List α) α).run (item :: rest) = (.ok item, rest) :=
  rfl

@[simp]
theorem getNowait_run_nil {α : Type} :
    (getNowait : Py (List α) α).run [] = (.error .queueEmpty, []) :=
  rfl

/-- What is taken is the head. -/
theorem eq_cons_of_getNowait_run {α : Type} {queue rest : List α} {item : α}
    (h : (getNowait : Py (List α) α).run queue = (.ok item, rest)) : queue = item :: rest := by
  cases queue with
  | nil =>
      rw [getNowait_run_nil] at h
      cases h
  | cons first queue =>
      rw [getNowait_run_cons] at h
      cases h
      rfl

end Queue

/-! ## Decoding -/

/-- {lit}`payload.decode()`: strict UTF-8. -/
def Bytes.decode (payload : Bytes) : Except PyException PyStr :=
  match Utf8.decode payload with
  | some text => .ok text
  | none => .error .unicodeError

/-- {lit}`payload.decode(errors="replace")`. -/
def Bytes.decodeReplace (payload : Bytes) : PyStr :=
  Utf8.decodeReplace payload

/-- Where the strict decoder succeeds, the replacing one gives the same text. -/
theorem Bytes.decodeReplace_of_decode {payload : Bytes} {text : PyStr}
    (h : payload.decode = .ok text) : payload.decodeReplace = text := by
  unfold Bytes.decode at h
  split at h
  · next hdecode =>
      cases h
      exact Utf8.decodeReplace_eq_of_decode hdecode
  · cases h

theorem PyStr.encode_eq_ok_iff {s : PyStr} {bytes : Bytes} :
    PyStr.encode s = .ok bytes ↔ Utf8.encode s = some bytes := by
  unfold PyStr.encode
  cases Utf8.encode s <;> simp

theorem Bytes.decode_eq_ok_iff {payload : Bytes} {text : PyStr} :
    payload.decode = .ok text ↔ Utf8.decode payload = some text := by
  unfold Bytes.decode
  cases Utf8.decode payload <;> simp

/-- What has been encoded is decoded to the same text. -/
theorem Bytes.decode_of_encode {s : PyStr} {bytes : Bytes} (h : PyStr.encode s = .ok bytes) :
    bytes.decode = .ok s :=
  Bytes.decode_eq_ok_iff.mpr (Utf8.decode_encode (PyStr.encode_eq_ok_iff.mp h))

/-- What has been decoded is encoded to the same bytes. -/
theorem PyStr.encode_of_decode {bytes : Bytes} {text : PyStr} (h : bytes.decode = .ok text) :
    PyStr.encode text = .ok bytes :=
  PyStr.encode_eq_ok_iff.mpr (Utf8.encode_of_decode (Bytes.decode_eq_ok_iff.mp h))

/-- Two texts with one encoding are the same. -/
theorem PyStr.encode_injective {s s' : PyStr} {bytes : Bytes} (h : PyStr.encode s = .ok bytes)
    (h' : PyStr.encode s' = .ok bytes) : s = s' :=
  Utf8.encode_injective (PyStr.encode_eq_ok_iff.mp h) (PyStr.encode_eq_ok_iff.mp h')

end MqttGateway
