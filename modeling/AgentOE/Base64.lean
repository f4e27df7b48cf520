import Mathlib.Data.List.Basic

/-! Standard base64, with the lenient decoder: characters outside the alphabet
are skipped, and a completed padding ends the text. Nothing here names a
particular system. -/
namespace AgentOE.Base64

def alphabet : List Char :=
  "ABCDEFGHIJKLMNOPQRSTUVWXYZabcdefghijklmnopqrstuvwxyz0123456789+/".toList

def digit (n : Nat) : Char := alphabet.getD n 'A'

def sextet (c : Char) : Option Nat := alphabet.idxOf? c

def encode : List UInt8 → List Char
  | [] => []
  | [a] => [digit (a.toNat / 4), digit (a.toNat % 4 * 16), '=', '=']
  | [a, b] =>
    [digit (a.toNat / 4), digit (a.toNat % 4 * 16 + b.toNat / 16), digit (b.toNat % 16 * 4), '=']
  | a :: b :: c :: rest =>
    digit (a.toNat / 4) :: digit (a.toNat % 4 * 16 + b.toNat / 16) ::
      digit (b.toNat % 16 * 4 + c.toNat / 64) :: digit (c.toNat % 64) :: encode rest

/-- `position` counts the characters of the current group, `left` holds the bits
they have not yet given to a byte, and `pads` counts the padding seen since. -/
def decodeFrom (position left pads : Nat) : List Char → Option (List UInt8)
  | [] => if position = 0 then some [] else none
  | c :: rest =>
    if c = '=' then
      if position < 2 then decodeFrom position left pads rest
      else if 4 ≤ position + (pads + 1) then some []
      else decodeFrom position left (pads + 1) rest
    else match sextet c with
      | none => decodeFrom position left pads rest
      | some v => match position with
        | 0 => decodeFrom 1 v 0 rest
        | 1 => (decodeFrom 2 (v % 16) 0 rest).map (UInt8.ofNat (left * 4 + v / 16) :: ·)
        | 2 => (decodeFrom 3 (v % 4) 0 rest).map (UInt8.ofNat (left * 16 + v / 4) :: ·)
        | _ => (decodeFrom 0 0 0 rest).map (UInt8.ofNat (left * 64 + v) :: ·)

/-- The decoder first encodes its argument as ASCII, which may fail. -/
def decode (text : List Char) : Option (List UInt8) :=
  if text.all (fun c => c.toNat < 128) then decodeFrom 0 0 0 text else none

theorem digit_facts : ∀ n < 64,
    sextet (digit n) = some n ∧ digit n ≠ '=' ∧ (digit n).toNat < 128 := by decide +kernel

section Digits
variable (bound : n < 64)
include bound

/-- A digit adds its six bits. -/
theorem decodeFrom_digit : decodeFrom position left pads (digit n :: rest) =
    match position with
    | 0 => decodeFrom 1 n 0 rest
    | 1 => (decodeFrom 2 (n % 16) 0 rest).map (UInt8.ofNat (left * 4 + n / 16) :: ·)
    | 2 => (decodeFrom 3 (n % 4) 0 rest).map (UInt8.ofNat (left * 16 + n / 4) :: ·)
    | _ => (decodeFrom 0 0 0 rest).map (UInt8.ofNat (left * 64 + n) :: ·) := by
  obtain ⟨value, notPad, -⟩ := digit_facts n bound
  rw [decodeFrom, if_neg notPad, value]

theorem decodeFrom_first : decodeFrom 0 left pads (digit n :: rest) = decodeFrom 1 n 0 rest :=
  decodeFrom_digit bound

theorem decodeFrom_second : decodeFrom 1 left pads (digit n :: rest) =
    (decodeFrom 2 (n % 16) 0 rest).map (UInt8.ofNat (left * 4 + n / 16) :: ·) :=
  decodeFrom_digit bound

theorem decodeFrom_third : decodeFrom 2 left pads (digit n :: rest) =
    (decodeFrom 3 (n % 4) 0 rest).map (UInt8.ofNat (left * 16 + n / 4) :: ·) :=
  decodeFrom_digit bound

theorem decodeFrom_fourth : decodeFrom 3 left pads (digit n :: rest) =
    (decodeFrom 0 0 0 rest).map (UInt8.ofNat (left * 64 + n) :: ·) :=
  decodeFrom_digit bound

end Digits

theorem ofNat_eq_byte {a : UInt8} (same : n = a.toNat) : UInt8.ofNat n = a := by
  rw [same, UInt8.ofNat_toNat]

/-- One group at a time; the last group may be padded. -/
theorem decodeFrom_encode (bytes : List UInt8) : decodeFrom 0 0 0 (encode bytes) = some bytes := by
  induction bytes using encode.induct with
  | case1 => rfl
  | case2 a =>
    have boundA := a.toNat_lt
    have first : UInt8.ofNat (a.toNat / 4 * 4 + a.toNat % 4 * 16 / 16) = a :=
      ofNat_eq_byte (by omega)
    rw [encode, decodeFrom_first (by omega), decodeFrom_second (by omega), first]
    simp [decodeFrom]
  | case3 a b =>
    have boundA := a.toNat_lt
    have boundB := b.toNat_lt
    have first : UInt8.ofNat (a.toNat / 4 * 4 + (a.toNat % 4 * 16 + b.toNat / 16) / 16) = a :=
      ofNat_eq_byte (by omega)
    have second : UInt8.ofNat ((a.toNat % 4 * 16 + b.toNat / 16) % 16 * 16 +
        b.toNat % 16 * 4 / 4) = b := ofNat_eq_byte (by omega)
    rw [encode, decodeFrom_first (by omega), decodeFrom_second (by omega),
      decodeFrom_third (by omega), first, second]
    simp [decodeFrom]
  | case4 a b c rest ih =>
    have boundA := a.toNat_lt
    have boundB := b.toNat_lt
    have boundC := c.toNat_lt
    have first : UInt8.ofNat (a.toNat / 4 * 4 + (a.toNat % 4 * 16 + b.toNat / 16) / 16) = a :=
      ofNat_eq_byte (by omega)
    have second : UInt8.ofNat ((a.toNat % 4 * 16 + b.toNat / 16) % 16 * 16 +
        (b.toNat % 16 * 4 + c.toNat / 64) / 4) = b := ofNat_eq_byte (by omega)
    have third : UInt8.ofNat ((b.toNat % 16 * 4 + c.toNat / 64) % 4 * 64 + c.toNat % 64) = c :=
      ofNat_eq_byte (by omega)
    rw [encode, decodeFrom_first (by omega), decodeFrom_second (by omega),
      decodeFrom_third (by omega), decodeFrom_fourth (by omega), ih, first, second, third]
    rfl

theorem encode_forall {P : Char → Prop} (digits : ∀ n < 64, P (digit n)) (pad : P '=')
    (bytes : List UInt8) : ∀ c ∈ encode bytes, P c := by
  induction bytes using encode.induct with
  | case1 => simp [encode]
  | case2 a =>
    have boundA := a.toNat_lt
    simp only [encode, List.forall_mem_cons]
    exact ⟨digits _ (by omega), digits _ (by omega), pad, pad, by simp⟩
  | case3 a b =>
    have boundA := a.toNat_lt
    have boundB := b.toNat_lt
    simp only [encode, List.forall_mem_cons]
    exact ⟨digits _ (by omega), digits _ (by omega), digits _ (by omega), pad, by simp⟩
  | case4 a b c rest ih =>
    have boundA := a.toNat_lt
    have boundB := b.toNat_lt
    have boundC := c.toNat_lt
    simp only [encode, List.forall_mem_cons]
    exact ⟨digits _ (by omega), digits _ (by omega), digits _ (by omega), digits _ (by omega), ih⟩

theorem encode_ascii (bytes : List UInt8) : ∀ c ∈ encode bytes, c.toNat < 128 :=
  encode_forall (fun n bound => (digit_facts n bound).2.2) (by decide) bytes

@[simp] theorem decode_encode (bytes : List UInt8) : decode (encode bytes) = some bytes := by
  have ascii : (encode bytes).all (fun c => c.toNat < 128) = true := by
    simpa only [List.all_eq_true, decide_eq_true_eq] using encode_ascii bytes
  rw [decode, if_pos ascii, decodeFrom_encode]

end AgentOE.Base64
