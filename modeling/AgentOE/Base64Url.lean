import Mathlib.Data.List.Basic

/-! Base64 over the URL alphabet and without padding, on byte strings, as the raw encoding of
Go reads and writes it: line breaks are skipped, and bits left over at the end are ignored.
Nothing here names a particular system. -/
namespace AgentOE.Base64Url

def alphabet : List UInt8 :=
  "ABCDEFGHIJKLMNOPQRSTUVWXYZabcdefghijklmnopqrstuvwxyz0123456789-_".toList.map Char.toUInt8

def digit (n : Nat) : UInt8 := alphabet.getD n 65

def sextet (b : UInt8) : Option Nat := alphabet.idxOf? b

def encode : List UInt8 → List UInt8
  | [] => []
  | [a] => [digit (a.toNat / 4), digit (a.toNat % 4 * 16)]
  | [a, b] =>
    [digit (a.toNat / 4), digit (a.toNat % 4 * 16 + b.toNat / 16), digit (b.toNat % 16 * 4)]
  | a :: b :: c :: rest =>
    digit (a.toNat / 4) :: digit (a.toNat % 4 * 16 + b.toNat / 16) ::
      digit (b.toNat % 16 * 4 + c.toNat / 64) :: digit (c.toNat % 64) :: encode rest

/-- The values of the digits, or the position of the first byte that is neither a digit nor a
line break. -/
def sextets (position : Nat) : List UInt8 → Except Nat (List Nat)
  | [] => .ok []
  | b :: text => match sextet b with
    | some v => (sextets (position + 1) text).map (v :: ·)
    | none => if b = 10 ∨ b = 13 then sextets (position + 1) text else .error position

/-- A single digit at the end is not enough for a byte. -/
def quanta : List Nat → Option (List UInt8)
  | [] => some []
  | [_] => none
  | [p, q] => some [.ofNat (p * 4 + q / 16)]
  | [p, q, r] => some [.ofNat (p * 4 + q / 16), .ofNat (q % 16 * 16 + r / 4)]
  | p :: q :: r :: s :: rest => (quanta rest).map fun bytes =>
    .ofNat (p * 4 + q / 16) :: .ofNat (q % 16 * 16 + r / 4) :: .ofNat (r % 4 * 64 + s) :: bytes

/-- The error is the position of the corrupt input. -/
def decode (text : List UInt8) : Except Nat (List UInt8) :=
  (sextets 0 text).bind fun values => (quanta values).elim (.error (text.length - 1)) .ok

theorem sextet_digit : ∀ n < 64, sextet (digit n) = some n := by decide +kernel

theorem sextets_digit (bound : n < 64) :
    sextets position (digit n :: text) = (sextets (position + 1) text).map (n :: ·) := by
  rw [sextets, sextet_digit n bound]

theorem ofNat_eq_byte {a : UInt8} (same : n = a.toNat) : UInt8.ofNat n = a := by
  subst same
  exact UInt8.ofNat_toNat

/-- The values of the digits that an encoding has. -/
def digits : List UInt8 → List Nat
  | [] => []
  | [a] => [a.toNat / 4, a.toNat % 4 * 16]
  | [a, b] => [a.toNat / 4, a.toNat % 4 * 16 + b.toNat / 16, b.toNat % 16 * 4]
  | a :: b :: c :: rest =>
    a.toNat / 4 :: (a.toNat % 4 * 16 + b.toNat / 16) :: (b.toNat % 16 * 4 + c.toNat / 64) ::
      c.toNat % 64 :: digits rest

theorem encode_eq (bytes : List UInt8) : encode bytes = (digits bytes).map digit := by
  fun_induction digits bytes with
  | case1 => rfl
  | case2 => rfl
  | case3 => rfl
  | case4 a b c rest ih => rw [encode, ih]; rfl

theorem digits_lt (bytes : List UInt8) : ∀ n ∈ digits bytes, n < 64 := by
  fun_induction digits bytes with
  | case1 => nofun
  | case2 a =>
    have := a.toNat_lt
    simp only [List.mem_cons, List.not_mem_nil, or_false, forall_eq_or_imp, forall_eq]
    omega
  | case3 a b =>
    have := a.toNat_lt
    have := b.toNat_lt
    simp only [List.mem_cons, List.not_mem_nil, or_false, forall_eq_or_imp, forall_eq]
    omega
  | case4 a b c rest ih =>
    have := a.toNat_lt
    have := b.toNat_lt
    have := c.toNat_lt
    simp only [List.mem_cons, forall_eq_or_imp]
    exact ⟨by omega, by omega, by omega, by omega, ih⟩

theorem quanta_digits (bytes : List UInt8) : quanta (digits bytes) = some bytes := by
  fun_induction digits bytes with
  | case1 => rfl
  | case2 a =>
    have := a.toNat_lt
    rw [quanta, ofNat_eq_byte (a := a) (by omega)]
  | case3 a b =>
    have := a.toNat_lt
    have := b.toNat_lt
    rw [quanta, ofNat_eq_byte (a := a) (by omega), ofNat_eq_byte (a := b) (by omega)]
  | case4 a b c rest ih =>
    have := a.toNat_lt
    have := b.toNat_lt
    have := c.toNat_lt
    rw [quanta, ih, ofNat_eq_byte (a := a) (by omega), ofNat_eq_byte (a := b) (by omega),
      ofNat_eq_byte (a := c) (by omega)]
    rfl

theorem sextets_map (values : List Nat) (position : Nat) (bound : ∀ n ∈ values, n < 64) :
    sextets position (values.map digit) = .ok values := by
  induction values generalizing position with
  | nil => rfl
  | cons n values ih =>
    obtain ⟨first, others⟩ := List.forall_mem_cons.mp bound
    rw [List.map_cons, sextets_digit first, ih _ others]
    rfl

@[simp] theorem decode_encode (bytes : List UInt8) : decode (encode bytes) = .ok bytes := by
  rw [decode, encode_eq, sextets_map _ 0 (digits_lt bytes)]
  simp [Except.bind, quanta_digits]

/-- What holds of every digit holds of every byte of an encoding. -/
theorem encode_forall {P : UInt8 → Prop} (every : ∀ n < 64, P (digit n)) (bytes : List UInt8) :
    ∀ b ∈ encode bytes, P b := by
  rw [encode_eq, List.forall_mem_map]
  exact fun n mem => every n (digits_lt bytes n mem)

end AgentOE.Base64Url
