import Mathlib.Logic.Basic

/-! The stored form of a secret that is sealed under a data key:
`[ 2B len_dek | encrypted_dek | 12B nonce | ciphertext ]`, with the errors of packing and
unpacking. -/
namespace AgentOE.KmsPayload

inductive Error where
  | valueError (message : String)
  /-- `struct.error`. -/
  | structError
  deriving DecidableEq, Repr

/-- `struct.pack(">H", n)`. -/
def packH (n : Nat) : Except Error (List UInt8) :=
  if n ≤ 65535 then .ok [.ofNat (n / 256), .ofNat (n % 256)] else .error .structError

/-- `struct.unpack_from(">H", raw, offset)`. -/
def unpackFromH (raw : List UInt8) (offset : Nat) : Except Error Nat :=
  match raw.drop offset with
  | high :: low :: _ => .ok (high.toNat * 256 + low.toNat)
  | _ => .error .structError

/-- `raw[start : stop]`. -/
def slice (raw : List UInt8) (start stop : Nat) : List UInt8 := (raw.take stop).drop start

def packKmsPayload (encryptedDek nonce ciphertext : List UInt8) : Except Error (List UInt8) :=
  if nonce.length ≠ 12 then
    .error (.valueError ("Nonce must be 12 bytes, got " ++ toString nonce.length))
  else do
    let header ← packH encryptedDek.length
    return header ++ encryptedDek ++ nonce ++ ciphertext

def unpackKmsPayload (raw : List UInt8) : Except Error (List UInt8 × List UInt8 × List UInt8) :=
  if raw.length < 2 then .error (.valueError "KMS payload too short")
  else do
    let dekLen ← unpackFromH raw 0
    let offset := 2
    if raw.length < offset + dekLen + 12 then .error (.valueError "KMS payload truncated")
    else
      let encryptedDek := slice raw offset (offset + dekLen)
      let nonce := slice raw (offset + dekLen) (offset + dekLen + 12)
      let ciphertext := raw.drop (offset + dekLen + 12)
      return (encryptedDek, nonce, ciphertext)

/-- The key length that a header declares. -/
def declared (raw : List UInt8) : Nat := (raw.getD 0 0).toNat * 256 + (raw.getD 1 0).toNat

variable {encryptedDek nonce ciphertext raw rest : List UInt8} {high low : UInt8} {dekLen : Nat}

theorem pack_ok_iff : packKmsPayload encryptedDek nonce ciphertext = .ok raw ↔
    nonce.length = 12 ∧ encryptedDek.length ≤ 65535 ∧
      raw = .ofNat (encryptedDek.length / 256) :: .ofNat (encryptedDek.length % 256) ::
        (encryptedDek ++ nonce ++ ciphertext) := by
  by_cases twelve : nonce.length = 12
  · by_cases short : encryptedDek.length ≤ 65535
    · simp [packKmsPayload, packH, twelve, short, bind, Except.bind, pure, Except.pure, eq_comm]
    · simp [packKmsPayload, packH, twelve, short, bind, Except.bind]
  · simp [packKmsPayload, twelve]

theorem pack_succeeds_iff : (∃ raw, packKmsPayload encryptedDek nonce ciphertext = .ok raw) ↔
    nonce.length = 12 ∧ encryptedDek.length ≤ 65535 := by
  constructor
  · rintro ⟨raw, packed⟩
    obtain ⟨twelve, short, -⟩ := pack_ok_iff.mp packed
    exact ⟨twelve, short⟩
  · rintro ⟨twelve, short⟩
    exact ⟨_, pack_ok_iff.mpr ⟨twelve, short, rfl⟩⟩

/-- Behind the header the offsets count from its end. -/
theorem slice_header (start stop : Nat) : slice (high :: low :: rest) (2 + start) (2 + stop) =
    slice rest start stop := by
  simp [slice, Nat.add_comm 2]

/-- A payload with a header is unpacked where it has what the header declares. -/
theorem unpack_word (word : unpackFromH (high :: low :: rest) 0 = .ok dekLen) :
    unpackKmsPayload (high :: low :: rest) =
      if rest.length < dekLen + 12 then .error (.valueError "KMS payload truncated")
      else .ok (rest.take dekLen, (rest.drop dekLen).take 12, rest.drop (dekLen + 12)) := by
  have header : ¬(high :: low :: rest).length < 2 := by simp
  have short : (high :: low :: rest).length < 2 + dekLen + 12 ↔ rest.length < dekLen + 12 := by
    simp only [List.length_cons]
    omega
  have key : slice (high :: low :: rest) 2 (2 + dekLen) = rest.take dekLen := slice_header 0 dekLen
  have nonce : slice (high :: low :: rest) (2 + dekLen) (2 + dekLen + 12) =
      (rest.drop dekLen).take 12 := by
    rw [Nat.add_assoc, slice_header, slice, List.drop_take, Nat.add_sub_cancel_left]
  have ciphertext : (high :: low :: rest).drop (2 + dekLen + 12) = rest.drop (dekLen + 12) := by
    rw [Nat.add_assoc, Nat.add_comm 2]
    rfl
  simp only [unpackKmsPayload, if_neg header, word, bind, Except.bind, short, key, nonce,
    ciphertext, pure, Except.pure]

theorem unpack_header : unpackKmsPayload (high :: low :: rest) =
    if rest.length < high.toNat * 256 + low.toNat + 12 then
      .error (.valueError "KMS payload truncated")
    else .ok (rest.take (high.toNat * 256 + low.toNat),
      (rest.drop (high.toNat * 256 + low.toNat)).take 12,
      rest.drop (high.toNat * 256 + low.toNat + 12)) :=
  unpack_word rfl

theorem header_word (short : encryptedDek.length ≤ 65535) :
    (UInt8.ofNat (encryptedDek.length / 256)).toNat * 256 +
      (UInt8.ofNat (encryptedDek.length % 256)).toNat =
      encryptedDek.length := by
  have size : UInt8.size = 256 := rfl
  rw [UInt8.toNat_ofNat_of_lt' (by omega), UInt8.toNat_ofNat_of_lt' (by omega)]
  omega

theorem unpack_of_pack (packed : packKmsPayload encryptedDek nonce ciphertext = .ok raw) :
    unpackKmsPayload raw = .ok (encryptedDek, nonce, ciphertext) := by
  obtain ⟨twelve, short, rfl⟩ := pack_ok_iff.mp packed
  rw [unpack_header, header_word short, if_neg (by simp only [List.length_append]; omega)]
  simp [List.append_assoc, ← twelve]

theorem take_append_drop_add (n m : Nat) (bytes : List UInt8) :
    (bytes.drop n).take m ++ bytes.drop (n + m) = bytes.drop n := by
  rw [← List.drop_drop, List.take_append_drop]

/-- What is unpacked is packed to the same bytes. -/
theorem pack_of_unpack (unpacked : unpackKmsPayload raw = .ok (encryptedDek, nonce, ciphertext)) :
    packKmsPayload encryptedDek nonce ciphertext = .ok raw := by
  match raw with
  | [] => cases unpacked
  | [_] => cases unpacked
  | high :: low :: rest =>
    rw [unpack_header] at unpacked
    split at unpacked
    · cases unpacked
    · rename_i whole
      cases unpacked
      have highBound := high.toNat_lt
      have lowBound := low.toNat_lt
      have length : (rest.take (high.toNat * 256 + low.toNat)).length =
          high.toNat * 256 + low.toNat := by
        rw [List.length_take]
        omega
      refine pack_ok_iff.mpr ⟨?_, by omega, ?_⟩
      · rw [List.length_take, List.length_drop]
        omega
      · have highByte : (high.toNat * 256 + low.toNat) / 256 = high.toNat := by omega
        have lowByte : (high.toNat * 256 + low.toNat) % 256 = low.toNat := by omega
        rw [length, highByte, lowByte, UInt8.ofNat_toNat, UInt8.ofNat_toNat, List.append_assoc,
          take_append_drop_add, List.take_append_drop]

/-- Unpacking raises its own error or succeeds. -/
theorem unpack_error_iff : (∃ message, unpackKmsPayload raw = .error (.valueError message)) ↔
    raw.length < 2 ∨ raw.length < 2 + declared raw + 12 := by
  match raw with
  | [] => simp [unpackKmsPayload]
  | [_] => simp [unpackKmsPayload]
  | high :: low :: rest =>
    have short : (high :: low :: rest).length < 2 ∨
        (high :: low :: rest).length < 2 + declared (high :: low :: rest) + 12 ↔
        rest.length < high.toNat * 256 + low.toNat + 12 := by
      simp only [List.length_cons, declared, List.getD_cons_zero, List.getD_cons_succ]
      omega
    rw [unpack_header, short]
    split <;> simp_all

theorem unpack_total (raw : List UInt8) :
    (∃ message, unpackKmsPayload raw = .error (.valueError message)) ∨
    ∃ encryptedDek nonce ciphertext, unpackKmsPayload raw =
      .ok (encryptedDek, nonce, ciphertext) := by
  match raw with
  | [] => exact .inl ⟨_, rfl⟩
  | [_] => exact .inl ⟨_, rfl⟩
  | high :: low :: rest =>
    rw [unpack_header]
    split
    · exact .inl ⟨_, rfl⟩
    · exact .inr ⟨_, _, _, rfl⟩

/-- Packing succeeds for a nonce of twelve bytes and a key that the header can count, and the two
functions are inverse to each other. -/
theorem payload_codec :
    (∀ encryptedDek nonce ciphertext, (∃ raw,
      packKmsPayload encryptedDek nonce ciphertext = .ok raw) ↔
      nonce.length = 12 ∧ encryptedDek.length ≤ 65535) ∧
    (∀ encryptedDek nonce ciphertext raw, packKmsPayload encryptedDek nonce ciphertext = .ok raw →
      unpackKmsPayload raw = .ok (encryptedDek, nonce, ciphertext)) ∧
    ∀ raw, ((∃ message, unpackKmsPayload raw = .error (.valueError message)) ∨
        ∃ encryptedDek nonce ciphertext, unpackKmsPayload raw =
          .ok (encryptedDek, nonce, ciphertext) ∧
          packKmsPayload encryptedDek nonce ciphertext = .ok raw) ∧
      ((∃ message, unpackKmsPayload raw = .error (.valueError message)) ↔
        raw.length < 2 ∨ raw.length < 2 + declared raw + 12) := by
  refine ⟨fun _ _ _ => pack_succeeds_iff, fun _ _ _ _ packed => unpack_of_pack packed,
    fun raw => ?_⟩
  refine ⟨(unpack_total raw).imp_right ?_, unpack_error_iff⟩
  rintro ⟨encryptedDek, nonce, ciphertext, unpacked⟩
  exact ⟨encryptedDek, nonce, ciphertext, unpacked, pack_of_unpack unpacked⟩

theorem sealed_payload_unpacked : ∃ raw, packKmsPayload [1, 2, 3] (List.replicate 12 7) [9] =
    .ok raw ∧ unpackKmsPayload raw = .ok ([1, 2, 3], List.replicate 12 7, [9]) := by
  obtain ⟨succeeds, inverse, -⟩ := payload_codec
  obtain ⟨raw, packed⟩ := (succeeds [1, 2, 3] (List.replicate 12 7) [9]).mpr (by decide)
  exact ⟨raw, packed, inverse _ _ _ raw packed⟩

end AgentOE.KmsPayload
