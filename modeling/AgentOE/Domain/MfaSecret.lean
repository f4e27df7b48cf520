import AgentOE.Base64
import AgentOE.Domain.KmsPayload

/-! How the portal stores an MFA secret: under a data key of KMS, under the key of the
environment, or as plain base64, told apart by a prefix. -/
namespace AgentOE.MfaSecret
open KmsPayload

structure Settings where
  portalKmsKeyId : String
  portalMfaEnvelopeKey : String
  deriving DecidableEq, Repr

/-- AES-GCM without associated data, for keys that its constructor takes. -/
structure AesGcm where
  encrypt : List UInt8 → List UInt8 → List UInt8 → List UInt8
  decrypt : List UInt8 → List UInt8 → List UInt8 → Option (List UInt8)
  decrypt_encrypt : ∀ key nonce data, decrypt key nonce (encrypt key nonce data) = some data

abbrev Nonce := {bytes : List UInt8 // bytes.length = 12}

structure DataKeyPair where
  plaintextDek : List UInt8
  encryptedDek : List UInt8
  deriving DecidableEq, Repr

inductive Failure where
  | runtimeError (message : String)
  /-- What the legacy decryption raises. -/
  | legacy
  deriving DecidableEq, Repr

def kmsPrefix : List Char := "kms:".toList

def utf8 (text : String) : List UInt8 := text.toByteArray.data.toList

def fromUtf8 (bytes : List UInt8) : Option String := String.fromUTF8? ⟨bytes.toArray⟩

def hexDigit (c : Char) : Option Nat :=
  if '0' ≤ c ∧ c ≤ '9' then some (c.toNat - '0'.toNat)
  else if 'a' ≤ c ∧ c ≤ 'f' then some (c.toNat - 'a'.toNat + 10)
  else if 'A' ≤ c ∧ c ≤ 'F' then some (c.toNat - 'A'.toNat + 10)
  else none

/-- The blanks that `bytes.fromhex` skips between two bytes. -/
def blank (c : Char) : Bool := c = ' ' || (9 ≤ c.toNat && c.toNat ≤ 13)

def fromhex : List Char → Option (List UInt8)
  | [] => some []
  | [c] => if blank c then some [] else none
  | c :: d :: rest =>
    if blank c then fromhex (d :: rest)
    else match hexDigit c, hexDigit d with
      | some high, some low => (fromhex rest).map (UInt8.ofNat (high * 16 + low) :: ·)
      | _, _ => none

variable (aes : AesGcm) (settings : Settings)

/-- `AESGCM(key)` raises for a key of any other length. -/
def validKey (key : List UInt8) : Bool := key.length = 16 || key.length = 24 || key.length = 32

def aesEncrypt (key nonce data : List UInt8) : Option (List UInt8) :=
  if validKey key then some (aes.encrypt key nonce data) else none

def aesDecrypt (key nonce ciphertext : List UInt8) : Option (List UInt8) :=
  if validKey key then aes.decrypt key nonce ciphertext else none

def envelopeKey : Option (List UInt8) :=
  (fromhex settings.portalMfaEnvelopeKey.toList).map (·.take 32)

/-! The legacy formats. -/

def encryptMfaSecretEnvkey (nonce : Nonce) (secret : String) : Option String :=
  if settings.portalMfaEnvelopeKey = "" then some (.ofList (Base64.encode (utf8 secret)))
  else do
    let key ← envelopeKey settings
    let ciphertext ← aesEncrypt aes key nonce.1 (utf8 secret)
    return .ofList (Base64.encode (nonce.1 ++ ciphertext))

def decryptMfaSecretEnvkey (ciphertext : String) : Option String :=
  if settings.portalMfaEnvelopeKey = "" then (Base64.decode ciphertext.toList).bind fromUtf8
  else do
    let key ← envelopeKey settings
    let raw ← Base64.decode ciphertext.toList
    let secret ← aesDecrypt aes key (raw.take 12) (raw.drop 12)
    fromUtf8 secret

/-! The KMS format. Every error of packing and unpacking has the same handler. -/

/-- `generated` is the answer of KMS to GenerateDataKey, if there is one. -/
def encryptMfaSecretKms (generated : Option DataKeyPair) (nonce : Nonce) (secret : String) :
    Option String := do
  let dkp ← generated
  let ciphertext ← aesEncrypt aes dkp.plaintextDek nonce.1 (utf8 secret)
  let payload ← (packKmsPayload dkp.encryptedDek nonce.1 ciphertext).toOption
  return .ofList (kmsPrefix ++ Base64.encode payload)

/-- Every failure of the KMS path is logged, and the legacy path taken. -/
def encryptMfaSecret (generated : Option DataKeyPair) (nonce nonce' : Nonce) (secret : String) :
    Option String :=
  if settings.portalKmsKeyId = "" then encryptMfaSecretEnvkey aes settings nonce' secret
  else (encryptMfaSecretKms aes generated nonce secret).or
    (encryptMfaSecretEnvkey aes settings nonce' secret)

def decryptMfaSecretKms (kmsDecryptDek : List UInt8 → Option (List UInt8))
    (ciphertext : List Char) : Option String := do
  let raw ← Base64.decode ciphertext
  let (encryptedDek, nonce, ciphertext) ← (unpackKmsPayload raw).toOption
  let dek ← kmsDecryptDek encryptedDek
  let secret ← aesDecrypt aes dek nonce ciphertext
  fromUtf8 secret

def decryptMfaSecret (kmsDecryptDek : List UInt8 → Option (List UInt8)) (ciphertext : String) :
    Except Failure String :=
  if kmsPrefix <+: ciphertext.toList then
    match decryptMfaSecretKms aes kmsDecryptDek (ciphertext.toList.drop kmsPrefix.length) with
    | some secret => .ok secret
    | none => .error (.runtimeError "MFA secret KMS decryption failed")
  else match decryptMfaSecretEnvkey aes settings ciphertext with
    | some secret => .ok secret
    | none => .error .legacy

/-! Each format is read back. -/

variable {aes settings} {secret stored : String} {nonce nonce' : Nonce}

@[simp] theorem fromUtf8_utf8 (text : String) : fromUtf8 (utf8 text) = some text := by
  have valid : text.toByteArray.IsValidUTF8 := text.isValidUTF8
  rw [fromUtf8, utf8, Array.toArray_toList, String.fromUTF8?, dif_pos valid]
  rfl

theorem aesDecrypt_aesEncrypt (encrypted : aesEncrypt aes key nonce data = some ciphertext) :
    aesDecrypt aes key nonce ciphertext = some data := by
  rw [aesEncrypt] at encrypted
  split at encrypted
  · rename_i valid
    cases encrypted
    rw [aesDecrypt, if_pos valid, aes.decrypt_encrypt]
  · cases encrypted

theorem unpack_pack {nonce : List UInt8}
    (packed : (packKmsPayload encryptedDek nonce ciphertext).toOption = some raw) :
    (unpackKmsPayload raw).toOption = some (encryptedDek, nonce, ciphertext) := by
  cases done : packKmsPayload encryptedDek nonce ciphertext with
  | error e =>
    rw [done] at packed
    cases packed
  | ok payload =>
    rw [done] at packed
    cases packed
    rw [unpack_of_pack done]
    rfl

theorem pack_isSome_iff (encryptedDek : List UInt8) (nonce : Nonce) (ciphertext : List UInt8) :
    (packKmsPayload encryptedDek nonce.1 ciphertext).toOption.isSome = true ↔
      encryptedDek.length < 65536 := by
  have fits : (∃ raw, packKmsPayload encryptedDek nonce.1 ciphertext = .ok raw) ↔
      encryptedDek.length < 65536 :=
    pack_succeeds_iff.trans ((and_iff_right nonce.2).trans Nat.lt_succ_iff.symm)
  rw [← fits]
  cases packKmsPayload encryptedDek nonce.1 ciphertext <;> simp [Except.toOption]

theorem envkey_round_trip
    (encrypted : encryptMfaSecretEnvkey aes settings nonce secret = some stored) :
    decryptMfaSecretEnvkey aes settings stored = some secret := by
  rw [encryptMfaSecretEnvkey] at encrypted
  rw [decryptMfaSecretEnvkey]
  split at encrypted
  · rename_i absent
    cases encrypted
    simp [absent]
  · rename_i present
    obtain ⟨key, parsed, encrypted⟩ := Option.bind_eq_some_iff.mp encrypted
    obtain ⟨ciphertext, sealed_, encrypted⟩ := Option.bind_eq_some_iff.mp encrypted
    cases encrypted
    rw [if_neg present, parsed]
    have front : (nonce.1 ++ ciphertext).take 12 = nonce.1 := by simp [nonce.2]
    have back : (nonce.1 ++ ciphertext).drop 12 = ciphertext := by simp [nonce.2]
    simp [front, back, aesDecrypt_aesEncrypt sealed_]

/-- No legacy text reads as one of KMS: base64 has no colon. -/
theorem envkey_not_kms
    (encrypted : encryptMfaSecretEnvkey aes settings nonce secret = some stored) :
    ¬kmsPrefix <+: stored.toList := by
  have encoded : ∃ bytes, stored = .ofList (Base64.encode bytes) := by
    rw [encryptMfaSecretEnvkey] at encrypted
    split at encrypted
    · cases encrypted
      exact ⟨_, rfl⟩
    · obtain ⟨key, -, encrypted⟩ := Option.bind_eq_some_iff.mp encrypted
      obtain ⟨ciphertext, -, encrypted⟩ := Option.bind_eq_some_iff.mp encrypted
      cases encrypted
      exact ⟨_, rfl⟩
  obtain ⟨bytes, rfl⟩ := encoded
  intro marked
  have colon : ':' ∈ Base64.encode bytes := by
    rw [String.toList_ofList] at marked
    exact marked.subset (by decide)
  exact Base64.encode_forall (P := (· ≠ ':')) (by decide +kernel) (by decide) bytes ':' colon rfl

theorem kms_round_trip {kmsDecryptDek : List UInt8 → Option (List UInt8)}
    (kms : ∀ dkp ∈ generated, kmsDecryptDek dkp.encryptedDek = some dkp.plaintextDek)
    (encrypted : encryptMfaSecretKms aes generated nonce secret = some stored) :
    kmsPrefix <+: stored.toList ∧
      decryptMfaSecretKms aes kmsDecryptDek (stored.toList.drop kmsPrefix.length) =
        some secret := by
  obtain ⟨dkp, made, encrypted⟩ := Option.bind_eq_some_iff.mp encrypted
  obtain ⟨ciphertext, sealed_, encrypted⟩ := Option.bind_eq_some_iff.mp encrypted
  obtain ⟨payload, packed, encrypted⟩ := Option.bind_eq_some_iff.mp encrypted
  cases encrypted
  rw [String.toList_ofList]
  refine ⟨List.prefix_append _ _, ?_⟩
  rw [List.drop_left, decryptMfaSecretKms]
  simp [unpack_pack packed, kms dkp made, aesDecrypt_aesEncrypt sealed_]

/-- When a secret can be stored at all: KMS gives a key that both formats have room for, or the
environment's key is absent or fit for AES. -/
def Storable (settings : Settings) (generated : Option DataKeyPair) : Prop :=
  (settings.portalKmsKeyId ≠ "" ∧
    ∃ dkp ∈ generated, validKey dkp.plaintextDek = true ∧ dkp.encryptedDek.length < 65536) ∨
  settings.portalMfaEnvelopeKey = "" ∨ ∃ key ∈ envelopeKey settings, validKey key = true

theorem envkey_isSome_iff : (encryptMfaSecretEnvkey aes settings nonce secret).isSome = true ↔
    settings.portalMfaEnvelopeKey = "" ∨ ∃ key ∈ envelopeKey settings, validKey key = true := by
  rw [encryptMfaSecretEnvkey]
  by_cases absent : settings.portalMfaEnvelopeKey = ""
  · simp [absent]
  · cases parsed : envelopeKey settings with
    | none => simp [absent]
    | some key => cases valid : validKey key <;> simp [absent, aesEncrypt, valid]

theorem kms_isSome_iff : (encryptMfaSecretKms aes generated nonce secret).isSome = true ↔
    ∃ dkp ∈ generated, validKey dkp.plaintextDek = true ∧ dkp.encryptedDek.length < 65536 := by
  rw [encryptMfaSecretKms]
  cases generated with
  | none => simp
  | some dkp =>
    cases valid : validKey dkp.plaintextDek with
    | false => simp [aesEncrypt, valid]
    | true =>
      have packs := pack_isSome_iff dkp.encryptedDek nonce
        (aes.encrypt dkp.plaintextDek nonce.1 (utf8 secret))
      simp only [Option.mem_some, exists_eq_left', valid, true_and, ← packs]
      cases packed : (packKmsPayload dkp.encryptedDek nonce.1
        (aes.encrypt dkp.plaintextDek nonce.1 (utf8 secret))).toOption <;>
          simp [aesEncrypt, valid, packed]

theorem encrypt_isSome_iff :
    (encryptMfaSecret aes settings generated nonce nonce' secret).isSome = true ↔
    Storable settings generated := by
  rw [encryptMfaSecret, Storable]
  by_cases absent : settings.portalKmsKeyId = ""
  · rw [if_pos absent, envkey_isSome_iff]
    simp [absent]
  · rw [if_neg absent, Option.isSome_or, Bool.or_eq_true, kms_isSome_iff, envkey_isSome_iff]
    simp [absent]

/-- A secret that is stored is read back as it was, whichever format it got, and it is stored just
when it can be; nothing that the legacy formats write reads as one of KMS. -/
theorem mfa_secret_round_trip {kmsDecryptDek : List UInt8 → Option (List UInt8)}
    (kms : ∀ dkp ∈ generated, kmsDecryptDek dkp.encryptedDek = some dkp.plaintextDek) :
    (∀ stored, encryptMfaSecret aes settings generated nonce nonce' secret = some stored →
      decryptMfaSecret aes settings kmsDecryptDek stored = .ok secret) ∧
    ((encryptMfaSecret aes settings generated nonce nonce' secret).isSome = true ↔
      Storable settings generated) ∧
    ∀ (settings : Settings) (nonce : Nonce) (secret stored : String),
      encryptMfaSecretEnvkey aes settings nonce secret = some stored →
        ¬kmsPrefix <+: stored.toList := by
  refine ⟨fun stored encrypted => ?_, encrypt_isSome_iff,
    fun _ _ _ _ legacy => envkey_not_kms legacy⟩
  have legacy : encryptMfaSecretEnvkey aes settings nonce' secret = some stored →
      decryptMfaSecret aes settings kmsDecryptDek stored = .ok secret := by
    intro encrypted
    rw [decryptMfaSecret, if_neg (envkey_not_kms encrypted), envkey_round_trip encrypted]
  rw [encryptMfaSecret] at encrypted
  split at encrypted
  · exact legacy encrypted
  · rcases Option.or_eq_some_iff.mp encrypted with encrypted | ⟨-, encrypted⟩
    · obtain ⟨marked, read⟩ := kms_round_trip kms encrypted
      rw [decryptMfaSecret, if_pos marked, read]
    · exact legacy encrypted

/-- AES-GCM on one block of known data, and on any other data a cipher of its own. -/
def oneBlock : AesGcm where
  encrypt key nonce data :=
    if key = List.replicate 32 0 ∧ nonce = List.replicate 12 0 ∧
      data = "JBSWY3DP".toList.map (UInt8.ofNat ·.toNat)
    then [132, 229, 19, 106, 20, 83, 47, 62, 118, 96, 239, 104, 178, 65, 240, 253, 62, 140, 77, 51,
      153, 159, 158, 37]
    else List.replicate 16 0 ++ data
  decrypt key nonce ciphertext :=
    if key = List.replicate 32 0 ∧ nonce = List.replicate 12 0 ∧ ciphertext.head? = some 132
    then some ("JBSWY3DP".toList.map (UInt8.ofNat ·.toNat)) else some (ciphertext.drop 16)
  decrypt_encrypt := by
    intro key nonce data
    by_cases known : key = List.replicate 32 0 ∧ nonce = List.replicate 12 0 ∧
        data = "JBSWY3DP".toList.map (UInt8.ofNat ·.toNat)
    · rw [if_pos known, if_pos ⟨known.1, known.2.1, rfl⟩, known.2.2]
    · rw [if_neg known, if_neg]
      · simp
      · rintro ⟨-, -, head⟩
        cases head

def zeros : Nonce := ⟨List.replicate 12 0, rfl⟩

def dataKey : DataKeyPair := ⟨List.replicate 32 0, [1, 2, 3, 4]⟩

theorem kms_secret_round_trip : ∃ stored,
    encryptMfaSecret oneBlock ⟨"alias/portal", ""⟩ (some dataKey) zeros zeros "JBSWY3DP" =
      some stored ∧
      decryptMfaSecret oneBlock ⟨"alias/portal", ""⟩ (fun _ => some dataKey.plaintextDek) stored =
        .ok "JBSWY3DP" := by
  obtain ⟨read, stores, -⟩ :=
    @mfa_secret_round_trip oneBlock ⟨"alias/portal", ""⟩ "JBSWY3DP" zeros zeros
    (some dataKey) (fun _ => some dataKey.plaintextDek) (by rintro _ ⟨⟩; rfl)
  obtain ⟨stored, encrypted⟩ := Option.isSome_iff_exists.mp (stores.mpr (.inr (.inl rfl)))
  exact ⟨stored, encrypted, read stored encrypted⟩

/-- With a key that is no hexadecimal text there is nothing to read back. -/
theorem bad_key_not_stored : ¬∃ stored,
    encryptMfaSecret oneBlock ⟨"", "zz"⟩ (some dataKey) zeros zeros "JBSWY3DP" = some stored ∧
      decryptMfaSecret oneBlock ⟨"", "zz"⟩ (fun _ => some dataKey.plaintextDek) stored =
        .ok "JBSWY3DP" := by
  rintro ⟨stored, encrypted, -⟩
  have raised : encryptMfaSecret oneBlock ⟨"", "zz"⟩ (some dataKey) zeros zeros "JBSWY3DP" =
      none := by
    decide +kernel
  cases raised.symm.trans encrypted

end AgentOE.MfaSecret
