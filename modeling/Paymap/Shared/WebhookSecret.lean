import Paymap.Lib.Hex
import Paymap.Lib.Js
import Paymap.Lib.Tx

set_option autoImplicit false

/-! # Webhook secrets at rest

`packages/shared/src/webhook-secret-crypto.ts`: a secret is stored as
`v1:<iv hex>:<authTag hex>:<ciphertext hex>`, under a key that is the digest of some text. What was
stored under the key is read back under it (`decryptWebhookSecret_encrypt`), and nothing else is read
than what the cipher opens (`decryptWebhookSecret_ok`).

SHA-256 and AES-256-GCM are a parameter, and so are random bytes.
-/

namespace Paymap.Shared

open Js (Str)
open Tx (rejectIf)

/-! ## Bytes of texts -/

/-- `Buffer.from(text, "utf8")`. -/
def utf8Bytes (t : Str) : List UInt8 := (String.ofList t).toByteArray.data.toList

structure Crypto where
  sha256 : List UInt8 → List UInt8
  /-- `createCipheriv("aes-256-gcm", key, iv)`: the ciphertext and the tag. -/
  encrypt : (key iv plaintext : List UInt8) → List UInt8 × List UInt8
  /-- `createDecipheriv`, `setAuthTag`, `update` and `final`; `none` is an exception. -/
  decrypt : (key iv tag ciphertext : List UInt8) → Option (List UInt8)
  /-- What `toString("utf8")` makes of bytes that are no UTF-8. -/
  replaced : List UInt8 → Str

/-- `Buffer.toString("utf8")`. -/
def Crypto.utf8Text (crypto : Crypto) (bytes : List UInt8) : Str :=
  match (ByteArray.mk bytes.toArray).utf8Decode? with
  | some text => text.toList
  | none => crypto.replaced bytes

/-- What is relied on of the two algorithms. -/
structure Crypto.Sound (crypto : Crypto) : Prop where
  length_sha256 : ∀ bytes, (crypto.sha256 bytes).length = 32
  decrypt_encrypt : ∀ key iv plaintext, key.length = 32 → iv.length = 12 →
    crypto.decrypt key iv (crypto.encrypt key iv plaintext).2 (crypto.encrypt key iv plaintext).1
      = some plaintext

theorem Crypto.utf8Text_utf8Bytes (crypto : Crypto) (t : Str) : crypto.utf8Text (utf8Bytes t) = t := by
  have hbytes : ByteArray.mk (utf8Bytes t).toArray = t.utf8Encode := String.toByteArray_ofList
  unfold Crypto.utf8Text
  rw [hbytes, List.utf8Decode?_utf8Encode]

/-! ## Secrets -/

/-- The digits of `base64url`. -/
def base64UrlDigits : Str :=
  "ABCDEFGHIJKLMNOPQRSTUVWXYZabcdefghijklmnopqrstuvwxyz0123456789-_".toList

def base64UrlDigit (n : ℕ) : Char := base64UrlDigits.getD n 'A'

/-- `toString("base64url")`: four digits for three bytes, and no padding. -/
def base64Url : List UInt8 → Str
  | a :: b :: c :: rest =>
      base64UrlDigit (a.toNat / 4) :: base64UrlDigit (a.toNat % 4 * 16 + b.toNat / 16) ::
        base64UrlDigit (b.toNat % 16 * 4 + c.toNat / 64) :: base64UrlDigit (c.toNat % 64) ::
        base64Url rest
  | [a, b] =>
      [base64UrlDigit (a.toNat / 4), base64UrlDigit (a.toNat % 4 * 16 + b.toNat / 16),
        base64UrlDigit (b.toNat % 16 * 4)]
  | [a] => [base64UrlDigit (a.toNat / 4), base64UrlDigit (a.toNat % 4 * 16)]
  | [] => []

def generateWebhookSecret (random : Vector UInt8 24) : Str :=
  "whsec_".toList ++ base64Url random.toList

structure WebhookSecretCryptoError where
  message : String
deriving DecidableEq

def formatVersion : Str := ['v', '1']

/-- `IV_LENGTH_BYTES`. -/
abbrev ivLengthBytes : ℕ := 12

def deriveKey (crypto : Crypto) (keyMaterial : Str) : Except WebhookSecretCryptoError (List UInt8) := do
  rejectIf (keyMaterial = []) ⟨"Encryption key material must not be empty."⟩
  return crypto.sha256 (utf8Bytes keyMaterial)

/-- The stored format. -/
def storedSecret (iv tag ciphertext : List UInt8) : Str :=
  [':'].intercalate [formatVersion, Hex.encode iv, Hex.encode tag, Hex.encode ciphertext]

def encryptWebhookSecret (crypto : Crypto) (plaintext keyMaterial : Str)
    (iv : Vector UInt8 ivLengthBytes) : Except WebhookSecretCryptoError Str := do
  let key ← deriveKey crypto keyMaterial
  let (ciphertext, tag) := crypto.encrypt key iv.toList (utf8Bytes plaintext)
  return storedSecret iv.toList tag ciphertext

def unrecognizedFormat : WebhookSecretCryptoError :=
  ⟨"Unrecognized encrypted webhook secret format (expected \"v1:<iv>:<tag>:<ciphertext>\")."⟩

def decryptionFailed : WebhookSecretCryptoError :=
  ⟨"Failed to decrypt webhook secret (wrong WEBHOOK_ENCRYPTION_KEY or corrupted ciphertext)."⟩

def decryptWebhookSecret (crypto : Crypto) (stored keyMaterial : Str) :
    Except WebhookSecretCryptoError Str :=
  match stored.splitOn ':' with
  | [version, ivHex, tagHex, ciphertextHex] => do
      rejectIf (version ≠ formatVersion) unrecognizedFormat
      let key ← deriveKey crypto keyMaterial
      match crypto.decrypt key (Hex.decode ivHex) (Hex.decode tagHex) (Hex.decode ciphertextHex) with
      | some plaintext => return crypto.utf8Text plaintext
      | none => .error decryptionFailed
  | _ => .error unrecognizedFormat

section

variable {crypto : Crypto} {plaintext keyMaterial stored : Str} {iv : Vector UInt8 ivLengthBytes}

theorem deriveKey_ok {key : List UInt8} : deriveKey crypto keyMaterial = .ok key ↔
    keyMaterial ≠ [] ∧ key = crypto.sha256 (utf8Bytes keyMaterial) := by
  unfold deriveKey
  by_cases h : keyMaterial = []
  · simp [rejectIf, h, bind, Except.bind]
  · simp [rejectIf, h, bind, Except.bind, pure, Except.pure, eq_comm]

theorem encryptWebhookSecret_ok : encryptWebhookSecret crypto plaintext keyMaterial iv = .ok stored ↔
    keyMaterial ≠ [] ∧ ∃ sealed, sealed =
        crypto.encrypt (crypto.sha256 (utf8Bytes keyMaterial)) iv.toList (utf8Bytes plaintext) ∧
      stored = storedSecret iv.toList sealed.2 sealed.1 := by
  unfold encryptWebhookSecret
  cases hkey : deriveKey crypto keyMaterial with
  | error e =>
      have hempty : keyMaterial = [] := by
        by_contra hne
        rw [deriveKey_ok.mpr ⟨hne, rfl⟩] at hkey
        cases hkey
      simp [hempty, bind, Except.bind]
  | ok key =>
      obtain ⟨hne, rfl⟩ := deriveKey_ok.mp hkey
      simp [hne, bind, Except.bind, pure, Except.pure, eq_comm]

theorem splitOn_storedSecret (iv tag ciphertext : List UInt8) :
    (storedSecret iv tag ciphertext).splitOn ':'
      = [formatVersion, Hex.encode iv, Hex.encode tag, Hex.encode ciphertext] := by
  have hhex : ∀ bytes, ':' ∉ Hex.encode bytes := fun bytes hmem =>
    absurd (Hex.isDigit_encode hmem) (by decide)
  apply List.splitOn_intercalate
  · intro part hpart
    simp only [List.mem_cons, List.not_mem_nil, or_false] at hpart
    rcases hpart with rfl | rfl | rfl | rfl
    · decide
    · exact hhex _
    · exact hhex _
    · exact hhex _
  · exact List.cons_ne_nil _ _

/-- **What decrypts**: a text of the stored format that the cipher opens. -/
theorem decryptWebhookSecret_ok {secret : Str} :
    decryptWebhookSecret crypto stored keyMaterial = .ok secret ↔
      keyMaterial ≠ [] ∧ ∃ ivHex tagHex ciphertextHex bytes,
        stored.splitOn ':' = [formatVersion, ivHex, tagHex, ciphertextHex] ∧
        crypto.decrypt (crypto.sha256 (utf8Bytes keyMaterial)) (Hex.decode ivHex) (Hex.decode tagHex)
          (Hex.decode ciphertextHex) = some bytes ∧ secret = crypto.utf8Text bytes := by
  unfold decryptWebhookSecret
  constructor
  · intro h
    split at h
    · rename_i version ivHex tagHex ciphertextHex hsplit
      by_cases hversion : version = formatVersion
      · cases hkey : deriveKey crypto keyMaterial with
        | error e => simp [hversion, hkey, rejectIf, bind, Except.bind] at h
        | ok key =>
            obtain ⟨hne, rfl⟩ := deriveKey_ok.mp hkey
            simp only [hversion, hkey, rejectIf, bind, Except.bind, ne_eq, not_true_eq_false,
              if_false] at h
            split at h
            · rename_i bytes hbytes
              cases h
              exact ⟨hne, ivHex, tagHex, ciphertextHex, bytes, hversion ▸ hsplit, hbytes, rfl⟩
            · cases h
      · simp [hversion, rejectIf, bind, Except.bind] at h
    · cases h
  · rintro ⟨hne, ivHex, tagHex, ciphertextHex, bytes, hsplit, hbytes, rfl⟩
    rw [hsplit]
    simp [deriveKey_ok.mpr ⟨hne, rfl⟩, hbytes, rejectIf, bind, Except.bind, pure, Except.pure]

/-- **A stored secret is read back.** -/
theorem decryptWebhookSecret_encrypt (hsound : crypto.Sound)
    (h : encryptWebhookSecret crypto plaintext keyMaterial iv = .ok stored) :
    decryptWebhookSecret crypto stored keyMaterial = .ok plaintext := by
  obtain ⟨hne, sealed, rfl, rfl⟩ := encryptWebhookSecret_ok.mp h
  refine decryptWebhookSecret_ok.mpr ⟨hne, _, _, _, utf8Bytes plaintext, splitOn_storedSecret _ _ _, ?_,
    (crypto.utf8Text_utf8Bytes plaintext).symm⟩
  rw [Hex.decode_encode, Hex.decode_encode, Hex.decode_encode]
  exact hsound.decrypt_encrypt _ _ _ (hsound.length_sha256 _) iv.length_toList

end

end Paymap.Shared
