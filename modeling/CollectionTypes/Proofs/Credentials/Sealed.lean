import CollectionTypes.Credentials.Sealed
import CollectionTypes.Proofs.EnvFile.Written
import CollectionTypes.Proofs.Json.Written
import CollectionTypes.Proofs.Seal.Authenticated
import CollectionTypes.Proofs.Text.Base64
import CollectionTypes.Proofs.Text.Blank

/-!
Sealed credentials open with the passphrase that sealed them, whatever they hold: the payload, the
sealed text behind its nonce, its letters and the lines of the file each come back. Of other files,
that nothing is decrypted but a text behind a nonce of the right size. What a wrong passphrase does
is no part of this, and neither is where the file is kept.
-/

namespace CollectionTypes

namespace Credentials

namespace Sealed

open Seal.Authenticated (nonceSize encrypt decrypt)
open Seal.Derivation (costLimit deriveKey)

/-! The payload. -/

def payloadEntries (credentials : Credentials) : List (String × String) :=
  [("host", credentials.host), ("email", credentials.email), ("password", credentials.password)]

theorem read_payload_of_payload (credentials : Credentials) :
    readPayload (payload credentials) = .ok credentials := by
  have tree : Json.Tree.ofLetters (payload credentials).toList =
      (.object (Json.Tree.textMembers (payloadEntries credentials)), some []) := by
    rw [payload, Json.Writer.write, String.toList_ofList]
    exact Json.Tree.of_letters_of_texts (payloadEntries credentials)
  rw [readPayload, Json.decodeText, tree]
  rfl

theorem text_of_bytes (text : String) :
    String.fromUTF8? ⟨(Seal.bytesOfText text).toArray⟩ = some text := by
  have bytes : (⟨(Seal.bytesOfText text).toArray⟩ : ByteArray) = text.toByteArray := by
    rw [Seal.bytesOfText, Array.toArray_toList]
    rfl
  rw [bytes, String.fromUTF8?, dif_pos text.isValidUTF8]
  rfl

theorem credentials_of_payload (credentials : Credentials) :
    credentialsOfBytes (Seal.bytesOfText (payload credentials)) = .ok credentials := by
  rw [credentialsOfBytes, text_of_bytes]
  simp only [read_payload_of_payload]
  rfl

/-! The file. -/

def entries (salt data : Seal.Bytes) (cost : Nat) : List (String × String) :=
  [("SALT", String.ofList (Text.Base64.encode salt)),
    ("DATA", String.ofList (Text.Base64.encode data)), ("SCRYPT_LOG_N", Text.Decimal.write cost)]

theorem code_is_bare (bytes : Seal.Bytes) :
    ∀ letter ∈ Text.Base64.encode bytes, EnvFile.isBareLetter letter = true :=
  Text.Base64.encoded_letters bytes

theorem digits_are_bare (value : Nat) :
    ∀ letter ∈ Text.Decimal.digits value, EnvFile.isBareLetter letter = true := by
  intro letter member
  have digit : letter.isDigit = true := Text.Decimal.digits_are_digits value letter member
  simp [EnvFile.isBareLetter, Char.isAlphanum, digit]

theorem decode_bytes_of_code (bytes : Seal.Bytes) :
    decodeBytes (String.ofList (Text.Base64.encode bytes)) = some bytes := by
  have shown : ∀ letter ∈ Text.Base64.encode bytes, Text.isBlank letter = false :=
    fun letter member => (EnvFile.bare_letter_stands (code_is_bare bytes letter member)).2.1
  rw [decodeBytes, String.toList_ofList, Text.trim_of_shown shown, Text.Base64.decode_encode]

theorem read_cost_of_digits {cost : Nat} (small : cost < costBound) :
    readCost (Text.Decimal.write cost) = .ok cost := by
  rw [readCost, Text.Decimal.write, String.toList_ofList, Text.Decimal.parse_signed_digits]
  exact if_pos small

theorem read_parts_of_entries (environment : EnvFile.Environment) {salt data : Seal.Bytes}
    {cost : Nat} (salted : salt ≠ []) (filled : data ≠ []) (small : cost < costBound) :
    readParts environment (.text (EnvFile.linesText String.toList (entries salt data cost))) =
      .ok { salt := some salt, data := some data, cost := cost } := by
  have legible : ∀ entry ∈ entries salt data cost, EnvFile.Legible String.toList entry := by
    have saltCode := EnvFile.bare_spells (code_is_bare salt) (Text.Base64.encode_ne_nil salted)
    have dataCode := EnvFile.bare_spells (code_is_bare data) (Text.Base64.encode_ne_nil filled)
    have number := EnvFile.bare_spells (digits_are_bare cost) (Text.Decimal.digits_ne_nil cost)
    have saltKey : EnvFile.isKey "SALT".toList = true := by decide
    have dataKey : EnvFile.isKey "DATA".toList = true := by decide
    have costKey : EnvFile.isKey "SCRYPT_LOG_N".toList = true := by decide
    simp only [entries, List.forall_mem_cons]
    exact ⟨⟨saltKey, by simpa using saltCode⟩, ⟨dataKey, by simpa using dataCode⟩,
      ⟨costKey, by simpa [Text.Decimal.write] using number⟩, by simp⟩
  rw [readParts, EnvFile.entries_of_lines environment legible]
  simp only [entries, List.foldlM_cons, List.foldlM_nil, assign, decode_bytes_of_code,
    read_cost_of_digits small]
  rfl

/-- What is split has a nonce of its size before some sealed text, and nothing is left out. -/
theorem split_parts_sizes {parts : Parts} {salt nonce hidden : Seal.Bytes}
    (split : splitParts parts = .ok (salt, nonce, hidden)) :
    parts.data = some (nonce ++ hidden) ∧ nonce.length = nonceSize ∧ hidden ≠ [] := by
  obtain ⟨_ | kept, _ | data, cost⟩ := parts
  · contradiction
  · contradiction
  · contradiction
  · simp only [splitParts] at split
    split at split
    · contradiction
    · rename_i long
      obtain ⟨rfl, rfl, rfl⟩ : kept = salt ∧ data.take nonceSize = nonce ∧
          data.drop nonceSize = hidden := by simpa using split
      refine ⟨by simp, ?_, ?_⟩
      · rw [List.length_take]
        omega
      · rw [List.ne_nil_iff_length_pos, List.length_drop]
        omega

theorem split_of_data {salt nonce hidden : Seal.Bytes} {cost : Nat}
    (nonceSized : nonce.length = nonceSize) (filled : hidden ≠ []) :
    splitParts { salt := some salt, data := some (nonce ++ hidden), cost := cost } =
      .ok (salt, nonce, hidden) := by
  have long : ¬(nonce ++ hidden).length ≤ nonceSize := by
    have positive := List.length_pos_iff.mpr filled
    rw [List.length_append]
    omega
  simp only [splitParts, if_neg long]
  rw [← nonceSized, List.take_left, List.drop_left]

end Sealed

open Seal (Bytes)
open Seal.Authenticated (nonceSize)

/-- The text of a sealed file, given its parts. -/
theorem seal_text (credentials : Credentials) (passphrase : String) {options : SealOptions}
    (accepted : options.cost < Seal.Derivation.costLimit) :
    ∃ key, Sealed.keyFor passphrase options.salt options.cost = .ok key ∧
      key.length = Seal.Cipher.keySize ∧
      sealWith credentials passphrase options = .ok (EnvFile.linesText String.toList
        (Sealed.entries options.salt (options.nonce ++ Seal.Authenticated.encrypt key options.nonce
          (Seal.bytesOfText (Sealed.payload credentials))) options.cost)) := by
  have derived : Sealed.keyFor passphrase options.salt options.cost =
      .ok (Seal.Derivation.deriveKey (Seal.bytesOfText passphrase) options.salt options.cost) :=
    if_neg (by omega)
  refine ⟨_, derived, Seal.Derivation.derive_key_length .., ?_⟩
  simp only [sealWith, derived]
  apply congrArg Except.ok
  apply String.toList_inj.mp
  simp [EnvFile.linesText, Sealed.entries, EnvFile.lineLetters, String.join_cons]

theorem open_seal (environment : EnvFile.Environment) (credentials : Credentials)
    (passphrase : String) {options : SealOptions} (salted : options.salt ≠ [])
    (nonceSized : options.nonce.length = nonceSize)
    (accepted : options.cost < Seal.Derivation.costLimit) :
    ∃ text, sealWith credentials passphrase options = .ok text ∧
      openWith environment passphrase (.text text) = .ok credentials := by
  obtain ⟨key, derived, keySized, written⟩ := seal_text credentials passphrase accepted
  refine ⟨_, written, ?_⟩
  have small : options.cost < Sealed.costBound :=
    Nat.lt_trans accepted (by decide)
  have hidden : Seal.Authenticated.encrypt key options.nonce
      (Seal.bytesOfText (Sealed.payload credentials)) ≠ [] := by
    rw [List.ne_nil_iff_length_pos, Seal.Authenticated.encrypt_length keySized nonceSized]
    exact Nat.lt_add_left _ (by decide)
  have filled := List.append_ne_nil_of_right_ne_nil options.nonce hidden
  simp only [openWith, Sealed.read_parts_of_entries environment salted filled small, bind,
    Except.bind, Sealed.split_of_data nonceSized hidden, derived,
    Seal.Authenticated.decrypt_encrypt keySized nonceSized]
  exact Sealed.credentials_of_payload credentials

/-! What is decrypted. -/

/-- Opening with some way of undoing the encryption of a key, a nonce and a sealed text. -/
def openUsing (undo : Bytes → Bytes → Bytes → Option Bytes) (environment : EnvFile.Environment)
    (passphrase : String) (content : FileContent) : Except ClientError Credentials := do
  let parts ← Sealed.readParts environment content
  let (salt, nonce, hidden) ← Sealed.splitParts parts
  let key ← Sealed.keyFor passphrase salt parts.cost
  match undo key nonce hidden with
  | none => .error Sealed.wrongPassphrase
  | some plain => Sealed.credentialsOfBytes plain

theorem open_with_eq_open_using : openWith = openUsing Seal.Authenticated.decrypt := rfl

/-- Decrypts a text behind a nonce of the right size, and does anything whatever elsewhere. -/
def decryptWithin (elsewhere : Bytes → Bytes → Bytes → Option Bytes) (key nonce hidden : Bytes) :
    Option Bytes :=
  if nonce.length = nonceSize ∧ hidden ≠ [] then Seal.Authenticated.decrypt key nonce hidden
  else elsewhere key nonce hidden

theorem open_using_within (elsewhere : Bytes → Bytes → Bytes → Option Bytes)
    (environment : EnvFile.Environment) (passphrase : String) (content : FileContent) :
    openUsing (decryptWithin elsewhere) environment passphrase content =
      openWith environment passphrase content := by
  rw [open_with_eq_open_using]
  unfold openUsing
  cases Sealed.readParts environment content with
  | error _ => rfl
  | ok parts =>
      simp only [bind, Except.bind]
      cases split : Sealed.splitParts parts with
      | error _ => rfl
      | ok pieces =>
          obtain ⟨salt, nonce, hidden⟩ := pieces
          obtain ⟨_, nonceSized, filled⟩ := Sealed.split_parts_sizes split
          simp only [decryptWithin, if_pos (And.intro nonceSized filled)]

/-- Credentials come back from every file they are sealed in, whatever they hold and whatever the
passphrase, the salt, the nonce and the cost. Of arbitrary files, nothing is decrypted but a text
behind a nonce of the right size: what decryption would do elsewhere has no say. -/
theorem sealed_credentials_open (environment : EnvFile.Environment) (passphrase : String) :
    (∀ (credentials : Credentials) (options : SealOptions), options.salt ≠ [] →
      options.nonce.length = nonceSize → options.cost < Seal.Derivation.costLimit →
      ∃ text, sealWith credentials passphrase options = .ok text ∧
        openWith environment passphrase (.text text) = .ok credentials) ∧
    (∀ (elsewhere : Bytes → Bytes → Bytes → Option Bytes) (content : FileContent),
      openUsing (decryptWithin elsewhere) environment passphrase content =
        openWith environment passphrase content) ∧
    ∀ (parts : Sealed.Parts) (salt nonce hidden : Bytes),
      Sealed.splitParts parts = .ok (salt, nonce, hidden) →
      parts.data = some (nonce ++ hidden) ∧ nonce.length = nonceSize ∧ hidden ≠ [] := by
  refine ⟨fun credentials options salted nonceSized accepted => ?sealed,
    fun elsewhere content => ?opened, fun parts salt nonce hidden split => ?split⟩
  case sealed => exact open_seal environment credentials passphrase salted nonceSized accepted
  case opened => exact open_using_within elsewhere environment passphrase content
  case split => exact Sealed.split_parts_sizes split

def zeroOptions : SealOptions where
  salt := List.replicate 32 0
  nonce := List.replicate nonceSize 0

theorem zero_sealed_credentials_open :
    ∃ text, sealWith ⟨"https://host", "a@b.c", "pass"⟩ "secret" zeroOptions = .ok text ∧
      openWith [] "secret" (.text text) = .ok ⟨"https://host", "a@b.c", "pass"⟩ :=
  (sealed_credentials_open [] "secret").1 _ zeroOptions (by decide) (by decide) (by decide)

end Credentials

end CollectionTypes
