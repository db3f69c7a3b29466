import GuildRegistry.Cipher.Fernet
import GuildRegistry.Proofs.Cipher.Aes
import GuildRegistry.Proofs.Cipher.Base64
import GuildRegistry.Proofs.Text.Ascii

/-! Tokens open to what they seal.

A token is the base64 text of `0x80 ‖ seconds ‖ IV ‖ ciphertext ‖ tag`. Its characters are printable
ASCII, so the bytes a token is stored as read back to the same text with nothing to trim, and the
text decodes to the same bytes.
-/

set_option autoImplicit false

namespace GuildRegistry.Sha256

theorem compress_size (state : Array UInt32) (block : Array UInt8) : (compress state block).size = 8 := rfl

@[simp] theorem length_bytesOfWord (w : UInt32) : (bytesOfWord w).length = 4 := rfl

theorem foldl_compress_size (blocks : List (List UInt8)) {state : Array UInt32} (h : state.size = 8) :
    (blocks.foldl (fun st blk => compress st blk.toArray) state).size = 8 := by
  induction blocks generalizing state with
  | nil => exact h
  | cons blk blocks ih => exact ih (compress_size ..)

theorem length_hash (msg : List UInt8) : (hash msg).length = 32 := by
  have words : ((chunks 64 (pad msg)).foldl (fun st blk => compress st blk.toArray) initialState).size = 8 :=
    foldl_compress_size _ rfl
  simp only [hash]
  generalize (chunks 64 (pad msg)).foldl (fun st blk => compress st blk.toArray) initialState = state at words
  simp only [List.length_flatMap, length_bytesOfWord, List.map_const', Array.length_toList, words]
  rfl

end GuildRegistry.Sha256

namespace GuildRegistry.Hmac

theorem length_sha256 (key msg : List UInt8) : (sha256 key msg).length = 32 := Sha256.length_hash _

end GuildRegistry.Hmac

namespace GuildRegistry.Fernet

-- powers of naturals are computed by `Nat.pow`, whatever other instances are in scope
attribute [local instance (high)] instPowNat

/-- The number that bytes spell, most significant first. -/
def bigEndian (bytes : List UInt8) : Nat := bytes.foldl (fun n b => 256 * n + b.toNat) 0

theorem bigEndian_bytes8 {n : Nat} (h : n < 2 ^ 64) : bigEndian (bytes8 n) = n := by
  simp [bytes8, bigEndian, List.range_succ, Nat.toUInt8_eq, UInt8.toNat_ofNat']
  omega

@[simp] theorem length_bytes8 (n : Nat) : (bytes8 n).length = 8 := by simp [bytes8]

theorem secondsOf_valid {now : Instant} (after : 0 ≤ now.ms) (valid : now.ms ≤ Instant.maxMs) :
    secondsOf (some now) = .ok (now.ms / 1000).toNat ∧ (now.ms / 1000).toNat < 2 ^ 64 := by
  refine ⟨?_, ?_⟩
  · simp only [secondsOf]
    rw [if_neg (by omega)]
  · simp only [Instant.maxMs] at valid
    omega

theorem asciiChar_toUInt8 {c : Char} (h : c.toNat < 128) : asciiChar c.toNat.toUInt8 = c := by
  rw [asciiChar, Nat.toUInt8_eq, UInt8.toNat_ofNat', Nat.mod_eq_of_lt (by omega : c.toNat < 2 ^ 8),
    Nat.mod_eq_of_lt h, Char.ofNat_toNat]

theorem trimChars_asciiChar {cs : List Char} (printable : ∀ c ∈ cs, 33 ≤ c.toNat ∧ c.toNat < 127) :
    Text.trimChars ((Utf8.encode (String.ofList cs)).map asciiChar) = cs := by
  have same : cs.map (asciiChar ∘ fun c => c.toNat.toUInt8) = cs := by
    conv => rhs; rw [← List.map_id cs]
    exact List.map_congr_left fun c mem => asciiChar_toUInt8 (Nat.lt_trans (printable c mem).2 (by decide))
  rw [Utf8.encode_ascii fun c mem => Nat.lt_trans (printable c mem).2 (by decide), List.map_map, same,
    Text.trimChars_of_printable printable]

theorem read_token {data : List UInt8} (h : data ≠ []) :
    Text.trimChars ((Utf8.encode (Base64.encode data)).map asciiChar) = Base64.encodeChars data ∧
      (Base64.encodeChars data).isEmpty = false ∧
      Base64.decode? (String.ofList (Base64.encodeChars data)) = some data := by
  have decoded := Base64.decode?_encode h
  rw [Base64.encode] at decoded
  refine ⟨trimChars_asciiChar (Base64.printable_of_mem_encodeChars data), ?_, decoded⟩
  cases chars : Base64.encodeChars data with
  | nil => simp [chars, Base64.decode?, Base64.isWellFormed] at decoded
  | cons => rfl

theorem decrypt_encrypt_ok (key : Key) (seconds : Nat) {iv : List UInt8} (ivLength : iv.length = 16)
    (plaintext : List UInt8) :
    decrypt key (Utf8.encode (encrypt key seconds iv plaintext)) = .ok plaintext := by
  have ctLength := Aes.length_cbcEncrypt key.encryption iv plaintext
  generalize hct : Aes.cbcEncrypt key.encryption iv plaintext = ct at ctLength
  generalize hbody : [0x80] ++ bytes8 seconds ++ iv ++ ct = body
  have tagLength := Hmac.length_sha256 key.signing body
  have data : tokenBytes key seconds iv plaintext = body ++ Hmac.sha256 key.signing body := by
    rw [tokenBytes, hct, hbody]
  obtain ⟨text, filled, decoded⟩ :=
    read_token (List.ne_nil_of_length_pos (by simp [data, tagLength]) : tokenBytes key seconds iv plaintext ≠ [])
  rw [decrypt, encrypt, text]
  simp only [filled, Bool.false_eq_true, if_false, decoded]
  rw [data]
  -- the data passes the length, version and block checks, and its last 32 bytes are the tag
  have bodyLength : body.length = 25 + 16 * (plaintext.length / 16 + 1) := by
    rw [← hbody]; simp [ivLength, ctLength]; omega
  have head : (body ++ Hmac.sha256 key.signing body).head? = some 0x80 := by
    rw [← hbody]; rfl
  have checks : ¬((body ++ Hmac.sha256 key.signing body).length < 73 ∨
      (body ++ Hmac.sha256 key.signing body).head? ≠ some 0x80 ∨
      ((body ++ Hmac.sha256 key.signing body).length - 57) % 16 ≠ 0) := by
    simp only [head, ne_eq, not_true_eq_false, false_or, List.length_append, tagLength, bodyLength]
    omega
  have split : (body ++ Hmac.sha256 key.signing body).length - 32 = body.length := by
    simp only [List.length_append, tagLength, Nat.add_sub_cancel]
  rw [if_neg checks, split, List.take_left' rfl, List.drop_left' rfl, if_neg (by simp)]
  -- the version byte and the time come before the IV, and the ciphertext after it
  have iv' : (body.drop 9).take 16 = iv := by
    rw [← hbody, List.append_assoc, List.drop_left' (by simp), List.take_left' ivLength]
  have ct' : body.drop 25 = ct := by
    rw [← hbody, List.drop_left' (by simp [ivLength])]
  rw [iv', ct', ← hct, Aes.cbcDecrypt_cbcEncrypt]

/-- A token made at any time from 1970 on opens under its key to the plaintext it sealed. It is
printable ASCII of the URL-safe base64 shape, and its bytes are the version `0x80`, the whole
seconds since the epoch as eight big-endian bytes, the IV, a ciphertext of whole blocks one to
sixteen bytes longer than the plaintext, and a 32-byte tag. -/
theorem decrypt_encrypt_token (key : Key) (now : Instant) (after : 0 ≤ now.ms)
    (valid : now.ms ≤ Instant.maxMs) {iv : List UInt8} (ivLength : iv.length = 16) (plaintext : List UInt8) :
    ∃ seconds, secondsOf (some now) = .ok seconds ∧ bigEndian (bytes8 seconds) = (now.ms / 1000).toNat ∧
      decrypt key (Utf8.encode (encrypt key seconds iv plaintext)) = .ok plaintext ∧
      Base64.isWellFormed (encrypt key seconds iv plaintext).toList = true ∧
      (∀ c ∈ (encrypt key seconds iv plaintext).toList, c.toNat < 128) ∧
      ∃ ciphertext tag, Base64.decode? (encrypt key seconds iv plaintext) =
          some ([0x80] ++ bytes8 seconds ++ iv ++ ciphertext ++ tag) ∧
        ciphertext.length = 16 * (plaintext.length / 16 + 1) ∧ tag.length = 32 := by
  obtain ⟨reading, small⟩ := secondsOf_valid after valid
  have nonempty : tokenBytes key (now.ms / 1000).toNat iv plaintext ≠ [] := by simp [tokenBytes]
  have chars : (encrypt key (now.ms / 1000).toNat iv plaintext).toList =
      Base64.encodeChars (tokenBytes key (now.ms / 1000).toNat iv plaintext) := by
    rw [encrypt, Base64.encode, String.toList_ofList]
  refine ⟨_, reading, bigEndian_bytes8 small, decrypt_encrypt_ok key _ ivLength plaintext, ?_, ?_,
    Aes.cbcEncrypt key.encryption iv plaintext,
    Hmac.sha256 key.signing ([0x80] ++ bytes8 (now.ms / 1000).toNat ++ iv ++
      Aes.cbcEncrypt key.encryption iv plaintext), ?_, Aes.length_cbcEncrypt .., Hmac.length_sha256 ..⟩
  · rw [chars]
    exact Base64.isWellFormed_encodeChars nonempty
  · rw [chars]
    exact fun c mem => Nat.lt_trans (Base64.printable_of_mem_encodeChars _ c mem).2 (by decide)
  · rw [encrypt, Base64.decode?_encode nonempty]
    rfl

/-- Sealing two bytes at 2024-05-01T09:30:00Z under a key of ones and twos, with a zero IV. -/
theorem decrypt_encrypt_token_at_may_first :
    ((0 : Int) ≤ 1714555800000 ∧ (1714555800000 : Int) ≤ Instant.maxMs ∧
        (List.replicate 16 (0 : UInt8)).length = 16) ∧
      ∃ seconds, secondsOf (some ⟨1714555800000⟩) = .ok seconds ∧
        bigEndian (bytes8 seconds) = ((1714555800000 : Int) / 1000).toNat ∧
        decrypt ⟨List.replicate 16 1, List.replicate 16 2⟩
            (Utf8.encode (encrypt ⟨List.replicate 16 1, List.replicate 16 2⟩ seconds
              (List.replicate 16 0) [104, 105])) = .ok [104, 105] ∧
        Base64.isWellFormed (encrypt ⟨List.replicate 16 1, List.replicate 16 2⟩ seconds
          (List.replicate 16 0) [104, 105]).toList = true ∧
        (∀ c ∈ (encrypt ⟨List.replicate 16 1, List.replicate 16 2⟩ seconds
          (List.replicate 16 0) [104, 105]).toList, c.toNat < 128) ∧
        ∃ ciphertext tag, Base64.decode? (encrypt ⟨List.replicate 16 1, List.replicate 16 2⟩ seconds
              (List.replicate 16 0) [104, 105]) =
            some ([0x80] ++ bytes8 seconds ++ List.replicate 16 0 ++ ciphertext ++ tag) ∧
          ciphertext.length = 16 * ([104, 105].length / 16 + 1) ∧ tag.length = 32 :=
  ⟨⟨by decide, by decide, rfl⟩,
    decrypt_encrypt_token ⟨List.replicate 16 1, List.replicate 16 2⟩ ⟨1714555800000⟩ (by decide) (by decide)
      rfl [104, 105]⟩

end GuildRegistry.Fernet
