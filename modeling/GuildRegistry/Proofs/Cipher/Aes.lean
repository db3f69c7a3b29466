import GuildRegistry.Cipher.Aes

/-! Deciphering undoes enciphering.

Each step of a round has an inverse on 16-byte states: the round key is added again, the rows shift
back, the inverse S-box undoes the S-box, and `InvMixColumns` undoes `MixColumns`.
-/

set_option autoImplicit false

namespace GuildRegistry.Aes

theorem forall_byte {p : UInt8 → Prop} (h : ∀ n < 256, p n.toUInt8) (x : UInt8) : p x := by
  simpa using h x.toNat x.toNat_lt

theorem invSbox_sbox (b : UInt8) : invSbox[(sbox[b.toNat]!).toNat]! = b :=
  forall_byte (p := fun b => invSbox[(sbox[b.toNat]!).toNat]! = b) (by decide +kernel) b

/-! ### Multiplication in GF(2^8) -/

/-- The loop of `gmul`: `n` bits of `y` still to read, `x` the current multiple of the first
factor, `p` the sum so far. -/
def gmulLoop : Nat → UInt8 → UInt8 → UInt8 → UInt8
  | 0, _, _, p => p
  | n + 1, x, y, p => gmulLoop n (xtime x) (y >>> 1) (if y &&& 1 != 0 then p ^^^ x else p)

theorem forIn_gmul (l : List Nat) (p x y : UInt8) :
    (forIn (m := Id) l (p, x, y) fun _ s =>
      if (s.2.2 &&& 1 != 0) = true then pure (ForInStep.yield (s.1 ^^^ s.2.1, xtime s.2.1, s.2.2 >>> 1))
      else pure (ForInStep.yield (s.1, xtime s.2.1, s.2.2 >>> 1))).1 = gmulLoop l.length x y p := by
  induction l generalizing p x y with
  | nil => rfl
  | cons _ l ih =>
    simp only [List.forIn_cons, gmulLoop, List.length_cons]
    by_cases bit : (y &&& 1 != 0) = true
    · simp only [bit, if_true]
      exact ih _ _ _
    · simp only [bit]
      exact ih _ _ _

theorem gmul_eq_loop (a b : UInt8) : gmul a b = gmulLoop 8 a b 0 := by
  simp only [gmul, Id.run, Std.Legacy.Range.forIn_eq_forIn_range']
  exact forIn_gmul _ 0 a b

theorem lowBit_xor (y y' : UInt8) : ((y ^^^ y') &&& 1 != 0) = ((y &&& 1 != 0) ^^ (y' &&& 1 != 0)) := by
  have low : ∀ z : UInt8, z &&& 1 = 0 ∨ z &&& 1 = 1 := forall_byte (by decide +kernel)
  have split : (y ^^^ y') &&& 1 = (y &&& 1) ^^^ (y' &&& 1) := by
    apply UInt8.toNat_inj.mp
    simp only [UInt8.toNat_and, UInt8.toNat_xor, Nat.and_xor_distrib_right]
  rw [split]
  rcases low y with h | h <;> rcases low y' with h' | h' <;> rw [h, h'] <;> decide

theorem gmulLoop_xor (n : Nat) (x y y' p p' : UInt8) :
    gmulLoop n x (y ^^^ y') (p ^^^ p') = gmulLoop n x y p ^^^ gmulLoop n x y' p' := by
  induction n generalizing x y y' p p' with
  | zero => rfl
  | succ n ih =>
    have step : (if (y ^^^ y') &&& 1 != 0 then p ^^^ p' ^^^ x else p ^^^ p') =
        (if y &&& 1 != 0 then p ^^^ x else p) ^^^ (if y' &&& 1 != 0 then p' ^^^ x else p') := by
      rw [lowBit_xor]
      cases (y &&& 1 != 0) <;> cases (y' &&& 1 != 0) <;> simp
      · ac_rfl
      · ac_rfl
      · calc p ^^^ p' = p ^^^ p' ^^^ (x ^^^ x) := by simp
          _ = p ^^^ x ^^^ (p' ^^^ x) := by ac_rfl
    simp only [gmulLoop, UInt8.shiftRight_xor, step, ih]

theorem gmul_xor (a x y : UInt8) : gmul a (x ^^^ y) = gmul a x ^^^ gmul a y := by
  simp only [gmul_eq_loop]
  simpa using gmulLoop_xor 8 a x y 0 0

/-! ### Maps that preserve sums -/

/-- A map of bytes that turns sums into sums, that is, one linear over GF(2). -/
def XorLinear (f : UInt8 → UInt8) : Prop := ∀ x y, f (x ^^^ y) = f x ^^^ f y

/-- The eight bytes with one bit set. -/
def oneBits : List UInt8 := [1, 2, 4, 8, 16, 32, 64, 128]

/-- The sum of a list of bytes. -/
def xorSum (l : List UInt8) : UInt8 := l.foldr (· ^^^ ·) 0

theorem eq_xorSum_bits (x : UInt8) : x = xorSum (oneBits.map (x &&& ·)) :=
  forall_byte (p := fun x => x = xorSum (oneBits.map (x &&& ·))) (by decide +kernel) x

theorem and_oneBit (x : UInt8) : ∀ b ∈ oneBits, x &&& b = 0 ∨ x &&& b = b :=
  forall_byte (p := fun x => ∀ b ∈ oneBits, x &&& b = 0 ∨ x &&& b = b) (by decide +kernel) x

section XorLinear

variable {f g : UInt8 → UInt8}

theorem XorLinear.map_zero (hf : XorLinear f) : f 0 = 0 := by
  simpa using hf 0 0

theorem XorLinear.map_xorSum (hf : XorLinear f) (l : List UInt8) : f (xorSum l) = xorSum (l.map f) := by
  induction l with
  | nil => exact hf.map_zero
  | cons b l ih =>
    simp only [xorSum, List.foldr_cons, List.map_cons] at ih ⊢
    rw [hf, ih]

theorem XorLinear.ext_of_oneBits (hf : XorLinear f) (hg : XorLinear g) (bits : ∀ b ∈ oneBits, f b = g b) :
    f = g := by
  funext x
  calc f x = xorSum (oneBits.map (f ∘ (x &&& ·))) := by
        rw [← List.map_map, ← hf.map_xorSum, ← eq_xorSum_bits]
    _ = xorSum (oneBits.map (g ∘ (x &&& ·))) := by
        congr 1
        apply List.map_congr_left
        intro b mem
        rcases and_oneBit x b mem with piece | piece <;> simp only [Function.comp, piece]
        · rw [hf.map_zero, hg.map_zero]
        · exact bits b mem
    _ = g x := by rw [← List.map_map, ← hg.map_xorSum, ← eq_xorSum_bits]

end XorLinear

theorem xorLinear_id : XorLinear id := fun _ _ => rfl

theorem xorLinear_zero : XorLinear fun _ => 0 := fun _ _ => UInt8.xor_zero.symm

theorem xorLinear_products (m₀ m₁ m₂ m₃ n₀ n₁ n₂ n₃ : UInt8) :
    XorLinear fun x => gmul m₀ (gmul n₀ x) ^^^ gmul m₁ (gmul n₁ x) ^^^ gmul m₂ (gmul n₂ x) ^^^
      gmul m₃ (gmul n₃ x) := by
  intro x y
  simp only [gmul_xor]
  ac_rfl

theorem unmix_coefficients (x : UInt8) :
    gmul 14 (gmul 2 x) ^^^ gmul 11 (gmul 1 x) ^^^ gmul 13 (gmul 1 x) ^^^ gmul 9 (gmul 3 x) = x ∧
    gmul 14 (gmul 3 x) ^^^ gmul 11 (gmul 2 x) ^^^ gmul 13 (gmul 1 x) ^^^ gmul 9 (gmul 1 x) = 0 ∧
    gmul 14 (gmul 1 x) ^^^ gmul 11 (gmul 3 x) ^^^ gmul 13 (gmul 2 x) ^^^ gmul 9 (gmul 1 x) = 0 ∧
    gmul 14 (gmul 1 x) ^^^ gmul 11 (gmul 1 x) ^^^ gmul 13 (gmul 3 x) ^^^ gmul 9 (gmul 2 x) = 0 :=
  ⟨congrFun ((xorLinear_products 14 11 13 9 2 1 1 3).ext_of_oneBits xorLinear_id (by decide +kernel)) x,
    congrFun ((xorLinear_products 14 11 13 9 3 2 1 1).ext_of_oneBits xorLinear_zero (by decide +kernel)) x,
    congrFun ((xorLinear_products 14 11 13 9 1 3 2 1).ext_of_oneBits xorLinear_zero (by decide +kernel)) x,
    congrFun ((xorLinear_products 14 11 13 9 1 1 3 2).ext_of_oneBits xorLinear_zero (by decide +kernel)) x⟩

theorem unmix_row (a b c d : UInt8) :
    gmul 14 (gmul 2 a ^^^ gmul 3 b ^^^ gmul 1 c ^^^ gmul 1 d) ^^^
      gmul 11 (gmul 2 b ^^^ gmul 3 c ^^^ gmul 1 d ^^^ gmul 1 a) ^^^
      gmul 13 (gmul 2 c ^^^ gmul 3 d ^^^ gmul 1 a ^^^ gmul 1 b) ^^^
      gmul 9 (gmul 2 d ^^^ gmul 3 a ^^^ gmul 1 b ^^^ gmul 1 c) = a := by
  obtain ⟨diag, -, -, -⟩ := unmix_coefficients a
  obtain ⟨-, off₁, -, -⟩ := unmix_coefficients b
  obtain ⟨-, -, off₂, -⟩ := unmix_coefficients c
  obtain ⟨-, -, -, off₃⟩ := unmix_coefficients d
  simp only [gmul_xor]
  -- regroup the sixteen products by the byte of the column they scale
  calc _ = (gmul 14 (gmul 2 a) ^^^ gmul 11 (gmul 1 a) ^^^ gmul 13 (gmul 1 a) ^^^ gmul 9 (gmul 3 a)) ^^^
        (gmul 14 (gmul 3 b) ^^^ gmul 11 (gmul 2 b) ^^^ gmul 13 (gmul 1 b) ^^^ gmul 9 (gmul 1 b)) ^^^
        (gmul 14 (gmul 1 c) ^^^ gmul 11 (gmul 3 c) ^^^ gmul 13 (gmul 2 c) ^^^ gmul 9 (gmul 1 c)) ^^^
        (gmul 14 (gmul 1 d) ^^^ gmul 11 (gmul 1 d) ^^^ gmul 13 (gmul 3 d) ^^^ gmul 9 (gmul 2 d)) := by
        ac_rfl
    _ = a := by rw [diag, off₁, off₂, off₃]; simp

/-! ### The steps of a round and their inverses -/

theorem getElem!_ofFn {n : Nat} (f : Fin n → UInt8) {i : Nat} (h : i < n) : (Array.ofFn f)[i]! = f ⟨i, h⟩ := by
  rw [getElem!_pos (Array.ofFn f) i (by simpa using h)]
  simp

theorem getElem!_of_lt {s : Block} {i : Nat} (h : i < s.size) : s[i]! = s[i] := getElem!_pos s i h

@[simp] theorem addRoundKey_size (keys : Array UInt8) (r : Nat) (s : Block) : (addRoundKey keys r s).size = 16 := by
  simp [addRoundKey]

@[simp] theorem shiftRows_size (s : Block) : (shiftRows s).size = 16 := by simp [shiftRows]

@[simp] theorem invShiftRows_size (s : Block) : (invShiftRows s).size = 16 := by simp [invShiftRows]

@[simp] theorem subBytes_size (s : Block) : (subBytes s).size = s.size := by simp [subBytes]

@[simp] theorem invSubBytes_size (s : Block) : (invSubBytes s).size = s.size := by simp [invSubBytes]

@[simp] theorem mixWith_size (m₀ m₁ m₂ m₃ : UInt8) (s : Block) : (mixWith m₀ m₁ m₂ m₃ s).size = 16 := by
  simp [mixWith]

@[simp] theorem mixColumns_size (s : Block) : (mixColumns s).size = 16 := mixWith_size ..

@[simp] theorem invMixColumns_size (s : Block) : (invMixColumns s).size = 16 := mixWith_size ..

theorem addRoundKey_addRoundKey (keys : Array UInt8) (r : Nat) {s : Block} (h : s.size = 16) :
    addRoundKey keys r (addRoundKey keys r s) = s := by
  apply Array.ext (by simp [h])
  intro i hi _
  simp only [addRoundKey, Array.getElem_ofFn, getElem!_ofFn _ (by simpa using hi)]
  rw [UInt8.xor_assoc, UInt8.xor_self, UInt8.xor_zero, getElem!_of_lt (by omega)]

theorem invShiftRows_shiftRows {s : Block} (h : s.size = 16) : invShiftRows (shiftRows s) = s := by
  apply Array.ext (by simp [h])
  intro i hi _
  have small : i < 16 := by simpa using hi
  simp only [invShiftRows, shiftRows, Array.getElem_ofFn]
  rw [getElem!_ofFn _ (by omega), getElem!_of_lt (by omega)]
  congr 1
  dsimp only
  omega

theorem invSubBytes_subBytes (s : Block) : invSubBytes (subBytes s) = s := by
  have undo : ((fun b : UInt8 => invSbox[b.toNat]!) ∘ fun b => sbox[b.toNat]!) = id :=
    funext invSbox_sbox
  simp only [invSubBytes, subBytes, Array.map_map, undo, Array.map_id]

theorem mixWith_get (m₀ m₁ m₂ m₃ : UInt8) (s : Block) {c r : Nat} (hc : c < 4) (hr : r < 4) :
    (mixWith m₀ m₁ m₂ m₃ s)[4 * c + r]! =
      gmul m₀ s[4 * c + r]! ^^^ gmul m₁ s[4 * c + (r + 1) % 4]! ^^^ gmul m₂ s[4 * c + (r + 2) % 4]! ^^^
        gmul m₃ s[4 * c + (r + 3) % 4]! := by
  rw [mixWith, getElem!_ofFn _ (by omega)]
  have col : (4 * c + r) / 4 = c := by omega
  have row : (4 * c + r) % 4 = r := by omega
  simp only [col, row, Nat.add_zero, Nat.mod_eq_of_lt hr]

theorem invMixColumns_mixColumns {s : Block} (h : s.size = 16) : invMixColumns (mixColumns s) = s := by
  apply Array.ext (by simp [h])
  intro i hi _
  rw [← getElem!_of_lt (by simpa using hi), ← getElem!_of_lt (by omega)]
  obtain ⟨c, r, hc, hr, rfl⟩ : ∃ c r, c < 4 ∧ r < 4 ∧ i = 4 * c + r :=
    ⟨i / 4, i % 4, by simp at hi; omega, Nat.mod_lt _ (by omega), by omega⟩
  have next (k : Nat) : (r + k) % 4 < 4 := Nat.mod_lt _ (by omega)
  simp only [invMixColumns, mixColumns, mixWith_get _ _ _ _ _ hc hr, mixWith_get _ _ _ _ _ hc (next _)]
  -- each row reads the column from its own byte down, so one identity serves all four
  obtain rfl | rfl | rfl | rfl : r = 0 ∨ r = 1 ∨ r = 2 ∨ r = 3 := by omega
  all_goals exact unmix_row _ _ _ _

/-! ### Blocks -/

section Rounds

variable (keys : Array UInt8)

/-- A middle round of enciphering under round key `k`. -/
def cipherRound (s : Block) (k : Nat) : Block := addRoundKey keys k (mixColumns (shiftRows (subBytes s)))

/-- A middle round of deciphering under round key `k`. -/
def invCipherRound (s : Block) (k : Nat) : Block :=
  invMixColumns (addRoundKey keys k (invSubBytes (invShiftRows s)))

theorem invCipherRound_cipherRound (s : Block) (k : Nat) :
    invCipherRound keys (shiftRows (subBytes (cipherRound keys s k))) k = shiftRows (subBytes s) := by
  simp only [invCipherRound, cipherRound]
  rw [invShiftRows_shiftRows (by simp), invSubBytes_subBytes, addRoundKey_addRoundKey _ _ (by simp),
    invMixColumns_mixColumns (by simp)]

theorem invCipherRounds_cipherRounds (ks : List Nat) (s : Block) :
    ks.reverse.foldl (invCipherRound keys) (shiftRows (subBytes (ks.foldl (cipherRound keys) s))) =
      shiftRows (subBytes s) := by
  induction ks generalizing s with
  | nil => rfl
  | cons k ks ih =>
    rw [List.foldl_cons, List.reverse_cons, List.foldl_append, ih, List.foldl_cons, List.foldl_nil,
      invCipherRound_cipherRound]

end Rounds

theorem decryptBlock_encryptBlock (keys : Array UInt8) {b : Block} (h : b.size = 16) :
    decryptBlock keys (encryptBlock keys b) = b := by
  -- enciphering keys its middle rounds 1 … 9 and deciphering 9 … 1
  have up (s : Block) :
      (List.range 9).foldl (fun s r => addRoundKey keys (r + 1) (mixColumns (shiftRows (subBytes s)))) s =
        ((List.range 9).map (· + 1)).foldl (cipherRound keys) s := by
    rw [List.foldl_map]; rfl
  have down (s : Block) :
      (List.range 9).foldl (fun s r => invMixColumns (addRoundKey keys (9 - r) (invSubBytes (invShiftRows s)))) s =
        ((List.range 9).map (· + 1)).reverse.foldl (invCipherRound keys) s := by
    rw [show ((List.range 9).map (· + 1)).reverse = (List.range 9).map (9 - ·) by decide, List.foldl_map]
    rfl
  simp only [decryptBlock, encryptBlock]
  rw [up, addRoundKey_addRoundKey _ _ (by simp), down, invCipherRounds_cipherRounds,
    invShiftRows_shiftRows (by simp), invSubBytes_subBytes, addRoundKey_addRoundKey _ _ h]

/-! ### CBC with PKCS #7 padding -/

theorem pkcs7Unpad_pkcs7Pad (bytes : List UInt8) : pkcs7Unpad (pkcs7Pad bytes) = some bytes := by
  have pos : 0 < 16 - bytes.length % 16 := by omega
  have fits : 16 - bytes.length % 16 ≤ 16 := by omega
  have byte : (16 - bytes.length % 16).toUInt8.toNat = 16 - bytes.length % 16 := by
    rw [Nat.toUInt8_eq, UInt8.toNat_ofNat_of_lt' (by change _ < 256; omega)]
  have last : (pkcs7Pad bytes).getLast? = some (16 - bytes.length % 16).toUInt8 := by
    rw [pkcs7Pad, List.getLast?_append, List.getLast?_replicate, if_neg (by omega)]
    rfl
  rw [pkcs7Unpad, last]
  simp only [byte, pkcs7Pad, List.length_append, List.length_replicate, Nat.add_sub_cancel,
    List.drop_left', List.take_left']
  rw [if_pos ⟨pos, fits, by omega, by simp⟩]

@[simp] theorem xorBlock_size (a b : Block) : (xorBlock a b).size = 16 := by simp [xorBlock]

@[simp] theorem encryptBlock_size (keys : Array UInt8) (b : Block) : (encryptBlock keys b).size = 16 := by
  simp [encryptBlock]

theorem xorBlock_xorBlock {p : Block} (h : p.size = 16) (prev : Block) : xorBlock (xorBlock p prev) prev = p := by
  apply Array.ext (by simp [h])
  intro i hi _
  simp only [xorBlock, Array.getElem_ofFn, getElem!_ofFn _ (by simpa using hi)]
  rw [UInt8.xor_assoc, UInt8.xor_self, UInt8.xor_zero, getElem!_of_lt (by omega)]

theorem length_flatMap_blocks {cs : List Block} (hs : ∀ c ∈ cs, c.size = 16) :
    (cs.flatMap Array.toList).length = 16 * cs.length := by
  induction cs with
  | nil => rfl
  | cons c cs ih =>
    rw [List.flatMap_cons, List.length_append, Array.length_toList, hs c (by simp),
      ih (fun d mem => hs d (by simp [mem])), List.length_cons]
    omega

theorem blocks_go_split (ys : List UInt8) (fuel : Nat) (h16 : 16 ∣ ys.length) (hf : ys.length ≤ 16 * fuel) :
    (blocks.go fuel ys).flatMap Array.toList = ys ∧ ∀ c ∈ blocks.go fuel ys, c.size = 16 := by
  induction fuel generalizing ys with
  | zero =>
    have : ys = [] := List.eq_nil_of_length_eq_zero (by omega)
    subst this
    simp [blocks.go]
  | succ fuel ih =>
    cases ys with
    | nil => simp [blocks.go]
    | cons y ys =>
      have long : 16 ≤ (y :: ys).length := by
        obtain ⟨k, hk⟩ := h16
        simp only [List.length_cons] at hk ⊢
        omega
      obtain ⟨rest, restSize⟩ := ih ((y :: ys).drop 16) (by simp only [List.length_drop]; omega)
        (by simp only [List.length_drop]; omega)
      refine ⟨?_, ?_⟩
      · simp only [blocks.go, List.flatMap_cons, rest, List.take_append_drop]
      · intro c mem
        simp only [blocks.go, List.mem_cons] at mem
        rcases mem with rfl | mem
        · simp only [List.size_toArray, List.length_take]
          omega
        · exact restSize c mem

theorem blocks_go_flatMap (cs : List Block) (hs : ∀ c ∈ cs, c.size = 16) (fuel : Nat) (hf : cs.length ≤ fuel) :
    blocks.go fuel (cs.flatMap Array.toList) = cs := by
  induction cs generalizing fuel with
  | nil => cases fuel <;> simp [blocks.go]
  | cons c cs ih =>
    obtain ⟨fuel, rfl⟩ : ∃ f, fuel = f + 1 := ⟨fuel - 1, by simp at hf; omega⟩
    have size : c.size = 16 := hs c (by simp)
    obtain ⟨b, bs, split⟩ : ∃ b bs, c.toList ++ cs.flatMap Array.toList = b :: bs := by
      cases eq : c.toList with
      | nil => simp [← Array.length_toList, eq] at size
      | cons b bs => exact ⟨b, bs ++ _, rfl⟩
    rw [List.flatMap_cons, split, blocks.go, ← split, List.take_left' (by simp [size]),
      List.drop_left' (by simp [size]), ih (fun c mem => hs c (by simp [mem])) _ (by simp at hf; omega)]
    simp

theorem blocks_pkcs7Pad (bytes : List UInt8) :
    (blocks (pkcs7Pad bytes)).flatMap Array.toList = pkcs7Pad bytes ∧
      ∀ c ∈ blocks (pkcs7Pad bytes), c.size = 16 := by
  have padded : 16 ∣ (pkcs7Pad bytes).length := by
    simp only [pkcs7Pad, List.length_append, List.length_replicate]
    omega
  exact blocks_go_split _ _ padded (Nat.le_mul_of_pos_left _ (by omega))

section Chain

variable (keys : Array UInt8)

/-- The ciphertext blocks of CBC: each block is enciphered after adding the one before. -/
def chainEncrypt : Block → List Block → List Block
  | _, [] => []
  | prev, p :: ps => encryptBlock keys (xorBlock p prev) :: chainEncrypt (encryptBlock keys (xorBlock p prev)) ps

/-- The plaintext blocks of CBC decryption: each deciphered block less the one before. -/
def chainDecrypt : Block → List Block → List Block
  | _, [] => []
  | prev, c :: cs => xorBlock (decryptBlock keys c) prev :: chainDecrypt c cs

theorem foldl_chainEncrypt (ps : List Block) (prev : Block) (acc : List UInt8) :
    (ps.foldl (fun st p => (encryptBlock keys (xorBlock p st.1), st.2 ++ (encryptBlock keys (xorBlock p st.1)).toList))
      (prev, acc)).2 = acc ++ (chainEncrypt keys prev ps).flatMap Array.toList := by
  induction ps generalizing prev acc with
  | nil => simp [chainEncrypt]
  | cons p ps ih => simp [chainEncrypt, ih]

theorem foldl_chainDecrypt (cs : List Block) (prev : Block) (acc : List UInt8) :
    (cs.foldl (fun st c => (c, st.2 ++ (xorBlock (decryptBlock keys c) st.1).toList)) (prev, acc)).2 =
      acc ++ (chainDecrypt keys prev cs).flatMap Array.toList := by
  induction cs generalizing prev acc with
  | nil => simp [chainDecrypt]
  | cons c cs ih => simp [chainDecrypt, ih]

@[simp] theorem length_chainEncrypt (prev : Block) (ps : List Block) :
    (chainEncrypt keys prev ps).length = ps.length := by
  induction ps generalizing prev with
  | nil => rfl
  | cons p ps ih => simp [chainEncrypt, ih]

theorem size_of_mem_chainEncrypt {prev : Block} {ps : List Block} :
    ∀ c ∈ chainEncrypt keys prev ps, c.size = 16 := by
  induction ps generalizing prev with
  | nil => simp [chainEncrypt]
  | cons p ps ih =>
    simp only [chainEncrypt, List.mem_cons]
    rintro c (rfl | mem)
    · exact encryptBlock_size ..
    · exact ih c mem

theorem chainDecrypt_chainEncrypt (ps : List Block) (hs : ∀ p ∈ ps, p.size = 16) (prev : Block) :
    chainDecrypt keys prev (chainEncrypt keys prev ps) = ps := by
  induction ps generalizing prev with
  | nil => rfl
  | cons p ps ih =>
    simp only [chainEncrypt, chainDecrypt]
    rw [decryptBlock_encryptBlock _ (xorBlock_size ..), xorBlock_xorBlock (hs p (by simp)),
      ih (fun q mem => hs q (by simp [mem]))]

end Chain

theorem cbcEncrypt_eq (key iv plaintext : List UInt8) :
    cbcEncrypt key iv plaintext =
      (chainEncrypt (expandKey key.toArray) iv.toArray (blocks (pkcs7Pad plaintext))).flatMap Array.toList :=
  foldl_chainEncrypt _ _ _ []

theorem cbcDecrypt_eq (key iv ciphertext : List UInt8) :
    cbcDecrypt key iv ciphertext =
      pkcs7Unpad ((chainDecrypt (expandKey key.toArray) iv.toArray (blocks ciphertext)).flatMap Array.toList) :=
  congrArg pkcs7Unpad (foldl_chainDecrypt _ _ _ [])

theorem cbcDecrypt_cbcEncrypt (key iv plaintext : List UInt8) :
    cbcDecrypt key iv (cbcEncrypt key iv plaintext) = some plaintext := by
  obtain ⟨joined, sized⟩ := blocks_pkcs7Pad plaintext
  have sealed : ∀ c ∈ chainEncrypt (expandKey key.toArray) iv.toArray (blocks (pkcs7Pad plaintext)),
      c.size = 16 :=
    size_of_mem_chainEncrypt _
  -- the ciphertext splits back into the blocks it was made of
  have back : blocks ((chainEncrypt (expandKey key.toArray) iv.toArray (blocks (pkcs7Pad plaintext))).flatMap
      Array.toList) = chainEncrypt (expandKey key.toArray) iv.toArray (blocks (pkcs7Pad plaintext)) :=
    blocks_go_flatMap _ sealed _ (by rw [length_flatMap_blocks sealed]; omega)
  rw [cbcDecrypt_eq, cbcEncrypt_eq, back, chainDecrypt_chainEncrypt _ _ sized, joined, pkcs7Unpad_pkcs7Pad]

theorem length_cbcEncrypt (key iv plaintext : List UInt8) :
    (cbcEncrypt key iv plaintext).length = 16 * (plaintext.length / 16 + 1) := by
  obtain ⟨joined, sized⟩ := blocks_pkcs7Pad plaintext
  have count := congrArg List.length joined
  rw [length_flatMap_blocks sized] at count
  rw [cbcEncrypt_eq, length_flatMap_blocks (size_of_mem_chainEncrypt _), length_chainEncrypt, count]
  simp only [pkcs7Pad, List.length_append, List.length_replicate]
  omega

end GuildRegistry.Aes
