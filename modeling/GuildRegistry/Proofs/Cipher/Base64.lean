import GuildRegistry.Cipher.Base64

/-! Reading back what is written.

Writing cuts the bytes into groups of three and each group into four 6-bit digits, a last group of
one or two bytes into two or three; the text is the digits' characters followed by at most two `=`.
So written text is well formed, every character of it is printable ASCII, and reading it finds the
same digits and regroups them into the bytes (`decode?_encode`).
-/

set_option autoImplicit false

namespace GuildRegistry.Base64

/-! ### Digits -/

theorem decodeDigit_encodeDigit : ∀ n < 64, decodeDigit (encodeDigit n) = some n := by decide

theorem encodeDigit_ne_pad : ∀ n < 64, encodeDigit n ≠ '=' := by decide

theorem encodeDigit_printable : ∀ n < 64, 33 ≤ (encodeDigit n).toNat ∧ (encodeDigit n).toNat < 127 := by
  decide

theorem toUInt8_eq_of_mod {m : Nat} {b : UInt8} (h : m % 256 = b.toNat) : m.toUInt8 = b := by
  apply UInt8.toNat_inj.mp
  rw [Nat.toUInt8_eq, UInt8.toNat_ofNat', h]

/-! ### Groups -/

theorem decodeValues_three (a b c : UInt8) (rest : List Nat) :
    decodeValues ([(a.toNat * 65536 + b.toNat * 256 + c.toNat) / 262144 % 64,
      (a.toNat * 65536 + b.toNat * 256 + c.toNat) / 4096 % 64,
      (a.toNat * 65536 + b.toNat * 256 + c.toNat) / 64 % 64,
      (a.toNat * 65536 + b.toNat * 256 + c.toNat) % 64] ++ rest) = [a, b, c] ++ decodeValues rest := by
  have ha := a.toNat_lt
  have hb := b.toNat_lt
  have hc := c.toNat_lt
  generalize hn : a.toNat * 65536 + b.toNat * 256 + c.toNat = n
  have whole : ((n / 262144 % 64 * 64 + n / 4096 % 64) * 64 + n / 64 % 64) * 64 + n % 64 = n := by omega
  simp only [List.cons_append, List.nil_append, decodeValues, whole]
  rw [toUInt8_eq_of_mod (b := a) (by omega), toUInt8_eq_of_mod (b := b) (by omega),
    toUInt8_eq_of_mod (b := c) (by omega)]

theorem decodeValues_one (a : UInt8) :
    decodeValues [a.toNat * 65536 / 262144 % 64, a.toNat * 65536 / 4096 % 64] = [a] := by
  have ha := a.toNat_lt
  simp only [decodeValues]
  rw [toUInt8_eq_of_mod (b := a) (by omega)]

theorem decodeValues_two (a b : UInt8) :
    decodeValues [(a.toNat * 65536 + b.toNat * 256) / 262144 % 64, (a.toNat * 65536 + b.toNat * 256) / 4096 % 64,
      (a.toNat * 65536 + b.toNat * 256) / 64 % 64] = [a, b] := by
  have ha := a.toNat_lt
  have hb := b.toNat_lt
  simp only [decodeValues]
  rw [toUInt8_eq_of_mod (b := a) (by omega), toUInt8_eq_of_mod (b := b) (by omega)]

/-! ### Written text -/

theorem encodeChars_digits (bytes : List UInt8) :
    ∃ ds : List Nat, ∃ k ≤ 2, (∀ d ∈ ds, d < 64) ∧ (ds = [] → bytes = []) ∧
      encodeChars bytes = ds.map encodeDigit ++ List.replicate k '=' ∧ decodeValues ds = bytes := by
  fun_induction encodeChars bytes with
  | case1 => exact ⟨[], 0, by omega, by simp, by simp, rfl, rfl⟩
  | case2 a =>
    refine ⟨[_, _], 2, Nat.le_refl _, ?_, by simp, rfl, decodeValues_one a⟩
    simp only [List.mem_cons, List.not_mem_nil, or_false]
    rintro d (rfl | rfl) <;> exact Nat.mod_lt _ (by omega)
  | case3 a b =>
    refine ⟨[_, _, _], 1, by omega, ?_, by simp, rfl, decodeValues_two a b⟩
    simp only [List.mem_cons, List.not_mem_nil, or_false]
    rintro d (rfl | rfl | rfl) <;> exact Nat.mod_lt _ (by omega)
  | case4 a b c rest n ih =>
    obtain ⟨ds, k, hk, small, present, written, regrouped⟩ := ih
    refine ⟨[n / 262144 % 64, n / 4096 % 64, n / 64 % 64, n % 64] ++ ds, k, hk, ?_, by simp, ?_, ?_⟩
    · simp only [List.cons_append, List.nil_append, List.mem_cons]
      rintro d (rfl | rfl | rfl | rfl | mem)
      any_goals exact Nat.mod_lt _ (by omega)
      exact small d mem
    · rw [written]
      simp
    · rw [decodeValues_three, regrouped]
      rfl

theorem takeWhile_digits {p : Char → Bool} (ds : List Nat) (small : ∀ d ∈ ds, d < 64)
    (digit : ∀ n < 64, p (encodeDigit n) = true) (pad : p '=' = false) (k : Nat) :
    (ds.map encodeDigit ++ List.replicate k '=').takeWhile p = ds.map encodeDigit := by
  rw [List.takeWhile_append_of_pos (by simpa using fun d mem => digit d (small d mem)),
    List.takeWhile_replicate, pad]
  simp

theorem filterMap_decodeDigit {ds : List Nat} (small : ∀ d ∈ ds, d < 64) :
    (ds.map encodeDigit).filterMap decodeDigit = ds := by
  induction ds with
  | nil => rfl
  | cons d ds ih =>
    rw [List.map_cons, List.filterMap_cons, decodeDigit_encodeDigit d (small d (by simp)),
      ih fun e mem => small e (by simp [mem])]

theorem isWellFormed_encodeChars {bytes : List UInt8} (h : bytes ≠ []) : isWellFormed (encodeChars bytes) = true := by
  obtain ⟨ds, k, hk, small, present, written, -⟩ := encodeChars_digits bytes
  have body := takeWhile_digits (p := fun c => (decodeDigit c).isSome) ds small
    (fun n lt => by simp [decodeDigit_encodeDigit n lt]) (by decide) k
  have nonempty : ds ≠ [] := fun empty => h (present empty)
  simp only [isWellFormed, written, body, List.length_map, List.drop_left', List.length_replicate]
  simp [nonempty, hk]

theorem decode?_encode {bytes : List UInt8} (h : bytes ≠ []) : decode? (encode bytes) = some bytes := by
  obtain ⟨ds, k, -, small, -, written, regrouped⟩ := encodeChars_digits bytes
  have body := takeWhile_digits (p := (· != '=')) ds small
    (fun n lt => by simpa using encodeDigit_ne_pad n lt) (by decide) k
  have values := filterMap_decodeDigit small
  rw [decode?, if_pos (by simpa [encode] using isWellFormed_encodeChars h)]
  simp only [encode, String.toList_ofList, written, body, values, regrouped]

theorem printable_of_mem_encodeChars (bytes : List UInt8) :
    ∀ c ∈ encodeChars bytes, 33 ≤ c.toNat ∧ c.toNat < 127 := by
  obtain ⟨ds, k, -, small, -, written, -⟩ := encodeChars_digits bytes
  rw [written]
  intro c mem
  simp only [List.mem_append, List.mem_map, List.mem_replicate] at mem
  rcases mem with ⟨d, mem, rfl⟩ | ⟨-, rfl⟩
  · exact encodeDigit_printable d (small d mem)
  · decide

end GuildRegistry.Base64
