import GracefulDrain.Text.Utf8
import Mathlib.Tactic.IntervalCases

/-! # The lossy reader loses nothing of a text

A text is written one character after another, in one to four octets. The lossy reader, which stands
between two characters, reads each of these sequences back as its character (`foldl_step_encodeChar`), so
octets that encode a text are read as that text. The cases are those of the writer; the first octet of three
and of four has its own range for the octet behind it, which is where surrogates and overlong forms would
fall. -/

namespace GracefulDrain.Utf8

theorem encode_append (s t : String) : encode (s ++ t) = encode s ++ encode t := by
  simp [encode, ByteArray.data_append]

theorem encode_ofList (cs : List Char) : encode (.ofList cs) = cs.flatMap String.utf8EncodeChar := by
  rw [encode, String.toUTF8_eq_toByteArray, String.toByteArray_ofList, List.utf8Encode,
    List.data_toByteArray]

/-! ### The first octet of a sequence -/

theorem ofByte_one {n : Nat} (h : n ≤ 127) : Lead.ofByte (.ofNat n) = .char (.ofNat n) := by
  have all : ∀ n < 128, (UInt8.ofNat n < 0x80) ∧ Char.ofUInt8 (.ofNat n) = .ofNat n := by decide
  obtain ⟨small, char⟩ := all n (by omega)
  rw [Lead.ofByte, if_pos small, char]

theorem ofByte_two {n : Nat} (h : 2 ≤ n) (h' : n < 32) :
    Lead.ofByte (.ofNat (n + 192)) = .opens ⟨1, 0x80, 0xBF, n⟩ := by
  interval_cases n <;> rfl

theorem ofByte_three {n : Nat} (h : n < 16) :
    Lead.ofByte (.ofNat (n + 224)) =
      .opens ⟨2, if n = 0 then 0xA0 else 0x80, if n = 13 then 0x9F else 0xBF, n⟩ := by
  interval_cases n <;> rfl

theorem ofByte_four {n : Nat} (h : n ≤ 4) :
    Lead.ofByte (.ofNat (n + 240)) =
      .opens ⟨3, if n = 0 then 0x90 else 0x80, if n = 4 then 0x8F else 0xBF, n⟩ := by
  interval_cases n <;> rfl

/-! ### The octets behind it -/

theorem step_tail {text : String} {seq : Opened} {n : Nat} (h : n < 64) (lo : seq.lo.toNat ≤ n + 128)
    (hi : n + 128 ≤ seq.hi.toNat) :
    Decoder.step ⟨text, some seq⟩ (.ofNat (n + 128)) =
      if seq.owed ≤ 1 then ⟨text.push (.ofNat (seq.code * 64 + n)), none⟩
      else ⟨text, some ⟨seq.owed - 1, 0x80, 0xBF, seq.code * 64 + n⟩⟩ := by
  have octet : (UInt8.ofNat (n + 128)).toNat = n + 128 := by
    rw [UInt8.toNat_ofNat']
    exact Nat.mod_eq_of_lt (by omega)
  have inside : seq.lo ≤ .ofNat (n + 128) ∧ .ofNat (n + 128) ≤ seq.hi := by
    rw [UInt8.le_iff_toNat_le, UInt8.le_iff_toNat_le, octet]
    exact ⟨lo, hi⟩
  have low : (UInt8.ofNat (n + 128)).toNat % 0x40 = n := by omega
  simp only [Decoder.step, if_pos inside, low]

/-- The last octet of a sequence. -/
theorem step_last {text : String} {lo hi : UInt8} {code n : Nat} (h : n < 64) (hlo : lo.toNat ≤ n + 128)
    (hhi : n + 128 ≤ hi.toNat) :
    Decoder.step ⟨text, some ⟨1, lo, hi, code⟩⟩ (.ofNat (n + 128)) =
      ⟨text.push (.ofNat (code * 64 + n)), none⟩ := by
  rw [step_tail h hlo hhi]
  rfl

/-- An octet of a sequence that is still owed others. -/
theorem step_inner {text : String} {lo hi : UInt8} {owed code n : Nat} (h : n < 64) (hlo : lo.toNat ≤ n + 128)
    (hhi : n + 128 ≤ hi.toNat) :
    Decoder.step ⟨text, some ⟨owed + 2, lo, hi, code⟩⟩ (.ofNat (n + 128)) =
      ⟨text, some ⟨owed + 1, 0x80, 0xBF, code * 64 + n⟩⟩ := by
  rw [step_tail h hlo hhi]
  exact if_neg (show ¬ owed + 2 ≤ 1 by omega)

theorem step_lead {text : String} {b : UInt8} {seq : Opened} (h : Lead.ofByte b = .opens seq) :
    Decoder.step ⟨text, none⟩ b = ⟨text, some seq⟩ := by
  simp only [Decoder.step, Decoder.lead, h]

/-! ### Whole sequences -/

section
variable {text : String} {v : Nat}

theorem foldl_step_two (h : 128 ≤ v) (h' : v ≤ 2047) :
    [UInt8.ofNat (v / 64 % 32 + 192), .ofNat (v % 64 + 128)].foldl Decoder.step ⟨text, none⟩ =
      ⟨text.push (.ofNat v), none⟩ := by
  have lead := ofByte_two (n := v / 64 % 32) (by omega) (by omega)
  have value : v / 64 % 32 * 64 + v % 64 = v := by omega
  rw [List.foldl_cons, step_lead lead, List.foldl_cons, step_last (by omega) (by simp) (by simp; omega), value]
  rfl

theorem foldl_step_three (h : 2048 ≤ v) (h' : v ≤ 65535) (valid : v < 0xD800 ∨ 0xDFFF < v) :
    [UInt8.ofNat (v / 4096 % 16 + 224), .ofNat (v / 64 % 64 + 128), .ofNat (v % 64 + 128)].foldl
      Decoder.step ⟨text, none⟩ = ⟨text.push (.ofNat v), none⟩ := by
  have lead := ofByte_three (n := v / 4096 % 16) (by omega)
  have value : (v / 4096 % 16 * 64 + v / 64 % 64) * 64 + v % 64 = v := by omega
  -- no overlong form and no surrogate: the second octet is in the range that the first one sets
  have lo : (if v / 4096 % 16 = 0 then (0xA0 : UInt8) else 0x80).toNat ≤ v / 64 % 64 + 128 := by
    split
    · simp; omega
    · simp
  have hi : v / 64 % 64 + 128 ≤ (if v / 4096 % 16 = 13 then (0x9F : UInt8) else 0xBF).toNat := by
    split
    · simp; omega
    · simp; omega
  rw [List.foldl_cons, step_lead lead, List.foldl_cons, step_inner (by omega) lo hi, List.foldl_cons,
    step_last (by omega) (by simp) (by simp; omega), value]
  rfl

theorem foldl_step_four (h : 65536 ≤ v) (h' : v < 0x110000) :
    [UInt8.ofNat (v / 262144 % 8 + 240), .ofNat (v / 4096 % 64 + 128), .ofNat (v / 64 % 64 + 128),
      .ofNat (v % 64 + 128)].foldl Decoder.step ⟨text, none⟩ = ⟨text.push (.ofNat v), none⟩ := by
  have lead := ofByte_four (n := v / 262144 % 8) (by omega)
  have value : ((v / 262144 % 8 * 64 + v / 4096 % 64) * 64 + v / 64 % 64) * 64 + v % 64 = v := by omega
  have lo : (if v / 262144 % 8 = 0 then (0x90 : UInt8) else 0x80).toNat ≤ v / 4096 % 64 + 128 := by
    split
    · simp; omega
    · simp
  have hi : v / 4096 % 64 + 128 ≤ (if v / 262144 % 8 = 4 then (0x8F : UInt8) else 0xBF).toNat := by
    split
    · simp; omega
    · simp; omega
  rw [List.foldl_cons, step_lead lead, List.foldl_cons, step_inner (by omega) lo hi, List.foldl_cons,
    step_inner (by omega) (by simp) (by simp; omega), List.foldl_cons,
    step_last (by omega) (by simp) (by simp; omega), value]
  rfl

end

theorem foldl_step_encodeChar (text : String) (c : Char) :
    (String.utf8EncodeChar c).foldl Decoder.step ⟨text, none⟩ = ⟨text.push c, none⟩ := by
  obtain ⟨v, hv⟩ : ∃ v, c.val.toNat = v := ⟨_, rfl⟩
  have char : Char.ofNat v = c := by rw [← hv]; exact Char.ofNat_toNat c
  have valid : v < 0xD800 ∨ 0xDFFF < v ∧ v < 0x110000 := by rw [← hv]; exact c.valid
  simp only [String.utf8EncodeChar, hv]
  split
  · next one => simp only [List.foldl_cons, List.foldl_nil, Decoder.step, Decoder.lead, ofByte_one one, char]
  split
  · rw [foldl_step_two (by omega) (by omega), char]
  split
  · rw [foldl_step_three (by omega) (by omega) (by omega), char]
  · rw [foldl_step_four (by omega) (by omega), char]

theorem foldl_step_encode (text : String) (cs : List Char) :
    (cs.flatMap String.utf8EncodeChar).foldl Decoder.step ⟨text, none⟩ = ⟨text ++ .ofList cs, none⟩ := by
  induction cs generalizing text with
  | nil => simp
  | cons c rest ih =>
    rw [List.flatMap_cons, List.foldl_append, foldl_step_encodeChar, ih, String.push_eq_append,
      String.append_assoc, String.singleton_eq_ofList, ← String.ofList_append, List.singleton_append]

theorem decodeLossy_encode (s : String) : decodeLossy (encode s) = s := by
  have octets : encode s = s.toList.flatMap String.utf8EncodeChar := by
    rw [← encode_ofList, String.ofList_toList]
  have read : (encode s).foldl Decoder.step {} = ⟨s, none⟩ := by
    rw [octets]
    show List.foldl Decoder.step ⟨"", none⟩ _ = _
    rw [foldl_step_encode, String.ofList_toList, String.empty_append]
  rw [decodeLossy, read]
  rfl

end GracefulDrain.Utf8
