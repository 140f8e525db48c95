import GracefulDrain.Json.Skip
import GracefulDrain.Json.Writer
import GracefulDrain.Proofs.Text.Utf8

/-! # Written strings are read back

A string is written character by character, with an escape for each that could not stand between quotes. Its
reader takes it octet by octet. The octets of an escape become those of its character, the octets of any other
character are taken as they are (`textOctets_escapeChar`), and so the reader arrives at the octets of the string,
which decode to it (`text_inner`). A reader who only skips a string accepts all that can be read. -/

namespace GracefulDrain

/-- The octets of characters. -/
def Utf8.octets (cs : List Char) : Bytes := cs.flatMap String.utf8EncodeChar

namespace Utf8

theorem octets_append (cs ds : List Char) : octets (cs ++ ds) = octets cs ++ octets ds := List.flatMap_append ..

theorem octets_cons (c : Char) (cs : List Char) : octets (c :: cs) = String.utf8EncodeChar c ++ octets cs := rfl

theorem octets_toList (s : String) : octets s.toList = encode s := by
  rw [octets, ← encode_ofList, String.ofList_toList]

theorem decode?_encode (s : String) : decode? (encode s) = some s := by
  have packed : (⟨(encode s).toArray⟩ : ByteArray) = s.toByteArray := by
    rw [encode, Array.toArray_toList, String.toUTF8_eq_toByteArray]
  rw [decode?, packed, String.fromUTF8?, dif_pos s.isValidUTF8]
  rfl

theorem decode?_eq_some_iff {bs : Bytes} {s : String} : decode? bs = some s ↔ bs = encode s := by
  constructor
  · intro h
    rw [decode?, String.fromUTF8?] at h
    split at h
    · next valid =>
      rw [← Option.some_inj.1 h, encode, String.toUTF8_eq_toByteArray]
      rfl
    · cases h
  · rintro rfl
    exact decode?_encode s

end Utf8

namespace Json.Reader
open Utf8 (octets)

/-- An octet that stands for itself in a string. -/
def IsPlain (b : UInt8) : Prop := 0x20 ≤ b ∧ b ≠ 0x22 ∧ b ≠ 0x5C

theorem textOctets_plain {b : UInt8} (plain : IsPlain b) (acc rest : Bytes) :
    textOctets none acc (b :: rest) = textOctets none (b :: acc) rest := by
  obtain ⟨visible, quote, backslash⟩ := plain
  have noQuote : Char.ofUInt8 b ≠ '"' := fun h => quote (UInt8.toNat_inj.1 (congrArg Char.toNat h))
  have noBackslash : Char.ofUInt8 b ≠ '\\' := fun h => backslash (UInt8.toNat_inj.1 (congrArg Char.toNat h))
  have noControl : ¬ b < 0x20 := UInt8.not_lt.2 visible
  rw [textOctets.eq_def]
  split
  · contradiction
  · next b' rest' same =>
    cases same
    split
    · contradiction
    · contradiction
    · contradiction
    · rw [if_neg noControl]

theorem isPlain_ofNat {n : Nat} (octet : n < 256) (visible : 0x20 ≤ n) (quote : n ≠ 0x22) (backslash : n ≠ 0x5C) :
    IsPlain (.ofNat n) := by
  have value : (UInt8.ofNat n).toNat = n := by
    rw [UInt8.toNat_ofNat', Nat.mod_eq_of_lt octet]
  refine ⟨?_, fun same => ?_, fun same => ?_⟩
  · rw [UInt8.le_iff_toNat_le, value]
    exact visible
  · exact quote (by rw [← value, same]; rfl)
  · exact backslash (by rw [← value, same]; rfl)

theorem isPlain_of_mem_utf8EncodeChar {c : Char} {b : UInt8} (visible : 0x20 ≤ c.toNat) (quote : c ≠ '"')
    (backslash : c ≠ '\\') (mem : b ∈ String.utf8EncodeChar c) : IsPlain b := by
  have quoted : c.toNat ≠ 0x22 := fun h => quote (Char.toNat_inj.1 h)
  have escaped : c.toNat ≠ 0x5C := fun h => backslash (Char.toNat_inj.1 h)
  have value : c.val.toNat = c.toNat := rfl
  simp only [String.utf8EncodeChar, value] at mem
  have high {n : Nat} (h : 0x80 ≤ n) (h' : n < 256) : IsPlain (.ofNat n) :=
    isPlain_ofNat h' (by omega) (by omega) (by omega)
  -- one octet is the character itself, and those of longer sequences are all beyond the first 128
  split at mem
  · rw [List.mem_singleton.1 mem]
    exact isPlain_ofNat (by omega) visible quoted escaped
  split at mem
  · simp only [List.mem_cons, List.not_mem_nil, or_false] at mem
    rcases mem with rfl | rfl
    all_goals exact high (by omega) (by omega)
  split at mem
  · simp only [List.mem_cons, List.not_mem_nil, or_false] at mem
    rcases mem with rfl | rfl | rfl
    all_goals exact high (by omega) (by omega)
  · simp only [List.mem_cons, List.not_mem_nil, or_false] at mem
    rcases mem with rfl | rfl | rfl | rfl
    all_goals exact high (by omega) (by omega)

/-! ### Escapes -/

theorem textOctets_plains {bs : Bytes} (plain : ∀ b ∈ bs, IsPlain b) (acc rest : Bytes) :
    textOctets none acc (bs ++ rest) = textOctets none (bs.reverse ++ acc) rest := by
  induction bs generalizing acc with
  | nil => rfl
  | cons b bs ih =>
    obtain ⟨head, tail⟩ := List.forall_mem_cons.1 plain
    rw [List.cons_append, textOctets_plain head, ih tail, List.reverse_cons, List.append_assoc]
    rfl

theorem textOctets_control {c : Char} (control : c.toNat < 0x20) (acc rest : Bytes) :
    textOctets none acc (octets (escapeChar c) ++ rest) =
      textOctets none ((String.utf8EncodeChar c).reverse ++ acc) rest := by
  have all : ∀ n < 0x20, textOctets none acc (octets (escapeChar (.ofNat n)) ++ rest) =
      textOctets none ((String.utf8EncodeChar (.ofNat n)).reverse ++ acc) rest := by
    intro n small
    interval_cases n <;> rfl
  have same := all c.toNat control
  rwa [Char.ofNat_toNat] at same

theorem escapeChar_of_plain {c : Char} (visible : 0x20 ≤ c.toNat) (quote : c ≠ '"') (backslash : c ≠ '\\') :
    escapeChar c = [c] := by
  have noControl {d : Char} (h : d.toNat < 0x20) : c ≠ d := by
    rintro rfl
    omega
  unfold escapeChar
  rw [if_neg quote, if_neg backslash, if_neg (noControl (by decide)), if_neg (noControl (by decide)),
    if_neg (noControl (by decide)), if_neg (noControl (by decide)), if_neg (noControl (by decide)),
    if_neg (by omega), if_neg (by omega)]

/-- However `c` is written, its octets are read. -/
theorem textOctets_escapeChar (c : Char) (acc rest : Bytes) :
    textOctets none acc (octets (escapeChar c) ++ rest) =
      textOctets none ((String.utf8EncodeChar c).reverse ++ acc) rest := by
  by_cases control : c.toNat < 0x20
  · exact textOctets_control control acc rest
  by_cases quote : c = '"'
  · subst quote
    rfl
  by_cases backslash : c = '\\'
  · subst backslash
    rfl
  have visible : 0x20 ≤ c.toNat := Nat.le_of_not_lt control
  have itself : octets (escapeChar c) = String.utf8EncodeChar c := by
    rw [escapeChar_of_plain visible quote backslash]
    exact List.append_nil _
  rw [itself]
  exact textOctets_plains (fun b mem => isPlain_of_mem_utf8EncodeChar visible quote backslash mem) acc rest

theorem textOctets_escaped (cs : List Char) (acc rest : Bytes) :
    textOctets none acc (octets (cs.flatMap escapeChar) ++ rest) =
      textOctets none ((octets cs).reverse ++ acc) rest := by
  induction cs generalizing acc with
  | nil => rfl
  | cons c cs ih =>
    rw [List.flatMap_cons, Utf8.octets_append, List.append_assoc, textOctets_escapeChar, ih, Utf8.octets_cons,
      List.reverse_append, List.append_assoc]

/-! ### Whole strings -/

/-- The octets of a written string behind its opening quote. -/
def inner (s : String) : Bytes := octets (s.toList.flatMap escapeChar ++ ['"'])

theorem octets_writeString (s : String) : octets (writeString s) = 0x22 :: inner s := rfl

theorem textOctets_inner (s : String) (rest : Bytes) :
    textOctets none [] (inner s ++ rest) = .ok (Utf8.encode s, rest) := by
  rw [inner, Utf8.octets_append, List.append_assoc, textOctets_escaped, List.append_nil, Utf8.octets_toList]
  show Except.ok ((Utf8.encode s).reverse.reverse, rest) = _
  rw [List.reverse_reverse]

/-- Behind an opening quote, what has been written of a string is read up to its end. -/
theorem text_inner (s : String) (rest : Bytes) : text (inner s ++ rest) = .ok (s, rest) := by
  simp only [text, textOctets_inner, Utf8.decode?_encode]

/-- What can be read can be skipped. -/
theorem skipOctets_of_textOctets {lead : Option Nat} {acc bs read rest : Bytes}
    (h : textOctets lead acc bs = .ok (read, rest)) : skipOctets bs = .ok rest := by
  -- the cases in which a string ends or goes on; in all others its reader refuses, as `h` does not
  fun_induction textOctets lead acc bs with
  | case2 acc b rest' quote =>
    cases h
    rw [skipOctets.eq_def]
    simp only [quote]
  | case6 acc b backslash e u h₁ h₂ h₃ h₄ rest' unit hex trailing leading ih =>
    rw [skipOctets.eq_def]
    simp_all
  | case7 acc b backslash e u h₁ h₂ h₃ h₄ rest' unit hex trailing leading ih =>
    rw [skipOctets.eq_def]
    simp_all
  | case8 acc b backslash e u h₁ h₂ h₃ h₄ rest' first unit hex trailing ih =>
    rw [skipOctets.eq_def]
    simp_all
  | case12 acc b backslash e rest' x notU simple ih =>
    rw [skipOctets.eq_def]
    simp_all
  | case16 acc b rest' visible quote backslash ih =>
    rw [skipOctets.eq_def]
    simp_all
  | _ => simp_all

theorem skipText_inner (s : String) (rest : Bytes) : skipText (inner s ++ rest) = .ok ((), rest) := by
  rw [skipText, skipOctets_of_textOctets (textOctets_inner s rest)]
  rfl

end Json.Reader
end GracefulDrain
