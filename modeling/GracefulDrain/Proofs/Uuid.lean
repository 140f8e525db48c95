import GracefulDrain.Proofs.Text.Utf8
import GracefulDrain.Uuid

/-! # Printed UUIDs are read back

Which of its forms a UUID is read from depends on the length of the text alone. What is printed has the length of
the form with hyphens, the hyphens stand where that form has them, and the digits between them are the digits of
the UUID. -/

namespace GracefulDrain.Uuid
variable {cs : List Char}

theorem hexDigit?_hexChar (d : Fin 16) : hexDigit? (hexChar d) = some d := by
  decide +revert

theorem mapM_hexDigit?_hexChar (ds : List (Fin 16)) : (ds.map hexChar).mapM hexDigit? = some ds := by
  induction ds with
  | nil => rfl
  | cons d ds ih => simp [hexDigit?_hexChar, ih]

theorem length_hexChars (u : Uuid) : (u.digits.map hexChar).length = 32 := by
  rw [List.length_map, u.length_digits]

theorem ofSimple?_hexChars (u : Uuid) : ofSimple? (u.digits.map hexChar) = some u := by
  rw [ofSimple?, mapM_hexDigit?_hexChar]
  exact dif_pos u.length_digits

/-- The groups that a list falls into. -/
theorem eq_groups (cs : List Char) :
    cs = cs.take 8 ++ ((cs.drop 8).take 4 ++ ((cs.drop 12).take 4 ++ ((cs.drop 16).take 4 ++ cs.drop 20))) := by
  have cut (i j : Nat) : cs.drop i = (cs.drop i).take j ++ cs.drop (i + j) := by
    rw [← List.drop_drop, List.take_append_drop]
  rw [← cut 16 4, ← cut 12 4, ← cut 8 4, List.take_append_drop]

theorem dropHyphens_hyphenated {a b c d e : List Char} (ha : a.length = 8) (hb : b.length = 4) (hc : c.length = 4)
    (hd : d.length = 4) :
    dropHyphens (a ++ '-' :: b ++ '-' :: c ++ '-' :: d ++ '-' :: e) = a ++ (b ++ (c ++ (d ++ e))) := by
  simp (disch := omega) [dropHyphens, List.drop_append, ha, hb, hc, hd, List.drop_of_length_le]

theorem dropHyphens_hyphenate (h : cs.length = 32) : dropHyphens (hyphenate cs) = cs := by
  rw [hyphenate, dropHyphens_hyphenated, ← eq_groups]
  all_goals simp; omega

theorem length_hyphenate (h : cs.length = 32) : (hyphenate cs).length = 36 := by
  simp [hyphenate]
  omega

theorem mem_hyphenate {c : Char} (h : c ∈ hyphenate cs) : c = '-' ∨ c ∈ cs := by
  rw [eq_groups cs]
  simp only [hyphenate, List.mem_append, List.mem_cons] at h ⊢
  tauto

/-- Digits and hyphens take an octet each. -/
theorem utf8ByteSize_toString (u : Uuid) : u.toString.utf8ByteSize = 36 := by
  have narrow : ∀ c ∈ hyphenate (u.digits.map hexChar), (String.utf8EncodeChar c).length = 1 := by
    have digit : ∀ d, (String.utf8EncodeChar (hexChar d)).length = 1 := by decide
    intro c hc
    obtain rfl | hc := mem_hyphenate hc
    · rfl
    · obtain ⟨d, -, rfl⟩ := List.mem_map.1 hc
      exact digit d
  have size : u.toString.utf8ByteSize = (Utf8.encode u.toString).length := rfl
  rw [size, toString, Utf8.encode_ofList, List.length_flatMap, List.map_congr_left narrow,
    List.map_const', List.sum_replicate_nat, length_hyphenate u.length_hexChars]

theorem parse?_toString (u : Uuid) : parse? u.toString = some u := by
  have text : u.toString.toList = hyphenate (u.digits.map hexChar) := String.toList_ofList
  have form : parse? u.toString = ofHyphenated? u.toString.toList := by
    rw [parse?, utf8ByteSize_toString]
    rfl
  rw [form, text, ofHyphenated?, dropHyphens_hyphenate u.length_hexChars, if_pos rfl, ofSimple?_hexChars]

end GracefulDrain.Uuid
