import GracefulDrain.Proofs.Json.Written

/-! # Written integers are read back

The reader takes one digit at a time and stops before a digit that no longer fits. All that has been read of a
number is at most the number itself, so no digit is left out (`appendDigits_toDigits`), and what ends a value is
no digit and goes on with neither a fraction nor an exponent (`number_toDigits`). -/

namespace GracefulDrain.Json.Reader
open Utf8 (octets)
variable {bound n d count : Nat} {rest : Bytes}

theorem octets_digitChar (h : d < 10) : octets [d.digitChar] = [.ofNat (48 + d)] := by
  have all : ∀ d < 10, octets [Nat.digitChar d] = [.ofNat (48 + d)] := by decide
  exact all d h

theorem digit_ofNat (h : d < 10) :
    isDigit (Char.ofUInt8 (.ofNat (48 + d))) = true ∧ (Char.ofUInt8 (.ofNat (48 + d))).toNat - 48 = d := by
  have all : ∀ d < 10, isDigit (Char.ofUInt8 (.ofNat (48 + d))) = true ∧
      (Char.ofUInt8 (.ofNat (48 + d))).toNat - 48 = d := by decide
  exact all d h

theorem appendDigits_digit (hd : d < 10) (h : n * 10 + d ≤ bound) :
    appendDigits bound n count (octets [d.digitChar] ++ rest) =
      appendDigits bound (n * 10 + d) (count + 1) rest := by
  obtain ⟨digit, value⟩ := digit_ofNat hd
  rw [octets_digitChar hd, List.singleton_append, appendDigits]
  simp only [digit, value, Bool.true_and]
  rw [if_pos (decide_eq_true h)]

theorem appendDigits_toDigits (h : n ≤ bound) :
    appendDigits bound 0 0 (octets (Nat.toDigits 10 n) ++ rest) =
      appendDigits bound n (Nat.toDigits 10 n).length rest := by
  induction n using Nat.strongRecOn generalizing rest with
  | ind n ih =>
    by_cases small : n < 10
    · have first : appendDigits bound 0 0 (octets [n.digitChar] ++ rest) =
          appendDigits bound (0 * 10 + n) (0 + 1) rest :=
        appendDigits_digit small (by omega)
      rw [Nat.toDigits_of_lt_base small, first, Nat.zero_mul, Nat.zero_add]
      rfl
    · -- all digits but the last are those of a smaller number
      have front : appendDigits bound 0 0
          (octets (Nat.toDigits 10 (n / 10)) ++ (octets [(n % 10).digitChar] ++ rest)) =
          appendDigits bound (n / 10) (Nat.toDigits 10 (n / 10)).length (octets [(n % 10).digitChar] ++ rest) :=
        ih (n / 10) (by omega) (by omega)
      rw [Nat.toDigits_of_base_le (by decide) (by omega), Utf8.octets_append, List.append_assoc, front,
        appendDigits_digit (by omega) (by omega), Nat.div_add_mod', List.length_append]
      rfl

/-- What ends a value is no digit. -/
theorem Delimited.peek (delimited : Delimited rest) :
    ∃ c, Reader.peek rest = .ok (c, rest) ∧ c.any isDigit = false := by
  match rest with
  | [] => exact ⟨none, rfl, rfl⟩
  | b :: bs =>
    refine ⟨some (Char.ofUInt8 b), rfl, ?_⟩
    rcases delimited with rfl | rfl | rfl <;> decide

theorem appendDigits_delimited (delimited : Delimited rest) :
    appendDigits bound n count rest = ((n, count), rest) := by
  match rest with
  | [] => rfl
  | b :: bs =>
    have other : isDigit (Char.ofUInt8 b) = false := by rcases delimited with rfl | rfl | rfl <;> decide
    simp only [appendDigits, other, Bool.false_and, Bool.false_eq_true, if_false]

theorem dropWhile_delimited (delimited : Delimited rest) :
    rest.dropWhile (fun b => isDigit (Char.ofUInt8 b)) = rest := by
  match rest with
  | [] => rfl
  | b :: bs => exact List.dropWhile_cons_of_neg (by rcases delimited with rfl | rfl | rfl <;> decide)

theorem skipDigits_delimited (delimited : Delimited rest) : skipDigits rest = .ok (0, rest) := by
  rw [skipDigits, dropWhile_delimited delimited, Nat.sub_self]

/-- Where a value ends, a number goes on with neither a fraction nor an exponent. -/
theorem ofInteger_delimited (negative : Bool) (delimited : Delimited rest) :
    (Reader.peek >>= fun c => match c with
      | some '.' => decimals negative n (0 : Nat)
      | some 'e' | some 'E' => exponent negative n (0 : Nat)
      | _ => pure (Number.ofInteger negative n)) rest =
      .ok (Number.ofInteger negative n, rest) := by
  match rest with
  | [] => rfl
  | b :: bs => rcases delimited with rfl | rfl | rfl <;> rfl

/-- The first digit of a number is zero just for zero itself. -/
theorem toDigits_eq_cons (n : Nat) :
    ∃ d ds, d < 10 ∧ (0 < n → 0 < d) ∧ Nat.toDigits 10 n = d.digitChar :: ds := by
  induction n using Nat.strongRecOn with
  | ind n ih =>
    by_cases small : n < 10
    · exact ⟨n, [], small, id, Nat.toDigits_of_lt_base small⟩
    · obtain ⟨d, ds, digit, positive, front⟩ := ih (n / 10) (by omega)
      refine ⟨d, ds ++ [(n % 10).digitChar], digit, fun _ => positive (by omega), ?_⟩
      rw [Nat.toDigits_of_base_le (by decide) (by omega), front]
      rfl

theorem octets_toDigits (n : Nat) :
    ∃ d ds, d < 10 ∧ (0 < n → 0 < d) ∧ octets (Nat.toDigits 10 n) = .ofNat (48 + d) :: ds := by
  obtain ⟨d, ds, hd, positive, digits⟩ := toDigits_eq_cons n
  refine ⟨d, octets ds, hd, positive, ?_⟩
  rw [digits, ← List.singleton_append, Utf8.octets_append, octets_digitChar hd]
  rfl

theorem peek_toDigits (n : Nat) (rest : Bytes) :
    ∃ c, peek (octets (Nat.toDigits 10 n) ++ rest) = .ok (some c, octets (Nat.toDigits 10 n) ++ rest) ∧
      isDigit c = true ∧ (n ≠ 0 → c ≠ '0') := by
  obtain ⟨d, ds, hd, positive, digits⟩ := octets_toDigits n
  obtain ⟨digit, value⟩ := digit_ofNat hd
  refine ⟨Char.ofUInt8 (.ofNat (48 + d)), ?_, digit, fun nonzero same => ?_⟩
  · rw [digits]
    rfl
  · rw [same, show '0'.toNat = 48 from rfl] at value
    have := positive (Nat.pos_of_ne_zero nonzero)
    omega

theorem number_zero (negative : Bool) (delimited : Delimited rest) :
    number negative (0x30 :: rest) = .ok (Number.ofInteger negative 0, rest) := by
  obtain ⟨c, peeked, other⟩ := delimited.peek
  have zero : peek (0x30 :: rest) = .ok (some '0', 0x30 :: rest) := rfl
  have digit : isDigit '0' = true := rfl
  rw [number, bind_ok zero]
  simp only [digit, if_true]
  rw [bind_ok (advance_cons _ _), bind_ok peeked, if_neg (by rw [other]; decide)]
  exact ofInteger_delimited negative delimited

theorem number_toDigits (negative : Bool) (h : n ≤ maxSignificand) (delimited : Delimited rest) :
    number negative (octets (Nat.toDigits 10 n) ++ rest) = .ok (Number.ofInteger negative n, rest) := by
  by_cases zero : n = 0
  · subst zero
    exact number_zero negative delimited
  obtain ⟨c, peeked, digit, nonzero⟩ := peek_toDigits n rest
  have read : digitsWithin maxSignificand 0 (octets (Nat.toDigits 10 n) ++ rest) =
      .ok ((n, (Nat.toDigits 10 n).length), rest) := by
    rw [digitsWithin, appendDigits_toDigits h, appendDigits_delimited delimited]
  rw [number, bind_ok peeked]
  simp only [digit, if_true]
  rw [if_neg (nonzero zero), bind_ok read, bind_ok (skipDigits_delimited delimited)]
  exact ofInteger_delimited negative delimited

end GracefulDrain.Json.Reader
