import GracefulDrain.Text.Numeral

/-! # Numerals denote numbers

`Denotes` says which number some digits denote, with any number of zeros in front. The reader takes one digit at a
time and refuses as soon as the number exceeds its bound. What it has read never exceeds what it arrives at, so it
arrives just at the numbers within the bound (`parse_eq_ok_iff`), among them those that have been written as decimal
digits (`parse_toDigits`). -/

namespace GracefulDrain

namespace Numeral
variable {bound acc n m d : Nat} {c : Char} {cs digits : List Char}

/-- The decimal digits of `n`, perhaps behind zeros. -/
structure Denotes (digits : List Char) (n : Nat) : Prop where
  nonempty : digits ≠ []
  isDigit : ∀ c ∈ digits, c.isDigit
  value : Nat.ofDigitChars 10 digits 0 = n

/-- A number of at most `bound`, perhaps behind a plus sign. -/
structure Spells (bound : Nat) (cs : List Char) (n : Nat) : Prop where
  le : n ≤ bound
  denotes : ∃ digits, (cs = digits ∨ cs = '+' :: digits) ∧ Denotes digits n

theorem denotes_toDigits (n : Nat) : Denotes (Nat.toDigits 10 n) n where
  nonempty := Nat.toDigits_ne_nil
  isDigit _ hc := Nat.isDigit_of_mem_toDigits (by decide) (by decide) hc
  value := Nat.ofDigitChars_ten_toDigits

theorem Denotes.unique (h : Denotes digits n) (h' : Denotes digits m) : n = m := h.value.symm.trans h'.value

theorem Denotes.ne_plus (h : Denotes digits n) : digits ≠ '+' :: cs := by
  rintro rfl
  exact absurd (h.isDigit '+' (by simp)) (by decide)

theorem Spells.unique (h : Spells bound cs n) (h' : Spells bound cs m) : n = m := by
  obtain ⟨digits, rfl | rfl, denotes⟩ := h.denotes <;> obtain ⟨digits', same | same, denotes'⟩ := h'.denotes
  · exact denotes.unique (same ▸ denotes')
  · exact absurd same denotes.ne_plus
  · exact absurd same.symm denotes'.ne_plus
  · exact denotes.unique ((List.cons.inj same).2 ▸ denotes')

theorem digit?_eq_some_iff : digit? c = some d ↔ c.isDigit ∧ c.toNat - '0'.toNat = d := by
  have range : c.isDigit ↔ '0' ≤ c ∧ c ≤ '9' := by
    simp [Char.isDigit, Char.le_def]
  rw [digit?, range]
  by_cases digit : '0' ≤ c ∧ c ≤ '9'
  · rw [if_pos digit]
    simp [digit]
  · rw [if_neg digit]
    simp only [digit, false_and, reduceCtorEq]

theorem push_eq_ok_iff : push bound n c = .ok m ↔ c.isDigit ∧ 10 * n + (c.toNat - '0'.toNat) = m ∧ m ≤ bound := by
  unfold push
  cases read : digit? c with
  | none =>
    have noDigit : ¬ c.isDigit := fun digit => by simp [digit?_eq_some_iff.2 ⟨digit, rfl⟩] at read
    simp [noDigit]
  | some d =>
    obtain ⟨digit, rfl⟩ := digit?_eq_some_iff.1 read
    rw [Nat.mul_comm n 10]
    simp only [digit, true_and]
    split
    · simp only [Except.ok.injEq]
      omega
    · simp only [reduceCtorEq, false_iff]
      omega

/-- More digits make a number no smaller. -/
theorem le_ofDigitChars (cs : List Char) (acc : Nat) : acc ≤ Nat.ofDigitChars 10 cs acc := by
  rw [Nat.ofDigitChars_eq_ofDigitChars_zero]
  have positive : 0 < 10 ^ cs.length := Nat.pow_pos (by decide)
  exact Nat.le_trans (Nat.le_mul_of_pos_left acc positive) (Nat.le_add_right _ _)

theorem foldlM_push_eq_ok_iff (h : acc ≤ bound) :
    cs.foldlM (push bound) acc = .ok n ↔ (∀ c ∈ cs, c.isDigit) ∧ Nat.ofDigitChars 10 cs acc = n ∧ n ≤ bound := by
  induction cs generalizing acc with
  | nil =>
    simp only [List.foldlM_nil, pure, Except.pure, Except.ok.injEq, List.not_mem_nil, false_implies, implies_true,
      Nat.ofDigitChars_nil, true_and]
    constructor
    · rintro rfl
      exact ⟨rfl, h⟩
    · exact fun read => read.1
  | cons c cs ih =>
    rw [List.foldlM_cons, Nat.ofDigitChars_cons, List.forall_mem_cons]
    cases pushed : push bound acc c with
    | ok m =>
      obtain ⟨digit, rfl, le⟩ := push_eq_ok_iff.1 pushed
      show cs.foldlM (push bound) _ = .ok n ↔ _
      rw [ih le]
      simp [digit]
    | error fault =>
      show Except.error fault = .ok n ↔ _
      simp only [reduceCtorEq, false_iff]
      rintro ⟨⟨digit, -⟩, rfl, le⟩
      -- the number would fit with this digit if it did with all those behind it
      have fits := push_eq_ok_iff.2 ⟨digit, rfl, Nat.le_trans (le_ofDigitChars cs _) le⟩
      simp [fits] at pushed

/-- Without a sign in front, reading is pushing one character after another. -/
theorem parse_eq_foldlM (nonempty : cs ≠ []) (unsigned : cs.head? ≠ some '+') :
    parse bound cs = cs.foldlM (push bound) 0 := by
  match cs with
  | [] => exact absurd rfl nonempty
  | c :: rest =>
    have hc : c ≠ '+' := fun h => unsigned (by rw [h]; rfl)
    unfold parse
    split
    · contradiction
    · simp_all
    · simp_all
    · rfl

theorem parse_plus (nonempty : cs ≠ []) : parse bound ('+' :: cs) = cs.foldlM (push bound) 0 := by
  cases cs with
  | nil => exact absurd rfl nonempty
  | cons c cs => rfl

theorem parse_eq_ok_iff : parse bound cs = .ok n ↔ Spells bound cs n := by
  constructor
  · intro read
    have foldlM {digits : List Char} (nonempty : digits ≠ [])
        (read : digits.foldlM (push bound) 0 = .ok n) : n ≤ bound ∧ Denotes digits n := by
      obtain ⟨isDigit, value, le⟩ := (foldlM_push_eq_ok_iff (Nat.zero_le bound)).1 read
      exact ⟨le, nonempty, isDigit, value⟩
    unfold parse at read
    split at read
    · cases read
    · cases read
    · next digits more =>
      obtain ⟨le, denotes⟩ := foldlM (by rintro rfl; exact more rfl) read
      exact ⟨le, digits, .inr rfl, denotes⟩
    · next nonempty _ _ =>
      obtain ⟨le, denotes⟩ := foldlM nonempty read
      exact ⟨le, cs, .inl rfl, denotes⟩
  · rintro ⟨le, digits, signed, denotes⟩
    have read : digits.foldlM (push bound) 0 = .ok n :=
      (foldlM_push_eq_ok_iff (Nat.zero_le bound)).2 ⟨denotes.isDigit, denotes.value, le⟩
    rcases signed with rfl | rfl
    · have unsigned : cs.head? ≠ some '+' := fun sign => by
        obtain ⟨rest, rfl⟩ := List.head?_eq_some_iff.1 sign
        exact denotes.ne_plus rfl
      rw [parse_eq_foldlM denotes.nonempty unsigned, read]
    · rw [parse_plus denotes.nonempty, read]

theorem parse_toDigits (h : n ≤ bound) : parse bound (Nat.toDigits 10 n) = .ok n :=
  parse_eq_ok_iff.2 ⟨h, _, .inl rfl, denotes_toDigits n⟩

theorem parse_toString (h : n ≤ bound) : parse bound (toString n).toList = .ok n := by
  rw [Nat.toString_eq_repr, Nat.toList_repr, parse_toDigits h]

end Numeral

end GracefulDrain
