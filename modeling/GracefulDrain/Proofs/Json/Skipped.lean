import GracefulDrain.Proofs.Json.Values

/-! # Written values are skipped

A reader over a value that nobody asked for keeps the open brackets in a list. It takes a step at each bracket, at
each value and behind each comma. `Skips v` says that it gets from the front of `v` to its end with the same brackets
open, in fewer steps than twice the octets of `v`; so the steps it is given by the length of a text suffice, and no
depth is too deep for it (`reads_skipValue`). Items and members are entries of the bracket around them. They differ
only in what stands in front of their values. -/

namespace GracefulDrain.Json
open Utf8 (octets)

mutual

/-- No double in it. -/
def IsDoubleFree : Json → Prop
  | .null | .bool _ | .int _ | .str _ => True
  | .double _ => False
  | .arr items => AreDoubleFree items
  | .obj members => HoldDoubleFree members

def AreDoubleFree : List Json → Prop
  | [] => True
  | v :: rest => v.IsDoubleFree ∧ AreDoubleFree rest

def HoldDoubleFree : List (String × Json) → Prop
  | [] => True
  | (_, v) :: rest => v.IsDoubleFree ∧ HoldDoubleFree rest

end

namespace Reader
variable {v : Json} {n : Nat} {rest : Bytes}

def Skips (v : Json) : Prop :=
  ∃ n, n < 2 * (octets v.write).length ∧ ∀ fuel nest rest, Delimited rest →
    skipWithin (fuel + n) .value nest (octets v.write ++ rest) = skipWithin fuel .ended nest rest

theorem Skips.reads (skips : Skips v) : Reads skipValue v () := by
  obtain ⟨n, few, walks⟩ := skips
  intro rest delimited
  obtain ⟨fuel, enough⟩ : ∃ fuel, 2 * (octets v.write ++ rest).length + 2 = fuel + n := by
    rw [List.length_append]
    exact ⟨2 * ((octets v.write).length + rest.length) + 2 - n, by omega⟩
  rw [skipValue, enough, walks fuel [] rest delimited]
  cases fuel <;> rfl

/-! ### Values without brackets -/

theorem Skips.of_scalar (written : octets v.write ≠ [])
    (scalar : ∀ rest, Delimited rest → skipScalar (octets v.write ++ rest) = .ok (none, rest)) : Skips v := by
  refine ⟨1, ?_, fun fuel nest rest delimited => ?_⟩
  · have := List.length_pos_of_ne_nil written
    omega
  · rw [skipWithin, bind_ok (scalar rest delimited)]

theorem skips_null : Skips .null := .of_scalar (by decide) fun _ _ => rfl

theorem skips_bool (b : Bool) : Skips (.bool b) := by
  cases b <;> exact .of_scalar (by decide) fun _ _ => rfl

theorem skipScalar_quote (rest : Bytes) :
    skipScalar (0x22 :: rest) = (skipText >>= fun _ => pure none) rest := rfl

theorem skips_str (s : String) : Skips (.str s) := by
  refine .of_scalar (by simp [write, octets_writeString]) fun rest _ => ?_
  rw [octets_str, skipScalar_quote, bind_ok (skipText_inner s rest)]
  rfl

/-! ### Integers -/

theorem isDigit_of_mem_toDigits (n : Nat) : ∀ b ∈ octets (Nat.toDigits 10 n), isDigit (Char.ofUInt8 b) = true := by
  induction n using Nat.strongRecOn with
  | ind n ih =>
    have last {d : Nat} (h : d < 10) : ∀ b ∈ octets [d.digitChar], isDigit (Char.ofUInt8 b) = true := by
      rw [octets_digitChar h, List.forall_mem_singleton]
      exact (digit_ofNat h).1
    by_cases small : n < 10
    · rw [Nat.toDigits_of_lt_base small]
      exact last small
    · rw [Nat.toDigits_of_base_le (by decide) (by omega), Utf8.octets_append, List.forall_mem_append]
      exact ⟨ih (n / 10) (by omega), last (by omega)⟩

theorem skipDigits_toDigits (n : Nat) (delimited : Delimited rest) :
    ∃ k, k ≠ 0 ∧ skipDigits (octets (Nat.toDigits 10 n) ++ rest) = .ok (k, rest) := by
  obtain ⟨d, ds, -, -, digits⟩ := octets_toDigits n
  refine ⟨(octets (Nat.toDigits 10 n)).length, ?_, ?_⟩
  · rw [digits]
    exact Nat.succ_ne_zero _
  · rw [skipDigits, List.dropWhile_append_of_pos (isDigit_of_mem_toDigits n), dropWhile_delimited delimited,
      List.length_append, Nat.add_sub_cancel_right]

theorem skipNumber_zero (delimited : Delimited rest) : skipNumber (0x30 :: rest) = .ok ((), rest) := by
  match rest with
  | [] => rfl
  | b :: bs => rcases delimited with rfl | rfl | rfl <;> rfl

theorem skipNumber_toDigits (n : Nat) (delimited : Delimited rest) :
    skipNumber (octets (Nat.toDigits 10 n) ++ rest) = .ok ((), rest) := by
  by_cases zero : n = 0
  · subst zero
    exact skipNumber_zero delimited
  obtain ⟨c, peeked, -, nonzero⟩ := peek_toDigits n rest
  obtain ⟨k, met, skipped⟩ := skipDigits_toDigits n delimited
  rw [skipNumber, bind_ok peeked]
  -- a zero in front would have to stand alone
  simp only [Option.some.injEq, nonzero zero, imp_self]
  rw [bind_ok skipped, if_neg met]
  match rest with
  | [] => rfl
  | b :: bs => rcases delimited with rfl | rfl | rfl <;> rfl

theorem skipScalar_digit {d : Nat} (h : d < 10) (rest : Bytes) :
    skipScalar (.ofNat (48 + d) :: rest) = (skipNumber >>= fun _ => pure none) (.ofNat (48 + d) :: rest) := by
  interval_cases d <;> rfl

theorem skipScalar_minus (rest : Bytes) :
    skipScalar (0x2D :: rest) = (skipNumber >>= fun _ => pure none) rest := rfl

/-- An integer of any size is skipped. -/
theorem skips_int (n : Int) : Skips (.int n) := by
  cases n with
  | ofNat m =>
    obtain ⟨d, ds, hd, -, digits⟩ := octets_toDigits m
    have head (rest : Bytes) : octets (Nat.toDigits 10 m) ++ rest = .ofNat (48 + d) :: (ds ++ rest) := by
      rw [digits, List.cons_append]
    refine .of_scalar ?_ fun rest delimited => ?_
    · rw [octets_ofNat, ← List.append_nil (octets _), head]
      exact List.cons_ne_nil _ _
    · rw [octets_ofNat, head, skipScalar_digit hd, ← head, bind_ok (skipNumber_toDigits m delimited)]
      rfl
  | negSucc m =>
    refine .of_scalar ?_ fun rest delimited => ?_
    · rw [octets_negSucc]
      exact List.cons_ne_nil _ _
    · rw [octets_negSucc, List.cons_append, skipScalar_minus, bind_ok (skipNumber_toDigits (m + 1) delimited)]
      rfl

/-! ### Entries of a bracket -/

/-- The octet that closes a bracket. -/
def Bracket.closing : Bracket → UInt8
  | .list => 0x5D
  | .object => 0x7D

variable {b : Bracket} {front : Bytes} {es : List (Bytes × Json)}

/-- In the bracket `b`, what stands in `front` of `v` is no closing bracket and leads to `v`. -/
structure Leads (b : Bracket) (front : Bytes) (v : Json) : Prop where
  mark : ∀ rest, ∃ c, c ≠ b.close ∧
    peekMark (front ++ (octets v.write ++ rest)) = .ok (some c, front ++ (octets v.write ++ rest))
  name : ∀ rest, skipName b (front ++ (octets v.write ++ rest)) = .ok ((), octets v.write ++ rest)

theorem leads_item (opens : Opens v) : Leads .list [] v where
  mark := opens.mark
  name _ := rfl

theorem leads_member (name : String) (v : Json) : Leads .object (0x22 :: (inner name ++ [0x3A])) v where
  mark _ := ⟨'"', by decide, rfl⟩
  name rest := by
    have named : skipText (inner name ++ [0x3A] ++ (octets v.write ++ rest)) =
        .ok ((), 0x3A :: (octets v.write ++ rest)) := by
      rw [List.append_assoc]
      exact skipText_inner name _
    have mark : peekMark (0x22 :: (inner name ++ [0x3A]) ++ (octets v.write ++ rest)) =
        .ok (some '"', 0x22 :: (inner name ++ [0x3A] ++ (octets v.write ++ rest))) := rfl
    rw [skipName, bind_ok mark]
    simp only
    rw [bind_ok (advance_cons _ _), bind_ok named]
    rfl

/-- The octets of the entries behind the first. -/
def moreEntries (es : List (Bytes × Json)) : Bytes := es.flatMap fun e => 0x2C :: (e.1 ++ octets e.2.write)

theorem delimited_moreEntries (b : Bracket) (es : List (Bytes × Json)) (rest : Bytes) :
    Delimited (moreEntries es ++ b.closing :: rest) := by
  cases es with
  | nil => cases b <;> simp [moreEntries, Delimited, Bracket.closing]
  | cons e es => exact .inl rfl

theorem skipWithin_closing (fuel : Nat) (b : Bracket) (nest : List Bracket) (rest : Bytes) :
    skipWithin (fuel + 1) .ended (b :: nest) (b.closing :: rest) = skipWithin fuel .ended nest rest := by
  cases b <;> rfl

theorem skipWithin_comma (leads : Leads b front v) (fuel : Nat) (nest : List Bracket) (rest : Bytes) :
    skipWithin (fuel + 1) .ended (b :: nest) (0x2C :: (front ++ (octets v.write ++ rest))) =
      skipWithin fuel .value (b :: nest) (octets v.write ++ rest) := by
  have other : ',' ≠ b.close := by cases b <;> decide
  have comma : peekMark (0x2C :: (front ++ (octets v.write ++ rest))) =
      .ok (some ',', 0x2C :: (front ++ (octets v.write ++ rest))) := rfl
  rw [skipWithin, bind_ok comma]
  simp only [if_neg other, if_true]
  rw [bind_ok (advance_cons _ _), bind_ok (leads.name rest)]

theorem skipWithin_opened (leads : Leads b front v) (fuel : Nat) (nest : List Bracket) (rest : Bytes) :
    skipWithin (fuel + 1) .opened (b :: nest) (front ++ (octets v.write ++ rest)) =
      skipWithin fuel .value (b :: nest) (octets v.write ++ rest) := by
  obtain ⟨c, other, mark⟩ := leads.mark rest
  rw [skipWithin, bind_ok mark]
  simp only
  rw [if_neg other, bind_ok (leads.name rest)]

/-- The entries behind the first are skipped together with the bracket that closes behind them. -/
theorem skips_more (entries : ∀ e ∈ es, Leads b e.1 e.2 ∧ Skips e.2) :
    ∃ n, n ≤ 2 * (moreEntries es).length + 1 ∧ ∀ fuel nest rest,
      skipWithin (fuel + n) .ended (b :: nest) (moreEntries es ++ b.closing :: rest) =
        skipWithin fuel .ended nest rest := by
  induction es with
  | nil => exact ⟨1, by omega, fun fuel nest rest => skipWithin_closing fuel b nest rest⟩
  | cons e es ih =>
    obtain ⟨⟨leads, n, few, walks⟩, tail⟩ := List.forall_mem_cons.1 entries
    obtain ⟨n', few', walks'⟩ := ih tail
    -- one step over the comma, `n` over the value, and `n'` over the entries behind it
    refine ⟨n' + n + 1, ?_, fun fuel nest rest => ?_⟩
    · simp only [moreEntries, List.flatMap_cons, List.length_append, List.length_cons] at few' ⊢
      omega
    · have split : moreEntries (e :: es) ++ b.closing :: rest =
          0x2C :: (e.1 ++ (octets e.2.write ++ (moreEntries es ++ b.closing :: rest))) := by
        simp only [moreEntries, List.flatMap_cons, List.cons_append, List.append_assoc]
      rw [split, ← Nat.add_assoc, skipWithin_comma leads, ← Nat.add_assoc,
        walks _ _ _ (delimited_moreEntries b es rest), walks']

/-- The octets of all entries. -/
def allEntries : List (Bytes × Json) → Bytes
  | [] => []
  | e :: es => e.1 ++ (octets e.2.write ++ moreEntries es)

theorem skips_entries (entries : ∀ e ∈ es, Leads b e.1 e.2 ∧ Skips e.2) :
    ∃ n, n ≤ 2 * (allEntries es).length + 1 ∧ ∀ fuel nest rest,
      skipWithin (fuel + n) .opened (b :: nest) (allEntries es ++ b.closing :: rest) =
        skipWithin fuel .ended nest rest := by
  cases es with
  | nil => exact ⟨1, by omega, fun fuel nest rest => by cases b <;> rfl⟩
  | cons e es =>
    obtain ⟨⟨leads, n, few, walks⟩, tail⟩ := List.forall_mem_cons.1 entries
    obtain ⟨n', few', walks'⟩ := skips_more tail
    refine ⟨n' + n + 1, ?_, fun fuel nest rest => ?_⟩
    · simp only [allEntries, List.length_append]
      omega
    · rw [allEntries, List.append_assoc, List.append_assoc, ← Nat.add_assoc, skipWithin_opened leads, ← Nat.add_assoc,
        walks _ _ _ (delimited_moreEntries b es rest), walks']

/-! ### Arrays and objects -/

/-- A value between brackets is skipped if its entries are. -/
theorem Skips.of_entries (entries : ∀ e ∈ es, Leads b e.1 e.2 ∧ Skips e.2) {opening : UInt8}
    (written : octets v.write = opening :: (allEntries es ++ [b.closing]))
    (bracket : ∀ rest, skipScalar (opening :: rest) = .ok (some b, rest)) : Skips v := by
  obtain ⟨n, few, walks⟩ := skips_entries entries
  refine ⟨n + 1, ?_, fun fuel nest rest _ => ?_⟩
  · rw [written]
    simp only [List.length_cons, List.length_append]
    omega
  · rw [written, List.cons_append, List.append_assoc, ← Nat.add_assoc, skipWithin, bind_ok (bracket _)]
    exact walks fuel nest rest

theorem allEntries_items (vs : List Json) : allEntries (vs.map ([], ·)) = octets (writeItems vs) := by
  cases vs with
  | nil => rfl
  | cons v vs =>
    have more : moreEntries (vs.map ([], ·)) = moreItems vs := by
      rw [moreEntries, moreItems, List.flatMap_map]
      rfl
    rw [octets_writeItems, ← more]
    rfl

theorem allEntries_members (ms : List (String × Json)) :
    allEntries (ms.map fun m => (0x22 :: (inner m.1 ++ [0x3A]), m.2)) = octets (writeMembers ms) := by
  have entry (name : String) (v : Json) :
      0x22 :: (inner name ++ [0x3A]) ++ octets v.write = 0x22 :: memberOctets name v := by
    rw [memberOctets, List.cons_append, List.append_assoc]
    rfl
  cases ms with
  | nil => rfl
  | cons m ms =>
    have more : moreEntries (ms.map fun m => (0x22 :: (inner m.1 ++ [0x3A]), m.2)) = moreMembers ms := by
      rw [moreEntries, moreMembers, List.flatMap_map]
      simp only [entry]
    rw [List.map_cons, allEntries, more, ← List.append_assoc, entry, octets_writeMembers]
    rfl

theorem skips_arr {vs : List Json} (items : ∀ v ∈ vs, Opens v ∧ Skips v) : Skips (.arr vs) := by
  have entries : ∀ e ∈ vs.map fun v => (([] : Bytes), v), Leads .list e.1 e.2 ∧ Skips e.2 := by
    intro e mem
    obtain ⟨v, hv, rfl⟩ := List.mem_map.1 mem
    exact ⟨leads_item (items v hv).1, (items v hv).2⟩
  have written := octets_arr vs []
  rw [List.append_nil, ← allEntries_items] at written
  exact .of_entries entries written fun _ => rfl

theorem skips_obj {ms : List (String × Json)} (values : ∀ m ∈ ms, Skips m.2) : Skips (.obj ms) := by
  have entries : ∀ e ∈ ms.map fun m => (0x22 :: (inner m.1 ++ [0x3A]), m.2), Leads .object e.1 e.2 ∧ Skips e.2 := by
    intro e mem
    obtain ⟨m, hm, rfl⟩ := List.mem_map.1 mem
    exact ⟨leads_member m.1 m.2, values m hm⟩
  have written := octets_obj ms []
  rw [List.append_nil, ← allEntries_members] at written
  exact .of_entries entries written fun _ => rfl

theorem ne_double (free : v.IsDoubleFree) (bits : UInt64) : v ≠ .double bits := by
  rintro rfl
  exact free

theorem opens_of_isDoubleFree (free : v.IsDoubleFree) : Opens v := opens_of_ne_double (ne_double free)

theorem forall_isDoubleFree {ms : List (String × Json)} (free : HoldDoubleFree ms) : ∀ m ∈ ms, m.2.IsDoubleFree := by
  induction ms with
  | nil => exact List.forall_mem_nil _
  | cons m ms ih => exact List.forall_mem_cons.2 ⟨free.1, ih free.2⟩

mutual

/-- Whatever has been written is skipped, unless there is a double in it. -/
theorem skips : ∀ v : Json, v.IsDoubleFree → Skips v
  | .null, _ => skips_null
  | .bool b, _ => skips_bool b
  | .int n, _ => skips_int n
  | .double _, free => free.elim
  | .str s, _ => skips_str s
  | .arr vs, free => skips_arr (skips_items vs free)
  | .obj ms, free => skips_obj (skips_members ms free)

theorem skips_items : ∀ vs : List Json, AreDoubleFree vs → ∀ v ∈ vs, Opens v ∧ Skips v
  | [], _ => List.forall_mem_nil _
  | v :: vs, free => List.forall_mem_cons.2 ⟨⟨opens_of_isDoubleFree free.1, skips v free.1⟩, skips_items vs free.2⟩

theorem skips_members : ∀ ms : List (String × Json), HoldDoubleFree ms → ∀ m ∈ ms, Skips m.2
  | [], _ => List.forall_mem_nil _
  | (_, v) :: ms, free => List.forall_mem_cons.2 ⟨skips v free.1, skips_members ms free.2⟩

end

end Reader
end GracefulDrain.Json
