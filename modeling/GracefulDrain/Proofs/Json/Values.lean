import GracefulDrain.Proofs.Json.Numbers
import Mathlib.Data.List.Forall2

/-! # Written values are read back

A reader holds a value exactly if its integers have 64 bits, if it has no double, and if the members of its
objects are in order, as they are once they have been read (`IsExact`). Such a value is read back as deep as there
is room for (`reads_value`). The lemmas about values, items and members recurse as the writer does; that members
come back as they were is due to their order, since each of them then goes behind all that came before. -/

namespace GracefulDrain.Json
open Utf8 (octets)

/-! ### Values that a reader holds exactly -/

/-- Ordered by name, no name twice. -/
def Members.IsOrdered (ms : Members) : Prop := ms.Pairwise fun m m' => m.1 < m'.1

mutual

/-- No double, integers of 64 bits, and members in order. -/
def IsExact : Json → Prop
  | .null | .bool _ | .str _ => True
  | .int n => -2 ^ 63 ≤ n ∧ n < 2 ^ 64
  | .double _ => False
  | .arr items => AreExact items
  | .obj members => Members.IsOrdered members ∧ HoldExact members

def AreExact : List Json → Prop
  | [] => True
  | v :: rest => v.IsExact ∧ AreExact rest

def HoldExact : List (String × Json) → Prop
  | [] => True
  | (_, v) :: rest => v.IsExact ∧ HoldExact rest

end

mutual

/-- How many arrays and objects enclose one another. -/
def depth : Json → Nat
  | .null | .bool _ | .int _ | .double _ | .str _ => 0
  | .arr items => depthOfItems items + 1
  | .obj members => depthOfMembers members + 1

def depthOfItems : List Json → Nat
  | [] => 0
  | v :: rest => max v.depth (depthOfItems rest)

def depthOfMembers : List (String × Json) → Nat
  | [] => 0
  | (_, v) :: rest => max v.depth (depthOfMembers rest)

end

theorem isExact_of_mem {vs : List Json} {v : Json} (exact : AreExact vs) (mem : v ∈ vs) : v.IsExact := by
  induction mem with
  | head => exact exact.1
  | tail _ _ ih => exact ih exact.2

theorem depth_le_of_mem {vs : List Json} {v : Json} (mem : v ∈ vs) : v.depth ≤ depthOfItems vs := by
  induction mem with
  | head => exact Nat.le_max_left ..
  | tail _ _ ih => exact Nat.le_trans ih (Nat.le_max_right ..)

theorem Members.insert_last {name : String} {v : Json} {ms : Members} (later : ∀ m ∈ ms, m.1 < name) :
    ms.insert name v = ms ++ [(name, v)] := by
  induction ms with
  | nil => rfl
  | cons m ms ih =>
    obtain ⟨before, rest⟩ := List.forall_mem_cons.1 later
    rw [Members.insert, if_neg (String.lt_asymm before), if_neg (String.ne_of_lt before).symm, ih rest]
    rfl

theorem Members.foldl_insert {acc ms : Members} (ordered : Members.IsOrdered (acc ++ ms)) :
    ms.foldl (fun acc m => acc.insert m.1 m.2) acc = acc ++ ms := by
  induction ms generalizing acc with
  | nil => exact (List.append_nil acc).symm
  | cons m ms ih =>
    have later : ∀ m' ∈ acc, m'.1 < m.1 := fun m' mem =>
      (List.pairwise_append.1 ordered).2.2 m' mem m (List.mem_cons_self ..)
    have appended : acc ++ m :: ms = acc ++ [m] ++ ms := by simp
    rw [List.foldl_cons, Members.insert_last later, appended]
    exact ih (appended ▸ ordered)

/-- Members that are in order come back in that order. -/
theorem Members.ofList_of_isOrdered {ms : Members} (ordered : ms.IsOrdered) : Members.ofList ms = ms :=
  @Members.foldl_insert [] ms ordered

namespace Reader
variable {room : Nat} {n : Int} {d : Nat} {array object : Reader Json}

theorem valueWith_digit (h : d < 10) (rest : Bytes) :
    valueWith array object (.ofNat (48 + d) :: rest) =
      (number false >>= fun n => pure n.toJson) (.ofNat (48 + d) :: rest) := by
  interval_cases d <;> rfl

theorem valueWith_minus (rest : Bytes) :
    valueWith array object (0x2D :: rest) = (number true >>= fun n => pure n.toJson) rest := rfl

theorem octets_ofNat (m : Nat) : octets (write (.int (.ofNat m))) = octets (Nat.toDigits 10 m) := by
  rw [write, Int.ofNat_eq_natCast, ← Nat.toList_repr]
  rfl

theorem octets_negSucc (m : Nat) :
    octets (write (.int (.negSucc m))) = 0x2D :: octets (Nat.toDigits 10 (m + 1)) := by
  have text : (toString (Int.negSucc m)).toList = '-' :: Nat.toDigits 10 (m + 1) := by
    rw [← Nat.toList_repr]
    show ("-" ++ Nat.repr (m + 1)).toList = _
    rw [String.toList_append]
    rfl
  rw [write, text]
  rfl

theorem exists_digit (m : Nat) (rest : Bytes) :
    ∃ d ds, d < 10 ∧ octets (Nat.toDigits 10 m) ++ rest = .ofNat (48 + d) :: ds := by
  obtain ⟨d, ds, hd, -, digits⟩ := octets_toDigits m
  exact ⟨d, ds ++ rest, hd, by rw [digits, List.cons_append]⟩

theorem reads_valueWith_int (least : -2 ^ 63 ≤ n) (largest : n < 2 ^ 64) :
    Reads (valueWith array object) (.int n) (.int n) := by
  intro rest delimited
  cases n with
  | ofNat m =>
    have fits : m ≤ maxSignificand := by
      have size : maxSignificand = 2 ^ 64 - 1 := rfl
      rw [Int.ofNat_eq_natCast] at largest
      omega
    obtain ⟨d, ds, hd, head⟩ := exists_digit m rest
    rw [octets_ofNat, head, valueWith_digit hd, ← head, bind_ok (number_toDigits false fits delimited)]
    rfl
  | negSucc m =>
    have fits : m + 1 ≤ 2 ^ 63 := by omega
    have size : maxSignificand = 2 ^ 64 - 1 := rfl
    have value : (Number.ofInteger true (m + 1)).toJson = .int (.negSucc m) := by
      rw [Number.ofInteger]
      simp only [Bool.not_true, Bool.false_eq_true, if_false]
      rw [if_pos ⟨by omega, by omega⟩]
      rfl
    rw [octets_negSucc, List.cons_append, valueWith_minus, bind_ok (number_toDigits true (by omega) delimited)]
    rw [value]
    rfl

theorem natural_digit {bound : Nat} (expected : String) (h : d < 10) (rest : Bytes) :
    natural bound expected (.ofNat (48 + d) :: rest) =
      (number false >>= fun n => match n with
        | .int n => if 0 ≤ n ∧ n ≤ bound then pure n.toNat else here (.invalidValue (.int n) expected)
        | .double bits => here (.invalidType (.double bits) expected)) (.ofNat (48 + d) :: rest) := by
  interval_cases d <;> rfl

theorem reads_natural {bound m : Nat} (expected : String) (fits : m ≤ bound) (kept : bound ≤ maxSignificand) :
    Reads (natural bound expected) (.int m) m := by
  intro rest delimited
  obtain ⟨d, ds, hd, head⟩ := exists_digit m rest
  have inside : (0 : Int) ≤ m ∧ (m : Int) ≤ bound := ⟨Int.natCast_nonneg m, Int.ofNat_le.2 fits⟩
  rw [← Int.ofNat_eq_natCast, octets_ofNat, head, natural_digit expected hd, ← head,
    bind_ok (number_toDigits false (Nat.le_trans fits kept) delimited)]
  show (if (0 : Int) ≤ m ∧ (m : Int) ≤ bound then pure (m : Int).toNat else _ : Reader Nat) rest = _
  rw [if_pos inside, Int.toNat_natCast]
  rfl

/-! ### Arrays and objects -/

theorem valueWith_bracket (rest : Bytes) : valueWith array object (0x5B :: rest) = array (0x5B :: rest) := rfl

theorem valueWith_brace (rest : Bytes) : valueWith array object (0x7B :: rest) = object (0x7B :: rest) := rfl

theorem octets_arr (vs : List Json) (rest : Bytes) :
    octets (write (.arr vs)) ++ rest = 0x5B :: (octets (writeItems vs) ++ 0x5D :: rest) := by
  show 0x5B :: (octets (writeItems vs ++ [']']) ++ rest) = _
  rw [Utf8.octets_append, List.append_assoc]
  rfl

theorem reads_value_arr {vs : List Json} (items : ∀ v ∈ vs, Opens v ∧ Reads (value room) v v) :
    Reads (value (room + 1)) (.arr vs) (.arr vs) := by
  intro rest _
  have itemwise := items_written (List.forall₂_same.2 items) rest
  rw [value, octets_arr, valueWith_bracket, bind_ok (advance_cons _ _), bind_ok itemwise]
  rfl

section
variable {σ : Type} {member : String → σ → Reader σ} {ms : List (String × Json)}

/-- Members that are kept one after another, the last one in front. -/
theorem gathers_kept (set : List (String × Json) → σ)
    (takes : ∀ m ∈ ms, ∀ acc, Takes member m.1 m.2 (set acc) (set (m :: acc))) (acc : List (String × Json)) :
    Gathers member (set acc) ms (set (ms.reverse ++ acc)) := by
  induction ms generalizing acc with
  | nil => exact .nil _
  | cons m ms ih =>
    obtain ⟨head, tail⟩ := List.forall_mem_cons.1 takes
    rw [List.reverse_cons, List.append_assoc]
    exact .cons (head acc) (ih tail (m :: acc))

end

theorem reads_value_obj {ms : Members} (ordered : ms.IsOrdered) (values : ∀ m ∈ ms, Reads (value room) m.2 m.2) :
    Reads (value (room + 1)) (.obj ms) (.obj ms) := by
  intro rest _
  have gathers : Gathers (fun name acc => do colon; return (name, ← value room) :: acc) [] ms (ms.reverse ++ []) :=
    gathers_kept id (fun m mem acc => takes_other (fun v => (m.1, v) :: acc) (values m mem) rfl) []
  rw [value, octets_obj, valueWith_brace, bind_ok (advance_cons _ _), bind_ok (members_written gathers rest),
    List.append_nil, List.reverse_reverse, Members.ofList_of_isOrdered ordered]
  rfl

/-- The characters with which the text of a value begins. -/
def Begins : Json → Char → Prop
  | .null, c => c = 'n'
  | .bool _, c => c = 't' ∨ c = 'f'
  | .int _, c => c = '-' ∨ isDigit c
  | .double _, _ => False
  | .str _, c => c = '"'
  | .arr _, c => c = '['
  | .obj _, c => c = '\x7b'

theorem exists_begins {v : Json} (h : ∀ bits, v ≠ .double bits) :
    ∃ b bs, octets v.write = b :: bs ∧ isBlank b = false ∧ Begins v (Char.ofUInt8 b) := by
  cases v with
  | null => exact ⟨0x6E, [0x75, 0x6C, 0x6C], rfl, rfl, rfl⟩
  | bool b =>
    cases b with
    | true => exact ⟨0x74, [0x72, 0x75, 0x65], rfl, rfl, .inl rfl⟩
    | false => exact ⟨0x66, [0x61, 0x6C, 0x73, 0x65], rfl, rfl, .inr rfl⟩
  | int n =>
    cases n with
    | ofNat m =>
      obtain ⟨d, ds, hd, -, digits⟩ := octets_toDigits m
      have visible : ∀ d < 10, isBlank (.ofNat (48 + d)) = false := by decide
      exact ⟨.ofNat (48 + d), ds, (octets_ofNat m).trans digits, visible d hd, .inr (digit_ofNat hd).1⟩
    | negSucc m => exact ⟨0x2D, octets (Nat.toDigits 10 (m + 1)), octets_negSucc m, rfl, .inl rfl⟩
  | double bits => exact absurd rfl (h bits)
  | str s => exact ⟨0x22, inner s, rfl, rfl, rfl⟩
  | arr items => exact ⟨0x5B, octets (writeItems items ++ [']']), rfl, rfl, rfl⟩
  | obj ms => exact ⟨0x7B, octets (writeMembers ms ++ ['\x7d']), rfl, rfl, rfl⟩

theorem Begins.ne_close {v : Json} : ¬ Begins v ']' := by
  have digit : isDigit ']' = false := rfl
  cases v <;> simp [Begins, digit]

theorem opens_of_ne_double {v : Json} (h : ∀ bits, v ≠ .double bits) : Opens v := by
  obtain ⟨b, bs, written, visible, begins⟩ := exists_begins h
  refine ⟨b, bs, written, visible, ?_⟩
  rintro rfl
  exact begins.ne_close

theorem opens_of_isExact {v : Json} (exact : v.IsExact) : Opens v :=
  opens_of_ne_double fun bits same => by
    subst same
    exact exact

mutual

/-- A value is read back, as deep as there is room for. -/
theorem reads_value : ∀ (v : Json) {room : Nat}, v.IsExact → v.depth ≤ room → Reads (value room) v v
  | .null, room, _, _ => by cases room <;> exact fun rest _ => rfl
  | .bool b, room, _, _ => by cases b <;> cases room <;> exact fun rest _ => rfl
  | .int n, room, exact, _ => by cases room <;> exact reads_valueWith_int exact.1 exact.2
  | .double bits, _, exact, _ => exact.elim
  | .str s, room, _, _ => reads_value_str room s
  | .arr vs, 0, _, deep => absurd deep (Nat.not_succ_le_zero _)
  | .arr vs, room + 1, exact, deep => reads_value_arr fun v mem =>
    ⟨opens_of_isExact (isExact_of_mem exact mem), reads_items vs exact (Nat.le_of_succ_le_succ deep) v mem⟩
  | .obj ms, 0, _, deep => absurd deep (Nat.not_succ_le_zero _)
  | .obj ms, _ + 1, exact, deep =>
    reads_value_obj exact.1 (reads_members ms exact.2 (Nat.le_of_succ_le_succ deep))

theorem reads_items : ∀ (vs : List Json) {room : Nat}, AreExact vs → depthOfItems vs ≤ room →
    ∀ v ∈ vs, Reads (value room) v v
  | [], _, _, _ => List.forall_mem_nil _
  | v :: vs, _, exact, deep => List.forall_mem_cons.2
    ⟨reads_value v exact.1 (Nat.le_trans (Nat.le_max_left ..) deep),
      reads_items vs exact.2 (Nat.le_trans (Nat.le_max_right ..) deep)⟩

theorem reads_members : ∀ (ms : List (String × Json)) {room : Nat}, HoldExact ms → depthOfMembers ms ≤ room →
    ∀ m ∈ ms, Reads (value room) m.2 m.2
  | [], _, _, _ => List.forall_mem_nil _
  | (_, v) :: ms, _, exact, deep => List.forall_mem_cons.2
    ⟨reads_value v exact.1 (Nat.le_trans (Nat.le_max_left ..) deep),
      reads_members ms exact.2 (Nat.le_trans (Nat.le_max_right ..) deep)⟩

end

end Reader
end GracefulDrain.Json
