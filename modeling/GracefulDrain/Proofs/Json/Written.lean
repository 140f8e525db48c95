import GracefulDrain.Json.Decode
import GracefulDrain.Proofs.Json.Text
import GracefulDrain.Proofs.Text.Trim

/-! # Written documents are read back

`Reads read v a` says that `read` takes exactly the written `v` from the front of a text and returns `a`. What
stands behind `v` has to end it, as a comma, a closing bracket and the end of the text do. Items are read one
after another (`items_written`). An object is read into a record member by member, and `Gathers` follows the
record from each member to the next (`members_written`). -/

namespace GracefulDrain.Json

namespace Reader
open Utf8 (octets)
variable {α β σ : Type}

theorem bind_ok {read : Reader α} {next : α → Reader β} {text rest : Bytes} {a : α}
    (h : read text = .ok (a, rest)) : (read >>= next) text = next a rest := by
  simp only [bind, StateT.bind, h, Except.bind]

theorem bind_error {read : Reader α} {next : α → Reader β} {text : Bytes} {stop : Stop}
    (h : read text = .error stop) : (read >>= next) text = .error stop := by
  simp only [bind, StateT.bind, h, Except.bind]

theorem advance_cons (b : UInt8) (rest : Bytes) : advance (b :: rest) = .ok ((), rest) := rfl

/-- What stands at the front of `rest`, if anything, ends a value. -/
def Delimited : Bytes → Prop
  | [] => True
  | b :: _ => b = 0x2C ∨ b = 0x5D ∨ b = 0x7D

def Reads (read : Reader α) (v : Json) (a : α) : Prop :=
  ∀ rest, Delimited rest → read (octets v.write ++ rest) = .ok (a, rest)

theorem Reads.map {read : Reader α} {v : Json} {a : α} (reads : Reads read v a) (f : α → β) :
    Reads (read >>= fun a => pure (f a)) v (f a) := by
  intro rest delimited
  rw [bind_ok (reads rest delimited)]
  rfl

/-- The first octet of `v` is not taken for a blank or for the end of a list. -/
def Opens (v : Json) : Prop := ∃ b bs, octets v.write = b :: bs ∧ isBlank b = false ∧ b ≠ 0x5D

theorem opens_obj (ms : List (String × Json)) : Opens (.obj ms) :=
  ⟨0x7B, octets (writeMembers ms ++ ['\x7d']), rfl, rfl, by decide⟩

/-! ### Strings -/

theorem octets_str (s : String) (rest : Bytes) :
    octets (write (.str s)) ++ rest = 0x22 :: (inner s ++ rest) := rfl

-- what a reader does at a quote is read off for any text behind it, before that is the inside of a string

theorem string_quote (rest : Bytes) : string (0x22 :: rest) = text rest := rfl

theorem valueWith_quote (array object : Reader Json) (rest : Bytes) :
    valueWith array object (0x22 :: rest) = (text >>= fun s => pure (.str s)) rest := rfl

theorem reads_string (s : String) : Reads string (.str s) s := by
  intro rest _
  rw [octets_str, string_quote, text_inner]

theorem reads_valueWith_str (array object : Reader Json) (s : String) :
    Reads (valueWith array object) (.str s) (.str s) := by
  intro rest _
  rw [octets_str, valueWith_quote, bind_ok (text_inner s rest)]
  rfl

theorem reads_value_str (room : Nat) (s : String) : Reads (value room) (.str s) (.str s) := by
  cases room with
  | zero => exact reads_valueWith_str _ _ s
  | succ room => exact reads_valueWith_str _ _ s

/-! ### Lists -/

/-- The octets of the items behind the first. -/
def moreItems (vs : List Json) : Bytes := vs.flatMap fun v => 0x2C :: octets v.write

theorem octets_writeItems (v : Json) (vs : List Json) :
    octets (writeItems (v :: vs)) = octets v.write ++ moreItems vs := by
  induction vs generalizing v with
  | nil => exact (List.append_nil _).symm
  | cons w vs ih =>
    have more : moreItems (w :: vs) = 0x2C :: (octets w.write ++ moreItems vs) := rfl
    rw [more, ← ih, writeItems, Utf8.octets_append]
    rfl

theorem length_le_moreItems (vs : List Json) : vs.length ≤ (moreItems vs).length := by
  induction vs with
  | nil => exact Nat.le_refl 0
  | cons v vs ih =>
    simp only [moreItems, List.flatMap_cons, List.length_cons, List.length_append] at ih ⊢
    omega

theorem peekMark_of_not_blank {b : UInt8} (h : isBlank b = false) (rest : Bytes) :
    peekMark (b :: rest) = .ok (some (Char.ofUInt8 b), b :: rest) := by
  have kept : (b :: rest).dropWhile isBlank = b :: rest := List.dropWhile_cons_of_neg (by rw [h]; decide)
  show peek ((b :: rest).dropWhile isBlank) = _
  rw [kept]
  rfl

theorem Opens.mark {v : Json} (opens : Opens v) (rest : Bytes) :
    ∃ c, c ≠ ']' ∧ peekMark (octets v.write ++ rest) = .ok (some c, octets v.write ++ rest) := by
  obtain ⟨b, bs, written, visible, more⟩ := opens
  refine ⟨Char.ofUInt8 b, fun same => more (UInt8.toNat_inj.1 (congrArg Char.toNat same)), ?_⟩
  rw [written]
  exact peekMark_of_not_blank visible (bs ++ rest)

theorem anotherItem_first {v : Json} (opens : Opens v) (rest : Bytes) :
    anotherItem true (octets v.write ++ rest) = .ok (true, octets v.write ++ rest) := by
  obtain ⟨c, other, mark⟩ := opens.mark rest
  rw [anotherItem, bind_ok mark]
  simp only [if_true]
  rfl

/-- Behind a comma an item has to follow. -/
theorem anotherItem_comma (rest : Bytes) :
    anotherItem false (0x2C :: rest) =
      (peekMark >>= fun mark => match mark with
        | none => ahead .eofValue
        | some ']' => ahead .trailingComma
        | some _ => pure true) rest := rfl

theorem anotherItem_later {v : Json} (opens : Opens v) (rest : Bytes) :
    anotherItem false (0x2C :: (octets v.write ++ rest)) = .ok (true, octets v.write ++ rest) := by
  obtain ⟨c, other, mark⟩ := opens.mark rest
  rw [anotherItem_comma, bind_ok mark]
  simp only
  rfl

theorem delimited_moreItems (vs : List Json) (rest : Bytes) : Delimited (moreItems vs ++ 0x5D :: rest) := by
  cases vs with
  | nil => exact .inr (.inl rfl)
  | cons v vs => exact .inl rfl

variable {item : Reader α} {vs : List Json} {as : List α}

/-- One item and the octets that announce it. -/
theorem itemsWithin_step {v : Json} {a : α} {first : Bool} {before after : Bytes} (reads : Reads item v a)
    (announced : anotherItem first before = .ok (true, octets v.write ++ after)) (delimited : Delimited after)
    (fuel : Nat) (acc : List α) :
    itemsWithin item (fuel + 1) first acc before = itemsWithin item fuel false (a :: acc) after := by
  rw [itemsWithin, bind_ok announced]
  show (item >>= _) _ = _
  rw [bind_ok (reads after delimited)]

theorem itemsWithin_more (items : List.Forall₂ (fun v a => Opens v ∧ Reads item v a) vs as) (rest : Bytes)
    {fuel : Nat} (enough : vs.length < fuel) (acc : List α) :
    itemsWithin item fuel false acc (moreItems vs ++ 0x5D :: rest) = .ok (acc.reverse ++ as, rest) := by
  obtain ⟨fuel, rfl⟩ : ∃ n, fuel = n + 1 := ⟨fuel - 1, by omega⟩
  induction items generalizing fuel acc with
  | nil =>
    rw [List.append_nil]
    rfl
  | @cons v a vs as head tail ih =>
    obtain ⟨opens, reads⟩ := head
    obtain ⟨fuel, rfl⟩ : ∃ n, fuel = n + 1 := ⟨fuel - 1, by simp at enough; omega⟩
    have announced : anotherItem false (moreItems (v :: vs) ++ 0x5D :: rest) =
        .ok (true, octets v.write ++ (moreItems vs ++ 0x5D :: rest)) := by
      rw [← anotherItem_later opens]
      simp only [moreItems, List.flatMap_cons, List.cons_append, List.append_assoc]
    rw [itemsWithin_step reads announced (delimited_moreItems vs rest), ih _ _ (by simpa using enough),
      List.reverse_cons, List.append_assoc]
    rfl

theorem items_written (items : List.Forall₂ (fun v a => Opens v ∧ Reads item v a) vs as) (rest : Bytes) :
    Reader.items item (octets (writeItems vs) ++ 0x5D :: rest) = .ok (as, rest) := by
  cases items with
  | nil => rfl
  | @cons v a vs as head tail =>
    obtain ⟨opens, reads⟩ := head
    have enough := length_le_moreItems vs
    rw [Reader.items, octets_writeItems, List.append_assoc,
      itemsWithin_step reads (anotherItem_first opens _) (delimited_moreItems vs rest),
      itemsWithin_more tail rest (by simp only [List.length_append, List.length_cons]; omega)]
    rfl

theorem reads_list (items : List.Forall₂ (fun v a => Opens v ∧ Reads item v a) vs as) :
    Reads (list item) (.arr vs) as := by
  intro rest _
  have inner : octets (writeItems vs ++ [']']) ++ rest = octets (writeItems vs) ++ 0x5D :: rest := by
    rw [Utf8.octets_append, List.append_assoc]
    rfl
  show Reader.items item (octets (writeItems vs ++ [']']) ++ rest) = _
  rw [inner, items_written items]

/-! ### Objects -/

/-- The octets of a member behind the quote that opens its name. -/
def memberOctets (name : String) (v : Json) : Bytes := inner name ++ 0x3A :: octets v.write

/-- The octets of the members behind the first. -/
def moreMembers (ms : List (String × Json)) : Bytes := ms.flatMap fun m => 0x2C :: 0x22 :: memberOctets m.1 m.2

theorem octets_name (name : String) (cs : List Char) :
    octets (writeString name ++ ':' :: cs) = 0x22 :: (inner name ++ 0x3A :: octets cs) := by
  rw [Utf8.octets_append, octets_writeString]
  rfl

theorem octets_writeMembers (name : String) (v : Json) (ms : List (String × Json)) :
    octets (writeMembers ((name, v) :: ms)) = 0x22 :: (memberOctets name v ++ moreMembers ms) := by
  induction ms generalizing name v with
  | nil =>
    rw [writeMembers, octets_name]
    exact congrArg _ (List.append_nil _).symm
  | cons m ms ih =>
    obtain ⟨name', v'⟩ := m
    have more : moreMembers ((name', v') :: ms) = 0x2C :: 0x22 :: (memberOctets name' v' ++ moreMembers ms) := rfl
    rw [more, ← ih, writeMembers, octets_name, Utf8.octets_append, memberOctets, List.append_assoc]
    rfl

theorem length_le_moreMembers (ms : List (String × Json)) : ms.length ≤ (moreMembers ms).length := by
  induction ms with
  | nil => exact Nat.le_refl 0
  | cons m ms ih =>
    simp only [moreMembers, List.flatMap_cons, List.length_cons, List.length_append] at ih ⊢
    omega

theorem delimited_moreMembers (ms : List (String × Json)) (rest : Bytes) :
    Delimited (moreMembers ms ++ 0x7D :: rest) := by
  cases ms with
  | nil => exact .inr (.inr rfl)
  | cons m ms => exact .inl rfl

/-- A member `name` with the value `v` is read from its colon on, and makes `acc'` of `acc`. -/
def Takes (member : String → σ → Reader σ) (name : String) (v : Json) (acc acc' : σ) : Prop :=
  ∀ rest, Delimited rest → member name acc (0x3A :: (octets v.write ++ rest)) = .ok (acc', rest)

/-- The members `ms`, one after another, make `acc'` of `acc`. -/
inductive Gathers (member : String → σ → Reader σ) : σ → List (String × Json) → σ → Prop
  | nil (acc : σ) : Gathers member acc [] acc
  | cons {name : String} {v : Json} {ms : List (String × Json)} {acc mid acc' : σ}
      (head : Takes member name v acc mid) (tail : Gathers member mid ms acc') :
      Gathers member acc ((name, v) :: ms) acc'

variable {member : String → σ → Reader σ} {acc acc' : σ}

theorem anotherMember_first (rest : Bytes) : anotherMember true (0x22 :: rest) = .ok (true, 0x22 :: rest) := rfl

theorem anotherMember_later (name : String) (v : Json) (ms : List (String × Json)) (rest : Bytes) :
    anotherMember false (moreMembers ((name, v) :: ms) ++ rest) =
      .ok (true, 0x22 :: (memberOctets name v ++ (moreMembers ms ++ rest))) := by
  simp only [moreMembers, List.flatMap_cons, List.cons_append, List.append_assoc]
  rfl

/-- A member that is announced is read from its colon on. -/
theorem membersWithin_announced {name : String} {v : Json} {first : Bool} {before after : Bytes}
    (announced : anotherMember first before = .ok (true, 0x22 :: (memberOctets name v ++ after))) (fuel : Nat) :
    membersWithin member (fuel + 1) first acc before =
      (member name acc >>= fun mid => membersWithin member fuel false mid) (0x3A :: (octets v.write ++ after)) := by
  have named : text (memberOctets name v ++ after) = .ok (name, 0x3A :: (octets v.write ++ after)) := by
    rw [memberOctets, List.append_assoc]
    exact text_inner name _
  rw [membersWithin, bind_ok announced, if_pos rfl, bind_ok (advance_cons _ _), bind_ok named]

theorem membersWithin_more {ms : List (String × Json)} (gathers : Gathers member acc ms acc') (rest : Bytes)
    {fuel : Nat} (enough : ms.length < fuel) :
    membersWithin member fuel false acc (moreMembers ms ++ 0x7D :: rest) = .ok (acc', rest) := by
  induction gathers generalizing fuel with
  | nil acc =>
    obtain ⟨fuel, rfl⟩ : ∃ n, fuel = n + 1 := ⟨fuel - 1, by omega⟩
    rfl
  | @cons name v ms acc mid acc' head tail ih =>
    obtain ⟨fuel, rfl⟩ : ∃ n, fuel = n + 1 := ⟨fuel - 1, by omega⟩
    rw [membersWithin_announced (anotherMember_later ..), bind_ok (head _ (delimited_moreMembers ms rest))]
    exact ih (by simpa using enough)

theorem members_written {ms : List (String × Json)} (gathers : Gathers member acc ms acc') (rest : Bytes) :
    members member acc (octets (writeMembers ms) ++ 0x7D :: rest) = .ok (acc', rest) := by
  cases gathers with
  | nil => rfl
  | @cons name v ms mid acc acc' head tail =>
    have enough := length_le_moreMembers ms
    rw [members, octets_writeMembers, List.cons_append, List.append_assoc,
      membersWithin_announced (anotherMember_first _), bind_ok (head _ (delimited_moreMembers ms rest)),
      membersWithin_more tail rest (by simp only [List.length_append, List.length_cons]; omega)]

theorem octets_obj (ms : List (String × Json)) (rest : Bytes) :
    octets (write (.obj ms)) ++ rest = 0x7B :: (octets (writeMembers ms) ++ 0x7D :: rest) := by
  show 0x7B :: (octets (writeMembers ms ++ ['\x7d']) ++ rest) = _
  rw [Utf8.octets_append, List.append_assoc]
  rfl

theorem reads_object {object : Reader α} {ms : List (String × Json)} {a : α} (expected : String)
    (whole : ∀ rest, object (octets (writeMembers ms) ++ 0x7D :: rest) = .ok (a, rest)) :
    Reads (fromObject expected object) (.obj ms) a := by
  intro rest _
  rw [octets_obj]
  exact whole rest

theorem reads_either {object array : Reader α} {ms : List (String × Json)} {a : α} (expected : String)
    (whole : ∀ rest, object (octets (writeMembers ms) ++ 0x7D :: rest) = .ok (a, rest)) :
    Reads (fromEither expected object array) (.obj ms) a := by
  intro rest _
  rw [octets_obj]
  exact whole rest

/-! ### Members of a record -/

section
variable {name : String} {read : Reader α} {v : Json} {a : α}

/-- A field that has not been read before is set. -/
theorem takes_field {seen : Option α} (set : Option α → σ) (reads : Reads read v a) (unread : seen = none)
    (field : member name acc = once name seen read >>= fun x => pure (set x)) :
    Takes member name v acc (set (some a)) := by
  intro rest delimited
  have value : once name none read (0x3A :: (octets v.write ++ rest)) = .ok (some a, rest) := by
    show (read >>= fun a => pure (some a)) (octets v.write ++ rest) = _
    rw [bind_ok (reads rest delimited)]
    rfl
  rw [field, unread, bind_ok value]
  rfl

/-- A member that is no field is read behind its colon. -/
theorem takes_other (set : α → σ) (reads : Reads read v a)
    (other : member name acc = colon >>= fun _ => read >>= fun x => pure (set x)) :
    Takes member name v acc (set a) := by
  intro rest delimited
  rw [other]
  show (read >>= fun x => pure (set x)) (octets v.write ++ rest) = _
  rw [bind_ok (reads rest delimited)]
  rfl

end

/-! ### Whole documents -/

/-- `printed` is the text of `v` among blanks. -/
def Prints (printed : String) (v : Json) : Prop :=
  ∃ before after, printed.toList = before ++ v.write ++ after ∧
    (∀ c ∈ before, Text.isBlank c) ∧ ∀ c ∈ after, Text.isBlank c

theorem prints_amid {before after : String} (left : Text.allBlank before) (right : Text.allBlank after) (v : Json) :
    Prints (before ++ v.render ++ after) v := by
  refine ⟨before.toList, after.toList, ?_, List.all_eq_true.1 left, List.all_eq_true.1 right⟩
  rw [String.toList_append, String.toList_append, render, String.toList_ofList]

theorem prints_line (v : Json) : Prints (v.render ++ "\n") v := by
  have prints := prints_amid (show Text.allBlank "" by decide) (show Text.allBlank "\n" by decide) v
  rwa [String.empty_append] at prints

/-- The text of `v` neither begins nor ends with a blank. -/
def Bracketed (v : Json) : Prop :=
  ∃ b cs e, v.write = b :: (cs ++ [e]) ∧ Text.isBlank b = false ∧ Text.isBlank e = false

theorem bracketed_arr (vs : List Json) : Bracketed (.arr vs) :=
  ⟨'[', writeItems vs, ']', rfl, by decide, by decide⟩

theorem bracketed_obj (ms : List (String × Json)) : Bracketed (.obj ms) :=
  ⟨'\x7b', writeMembers ms, '\x7d', rfl, by decide, by decide⟩

theorem encode_render (v : Json) : Utf8.encode v.render = octets v.write := by
  rw [render, Utf8.encode_ofList]
  rfl

theorem trims_write {printed : String} {v : Json} (prints : Prints printed v) (bracketed : Bracketed v) :
    Text.Trims printed.toList v.write := by
  obtain ⟨before, after, text, left, right⟩ := prints
  obtain ⟨b, cs, e, written, opening, closing⟩ := bracketed
  refine ⟨⟨before, after, by rw [text, List.append_assoc], left, right⟩, ?_, ?_⟩
  · rw [written]
    simpa using opening
  · rw [written, ← List.cons_append, List.getLast?_concat]
    simpa using closing

theorem encode_trim {printed : String} {v : Json} (prints : Prints printed v) (bracketed : Bracketed v) :
    Utf8.encode (Text.trim printed) = octets v.write := by
  rw [Text.trim, (trims_write prints bracketed).eq]
  exact encode_render v

theorem document_written {read : Reader α} {v : Json} {a : α} (reads : Reads read v a) :
    document read (octets v.write) = .ok a := by
  have whole := reads [] trivial
  rw [List.append_nil] at whole
  have ended : peekMark [] = .ok (none, []) := rfl
  rw [document]
  simp only [bind_ok whole, bind_ok ended]
  rfl

theorem document_printed {read : Reader α} {printed : String} {v : Json} {a : α} (prints : Prints printed v)
    (bracketed : Bracketed v) (reads : Reads read v a) :
    document read (Utf8.encode (Text.trim printed)) = .ok a := by
  rw [encode_trim prints bracketed, document_written reads]

theorem document_error {read : Reader α} {text : Bytes} {stop : Stop} (refused : read text = .error stop) :
    document read text = .error (Error.locate text stop) := by
  rw [document]
  simp only [bind_error refused]

/-- A document is refused where the value in it is. -/
theorem document_refused {read : Reader α} {printed : String} {v : Json} {stop : Stop} (prints : Prints printed v)
    (bracketed : Bracketed v) (refused : read (octets v.write) = .error stop) :
    ∃ e : Error, e.fault = stop.fault ∧ document read (Utf8.encode (Text.trim printed)) = .error e := by
  refine ⟨Error.locate (octets v.write) stop, rfl, ?_⟩
  rw [encode_trim prints bracketed, document_error refused]

end Reader
end GracefulDrain.Json
