import GracefulDrain.Credentials
import GracefulDrain.Proofs.Json.Refused

/-! # Which documents declare a credential

`declared` tells of a document whether it is one of stored credentials, and which credential it declares then: an
object by its only field, whatever other members there are, and an array by its only item. The reader of a store
agrees with it on every document that has been written (`reads_stored`, `refuses_stored`). It takes the members one by
one, skips those that are no field, and stops at a field that is there twice or that holds something else than a
string or `null`. -/

namespace GracefulDrain
open Json Json.Reader
open Utf8 (octets)

namespace CredentialStore
variable {v : Json} {cert : Option String} {ms : List (String × Json)}

/-- The credential that the value of the field stands for, if it may stand there. -/
def cert? : Json → Option (Option String)
  | .null => some none
  | .str s => some (some s)
  | _ => none

/-- The credential that a document declares, if it is one of stored credentials. -/
def declared : Json → Option (Option String)
  | .obj ms =>
    match ms.filter fun m => m.1 = "origincert" with
    | [] => some none
    | [m] => cert? m.2
    | _ => none
  | .arr [] => some none
  | .arr [v] => cert? v
  | _ => none

theorem reads_cert (h : cert? v = some cert) : Reads (nullable string) v cert := by
  cases v with
  | null =>
    cases h
    exact fun _ _ => rfl
  | str s =>
    cases h
    intro rest delimited
    have mark : peekMark (octets (write (.str s)) ++ rest) = .ok (some '"', octets (write (.str s)) ++ rest) := rfl
    rw [nullable, bind_ok mark, if_neg (by decide), bind_ok (reads_string s rest delimited)]
    rfl
  | _ => cases h

theorem exists_mark (free : v.IsDoubleFree) :
    ∃ c, Begins v c ∧ ∀ rest, peekMark (octets v.write ++ rest) = .ok (some c, octets v.write ++ rest) := by
  obtain ⟨b, bs, written, visible, begins⟩ := exists_begins (ne_double free)
  refine ⟨_, begins, fun rest => ?_⟩
  rw [written]
  exact peekMark_of_not_blank visible (bs ++ rest)

theorem refuses_cert (free : v.IsDoubleFree) (h : cert? v = none) (rest : Bytes) :
    Refuses (nullable string) (octets v.write ++ rest) := by
  obtain ⟨c, begins, mark⟩ := exists_mark free
  have other : c ≠ 'n' ∧ c ≠ '"' := by
    have digits : isDigit 'n' = false ∧ isDigit '"' = false := by decide
    cases v with
    | null | str s => cases h
    | _ => constructor <;> rintro rfl <;> simp [Begins, digits] at begins
  exact refuses_nullable (mark rest) other.1 (refuses_string (mark rest) other.2)

/-! ### Objects -/

theorem takes_cert (h : cert? v = some cert) : Takes storedMember "origincert" v none (some cert) :=
  takes_field (fun cert => cert) (reads_cert h) rfl (bind_pure _).symm

theorem takes_other {name : String} {seen : Option (Option String)} (h : name ≠ "origincert") (skips : Skips v) :
    Takes storedMember name v seen seen := by
  refine Reader.takes_other (fun _ => seen) skips.reads ?_
  rw [storedMember, if_neg h]

theorem gathers_others {seen : Option (Option String)} (free : ∀ m ∈ ms, m.2.IsDoubleFree)
    (others : ∀ m ∈ ms, m.1 ≠ "origincert") : Gathers storedMember seen ms seen := by
  induction ms with
  | nil => exact .nil seen
  | cons m ms ih =>
    obtain ⟨value, free⟩ := List.forall_mem_cons.1 free
    obtain ⟨other, others⟩ := List.forall_mem_cons.1 others
    exact .cons (takes_other other (skips _ value)) (ih free others)

/-- The field may be there once. -/
theorem stops_twice : Stops storedMember (some cert) (("origincert", v) :: ms) := by
  refine .head fun rest _ => ?_
  exact refuses_duplicate _ _

theorem stops_malformed (free : v.IsDoubleFree) (h : cert? v = none) :
    Stops storedMember none (("origincert", v) :: ms) := by
  refine .head fun rest _ => ?_
  show Refuses ((nullable string >>= fun cert => pure (some cert)) : Reader _) (octets v.write ++ rest)
  exact (refuses_cert free h rest).bind

/-- The members up to the first that is the field. -/
theorem exists_field {m : String × Json} {more : List (String × Json)}
    (fields : (ms.filter fun m => m.1 = "origincert") = m :: more) :
    ∃ front back, ms = front ++ ("origincert", m.2) :: back ∧ (∀ n ∈ front, n.1 ≠ "origincert") ∧
      (back.filter fun m => m.1 = "origincert") = more := by
  obtain ⟨front, back, rfl, before, named, behind⟩ := List.filter_eq_cons_iff.1 fields
  obtain ⟨name, v⟩ := m
  obtain rfl : name = "origincert" := by simpa using named
  exact ⟨front, back, rfl, by simpa using before, behind⟩

theorem gathers_of_declared (free : ∀ m ∈ ms, m.2.IsDoubleFree) (h : declared (.obj ms) = some cert) :
    ∃ seen, seen.join = cert ∧ Gathers storedMember none ms seen := by
  rw [declared] at h
  split at h
  · next fields =>
    cases h
    exact ⟨none, rfl, gathers_others free (by simpa [List.filter_eq_nil_iff] using fields)⟩
  · next m fields =>
    obtain ⟨front, back, rfl, before, behind⟩ := exists_field fields
    obtain ⟨freeFront, -, freeBack⟩ := by simpa only [List.forall_mem_append, List.forall_mem_cons] using free
    have others : ∀ n ∈ back, n.1 ≠ "origincert" := by simpa [List.filter_eq_nil_iff] using behind
    exact ⟨some cert, rfl, (gathers_others freeFront before).append
      (.cons (takes_cert h) (gathers_others freeBack others))⟩
  · cases h

theorem stops_of_undeclared (free : ∀ m ∈ ms, m.2.IsDoubleFree) (h : declared (.obj ms) = none) :
    Stops storedMember none ms := by
  rw [declared] at h
  cases fields : ms.filter fun m => m.1 = "origincert" with
  | nil =>
    rw [fields] at h
    cases h
  | cons m more =>
    obtain ⟨front, back, rfl, before, behind⟩ := exists_field fields
    obtain ⟨freeFront, value, freeBack⟩ := by simpa only [List.forall_mem_append, List.forall_mem_cons] using free
    refine (gathers_others freeFront before).stops ?_
    cases first : cert? m.2 with
    | none => exact stops_malformed value first
    | some cert =>
      -- the first field is taken, so there is another behind it
      cases more with
      | nil =>
        rw [fields] at h
        cases first.symm.trans h
      | cons m' more =>
        obtain ⟨middle, rest, rfl, between, -⟩ := exists_field behind
        have freeMiddle := (List.forall_mem_append.1 freeBack).1
        exact .tail (takes_cert first) ((gathers_others freeMiddle between).stops stops_twice)

/-! ### Documents -/

theorem stored_brace (text : Bytes) :
    stored (0x7B :: text) = (members storedMember none >>= fun seen => pure ⟨seen.join⟩) text := rfl

theorem stored_bracket (text : Bytes) :
    stored (0x5B :: text) =
      ((item? true (nullable string) >>= fun found => pure ⟨found.join⟩) >>= fun fields =>
        closeItems >>= fun _ => pure fields) text := rfl

theorem item_written (free : v.IsDoubleFree) (h : cert? v = some cert) (vs : List Json) (rest : Bytes) :
    (item? true (nullable string) >>= fun found => pure (Stored.mk found.join))
        (octets v.write ++ (moreItems vs ++ 0x5D :: rest)) = .ok (⟨cert⟩, moreItems vs ++ 0x5D :: rest) := by
  have opens : Opens v := opens_of_isDoubleFree free
  have item : item? true (nullable string) (octets v.write ++ (moreItems vs ++ 0x5D :: rest)) =
      .ok (some cert, moreItems vs ++ 0x5D :: rest) := by
    rw [item?, bind_ok (anotherItem_first opens _), if_pos rfl,
      bind_ok (reads_cert h _ (delimited_moreItems vs rest))]
    rfl
  rw [bind_ok item]
  rfl

theorem refuses_item (free : v.IsDoubleFree) (h : cert? v = none) (rest : Bytes) :
    Refuses (item? true (nullable string)) (octets v.write ++ rest) := by
  have opens : Opens v := opens_of_isDoubleFree free
  rw [item?]
  refine refuses_of_bind_ok (anotherItem_first opens rest) ?_
  rw [if_pos rfl]
  exact (refuses_cert free h rest).bind

/-- Nothing may stand behind the only item. -/
theorem refuses_closeItems (text : Bytes) : Refuses closeItems (0x2C :: text) := by
  have comma : peekMark (0x2C :: text) = .ok (some ',', 0x2C :: text) := rfl
  rw [closeItems]
  refine refuses_of_bind_ok comma (refuses_bind (fun _ => refuses_bind fun mark rest => ?_) _)
  split
  · exact refuses_ahead _ rest
  · exact refuses_ahead _ rest

theorem reads_stored (free : v.IsDoubleFree) (h : declared v = some cert) : Reads stored v ⟨cert⟩ := by
  intro rest delimited
  cases v with
  | obj ms =>
    obtain ⟨seen, rfl, gathers⟩ := gathers_of_declared (forall_isDoubleFree free) h
    rw [octets_obj, stored_brace, bind_ok (members_written gathers rest)]
    rfl
  | arr vs =>
    rw [octets_arr]
    match vs with
    | [] =>
      cases h
      rfl
    | [v] =>
      rw [stored_bracket, octets_writeItems, List.append_assoc, bind_ok (item_written free.1 h [] rest)]
      rfl
  | _ => cases h

theorem refuses_stored (free : v.IsDoubleFree) (h : declared v = none) : Refuses stored (octets v.write) := by
  rw [← List.append_nil (octets v.write)]
  cases v with
  | obj ms =>
    rw [Refuses, octets_obj, stored_brace]
    exact (members_stops (stops_of_undeclared (forall_isDoubleFree free) h) []).bind
  | arr vs =>
    rw [Refuses, octets_arr]
    cases vs with
    | nil => cases h
    | cons v vs =>
      rw [stored_bracket, octets_writeItems, List.append_assoc]
      cases value : cert? v with
      | none => exact (refuses_item free.1 value _).bind.bind
      | some cert =>
        cases vs with
        | nil => cases value.symm.trans h
        | cons w ws =>
          exact refuses_of_bind_ok (item_written free.1 value (w :: ws) []) (refuses_closeItems _).bind
  | _ =>
    obtain ⟨c, begins, mark⟩ := exists_mark free
    have digits : isDigit '\x7b' = false ∧ isDigit '[' = false := by decide
    have other : c ≠ '\x7b' ∧ c ≠ '[' := by
      constructor <;> rintro rfl <;> simp [Begins, digits] at begins
    exact refuses_either (mark []) other.1 other.2

end CredentialStore
end GracefulDrain
