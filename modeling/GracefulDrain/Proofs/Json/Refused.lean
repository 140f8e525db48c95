import GracefulDrain.Proofs.Json.Skipped

/-! # What a reader refuses

A record is refused where the first member is that its reader does not take. `Gathers` follows a record as far as
its members are taken, and `Stops` goes on to the one that is not; from there on nothing is read. -/

namespace GracefulDrain.Json.Reader
open Utf8 (octets)
variable {α β σ : Type} {text rest : Bytes}

def Refuses (read : Reader α) (text : Bytes) : Prop := ∃ stop, read text = .error stop

theorem refuses_here (f : Fault) (text : Bytes) : Refuses (here f : Reader α) text := ⟨_, rfl⟩

theorem refuses_ahead (f : Fault) (text : Bytes) : Refuses (ahead f : Reader α) text := ⟨_, rfl⟩

section
variable {read : Reader α} {next : α → Reader β} {a : α}

theorem Refuses.bind (refuses : Refuses read text) : Refuses (read >>= next) text := by
  obtain ⟨stop, refused⟩ := refuses
  exact ⟨stop, bind_error refused⟩

theorem refuses_of_bind_ok (h : read text = .ok (a, rest)) (refuses : Refuses (next a) rest) :
    Refuses (read >>= next) text := by
  obtain ⟨stop, refused⟩ := refuses
  exact ⟨stop, by rw [bind_ok h, refused]⟩

/-- What goes on to refuse whatever has been read refuses. -/
theorem refuses_bind (refuses : ∀ a rest, Refuses (next a) rest) (text : Bytes) : Refuses (read >>= next) text := by
  cases h : read text with
  | error stop => exact Refuses.bind ⟨stop, h⟩
  | ok result => exact refuses_of_bind_ok h (refuses result.1 result.2)

end

theorem refuses_mismatch (expected : String) (text : Bytes) : Refuses (mismatch expected : Reader α) text := by
  refine refuses_bind (fun c rest => ?_) text
  -- whatever has been read of the value by then, it is reported
  split
  · exact refuses_bind (fun _ => refuses_here _) rest
  · exact refuses_bind (fun _ => refuses_here _) rest
  · exact refuses_bind (fun _ => refuses_here _) rest
  · exact refuses_bind (fun _ => refuses_bind fun _ => refuses_here _) rest
  · exact refuses_here _ rest
  · exact refuses_here _ rest
  · exact refuses_bind (fun _ => refuses_bind fun _ => refuses_here _) rest
  · split
    · exact refuses_bind (fun _ => refuses_here _) rest
    · exact refuses_ahead _ rest
  · exact refuses_ahead _ rest

theorem refuses_duplicate (name : String) (text : Bytes) : Refuses (duplicate name : Reader α) text := by
  refine refuses_bind (fun c rest => ?_) text
  split
  · exact refuses_bind (fun _ => refuses_here _) rest
  · exact refuses_here _ rest

/-- A string is a value that begins with a quote. -/
theorem refuses_string {c : Char} (mark : peekMark text = .ok (some c, rest)) (other : c ≠ '"') :
    Refuses string text := by
  have value : peekValue text = .ok (c, rest) := bind_ok mark
  rw [string]
  refine refuses_of_bind_ok value ?_
  rw [if_neg other]
  exact refuses_mismatch _ _

theorem refuses_nullable {read : Reader α} {c : Char} (mark : peekMark text = .ok (some c, rest)) (other : c ≠ 'n')
    (refuses : Refuses read rest) : Refuses (nullable read) text := by
  rw [nullable]
  refine refuses_of_bind_ok mark ?_
  rw [if_neg (by simpa using other)]
  exact refuses.bind

/-- Neither of a bracket nor of a scalar. -/
theorem refuses_either {object array : Reader α} {expected : String} {c : Char}
    (mark : peekMark text = .ok (some c, rest)) (brace : c ≠ '\x7b') (bracket : c ≠ '[') :
    Refuses (fromEither expected object array) text := by
  have value : peekValue text = .ok (c, rest) := bind_ok mark
  rw [fromEither]
  refine refuses_of_bind_ok value ?_
  split
  · contradiction
  · contradiction
  · exact refuses_mismatch _ _

theorem document_refuses {read : Reader α} (refuses : Refuses read text) : ∃ e, document read text = .error e := by
  obtain ⟨stop, refused⟩ := refuses
  exact ⟨_, document_error refused⟩

/-! ### Members -/

section
variable {member : String → σ → Reader σ} {acc mid : σ} {ms : List (String × Json)}

/-- Of the members `ms`, one after another from `acc` on, one is refused. -/
inductive Stops (member : String → σ → Reader σ) : σ → List (String × Json) → Prop
  | head {name : String} {v : Json} {ms : List (String × Json)} {acc : σ}
      (refuses : ∀ rest, Delimited rest → Refuses (member name acc) (0x3A :: (octets v.write ++ rest))) :
      Stops member acc ((name, v) :: ms)
  | tail {name : String} {v : Json} {ms : List (String × Json)} {acc mid : σ}
      (head : Takes member name v acc mid) (tail : Stops member mid ms) : Stops member acc ((name, v) :: ms)

theorem Gathers.append {acc' : σ} {ms' : List (String × Json)} (gathers : Gathers member acc ms mid)
    (more : Gathers member mid ms' acc') : Gathers member acc (ms ++ ms') acc' := by
  induction gathers with
  | nil => exact more
  | cons head _ ih => exact .cons head (ih more)

theorem Gathers.stops {ms' : List (String × Json)} (gathers : Gathers member acc ms mid)
    (stops : Stops member mid ms') : Stops member acc (ms ++ ms') := by
  induction gathers with
  | nil => exact stops
  | cons head _ ih => exact .tail head (ih stops)

theorem membersWithin_stops (stops : Stops member acc ms) (rest : Bytes) {fuel : Nat} (enough : ms.length < fuel) :
    Refuses (membersWithin member fuel false acc) (moreMembers ms ++ 0x7D :: rest) := by
  induction stops generalizing fuel with
  | head refuses =>
    obtain ⟨fuel, rfl⟩ : ∃ n, fuel = n + 1 := ⟨fuel - 1, by omega⟩
    rw [Refuses, membersWithin_announced (anotherMember_later ..)]
    exact (refuses _ (delimited_moreMembers _ rest)).bind
  | tail head _ ih =>
    obtain ⟨fuel, rfl⟩ : ∃ n, fuel = n + 1 := ⟨fuel - 1, by omega⟩
    rw [Refuses, membersWithin_announced (anotherMember_later ..), bind_ok (head _ (delimited_moreMembers _ rest))]
    exact ih (by simpa using enough)

theorem members_stops (stops : Stops member acc ms) (rest : Bytes) :
    Refuses (members member acc) (octets (writeMembers ms) ++ 0x7D :: rest) := by
  cases stops with
  | head refuses =>
    rw [Refuses, members, octets_writeMembers, List.cons_append, List.append_assoc,
      membersWithin_announced (anotherMember_first _)]
    exact (refuses _ (delimited_moreMembers _ rest)).bind
  | @tail _ _ ms _ _ head more =>
    have enough := length_le_moreMembers ms
    rw [Refuses, members, octets_writeMembers, List.cons_append, List.append_assoc,
      membersWithin_announced (anotherMember_first _), bind_ok (head _ (delimited_moreMembers _ rest))]
    exact membersWithin_stops more rest (by simp only [List.length_append, List.length_cons]; omega)

end

end GracefulDrain.Json.Reader
