import GracefulDrain.Proofs.Connector.Arguments
import Mathlib.Data.List.Forall2

/-! # Command lines compose

A command line is made of pieces, each a word or a flag with its value, and what is read from it is what the
pieces say, one laid over the other (`Invocation.overlay`). A reader who has read something before reads the
same pieces and meets the same faults (`extend_overlay`). The pieces of a command line that is accepted are
determined by its arguments, and of several flags of a kind the last one counts (`exists_pieces`). -/

namespace GracefulDrain.Connector
variable {i j x y : Invocation} {flag : Flag} {value : String} {args : List String}

namespace Invocation

/-- What is said by `x` and then by `y`: where both say something, `y` counts. -/
def overlay (x y : Invocation) : Invocation where
  configPath := y.configPath.or x.configPath
  originCert := y.originCert.or x.originCert
  connections := y.connections.or x.connections
  words := x.words ++ y.words

@[simp] theorem overlay_empty (x : Invocation) : x.overlay {} = x := by
  simp [overlay]

@[simp] theorem empty_overlay (x : Invocation) : ({} : Invocation).overlay x = x := by
  simp [overlay]

theorem overlay_assoc (x y z : Invocation) : (x.overlay y).overlay z = x.overlay (y.overlay z) := by
  simp [overlay, Option.or_assoc]

end Invocation

open Invocation

/-- A flag sets what it sets in any case, or is refused in any case. -/
theorem Flag.set_overlay (flag : Flag) (value : String) (i j : Invocation) :
    flag.set value (i.overlay j) = (flag.set value j).map i.overlay := by
  cases flag with
  | config => rfl
  | originCert => rfl
  | output =>
    simp only [Flag.set]
    split <;> rfl
  | connections =>
    simp only [Flag.set]
    split <;> rfl

/-- What has been read before has no part in how the arguments are read. -/
theorem Invocation.extend_overlay (i j : Invocation) (args : List String) :
    (i.overlay j).extend args = (j.extend args).map i.overlay := by
  -- the cases of a reader: nothing is left, a word, a flag alone, a flag with a value that fits or does not
  fun_induction Invocation.extend j args with
  | case1 j => rfl
  | case2 j word rest unnamed ih =>
    have moved : { i.overlay j with words := (i.overlay j).words ++ [word] } =
        i.overlay { j with words := j.words ++ [word] } := overlay_assoc i j { words := [word] }
    rw [extend, unnamed]
    simp only
    rw [moved, ih]
  | case3 j arg flag named =>
    rw [extend, named]
    rfl
  | case4 j arg flag named value rest j' set ih =>
    rw [extend, named]
    simp only [flag.set_overlay, set, Except.map]
    exact ih
  | case5 j arg flag named value rest fault set =>
    rw [extend, named]
    simp only [flag.set_overlay, set, Except.map]

theorem Invocation.extend_eq_map_parse (i : Invocation) (args : List String) :
    i.extend args = (parse args).map i.overlay := by
  have read := i.extend_overlay {} args
  rwa [overlay_empty] at read

/-! ### Pieces -/

/-- What stands on its own in a command line. -/
inductive Piece
  | word (s : String)
  | flagged (flag : Flag) (value : String)

namespace Piece

def arguments : Piece → List String
  | word s => [s]
  | flagged flag value => [flag.name, value]

/-- No word is taken for a flag. -/
def IsPlain : Piece → Prop
  | word s => IsWord s
  | flagged _ _ => True

def word? : Piece → Option String
  | word s => some s
  | flagged _ _ => none

/-- The value that a piece gives to `flag`. -/
def value? (flag : Flag) : Piece → Option String
  | word _ => none
  | flagged flag' value => if flag' = flag then some value else none

end Piece

/-- The values of `flag`, in the order in which they stand. -/
def values (flag : Flag) (pieces : List Piece) : List String := pieces.filterMap (Piece.value? flag)

/-- What an accepted command line of `pieces` tells: all the words, and the last value of each flag. -/
structure Tell (pieces : List Piece) (x : Invocation) : Prop where
  plain : ∀ piece ∈ pieces, piece.IsPlain
  words : x.words = pieces.filterMap Piece.word?
  configPath : x.configPath = (values .config pieces).getLast?
  originCert : x.originCert = (values .originCert pieces).getLast?
  formats : ∀ format ∈ values .output pieces, format = "json"
  connections : ∃ numbers : List UInt32,
    List.Forall₂ (fun raw n => Numeral.Spells (UInt32.size - 1) raw.toList n.toNat)
      (values .connections pieces) numbers ∧ x.connections = numbers.getLast?

variable {pieces pieces' : List Piece}

theorem tell_nil : Tell [] {} := ⟨nofun, rfl, rfl, rfl, nofun, [], .nil, rfl⟩

theorem tell_word {s : String} (plain : IsWord s) : Tell [.word s] { words := [s] } :=
  ⟨List.forall_mem_singleton.2 plain, rfl, rfl, rfl, nofun, [], .nil, rfl⟩

theorem tell_config (path : String) : Tell [.flagged .config path] { configPath := some path } :=
  ⟨List.forall_mem_singleton.2 trivial, rfl, rfl, rfl, nofun, [], .nil, rfl⟩

theorem tell_originCert (cert : String) : Tell [.flagged .originCert cert] { originCert := some cert } :=
  ⟨List.forall_mem_singleton.2 trivial, rfl, rfl, rfl, nofun, [], .nil, rfl⟩

theorem tell_output : Tell [.flagged .output "json"] {} :=
  ⟨List.forall_mem_singleton.2 trivial, rfl, rfl, rfl, List.forall_mem_singleton.2 rfl, [], .nil, rfl⟩

theorem tell_connections {raw : String} {n : UInt32}
    (spelled : Numeral.Spells (UInt32.size - 1) raw.toList n.toNat) :
    Tell [.flagged .connections raw] { connections := some n } :=
  ⟨List.forall_mem_singleton.2 trivial, rfl, rfl, rfl, nofun, [n], .cons spelled .nil, rfl⟩

theorem values_append (flag : Flag) (pieces pieces' : List Piece) :
    values flag (pieces ++ pieces') = values flag pieces ++ values flag pieces' := List.filterMap_append

theorem Tell.append (h : Tell pieces x) (h' : Tell pieces' y) : Tell (pieces ++ pieces') (x.overlay y) where
  plain := List.forall_mem_append.2 ⟨h.plain, h'.plain⟩
  words := by rw [List.filterMap_append, ← h.words, ← h'.words, overlay]
  configPath := by rw [values_append, List.getLast?_append, ← h.configPath, ← h'.configPath, overlay]
  originCert := by rw [values_append, List.getLast?_append, ← h.originCert, ← h'.originCert, overlay]
  formats := by
    rw [values_append]
    exact List.forall_mem_append.2 ⟨h.formats, h'.formats⟩
  connections := by
    obtain ⟨numbers, spelled, last⟩ := h.connections
    obtain ⟨numbers', spelled', last'⟩ := h'.connections
    refine ⟨numbers ++ numbers', ?_, ?_⟩
    · rw [values_append]
      exact List.rel_append spelled spelled'
    · rw [List.getLast?_append, ← last, ← last', overlay]

theorem Flag.tell_of_set (set : flag.set value i = .ok j) :
    ∃ x, Tell [.flagged flag value] x ∧ j = i.overlay x := by
  cases flag with
  | config =>
    cases set
    exact ⟨_, tell_config value, by simp [overlay]⟩
  | originCert =>
    cases set
    exact ⟨_, tell_originCert value, by simp [overlay]⟩
  | output =>
    simp only [Flag.set] at set
    split at set
    case isTrue json =>
      cases set
      exact ⟨{}, json ▸ tell_output, (overlay_empty i).symm⟩
    case isFalse => cases set
  | connections =>
    simp only [Flag.set] at set
    split at set
    case h_1 n parsed =>
      cases set
      have spelled := Numeral.parse_eq_ok_iff.1 parsed
      have small : n < UInt32.size := Nat.lt_of_le_pred (by decide) spelled.le
      refine ⟨{ connections := some n.toUInt32 }, tell_connections ?_, by simp [overlay]⟩
      rwa [show n.toUInt32.toNat = n from UInt32.toNat_ofNat_of_lt' small]
    case h_2 => cases set

/-- Whatever is accepted is made of pieces. -/
theorem exists_pieces (read : i.Extends args j) :
    ∃ pieces x, args = pieces.flatMap Piece.arguments ∧ Tell pieces x ∧ j = i.overlay x := by
  unfold Extends at read
  fun_induction Invocation.extend i args with
  | case1 i =>
    cases read
    exact ⟨[], {}, rfl, tell_nil, (overlay_empty j).symm⟩
  | case2 i word rest unnamed ih =>
    obtain ⟨pieces, x, rfl, tell, rfl⟩ := ih read
    have plain : IsWord word := fun flag same => by
      rw [same, Flag.ofName?_name] at unnamed
      cases unnamed
    have told := (tell_word plain).append tell
    exact ⟨.word word :: pieces, _, rfl, told, overlay_assoc i { words := [word] } x⟩
  | case3 i arg flag named => cases read
  | case4 i arg flag named value rest i' set ih =>
    obtain ⟨pieces, x, rfl, tell, rfl⟩ := ih read
    obtain ⟨y, tells, rfl⟩ := flag.tell_of_set set
    refine ⟨.flagged flag value :: pieces, _, ?_, tells.append tell, overlay_assoc i y x⟩
    rw [Flag.name_of_ofName? named]
    rfl
  | case5 i arg flag named value rest fault set => cases read

/-- No piece is a front of another one with its followers. -/
theorem arguments_append_inj {piece piece' : Piece} {rest rest' : List String}
    (plain : piece.IsPlain) (plain' : piece'.IsPlain)
    (same : piece.arguments ++ rest = piece'.arguments ++ rest') : piece = piece' ∧ rest = rest' := by
  cases piece with
  | word s =>
    cases piece' with
    | word s' =>
      obtain ⟨rfl, rfl⟩ := List.cons.inj same
      exact ⟨rfl, rfl⟩
    | flagged flag value => exact absurd (List.cons.inj same).1 (plain flag)
  | flagged flag value =>
    cases piece' with
    | word s' => exact absurd (List.cons.inj same).1.symm (plain' flag)
    | flagged flag' value' =>
      obtain ⟨named, behind⟩ := List.cons.inj same
      obtain ⟨rfl, rfl⟩ := List.cons.inj behind
      have read := congrArg Flag.ofName? named
      rw [Flag.ofName?_name, Flag.ofName?_name] at read
      cases read
      exact ⟨rfl, rfl⟩

/-- The arguments determine the pieces. -/
theorem pieces_unique (plain : ∀ piece ∈ pieces, piece.IsPlain) (plain' : ∀ piece ∈ pieces', piece.IsPlain)
    (same : pieces.flatMap Piece.arguments = pieces'.flatMap Piece.arguments) : pieces = pieces' := by
  have nonempty (piece : Piece) (rest : List String) : piece.arguments ++ rest ≠ [] := by
    cases piece <;> exact List.cons_ne_nil _ _
  induction pieces generalizing pieces' with
  | nil =>
    cases pieces' with
    | nil => rfl
    | cons piece rest => exact absurd same.symm (nonempty piece _)
  | cons piece rest ih =>
    cases pieces' with
    | nil => exact absurd same (nonempty piece _)
    | cons piece' rest' =>
      obtain ⟨here, later⟩ := List.forall_mem_cons.1 plain
      obtain ⟨here', later'⟩ := List.forall_mem_cons.1 plain'
      rw [List.flatMap_cons, List.flatMap_cons] at same
      obtain ⟨first, behind⟩ := arguments_append_inj here here' same
      rw [first, ih later later' behind]

namespace Invocation

/-- A command line that has been accepted can be gone on with: what follows is read as if it stood alone, a fault in it
is the fault of the whole, and what it says is laid over what has been said. An accepted command line falls into words
and flags with their values in just one way; it has said all the words in order, and the last value of each flag. -/
theorem parse_of_append {front : List String} (read : parse front = .ok x) (back : List String) :
    (∀ fault, parse back = .error fault → parse (front ++ back) = .error fault) ∧
      (∀ y, parse back = .ok y → parse (front ++ back) = .ok {
        configPath := y.configPath.or x.configPath
        originCert := y.originCert.or x.originCert
        connections := y.connections.or x.connections
        words := x.words ++ y.words }) ∧
      ∃ pieces, front = pieces.flatMap Piece.arguments ∧ Tell pieces x ∧
        ∀ pieces' : List Piece, front = pieces'.flatMap Piece.arguments → (∀ piece ∈ pieces', piece.IsPlain) →
          pieces' = pieces := by
  have extends_front : Extends {} front x := read
  have whole : parse (front ++ back) = (parse back).map x.overlay :=
    (extends_front.extend_append back).trans (x.extend_eq_map_parse back)
  refine ⟨fun fault refused => ?_, fun y read' => ?_, ?_⟩
  · rw [whole, refused]
    rfl
  · rw [whole, read']
    rfl
  · obtain ⟨pieces, y, split, tell, same⟩ := exists_pieces extends_front
    rw [empty_overlay] at same
    subst same
    refine ⟨pieces, split, tell, fun pieces' split' plain => ?_⟩
    exact pieces_unique plain tell.plain (split'.symm.trans split)

/-- A value that looks like a flag stays where it is, a number is set anew, and a word that comes later is the last. -/
theorem parse_of_append_of_flag_like_value :
    let front := ["--config", "--output", "tunnel", "--ha-connections", "2"]
    let back := ["--ha-connections", "+07", "--output", "json", "run", "--origincert", ""]
    parse front = .ok ⟨some "--output", none, some 2, ["tunnel"]⟩ ∧
      parse (front ++ back) = .ok ⟨some "--output", some "", some 7, ["tunnel", "run"]⟩ ∧
      parse (front ++ ["--config"]) = .error (.missingValue "--config") ∧
      Tell [.flagged .config "--output", .word "tunnel", .flagged .connections "2"]
        ⟨some "--output", none, some 2, ["tunnel"]⟩ := by
  intro front back
  have read : parse front = .ok ⟨some "--output", none, some 2, ["tunnel"]⟩ := by decide
  have word : IsWord "tunnel" := fun flag => by cases flag <;> decide
  obtain ⟨-, goesOn, pieces, -, tell, only⟩ := parse_of_append read back
  have same : [.flagged .config "--output", .word "tunnel", .flagged .connections "2"] = pieces :=
    only _ rfl (by simp [Piece.IsPlain, word])
  have appended := goesOn ⟨none, some "", some 7, ["run"]⟩ (by decide)
  have refused := (parse_of_append read ["--config"]).1 (.missingValue "--config") (by decide)
  refine ⟨read, appended, refused, ?_⟩
  rw [same]
  exact tell

end Invocation

end GracefulDrain.Connector
