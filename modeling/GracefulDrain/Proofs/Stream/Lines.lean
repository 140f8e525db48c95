import GracefulDrain.Stream.LineCounter

/-! # A count does not depend on the chunks

`LineReport.ofLines` says outright what is reported on a list of lines, and `linesOf` what the lines of a
body are. A counter that takes the body in any chunks reports just that (`report_of_chunks`). The invariant
is `onward`: what the counter would report if the rest of the body came in one piece. -/

namespace GracefulDrain

/-- The pieces between the line feeds of a body, without the last one if it is empty. -/
def linesOf (body : Bytes) : List Bytes :=
  let pieces := body.splitOn 10
  if pieces.getLast? = some [] then pieces.dropLast else pieces

/-- The report on lines without their line ends. The lines in front of the sentinel count, up to the early
stop, which lets one line pass at least. -/
def LineReport.ofLines (earlyStop : Option Nat) (lines : List Bytes) : LineReport :=
  let sentinel := Utf8.encode sentinelLine
  let counted := (lines.takeWhile (· ≠ sentinel)).length
  let whole : LineReport := { lines := counted, sawSentinel := sentinel ∈ lines }
  match earlyStop with
  | none => whole
  | some n => if max n 1 ≤ counted then { lines := max n 1, stoppedEarly := true } else whole

/-! ### The lines of a body -/

theorem bodyLinesFrom_eq (piece body : Bytes) :
    bodyLinesFrom piece body =
      let pieces := List.splitOnPPrepend (· == 10) body piece
      if pieces.getLast? = some [] then pieces.dropLast else pieces := by
  induction body generalizing piece with
  | nil => cases piece <;> simp [bodyLinesFrom]
  | cons b rest ih =>
    by_cases hb : b = 10
    · subst hb
      have cut := List.splitOnP_ne_nil (· == (10 : UInt8)) rest
      simp only [bodyLinesFrom, if_true, ih, List.splitOnPPrepend_cons_pos, beq_self_eq_true,
        List.splitOnPPrepend_nil_right, List.getLast?_cons_of_ne_nil cut, List.dropLast_cons_of_ne_nil cut]
      split <;> rfl
    · rw [bodyLinesFrom, if_neg hb, ih, List.splitOnPPrepend_cons_neg (by simpa using hb)]

theorem bodyLines_eq_linesOf (body : Bytes) : bodyLines body = linesOf body := bodyLinesFrom_eq [] body

/-! ### The scan over lines -/

namespace LineReport

theorem scan_none (k : Nat) (raws : List Bytes) :
    scan none { lines := k } raws =
      let lines := raws.map stripReturn
      { lines := k + (lines.takeWhile (· ≠ Utf8.encode sentinelLine)).length
        sawSentinel := Utf8.encode sentinelLine ∈ lines } := by
  induction raws generalizing k with
  | nil => simp [scan]
  | cons raw rest ih =>
    by_cases hs : stripReturn raw = Utf8.encode sentinelLine
    · simp [scan, line, hs]
    · have next : line { lines := k } none raw = ({ lines := k + 1 }, .more) := by simp [line, hs]
      simp only [scan, next, ih]
      simp [hs, Ne.symm hs, Nat.add_assoc, Nat.add_comm]

theorem scan_some (n k : Nat) (raws : List Bytes) :
    scan (some n) { lines := k } raws =
      let lines := raws.map stripReturn
      let counted := (lines.takeWhile (· ≠ Utf8.encode sentinelLine)).length
      if max n (k + 1) ≤ k + counted then { lines := max n (k + 1), stoppedEarly := true }
      else { lines := k + counted, sawSentinel := Utf8.encode sentinelLine ∈ lines } := by
  have beyond (k : Nat) : ¬ max n (k + 1) ≤ k := by omega
  induction raws generalizing k with
  | nil =>
    simp only [scan, List.map_nil, List.takeWhile_nil, List.length_nil, Nat.add_zero, if_neg (beyond k)]
    rfl
  | cons raw rest ih =>
    by_cases hs : stripReturn raw = Utf8.encode sentinelLine
    · have before : (stripReturn raw :: rest.map stripReturn).takeWhile (· ≠ Utf8.encode sentinelLine) = [] :=
        List.takeWhile_cons_of_neg (by simp [hs])
      have hit : line { lines := k } (some n) raw = ({ lines := k, sawSentinel := true }, .stop) := by
        simp [line, hs]
      simp only [scan, hit, List.map_cons, before, List.length_nil, Nat.add_zero, if_neg (beyond k)]
      simp [hs]
    · by_cases hn : n ≤ k + 1
      · have last : line { lines := k } (some n) raw = ({ lines := k + 1, stoppedEarly := true }, .stop) := by
          simp [line, hs, hn]
        simp [scan, last, hs, Nat.max_eq_right hn]
      · have next : line { lines := k } (some n) raw = ({ lines := k + 1 }, .more) := by
          simp [line, hs, hn]
        have bound : max n (k + 1 + 1) = max n (k + 1) := by omega
        simp only [scan, next, ih, bound]
        simp [hs, Ne.symm hs, Nat.add_assoc, Nat.add_comm]

theorem scan_eq_ofLines (earlyStop : Option Nat) (raws : List Bytes) :
    scan earlyStop {} raws = ofLines earlyStop (raws.map stripReturn) := by
  cases earlyStop with
  | none => rw [scan_none]; simp [ofLines]
  | some n => rw [scan_some]; simp [ofLines]

/-- A line either leaves both flags down or stops the count. -/
theorem isDone_line (r : LineReport) (earlyStop : Option Nat) (raw : Bytes) (fresh : r.isDone = false) :
    (r.line earlyStop raw).1.isDone = ((r.line earlyStop raw).2 == .stop) := by
  unfold line
  split
  · simp [isDone]
  · dsimp only
    split
    · simp [isDone]
    · exact fresh

end LineReport

/-! ### A counter -/

namespace LineCounter
variable {c c' : LineCounter}

/-- The report if the rest of the body comes in one piece. -/
def onward (c : LineCounter) (body : Bytes) : LineReport :=
  c.report.scan c.earlyStop (bodyLinesFrom c.piece body)

/-- A chunk leaves a counter with the same report onward, or stops it with the report it would make of any
body that begins with the chunk. -/
theorem onward_feed (c : LineCounter) (chunk : Bytes) (fresh : c.report.isDone = false) :
    match c.feed chunk with
    | (c', .more) => c'.report.isDone = false ∧ ∀ body, c.onward (chunk ++ body) = c'.onward body
    | (c', .stop) => c'.piece = [] ∧ ∀ body, c.onward (chunk ++ body) = c'.report := by
  -- a line feed ends the piece and makes a line of it, any other octet only joins the piece
  induction chunk generalizing c with
  | nil => exact ⟨fresh, fun _ => rfl⟩
  | cons b rest ih =>
    by_cases hb : b = 10
    · subst hb
      have flag := c.report.isDone_line c.earlyStop c.piece.reverse fresh
      rcases hl : c.report.line c.earlyStop c.piece.reverse with ⟨report, _ | _⟩
      · rw [hl] at flag
        have := ih { c with piece := [], report } flag
        simpa [feed, hl, onward, bodyLinesFrom, LineReport.scan] using this
      · simp [feed, hl, onward, bodyLinesFrom, LineReport.scan]
    · have := ih { c with piece := b :: c.piece } fresh
      simpa [feed, hb, onward, bodyLinesFrom] using this

theorem finish_eq_onward (fresh : c.report.isDone = false) : c.finish = c.onward [] := by
  cases hp : c.piece with
  | nil => simp [finish, onward, bodyLinesFrom, LineReport.scan, hp]
  | cons b piece =>
    rcases hl : c.report.line c.earlyStop (b :: piece).reverse with ⟨report, _ | _⟩ <;>
      rw [List.reverse_cons] at hl <;>
      simp [finish, onward, bodyLinesFrom, LineReport.scan, hp, fresh, hl]

theorem finish_feedAll_eq_onward (c : LineCounter) (chunks : List Bytes) (fresh : c.report.isDone = false) :
    (c.feedAll chunks).finish = c.onward chunks.flatten := by
  induction chunks generalizing c with
  | nil => exact finish_eq_onward fresh
  | cons chunk rest ih =>
    have fed := onward_feed c chunk fresh
    rw [feedAll, List.flatten_cons]
    rcases hf : c.feed chunk with ⟨c', _ | _⟩ <;> rw [hf] at fed
    · exact (ih c' fed.1).trans (fed.2 _).symm
    · rw [fed.2]
      simp [finish, fed.1]

/-- The report on a body that comes in any chunks. -/
theorem finish_feedAll (earlyStop : Option Nat) (chunks : List Bytes) :
    (feedAll { earlyStop } chunks).finish =
      .ofLines earlyStop ((linesOf chunks.flatten).map stripReturn) := by
  rw [finish_feedAll_eq_onward _ _ rfl, ← LineReport.scan_eq_ofLines, ← bodyLines_eq_linesOf]
  rfl

end LineCounter

end GracefulDrain
