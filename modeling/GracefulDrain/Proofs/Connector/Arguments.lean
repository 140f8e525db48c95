import GracefulDrain.Connector.Arguments
import GracefulDrain.Process.Command
import GracefulDrain.Proofs.Text.Numeral
import GracefulDrain.Proofs.Text.Utf8

/-! # A connector reads what it has been asked

A supervisor writes the command line that the stand-in connector reads. Both pass over it piece by piece:
`Extends i args j` says that a reader who has read `i` has read `j` after `args`, pieces are put together by
`Extends.append`, and each piece that is written has its own lemma. A value is never mistaken for a flag,
since a flag takes whatever stands behind it. Only the last word can, and it is a flag without a value
then. -/

namespace GracefulDrain

namespace Connector
variable {i j k : Invocation} {flag : Flag}

@[simp] theorem Flag.ofName?_name (flag : Flag) : Flag.ofName? flag.name = some flag := by
  cases flag <;> rfl

theorem Flag.name_of_ofName? {s : String} (h : Flag.ofName? s = some flag) : s = flag.name := by
  unfold Flag.ofName? at h
  repeat' split at h
  all_goals cases h
  all_goals assumption

/-- A word that is no flag. -/
def IsWord (s : String) : Prop := ∀ flag : Flag, s ≠ flag.name

theorem IsWord.ofName? {s : String} (h : IsWord s) : Flag.ofName? s = none := by
  cases named : Flag.ofName? s with
  | none => rfl
  | some flag => exact absurd (Flag.name_of_ofName? named) (h flag)

namespace Invocation

/-- After `args`, a reader who has read `i` has read `j`. -/
def Extends (i : Invocation) (args : List String) (j : Invocation) : Prop := i.extend args = .ok j

theorem extend_flag (i : Invocation) (flag : Flag) (value : String) (rest : List String) :
    i.extend (flag.name :: value :: rest) =
      match flag.set value i with
      | .ok j => j.extend rest
      | .error fault => .error fault := by
  cases set : flag.set value i with
  | error fault => simp only [extend, Flag.ofName?_name, set]
  | ok j => simp only [extend, Flag.ofName?_name, set]

theorem extend_word (i : Invocation) {word : String} (h : IsWord word) (rest : List String) :
    i.extend (word :: rest) = { i with words := i.words ++ [word] }.extend rest := by
  rw [extend, h.ofName?]

/-- A flag at the end lacks its value. -/
theorem extend_flag_alone (i : Invocation) (flag : Flag) :
    i.extend [flag.name] = .error (.missingValue flag.name) := by
  rw [extend, Flag.ofName?_name]

namespace Extends

theorem nil (i : Invocation) : i.Extends [] i := rfl

theorem flagged {value : String} (set : flag.set value i = .ok j) : i.Extends [flag.name, value] j := by
  rw [Extends, extend_flag, set]
  rfl

theorem words {words : List String} (h : ∀ word ∈ words, IsWord word) :
    i.Extends words { i with words := i.words ++ words } := by
  induction words generalizing i with
  | nil =>
    rw [List.append_nil]
    exact nil i
  | cons word rest ih =>
    obtain ⟨hw, h⟩ := List.forall_mem_cons.1 h
    rw [Extends, extend_word i hw, ih h]
    simp

/-- What stands behind `args` is read as it is by a reader who has read `j`: no flag of `args` takes its
value from there. -/
theorem extend_append {args : List String} (h : i.Extends args j) (rest : List String) :
    i.extend (args ++ rest) = j.extend rest := by
  unfold Extends at h
  -- the cases of a reader: nothing is left, a word, a flag alone, a flag with a value that fits or does not
  fun_induction Invocation.extend i args with
  | case1 i =>
    cases h
    rfl
  | case2 i arg args unnamed ih =>
    rw [List.cons_append, Invocation.extend, unnamed]
    exact ih h
  | case3 i arg flag named => cases h
  | case4 i arg flag named value args i' set ih =>
    rw [List.cons_append, List.cons_append, Invocation.extend, named]
    simp only [set]
    exact ih h
  | case5 i arg flag named value args fault set => cases h

theorem append {args rest : List String} (h : i.Extends args j) (h' : j.Extends rest k) :
    i.Extends (args ++ rest) k := (h.extend_append rest).trans h'

end Extends

/-! ### The pieces of a command line -/

theorem extends_configFlag (i : Invocation) (c : ProcessConfig) :
    i.Extends c.configFlag
      { i with configPath := (c.configPath.map Utf8.decodeLossy).or i.configPath } := by
  unfold ProcessConfig.configFlag
  cases c.configPath with
  | none => exact .nil i
  | some path =>
    show i.Extends [Flag.config.name, Utf8.decodeLossy path] _
    exact .flagged rfl

theorem extends_certFlag (i : Invocation) (cert : Option String) :
    i.Extends (ProcessConfig.certFlag cert)
      { i with originCert := (cert.filter (· ≠ "")).or i.originCert } := by
  cases cert with
  | none => exact .nil i
  | some cert =>
    by_cases empty : cert = ""
    · subst empty
      exact .nil i
    · have flagged : ProcessConfig.certFlag (some cert) = [Flag.originCert.name, cert] := by
        have full : cert.isEmpty = false := by simpa using empty
        simp only [ProcessConfig.certFlag, full]
        rfl
      have kept : (some cert).filter (· ≠ "") = some cert := Option.filter_some_pos (by simpa using empty)
      rw [flagged, kept]
      exact .flagged rfl

theorem set_connections (i : Invocation) (n : UInt32) :
    Flag.connections.set (toString n.toNat) i = .ok { i with connections := some n } := by
  have bound : n.toNat ≤ UInt32.size - 1 := Nat.le_pred_of_lt n.toNat_lt
  have back : n.toNat.toUInt32 = n := UInt32.ofNat_toNat
  simp only [Flag.set, Numeral.parse_toString bound, back]

/-- The words behind `run` for connections that have been asked for one after another. -/
theorem runArgs_foldl (c : ProcessConfig) (connections : List UInt32) :
    (connections.foldl ProcessConfig.withConnections c).runArgs =
      c.runArgs ++ connections.flatMap fun n => [Flag.connections.name, toString n.toNat] := by
  induction connections generalizing c with
  | nil => simp
  | cons n rest ih =>
    rw [List.foldl_cons, ih, List.flatMap_cons, ← List.append_assoc]
    rfl

theorem configPath_foldl (c : ProcessConfig) (connections : List UInt32) :
    (connections.foldl ProcessConfig.withConnections c).configPath = c.configPath := by
  induction connections generalizing c with
  | nil => rfl
  | cons n rest ih => exact ih _

theorem extends_connections (i : Invocation) (connections : List UInt32) :
    i.Extends (connections.flatMap fun n => [Flag.connections.name, toString n.toNat])
      { i with connections := connections.getLast?.or i.connections } := by
  induction connections generalizing i with
  | nil => exact .nil i
  | cons n rest ih =>
    rw [List.flatMap_cons]
    have last : (n :: rest).getLast?.or i.connections = rest.getLast?.or (some n) := by
      cases rest <;> simp [List.getLast?_cons]
    rw [last]
    exact (Extends.flagged (set_connections i n)).append (ih _)

end Invocation
end Connector

/-- What a supervisor can ask a connector for. -/
inductive Request
  | run
  | inspect
  | list
  | info (tunnel : String)
  | token (tunnel : String)

namespace Request
open Connector

def mode : Request → CommandMode
  | .run => .run
  | .inspect => .inspect
  | .list => .list
  | .info tunnel => .info tunnel
  | .token tunnel => .token tunnel

/-- The tunnel that the request names. -/
def tunnel? : Request → Option String
  | .info tunnel | .token tunnel => some tunnel
  | _ => none

/-- The words that a connector is to read. -/
def words : Request → List String
  | .run => ["tunnel", "run"]
  | .inspect => ["tunnel"]
  | .list => ["tunnel", "list"]
  | .info tunnel => ["tunnel", "info", tunnel]
  | .token tunnel => ["tail", "token", tunnel]

/-- The words in front of the tunnel, without the scope of the command. -/
def front : Request → List String
  | .run => ["run"]
  | .inspect => []
  | .list => ["list"]
  | .info _ => ["info"]
  | .token _ => ["tail", "token"]

theorem words_eq (request : Request) :
    request.words = request.mode.scope ++ (request.front ++ request.tunnel?.toList) := by
  cases request <;> rfl

/-- The number of connections that a connector is to read: a server's is the last one asked for. -/
def connections? (request : Request) (connections : List UInt32) : Option UInt32 :=
  match request with
  | .run => connections.getLast?
  | _ => none

end Request

namespace Connector.Invocation
variable {i : Invocation}

theorem isWord_scope (mode : CommandMode) : ∀ word ∈ mode.scope, IsWord word := by
  have tunnel : IsWord "tunnel" := fun flag => by cases flag <;> decide
  intro word hw
  unfold CommandMode.scope at hw
  split at hw
  · cases hw
  · rwa [List.mem_singleton.1 hw]

/-- The flags in front of the words of a command are read with their values. -/
theorem extends_flags (c : ProcessConfig) (cert : Option String) (mode : CommandMode) :
    Extends {} (mode.scope ++ (c.configFlag ++ ProcessConfig.certFlag cert))
      { configPath := c.configPath.map Utf8.decodeLossy, originCert := cert.filter (· ≠ ""), words := mode.scope } := by
  have scope : Extends {} mode.scope { words := mode.scope } := Extends.words (isWord_scope mode)
  have config := extends_configFlag { words := mode.scope } c
  rw [Option.or_none] at config
  have credential := extends_certFlag
    { configPath := c.configPath.map Utf8.decodeLossy, words := mode.scope } cert
  rw [Option.or_none] at credential
  exact scope.append (config.append credential)

/-- Up to the tunnel that a request may name, its words are read back. -/
theorem extends_front (i : Invocation) (c : ProcessConfig) {connections : List UInt32} (request : Request)
    (runArgs : c.runArgs = connections.flatMap fun n => [Flag.connections.name, toString n.toNat]) :
    ∃ args, request.mode.words c = args ++ request.tunnel?.toList ∧
      i.Extends args
        { i with
          connections := (request.connections? connections).or i.connections
          words := i.words ++ request.front } := by
  have word {s : String} (h : ∀ flag : Flag, s ≠ flag.name) {j : Invocation} :
      j.Extends [s] { j with words := j.words ++ [s] } := Extends.words (List.forall_mem_singleton.2 h)
  have format {j : Invocation} : j.Extends [Flag.output.name, "json"] j := Extends.flagged rfl
  cases request with
  | run =>
    have run := word (s := "run") (fun flag => by cases flag <;> decide) (j := i)
    refine ⟨"run" :: c.runArgs, (List.append_nil _).symm, ?_⟩
    rw [runArgs]
    exact run.append (extends_connections _ connections)
  | inspect =>
    refine ⟨[], rfl, ?_⟩
    show i.Extends [] { i with words := i.words ++ [] }
    rw [List.append_nil]
    exact .nil i
  | list => exact ⟨["list"] ++ ["--output", "json"], rfl, (word fun flag => by cases flag <;> decide).append format⟩
  | info tunnel =>
    exact ⟨["info"] ++ ["--output", "json"], rfl, (word fun flag => by cases flag <;> decide).append format⟩
  | token tunnel =>
    refine ⟨["tail", "token"], rfl, Extends.words fun s hs flag => ?_⟩
    rcases List.mem_cons.1 hs with rfl | hs
    · cases flag <;> decide
    · rw [List.mem_singleton.1 hs]
      cases flag <;> decide

/-- All but the tunnel is read in any case, and only the tunnel is left. -/
theorem parse_tail_argv (c : ProcessConfig) (cert : Option String) {connections : List UInt32} (request : Request)
    (runArgs : c.runArgs = connections.flatMap fun n => [Flag.connections.name, toString n.toNat]) :
    parse (c.argv cert request.mode).tail = extend
      { configPath := c.configPath.map Utf8.decodeLossy
        originCert := cert.filter (· ≠ "")
        connections := request.connections? connections
        words := request.mode.scope ++ request.front } request.tunnel?.toList := by
  have flags := extends_flags c cert request.mode
  obtain ⟨args, split, front⟩ := extends_front
    { configPath := c.configPath.map Utf8.decodeLossy, originCert := cert.filter (· ≠ ""),
      words := request.mode.scope } c request runArgs
  have written : (c.argv cert request.mode).tail =
      ((request.mode.scope ++ (c.configFlag ++ ProcessConfig.certFlag cert)) ++ args) ++
        request.tunnel?.toList := by
    simp only [ProcessConfig.argv, List.tail_cons, split, List.append_assoc]
  rw [Option.or_none] at front
  rw [parse, written, (flags.append front).extend_append]

/-- A query is read back, whatever words a server would get. -/
theorem parse_query (c : ProcessConfig) (cert : Option String) (request : Request) (query : request ≠ .run)
    (plain : ∀ tunnel ∈ request.tunnel?, IsWord tunnel) :
    parse (c.argv cert request.mode).tail = .ok
      { configPath := c.configPath.map Utf8.decodeLossy
        originCert := cert.filter (· ≠ "")
        words := request.words } := by
  have same : c.argv cert request.mode = { c with runArgs := [] }.argv cert request.mode := by
    cases request with
    | run => exact absurd rfl query
    | _ => rfl
  have unserved : request.connections? [] = none := by cases request <;> rfl
  have tunnel : ∀ word ∈ request.tunnel?.toList, IsWord word := fun word hw => plain word (Option.mem_toList.1 hw)
  have before := parse_tail_argv { c with runArgs := [] } cert request (List.flatMap_nil ..).symm
  rw [same, before, unserved, Extends.words tunnel, request.words_eq, List.append_assoc]

/-- A connector reads what a supervisor has written: the path, the credential unless it is empty, for a server
the last number of connections, and the words of the request, whatever the values look like. The only thing
that can go wrong is that the tunnel's name is one of the four flags, which then lacks its value. -/
theorem parse_argv (base : ProcessConfig) (path cert : Option String) (connections : List UInt32)
    (request : Request) :
    let c := connections.foldl ProcessConfig.withConnections
      { base with configPath := path.map Utf8.encode, runArgs := [] }
    let read := parse (c.argv cert request.mode).tail
    (∀ flag : Flag, request.tunnel? = some flag.name → read = .error (.missingValue flag.name)) ∧
      ((∀ flag : Flag, request.tunnel? ≠ some flag.name) →
        read = .ok {
          configPath := path
          originCert := cert.filter (· ≠ "")
          connections := request.connections? connections
          words := request.words }) := by
  intro c read
  have runArgs : c.runArgs = connections.flatMap fun n => [Flag.connections.name, toString n.toNat] :=
    runArgs_foldl _ connections
  have configPath : c.configPath.map Utf8.decodeLossy = path := by
    have kept : c.configPath = path.map Utf8.encode := configPath_foldl _ connections
    rw [kept, Option.map_map]
    cases path with
    | none => rfl
    | some path => exact congrArg some (Utf8.decodeLossy_encode path)
  have before := parse_tail_argv c cert request runArgs
  rw [configPath] at before
  refine ⟨fun flag named => ?_, fun plain => ?_⟩
  · show parse _ = _
    rw [before, named]
    exact extend_flag_alone _ flag
  · have tunnel : ∀ word ∈ request.tunnel?.toList, IsWord word := by
      intro word hw flag same
      exact plain flag (by rw [← same]; exact Option.mem_toList.1 hw)
    show parse _ = _
    rw [before, Extends.words tunnel, request.words_eq, List.append_assoc]

/-- A path and a credential that look like flags are read back, and so is the last of two numbers. A tunnel that
is called like a flag is not. -/
theorem parse_argv_of_flag_like_values :
    let c : ProcessConfig := { binary := [], configPath := some (Utf8.encode "--output") }
    let serve := ((c.withConnections 1).withConnections 7).argv (some "--config") .run
    parse serve.tail =
        .ok ⟨some "--output", some "--config", some 7, ["tunnel", "run"]⟩ ∧
      parse (c.argv none (.info "--config")).tail = .error (.missingValue "--config") := by
  intro c serve
  have served := (parse_argv { binary := [] } (some "--output") (some "--config") [1, 7] .run).2 fun _ => nofun
  have collided := (parse_argv { binary := [] } (some "--output") none [] (.info "--config")).1 .config rfl
  exact ⟨served, collided⟩

end Connector.Invocation

end GracefulDrain
