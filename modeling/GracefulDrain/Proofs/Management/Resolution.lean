import GracefulDrain.Management.Query
import GracefulDrain.Proofs.Management.Answers
import GracefulDrain.Proofs.Process.Administrative

/-! # Where a management address comes from

A management address takes one question or two. `Asked` lists the ways in which a question can go and `Resolution`
those of the questions together, each with the command lines that are started. -/

namespace GracefulDrain

namespace TunnelClient
variable {σ α : Type}

/-- How a question goes: with what is read from the answer or with a failure, and with the command line that was
started, if there was one. -/
inductive Asked (c : TunnelClient) (host : Host σ) (mode : CommandMode) (parse : String → Except Malformed α)
    (w : σ) : Except Failure α → List (List String) → σ → Prop
  | unreadable {fault : CredentialFault} (resolved : c.store.argv c.config mode = .error fault) :
    c.Asked host mode parse w (.error fault.failure) [] w
  | failed {program : String} {args : List String} {f : Failure} {w' : σ}
    (resolved : c.store.argv c.config mode = .ok (program :: args))
    (ran : Runs host program args c.timeout w (.error f) w') :
    c.Asked host mode parse w (.error f) [program :: args] w'
  | malformed {program : String} {args : List String} {output : CapturedOutput} {m : Malformed} {w' : σ}
    (resolved : c.store.argv c.config mode = .ok (program :: args))
    (ran : Runs host program args c.timeout w (.ok output) w') (parsed : parse output.stdout = .error m) :
    c.Asked host mode parse w (.error (.malformed m)) [program :: args] w'
  | understood {program : String} {args : List String} {output : CapturedOutput} {a : α} {w' : σ}
    (resolved : c.store.argv c.config mode = .ok (program :: args))
    (ran : Runs host program args c.timeout w (.ok output) w') (parsed : parse output.stdout = .ok a) :
    c.Asked host mode parse w (.ok a) [program :: args] w'

/-- Puts a question and reads the answer. -/
def ask (c : TunnelClient) (host : Host σ) (mode : CommandMode) (parse : String → Except Malformed α) :
    Query σ α := do
  decoded (parse (← c.query host mode).output.stdout)

section
variable {c : TunnelClient} {host : Host σ} {mode : CommandMode} {parse : String → Except Malformed α} {w w' : σ}
  {r : Except Failure α} {lines : List (List String)}

theorem exists_argv (c : TunnelClient) (mode : CommandMode) :
    (∃ fault, c.store.argv c.config mode = .error fault) ∨
      ∃ program args, c.store.argv c.config mode = .ok (program :: args) := by
  rw [CredentialStore.argv]
  rcases c.store.resolve c.config with fault | cert
  · exact .inl ⟨fault, rfl⟩
  · exact .inr ⟨_, _, rfl⟩

theorem run_query_error {fault : CredentialFault} (resolved : c.store.argv c.config mode = .error fault) :
    (c.query host mode).run.run w = (.error fault.failure, w) := by
  rw [query, resolved]
  rfl

theorem run_query_ok {line : List String} (resolved : c.store.argv c.config mode = .ok line) :
    (c.query host mode).run.run w = runToCompletion host line c.timeout w := by
  rw [query, resolved]
  rfl

theorem exists_asked (c : TunnelClient) (host : Host σ) (mode : CommandMode) (parse : String → Except Malformed α)
    (w : σ) : ∃ r lines w', c.Asked host mode parse w r lines w' := by
  rcases c.exists_argv mode with ⟨fault, resolved⟩ | ⟨program, args, resolved⟩
  · exact ⟨_, _, _, .unreadable resolved⟩
  · obtain ⟨f | output, w', ran⟩ : ∃ r w', Runs host program args c.timeout w r w' :=
      ⟨_, _, runs_runToCompletion host program args c.timeout w⟩
    · exact ⟨_, _, _, .failed resolved ran⟩
    · cases parsed : parse output.stdout with
      | error m => exact ⟨_, _, _, .malformed resolved ran parsed⟩
      | ok a => exact ⟨_, _, _, .understood resolved ran parsed⟩

theorem Asked.run (h : c.Asked host mode parse w r lines w') : (c.ask host mode parse).run.run w = (r, w') := by
  rw [ask, run_bind]
  cases h with
  | unreadable resolved => rw [run_query_error resolved]
  | failed resolved ran =>
    obtain ⟨f | output, run, same⟩ := ran.run <;> cases same
    rw [run_query_ok resolved, run]
  | malformed resolved ran parsed =>
    obtain ⟨f | output, run, same⟩ := ran.run <;> cases same
    rw [run_query_ok resolved, run]
    simp only [parsed]
    rfl
  | understood resolved ran parsed =>
    obtain ⟨f | output, run, same⟩ := ran.run <;> cases same
    rw [run_query_ok resolved, run]
    simp only [parsed]
    rfl

theorem Asked.logged (h : c.Asked host mode parse w r lines w') (before : List (List String)) :
    c.Asked host.logged mode parse ⟨w, before⟩ r lines ⟨w', before ++ lines⟩ := by
  cases h with
  | unreadable resolved =>
    rw [List.append_nil]
    exact .unreadable resolved
  | failed resolved ran => exact .failed resolved (ran.logged before)
  | malformed resolved ran parsed => exact .malformed resolved (ran.logged before) parsed
  | understood resolved ran parsed => exact .understood resolved (ran.logged before) parsed

theorem Asked.isOfQuery {f : Failure} (h : c.Asked host mode parse w (.error f) lines w') :
    f.isOfQuery ∨ ∃ reason, f = .io reason ∧ host.Fails reason := by
  cases h with
  | unreadable | malformed => exact .inl rfl
  | failed _ ran => exact ran.isOfQuery

end

/-! ### The questions together -/

/-- What comes of a token for a connector. -/
def addressed (scheme : UrlScheme) (managementHost path id : String) :
    Except Failure String → Except Failure String
  | .ok token => .ok (managementUrl scheme managementHost path id token)
  | .error f => .error (.tokenFetch f.message)

/-- How the way to an address goes, with the command lines that are started. -/
inductive Resolution (c : TunnelClient) (host : Host σ) (managementHost : String) (scheme : UrlScheme)
    (path tunnel : String) (w : σ) : Option String → Except Failure String → List (List String) → σ → Prop
  /-- The connector is given, so all that is asked for is a token. -/
  | given {id : String} {r : Except Failure String} {lines : List (List String)} {w' : σ}
    (asked : c.Asked host (.token tunnel) Token.parse w r lines w') :
    c.Resolution host managementHost scheme path tunnel w (some id) (addressed scheme managementHost path id r)
      lines w'
  /-- The tunnel is not described, for a reason that is passed on, and no token is asked for. -/
  | undescribed {f : Failure} {lines : List (List String)} {w' : σ}
    (asked : c.Asked host (.info tunnel) TunnelInfo.parse w (.error f) lines w') :
    c.Resolution host managementHost scheme path tunnel w none (.error f) lines w'
  /-- The tunnel has no connector, and no token is asked for. -/
  | unconnected {info : TunnelInfo} {lines : List (List String)} {w' : σ}
    (asked : c.Asked host (.info tunnel) TunnelInfo.parse w (.ok info) lines w') (noConn : info.conns = []) :
    c.Resolution host managementHost scheme path tunnel w none
      (.error (.tokenFetch s!"tunnel {tunnel} has no connectors")) lines w'
  /-- A token is asked for, and the connector is the first of the tunnel. -/
  | first {info : TunnelInfo} {conn : ConnectorRecord} {conns : List ConnectorRecord} {r : Except Failure String}
    {lines lines' : List (List String)} {w₁ w' : σ}
    (asked : c.Asked host (.info tunnel) TunnelInfo.parse w (.ok info) lines w₁)
    (first : info.conns = conn :: conns) (asked' : c.Asked host (.token tunnel) Token.parse w₁ r lines' w') :
    c.Resolution host managementHost scheme path tunnel w none (addressed scheme managementHost path conn.id r)
      (lines ++ lines') w'

section
variable {c : TunnelClient} {host : Host σ} {scheme : UrlScheme} {managementHost path tunnel : String}
  {explicit : Option String} {w w' : σ} {r : Except Failure String} {lines : List (List String)}

theorem exists_resolution (c : TunnelClient) (host : Host σ) (managementHost : String) (scheme : UrlScheme)
    (path tunnel : String) (w : σ) (explicit : Option String) :
    ∃ r lines w', c.Resolution host managementHost scheme path tunnel w explicit r lines w' := by
  cases explicit with
  | some id =>
    obtain ⟨r, lines, w', asked⟩ := c.exists_asked host (.token tunnel) Token.parse w
    exact ⟨_, _, _, .given asked⟩
  | none =>
    obtain ⟨f | info, lines, w₁, asked⟩ := c.exists_asked host (.info tunnel) TunnelInfo.parse w
    · exact ⟨_, _, _, .undescribed asked⟩
    · cases conns : info.conns with
      | nil => exact ⟨_, _, _, .unconnected asked conns⟩
      | cons conn rest =>
        obtain ⟨r, lines', w', asked'⟩ := c.exists_asked host (.token tunnel) Token.parse w₁
        exact ⟨_, _, _, .first asked conns asked'⟩

theorem Resolution.logged (h : c.Resolution host managementHost scheme path tunnel w explicit r lines w')
    (before : List (List String)) :
    c.Resolution host.logged managementHost scheme path tunnel ⟨w, before⟩ explicit r lines
      ⟨w', before ++ lines⟩ := by
  cases h with
  | given asked => exact .given (asked.logged before)
  | undescribed asked => exact .undescribed (asked.logged before)
  | unconnected asked noConn => exact .unconnected (asked.logged before) noConn
  | first asked first asked' =>
    rw [← List.append_assoc]
    exact .first (asked.logged before) first (asked'.logged _)

/-! What the questions do, one after the other. -/

theorem run_token (asked : c.Asked host (.token tunnel) Token.parse w r lines w') :
    (c.token host tunnel).run.run w =
      (match r with
        | .ok token => .ok token
        | .error f => .error (.tokenFetch f.message), w') := by
  show (observing (c.ask host (.token tunnel) Token.parse) >>= _).run.run w = _
  rw [run_bind, run_observing, asked.run]
  cases r <;> rfl

theorem run_url_given {id : String} (asked : c.Asked host (.token tunnel) Token.parse w r lines w') :
    (do
      let token ← c.token host tunnel
      return managementUrl scheme managementHost path id token : Query σ String).run.run w =
      (addressed scheme managementHost path id r, w') := by
  rw [run_bind, run_token asked]
  cases r <;> rfl

theorem run_connector {described : Except Failure TunnelInfo}
    (asked : c.Asked host (.info tunnel) TunnelInfo.parse w described lines w') :
    (c.connector host tunnel none).run.run w =
      (match described with
        | .error f => .error f
        | .ok info =>
          match info.connectorIds with
          | id :: _ => .ok id
          | [] => .error (.tokenFetch s!"tunnel {tunnel} has no connectors"), w') := by
  have ids : (c.connectorIds host tunnel).run.run w = (described.map TunnelInfo.connectorIds, w') := by
    show (c.ask host (.info tunnel) TunnelInfo.parse >>= _).run.run w = _
    rw [run_bind, asked.run]
    cases described <;> rfl
  rw [connector, run_bind, ids]
  cases described with
  | error f => rfl
  | ok info => cases h : info.connectorIds <;> simp [Except.map, h] <;> rfl

theorem Resolution.run (h : c.Resolution host managementHost scheme path tunnel w explicit r lines w') :
    (c.url host managementHost scheme path tunnel explicit).run.run w = (r, w') := by
  rw [url, run_bind]
  cases h with
  | given asked => exact run_url_given asked
  | undescribed asked => rw [run_connector asked]
  | unconnected asked noConn =>
    rw [run_connector asked]
    simp [TunnelInfo.connectorIds, noConn]
  | first asked first asked' =>
    rw [run_connector asked]
    simp only [TunnelInfo.connectorIds, first, List.map_cons]
    exact run_url_given asked'

/-- The run of a resolution is the way that it goes, and the command lines are those of that way. -/
theorem run_eq_iff :
    (c.url host.logged managementHost scheme path tunnel explicit).run.run ⟨w, []⟩ = (r, ⟨w', lines⟩) ↔
      c.Resolution host managementHost scheme path tunnel w explicit r lines w' := by
  constructor
  · intro run
    obtain ⟨r₀, lines₀, w₀, resolution⟩ := c.exists_resolution host managementHost scheme path tunnel w explicit
    rw [(resolution.logged []).run] at run
    cases run
    exact resolution
  · intro resolution
    exact (resolution.logged []).run

/-- Where a connector is available, with the command lines that are started to find it. -/
inductive Available (c : TunnelClient) (host : Host σ) (tunnel : String) (w : σ) :
    Option String → String → List (List String) → σ → Prop
  | given {id : String} : c.Available host tunnel w (some id) id [] w
  | first {info : TunnelInfo} {conn : ConnectorRecord} {conns : List ConnectorRecord} {line : List String} {w' : σ}
    (asked : c.Asked host (.info tunnel) TunnelInfo.parse w (.ok info) [line] w')
    (first : info.conns = conn :: conns) : c.Available host tunnel w none conn.id [line] w'

theorem Asked.line {α : Type} {mode : CommandMode} {parse : String → Except Malformed α} {a : α}
    (h : c.Asked host mode parse w (.ok a) lines w') : ∃ line, lines = [line] := by
  cases h
  exact ⟨_, rfl⟩

theorem token_ne_empty {printed token : String} (h : Token.parse printed = .ok token) : token ≠ "" := by
  intro empty
  rw [Token.parse] at h
  split at h
  · split at h
    · cases h
    · rename_i full
      cases h
      exact full (String.isEmpty_iff.mpr empty)
  · cases h

theorem Asked.token_ne_empty {token : String}
    (h : c.Asked host (.token tunnel) Token.parse w (.ok token) lines w') : token ≠ "" := by
  cases h with
  | understood _ _ parsed => exact TunnelClient.token_ne_empty parsed

theorem addressed_eq_ok {id address : String} (h : addressed scheme managementHost path id r = .ok address) :
    ∃ token, r = .ok token ∧ address = managementUrl scheme managementHost path id token := by
  cases r with
  | error f => cases h
  | ok token =>
    cases h
    exact ⟨token, rfl, rfl⟩

theorem resolution_ok_iff {address : String} :
    c.Resolution host managementHost scheme path tunnel w explicit (.ok address) lines w' ↔
      ∃ id before w₁ token line, c.Available host tunnel w explicit id before w₁ ∧
        c.Asked host (.token tunnel) Token.parse w₁ (.ok token) [line] w' ∧
        address = managementUrl scheme managementHost path id token ∧ lines = before ++ [line] := by
  constructor
  · intro resolution
    generalize ok : Except.ok address = r at resolution
    cases resolution with
    | given asked =>
      obtain ⟨token, rfl, rfl⟩ := addressed_eq_ok ok.symm
      obtain ⟨line, rfl⟩ := asked.line
      exact ⟨_, [], _, token, line, .given, asked, rfl, rfl⟩
    | undescribed | unconnected => cases ok
    | first asked first asked' =>
      obtain ⟨token, rfl, rfl⟩ := addressed_eq_ok ok.symm
      obtain ⟨line, rfl⟩ := asked.line
      obtain ⟨line', rfl⟩ := asked'.line
      exact ⟨_, [line], _, token, line', .first asked first, asked', rfl, rfl⟩
  · rintro ⟨id, before, w₁, token, line, available, asked, rfl, rfl⟩
    cases available with
    | given => exact .given asked
    | first asked' first => exact .first asked' first asked

end

/-- What comes of a resolution does not depend on whether its command lines are taken down. It goes one of the ways
of `Resolution`. An address is the outcome if and only if there is a connector and the token command, which is run
once and after all else, prints a token; a question about the tunnel fails as queries do, unless the host fails a
call about its child. -/
theorem url_of_connector_and_fresh_token (c : TunnelClient) (host : Host σ) (managementHost : String)
    (scheme : UrlScheme) (path tunnel : String) (explicit : Option String) (w : σ) :
    let run := (c.url host.logged managementHost scheme path tunnel explicit).run.run ⟨w, []⟩
    (c.url host managementHost scheme path tunnel explicit).run.run w = (run.1, run.2.world) ∧
    (∀ r lines w', run = (r, ⟨w', lines⟩) ↔
      c.Resolution host managementHost scheme path tunnel w explicit r lines w') ∧
    (∀ address lines w', run = (.ok address, ⟨w', lines⟩) ↔ ∃ id before w₁ token line,
      c.Available host tunnel w explicit id before w₁ ∧
      c.Asked host (.token tunnel) Token.parse w₁ (.ok token) [line] w' ∧ token ≠ "" ∧
      address = managementUrl scheme managementHost path id token ∧ lines = before ++ [line]) ∧
    ∀ f lines w', c.Asked host (.info tunnel) TunnelInfo.parse w (.error f) lines w' →
      f.isOfQuery ∨ ∃ reason, f = .io reason ∧ host.Fails reason := by
  intro run
  obtain ⟨r, lines, w', resolution⟩ := c.exists_resolution host managementHost scheme path tunnel w explicit
  have ran : run = (r, ⟨w', lines⟩) := run_eq_iff.mpr resolution
  refine ⟨?_, fun r lines w' => run_eq_iff, fun address lines w' => ?_, fun f lines w' asked => asked.isOfQuery⟩
  · rw [ran]
    exact resolution.run
  · rw [run_eq_iff, resolution_ok_iff]
    constructor
    · rintro ⟨id, before, w₁, token, line, available, asked, same, rfl⟩
      exact ⟨id, before, w₁, token, line, available, asked, asked.token_ne_empty, same, rfl⟩
    · rintro ⟨id, before, w₁, token, line, available, asked, -, same, rfl⟩
      exact ⟨id, before, w₁, token, line, available, asked, same, rfl⟩

end TunnelClient

/-! ### A rehearsed connector -/

/-- A text that fits is kept whole. -/
theorem OutputBuffer.snapshot_append {text : String} (fits : text.utf8ByteSize ≤ limit) :
    (({} : OutputBuffer).append text.toUTF8).snapshot = text := by
  have whole : text.toUTF8.extract 0 limit = text.toUTF8 := extract_of_fits fits
  show Utf8.lossy (.empty ++ text.toUTF8.extract 0 limit) = text
  rw [whole, ByteArray.empty_append, Utf8.lossy_eq_decodeLossy]
  exact Utf8.decodeLossy_encode text

theorem Stage.runs_line {s : Stage} {program line : String} {args : List String} (timeout : Duration)
    (cast : s.cast (program :: args) = .ok { stdout := Connector.lineOctets line, ending := some (.code 0) })
    (fits : (line ++ "\n").utf8ByteSize ≤ OutputBuffer.limit) :
    ∃ s', s'.cast = s.cast ∧ Runs Stage.host program args timeout s (.ok ⟨line ++ "\n", ""⟩) s' := by
  let script : Script := { stdout := Connector.lineOctets line, ending := some (.code 0) }
  have spawned : Stage.host.spawn (program :: args) s = (.ok Stage.pid, s.play script) := by
    simp only [Stage.host, Stage.spawn, cast, script]
  have waited : Stage.host.await timeout (s.play script) = (.ok (some (.code 0)), s.play script) := by
    simp [Stage.host, Stage.await, Stage.play, script, Duration.zero]
  have written : Stage.host.outputSoFar (Stage.host.settle (s.play script)) = ⟨line ++ "\n", ""⟩ := by
    show CapturedOutput.mk (({} : OutputBuffer).append (line ++ "\n").toUTF8).snapshot
      (({} : OutputBuffer).append "".toUTF8).snapshot = _
    rw [OutputBuffer.snapshot_append fits, OutputBuffer.snapshot_append (by decide)]
  have answered := Runs.answered spawned waited
  rw [written] at answered
  exact ⟨s.play script, rfl, answered⟩

namespace TunnelClient

/-- A connector that has a description of its tunnel and a token. -/
def helpful : Actor where
  script := {}
  info := some { stdout := Connector.lineOctets (Connector.description {} "t").render, ending := some (.code 0) }
  token := some { stdout := Connector.lineOctets (Connector.tokenDocument {}).render, ending := some (.code 0) }

theorem url_of_helpful_connector :
    let c : TunnelClient := { config := { binary := [] }, store := {} }
    let stage : Stage := { cast := fun line => .ok (helpful.play line.tail) }
    let absent : Stage := { cast := fun _ => .error .notFound }
    (∃ w', (c.url Stage.host.logged "mgmt.example" .https "ping" "t" none).run.run ⟨stage, []⟩ =
      (.ok (managementUrl .https "mgmt.example" "ping" "00000000-0000-0000-0000-000000000001-connector"
        "stub.management.token"),
        ⟨w', [["", "tunnel", "info", "--output", "json", "t"], ["", "tail", "token", "t"]]⟩)) ∧
    ∃ w', c.Asked Stage.host (.info "t") TunnelInfo.parse absent (.error (.launch "" .notFound))
        [["", "tunnel", "info", "--output", "json", "t"]] w' ∧
      ((Failure.launch "" .notFound).isOfQuery ∨
        ∃ reason, Failure.launch "" .notFound = .io reason ∧ Stage.host.Fails reason) := by
  intro c stage absent
  have known (s : Stage) := url_of_connector_and_fresh_token c Stage.host "mgmt.example" .https "ping" "t" none s
  have described : c.store.argv c.config (.info "t") = .ok ["", "tunnel", "info", "--output", "json", "t"] := rfl
  have fetched : c.store.argv c.config (.token "t") = .ok ["", "tail", "token", "t"] := rfl
  constructor
  · obtain ⟨s₁, cast, ran⟩ := @Stage.runs_line stage "" (Connector.description {} "t").render
      ["tunnel", "info", "--output", "json", "t"] c.timeout rfl (by decide +kernel)
    obtain ⟨s₂, -, ran'⟩ := @Stage.runs_line s₁ "" (Connector.tokenDocument {}).render ["tail", "token", "t"]
      c.timeout (by rw [cast]; rfl) (by decide +kernel)
    refine ⟨s₂, ((known stage).2.2.1 _ _ _).mpr ⟨_, _, s₁, _, _,
      .first (.understood described ran (Connector.parse_description {} "t")) rfl,
      .understood fetched ran' (Connector.parse_tokenDocument {} rfl), by decide, ?_, ?_⟩⟩
    · rfl
    · rfl
  · have refused : Stage.host.spawn ["", "tunnel", "info", "--output", "json", "t"] absent =
        (.error .notFound, absent) := rfl
    have asked : c.Asked Stage.host (.info "t") TunnelInfo.parse absent _ _ absent :=
      .failed described (.unstarted refused)
    exact ⟨absent, asked, (known absent).2.2.2 _ _ _ asked⟩

end TunnelClient

end GracefulDrain
