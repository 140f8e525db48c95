import GracefulDrain.Connector.Command
import GracefulDrain.Management.Record
import GracefulDrain.Proofs.Connector.Arguments
import GracefulDrain.Proofs.Json.Skipped

/-! # A connector's answers are understood

A query goes out as a command line, the stand-in connector answers with a line of JSON, and the record is read
from that line. Each record is built up member by member: what one member adds to it is a lemma, whatever the
order in which the members stand, and an answer is the chain of its members. No character of an identifier or of
a token is lost on the way, since a word is taken as it is and a string is written with its escapes. -/

namespace GracefulDrain
open Json Json.Reader
open Utf8 (octets)

variable {room : Nat} {ms : List (String × Json)}

/-! ### The records -/

namespace TunnelRecord
variable {f : Fields}

theorem takes_id (s : String) (unread : f.id = none) :
    Takes (member room) "id" (.str s) f { f with id := some s } :=
  takes_field (fun id => ({ f with id } : Fields)) (reads_string s) unread rfl

theorem takes_name (s : String) (unread : f.name = none) :
    Takes (member room) "name" (.str s) f { f with name := some s } :=
  takes_field (fun name => ({ f with name } : Fields)) (reads_string s) unread rfl

theorem takes_extra {name : String} {v w : Json} (h : name ≠ "id") (h' : name ≠ "name")
    (reads : Reads (value room) v w) :
    Takes (member room) name v f { f with extra := (name, w) :: f.extra } := by
  refine takes_other (fun v => ({ f with extra := (name, v) :: f.extra } : Fields)) reads ?_
  rw [member, if_neg h, if_neg h']

theorem reads_read {id : String} (gathers : Gathers (member room) {} ms f) (known : f.id = some id) :
    Reads (read room) (.obj ms) ⟨id, f.name.getD "", Members.ofList f.extra.reverse⟩ := by
  refine reads_object _ fun rest => ?_
  rw [bind_ok (members_written gathers rest), known]
  rfl

end TunnelRecord

namespace ConnectorRecord
variable {f : Fields}

theorem takes_id (s : String) (unread : f.id = none) :
    Takes (member room) "id" (.str s) f { f with id := some s } :=
  takes_field (fun id => ({ f with id } : Fields)) (reads_string s) unread rfl

theorem takes_extra {name : String} {v w : Json} (h : name ≠ "id") (reads : Reads (value room) v w) :
    Takes (member room) name v f { f with extra := (name, w) :: f.extra } := by
  refine takes_other (fun v => ({ f with extra := (name, v) :: f.extra } : Fields)) reads ?_
  rw [member, if_neg h]

theorem reads_read {id : String} (gathers : Gathers (member room) {} ms f) (known : f.id = some id) :
    Reads (read room) (.obj ms) ⟨id, Members.ofList f.extra.reverse⟩ := by
  refine reads_object _ fun rest => ?_
  rw [bind_ok (members_written gathers rest), known]
  rfl

end ConnectorRecord

namespace TunnelInfo
variable {f : Fields}

theorem takes_id (s : String) (unread : f.id = none) : Takes member "id" (.str s) f { f with id := some s } :=
  takes_field (fun id => ({ f with id } : Fields)) (reads_string s) unread rfl

theorem takes_name (s : String) (unread : f.name = none) :
    Takes member "name" (.str s) f { f with name := some s } :=
  takes_field (fun name => ({ f with name } : Fields)) (reads_string s) unread rfl

theorem takes_conns {v : Json} {conns : List ConnectorRecord} (unread : f.conns = none)
    (reads : Reads connsField v conns) : Takes member "conns" v f { f with conns := some conns } :=
  takes_field (fun conns => ({ f with conns } : Fields)) reads unread rfl

theorem reads_fromMembers {conns : List ConnectorRecord} (gathers : Gathers member {} ms f)
    (known : f.conns = some conns) :
    Reads (fromEither "struct TunnelInfo" fromMembers fromItems) (.obj ms)
      ⟨f.id.getD "", f.name.getD "", conns⟩ := by
  refine reads_either _ fun rest => ?_
  rw [fromMembers, bind_ok (members_written gathers rest), known]
  rfl

end TunnelInfo

namespace Token

theorem takes_token (s : String) : Takes member "token" (.str s) none (some s) :=
  takes_field (fun token => token) (reads_string s) rfl (bind_pure _).symm

theorem takes_other {name : String} {v : Json} {seen : Option String} (h : name ≠ "token")
    (reads : Reads skipValue v ()) : Takes member name v seen seen := by
  refine Reader.takes_other (fun _ => seen) reads ?_
  rw [member, if_neg h]

theorem reads_read {token : String} (gathers : Gathers member none ms (some token)) :
    Reads read (.obj ms) token := by
  refine reads_either _ fun rest => ?_
  rw [bind_ok (members_written gathers rest)]
  rfl

theorem read_refuses (gathers : Gathers member none ms none) :
    read (octets (write (.obj ms))) = .error ⟨.missingField "token", []⟩ := by
  have written := octets_obj ms []
  rw [List.append_nil] at written
  rw [written]
  show (members member none >>= fun seen => required "token" seen) (octets (writeMembers ms) ++ [0x7D]) = _
  rw [bind_ok (members_written gathers [])]
  rfl

end Token

/-! ### The answers -/

namespace Connector

theorem parseList_listing (c : Config) (now : Instant) :
    TunnelRecord.parseList ((listing c now).render ++ "\n") =
      .ok [⟨c.tunnelId, tunnelName, [("created_at", .str now.rfc3339Offset)]⟩] := by
  have gathers : Gathers (TunnelRecord.member (maxDepth - 2)) {}
      [("created_at", .str now.rfc3339Offset), ("id", .str c.tunnelId), ("name", .str tunnelName)]
      ⟨some c.tunnelId, some tunnelName, [("created_at", .str now.rfc3339Offset)]⟩ :=
    .cons (TunnelRecord.takes_extra (by decide) (by decide) (reads_value_str _ _)) <|
    .cons (TunnelRecord.takes_id _ rfl) <|
    .cons (TunnelRecord.takes_name _ rfl) <|
    .nil _
  have records := reads_list (.cons ⟨opens_obj _, TunnelRecord.reads_read gathers rfl⟩ .nil)
  rw [TunnelRecord.parseList, listing, document_printed (prints_line _) (bracketed_arr _) records]
  rfl

theorem parse_description (c : Config) (tunnel : String) :
    TunnelInfo.parse ((description c tunnel).render ++ "\n") =
      .ok ⟨tunnel, tunnelName, [⟨c.connectorId, [("colo_name", .str "local")]⟩]⟩ := by
  have connector : Gathers (ConnectorRecord.member (maxDepth - 3)) {}
      [("colo_name", .str "local"), ("id", .str c.connectorId)]
      ⟨some c.connectorId, [("colo_name", .str "local")]⟩ :=
    .cons (ConnectorRecord.takes_extra (by decide) (reads_value_str _ _)) <|
    .cons (ConnectorRecord.takes_id _ rfl) <|
    .nil _
  have conns := reads_list (.cons ⟨opens_obj _, ConnectorRecord.reads_read connector rfl⟩ .nil)
  have gathers : Gathers TunnelInfo.member {}
      [("conns", .arr [.obj [("colo_name", .str "local"), ("id", .str c.connectorId)]]), ("id", .str tunnel),
        ("name", .str tunnelName)]
      ⟨some tunnel, some tunnelName, some [⟨c.connectorId, [("colo_name", .str "local")]⟩]⟩ :=
    .cons (TunnelInfo.takes_conns rfl conns) <|
    .cons (TunnelInfo.takes_id _ rfl) <|
    .cons (TunnelInfo.takes_name _ rfl) <|
    .nil _
  have info := TunnelInfo.reads_fromMembers gathers rfl
  rw [TunnelInfo.parse, description, document_printed (prints_line _) (bracketed_obj _) info]
  rfl

/-- What is read from a document without a token. -/
theorem parse_malformed_token (c : Config) (malformed : c.malformedToken = true) :
    ∃ e : Json.Error, e.fault = .missingField "token" ∧
      Token.parse ((tokenDocument c).render ++ "\n") = .error ⟨"token", e.message⟩ := by
  have gathers : Gathers Token.member none [("jwt", .str c.token)] none :=
    .cons (Token.takes_other (by decide) (skips_str _).reads) (.nil _)
  have named : tokenDocument c = .obj [("jwt", .str c.token)] := by
    rw [tokenDocument, if_pos malformed]
  obtain ⟨e, fault, refused⟩ := document_refused (prints_line _) (bracketed_obj _) (Token.read_refuses gathers)
  refine ⟨e, fault, ?_⟩
  rw [Token.parse, named, refused]

theorem parse_tokenDocument (c : Config) (wellFormed : c.malformedToken = false) :
    Token.parse ((tokenDocument c).render ++ "\n") =
      if c.token = "" then .error ⟨"token", "empty token"⟩ else .ok c.token := by
  have gathers : Gathers Token.member none [("token", .str c.token)] (some c.token) :=
    .cons (Token.takes_token _) (.nil _)
  have named : tokenDocument c = .obj [("token", .str c.token)] := by
    rw [tokenDocument, wellFormed]
    rfl
  rw [Token.parse, named, document_printed (prints_line _) (bracketed_obj _) (Token.reads_read gathers)]
  simp only [String.isEmpty_iff]

/-- What a connector with a known configuration does with a command line without the program. -/
def answer (c : Config) (now : Instant) (args : List String) : Except CommandFault Deed := do
  let invocation ← (Invocation.parse args).mapError .arguments
  dispatch c now invocation.connections invocation.words

theorem run_eq_answer {c : Config} {args : List String} {invocation : Invocation} (file : String → FileEntry)
    (now : Instant) (read : Invocation.parse args = .ok invocation)
    (loaded : Config.load (invocation.configPath.map fun path => File.mk path (file path)) = .ok c) :
    run file now args = (answer c now args).map fun deed => (c, deed) := by
  simp only [run, answer, read, loaded, Except.mapError, bind, Except.bind]
  cases dispatch c now invocation.connections invocation.words <;> rfl

theorem answer_query (c : Config) (now : Instant) (base : ProcessConfig) (cert : Option String) (request : Request)
    (query : request ≠ .run) (plain : ∀ tunnel ∈ request.tunnel?, IsWord tunnel) :
    answer c now (base.argv cert request.mode).tail = dispatch c now none request.words := by
  rw [answer, Invocation.parse_query base cert request query plain]
  rfl

/-- Whatever is configured and whatever tunnel is asked for, unless it is called like a flag, the line that answers
a query yields the configured tunnel, the connector of the tunnel that was asked for, and the token. A tunnel
without a name has no description, and a token that is empty or that stands under another name is refused. -/
theorem answers_are_understood (c : Config) (now : Instant) (base : ProcessConfig) (cert : Option String)
    (tunnel : String) (plain : ∀ flag : Flag, tunnel ≠ flag.name) :
    let asked (mode : CommandMode) := answer c now (base.argv cert mode).tail
    (∃ line, asked .list = .ok (.prints line) ∧
      TunnelRecord.parseList (line ++ "\n") =
        .ok [⟨c.tunnelId, "linkdrain-stub", [("created_at", .str now.rfc3339Offset)]⟩]) ∧
    (if tunnel = "" then asked (.info tunnel) = .error .noTunnelId
      else ∃ line info, asked (.info tunnel) = .ok (.prints line) ∧
        TunnelInfo.parse (line ++ "\n") = .ok info ∧ info.id = tunnel ∧ info.name = "linkdrain-stub" ∧
        info.connectorIds = [c.tunnelId ++ "-connector"]) ∧
    ∃ line, asked (.token tunnel) = .ok (.prints line) ∧
      if c.malformedToken then
        ∃ e : Json.Error, e.fault = .missingField "token" ∧
          Token.parse (line ++ "\n") = .error ⟨"token", e.message⟩
      else if c.token = "" then Token.parse (line ++ "\n") = .error ⟨"token", "empty token"⟩
      else Token.parse (line ++ "\n") = .ok c.token := by
  intro asked
  have plainly : ∀ t ∈ some tunnel, IsWord t := fun t ht => Option.some_inj.1 ht ▸ plain
  have list : asked .list = .ok (.prints (listing c now).render) :=
    answer_query c now base cert .list (by simp) (by simp [Request.tunnel?])
  have info : asked (.info tunnel) = dispatch c now none ["tunnel", "info", tunnel] :=
    answer_query c now base cert (.info tunnel) (by simp) plainly
  have token : asked (.token tunnel) = .ok (.prints (tokenDocument c).render) :=
    answer_query c now base cert (.token tunnel) (by simp) plainly
  refine ⟨⟨_, list, parseList_listing c now⟩, ?_, _, token, ?_⟩
  · by_cases unnamed : tunnel = ""
    · rw [if_pos unnamed, info, unnamed]
      rfl
    · have described : asked (.info tunnel) = .ok (.prints (description c tunnel).render) := by
        have named : tunnel.isEmpty = false := by simpa using unnamed
        rw [info]
        simp only [dispatch, named]
        rfl
      rw [if_neg unnamed]
      exact ⟨_, _, described, parse_description c tunnel, rfl, rfl, rfl⟩
  · by_cases malformed : c.malformedToken = true
    · rw [if_pos malformed]
      exact parse_malformed_token c malformed
    · rw [if_neg malformed, parse_tokenDocument c (by simpa using malformed)]
      by_cases empty : c.token = ""
      · rw [if_pos empty, if_pos empty]
      · rw [if_neg empty, if_neg empty]

/-- Quotes, control characters and letters beyond ASCII come back as they were configured and asked for. -/
theorem answers_with_escapes :
    let c : Config := { tunnelId := "a\"\\\x01é", token := "t\n\"€" }
    let asked (mode : CommandMode) := answer c ⟨0, 0⟩ (({ binary := [] } : ProcessConfig).argv none mode).tail
    (∃ line info, asked (.info "--\t\x7f💧") = .ok (.prints line) ∧
      TunnelInfo.parse (line ++ "\n") = .ok info ∧ info.id = "--\t\x7f💧" ∧
      info.connectorIds = ["a\"\\\x01é-connector"]) ∧
    ∃ line, asked (.token "--\t\x7f💧") = .ok (.prints line) ∧ Token.parse (line ++ "\n") = .ok "t\n\"€" := by
  intro c asked
  obtain ⟨-, ⟨line, info, printed, read, id, -, connectors⟩, token⟩ :=
    answers_are_understood c ⟨0, 0⟩ { binary := [] } none "--\t\x7f💧" fun flag => by cases flag <;> decide
  exact ⟨⟨line, info, printed, read, id, connectors⟩, token⟩

end Connector
end GracefulDrain
