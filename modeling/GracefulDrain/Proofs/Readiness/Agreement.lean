import GracefulDrain.Connector.Endpoint
import GracefulDrain.Drain.World
import GracefulDrain.Proofs.Json.Values
import GracefulDrain.Proofs.Uuid

/-! # A connector and its client agree about readiness

A readiness report is written as an object of three members, and each of its fields is read back from its member,
so the report comes back as it was (`ReadinessReport.parse_document`). A client who takes an unreadable body for a
ready connector never meets one from a connector, and what it is told is that there are connections and that no
shutdown has begun. -/

namespace GracefulDrain
open Json Json.Reader

namespace ReadinessReport
variable {f : Fields}

theorem reads_status (status : UInt16) : Reads statusField (.int status.toNat) status := by
  have fits : status.toNat ≤ 65535 := Nat.le_of_lt_succ status.toNat_lt
  have reads := (reads_natural "u16" fits (by decide)).map Nat.toUInt16
  rwa [show status.toNat.toUInt16 = status from UInt16.ofNat_toNat] at reads

theorem reads_connections (n : UInt32) : Reads connectionsField (.int n.toNat) n := by
  have fits : n.toNat ≤ 4294967295 := Nat.le_of_lt_succ n.toNat_lt
  have reads := (reads_natural "u32" fits (by decide)).map Nat.toUInt32
  rwa [show n.toNat.toUInt32 = n from UInt32.ofNat_toNat] at reads

theorem reads_connector (connector : Uuid) : Reads connectorField (.str connector.toString) connector := by
  intro rest _
  have quote (behind : Bytes) : peekValue (0x22 :: behind) = .ok ('"', 0x22 :: behind) := rfl
  rw [octets_str, connectorField, bind_ok (quote _), if_pos rfl, bind_ok (advance_cons _ _),
    bind_ok (text_inner _ rest), connector.parse?_toString]
  rfl

theorem takes_status (status : UInt16) (unread : f.status = none) :
    Takes member "status" (.int status.toNat) f { f with status := some status } :=
  takes_field (fun status => ({ f with status } : Fields)) (reads_status status) unread rfl

theorem takes_connections (n : UInt32) (unread : f.readyConnections = none) :
    Takes member "readyConnections" (.int n.toNat) f { f with readyConnections := some n } :=
  takes_field (fun readyConnections => ({ f with readyConnections } : Fields)) (reads_connections n) unread rfl

theorem takes_connector (connector : Uuid) (unread : f.connectorId = none) :
    Takes member "connectorId" (.str connector.toString) f { f with connectorId := some connector } :=
  takes_field (fun connectorId => ({ f with connectorId } : Fields)) (reads_connector connector) unread rfl

/-- A report that has been written is read back as it was. -/
theorem parse_document (r : ReadinessReport) : parse (Utf8.encode r.document) = .ok r := by
  have gathers : Gathers member {}
      [("status", .int r.status.toNat), ("readyConnections", .int r.readyConnections.toNat),
        ("connectorId", .str r.connectorId.toString)]
      ⟨some r.status, some r.readyConnections, some r.connectorId⟩ :=
    .cons (takes_status _ rfl) <|
    .cons (takes_connections _ rfl) <|
    .cons (takes_connector _ rfl) <|
    .nil _
  have whole : Reads (fromEither recordName fromMembers fromItems) r.toJson r := by
    refine reads_either _ fun rest => ?_
    rw [fromMembers, bind_ok (members_written gathers rest)]
    rfl
  rw [parse, document, encode_render, document_written whole]

theorem isReady_iff (r : ReadinessReport) : r.isReady ↔ r.status = 200 ∧ 0 < r.readyConnections := by
  simp [isReady]

/-- A connector's report always has a status to be answered with. -/
theorem statusOf?_of (n : UInt32) (connector : Uuid) :
    statusOf? (of n connector).status.toNat = some (of n connector).status.toNat := by
  simp only [of]
  split <;> rfl

theorem isReady_of (n : UInt32) (connector : Uuid) : (of n connector).isReady ↔ 0 < n := by
  rw [isReady_iff]
  exact ⟨And.right, fun connected => ⟨if_pos connected, connected⟩⟩

end ReadinessReport

/-- An answer counts as ready if nothing in it speaks against it. -/
theorem Answer.isReady_iff (status : Nat) (body : Bytes) :
    (Answer.mk status (some body)).isReady ↔
      status = 200 ∧ ((∃ e, ReadinessReport.parse body = .error e) ∨
        ∃ r, ReadinessReport.parse body = .ok r ∧ r.status = 200 ∧ 0 < r.readyConnections) := by
  cases read : ReadinessReport.parse body with
  | ok r => simp [isReady, read, ReadinessReport.isReady_iff]
  | error e => simp [isReady, read]

/-- A report that goes out with its own status is taken at its word. -/
theorem ReadinessReport.isReady_answer (r : ReadinessReport) :
    (Answer.mk r.status.toNat (some (Utf8.encode r.document))).isReady ↔ r.isReady := by
  have status : r.status.toNat = 200 ↔ r.status = 200 := UInt16.toNat_inj (b := 200)
  simp only [Answer.isReady_iff, parse_document, status, r.isReady_iff]
  constructor
  · rintro ⟨-, ⟨e, refused⟩ | ⟨r', read, ready⟩⟩
    · cases refused
    · cases read
      exact ready
  · exact fun ready => ⟨ready.1, .inr ⟨r, rfl, ready⟩⟩

theorem World.isReady_iff {ω : Type} (world : World ω) (url : String) (w : ω) :
    (world.isReady url w).1 ↔ ∃ answer, (world.probe url w).1 = some answer ∧ answer.isReady := by
  show ((world.probe url w).1.any Answer.isReady) = true ↔ _
  rw [Option.any_eq_true]

namespace Connector

/-- What a connector answers is understood as it was meant. The status of the answer is that of the report, the report
comes back from the body as it was, and the connector is taken for ready just if no shutdown has begun and there are
connections. Although a body that is no report counts as ready, no probe that gets the answer of a connector whose
shutdown has begun takes it for ready. -/
theorem readiness_is_understood (connections : UInt32) (connector : Uuid) (signalled : Bool) :
    let report := ReadinessReport.of (if signalled then 0 else connections) connector
    let answer := (ready connections connector signalled).2
    (∃ body, answer = ⟨report.status.toNat, some body⟩ ∧ ReadinessReport.parse body = .ok report) ∧
      (answer.isReady ↔ signalled = false ∧ 0 < connections) ∧
      (∀ (status : Nat) (body : Bytes), (Answer.mk status (some body)).isReady ↔
        status = 200 ∧ ((∃ e, ReadinessReport.parse body = .error e) ∨
          ∃ r, ReadinessReport.parse body = .ok r ∧ r.status = 200 ∧ 0 < r.readyConnections)) ∧
      ∀ {ω : Type} (world : World ω) (url : String) (w : ω),
        ¬ ((world.probe url w).1 = some (ready connections connector true).2 ∧ (world.isReady url w).1) := by
  intro report answer
  have written (signalled : Bool) :
      (ready connections connector signalled).2 =
        ⟨(ReadinessReport.of (if signalled then 0 else connections) connector).status.toNat,
          some (Utf8.encode (ReadinessReport.of (if signalled then 0 else connections) connector).document)⟩ := by
    simp only [ready, ReadinessReport.statusOf?_of, Option.getD_some]
  have taken (signalled : Bool) :
      (ready connections connector signalled).2.isReady ↔ signalled = false ∧ 0 < connections := by
    rw [written, ReadinessReport.isReady_answer, ReadinessReport.isReady_of]
    cases signalled <;> simp
  refine ⟨⟨_, written signalled, report.parse_document⟩, taken signalled, Answer.isReady_iff, ?_⟩
  rintro ω world url w ⟨answered, found⟩
  obtain ⟨answer, probed, isReady⟩ := (world.isReady_iff url w).1 found
  rw [answered] at probed
  cases probed
  cases ((taken true).1 isReady).1

end Connector

end GracefulDrain
