import GracefulDrain.Proofs.Json.Values
import GracefulDrain.Proofs.Management.Answers

/-! # Administrative records are kept whole

A record that was written as JSON is read back with all its members, those that nobody asked for included.
Those go behind one another while a record is read, and none of them is taken for a field, so that the map they
make up is the one that was written. -/

namespace GracefulDrain
open Json Json.Reader

namespace TunnelRecord
variable {r : TunnelRecord} {room : Nat}

/-- The other members are held exactly, and none bears the name of a field. -/
structure IsExact (r : TunnelRecord) : Prop where
  extra : (Json.obj r.extra).IsExact
  unnamed : ∀ m ∈ r.extra, m.1 ≠ "id" ∧ m.1 ≠ "name"

theorem reads_toJson (exact : r.IsExact) (shallow : r.toJson.depth ≤ room + 1) : Reads (read room) r.toJson r := by
  have deep : depthOfMembers r.extra ≤ room := by
    have inner : depthOfMembers r.extra ≤ depthOfMembers (("id", .str r.id) :: ("name", .str r.name) :: r.extra) :=
      Nat.le_trans (Nat.le_max_right ..) (Nat.le_max_right ..)
    exact Nat.le_trans inner (Nat.le_of_succ_le_succ shallow)
  have values := reads_members r.extra exact.extra.2 deep
  have gathers : Gathers (member room) {} (("id", .str r.id) :: ("name", .str r.name) :: r.extra)
      ⟨some r.id, some r.name, r.extra.reverse ++ []⟩ :=
    .cons (takes_id _ rfl) <|
    .cons (takes_name _ rfl) <|
    gathers_kept (Fields.mk (some r.id) (some r.name))
      (fun m mem acc => takes_extra (exact.unnamed m mem).1 (exact.unnamed m mem).2 (values m mem)) []
  have reads := reads_read gathers rfl
  rwa [List.append_nil, List.reverse_reverse, Members.ofList_of_isOrdered exact.extra.1] at reads

end TunnelRecord

namespace ConnectorRecord
variable {r : ConnectorRecord} {room : Nat}

/-- The other members are held exactly, and none is called `id`. -/
structure IsExact (r : ConnectorRecord) : Prop where
  extra : (Json.obj r.extra).IsExact
  unnamed : ∀ m ∈ r.extra, m.1 ≠ "id"

theorem reads_toJson (exact : r.IsExact) (shallow : r.toJson.depth ≤ room + 1) : Reads (read room) r.toJson r := by
  have deep : depthOfMembers r.extra ≤ room :=
    Nat.le_trans (Nat.le_max_right ..) (Nat.le_of_succ_le_succ shallow)
  have values := reads_members r.extra exact.extra.2 deep
  have gathers : Gathers (member room) {} (("id", .str r.id) :: r.extra) ⟨some r.id, r.extra.reverse ++ []⟩ :=
    .cons (takes_id _ rfl) <|
    gathers_kept (Fields.mk (some r.id)) (fun m mem acc => takes_extra (exact.unnamed m mem) (values m mem)) []
  have reads := reads_read gathers rfl
  rwa [List.append_nil, List.reverse_reverse, Members.ofList_of_isOrdered exact.extra.1] at reads

end ConnectorRecord

/-- A list of records is read back if each of them is. -/
theorem reads_list_map {α : Type} {toJson : α → Json} {read : Reader α} {as : List α}
    (each : ∀ a ∈ as, Opens (toJson a) ∧ Reads read (toJson a) a) : Reads (list read) (.arr (as.map toJson)) as :=
  reads_list (List.forall₂_map_left_iff.2 (List.forall₂_same.2 each))

theorem TunnelRecord.parseList_toJson {records : List TunnelRecord} {printed : String}
    (prints : Prints printed (.arr (records.map toJson))) (exact : ∀ r ∈ records, r.IsExact)
    (shallow : (Json.arr (records.map toJson)).depth ≤ maxDepth) : parseList printed = .ok records := by
  have items : depthOfItems (records.map toJson) ≤ maxDepth - 1 := Nat.le_sub_of_add_le shallow
  have each (r : TunnelRecord) (mem : r ∈ records) : Opens r.toJson ∧ Reads (read (maxDepth - 2)) r.toJson r :=
    ⟨opens_obj _, reads_toJson (exact r mem) (Nat.le_trans (depth_le_of_mem (List.mem_map_of_mem mem)) items)⟩
  rw [parseList, document_printed prints (bracketed_arr _) (reads_list_map each)]

theorem TunnelInfo.parse_toJson {info : TunnelInfo} {printed : String} (prints : Prints printed info.toJson)
    (exact : ∀ c ∈ info.conns, c.IsExact) (shallow : info.toJson.depth ≤ maxDepth) :
    TunnelInfo.parse printed = .ok info := by
  have conns : depthOfItems (info.conns.map ConnectorRecord.toJson) ≤ maxDepth - 2 := by
    simp only [toJson, depth, depthOfMembers] at shallow
    omega
  have each (c : ConnectorRecord) (mem : c ∈ info.conns) :
      Opens c.toJson ∧ Reads (ConnectorRecord.read (maxDepth - 3)) c.toJson c :=
    ⟨opens_obj _, ConnectorRecord.reads_toJson (exact c mem)
      (Nat.le_trans (depth_le_of_mem (List.mem_map_of_mem mem)) conns)⟩
  have gathers : Gathers TunnelInfo.member {}
      [("id", .str info.id), ("name", .str info.name), ("conns", .arr (info.conns.map ConnectorRecord.toJson))]
      ⟨some info.id, some info.name, some info.conns⟩ :=
    .cons (TunnelInfo.takes_id _ rfl) <|
    .cons (TunnelInfo.takes_name _ rfl) <|
    .cons (TunnelInfo.takes_conns rfl (reads_list_map each)) <|
    .nil _
  rw [TunnelInfo.parse, document_printed prints (bracketed_obj _) (TunnelInfo.reads_fromMembers gathers rfl)]
  rfl

/-- Whatever blanks are put around what was written, a list of tunnels and the description of a tunnel are read back
as they were, with all their members and in order, and so are the connectors of the tunnel. -/
theorem records_come_back_whole {records : List TunnelRecord} {info : TunnelInfo} {before after : String}
    (left : Text.allBlank before) (right : Text.allBlank after) (exactRecords : ∀ r ∈ records, r.IsExact)
    (shallowRecords : (Json.arr (records.map TunnelRecord.toJson)).depth ≤ maxDepth)
    (exactConns : ∀ c ∈ info.conns, c.IsExact) (shallowInfo : info.toJson.depth ≤ maxDepth) :
    let listing := before ++ (Json.arr (records.map TunnelRecord.toJson)).render ++ after
    let description := before ++ info.toJson.render ++ after
    TunnelRecord.parseList listing = .ok records ∧ TunnelInfo.parse description = .ok info ∧
      (TunnelInfo.parse description).map TunnelInfo.connectorIds = .ok (info.conns.map (·.id)) := by
  intro listing description
  have described : TunnelInfo.parse description = .ok info :=
    TunnelInfo.parse_toJson (prints_amid left right _) exactConns shallowInfo
  refine ⟨TunnelRecord.parseList_toJson (prints_amid left right _) exactRecords shallowRecords, described, ?_⟩
  rw [described]
  rfl

/-- Members of every kind, the least and the largest integer among them. -/
def sampleMembers : Members :=
  [("ä\"", .arr [.null, .bool true, .obj [("", .str "\x00\\"), ("Z", .arr [])]]),
    ("ö", .int (-9223372036854775808)), ("ü", .int 18446744073709551615)]

theorem isExact_sampleMembers : (Json.obj sampleMembers).IsExact := by
  have inner : Members.IsOrdered [("", .str "\x00\\"), ("Z", .arr [])] := by
    simp only [Members.IsOrdered]
    decide
  refine ⟨?_, ⟨trivial, trivial, ⟨inner, trivial, trivial, trivial⟩, trivial⟩, ?_, ?_, trivial⟩
  · simp only [Members.IsOrdered]
    decide
  · simp only [IsExact]
    omega
  · simp only [IsExact]
    omega

/-- Two tunnels of one name, and a tunnel with two connectors, between blanks beyond ASCII. -/
theorem sample_records_come_back :
    let records : List TunnelRecord := [⟨"t\n", "", sampleMembers⟩, ⟨"t\n", "é", []⟩]
    let info : TunnelInfo := ⟨"", "é", [⟨"c-2", sampleMembers⟩, ⟨"c-1", []⟩]⟩
    let listing := "\u2003" ++ (Json.arr (records.map TunnelRecord.toJson)).render ++ "\xa0\n"
    let description := "\u2003" ++ info.toJson.render ++ "\xa0\n"
    TunnelRecord.parseList listing = .ok records ∧ TunnelInfo.parse description = .ok info ∧
      (TunnelInfo.parse description).map TunnelInfo.connectorIds = .ok ["c-2", "c-1"] := by
  intro records info listing description
  have empty : (Json.obj []).IsExact := ⟨.nil, trivial⟩
  have exactRecords : ∀ r ∈ records, r.IsExact := by
    simp only [records, List.forall_mem_cons]
    exact ⟨⟨isExact_sampleMembers, by decide⟩, ⟨empty, by decide⟩, List.forall_mem_nil _⟩
  have exactConns : ∀ c ∈ info.conns, c.IsExact := by
    simp only [info, List.forall_mem_cons]
    exact ⟨⟨isExact_sampleMembers, by decide⟩, ⟨empty, by decide⟩, List.forall_mem_nil _⟩
  exact records_come_back_whole (by decide) (by decide) exactRecords (by decide) exactConns (by decide)

end GracefulDrain
