import GracefulDrain.Proofs.Credentials.Declared

/-! # Where a credential comes from and where it goes

A store holds a credential, or says that there is none, or is unusable: there is no text to be read in its file, or
the text is no document of stored credentials. Each store is just one of these, and what it answers follows
(`Holds.read`, `Unusable.read`). If a document has been written into its file, it is what the document declares
(`holds_written_iff`, `unusable_written_iff`). The configuration goes before the store. What has been found is put into
the command line as a pair of words, or not at all. -/

namespace GracefulDrain
open Json Json.Reader

/-! ### Files -/

namespace FileEntry
variable {entry : FileEntry} {reason : OsError}

/-- Why there is no text to be read. -/
inductive Unreadable : FileEntry → OsError → Prop
  | missing : Unreadable .missing .notFound
  | directory : Unreadable .directory .isADirectory
  | illFormed {octets : Bytes} (h : ∀ text, octets ≠ Utf8.encode text) : Unreadable (.contents octets) .invalidUtf8

theorem read_contents (text : String) : (contents (Utf8.encode text)).read = .ok text := by
  rw [read, Utf8.decode?_encode]

theorem Unreadable.read (h : entry.Unreadable reason) : entry.read = .error reason := by
  cases h with
  | missing => rfl
  | directory => rfl
  | @illFormed octets h =>
    cases decoded : Utf8.decode? octets with
    | some text => exact absurd (Utf8.decode?_eq_some_iff.1 decoded) (h text)
    | none => rw [FileEntry.read, decoded]

theorem readable_or_unreadable (entry : FileEntry) :
    (∃ text, entry = .contents (Utf8.encode text)) ∨ ∃ reason, entry.Unreadable reason := by
  cases entry with
  | missing => exact .inr ⟨_, .missing⟩
  | directory => exact .inr ⟨_, .directory⟩
  | contents octets =>
    cases decoded : Utf8.decode? octets with
    | some text => exact .inl ⟨text, congrArg _ (Utf8.decode?_eq_some_iff.1 decoded)⟩
    | none =>
      refine .inr ⟨_, .illFormed fun text same => ?_⟩
      rw [same, Utf8.decode?_encode] at decoded
      cases decoded

end FileEntry

namespace CredentialStore
variable {s : CredentialStore} {c : ProcessConfig} {mode : CommandMode} {cert : Option String}
  {f : CredentialFault} {front own words : List String} {v : Json}

/-! ### Stores -/

/-- The store has nothing against `cert`: there is no file, or its document declares that. -/
inductive Holds : CredentialStore → Option String → Prop
  | nowhere : Holds ⟨none⟩ none
  | stored (path : String) {text : String} {cert : Option String}
      (h : document stored (Utf8.encode text) = .ok ⟨cert⟩) :
      Holds ⟨some ⟨path, .contents (Utf8.encode text)⟩⟩ cert

/-- A file is named that cannot be read, or that holds no stored credentials. -/
inductive Unusable : CredentialStore → CredentialFault → Prop
  | unreadable (path : String) {entry : FileEntry} {reason : OsError} (h : entry.Unreadable reason) :
      Unusable ⟨some ⟨path, entry⟩⟩ (.unreadable path reason)
  | unparsable (path : String) {text : String} {reason : Json.Error}
      (h : document stored (Utf8.encode text) = .error reason) :
      Unusable ⟨some ⟨path, .contents (Utf8.encode text)⟩⟩ (.unparsable path reason)

theorem Holds.read (holds : s.Holds cert) : s.read = .ok (cert.bind nonEmpty) := by
  cases holds with
  | nowhere => rfl
  | stored path h => simp only [CredentialStore.read, FileEntry.read_contents, h]

theorem Unusable.read (unusable : s.Unusable f) : s.read = .error f := by
  cases unusable with
  | unreadable path h => simp only [CredentialStore.read, h.read]
  | unparsable path h => simp only [CredentialStore.read, FileEntry.read_contents, h]

theorem holds_or_unusable (s : CredentialStore) : (∃ cert, s.Holds cert) ∨ ∃ f, s.Unusable f := by
  obtain ⟨_ | ⟨path, entry⟩⟩ := s
  · exact .inl ⟨none, .nowhere⟩
  obtain ⟨text, rfl⟩ | ⟨reason, h⟩ := entry.readable_or_unreadable
  · cases h : document stored (Utf8.encode text) with
    | ok fields => exact .inl ⟨fields.originCert, .stored path h⟩
    | error reason => exact .inr ⟨_, .unparsable path h⟩
  · exact .inr ⟨_, .unreadable path h⟩

/-- The store whose file is what has been written of `v`. -/
def written (path : String) (v : Json) : CredentialStore := ⟨some ⟨path, .contents (Utf8.encode v.render)⟩⟩

theorem holds_contents_iff (path : String) {text : String} :
    Holds ⟨some ⟨path, .contents (Utf8.encode text)⟩⟩ cert ↔ document stored (Utf8.encode text) = .ok ⟨cert⟩ := by
  constructor
  · intro holds
    -- texts are not told apart by the form of their octets, so these have to be a variable here
    generalize Utf8.encode text = octets at holds ⊢
    cases holds with
    | stored path h => exact h
  · exact .stored path

theorem holds_written_iff (path : String) (free : v.IsDoubleFree) :
    (written path v).Holds cert ↔ declared v = some cert := by
  rw [written, holds_contents_iff, encode_render]
  constructor
  · intro h
    cases declares : declared v with
    | some cert' => cases h.symm.trans (document_written (reads_stored free declares)); rfl
    | none =>
      obtain ⟨e, refused⟩ := document_refuses (refuses_stored free declares)
      cases h.symm.trans refused
  · intro declares
    exact document_written (reads_stored free declares)

theorem unusable_written_iff (path : String) (free : v.IsDoubleFree) :
    (∃ f, (written path v).Unusable f) ↔ declared v = none := by
  constructor
  · rintro ⟨f, unusable⟩
    cases declares : declared v with
    | none => rfl
    | some cert => cases unusable.read.symm.trans ((holds_written_iff path free).2 declares).read
  · intro undeclared
    obtain ⟨cert, holds⟩ | unusable := (written path v).holds_or_unusable
    · cases undeclared.symm.trans ((holds_written_iff path free).1 holds)
    · exact unusable

/-! ### Command lines -/

/-- What the configuration says, or else the store. -/
inductive Finds (s : CredentialStore) (c : ProcessConfig) : Option String → Prop
  | explicit {cert : String} (h : c.originCert = some cert) : Finds s c (some cert)
  | stored {cert : Option String} (h : c.originCert = none) (holds : s.Holds cert) : Finds s c cert

/-- The words `front` and `own`, with a pair between them for a credential that is not empty. -/
inductive Inserts (front own : List String) : Option String → List String → Prop
  | none : Inserts front own none (front ++ own)
  | empty : Inserts front own (some "") (front ++ own)
  | pair {cert : String} (h : cert ≠ "") : Inserts front own (some cert) (front ++ "--origincert" :: cert :: own)

theorem Inserts.unique {words' : List String} (h : Inserts front own cert words) (h' : Inserts front own cert words') :
    words = words' := by
  cases h <;> cases h' <;> first | rfl | contradiction

theorem inserts_argv (c : ProcessConfig) (mode : CommandMode) (cert : Option String) :
    Inserts (c.program :: (mode.scope ++ c.configFlag)) (mode.words c) cert (c.argv (cert.bind nonEmpty) mode) := by
  have split (flag : List String) :
      c.program :: (mode.scope ++ (c.configFlag ++ (flag ++ mode.words c))) =
        c.program :: (mode.scope ++ c.configFlag) ++ (flag ++ mode.words c) := by
    rw [List.cons_append, List.append_assoc]
  rw [ProcessConfig.argv, split]
  cases cert with
  | none => exact .none
  | some cert =>
    by_cases h : cert = ""
    · subst h
      exact .empty
    · have full : cert.isEmpty = false := by simpa using h
      have flag : ProcessConfig.certFlag ((some cert).bind nonEmpty) = ["--origincert", cert] := by
        simp [nonEmpty, ProcessConfig.certFlag, full]
      rw [flag]
      exact .pair h

theorem Finds.resolve (finds : s.Finds c cert) : s.resolve c = .ok (cert.bind nonEmpty) := by
  cases finds with
  | explicit h => simp only [CredentialStore.resolve, h, Option.bind_some]
  | stored h holds => simp only [CredentialStore.resolve, h, holds.read]

theorem finds_or_unusable (s : CredentialStore) (c : ProcessConfig) :
    (∃ cert, s.Finds c cert) ∨ c.originCert = none ∧ ∃ f, s.Unusable f := by
  cases h : c.originCert with
  | some cert => exact .inl ⟨some cert, .explicit h⟩
  | none =>
    obtain ⟨cert, holds⟩ | unusable := s.holds_or_unusable
    · exact .inl ⟨cert, .stored h holds⟩
    · exact .inr ⟨rfl, unusable⟩

theorem Finds.argv (finds : s.Finds c cert) (mode : CommandMode) :
    s.argv c mode = .ok (c.argv (cert.bind nonEmpty) mode) := by
  rw [CredentialStore.argv, finds.resolve]
  rfl

theorem Unusable.argv (unusable : s.Unusable f) (h : c.originCert = none) (mode : CommandMode) :
    s.argv c mode = .error f := by
  simp only [CredentialStore.argv, CredentialStore.resolve, h, unusable.read]
  rfl

theorem argv_eq_ok_iff :
    s.argv c mode = .ok words ↔
      ∃ cert, s.Finds c cert ∧ Inserts (c.program :: (mode.scope ++ c.configFlag)) (mode.words c) cert words := by
  constructor
  · intro h
    obtain ⟨cert, finds⟩ | ⟨none, f, unusable⟩ := s.finds_or_unusable c
    · cases h.symm.trans (finds.argv mode)
      exact ⟨cert, finds, inserts_argv c mode cert⟩
    · cases h.symm.trans (unusable.argv none mode)
  · rintro ⟨cert, finds, inserts⟩
    rw [finds.argv, inserts.unique (inserts_argv c mode cert)]

theorem argv_eq_error_iff : s.argv c mode = .error f ↔ c.originCert = none ∧ s.Unusable f := by
  constructor
  · intro h
    obtain ⟨cert, finds⟩ | ⟨none, f', unusable⟩ := s.finds_or_unusable c
    · cases h.symm.trans (finds.argv mode)
    · cases h.symm.trans (unusable.argv none mode)
      exact ⟨none, unusable⟩
  · rintro ⟨none, unusable⟩
    exact unusable.argv none mode

/-- A credential of the configuration makes the store irrelevant, even if it is empty. Without one, there is no command
line just if the store is unusable, and the failure is one of configuration. Each command line is the one without a
credential, where a credential that is not empty stands right in front of the words of the command. A document that
has been written makes of a store what it declares. -/
theorem command_line_carries_credential (c : ProcessConfig) (mode : CommandMode) :
    (∀ cert, c.originCert = some cert → ∃ words, ∀ s : CredentialStore,
        s.resolve c = .ok (nonEmpty cert) ∧ s.argv c mode = .ok words) ∧
      (c.originCert = none → ∀ (s : CredentialStore) failure,
        (s.argv c mode).mapError CredentialFault.failure = .error failure ↔
          ∃ f, s.Unusable f ∧ failure = .configuration f.message) ∧
      (∃ front, c.argv none mode = front ++ mode.words c ∧
        ∀ (s : CredentialStore) words,
          s.argv c mode = .ok words ↔ ∃ cert, s.Finds c cert ∧ Inserts front (mode.words c) cert words) ∧
      ∀ path (v : Json), v.IsDoubleFree →
        (∀ cert, (written path v).Holds cert ↔ declared v = some cert) ∧
          ((∃ f, (written path v).Unusable f) ↔ declared v = none) := by
  refine ⟨fun cert h => ?_, fun none s failure => ?_, ?_,
    fun path v free => ⟨fun cert => holds_written_iff path free, unusable_written_iff path free⟩⟩
  · have finds (s : CredentialStore) : s.Finds c (some cert) := .explicit h
    exact ⟨_, fun s => ⟨(finds s).resolve, (finds s).argv mode⟩⟩
  · constructor
    · intro failed
      cases h : s.argv c mode with
      | ok words =>
        rw [h] at failed
        cases failed
      | error f =>
        rw [h] at failed
        cases failed
        exact ⟨f, (argv_eq_error_iff.1 h).2, rfl⟩
    · rintro ⟨f, unusable, rfl⟩
      rw [unusable.argv none mode]
      rfl
  · refine ⟨c.program :: (mode.scope ++ c.configFlag), ?_, fun s words => argv_eq_ok_iff⟩
    have plain := inserts_argv c mode none
    exact plain.unique .none

/-- A credential beside another field that has one of its own name inside. -/
def sampleDocument : Json :=
  .obj [("note", .arr [.null, .int (-1), .obj [("origincert", .bool true)]]), ("origincert", .str "é\"\n")]

theorem isDoubleFree_sampleDocument : sampleDocument.IsDoubleFree :=
  ⟨⟨trivial, trivial, ⟨trivial, trivial⟩, trivial⟩, trivial, trivial⟩

/-- What the sample declares is carried, no store that is missing is used, and an empty credential needs no store. -/
theorem sample_credential_is_carried :
    let c : ProcessConfig := { binary := Utf8.encode "link", runArgs := ["--ha-connections", "4"] }
    (written "store.json" sampleDocument).argv c .run =
        .ok [c.program, "tunnel", "--origincert", "é\"\n", "run", "--ha-connections", "4"] ∧
      (∃ failure, (CredentialStore.argv ⟨some ⟨"store.json", .missing⟩⟩ c .run).mapError CredentialFault.failure =
        .error failure) ∧
      ∀ s : CredentialStore, s.argv { c with originCert := some "" } .run =
        .ok [c.program, "tunnel", "run", "--ha-connections", "4"] := by
  intro c
  obtain ⟨-, fails, ⟨front, split, lines⟩, declares⟩ := command_line_carries_credential c .run
  obtain rfl : front = [c.program, "tunnel"] := by
    have plain : front ++ CommandMode.run.words c = [c.program, "tunnel"] ++ CommandMode.run.words c := split.symm
    exact List.append_cancel_right plain
  have holds : (written "store.json" sampleDocument).Holds (some "é\"\n") :=
    ((declares _ _ isDoubleFree_sampleDocument).1 _).2 (by decide)
  refine ⟨(lines _ _).2 ⟨_, .stored rfl holds, .pair (by decide)⟩, ?_, fun s => ?_⟩
  · exact ⟨_, (fails rfl _ _).2 ⟨_, .unreadable "store.json" .missing, rfl⟩⟩
  · obtain ⟨words, same⟩ := (command_line_carries_credential { c with originCert := some "" } .run).1 "" rfl
    rw [(same s).2, ← (same {}).2]
    rfl

end CredentialStore
end GracefulDrain
