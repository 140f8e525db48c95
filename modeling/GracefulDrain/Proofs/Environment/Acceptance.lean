import GracefulDrain.Environment
import GracefulDrain.Proofs.Connector.Arguments
import GracefulDrain.Proofs.Duration.Parts
import GracefulDrain.Proofs.Text.Numeral

/-! # Which environments are accepted, and what they set

Six variables are looked at in turn: two that have to be set, three numbers and a truth value. `Carries` says that a
piece of the loading carries out some of these checks: it fails with the first offence there is, and succeeds if
there is none. Pieces are put together by `Carries.bind`, and so the whole carries out all six of them
(`carries_load`).

What an accepted environment has set is a table, `Follows`: each field is what its own variable gives, and `Gives`
sees nothing of a variable but its value. Blanks give what no value gives. -/

namespace GracefulDrain

namespace Environment
variable {α β : Type} {lookup lookup' : String → Option String} {value : Option String} {key raw : String}
variable {e e' : Environment} {f f' : EnvironmentFault}

/-! ### Values -/

/-- The variable has the value `raw`, which is not only blanks. -/
def Holds (value : Option String) (raw : String) : Prop := value = some raw ∧ Text.allBlank raw = false

/-- The variable has no value, or one of blanks. -/
def IsUnset (value : Option String) : Prop := ∀ raw ∈ value, Text.allBlank raw

theorem isUnset_or_holds (value : Option String) : IsUnset value ∨ ∃ raw, Holds value raw := by
  cases value with
  | none => exact .inl (by simp [IsUnset])
  | some raw =>
    cases blank : Text.allBlank raw with
    | true => exact .inl (by simp [IsUnset, blank])
    | false => exact .inr ⟨raw, rfl, blank⟩

theorem Holds.not_isUnset (holds : Holds value raw) : ¬ IsUnset value := by
  intro unset
  have blank := unset raw holds.1
  simp [holds.2] at blank

theorem Holds.unique {raw' : String} (holds : Holds value raw) (holds' : Holds value raw') : raw = raw' :=
  Option.some_inj.1 (holds.1.symm.trans holds'.1)

theorem present_of_isUnset (unset : IsUnset (lookup key)) : present lookup key = none := by
  rw [present, Option.filter_eq_none_iff]
  intro raw hraw
  simp [unset raw hraw]

theorem present_of_holds (holds : Holds (lookup key) raw) : present lookup key = some raw := by
  rw [present, holds.1]
  exact Option.filter_some_pos (by simp [holds.2])

/-- What a variable sets: something by default, or whatever `reads` finds in its text. -/
inductive Gives {α : Type} (value : Option String) (reads : String → α → Prop) (default : α) : α → Prop
  | unset (h : IsUnset value) : Gives value reads default default
  | set {raw : String} {v : α} (holds : Holds value raw) (h : reads raw v) : Gives value reads default v

section
variable {reads : String → α → Prop} {default v w : α}

theorem Gives.unique (h : Gives value reads default v) (h' : Gives value reads default w)
    (functional : ∀ {raw v w}, reads raw v → reads raw w → v = w) : v = w := by
  rcases h with unset | ⟨holds, h⟩ <;> rcases h' with unset' | ⟨holds', h'⟩
  · rfl
  · exact absurd unset holds'.not_isUnset
  · exact absurd unset' holds.not_isUnset
  · rw [holds.unique holds'] at h
    exact functional h h'

theorem Gives.map (h : Gives value reads default v) (g : α → β) {reads' : String → β → Prop}
    (pass : ∀ {raw v}, reads raw v → reads' raw (g v)) : Gives value reads' (g default) (g v) := by
  rcases h with unset | ⟨holds, h⟩
  · exact .unset unset
  · exact .set holds (pass h)

theorem Gives.of_holds (h : Gives value reads default v) (holds : Holds value raw) : reads raw v := by
  rcases h with unset | ⟨holds', h⟩
  · exact absurd unset holds.not_isUnset
  · rwa [holds.unique holds']

theorem gives_present (lookup : String → Option String) (key : String) :
    Gives (lookup key) (fun raw v => v = some raw) none (present lookup key) := by
  rcases isUnset_or_holds (lookup key) with unset | ⟨raw, holds⟩
  · rw [present_of_isUnset unset]
    exact .unset unset
  · rw [present_of_holds holds]
    exact .set holds rfl

theorem gives_getD_present (lookup : String → Option String) (key default : String) :
    Gives (lookup key) Eq default ((present lookup key).getD default) :=
  (gives_present lookup key).map (·.getD default) (by rintro raw _ rfl; rfl)

end

/-! ### Checks -/

/-- The number that a text spells between blanks, at most `bound`. -/
def IsNumber (bound : Nat) (raw : String) (n : Nat) : Prop := Numeral.Spells bound (Text.trimBlanks raw.toList) n

/-- The truth value that a text spells between blanks. -/
def IsTruth (raw : String) (b : Bool) : Prop := Text.trim raw = toString b

theorem IsNumber.unique {bound n m : Nat} (h : IsNumber bound raw n) (h' : IsNumber bound raw m) : n = m :=
  Numeral.Spells.unique h h'

theorem IsTruth.unique {b b' : Bool} (h : IsTruth raw b) (h' : IsTruth raw b') : b = b' := by
  have words : ∀ b b' : Bool, toString b = toString b' → b = b' := by decide
  exact words b b' (h.symm.trans h')

theorem Gives.number_unique {bound default n m : Nat} (h : Gives value (IsNumber bound) default n)
    (h' : Gives value (IsNumber bound) default m) : n = m := h.unique h' IsNumber.unique

theorem Gives.number_le {bound default n : Nat} (h : Gives value (IsNumber bound) default n) (le : default ≤ bound) :
    n ≤ bound := by
  rcases h with _ | ⟨_, number⟩
  · exact le
  · exact number.le

theorem numeral_eq_ok_iff {bound n : Nat} {cs : List Char} : numeral bound cs = .ok n ↔ Numeral.Spells bound cs n := by
  rw [← Numeral.parse_eq_ok_iff, numeral]
  cases Numeral.parse bound cs <;> simp

theorem truth_eq_ok_iff {b : Bool} {cs : List Char} : truth cs = .ok b ↔ String.ofList cs = toString b := by
  have known : Truth.parse? (String.ofList cs) = some b ↔ String.ofList cs = toString b := by
    unfold Truth.parse?
    cases b with
    | true => simp [show toString true = "true" from rfl]
    | false =>
      by_cases h : String.ofList cs = "true"
      · simp [h, show toString false = "false" from rfl]
      · simp [h, show toString false = "false" from rfl]
  rw [← known, truth]
  cases Truth.parse? (String.ofList cs) <;> simp

/-- What is asked of a variable. -/
inductive Rule
  | required
  | numeral (bound : Nat)
  | truth

namespace Rule
variable {rule : Rule} {fault fault' : ValueFault}

/-- The text is as it should be. -/
def Accepts : Rule → String → Prop
  | .required, _ => True
  | .numeral bound, raw => ∃ n, IsNumber bound raw n
  | .truth, raw => ∃ b, IsTruth raw b

/-- The text is refused because of `fault`. -/
def Refuses : Rule → String → ValueFault → Prop
  | .required, _, _ => False
  | .numeral bound, raw, fault => Environment.numeral bound (Text.trimBlanks raw.toList) = .error fault
  | .truth, raw, fault => Environment.truth (Text.trimBlanks raw.toList) = .error fault

theorem Refuses.not_accepts (h : rule.Refuses raw fault) : ¬ rule.Accepts raw := by
  intro accepts
  cases rule with
  | required => exact h
  | numeral bound =>
    obtain ⟨n, number⟩ := accepts
    cases h.symm.trans (numeral_eq_ok_iff.2 number)
  | truth =>
    obtain ⟨b, word⟩ := accepts
    cases h.symm.trans (truth_eq_ok_iff.2 word)

theorem Refuses.unique (h : rule.Refuses raw fault) (h' : rule.Refuses raw fault') : fault = fault' := by
  cases rule with
  | required => exact h.elim
  | numeral bound => exact Except.error.inj (h.symm.trans h')
  | truth => exact Except.error.inj (h.symm.trans h')

end Rule

structure Check where
  key : String
  rule : Rule

/-- What is checked, in this order. -/
def checks : List Check :=
  [⟨"TUNNEL_BINARY", .required⟩, ⟨"TUNNEL_URL", .required⟩,
    ⟨"TUNNEL_HA_CONNECTIONS", .numeral (UInt32.size - 1)⟩, ⟨"GRACE_PERIOD_SECS", .numeral (UInt64.size - 1)⟩,
    ⟨"SCENARIO_TIMEOUT_SECS", .numeral (UInt64.size - 1)⟩, ⟨"STRICT_IDLE_SHUTDOWN", .truth⟩]

namespace Check
variable {c : Check}

/-- The variable is set if it has to be, and its text is as it should be. -/
structure Admits (c : Check) (value : Option String) : Prop where
  set : c.rule = .required → ¬ IsUnset value
  accepts : ∀ raw, Holds value raw → c.rule.Accepts raw

/-- The variable gives offence. -/
inductive Offends (c : Check) (value : Option String) : EnvironmentFault → Prop
  | unset (needed : c.rule = .required) (h : IsUnset value) : c.Offends value (.unset c.key)
  | invalid {raw : String} {fault : ValueFault} (holds : Holds value raw) (refused : c.rule.Refuses raw fault) :
      c.Offends value (.invalid c.key raw fault)

theorem Offends.not_admits (h : c.Offends value f) : ¬ c.Admits value := by
  rintro ⟨set, accepts⟩
  rcases h with ⟨needed, unset⟩ | ⟨holds, refused⟩
  · exact set needed unset
  · exact refused.not_accepts (accepts _ holds)

theorem Offends.unique (h : c.Offends value f) (h' : c.Offends value f') : f = f' := by
  rcases h with ⟨-, unset⟩ | ⟨holds, refused⟩ <;> rcases h' with ⟨-, unset'⟩ | ⟨holds', refused'⟩
  · rfl
  · exact absurd unset holds'.not_isUnset
  · exact absurd unset' holds.not_isUnset
  · obtain rfl := holds.unique holds'
    rw [refused.unique refused']

/-- The report begins with the name of the variable and shows the text as it was set. -/
theorem Offends.message (h : c.Offends value f) :
    f.message = c.key ++ " must be set" ∨ ∃ raw fault, Holds value raw ∧ c.rule.Refuses raw fault ∧
      f.message = c.key ++ " must be valid, got " ++ Text.quote raw ++ ": " ++ fault.message := by
  cases h with
  | unset needed h => exact .inl rfl
  | invalid holds refused => exact .inr ⟨_, _, holds, refused, rfl⟩

end Check

/-- Of the checks, taken in turn, the first that is not passed fails with `f`. -/
inductive First (lookup : String → Option String) : List Check → EnvironmentFault → Prop
  | here {c : Check} {cs : List Check} {f : EnvironmentFault} (offends : c.Offends (lookup c.key) f) :
      First lookup (c :: cs) f
  | later {c : Check} {cs : List Check} {f : EnvironmentFault} (admits : c.Admits (lookup c.key))
      (first : First lookup cs f) : First lookup (c :: cs) f

theorem First.exists_mem {cs : List Check} (h : First lookup cs f) : ∃ c ∈ cs, c.Offends (lookup c.key) f := by
  induction h with
  | here offends => exact ⟨_, List.mem_cons_self, offends⟩
  | later admits first ih =>
    obtain ⟨c, hc, offends⟩ := ih
    exact ⟨c, List.mem_cons_of_mem _ hc, offends⟩

/-- `x` carries out the checks: it fails with the first offence and succeeds if there is none. -/
structure Carries (lookup : String → Option String) (cs : List Check) (x : Except EnvironmentFault α) : Prop where
  fails : ∀ f, x = .error f ↔ First lookup cs f
  succeeds : (∃ a, x = .ok a) ↔ ∀ c ∈ cs, c.Admits (lookup c.key)

namespace Carries
variable {c : Check} {cs : List Check} {x : Except EnvironmentFault α} {k : α → Except EnvironmentFault β}

theorem of_offends (offends : c.Offends (lookup c.key) f) :
    Carries lookup (c :: cs) (.error f : Except EnvironmentFault α) where
  fails f' := by
    constructor
    · rintro ⟨⟩
      exact .here offends
    · rintro (offends' | ⟨admits, -⟩)
      · rw [offends.unique offends']
      · exact absurd admits offends.not_admits
  succeeds := ⟨nofun, fun all => absurd (all c List.mem_cons_self) offends.not_admits⟩

theorem of_admits (admits : c.Admits (lookup c.key)) {x : Except EnvironmentFault α} (rest : Carries lookup cs x) :
    Carries lookup (c :: cs) x where
  fails f := by
    rw [rest.fails]
    constructor
    · exact .later admits
    · rintro (offends | ⟨-, first⟩)
      · exact absurd admits offends.not_admits
      · exact first
  succeeds := by
    rw [rest.succeeds, List.forall_mem_cons]
    exact (and_iff_right admits).symm

theorem ok (a : α) : Carries lookup [] (.ok a : Except EnvironmentFault α) where
  fails _ := ⟨nofun, nofun⟩
  succeeds := ⟨fun _ _ => nofun, fun _ => ⟨a, rfl⟩⟩

theorem bind (head : Carries lookup [c] x) (tail : ∀ a, Carries lookup cs (k a)) :
    Carries lookup (c :: cs) (x >>= k) := by
  cases x with
  | error f =>
    obtain ⟨c', hc', offends⟩ := ((head.fails f).1 rfl).exists_mem
    rw [List.mem_singleton.1 hc'] at offends
    exact of_offends offends
  | ok a => exact of_admits (head.succeeds.1 ⟨a, rfl⟩ c List.mem_cons_self) (tail a)

end Carries

theorem carries_required (lookup : String → Option String) (key : String) :
    Carries lookup [⟨key, .required⟩] (required lookup key) := by
  unfold required
  rcases isUnset_or_holds (lookup key) with unset | ⟨raw, holds⟩
  · rw [present_of_isUnset unset]
    exact .of_offends (.unset rfl unset)
  · rw [present_of_holds holds]
    have admits : Check.Admits ⟨key, .required⟩ (lookup key) := ⟨fun _ => holds.not_isUnset, fun _ _ => trivial⟩
    exact .of_admits admits (.ok raw)

/-- A variable with a default is checked by its reader. -/
theorem carries_parsed {read : List Char → Except ValueFault α} {rule : Rule} (lookup : String → Option String)
    (key : String) (default : α) (optional : rule ≠ .required)
    (accepts : ∀ raw v, read (Text.trimBlanks raw.toList) = .ok v → rule.Accepts raw)
    (refuses : ∀ raw fault, read (Text.trimBlanks raw.toList) = .error fault → rule.Refuses raw fault) :
    Carries lookup [⟨key, rule⟩] (parsed read lookup key default) := by
  unfold parsed
  rcases isUnset_or_holds (lookup key) with unset | ⟨raw, holds⟩
  · rw [present_of_isUnset unset]
    exact .of_admits ⟨fun needed => absurd needed optional, fun _ holds => absurd unset holds.not_isUnset⟩ (.ok default)
  · rw [present_of_holds holds]
    simp only
    cases known : read (Text.trimBlanks raw.toList) with
    | error fault => exact .of_offends (.invalid holds (refuses raw fault known))
    | ok v =>
      refine .of_admits ⟨fun needed => absurd needed optional, fun raw' holds' => ?_⟩ (.ok v)
      rw [← holds.unique holds']
      exact accepts raw v known

theorem carries_numeral (lookup : String → Option String) (key : String) (bound default : Nat) :
    Carries lookup [⟨key, .numeral bound⟩] (parsed (numeral bound) lookup key default) :=
  carries_parsed lookup key default nofun (fun _ n known => ⟨n, numeral_eq_ok_iff.1 known⟩) fun _ _ known => known

theorem carries_truth (lookup : String → Option String) (key : String) (default : Bool) :
    Carries lookup [⟨key, .truth⟩] (parsed truth lookup key default) :=
  carries_parsed lookup key default nofun (fun _ b known => ⟨b, truth_eq_ok_iff.1 known⟩) fun _ _ known => known

theorem carries_load (lookup : String → Option String) : Carries lookup checks (load lookup) :=
  (carries_required lookup _).bind fun _ =>
  (carries_required lookup _).bind fun _ =>
  (carries_numeral lookup _ _ _).bind fun _ =>
  (carries_numeral lookup _ _ _).bind fun _ =>
  (carries_numeral lookup _ _ _).bind fun _ =>
  (carries_truth lookup _ _).bind fun _ => .ok _

/-! ### Settings -/

/-- Each field is what its own variable gives. -/
structure Follows (lookup : String → Option String) (e : Environment) : Prop where
  binary : ∃ raw, Holds (lookup "TUNNEL_BINARY") raw ∧ e.process.binary = Utf8.encode raw
  tunnelUrl : Holds (lookup "TUNNEL_URL") e.tunnelUrl
  readyUrl : Gives (lookup "TUNNEL_READY_URL") Eq e.tunnelUrl e.readyUrl
  connections : ∃ n : UInt32, Gives (lookup "TUNNEL_HA_CONNECTIONS") (IsNumber (UInt32.size - 1)) 1 n.toNat ∧
    e.process.runArgs = ["--ha-connections", toString n.toNat]
  gracePeriod : ∃ n, Gives (lookup "GRACE_PERIOD_SECS") (IsNumber (UInt64.size - 1)) 5 n ∧
    e.process.gracePeriod.nanos = n * 1_000_000_000
  scenarioTimeout : ∃ n, Gives (lookup "SCENARIO_TIMEOUT_SECS") (IsNumber (UInt64.size - 1)) 10 n ∧
    e.scenarioTimeout.nanos = n * 1_000_000_000
  strictIdle : Gives (lookup "STRICT_IDLE_SHUTDOWN") IsTruth false e.strictIdle
  protocol : Gives (lookup "TUNNEL_PROTOCOL") Eq "http2" e.process.protocol
  configPath : Gives (lookup "TUNNEL_CONFIG_PATH") (fun raw path => path = some (Utf8.encode raw)) none
    e.process.configPath
  credentials : Gives (lookup "CREDENTIALS_FILE") (fun raw file => file = some raw) none e.credentials
  tunnelId : Gives (lookup "TUNNEL_ID") (fun raw tunnel => tunnel = some raw) none e.tunnelId
  managementHost : Gives (lookup "MANAGEMENT_HOST") Eq "management.tunnellink.local" e.managementHost
  originCert : e.process.originCert = none
  termination : e.process.termination = {}

/-- The table leaves nothing open. -/
theorem Follows.unique (h : Follows lookup e) (h' : Follows lookup e') : e = e' := by
  have binary : e.process.binary = e'.process.binary := by
    obtain ⟨raw, holds, same⟩ := h.binary
    obtain ⟨raw', holds', same'⟩ := h'.binary
    rw [same, same', holds.unique holds']
  have tunnelUrl : e.tunnelUrl = e'.tunnelUrl := h.tunnelUrl.unique h'.tunnelUrl
  have readyUrl : e.readyUrl = e'.readyUrl := by
    have readyUrl := h.readyUrl
    rw [tunnelUrl] at readyUrl
    exact readyUrl.unique h'.readyUrl (fun h h' => h.symm.trans h')
  have runArgs : e.process.runArgs = e'.process.runArgs := by
    obtain ⟨n, given, same⟩ := h.connections
    obtain ⟨n', given', same'⟩ := h'.connections
    rw [same, same', given.number_unique given']
  have seconds {value : Option String} {default : Nat} {d d' : Duration}
      (h : ∃ n, Gives value (IsNumber (UInt64.size - 1)) default n ∧ d.nanos = n * 1_000_000_000)
      (h' : ∃ n, Gives value (IsNumber (UInt64.size - 1)) default n ∧ d'.nanos = n * 1_000_000_000) : d = d' := by
    obtain ⟨n, given, same⟩ := h
    obtain ⟨n', given', same'⟩ := h'
    rw [Duration.eq_iff_nanos, same, same', given.number_unique given']
  have gracePeriod := seconds h.gracePeriod h'.gracePeriod
  have scenarioTimeout := seconds h.scenarioTimeout h'.scenarioTimeout
  have strictIdle := h.strictIdle.unique h'.strictIdle IsTruth.unique
  have protocol := h.protocol.unique h'.protocol (fun h h' => h.symm.trans h')
  have managementHost := h.managementHost.unique h'.managementHost (fun h h' => h.symm.trans h')
  have configPath := h.configPath.unique h'.configPath (fun h h' => h.trans h'.symm)
  have credentials := h.credentials.unique h'.credentials (fun h h' => h.trans h'.symm)
  have tunnelId := h.tunnelId.unique h'.tunnelId (fun h h' => h.trans h'.symm)
  have originCert := h.originCert.trans h'.originCert.symm
  have termination := h.termination.trans h'.termination.symm
  rcases e with ⟨⟨⟩⟩
  rcases e' with ⟨⟨⟩⟩
  simp_all

theorem ok_of_bind {ε α β : Type} {x : Except ε α} {f : α → Except ε β} {b : β} (h : (x >>= f) = .ok b) :
    ∃ a, x = .ok a ∧ f a = .ok b := by
  cases x with
  | error e => cases h
  | ok a => exact ⟨a, rfl, h⟩

theorem holds_of_required (h : required lookup key = .ok raw) : Holds (lookup key) raw := by
  unfold required at h
  rcases isUnset_or_holds (lookup key) with unset | ⟨raw', holds⟩
  · rw [present_of_isUnset unset] at h
    cases h
  · rw [present_of_holds holds] at h
    cases h
    exact holds

theorem gives_of_parsed {read : List Char → Except ValueFault α} {default v : α}
    (h : parsed read lookup key default = .ok v) :
    Gives (lookup key) (fun raw v => read (Text.trimBlanks raw.toList) = .ok v) default v := by
  unfold parsed at h
  rcases isUnset_or_holds (lookup key) with unset | ⟨raw, holds⟩
  · rw [present_of_isUnset unset] at h
    cases h
    exact .unset unset
  · rw [present_of_holds holds] at h
    simp only at h
    split at h
    · next read =>
      cases h
      exact .set holds read
    · cases h

theorem gives_number {bound default n : Nat} (h : parsed (numeral bound) lookup key default = .ok n) :
    Gives (lookup key) (IsNumber bound) default n := (gives_of_parsed h).map id numeral_eq_ok_iff.1

theorem Follows.of_load (accepted : load lookup = .ok e) : Follows lookup e := by
  unfold load at accepted
  obtain ⟨binary, hbinary, accepted⟩ := ok_of_bind accepted
  obtain ⟨tunnelUrl, htunnelUrl, accepted⟩ := ok_of_bind accepted
  obtain ⟨connections, hconnections, accepted⟩ := ok_of_bind accepted
  obtain ⟨graceSecs, hgraceSecs, accepted⟩ := ok_of_bind accepted
  obtain ⟨timeoutSecs, htimeoutSecs, accepted⟩ := ok_of_bind accepted
  obtain ⟨strictIdle, hstrictIdle, accepted⟩ := ok_of_bind accepted
  cases accepted
  have seconds {key : String} {default n : Nat} (le : default ≤ UInt64.size - 1)
      (h : parsed (numeral (UInt64.size - 1)) lookup key default = .ok n) :
      ∃ m, Gives (lookup key) (IsNumber (UInt64.size - 1)) default m ∧
        (Duration.ofSecs n).nanos = m * 1_000_000_000 := by
    have given := gives_number h
    exact ⟨n, given, Duration.ofSecs_nanos (Nat.lt_of_le_sub_one (by decide) (given.number_le le))⟩
  exact {
    binary := ⟨binary, holds_of_required hbinary, rfl⟩
    tunnelUrl := holds_of_required htunnelUrl
    readyUrl := gives_getD_present lookup _ _
    connections := by
      have given := gives_number hconnections
      have back : connections.toUInt32.toNat = connections :=
        UInt32.toNat_ofNat_of_lt' (Nat.lt_of_le_sub_one (by decide) (given.number_le (by decide)))
      refine ⟨connections.toUInt32, ?_, List.nil_append _⟩
      rwa [back]
    gracePeriod := seconds (by decide) hgraceSecs
    scenarioTimeout := seconds (by decide) htimeoutSecs
    strictIdle := (gives_of_parsed hstrictIdle).map id truth_eq_ok_iff.1
    protocol := gives_getD_present lookup _ _
    configPath := (gives_present lookup _).map (·.map Utf8.encode) (by rintro raw _ rfl; rfl)
    credentials := gives_present lookup _
    tunnelId := gives_present lookup _
    managementHost := gives_getD_present lookup _ _
    originCert := rfl
    termination := rfl }

theorem Follows.admits (h : Follows lookup e) : ∀ c ∈ checks, c.Admits (lookup c.key) := by
  obtain ⟨raw, holds, -⟩ := h.binary
  obtain ⟨n, connections, -⟩ := h.connections
  obtain ⟨graceSecs, gracePeriod, -⟩ := h.gracePeriod
  obtain ⟨timeoutSecs, scenarioTimeout, -⟩ := h.scenarioTimeout
  have required {key raw : String} (holds : Holds (lookup key) raw) :
      Check.Admits ⟨key, .required⟩ (lookup key) := ⟨fun _ => holds.not_isUnset, fun _ _ => trivial⟩
  have number {key : String} {bound default n : Nat} (h : Gives (lookup key) (IsNumber bound) default n) :
      Check.Admits ⟨key, .numeral bound⟩ (lookup key) := ⟨nofun, fun _ holds => ⟨n, h.of_holds holds⟩⟩
  simp only [checks, List.forall_mem_cons]
  exact ⟨required holds, required h.tunnelUrl, number connections, number gracePeriod, number scenarioTimeout,
    ⟨nofun, fun _ holds => ⟨_, h.strictIdle.of_holds holds⟩⟩, List.forall_mem_nil _⟩

theorem load_eq_ok_iff : load lookup = .ok e ↔ Follows lookup e := by
  constructor
  · exact Follows.of_load
  · intro h
    obtain ⟨e', accepted⟩ := (carries_load lookup).succeeds.2 h.admits
    rw [accepted, h.unique (.of_load accepted)]

/-! ### What the settings come to -/

/-- Only what is present of the variables is looked at. -/
theorem load_congr (same : present lookup = present lookup') : load lookup = load lookup' := by
  unfold load required parsed
  rw [same]

theorem present_of_blanks {texts : String → Option String} (blank : ∀ key, ∀ text ∈ texts key, Text.allBlank text) :
    present (fun key => (texts key).or (lookup key)) =
      present fun key => if (texts key).isSome then none else lookup key := by
  funext key
  unfold present
  cases set : texts key with
  | none => simp [set]
  | some text => simp [set, blank key text set]

/-- The server's command line ends in the number of connections, and that is what a connector reads. -/
theorem run_argv_connections {c : ProcessConfig} {n : UInt32}
    (runArgs : c.runArgs = ["--ha-connections", toString n.toNat]) (cert : Option String) :
    (∃ front, c.argv cert .run = front ++ ["run", "--ha-connections", toString n.toNat]) ∧
      ∃ read, Connector.Invocation.parse (c.argv cert .run).tail = .ok read ∧ read.connections = some n := by
  refine ⟨⟨c.program :: ("tunnel" :: (c.configFlag ++ ProcessConfig.certFlag cert)), ?_⟩, ?_⟩
  · simp [ProcessConfig.argv, CommandMode.scope, CommandMode.words, runArgs]
  · have given : c.runArgs = [n].flatMap fun n => [Connector.Flag.connections.name, toString n.toNat] := runArgs
    exact ⟨_, Connector.Invocation.parse_tail_argv c cert .run given, rfl⟩

/-- An environment is accepted just if it passes the checks. Otherwise there is a failure of configuration, due to the
first check that it does not pass, in a report that begins with the name of the variable. A variable of blanks is as
good as none. What is accepted is what the variables give, each for itself, and so are the settings of a scenario and
the number of connections that a server is asked for. -/
theorem accepted_just_if_valid (lookup : String → Option String) :
    ((∃ e, load lookup = .ok e) ↔ ∀ c ∈ checks, c.Admits (lookup c.key)) ∧
      (∀ failure, (load lookup).mapError EnvironmentFault.failure = .error failure ↔
        ∃ f, First lookup checks f ∧ failure = .configuration f.message) ∧
      (∀ f, First lookup checks f → ∃ c ∈ checks, c.Offends (lookup c.key) f ∧
        (f.message = c.key ++ " must be set" ∨ ∃ raw fault, Holds (lookup c.key) raw ∧ c.rule.Refuses raw fault ∧
          f.message = c.key ++ " must be valid, got " ++ Text.quote raw ++ ": " ++ fault.message)) ∧
      (∀ texts : String → Option String, (∀ key, ∀ text ∈ texts key, Text.allBlank text) →
        load (fun key => (texts key).or (lookup key)) =
          load fun key => if (texts key).isSome then none else lookup key) ∧
      (∀ e, load lookup = .ok e ↔ Follows lookup e) ∧
      ∀ e, load lookup = .ok e →
        e.settings = ⟨trimSlashesRight e.tunnelUrl, e.readyUrl, "/sse?freq=1s", e.scenarioTimeout, .ofSecs 30,
          e.strictIdle⟩ ∧
        ∃ n : UInt32, Gives (lookup "TUNNEL_HA_CONNECTIONS") (IsNumber (UInt32.size - 1)) 1 n.toNat ∧
          e.process.runArgs = ["--ha-connections", toString n.toNat] ∧ ∀ cert,
          (∃ front, e.process.argv cert .run = front ++ ["run", "--ha-connections", toString n.toNat]) ∧
          ∃ read, Connector.Invocation.parse (e.process.argv cert .run).tail = .ok read ∧
            read.connections = some n := by
  have carries := carries_load lookup
  refine ⟨carries.succeeds, fun failure => ?_, fun f first => ?_,
    fun texts blank => load_congr (present_of_blanks blank), fun e => load_eq_ok_iff, fun e accepted => ⟨rfl, ?_⟩⟩
  · simp only [← carries.fails]
    cases load lookup with
    | ok e => simp [Except.mapError]
    | error f => simp [Except.mapError, EnvironmentFault.failure, eq_comm]
  · obtain ⟨c, hc, offends⟩ := first.exists_mem
    exact ⟨c, hc, offends, offends.message⟩
  · obtain ⟨n, given, runArgs⟩ := (Follows.of_load accepted).connections
    exact ⟨n, given, runArgs, run_argv_connections runArgs⟩

/-- Four connections, asked for between blanks. -/
def fourConnections (key : String) : Option String :=
  if key = "TUNNEL_BINARY" then some "/usr/local/bin/tunnellink"
  else if key = "TUNNEL_URL" then some "https://demo.example.com/"
  else if key = "TUNNEL_HA_CONNECTIONS" then some " +4\n"
  else none

/-- Blanks in the place of a number. -/
def blankGracePeriod (key : String) : Option String := if key = "GRACE_PERIOD_SECS" then some "\u2003" else none

/-- The server is asked for four connections, and a grace period of blanks leaves it at that. -/
theorem four_connections_accepted : ∃ e, load fourConnections = .ok e ∧ Follows fourConnections e ∧
    (∃ front, e.process.argv none .run = front ++ ["run", "--ha-connections", "4"]) ∧
    load (fun key => (blankGracePeriod key).or (fourConnections key)) =
      load fun key => if (blankGracePeriod key).isSome then none else fourConnections key := by
  obtain ⟨e, accepted, four⟩ : ∃ e, load fourConnections = .ok e ∧ e.process.runArgs = ["--ha-connections", "4"] :=
    ⟨_, rfl, rfl⟩
  have blank : ∀ key, ∀ text ∈ blankGracePeriod key, Text.allBlank text := by
    intro key text set
    unfold blankGracePeriod at set
    split at set
    · cases set
      decide
    · cases set
  obtain ⟨-, -, -, blanks, table, settings⟩ := accepted_just_if_valid fourConnections
  obtain ⟨-, n, -, runArgs, argv⟩ := settings e accepted
  obtain ⟨⟨front, line⟩, -⟩ := argv none
  have line : e.process.argv none .run = front ++ "run" :: ["--ha-connections", toString n.toNat] := line
  rw [← runArgs, four] at line
  exact ⟨e, accepted, (table e).1 accepted, ⟨front, line⟩, blanks blankGracePeriod blank⟩
end Environment

end GracefulDrain
