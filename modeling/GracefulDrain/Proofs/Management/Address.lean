import GracefulDrain.Management.Url
import GracefulDrain.Proofs.Json.Text
import GracefulDrain.Uuid

/-! # What a management address says

The connector and the token stand in the query part of an address as they are. A reader of that part cuts it at
each `&`, cuts the pieces at their first `=`, and puts an octet in place of each percent escape. The reader finds
the two parameters that were meant unless a value holds one of the two things that are read as something else: an
`&`, which makes one piece more (`two_le_length_splitOn`), or an escape, which loses octets
(`length_unescape_lt`).

As for which address belongs to which call, the only ambiguity is the text that stands between the two values. It
has an `&` at its start and nowhere else, so it cannot overlap itself, and the token begins where it first ends
(`append_mark_inj`). -/

namespace GracefulDrain.Query
open Utf8 (octets octets_cons octets_append octets_toList)

/-! ### Percent escapes -/

/-- The octet that three characters spell, if they are a percent escape. -/
def escape? (c a b : Char) : Option UInt8 :=
  if c = '%' then do return .ofNat ((← Uuid.hexDigit? a).val * 16 + (← Uuid.hexDigit? b).val) else none

/-- The octets of a text, with one octet for each percent escape. -/
def unescape : List Char → Bytes
  | c :: a :: b :: cs =>
    match escape? c a b with
    | some octet => octet :: unescape cs
    | none => String.utf8EncodeChar c ++ unescape (a :: b :: cs)
  | cs => octets cs

def HasEscape (cs : List Char) : Prop := ∃ c a b, (escape? c a b).isSome ∧ [c, a, b] <:+: cs

theorem hasEscape_cons {c a b : Char} {cs : List Char} (none : escape? c a b = none) :
    HasEscape (c :: a :: b :: cs) ↔ HasEscape (a :: b :: cs) := by
  constructor
  · rintro ⟨c', a', b', spells, inner⟩
    rcases List.infix_cons_iff.mp inner with front | inner
    · simp_all
    · exact ⟨c', a', b', spells, inner⟩
  · rintro ⟨c', a', b', spells, inner⟩
    exact ⟨c', a', b', spells, List.infix_cons inner⟩

theorem length_octets_cons (c : Char) (cs : List Char) :
    (octets (c :: cs)).length = c.utf8Size + (octets cs).length := by
  rw [octets_cons, List.length_append, String.length_utf8EncodeChar]

theorem length_unescape_le (cs : List Char) : (unescape cs).length ≤ (octets cs).length := by
  fun_induction unescape cs with
  | case1 c a b cs octet spells ih =>
    have := c.utf8Size_pos
    simp only [List.length_cons, length_octets_cons]
    omega
  | case2 c a b cs none ih =>
    rw [octets_cons, List.length_append, List.length_append]
    omega
  | case3 cs short => exact le_rfl

/-- An escape takes three octets and stands for one. -/
theorem length_unescape_lt {cs : List Char} (h : HasEscape cs) : (unescape cs).length < (octets cs).length := by
  fun_induction unescape cs with
  | case1 c a b cs octet spells ih =>
    have := c.utf8Size_pos
    have := a.utf8Size_pos
    have := length_unescape_le cs
    simp only [List.length_cons, length_octets_cons]
    omega
  | case2 c a b cs none ih =>
    have := ih ((hasEscape_cons none).mp h)
    rw [octets_cons, List.length_append, List.length_append]
    omega
  | case3 cs short =>
    obtain ⟨c, a, b, -, inner⟩ := h
    match cs, inner.length_le with
    | c' :: a' :: b' :: cs', _ => exact absurd rfl (short c' a' b' cs')

theorem unescape_of_not_hasEscape {cs : List Char} (h : ¬ HasEscape cs) : unescape cs = octets cs := by
  fun_induction unescape cs with
  | case1 c a b cs octet spells ih =>
    exact absurd ⟨c, a, b, by simp [spells], List.prefix_append [c, a, b] cs |>.isInfix⟩ h
  | case2 c a b cs none ih => rw [ih (mt (hasEscape_cons none).mpr h), ← octets_cons]
  | case3 cs short => rfl

theorem unescape_eq_octets_iff {cs : List Char} : unescape cs = octets cs ↔ ¬ HasEscape cs :=
  ⟨fun same escape => (length_unescape_lt escape).ne (congrArg _ same), unescape_of_not_hasEscape⟩

/-! ### Parameters -/

/-- What stands behind the first `?` of an address. -/
def part (url : String) : List Char := (url.toList.dropWhile (· != '?')).drop 1

/-- The octets of a name and of the value behind it. -/
def parameter (cs : List Char) : Bytes × Bytes :=
  (unescape (cs.takeWhile (· != '=')), unescape ((cs.dropWhile (· != '=')).drop 1))

/-- The parameters of an address, each a name and a value. -/
def parameters (url : String) : List (Bytes × Bytes) := ((part url).splitOn '&').map parameter

theorem parameter_assigned {name : List Char} (value : List Char) (h : '=' ∉ name) :
    parameter (name ++ '=' :: value) = (unescape name, unescape value) := by
  have plain : ∀ c ∈ name, (c != '=') = true := fun c mem => bne_iff_ne.mpr (ne_of_mem_of_not_mem mem h)
  rw [parameter, List.takeWhile_append_of_pos plain, List.dropWhile_append_of_pos plain]
  simp

/-- An assignment that is not cut is one parameter. -/
theorem map_parameter_assigned {value : String} (name assigned : String)
    (same : assigned.toList = name.toList ++ ['=']) (plain : '=' ∉ name.toList) (uncut : '&' ∉ assigned.toList)
    (h : '&' ∉ value.toList) :
    ((assigned.toList ++ value.toList).splitOn '&').map parameter =
      [(unescape name.toList, unescape value.toList)] := by
  rw [List.splitOn_eq_singleton (by simp [uncut, h]), List.map_singleton, same, List.append_assoc,
    List.singleton_append, parameter_assigned _ plain]

theorem one_le_length_splitOn (a : Char) (cs : List Char) : 1 ≤ (cs.splitOn a).length :=
  List.length_pos_iff.mpr (List.splitOn_ne_nil a cs)

theorem two_le_length_splitOn {a : Char} {cs : List Char} (h : a ∈ cs) : 2 ≤ (cs.splitOn a).length := by
  obtain ⟨front, back, rfl⟩ := List.append_of_mem h
  have := one_le_length_splitOn a front
  have := one_le_length_splitOn a back
  rw [List.splitOn_append_cons_self, List.length_append]
  omega

/-! ### The query part of a management address -/

/-- What stands between the connector and the token. -/
def mark : List Char := '&' :: "access_token=".toList

theorem mem_trimSlashesRight {c : Char} {s : String} (h : c ∈ (trimSlashesRight s).toList) : c ∈ s.toList := by
  rw [trimSlashesRight, String.toList_ofList, Text.dropRight, List.mem_reverse] at h
  exact List.mem_reverse.mp ((List.dropWhile_suffix _).mem h)

theorem mem_trimSlashesLeft {c : Char} {s : String} (h : c ∈ (trimSlashesLeft s).toList) : c ∈ s.toList := by
  rw [trimSlashesLeft, String.toList_ofList] at h
  exact (List.dropWhile_suffix _).mem h

/-- What stands in front of the query part. -/
def front (scheme : UrlScheme) (host path : String) : List Char :=
  scheme.name.toList ++ "://".toList ++ (trimSlashesRight host).toList ++ ['/'] ++ (trimSlashesLeft path).toList

theorem toList_managementUrl (scheme : UrlScheme) (host path connector token : String) :
    (managementUrl scheme host path connector token).toList = front scheme host path ++
      '?' :: ("connector_id=".toList ++ connector.toList ++ (mark ++ token.toList)) := by
  have question : "?connector_id=".toList = '?' :: "connector_id=".toList := by simp
  have ampersand : "&access_token=".toList = mark := by simp [mark]
  have slash : "/".toList = ['/'] := by simp
  simp only [managementUrl, toString, String.toList_append, question, ampersand, slash, front,
    List.append_assoc, List.cons_append]

variable {scheme scheme' : UrlScheme} {host host' path path' connector connector' token token' : String}

theorem not_mem_front (scheme : UrlScheme) (noHost : '?' ∉ host.toList) (noPath : '?' ∉ path.toList) :
    '?' ∉ front scheme host path := by
  have noScheme : '?' ∉ scheme.name.toList := by cases scheme <;> decide
  simp only [front, List.mem_append, not_or]
  exact ⟨⟨⟨⟨noScheme, by decide⟩, mt mem_trimSlashesRight noHost⟩, by decide⟩, mt mem_trimSlashesLeft noPath⟩

theorem part_managementUrl (scheme : UrlScheme) (connector token : String) (noHost : '?' ∉ host.toList)
    (noPath : '?' ∉ path.toList) :
    part (managementUrl scheme host path connector token) =
      "connector_id=".toList ++ connector.toList ++ (mark ++ token.toList) := by
  have plain : ∀ c ∈ front scheme host path, (c != '?') = true := fun c mem =>
    bne_iff_ne.mpr (ne_of_mem_of_not_mem mem (not_mem_front scheme noHost noPath))
  rw [part, toList_managementUrl, List.dropWhile_append_of_pos plain, List.dropWhile_cons_of_neg (by decide),
    List.drop_one, List.tail_cons]

theorem parameters_managementUrl (scheme : UrlScheme) (connector token : String) (noHost : '?' ∉ host.toList)
    (noPath : '?' ∉ path.toList) :
    parameters (managementUrl scheme host path connector token) =
      (("connector_id=".toList ++ connector.toList).splitOn '&').map parameter ++
        (("access_token=".toList ++ token.toList).splitOn '&').map parameter := by
  rw [parameters, part_managementUrl scheme connector token noHost noPath, mark, List.cons_append,
    List.splitOn_append_cons_self, List.map_append]

/-- What is found where no value is cut. -/
theorem parameters_of_uncut (scheme : UrlScheme) (noHost : '?' ∉ host.toList) (noPath : '?' ∉ path.toList)
    (noConnector : '&' ∉ connector.toList) (noToken : '&' ∉ token.toList) :
    parameters (managementUrl scheme host path connector token) =
      [(Utf8.encode "connector_id", unescape connector.toList),
       (Utf8.encode "access_token", unescape token.toList)] := by
  rw [parameters_managementUrl scheme connector token noHost noPath,
    map_parameter_assigned "connector_id" "connector_id=" (by decide) (by decide) (by decide) noConnector,
    map_parameter_assigned "access_token" "access_token=" (by decide) (by decide) (by decide) noToken]
  rfl

/-- Neither value is cut if two parameters are found. -/
theorem uncut_of_length (noHost : '?' ∉ host.toList) (noPath : '?' ∉ path.toList)
    (two : (parameters (managementUrl scheme host path connector token)).length = 2) :
    '&' ∉ connector.toList ∧ '&' ∉ token.toList := by
  have one := one_le_length_splitOn '&' ("connector_id=".toList ++ connector.toList)
  have one' := one_le_length_splitOn '&' ("access_token=".toList ++ token.toList)
  rw [parameters_managementUrl scheme connector token noHost noPath, List.length_append, List.length_map,
    List.length_map] at two
  constructor
  · intro mem
    have := two_le_length_splitOn (List.mem_append_right "connector_id=".toList mem)
    omega
  · intro mem
    have := two_le_length_splitOn (List.mem_append_right "access_token=".toList mem)
    omega

/-- A text that the reader of a query takes for itself. -/
def IsPlain (s : String) : Prop := '&' ∉ s.toList ∧ ¬ HasEscape s.toList

theorem parameters_eq_iff (noHost : '?' ∉ host.toList) (noPath : '?' ∉ path.toList) :
    parameters (managementUrl scheme host path connector token) =
        [(Utf8.encode "connector_id", Utf8.encode connector), (Utf8.encode "access_token", Utf8.encode token)] ↔
      IsPlain connector ∧ IsPlain token := by
  constructor
  · intro found
    obtain ⟨noConnector, noToken⟩ := uncut_of_length noHost noPath (congrArg List.length found)
    rw [parameters_of_uncut scheme noHost noPath noConnector noToken] at found
    simp only [List.cons.injEq, Prod.mk.injEq, true_and, and_true, ← octets_toList, unescape_eq_octets_iff] at found
    exact ⟨⟨noConnector, found.1⟩, noToken, found.2⟩
  · rintro ⟨⟨noConnector, noEscape⟩, noToken, noEscape'⟩
    rw [parameters_of_uncut scheme noHost noPath noConnector noToken, unescape_of_not_hasEscape noEscape,
      unescape_of_not_hasEscape noEscape', octets_toList, octets_toList]

/-! ### Telling addresses apart -/

theorem eq_append_of_append_mark {cs ds ts us : List Char} (noMark : ¬ mark <:+: ds)
    (same : cs ++ (mark ++ ts) = ds ++ (mark ++ us)) : ∃ rest, cs = ds ++ rest := by
  rcases List.append_eq_append_iff.mp same with ⟨between, rfl, h⟩ | ⟨rest, h, -⟩
  · rcases List.append_eq_append_iff.mp h with ⟨more, rfl, -⟩ | ⟨back, whole, h'⟩
    · exact absurd ⟨cs, more, by simp⟩ noMark
    · match between, back with
      | [], _ => exact ⟨[], by simp⟩
      | _ :: _, [] => exact absurd ⟨cs, [], by simp [whole]⟩ noMark
      | c :: between, b :: back =>
        -- the second text would begin inside the first, with an `&`
        obtain ⟨rfl, -⟩ : '&' = b ∧ _ := List.cons.inj h'
        obtain ⟨-, inside⟩ : '&' = c ∧ _ := List.cons.inj whole
        exact absurd (inside ▸ by simp : '&' ∈ "access_token=".toList) (by decide)
  · exact ⟨rest, h⟩

theorem append_mark_inj {cs ds ts us : List Char} (noMark : ¬ mark <:+: cs) (noMark' : ¬ mark <:+: ds)
    (same : cs ++ (mark ++ ts) = ds ++ (mark ++ us)) : cs = ds ∧ ts = us := by
  obtain ⟨rest, rfl⟩ := eq_append_of_append_mark noMark' same
  obtain ⟨rest', h⟩ := eq_append_of_append_mark noMark same.symm
  have none : rest = [] := by
    have := congrArg List.length h
    simp only [List.length_append] at this
    exact List.length_eq_zero_iff.mp (by omega)
  subst none
  rw [List.append_nil] at same ⊢
  exact ⟨rfl, List.append_cancel_left (List.append_cancel_left same)⟩

theorem managementUrl_inj (noHost : '?' ∉ host.toList) (noPath : '?' ∉ path.toList)
    (noHost' : '?' ∉ host'.toList) (noPath' : '?' ∉ path'.toList) (noMark : ¬ mark <:+: connector.toList)
    (noMark' : ¬ mark <:+: connector'.toList)
    (same : managementUrl scheme host path connector token =
      managementUrl scheme' host' path' connector' token') :
    connector = connector' ∧ token = token' := by
  have parts := congrArg part same
  rw [part_managementUrl scheme connector token noHost noPath,
    part_managementUrl scheme' connector' token' noHost' noPath', List.append_assoc, List.append_assoc] at parts
  obtain ⟨connectors, tokens⟩ := append_mark_inj noMark noMark' (List.append_cancel_left parts)
  exact ⟨String.toList_inj.mp connectors, String.toList_inj.mp tokens⟩

/-- A connector that holds the text in front of the token leaves open where it ends. -/
theorem managementUrl_mark (scheme : UrlScheme) (host path connector more token : String) :
    managementUrl scheme host path (connector ++ "&access_token=" ++ more) token =
      managementUrl scheme host path connector (more ++ "&access_token=" ++ token) := by
  simp only [managementUrl, toString, String.append_assoc]

/-- A host and a path without `?` are assumed. The query part of the address consists of exactly the connector and
the token if and only if both are plain, and connectors that do not hold the text in front of the token are told
apart, with their tokens, by their addresses. -/
theorem management_url_names_connector_and_token :
    (∀ (scheme : UrlScheme) (host path connector token : String), '?' ∉ host.toList → '?' ∉ path.toList →
      (parameters (managementUrl scheme host path connector token) =
          [(Utf8.encode "connector_id", Utf8.encode connector), (Utf8.encode "access_token", Utf8.encode token)] ↔
        IsPlain connector ∧ IsPlain token)) ∧
    (∀ (scheme scheme' : UrlScheme) (host path connector token host' path' connector' token' : String),
      '?' ∉ host.toList → '?' ∉ path.toList → '?' ∉ host'.toList → '?' ∉ path'.toList →
      ¬ mark <:+: connector.toList → ¬ mark <:+: connector'.toList →
      connector ≠ connector' ∨ token ≠ token' →
      managementUrl scheme host path connector token ≠ managementUrl scheme' host' path' connector' token') := by
  constructor
  · intro scheme host path connector token noHost noPath
    exact parameters_eq_iff noHost noPath
  · intro scheme scheme' host path connector token host' path' connector' token' noHost noPath noHost' noPath'
      noMark noMark' differ same
    obtain ⟨connectors, tokens⟩ := managementUrl_inj noHost noPath noHost' noPath' noMark noMark' same
    exact differ.elim (absurd connectors) (absurd tokens)

theorem ping_url_names_connector_and_token :
    parameters (managementUrl .https "mgmt.example/" "ping" "c1" "jwt") =
      [(Utf8.encode "connector_id", Utf8.encode "c1"), (Utf8.encode "access_token", Utf8.encode "jwt")] ∧
    managementUrl .https "mgmt.example/" "ping" "c1" "jwt" ≠
      managementUrl .wss "mgmt.example" "/ping" "c1" "j&t" := by
  constructor
  · refine (management_url_names_connector_and_token.1 .https "mgmt.example/" "ping" "c1" "jwt" (by decide)
      (by decide)).mpr ⟨⟨by decide, ?_⟩, by decide, ?_⟩
    · exact unescape_eq_octets_iff.mp (by decide)
    · exact unescape_eq_octets_iff.mp (by decide)
  · exact management_url_names_connector_and_token.2 .https .wss "mgmt.example/" "ping" "c1" "jwt" "mgmt.example"
      "/ping" "c1" "j&t" (by decide) (by decide) (by decide) (by decide)
      (fun inside => absurd inside.length_le (by decide)) (fun inside => absurd inside.length_le (by decide))
      (.inr (by decide))

/-- A value with an `&` or with an escape is not found, and two calls may share an address. -/
theorem ambiguous_management_urls :
    parameters (managementUrl .https "h" "p" "a&b" "t") ≠
      [(Utf8.encode "connector_id", Utf8.encode "a&b"), (Utf8.encode "access_token", Utf8.encode "t")] ∧
    parameters (managementUrl .https "h" "p" "a%26b" "t") ≠
      [(Utf8.encode "connector_id", Utf8.encode "a%26b"), (Utf8.encode "access_token", Utf8.encode "t")] ∧
    managementUrl .https "h" "p" "a&access_token=b" "c" = managementUrl .https "h" "p" "a" "b&access_token=c" := by
  refine ⟨fun found => ?_, fun found => ?_, by simpa using managementUrl_mark .https "h" "p" "a" "b" "c"⟩
  · have plain := (parameters_eq_iff (by decide) (by decide)).mp found
    exact absurd plain.1.1 (by decide)
  · have plain := (parameters_eq_iff (by decide) (by decide)).mp found
    exact plain.1.2 ⟨'%', '2', '6', by decide, ['a'], ['b'], by decide⟩

end GracefulDrain.Query
