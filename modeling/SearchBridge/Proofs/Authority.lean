import SearchBridge.Proofs.Accepted
import SearchBridge.Proofs.ConnectionString
/-!
The scheme and the authority of the connection strings that are accepted.

A connection string is refused if nothing stands between its first `://` and the last `/`. What
stands there may itself begin with `/`, so that the authority is empty, and nothing has to stand
before the `://` at all.
-/

namespace SearchBridge

namespace Connection

/-- What stands before the first `://` of an address. -/
def schemeOf (address : String) : List Char :=
  ((splitScheme? address.toList).map (·.1)).getD []

/-- What stands between the first `://` of an address and the next `/`. -/
def authorityOf (address : String) : List Char :=
  (((splitScheme? address.toList).map (·.2)).getD []).takeWhile (· ≠ '/')

/-- A connection string has a scheme, and its engine root an authority. -/
def Located (s : String) (c : Connection) : Prop :=
  schemeOf s ≠ [] ∧ authorityOf c.engineRoot ≠ []

/-- A text begins with `://`, or has a `/` right behind the first one. -/
def LacksPart (s : String) : Prop :=
  mark <+: s.toList ∨ ∃ scheme rest, Cut s.toList scheme ('/' :: rest)

variable {s : String} {c : Connection} {cs scheme scheme' rest rest' host collection : List Char}

theorem Cut.unique (h : Cut cs scheme rest) (h' : Cut cs scheme' rest') :
    scheme = scheme' ∧ rest = rest' := by
  have hsplit := splitScheme?_eq_some_iff.mpr h
  rw [splitScheme?_eq_some_iff.mpr h', Option.some.injEq, Prod.mk.injEq] at hsplit
  exact ⟨hsplit.1.symm, hsplit.2.symm⟩

theorem Cut.begins_iff (h : Cut s.toList scheme rest) : mark <+: s.toList ↔ scheme = [] := by
  constructor
  · rintro ⟨rest', hwhole⟩
    have hcut : Cut s.toList [] rest' := ⟨hwhole.symm, by simp [mark]⟩
    exact (h.unique hcut).1
  · rintro rfl
    exact ⟨rest, h.whole.symm⟩

theorem Cut.schemeOf_eq (h : Cut s.toList scheme rest) : schemeOf s = scheme := by
  rw [schemeOf, splitScheme?_eq_some_iff.mpr h]
  rfl

theorem Cut.authorityOf_eq (h : Cut s.toList scheme rest) :
    authorityOf s = rest.takeWhile (· ≠ '/') := by
  rw [authorityOf, splitScheme?_eq_some_iff.mpr h]
  rfl

/-- The engine root is cut where the connection string is. -/
theorem Names.engineRoot_cut (h : Names s scheme host collection) :
    Cut (ofParts scheme host collection).engineRoot.toList scheme (host ++ ['/']) := by
  refine ⟨?_, h.first⟩
  simp [ofParts]

/-- What stands behind the first mark of a connection string begins with the host part. -/
theorem Names.host_prefix (h : Names s scheme host collection) (hcut : Cut s.toList scheme rest) :
    host <+: rest := by
  obtain ⟨rest', hcut', hrest⟩ := h.cut
  obtain ⟨-, rfl⟩ := hcut'.unique hcut
  have hhost : host <+: dropSlash rest' := by
    rw [hrest]
    exact List.prefix_append host _
  refine hhost.trans ?_
  rw [dropSlash]
  split
  · exact List.dropLast_prefix rest'
  · exact List.prefix_rfl

/-- A connection string is accepted for a connection: on its own, or as the address in settings that
were read, whose client has that connection. -/
inductive Accepted (s : String) (c : Connection) : Prop where
  | string (h : parse s = .ok c)
  | settings {given : List (String × Json)} {environment : List (String × String)}
      {settings : Settings} {client : Client} (hread : Settings.read given environment = .ok settings)
      (hurl : settings.url = s) (hclient : settings.client = .ok client)
      (hconnection : client.connection = c)

theorem Accepted.parse_eq (h : Accepted s c) : parse s = .ok c := by
  cases h with
  | string h => exact h
  | settings hread hurl hclient hconnection =>
      subst hurl hconnection
      obtain ⟨⟨c, hparse⟩, -⟩ := Settings.read_ok hread
      have hown := Settings.client_of_parse hparse
      rw [hclient, Except.ok.injEq] at hown
      rw [hparse, hown]

/-- A connection string that is accepted has a scheme and an authority exactly if it neither begins
with `://` nor has a `/` right behind the first one. -/
theorem accepted_located_iff (h : Accepted s c) : Located s c ↔ ¬LacksPart s := by
  obtain ⟨scheme, host, collection, hnames, rfl⟩ := parse_eq_ok_iff.mp h.parse_eq
  obtain ⟨rest, hcut, -⟩ := hnames.cut
  obtain ⟨later, rfl⟩ := hnames.host_prefix hcut
  cases host with
  | nil => exact absurd rfl hnames.hasHost
  | cons c host =>
      have hauthority : authorityOf (ofParts scheme (c :: host) collection).engineRoot = [] ↔
          c = '/' := by
        rw [hnames.engineRoot_cut.authorityOf_eq]
        by_cases hc : c = '/'
        · simp [hc]
        · simp [hc]
      have hbehind : (∃ scheme' rest', Cut s.toList scheme' ('/' :: rest')) ↔ c = '/' := by
        constructor
        · rintro ⟨scheme', rest', hcut'⟩
          obtain ⟨-, hrest⟩ := hcut.unique hcut'
          exact (List.cons.inj hrest).1
        · rintro rfl
          exact ⟨scheme, host ++ later, hcut⟩
      rw [Located, LacksPart, hcut.schemeOf_eq, hcut.begins_iff, hbehind, not_or, ne_eq, ne_eq,
        hauthority]

/-- What is read of settings that give an address alone. -/
def localSettings : Settings :=
  ⟨"INFO", "http://h:1/c", "10m", "1m", 1000, 10, .ofDecimal false 1 0, .ofDecimal false 30 0⟩

theorem local_located :
    Accepted "http://h:1/c" ⟨"http://h:1/c/", "http://h:1/", "c"⟩ ∧
      Located "http://h:1/c" ⟨"http://h:1/c/", "http://h:1/", "c"⟩ ∧
      ∃ client, Settings.read [("ES_URL", .string "http://h:1/c")] [] = .ok localSettings ∧
        localSettings.client = .ok client ∧ Located localSettings.url client.connection := by
  have hparse : parse "http://h:1/c" = .ok ⟨"http://h:1/c/", "http://h:1/", "c"⟩ := by
    decide +kernel
  have hread : Settings.read [("ES_URL", .string "http://h:1/c")] [] = .ok localSettings := rfl
  have hparts : ¬LacksPart "http://h:1/c" := by
    have hcut : Cut "http://h:1/c".toList "http".toList "h:1/c".toList :=
      ⟨rfl, by decide⟩
    rintro (hbegins | ⟨scheme, rest, hcut'⟩)
    · exact absurd (hcut.begins_iff.mp hbegins) (by decide)
    · obtain ⟨-, hrest⟩ := hcut.unique hcut'
      cases hrest
  have hurl : parse localSettings.url = .ok ⟨"http://h:1/c/", "http://h:1/", "c"⟩ := hparse
  have hclient := Settings.client_of_parse hurl
  exact ⟨.string hparse, (accepted_located_iff (.string hparse)).mpr hparts, _, hread, hclient,
    (accepted_located_iff (.settings hread rfl hclient rfl)).mpr hparts⟩

/-- An address without an authority is accepted, and so is one without a scheme, on its own and in
settings. -/
theorem unlocated_accepted :
    parse "http:////c" = .ok ⟨"http:////c/", "http:////", "c"⟩ ∧ authorityOf "http:////" = [] ∧
      parse "://h/c" = .ok ⟨"://h/c/", "://h/", "c"⟩ ∧ schemeOf "://h/c" = [] ∧
      ∀ url ∈ ["http:////c", "://h/c"], ∃ settings,
        Settings.read [("ES_URL", .string url)] [] = .ok settings ∧ settings.url = url := by
  refine ⟨by decide +kernel, by decide +kernel, by decide +kernel, by decide +kernel, ?_⟩
  intro url hurl
  rcases List.mem_pair.mp hurl with rfl | rfl
  · exact ⟨_, rfl, rfl⟩
  · exact ⟨_, rfl, rfl⟩

end Connection

end SearchBridge
