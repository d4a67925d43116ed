import Mathlib.Data.List.Basic
import Mathlib.Data.List.Infix
import SearchBridge.Connection
/-!
Which connection strings are read, and what is read from them.

A connection string is cut at its first `://`. What follows, without one `/` at its end, has to be a
host part and a collection, neither of them empty, with a `/` between them that is the last one.
-/

namespace SearchBridge

namespace Connection

/-- What ends the scheme of a connection string. -/
def mark : List Char := [':', '/', '/']

/-- A text cut at the first `://`. -/
structure Cut (cs scheme rest : List Char) : Prop where
  whole : cs = scheme ++ mark ++ rest
  first : ¬mark <:+: scheme

/-- A text without one `/` at its end. -/
def dropSlash (cs : List Char) : List Char :=
  if cs.getLast? = some '/' then cs.dropLast else cs

/-- A text names a collection and the host part it is found at. -/
structure Names (s : String) (scheme host collection : List Char) : Prop where
  cut : ∃ rest, Cut s.toList scheme rest ∧ dropSlash rest = host ++ '/' :: collection
  hasHost : host ≠ []
  hasCollection : collection ≠ []
  slashless : '/' ∉ collection

/-- The connection to a collection at a host part. -/
def ofParts (scheme host collection : List Char) : Connection where
  url := String.ofList (scheme ++ mark ++ (host ++ '/' :: collection) ++ ['/'])
  engineRoot := String.ofList (scheme ++ mark ++ host ++ ['/'])
  collection := String.ofList collection

/-- What becomes of a connection string. -/
inductive Reading (s : String) : Except ConnectionFault Connection → Prop where
  | noScheme (h : ¬mark <:+: s.toList) : Reading s (.error .noScheme)
  | noCollection {scheme rest : List Char} (hcut : Cut s.toList scheme rest)
      (h : '/' ∉ dropSlash rest) : Reading s (.error .noCollection)
  | emptyPart {scheme rest host collection : List Char} (hcut : Cut s.toList scheme rest)
      (hrest : dropSlash rest = host ++ '/' :: collection) (hslash : '/' ∉ collection)
      (h : host = [] ∨ collection = []) : Reading s (.error (.emptyPart s))
  | names {scheme host collection : List Char} (h : Names s scheme host collection) :
      Reading s (.ok (ofParts scheme host collection))

variable {s : String} {cs scheme rest host collection front back : List Char}

/-! ### Cutting at the first mark -/

theorem mark_prefix_cons {c : Char} {r : List Char} (h : mark <+: c :: r) :
    ∃ r', c = ':' ∧ r = '/' :: '/' :: r' := by
  obtain ⟨r', hr⟩ := h
  simp only [mark, List.cons_append, List.nil_append, List.cons.injEq] at hr
  exact ⟨r', hr.1.symm, hr.2.symm⟩

theorem splitScheme?_eq_none_iff : splitScheme? cs = none ↔ ¬mark <:+: cs := by
  fun_induction splitScheme? cs with
  | case1 => simp [mark]
  | case2 r =>
      have hmark : mark <:+: ':' :: '/' :: '/' :: r := ⟨[], r, rfl⟩
      exact iff_of_false (by simp) (not_not_intro hmark)
  | case3 c r hmark ih =>
      have hhere : ¬mark <+: c :: r := by
        intro h
        obtain ⟨r', hc, hr⟩ := mark_prefix_cons h
        exact hmark r' hc hr
      rw [Option.map_eq_none_iff, ih, List.infix_cons_iff, or_iff_right hhere]

theorem Cut.of_splitScheme? (h : splitScheme? cs = some (scheme, rest)) : Cut cs scheme rest := by
  fun_induction splitScheme? cs generalizing scheme rest with
  | case1 => cases h
  | case2 r =>
      cases h
      exact ⟨rfl, by simp [mark]⟩
  | case3 c r hmark ih =>
      obtain ⟨⟨front, rest'⟩, hsplit, hparts⟩ := Option.map_eq_some_iff.mp h
      cases hparts
      have hcut := ih hsplit
      refine ⟨by rw [hcut.whole]; rfl, ?_⟩
      intro hinfix
      rcases List.infix_cons_iff.mp hinfix with hhere | hlater
      · have hwhole : c :: front <+: c :: r := ⟨mark ++ rest, by rw [hcut.whole]; simp⟩
        obtain ⟨r', hc, hr⟩ := mark_prefix_cons (hhere.trans hwhole)
        exact hmark r' hc hr
      · exact hcut.first hlater

/-- The cut that is found is the only one there is. -/
theorem splitScheme?_eq_some_iff : splitScheme? cs = some (scheme, rest) ↔ Cut cs scheme rest := by
  refine ⟨Cut.of_splitScheme?, ?_⟩
  rintro ⟨rfl, hfirst⟩
  induction scheme with
  | nil => rfl
  | cons c front ih =>
      have hlater : ¬mark <:+: front := by
        intro h
        exact hfirst (h.trans (List.suffix_cons c front).isInfix)
      -- A mark that began in the scheme would lie in it, since no part of a mark begins another.
      have hhere : ∀ r, c = ':' → front ++ mark ++ rest = '/' :: '/' :: r → False := by
        intro r hc hr
        subst hc
        match front with
        | [] => cases hr
        | [_] => simp [mark] at hr
        | a :: b :: front =>
          simp only [List.cons_append, List.cons.injEq] at hr
          obtain ⟨rfl, rfl, -⟩ := hr
          exact hfirst ⟨[], front, rfl⟩
      change splitScheme? (c :: (front ++ mark ++ rest)) = _
      rw [splitScheme?, ih hlater]
      · rfl
      · exact hhere

theorem splitLast?_eq_none_iff : splitLast? cs = none ↔ '/' ∉ cs := by
  induction cs with
  | nil => simp [splitLast?]
  | cons c r ih =>
      rw [splitLast?]
      cases hlast : splitLast? r with
      | some parts =>
          have hslash : '/' ∈ r := by
            by_contra hnone
            rw [ih.mpr hnone] at hlast
            cases hlast
          exact iff_of_false (by simp) (not_not_intro (List.mem_cons_of_mem c hslash))
      | none =>
          have hnone := ih.mp hlast
          by_cases hc : c = '/'
          · simp [hc]
          · simp [hc, hnone, Ne.symm hc]

theorem splitLast?_eq_some_iff :
    splitLast? cs = some (front, back) ↔ cs = front ++ '/' :: back ∧ '/' ∉ back := by
  constructor
  · intro h
    induction cs generalizing front back with
    | nil => cases h
    | cons c r ih =>
        rw [splitLast?] at h
        split at h
        · next front' back' hlast =>
          cases h
          obtain ⟨hr, hback⟩ := ih hlast
          exact ⟨by rw [hr]; rfl, hback⟩
        · next hlast =>
          split at h
          · next hc =>
            cases h
            exact ⟨by rw [hc]; rfl, splitLast?_eq_none_iff.mp hlast⟩
          · cases h
  · rintro ⟨rfl, hback⟩
    induction front with
    | nil =>
        rw [List.nil_append, splitLast?, splitLast?_eq_none_iff.mpr hback]
        rfl
    | cons c front ih =>
        rw [List.cons_append, splitLast?, ih]

/-! ### The slash at the end -/

theorem dropSlash_concat (cs : List Char) : dropSlash (cs ++ ['/']) = cs := by
  rw [dropSlash, if_pos List.getLast?_concat, List.dropLast_concat]

theorem dropSlash_slashless (hne : back ≠ []) (hback : '/' ∉ back) (front : List Char) :
    dropSlash (front ++ back) = front ++ back := by
  rw [dropSlash, if_neg]
  intro hlast
  rw [List.getLast?_append_of_ne_nil _ hne] at hlast
  exact hback (List.mem_of_getLast? hlast)

/-- A text that is closed keeps its first mark, and what stands behind the mark gets a `/` at its
end. If nothing stands there, the text is closed by the mark. -/
theorem Cut.closed (h : Cut cs scheme rest) : ∃ rest', Cut (closed cs) scheme rest' ∧
    (rest' = dropSlash rest ++ ['/'] ∨ rest' = [] ∧ dropSlash rest = []) := by
  obtain ⟨hwhole, hfirst⟩ := h
  rcases List.eq_nil_or_concat' rest with rfl | ⟨front, c, rfl⟩
  · have hlast : cs.getLast? = some '/' := by
      rw [hwhole]
      simp [mark]
    refine ⟨[], ⟨?_, hfirst⟩, Or.inr ⟨rfl, rfl⟩⟩
    rw [Connection.closed, if_pos hlast, hwhole]
  · have hlast : cs.getLast? = some c := by
      rw [hwhole, ← List.append_assoc, List.getLast?_concat]
    by_cases hc : c = '/'
    · subst hc
      refine ⟨front ++ ['/'], ⟨?_, hfirst⟩, Or.inl (by rw [dropSlash_concat])⟩
      rw [Connection.closed, if_pos hlast, hwhole]
    · have hkept : dropSlash (front ++ [c]) = front ++ [c] :=
        dropSlash_slashless (by simp) (by simp [Ne.symm hc]) front
      refine ⟨front ++ [c] ++ ['/'], ⟨?_, hfirst⟩, Or.inl (by rw [hkept])⟩
      rw [Connection.closed, if_neg (by simp [hlast, hc]), hwhole]
      simp only [List.append_assoc]

theorem Cut.closed_eq (h : Cut cs scheme rest) (hrest : dropSlash rest ≠ []) :
    Connection.closed cs = scheme ++ mark ++ dropSlash rest ++ ['/'] := by
  obtain ⟨rest', hclosed, rfl | ⟨-, hnil⟩⟩ := h.closed
  · rw [hclosed.whole, List.append_assoc]
    simp only [List.append_assoc]
  · exact absurd hnil hrest

/-! ### Reading -/

/-- A connection string with a mark is read from what stands behind the first one. -/
theorem parse_of_cut (h : Cut s.toList scheme rest) : parse s =
    match splitLast? (dropSlash rest) with
    | none => .error .noCollection
    | some (host, collection) =>
      if collection.isEmpty || host.isEmpty then .error (.emptyPart s)
      else .ok (ofParts scheme host collection) := by
  obtain ⟨rest', hclosed, hrest'⟩ := h.closed
  have hdrop : rest'.dropLast = dropSlash rest := by
    rcases hrest' with rfl | ⟨rfl, hnil⟩
    · exact List.dropLast_concat
    · exact hnil.symm
  have hsplit := splitScheme?_eq_some_iff.mpr h
  have hsplit' := splitScheme?_eq_some_iff.mpr hclosed
  rw [parse]
  simp only [hsplit, hsplit', hdrop]
  cases hlast : splitLast? (dropSlash rest) with
  | none => rfl
  | some parts =>
      obtain ⟨host, collection⟩ := parts
      obtain ⟨hparts, -⟩ := splitLast?_eq_some_iff.mp hlast
      have hurl := h.closed_eq (by simp [hparts])
      rw [hparts] at hurl
      rw [hurl]
      rfl

theorem Reading.parse_eq {r : Except ConnectionFault Connection} (h : Reading s r) :
    parse s = r := by
  cases h with
  | noScheme h =>
      rw [parse]
      simp only [splitScheme?_eq_none_iff.mpr h]
  | noCollection hcut h => rw [parse_of_cut hcut, splitLast?_eq_none_iff.mpr h]
  | emptyPart hcut hrest hslash h =>
      rw [parse_of_cut hcut, splitLast?_eq_some_iff.mpr ⟨hrest, hslash⟩]
      rcases h with rfl | rfl
      · simp
      · simp
  | names h =>
      obtain ⟨rest, hcut, hrest⟩ := h.cut
      rw [parse_of_cut hcut, splitLast?_eq_some_iff.mpr ⟨hrest, h.slashless⟩]
      simp [h.hasHost, h.hasCollection]

theorem exists_reading (s : String) : ∃ r, Reading s r := by
  cases hsplit : splitScheme? s.toList with
  | none => exact ⟨_, .noScheme (splitScheme?_eq_none_iff.mp hsplit)⟩
  | some parts =>
      have hcut := splitScheme?_eq_some_iff.mp hsplit
      cases hlast : splitLast? (dropSlash parts.2) with
      | none => exact ⟨_, .noCollection hcut (splitLast?_eq_none_iff.mp hlast)⟩
      | some inner =>
          obtain ⟨hrest, hslash⟩ := splitLast?_eq_some_iff.mp hlast
          by_cases hempty : inner.1 = [] ∨ inner.2 = []
          · exact ⟨_, .emptyPart hcut hrest hslash hempty⟩
          · rw [not_or] at hempty
            exact ⟨_, .names ⟨⟨_, hcut, hrest⟩, hempty.1, hempty.2, hslash⟩⟩

theorem parse_eq_iff {r : Except ConnectionFault Connection} : parse s = r ↔ Reading s r := by
  refine ⟨?_, Reading.parse_eq⟩
  intro hparse
  obtain ⟨r', hreading⟩ := exists_reading s
  rw [← hparse, hreading.parse_eq]
  exact hreading

theorem parse_eq_ok_iff {c : Connection} : parse s = .ok c ↔
    ∃ scheme host collection, Names s scheme host collection ∧ c = ofParts scheme host collection := by
  rw [parse_eq_iff]
  constructor
  · intro h
    cases h with
    | names h => exact ⟨_, _, _, h, rfl⟩
  · rintro ⟨scheme, host, collection, h, rfl⟩
    exact .names h

/-! ### What is read -/

/-- A text names what it is put together from, with a `/` at its end or without one. -/
theorem Names.of_parts (hfirst : ¬mark <:+: scheme) (hhost : host ≠ []) (hcollection : collection ≠ [])
    (hslash : '/' ∉ collection) {slash : List Char} (hend : slash = [] ∨ slash = ['/'])
    (hs : s.toList = scheme ++ mark ++ (host ++ '/' :: collection) ++ slash) :
    Names s scheme host collection := by
  have hcut : Cut s.toList scheme (host ++ '/' :: collection ++ slash) :=
    ⟨by rw [hs, List.append_assoc], hfirst⟩
  refine ⟨⟨_, hcut, ?_⟩, hhost, hcollection, hslash⟩
  rcases hend with rfl | rfl
  · have hkept := dropSlash_slashless hcollection hslash (host ++ ['/'])
    simpa using hkept
  · exact dropSlash_concat _

theorem Names.first (h : Names s scheme host collection) : ¬mark <:+: scheme := by
  obtain ⟨rest, hcut, -⟩ := h.cut
  exact hcut.first

/-- The address of what a text names is that text, with a `/` put at its end unless it has one. -/
theorem Names.url_eq (h : Names s scheme host collection) :
    (ofParts scheme host collection).url = s ∨
      (ofParts scheme host collection).url = s ++ "/" := by
  obtain ⟨rest, hcut, hrest⟩ := h.cut
  have hclosed := hcut.closed_eq (by simp [hrest])
  rw [hrest] at hclosed
  have hurl : (ofParts scheme host collection).url = String.ofList (Connection.closed s.toList) := by
    rw [hclosed]
    rfl
  rw [hurl, Connection.closed]
  split
  · exact Or.inl String.ofList_toList
  · exact Or.inr (by rw [String.ofList_append, String.ofList_toList])

theorem url_ofParts (scheme host collection : List Char) :
    (ofParts scheme host collection).url =
      (ofParts scheme host collection).engineRoot ++ (ofParts scheme host collection).collection ++
        "/" := by
  apply String.toList_inj.mp
  simp [ofParts]

/-- The address reads as the connection it belongs to. -/
theorem Names.parse_url (h : Names s scheme host collection) :
    parse (ofParts scheme host collection).url = .ok (ofParts scheme host collection) := by
  have hnames : Names (ofParts scheme host collection).url scheme host collection := by
    refine .of_parts h.first h.hasHost h.hasCollection h.slashless (Or.inr rfl) ?_
    exact String.toList_ofList
  exact (Reading.names hnames).parse_eq

theorem Names.parse_open (h : Names s scheme host collection) :
    parse ((ofParts scheme host collection).engineRoot ++
      (ofParts scheme host collection).collection) = .ok (ofParts scheme host collection) := by
  have hnames : Names ((ofParts scheme host collection).engineRoot ++
      (ofParts scheme host collection).collection) scheme host collection := by
    refine .of_parts h.first h.hasHost h.hasCollection h.slashless (Or.inl rfl) ?_
    simp [ofParts]
  exact (Reading.names hnames).parse_eq

/-- A connection string is read exactly if it names a collection, and is refused otherwise for what
it lacks. The address that is read is the string itself, closed by a `/`. It is put together from
the engine root, which ends in `/` too, and the collection, which has none, and it reads as the same
connection, as it does without the `/` at its end. -/
theorem parse_reads_parts (s : String) :
    ((∃ c, parse s = .ok c) ↔ ∃ scheme host collection, Names s scheme host collection) ∧
    (∀ fault, parse s = .error fault ↔ Reading s (.error fault)) ∧
    ∀ c, parse s = .ok c →
      (∃ scheme host collection, Names s scheme host collection ∧
        c = ofParts scheme host collection) ∧
      (c.url = s ∨ c.url = s ++ "/") ∧
      (∃ front, c.url = front ++ "/") ∧ (∃ front, c.engineRoot = front ++ "/") ∧
      c.collection ≠ "" ∧ '/' ∉ c.collection.toList ∧
      c.url = c.engineRoot ++ c.collection ++ "/" ∧
      parse c.url = .ok c ∧ parse (c.engineRoot ++ c.collection) = .ok c := by
  refine ⟨?_, fun fault => parse_eq_iff, ?_⟩
  · simp only [parse_eq_ok_iff]
    constructor
    · rintro ⟨c, scheme, host, collection, h, -⟩
      exact ⟨scheme, host, collection, h⟩
    · rintro ⟨scheme, host, collection, h⟩
      exact ⟨_, scheme, host, collection, h, rfl⟩
  · intro c hparse
    obtain ⟨scheme, host, collection, h, rfl⟩ := parse_eq_ok_iff.mp hparse
    have hroot : (ofParts scheme host collection).engineRoot =
        String.ofList (scheme ++ mark ++ host) ++ "/" :=
      String.ofList_append
    have hfull : (ofParts scheme host collection).collection ≠ "" := by
      intro hempty
      exact h.hasCollection (String.ofList_injective hempty)
    have hslash : '/' ∉ (ofParts scheme host collection).collection.toList := by
      rw [ofParts, String.toList_ofList]
      exact h.slashless
    exact ⟨⟨scheme, host, collection, h, rfl⟩, h.url_eq, ⟨_, url_ofParts scheme host collection⟩,
      ⟨_, hroot⟩, hfull, hslash, url_ofParts scheme host collection, h.parse_url, h.parse_open⟩

/-- A connection string with several marks and slashes. -/
def manySlashes : String := "a://b:///c://d//e/"

theorem manySlashes_reads_parts :
    parse manySlashes = .ok ⟨"a://b:///c://d//e/", "a://b:///c://d//", "e"⟩ ∧
      parse "a://b:///c://d//e" = .ok ⟨"a://b:///c://d//e/", "a://b:///c://d//", "e"⟩ := by
  have hparse : parse manySlashes = .ok ⟨"a://b:///c://d//e/", "a://b:///c://d//", "e"⟩ := by
    decide +kernel
  obtain ⟨-, -, hread⟩ := parse_reads_parts manySlashes
  obtain ⟨-, -, -, -, -, -, -, -, hopen⟩ := hread _ hparse
  exact ⟨hparse, hopen⟩

end Connection

end SearchBridge
