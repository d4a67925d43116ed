import SearchBridge.Proofs.Escapes
import SearchBridge.Proofs.Nesting
import SearchBridge.Proofs.Numeral
/-!
What is read where a value is written.

The text of a value denotes a value again, or nothing if an integer in it is too long to be read. It
has the same shape, with every text and every number as that is read on its own; members whose names
are the same by then become one. A value that is stable is the one that its own text denotes.
-/

namespace SearchBridge

namespace Json

open Text

mutual

/-- The value that the text of a value denotes, unless an integer is too long to be read. -/
def reread : Json → Option Json
  | .null => some .null
  | .bool b => some (.bool b)
  | .number n => n.reread?.map .number
  | .string s => some (.string s.reread)
  | .array items => (rereadItems items).map .array
  | .object members => (rereadMembers members).map fun ms => .object (Ordered.ofList ms)

def rereadItems : List Json → Option (List Json)
  | [] => some []
  | v :: vs => (reread v).bind fun w => (rereadItems vs).map (w :: ·)

/-- The members in the order of their texts, whether or not their names are the same by then. -/
def rereadMembers : List (Text × Json) → Option (List (Text × Json))
  | [] => some []
  | (n, v) :: ms => (reread v).bind fun w => (rereadMembers ms).map ((n.reread, w) :: ·)

end

/-! ### How written values begin -/

def itemsText : List Json → List Char
  | [] => [']']
  | v :: vs => v.write ++ writeItems vs

def membersText : List (Text × Json) → List Char
  | [] => ['}']
  | (n, v) :: ms => writeString n ++ ':' :: ' ' :: (v.write ++ writeMembers ms)

theorem write_array (items : List Json) : write (.array items) = '[' :: itemsText items := by
  cases items <;> rfl

theorem write_object (members : Ordered Text Json) :
    write (.object members) = '{' :: membersText members := by
  cases members <;> rfl

/-- A character that no space is skipped before and that closes no array. -/
def Begins (c : Char) : Prop := isSeparatorSpace c = false ∧ c ≠ ']'

theorem begins_of_isDigit {c : Char} (h : c.isDigit = true) : Begins c := by
  have hne : ∀ d : Char, d.isDigit = false → c ≠ d := by
    rintro d hd rfl
    rw [h] at hd
    cases hd
  refine ⟨?_, hne _ (by decide)⟩
  simp [isSeparatorSpace, hne ' ' (by decide), hne '\t' (by decide), hne '\n' (by decide),
    hne '\r' (by decide)]

theorem write_begin (v : Json) : ∃ c r, v.write = c :: r ∧ Begins c := by
  cases v with
  | null => exact ⟨'n', "ull".toList, rfl, by decide, by decide⟩
  | bool b =>
      cases b with
      | false => exact ⟨'f', "alse".toList, rfl, by decide, by decide⟩
      | true => exact ⟨'t', "rue".toList, rfl, by decide, by decide⟩
  | number n =>
      obtain ⟨c, r, hwrite, rfl | hdigit | rfl | rfl⟩ := writeNumber_begin n
      · exact ⟨_, r, hwrite, by decide, by decide⟩
      · exact ⟨c, r, hwrite, begins_of_isDigit hdigit⟩
      · exact ⟨_, r, hwrite, by decide, by decide⟩
      · exact ⟨_, r, hwrite, by decide, by decide⟩
  | string s => exact ⟨_, _, rfl, by decide, by decide⟩
  | array items => exact ⟨_, _, write_array items, by decide, by decide⟩
  | object members => exact ⟨_, _, write_object members, by decide, by decide⟩

/-- No space is skipped where a value begins. -/
theorem skipSpace_write (v : Json) (cs : List Char) (r : Text) :
    skipSpace (ofChars (v.write ++ cs) ++ r) = ofChars (v.write ++ cs) ++ r := by
  obtain ⟨c, w, hwrite, hc, -⟩ := write_begin v
  rw [hwrite]
  change List.dropWhile _ (Point.char c :: _) = _
  rw [List.dropWhile_cons_of_neg]
  · rfl
  · change ¬isSeparatorSpace c = true
    simp [hc]

theorem length_write_pos (v : Json) : 0 < v.write.length := by
  obtain ⟨c, w, hwrite, -⟩ := write_begin v
  rw [hwrite]
  exact Nat.succ_pos _

/-! ### Reading what is written -/

section

variable {fuel depth : Nat} {ps r rest : Text} {read : Option Json}

/-- What begins with none of the marks of texts and containers is read as a word. -/
theorem readValue_begin {c : Char} (hquote : c ≠ '"') (hbracket : c ≠ '[') (hbrace : c ≠ '{')
    (r : Text) : readValue (fuel + 1) depth (.char c :: r) = demand (readWord (.char c :: r)) := by
  have hne : ∀ d, c ≠ d → ¬∃ r', Point.char c :: r = .char d :: r' := by
    rintro d hd ⟨r', h⟩
    exact hd (Point.char.inj (List.cons.inj h).1)
  exact readValue_word _ _ (hne _ hquote) (hne _ hbracket) (hne _ hbrace)

theorem readItems_last (h : readValue fuel depth ps = demand (read.map (·, .char ']' :: rest))) :
    readItems (fuel + 1) depth ps = demand (read.map fun v => ([v], rest)) := by
  rw [readItems, h]
  cases read <;> rfl

theorem readItems_more {items : Option (List Json)}
    (h : readValue fuel depth ps = demand (read.map (·, .char ',' :: .char ' ' :: r)))
    (hskip : skipSpace r = r) (hmore : readItems fuel depth r = demand (items.map (·, rest))) :
    readItems (fuel + 1) depth ps =
      demand ((read.bind fun v => items.map (v :: ·)).map (·, rest)) := by
  have hcomma : skipSpace (.char ' ' :: r) = r := hskip
  rw [readItems, h]
  cases read with
  | none => rfl
  | some v =>
      change (readItems fuel depth (skipSpace (.char ' ' :: r)) >>= _) = _
      rw [hcomma, hmore]
      cases items <;> rfl

/-- An array in which something stands where its items begin is read as its items. -/
theorem readValue_items {p : Point} {items : Option (List Json)}
    (hskip : skipSpace (p :: r) = p :: r) (hp : p ≠ .char ']')
    (h : readItems fuel depth (p :: r) = demand (items.map (·, rest))) :
    readValue (fuel + 1) (depth + 1) (.char '[' :: p :: r) =
      demand ((items.map array).map (·, rest)) := by
  rw [readValue, hskip]
  split
  · next hclose => exact absurd (List.cons.inj hclose).1 hp
  · rw [h]
    cases items <;> rfl

theorem readMembers_last {n : Text} (hname : readString ps = some (n, .char ':' :: .char ' ' :: r))
    (hskip : skipSpace r = r)
    (h : readValue fuel depth r = demand (read.map (·, .char '}' :: rest))) :
    readMembers (fuel + 1) depth (.char '"' :: ps) =
      demand (read.map fun v => ([(n, v)], rest)) := by
  have hcolon : skipSpace (.char ' ' :: r) = r := hskip
  rw [readMembers]
  dsimp only
  rw [hname]
  change (readValue fuel depth (skipSpace (.char ' ' :: r)) >>= _) = _
  rw [hcolon, h]
  cases read <;> rfl

theorem readMembers_more {n r' : Text} {members : Option (List (Text × Json))}
    (hname : readString ps = some (n, .char ':' :: .char ' ' :: r)) (hskip : skipSpace r = r)
    (h : readValue fuel depth r = demand (read.map (·, .char ',' :: .char ' ' :: r')))
    (hskip' : skipSpace r' = r')
    (hmore : readMembers fuel depth r' = demand (members.map (·, rest))) :
    readMembers (fuel + 1) depth (.char '"' :: ps) =
      demand ((read.bind fun v => members.map ((n, v) :: ·)).map (·, rest)) := by
  have hcolon : skipSpace (.char ' ' :: r) = r := hskip
  have hcomma : skipSpace (.char ' ' :: r') = r' := hskip'
  rw [readMembers]
  dsimp only
  rw [hname]
  change (readValue fuel depth (skipSpace (.char ' ' :: r)) >>= _) = _
  rw [hcolon, h]
  cases read with
  | none => rfl
  | some v =>
      change (readMembers fuel depth (skipSpace (.char ' ' :: r')) >>= _) = _
      rw [hcomma, hmore]
      cases members <;> rfl

theorem readValue_members {members : Option (List (Text × Json))}
    (h : readMembers fuel depth (.char '"' :: r) = demand (members.map (·, rest))) :
    readValue (fuel + 1) (depth + 1) (.char '{' :: .char '"' :: r) =
      demand ((members.map fun ms => object (Ordered.ofList ms)).map (·, rest)) := by
  have hskip : skipSpace (.char '"' :: r) = .char '"' :: r := rfl
  rw [readValue, hskip]
  change (readMembers fuel depth (.char '"' :: r)).map _ = _
  rw [h]
  cases members <;> rfl

end

theorem readString_name (n : Text) (cs : List Char) (rest : Text) :
    readString (ofChars (n.flatMap writePoint ++ ['"'] ++ ':' :: ' ' :: cs) ++ rest) =
      some (n.reread, .char ':' :: .char ' ' :: (ofChars cs ++ rest)) := by
  rw [ofChars_append, List.append_assoc, readString_written]
  rfl

theorem closes_cons {p : Point} (hp : p ∈ [.char ',', .char ']', .char '}']) (r : Text) :
    Closes (p :: r) := by
  rintro p' r' h
  cases h
  exact hp

mutual

/-- A value is read up to what closes it. The text of what stands in it is shorter than its own, and
so is how deep it goes. -/
theorem readValue_write : ∀ (v : Json) (fuel depth : Nat) (rest : Text), Closes rest →
    2 * v.write.length ≤ fuel → v.write.length ≤ depth →
    readValue fuel depth (ofChars v.write ++ rest) = demand (v.reread.map (·, rest))
  | v, 0, _, _, _, hfuel, _ => by
      have hpos := length_write_pos v
      omega
  | .null, _ + 1, _, rest, _, _, _ =>
      readValue_begin (by decide) (by decide) (by decide) (ofChars "ull".toList ++ rest)
  | .bool false, _ + 1, _, rest, _, _, _ =>
      readValue_begin (by decide) (by decide) (by decide) (ofChars "alse".toList ++ rest)
  | .bool true, _ + 1, _, rest, _, _, _ =>
      readValue_begin (by decide) (by decide) (by decide) (ofChars "rue".toList ++ rest)
  | .number n, fuel + 1, depth, rest, hrest, _, _ => by
      obtain ⟨c, r, hwrite, hc⟩ := writeNumber_begin n
      have hne : ∀ d : Char, d ≠ '-' ∧ d.isDigit = false ∧ d ≠ 'N' ∧ d ≠ 'I' → c ≠ d := by
        rintro d hd rfl
        simp_all
      have hword := readWord_written n hrest
      change readValue (fuel + 1) depth (ofChars (writeNumber n) ++ rest) = _
      rw [hwrite] at hword ⊢
      refine (readValue_begin (hne _ (by decide)) (hne _ (by decide)) (hne _ (by decide))
        (ofChars r ++ rest)).trans ?_
      change demand (readWord (ofChars (c :: r) ++ rest)) = _
      rw [hword, reread, Option.map_map]
      rfl
  | .string s, fuel + 1, depth, rest, _, _, _ => by
      change readValue (fuel + 1) depth
        (.char '"' :: (ofChars (s.flatMap writePoint ++ ['"']) ++ rest)) = _
      rw [readValue, readString_written]
      rfl
  | .array [], fuel + 1, depth, rest, _, _, hdepth => by
      obtain ⟨depth, rfl⟩ := Nat.exists_eq_add_one.mpr
        (show 0 < depth by simp only [write, List.length_cons] at hdepth; omega)
      rfl
  | .array (v :: vs), fuel + 1, depth, rest, _, hfuel, hdepth => by
      rw [write_array, List.length_cons] at hfuel hdepth
      obtain ⟨depth, rfl⟩ := Nat.exists_eq_add_one.mpr (show 0 < depth by omega)
      have hread := readItems_write v vs fuel depth rest (by omega) (by omega)
      have hskip := skipSpace_write v (writeItems vs) rest
      obtain ⟨c, w, hwrite, -, hc⟩ := write_begin v
      rw [write_array]
      simp only [itemsText, hwrite, List.cons_append] at hskip hread ⊢
      exact readValue_items hskip (fun h => hc (Point.char.inj h)) hread
  | .object [], fuel + 1, depth, rest, _, _, hdepth => by
      obtain ⟨depth, rfl⟩ := Nat.exists_eq_add_one.mpr
        (show 0 < depth by simp only [write, List.length_cons] at hdepth; omega)
      rfl
  | .object ((n, v) :: ms), fuel + 1, depth, rest, _, hfuel, hdepth => by
      rw [write_object, List.length_cons] at hfuel hdepth
      obtain ⟨depth, rfl⟩ := Nat.exists_eq_add_one.mpr (show 0 < depth by omega)
      rw [write_object]
      exact readValue_members (readMembers_write n v ms fuel depth rest (by omega) (by omega))

theorem readItems_write : ∀ (v : Json) (vs : List Json) (fuel depth : Nat) (rest : Text),
    2 * (itemsText (v :: vs)).length ≤ fuel → (itemsText (v :: vs)).length ≤ depth →
    readItems fuel depth (ofChars (itemsText (v :: vs)) ++ rest) =
      demand ((rereadItems (v :: vs)).map (·, rest))
  | v, _, 0, _, _, hfuel, _ => by
      have hpos := length_write_pos v
      simp only [itemsText, List.length_append] at hfuel
      omega
  | v, [], fuel + 1, depth, rest, hfuel, hdepth => by
      simp only [itemsText, writeItems, List.length_append, List.length_singleton] at hfuel hdepth
      have hvalue := readValue_write v fuel depth (.char ']' :: rest)
        (closes_cons (by simp) _) (by omega) (by omega)
      rw [itemsText, writeItems, ofChars_append, List.append_assoc]
      refine (readItems_last hvalue).trans ?_
      cases hv : v.reread <;> simp [rereadItems, hv]
  | v, w :: ws, fuel + 1, depth, rest, hfuel, hdepth => by
      have htext : itemsText (v :: w :: ws) = v.write ++ ',' :: ' ' :: itemsText (w :: ws) := rfl
      rw [htext] at hfuel hdepth ⊢
      simp only [List.length_append, List.length_cons] at hfuel hdepth
      have hpos := length_write_pos v
      have hvalue := readValue_write v fuel depth
        (.char ',' :: .char ' ' :: (ofChars (itemsText (w :: ws)) ++ rest))
        (closes_cons (by simp) _) (by omega) (by omega)
      have hmore := readItems_write w ws fuel depth rest (by omega) (by omega)
      rw [ofChars_append, List.append_assoc]
      exact readItems_more hvalue (skipSpace_write w _ _) hmore

/-- The members of an object are read one after the other. -/
theorem readMembers_write : ∀ (n : Text) (v : Json) (ms : List (Text × Json)) (fuel depth : Nat)
    (rest : Text), 2 * (membersText ((n, v) :: ms)).length ≤ fuel →
    (membersText ((n, v) :: ms)).length ≤ depth →
    readMembers fuel depth (ofChars (membersText ((n, v) :: ms)) ++ rest) =
      demand ((rereadMembers ((n, v) :: ms)).map (·, rest))
  | n, v, _, 0, _, _, hfuel, _ => by
      have hpos := length_write_pos v
      simp only [membersText, List.length_append, List.length_cons] at hfuel
      omega
  | n, v, [], fuel + 1, depth, rest, hfuel, hdepth => by
      simp only [membersText, writeMembers, List.length_append, List.length_cons] at hfuel hdepth
      have hvalue := readValue_write v fuel depth (.char '}' :: rest)
        (closes_cons (by simp) _) (by omega) (by omega)
      have hlast : readValue fuel depth (ofChars (v.write ++ ['}']) ++ rest) =
          demand (v.reread.map (·, .char '}' :: rest)) := by
        rw [ofChars_append, List.append_assoc]
        exact hvalue
      refine (readMembers_last (readString_name n _ rest) (skipSpace_write v _ _) hlast).trans ?_
      cases hv : v.reread <;> simp [rereadMembers, hv]
  | n, v, (n', w) :: ms, fuel + 1, depth, rest, hfuel, hdepth => by
      have htext : membersText ((n, v) :: (n', w) :: ms) =
          writeString n ++ ':' :: ' ' :: (v.write ++ ',' :: ' ' :: membersText ((n', w) :: ms)) :=
        rfl
      rw [htext] at hfuel hdepth ⊢
      simp only [List.length_append, List.length_cons] at hfuel hdepth
      have hpos := length_write_pos v
      have hvalue := readValue_write v fuel depth
        (.char ',' :: .char ' ' :: (ofChars (membersText ((n', w) :: ms)) ++ rest))
        (closes_cons (by simp) _) (by omega) (by omega)
      have hmore := readMembers_write n' w ms fuel depth rest (by omega) (by omega)
      refine readMembers_more (readString_name n _ rest) (skipSpace_write v _ _) ?_ rfl hmore
      rw [ofChars_append, List.append_assoc]
      exact hvalue

end

/-- The text of a value denotes the value that it is reread as, and nothing if that is none. -/
theorem read?_write (v : Json) : read? (ofChars v.write) = v.reread := by
  have hread := readValue_write v (2 * v.write.length + 1) v.write.length []
    (fun _ _ h => by cases h) (by omega) (Nat.le_refl _)
  have hskip := skipSpace_write v [] []
  rw [List.append_nil] at hread
  rw [List.append_nil, List.append_nil] at hskip
  rw [read?, readWithin, length_ofChars, hskip, hread]
  cases v.reread <;> rfl

/-- The members of an object whose names are distinct and read as they are keep their places. -/
theorem rereadMembers_keys {members ms : List (Text × Json)} (hnames : ∀ m ∈ members, Settled m.1)
    (h : rereadMembers members = some ms) : Ordered.keys ms = Ordered.keys members := by
  induction members generalizing ms with
  | nil =>
      cases h
      rfl
  | cons m rest ih =>
      obtain ⟨n, v⟩ := m
      rw [List.forall_mem_cons] at hnames
      rw [rereadMembers] at h
      obtain ⟨w, -, h⟩ := Option.bind_eq_some_iff.mp h
      obtain ⟨ms', hrest, rfl⟩ := Option.map_eq_some_iff.mp h
      have hkeys := ih hnames.2 hrest
      rw [Ordered.keys] at hkeys
      simp only [Ordered.keys, List.map_cons, hkeys, hnames.1.reread]

theorem find?_rereadMembers {members ms : List (Text × Json)} (hnames : ∀ m ∈ members, Settled m.1)
    (h : rereadMembers members = some ms) {name : Text} {v : Json}
    (hfield : Ordered.find? members name = some v) :
    ∃ w, v.reread = some w ∧ Ordered.find? ms name = some w := by
  induction members generalizing ms with
  | nil => cases hfield
  | cons m rest ih =>
      obtain ⟨n, u⟩ := m
      rw [List.forall_mem_cons] at hnames
      rw [rereadMembers] at h
      obtain ⟨w, hw, h⟩ := Option.bind_eq_some_iff.mp h
      obtain ⟨ms', hrest, rfl⟩ := Option.map_eq_some_iff.mp h
      rw [Ordered.find?] at hfield
      split at hfield
      · next hn =>
        cases hfield
        exact ⟨w, hw, by rw [Ordered.find?, hnames.1.reread, if_pos hn]⟩
      · next hn =>
        obtain ⟨w', hw', hfind⟩ := ih hnames.2 hrest hfield
        exact ⟨w', hw', by rw [Ordered.find?, hnames.1.reread, if_neg hn, hfind]⟩

/-- The names of an object are read as they are, and under each one stands what its value is reread
as. -/
theorem reread_object {members : Ordered Text Json} (hnames : ∀ m ∈ members, Settled m.1)
    (hdistinct : members.keys.Nodup) {decoded : Json}
    (h : (Json.object members).reread = some decoded) :
    ∃ ms : Ordered Text Json, decoded = .object ms ∧ ms.keys = members.keys ∧
      ∀ name v, members.find? name = some v →
        ∃ w, v.reread = some w ∧ ms.find? name = some w := by
  rw [reread] at h
  obtain ⟨ms, hms, rfl⟩ := Option.map_eq_some_iff.mp h
  have hkeys := rereadMembers_keys hnames hms
  refine ⟨ms, ?_, hkeys, fun name v => find?_rereadMembers hnames hms⟩
  rw [Ordered.ofList_of_nodup (hkeys ▸ hdistinct)]

/-! ### Stable values -/

/-- A value that can be told from its text: its integers are short enough to be read, each of its
floating-point numbers is read back on its own, no two surrogates in its texts are a pair, and no
two members of an object have the same name. -/
inductive Stable : Json → Prop where
  | null : Stable .null
  | bool (b : Bool) : Stable (.bool b)
  | int {i : Int} (h : (Nat.toDigits 10 i.natAbs).length ≤ integerLimit) : Stable (.int i)
  | real {x : Binary64} (h : read? (ofChars (writeNumber (.real x))) = some (.number (.real x))) :
      Stable (.number (.real x))
  | string {s : Text} (h : s.Settled) : Stable (.string s)
  | array {items : List Json} (h : ∀ v ∈ items, Stable v) : Stable (.array items)
  | object {members : Ordered Text Json} (hdistinct : members.keys.Nodup)
      (hnames : ∀ m ∈ members, Settled m.1) (hvalues : ∀ m ∈ members, Stable m.2) :
      Stable (.object members)

theorem rereadItems_self {vs : List Json} (h : ∀ v ∈ vs, v.reread = some v) :
    rereadItems vs = some vs := by
  induction vs with
  | nil => rfl
  | cons v vs ih =>
      rw [List.forall_mem_cons] at h
      rw [rereadItems, h.1, ih h.2]
      rfl

theorem rereadMembers_self {ms : List (Text × Json)} (hnames : ∀ m ∈ ms, Settled m.1)
    (h : ∀ m ∈ ms, m.2.reread = some m.2) : rereadMembers ms = some ms := by
  induction ms with
  | nil => rfl
  | cons m ms ih =>
      rw [List.forall_mem_cons] at hnames h
      rw [rereadMembers, h.1, ih hnames.2 h.2, hnames.1.reread]
      rfl

theorem Stable.reread {v : Json} (h : v.Stable) : v.reread = some v := by
  induction h with
  | null => rfl
  | bool b => rfl
  | int h =>
      rw [Json.int, Json.reread, Number.reread?, if_neg (Nat.not_lt.mpr h)]
      rfl
  | real h => exact (read?_write _).symm.trans h
  | string h => rw [Json.reread, h.reread]
  | array h ih =>
      rw [Json.reread, rereadItems_self ih]
      rfl
  | object hdistinct hnames hvalues ih =>
      rw [Json.reread, rereadMembers_self hnames ih, Option.map_some,
        Ordered.ofList_of_nodup hdistinct]

/-- The text of a stable value denotes that value. -/
theorem Stable.read?_write {v : Json} (h : v.Stable) : read? (ofChars v.write) = some v :=
  (Json.read?_write v).trans h.reread

theorem stable_ofString (s : String) : (ofString s).Stable := .string (settled_ofString s)

/-- Strings that are distinct are distinct as names. -/
theorem nodup_stringNames {members : List (String × Json)} (h : (members.map (·.1)).Nodup) :
    (Ordered.keys (members.map fun m => ((m.1 : Text), m.2))).Nodup := by
  rw [Ordered.keys, List.Nodup, List.pairwise_map, List.pairwise_map]
  rw [List.Nodup, List.pairwise_map] at h
  exact h.imp fun hne heq => hne (Text.ofString_inj.mp heq)

end Json

end SearchBridge
