import SearchBridge.Bytes.Chinese
import SearchBridge.Bytes.CodePage.Iso8859
import SearchBridge.Bytes.Japanese
import SearchBridge.Bytes.Korean
/-!
Text in which escape sequences choose the set of characters that octets below 0x80 stand for.

Four places hold a set: two for the octets themselves, between which the shift octets change, one
for single characters behind an escape, and none for the controls. An escape sequence ends in a
capital letter or an at sign, and the letter names the set. An escape that starts no such sequence
lets everything through up to its end.
-/

namespace SearchBridge

namespace Designated

/-- The sets of characters that an escape sequence can choose. -/
inductive CodedSet where
  | ascii
  | latin1
  | greek
  | jisRoman
  | jisKatakana
  | jisX0208
  | jisX0208Old
  | jisX0212
  | jisX0213 (e : Japanese.Edition)
  | jisX0213Second
  | gb2312
  | ksX1001
  deriving DecidableEq, Repr

namespace CodedSet

def isDouble : CodedSet → Bool
  | .ascii | .latin1 | .greek | .jisRoman | .jisKatakana => false
  | _ => true

def finalOctet : CodedSet → Char
  | .ascii => 'B'
  | .latin1 => 'A'
  | .greek => 'F'
  | .jisRoman => 'J'
  | .jisKatakana => 'I'
  | .jisX0208 => 'B'
  | .jisX0208Old => '@'
  | .jisX0212 => 'D'
  | .jisX0213 .y2000 => 'O'
  | .jisX0213 .y2004 => 'Q'
  | .jisX0213Second => 'P'
  | .gb2312 => 'A'
  | .ksX1001 => 'C'

/-- The code points of one or two octets. The sets for single characters have none here, and the
tilde of JIS X 0213 is narrow. -/
def points? (s : CodedSet) (a b : Nat) : Option (List Nat) :=
  match s with
  | .ascii => some [a]
  | .latin1 | .greek => none
  | .jisRoman => some [if a = 0x5C then 0xA5 else if a = 0x7E then 0x203E else a]
  | .jisKatakana => (Japanese.halfKatakana? (a + 0x80)).map ([·])
  | .jisX0208 | .jisX0208Old => Grid.jisX0208.cell? a b
  | .jisX0212 => Grid.jisX0212.cell? a b
  | .jisX0213 e =>
    if a = 0x22 ∧ b = 0x32 then some [0x7E]
    else if Japanese.isMissing e a b then none
    else Japanese.firstPlane? a b
  | .jisX0213Second => Japanese.secondPlane? .y2004 a b
  | .gb2312 => Grid.gb2312.cell? a b
  | .ksX1001 => Grid.ksX1001.cell? a b

end CodedSet

/-- An encoding with escape sequences: the sets that they may choose besides ASCII, whether the
shift octets are in use, whether single characters are, and whether one sequence may announce
another. -/
structure Family where
  sets : List CodedSet
  shifts : Bool
  singles : Bool
  announced : Bool
  deriving DecidableEq, Repr

/-- The sets in the places, which of the first two is in use, and whether an unknown sequence is
being let through. -/
structure Places where
  first : CodedSet
  second : CodedSet
  single : CodedSet
  shifted : Bool
  through : Bool
  deriving DecidableEq, Repr

def Places.start : Places := ⟨.ascii, .ascii, .ascii, false, false⟩

def escapeOctet : Nat := 0x1B

def isFinal (b : UInt8) : Bool := (0x41 ≤ b.toNat && b.toNat ≤ 0x5A) || b.toNat = 0x40

/-- The octets that may follow an escape that chooses a set. -/
def isIntroducer (b : UInt8) : Bool := "()$.&".toList.contains (Char.ofNat b.toNat)

def sequenceLimit : Nat := 16

/-- How long an escape sequence is, zero if it is too long; nothing if its end is missing. `i`
octets come before those given. The announcement of another sequence is passed over, with one octet
behind it, where such announcements are in use. -/
def sequenceLength? (announced : Bool) (i : Nat) : List UInt8 → Option Nat
  | [] => if i < sequenceLimit then none else some 0
  | b :: r =>
    if sequenceLimit ≤ i then some 0
    else if isFinal b then some (i + 1)
    else if announced && b.toNat = 0x26 && r.head? = some 0x40 then
      sequenceLength? announced (i + 3) (r.drop 2)
    else sequenceLength? announced (i + 1) r
termination_by bs => bs.length
decreasing_by
  · simp only [List.length_drop, List.length_cons]
    omega
  · simp only [List.length_cons]
    omega

/-- The place that a sequence speaks of, and whether its set has two octets to a character. `r` are
the octets after the escape. -/
def target? (f : Family) (length : Nat) (r : List UInt8) :
    Option (Bool × (Places → CodedSet → Places)) :=
  let text := (r.take (length - 1)).map fun b => Char.ofNat b.toNat
  let first := fun (p : Places) s => { p with first := s }
  let second := fun (p : Places) s => { p with second := s }
  match text with
  | ['$', _] => some (true, first)
  | ['(', _] => some (false, first)
  | [')', _] => some (false, second)
  | ['.', _] => if f.singles then some (false, fun p s => { p with single := s }) else none
  | ['$', '(', _] => some (true, first)
  | ['$', ')', _] => some (true, second)
  | [_, _, '\x1b', '$', 'B'] => if f.announced then some (true, first) else none
  | _ => none

def Family.named? (f : Family) (double : Bool) (last : UInt8) : Option CodedSet :=
  (CodedSet.ascii :: f.sets).find? fun s =>
    s.isDouble = double && s.finalOctet = Char.ofNat last.toNat

/-- The longest text whose end is waited for. -/
def waitLimit : Nat := 8

def sequence (f : Family) (p : Places) (r : List UInt8) : Reading Places :=
  match sequenceLength? f.announced 1 r with
  | none => if waitLimit < r.length + 1 then .fault .overflow else .incomplete
  | some 0 => .malformed 0
  | some length =>
    match target? f length r, r[length - 2]? with
    | some (double, choose), some last =>
      match f.named? double last with
      | some s => .points (length - 1) [] (choose p s)
      | none => .malformed (length - 1)
    | _, _ => .malformed (length - 1)

/-- The octets that the first edition of the Greek set does not define. -/
def laterGreek : List UInt8 := [0xA4, 0xA5, 0xAA]

/-- The code point of a single character behind its escape: its octet has the upper bit of its set
taken away. -/
def singlePoint? : CodedSet → UInt8 → Except CharsetFault (Option Nat)
  | .latin1, b => .ok (if b.toNat < 0x80 then some (b.toNat + 0x80) else none)
  | .greek, b =>
    let c := b ^^^ 0x80
    .ok (if laterGreek.contains c then none else CodePage.iso8859Part7.point? c)
  | .ascii, b => .ok (if b.toNat < 0x80 then some b.toNat else none)
  | _, _ => .error .misplaced

/-- What an octet that is no control stands for. -/
def graphic (p : Places) (a : UInt8) (r : List UInt8) : Reading Places :=
  let s := if p.shifted then p.second else p.first
  if s = .ascii then .points 0 [a.toNat] p
  else if s.isDouble then
    match r with
    | b :: _ => ((s.points? a.toNat b.toNat).elim (.malformed 1) (.points 1 · p))
    | [] => .incomplete
  else (s.points? a.toNat 0).elim (.malformed 0) (.points 0 · p)

/-- Reads text with escape sequences. A line feed takes the shift back. -/
def read (f : Family) (p : Places) (a : UInt8) (r : List UInt8) : Reading Places :=
  let n := a.toNat
  if p.through then .points 0 [n] { p with through := !isFinal a }
  else if n = escapeOctet then
    match r with
    | [] => .incomplete
    | b :: rest =>
      if isIntroducer b then sequence f p r
      else if f.singles && b.toNat = 0x4E then
        match rest with
        | [] => .incomplete
        | c :: _ =>
          match singlePoint? p.single c with
          | .ok (some n) => .points 2 [n] p
          | .ok none => .malformed 2
          | .error fault => .fault fault
      else .points 0 [n] { p with through := true }
  else if n = 0x0F && f.shifts then .points 0 [] { p with shifted := false }
  else if n = 0x0E && f.shifts then .points 0 [] { p with shifted := true }
  else if n = 0x0A then .points 0 [n] { p with shifted := false }
  else if n < 0x20 then .points 0 [n] p
  else if 0x80 ≤ n then .malformed 0
  else graphic p a r

def pieces (f : Family) (bs : List UInt8) : Except CharsetFault Pieces :=
  Reading.piecesFrom (read f) .start bs

def japanese : Family :=
  ⟨[.jisX0208, .jisRoman, .jisX0208Old], false, false, true⟩

def japanese1 : Family :=
  ⟨[.jisX0208, .jisX0212, .jisRoman, .jisX0208Old], false, false, true⟩

def japanese2 : Family :=
  ⟨[.jisX0208, .jisX0212, .ksX1001, .gb2312, .jisRoman, .jisX0208Old, .latin1, .greek],
    false, true, true⟩

def japanese3 : Family := ⟨[.jisX0213 .y2000, .jisX0208, .jisX0213Second], false, false, true⟩

def japanese2004 : Family := ⟨[.jisX0213 .y2004, .jisX0208, .jisX0213Second], false, false, true⟩

def japaneseExtended : Family :=
  ⟨[.jisX0208, .jisX0212, .jisRoman, .jisKatakana, .jisX0208Old], false, false, true⟩

def korean : Family := ⟨[.ksX1001], true, false, false⟩

/-- Simplified Chinese between braces behind a tilde. `inside` says whether they are open. A tilde
before the end of a line takes the end away, and two of them are one. -/
def braced (inside : Bool) (a : UInt8) (r : List UInt8) : Reading Bool :=
  let n := a.toNat
  if n = 0x7E then
    match r with
    | [] => .incomplete
    | b :: _ =>
      if inside then if b = 0x7D then .points 1 [] false else .malformed 0
      else if b = 0x7E then .points 1 [0x7E] false
      else if b = 0x7B then .points 1 [] true
      else if b = 0x0A then .points 1 [] false
      else .malformed 0
  else if 0x80 ≤ n then .malformed 0
  else if !inside then .points 0 [n] false
  else
    match r with
    | [] => .incomplete
    | b :: _ => (Grid.gb2312.cell? n b.toNat).elim (.malformed 0) (.points 1 · true)

end Designated

end SearchBridge
