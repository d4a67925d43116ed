import SearchBridge.Bytes.Utf8
import SearchBridge.Text.Surrogate
/-!
Text in the Unicode encodings.

The encoding of JSON text is told from its first octets. A byte order mark decides; without one the
zero octets among the first four do, because JSON text starts with ASCII characters. Decoding JSON
text fails on malformed octets, but surrogates that stand alone are let through, and outside UTF-16
two of them do not form a pair. In any other text they are malformed.
-/

namespace SearchBridge

namespace Unicode

inductive Encoding where
  | utf8
  | utf16 (bigEndian : Bool)
  | utf32 (bigEndian : Bool)
  deriving DecidableEq, Repr

/-- The byte order marks. The one of UTF-16 that begins one of UTF-32 comes after it. -/
def byteOrderMarks : List (List UInt8 × Encoding) :=
  [([0x00, 0x00, 0xFE, 0xFF], .utf32 true), ([0xFF, 0xFE, 0x00, 0x00], .utf32 false),
    ([0xFE, 0xFF], .utf16 true), ([0xFF, 0xFE], .utf16 false), ([0xEF, 0xBB, 0xBF], .utf8)]

/-- The encoding of JSON text without a byte order mark. -/
def unmarked : List UInt8 → Encoding
  | a :: b :: c :: d :: _ =>
    if a = 0 then (if b = 0 then .utf32 true else .utf16 true)
    else if b = 0 then (if c = 0 && d = 0 then .utf32 false else .utf16 false)
    else .utf8
  | [a, b] => if a = 0 then .utf16 true else if b = 0 then .utf16 false else .utf8
  | _ => .utf8

/-- The encoding of JSON text and the octets after the byte order mark, if there is one. -/
def detect (bs : List UInt8) : Encoding × List UInt8 :=
  let marked := byteOrderMarks.findSome? fun (mark, encoding) =>
    (mark.isPrefixOf? bs).map (encoding, ·)
  marked.getD (unmarked bs, bs)

/-- The number that octets denote, the most significant one first. -/
def ofOctets (bs : List UInt8) : Nat := bs.foldl (fun n b => n * 256 + b.toNat) 0

def units16? (bigEndian : Bool) : List UInt8 → Option (List Nat)
  | [] => some []
  | a :: b :: r =>
    (units16? bigEndian r).map (ofOctets (if bigEndian then [a, b] else [b, a]) :: ·)
  | _ => none

def units32? (bigEndian : Bool) : List UInt8 → Option (List Nat)
  | [] => some []
  | a :: b :: c :: d :: r =>
    let n := ofOctets (if bigEndian then [a, b, c, d] else [d, c, b, a])
    if n < 0x110000 then (units32? bigEndian r).map (n :: ·) else none
  | _ => none

def decode? : Encoding → List UInt8 → Option Text
  | .utf8, bs => (Utf8.pieces true bs).strict?
  | .utf16 bigEndian, bs => (units16? bigEndian bs).map fun ns => Text.joinPieces (ns.map .unit)
  | .utf32 bigEndian, bs => (units32? bigEndian bs).map (·.map Point.ofNat)

/-- The text of octets whose encoding is told from themselves. -/
def decodeDetected? (bs : List UInt8) : Option Text :=
  let (encoding, rest) := detect bs
  decode? encoding rest

def front16 (bigEndian : Bool) (a : UInt8) (r : List UInt8) : Front :=
  let unit (a b : UInt8) := ofOctets (if bigEndian then [a, b] else [b, a])
  match r with
  | [] => .incomplete
  | b :: r =>
    let n := unit a b
    if Text.isLowSurrogate n then .malformed 1
    else if Text.isHighSurrogate n then
      match r with
      | c :: d :: _ =>
        if Text.isLowSurrogate (unit c d) then .point 3 (Text.joinPair n (unit c d)).toNat
        else .malformed 1
      | _ => .incomplete
    else .point 1 n

def front32 (bigEndian : Bool) (a : UInt8) (r : List UInt8) : Front :=
  match r with
  | b :: c :: d :: _ =>
    let n := ofOctets (if bigEndian then [a, b, c, d] else [d, c, b, a])
    if n.isValidChar then .point 3 n else .malformed 3
  | _ => .incomplete

def pieces : Encoding → List UInt8 → Pieces
  | .utf8, bs => Utf8.pieces false bs
  | .utf16 bigEndian, bs => Front.pieces (front16 bigEndian) bs
  | .utf32 bigEndian, bs => Front.pieces (front32 bigEndian) bs

/-- The pieces of text in units of 16 or, if they are `long`, of 32 bits behind a byte order mark. A
text without a mark is refused, but octets that are too few for one are a malformed piece. With
`trusting` it is little endian instead. -/
def markedPieces (long trusting : Bool) (bs : List UInt8) : Except CharsetFault Pieces :=
  let encoding (bigEndian : Bool) : Encoding := if long then .utf32 bigEndian else .utf16 bigEndian
  let size := if long then 4 else 2
  let little : List UInt8 := if long then [0xFF, 0xFE, 0x00, 0x00] else [0xFF, 0xFE]
  if little.isPrefixOf bs then .ok (pieces (encoding false) (bs.drop size))
  else if little.reverse.isPrefixOf bs then .ok (pieces (encoding true) (bs.drop size))
  else if trusting || bs.length < size then .ok (pieces (encoding false) bs)
  else .error (.noMark (8 * size))

end Unicode

end SearchBridge
