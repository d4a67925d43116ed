import SearchBridge.Bytes.CodePage.Macintosh
import SearchBridge.Bytes.CodePage.Mainframe
import SearchBridge.Bytes.CodePage.Personal
import SearchBridge.Bytes.CodePage.Regional
import SearchBridge.Bytes.CodePage.Windows
import SearchBridge.Bytes.Designated
import SearchBridge.Bytes.Escaped
import SearchBridge.Bytes.Gb18030
import SearchBridge.Bytes.Punycode
import SearchBridge.Bytes.Unicode
import SearchBridge.Bytes.Utf7
import SearchBridge.Text.Split
/-!
Character sets by their names, and decoding text in them.

Text is decoded in one of two ways: malformed pieces are replaced by U+FFFD, or the first of them is
a fault. Some names are known although they name no character set; they are faults of their own.
-/

namespace SearchBridge

/-- The character sets whose characters have one octet or two, and sometimes more. -/
inductive DoubleSet where
  | gb2312
  | gbk
  | gb18030
  | big5
  | windowsBig5
  | hongKong
  | eucJapanese
  | shiftJapanese
  | windowsJapanese
  | eucJapanese0213 (e : Japanese.Edition)
  | shiftJapanese0213 (e : Japanese.Edition)
  | eucKorean
  | windowsKorean
  | composedKorean
  deriving DecidableEq, Repr

def DoubleSet.front : DoubleSet → UInt8 → List UInt8 → Front
  | .gb2312 => Chinese.gb2312
  | .gbk => Chinese.gbk
  | .gb18030 => Gb18030.front
  | .big5 => Chinese.big5
  | .windowsBig5 => Chinese.windows
  | .hongKong => Chinese.hongKong
  | .eucJapanese => Japanese.extended
  | .shiftJapanese => Japanese.shiftJis
  | .windowsJapanese => Japanese.windows
  | .eucJapanese0213 e => Japanese.extended0213 e
  | .shiftJapanese0213 e => Japanese.shiftJis0213 e
  | .eucKorean => Korean.extended
  | .windowsKorean => Korean.unified
  | .composedKorean => Korean.composed

inductive Charset where
  | utf8
  /-- UTF-8 whose byte order mark is no part of the text. -/
  | utf8Marked
  /-- UTF-16 or UTF-32 in a given order. -/
  | wide (e : Unicode.Encoding)
  /-- UTF-16 or, if `long`, UTF-32 behind a byte order mark. -/
  | wideMarked (long : Bool)
  | utf7
  | ascii
  | latin1
  | page (p : CodePage)
  | double (s : DoubleSet)
  | designated (f : Designated.Family)
  /-- Simplified Chinese between braces. -/
  | braced
  | escaped (full : Bool)
  | punycode
  /-- Names of hosts. -/
  | hostName
  /-- A name that stands for no character set. -/
  | refused (f : CharsetFault)
  deriving DecidableEq, Repr

namespace Charset

/-- A name in lower case, with one underscore for whatever stands between its letters, digits and
dots. -/
def normalName (name : List Char) : String :=
  let plain := name.map fun c => if c.isAlphanum || c = '.' then c.toLower else ' '
  String.intercalate "_" (((Text.splitOn ' ' plain).filter (!·.isEmpty)).map String.ofList)

/-- The Unicode encodings and what is left of the names, each with the other names. -/
def general : List (String × List String × Charset) := [
  ("utf_8", ["u8", "utf", "utf8", "utf8_ucs2", "utf8_ucs4", "cp65001"], .utf8),
  ("utf_8_sig", [], .utf8Marked),
  ("utf_7", ["u7", "unicode_1_1_utf_7", "utf7"], .utf7),
  ("utf_16", ["u16", "utf16"], .wideMarked false),
  ("utf_16_be", ["unicodebigunmarked", "utf_16be"], .wide (.utf16 true)),
  ("utf_16_le", ["unicodelittleunmarked", "utf_16le"], .wide (.utf16 false)),
  ("utf_32", ["u32", "utf32"], .wideMarked true),
  ("utf_32_be", ["utf_32be"], .wide (.utf32 true)),
  ("utf_32_le", ["utf_32le"], .wide (.utf32 false)),
  ("ascii", ["646", "ansi_x3.4_1968", "ansi_x3_4_1968", "ansi_x3.4_1986", "cp367", "csascii",
    "ibm367", "iso646_us", "iso_646.irv_1991", "iso_ir_6", "us", "us_ascii"], .ascii),
  ("latin_1", ["8859", "cp819", "csisolatin1", "ibm819", "iso8859", "iso8859_1", "iso_8859_1",
    "iso_8859_1_1987", "iso_ir_100", "l1", "latin", "latin1"], .latin1),
  ("charmap", [], .latin1),
  ("unicode_escape", [], .escaped true),
  ("raw_unicode_escape", [], .escaped false),
  ("punycode", [], .punycode),
  ("idna", [], .hostName),
  ("undefined", [], .refused .undefined),
  ("base64_codec", ["base64", "base_64"], .refused .packing),
  ("bz2_codec", ["bz2"], .refused .packing),
  ("hex_codec", ["hex"], .refused .packing),
  ("quopri_codec", ["quopri", "quoted_printable", "quotedprintable"], .refused .packing),
  ("uu_codec", ["uu"], .refused .packing),
  ("zlib_codec", ["zip", "zlib"], .refused .packing),
  ("rot_13", ["rot13"], .refused .exchange)]

def eastern : List (String × List String × Charset) := [
  ("gb2312", ["chinese", "csiso58gb231280", "euc_cn", "euccn", "eucgb2312_cn", "gb2312_1980",
    "gb2312_80", "iso_ir_58", "x_mac_simp_chinese"], .double .gb2312),
  ("gbk", ["936", "cp936", "ms936"], .double .gbk),
  ("gb18030", ["gb18030_2000"], .double .gb18030),
  ("hz", ["hz_gb", "hz_gb_2312", "hzgb"], .braced),
  ("big5", ["big5_tw", "csbig5", "x_mac_trad_chinese"], .double .big5),
  ("cp950", ["950", "ms950"], .double .windowsBig5),
  ("big5hkscs", ["big5_hkscs", "hkscs"], .double .hongKong),
  ("euc_jp", ["eucjp", "u_jis", "ujis"], .double .eucJapanese),
  ("shift_jis", ["csshiftjis", "s_jis", "shiftjis", "sjis", "x_mac_japanese"],
    .double .shiftJapanese),
  ("cp932", ["932", "ms932", "ms_kanji", "mskanji"], .double .windowsJapanese),
  ("euc_jis_2004", ["euc_jis2004", "eucjis2004", "jisx0213"], .double (.eucJapanese0213 .y2004)),
  ("euc_jisx0213", ["eucjisx0213"], .double (.eucJapanese0213 .y2000)),
  ("shift_jis_2004", ["s_jis_2004", "shiftjis2004", "sjis_2004"],
    .double (.shiftJapanese0213 .y2004)),
  ("shift_jisx0213", ["s_jisx0213", "shiftjisx0213", "sjisx0213"],
    .double (.shiftJapanese0213 .y2000)),
  ("euc_kr", ["euckr", "korean", "ks_c_5601", "ks_c_5601_1987", "ks_x_1001", "ksc5601", "ksx1001",
    "x_mac_korean"], .double .eucKorean),
  ("cp949", ["949", "ms949", "uhc"], .double .windowsKorean),
  ("johab", ["cp1361", "ms1361"], .double .composedKorean),
  ("iso2022_jp", ["csiso2022jp", "iso2022jp", "iso_2022_jp"], .designated Designated.japanese),
  ("iso2022_jp_1", ["iso2022jp_1", "iso_2022_jp_1"], .designated Designated.japanese1),
  ("iso2022_jp_2", ["iso2022jp_2", "iso_2022_jp_2"], .designated Designated.japanese2),
  ("iso2022_jp_2004", ["iso2022jp_2004", "iso_2022_jp_2004"], .designated Designated.japanese2004),
  ("iso2022_jp_3", ["iso2022jp_3", "iso_2022_jp_3"], .designated Designated.japanese3),
  ("iso2022_jp_ext", ["iso2022jp_ext", "iso_2022_jp_ext"],
    .designated Designated.japaneseExtended),
  ("iso2022_kr", ["csiso2022kr", "iso2022kr", "iso_2022_kr"], .designated Designated.korean)]

def pages : List CodePage :=
  CodePage.iso8859 ++ CodePage.windows ++ CodePage.personal ++ CodePage.mainframe
    ++ CodePage.macintosh ++ CodePage.regional

/-- The character sets with their names, each name followed by the other names. -/
def known : List (String × List String × Charset) :=
  general ++ eastern ++ pages.map fun p => (p.name, p.aliases, .page p)

/-- The character set of a name. In the other names of a character set an underscore may be written
as a dot. -/
def ofName? (name : List Char) : Option Charset :=
  let plain := normalName name
  let undotted := String.ofList (plain.toList.map fun c => if c = '.' then '_' else c)
  (known.find? fun c =>
    c.1 = plain || c.2.1.contains plain || c.2.1.contains undotted).map (·.2.2)

/-- The octets after a byte order mark. With `partly` an incomplete mark that nothing follows is
one, too. -/
def dropMark (partly : Bool) : List UInt8 → List UInt8
  | 0xEF :: 0xBB :: 0xBF :: r => r
  | bs => if partly && (bs = [0xEF, 0xBB] || bs = [0xEF]) then [] else bs

def singles (point? : UInt8 → Option Nat) (bs : List UInt8) : Pieces :=
  bs.map fun b => (point? b).map Point.ofNat

def asciiPoint? (b : UInt8) : Option Nat := if b.toNat < 0x80 then some b.toNat else none

/-- The pieces of octets in a character set. `lossy` says whether malformed ones will be replaced:
then UTF-16 and UTF-32 have to start with a byte order mark, and UTF-8 may have half of one. -/
def pieces (lossy : Bool) : Charset → List UInt8 → Except CharsetFault Pieces
  | .utf8, bs => .ok (Utf8.pieces false bs)
  | .utf8Marked, bs => .ok (Utf8.pieces false (dropMark lossy bs))
  | .wide e, bs => .ok (Unicode.pieces e bs)
  | .wideMarked long, bs => Unicode.markedPieces long (!lossy) bs
  | .utf7, bs => .ok (Utf7.pieces bs)
  | .ascii, bs => .ok (singles asciiPoint? bs)
  | .latin1, bs => .ok (singles (fun b => some b.toNat) bs)
  | .page p, bs => .ok (singles p.point? bs)
  | .double s, bs => .ok (Front.pieces s.front bs)
  | .designated f, bs => Designated.pieces f bs
  | .braced, bs => Reading.piecesFrom Designated.braced false bs
  | .escaped full, bs => .ok (Front.pieces (if full then Escaped.full else Escaped.plain) bs)
  | .punycode, bs => (Punycode.decode lossy bs).map (·.map some)
  | .hostName, bs => if lossy then .error .irreplaceable else .ok (singles asciiPoint? bs)
  | .refused f, _ => .error f

/-- The text of octets in a character set. `lossy` says whether malformed pieces are replaced. -/
def decode (c : Charset) (lossy : Bool) (bs : List UInt8) : Except CharsetFault Text := do
  (← c.pieces lossy bs).text lossy

end Charset

end SearchBridge
