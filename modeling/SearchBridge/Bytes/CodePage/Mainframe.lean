import SearchBridge.Bytes.CodePage.Basic
/-!
Character sets of mainframes, in which letters do not stand where ASCII has them.
-/

namespace SearchBridge

namespace CodePage

def ibm037 : CodePage where
  name := "cp037"
  aliases := [
    "037", "csibm037", "ebcdic_cp_ca", "ebcdic_cp_nl", "ebcdic_cp_us", "ebcdic_cp_wt", "ibm037",
    "ibm039"]
  first := 4
  cells := [
    "\x9c\x09\x86\x7f\x97\x8d\x8e\x0b\x0c\x0d\x0e\x0f\x10\x11\x12\x13\x9d\x85\x08\x87\x18\x19\x92",
    "\x8f\x1c\x1d\x1e\x1f\x80\x81\x82\x83\x84\x0a\x17\x1b\x88\x89\x8a\x8b\x8c\x05\x06\x07\x90\x91",
    "\x16\x93\x94\x95\x96\x04\x98\x99\x9a\x9b\x14\x15\x9e\x1a \xa0âäàáãåçñ¢.<(+|&éêëèíîïìß!$*);¬",
    "\x2d\x2fÂÄÀÁÃÅÇÑ¦,%_>?øÉÊËÈÍÎÏÌ\x60:\x23@\x27=\x22Øabcdefghi«»ðýþ±°jklmnopqrªºæ¸Æ¤µ~stuvwxyz¡",
    "¿ÐÝÞ®^£¥·©§¶¼½¾[]¯¨´×\x7bABCDEFGHI\xadôöòóõ\x7dJKLMNOPQR¹ûüùúÿ\x5c÷STUVWXYZ²ÔÖÒÓÕ0123456789³Û",
    "ÜÙÚ\x9f"]

def ibm273 : CodePage where
  name := "cp273"
  aliases := ["273", "csibm273", "ibm273"]
  first := 4
  cells := [
    "\x9c\x09\x86\x7f\x97\x8d\x8e\x0b\x0c\x0d\x0e\x0f\x10\x11\x12\x13\x9d\x85\x08\x87\x18\x19\x92",
    "\x8f\x1c\x1d\x1e\x1f\x80\x81\x82\x83\x84\x0a\x17\x1b\x88\x89\x8a\x8b\x8c\x05\x06\x07\x90\x91",
    "\x16\x93\x94\x95\x96\x04\x98\x99\x9a\x9b\x14\x15\x9e\x1a \xa0â\x7bàáãåçñÄ.<(+!&éêëèíîïì~Ü$*);",
    "^\x2d\x2fÂ[ÀÁÃÅÇÑö,%_>?øÉÊËÈÍÎÏÌ\x60:\x23§\x27=\x22Øabcdefghi«»ðýþ±°jklmnopqrªºæ¸Æ¤µßstuvwxyz",
    "¡¿ÐÝÞ®¢£¥·©@¶¼½¾¬|‾¨´×äABCDEFGHI\xadô¦òóõüJKLMNOPQR¹û\x7dùúÿÖ÷STUVWXYZ²Ô\x5cÒÓÕ0123456789³Û]Ù",
    "Ú\x9f"]

def ibm424 : CodePage where
  name := "cp424"
  aliases := ["424", "csibm424", "ebcdic_cp_he", "ibm424"]
  first := 4
  cells := [
    "\x9c\x09\x86\x7f\x97\x8d\x8e\x0b\x0c\x0d\x0e\x0f\x10\x11\x12\x13\x9d\x85\x08\x87\x18\x19\x92",
    "\x8f\x1c\x1d\x1e\x1f\x80\x81\x82\x83\x84\x0a\x17\x1b\x88\x89\x8a\x8b\x8c\x05\x06\x07\x90\x91",
    "\x16\x93\x94\x95\x96\x04\x98\x99\x9a\x9b\x14\x15\x9e\x1a \u05d0\u05d1\u05d2\u05d3\u05d4\u05d5",
    "\u05d6\u05d7\u05d8¢.<(+|&\u05d9\u05da\u05db\u05dc\u05dd\u05de\u05df\u05e0\u05e1!$*);¬\x2d\x2f",
    "\u05e2\u05e3\u05e4\u05e5\u05e6\u05e7\u05e8\u05e9¦,%_>?�\u05ea��\xa0���‗\x60:\x23@\x27=\x22�ab",
    "cdefghi«»���±°jklmnopqr���¸�¤µ~stuvwxyz�����®^£¥·©§¶¼½¾[]¯¨´×\x7bABCDEFGHI\xad�����\x7dJKLMNO",
    "PQR¹�����\x5c÷STUVWXYZ²�����0123456789³����\x9f"]

def ibm500 : CodePage where
  name := "cp500"
  aliases := ["500", "csibm500", "ebcdic_cp_be", "ebcdic_cp_ch", "ibm500"]
  first := 4
  cells := [
    "\x9c\x09\x86\x7f\x97\x8d\x8e\x0b\x0c\x0d\x0e\x0f\x10\x11\x12\x13\x9d\x85\x08\x87\x18\x19\x92",
    "\x8f\x1c\x1d\x1e\x1f\x80\x81\x82\x83\x84\x0a\x17\x1b\x88\x89\x8a\x8b\x8c\x05\x06\x07\x90\x91",
    "\x16\x93\x94\x95\x96\x04\x98\x99\x9a\x9b\x14\x15\x9e\x1a \xa0âäàáãåçñ[.<(+!&éêëèíîïìß]$*);^",
    "\x2d\x2fÂÄÀÁÃÅÇÑ¦,%_>?øÉÊËÈÍÎÏÌ\x60:\x23@\x27=\x22Øabcdefghi«»ðýþ±°jklmnopqrªºæ¸Æ¤µ~stuvwxyz¡",
    "¿ÐÝÞ®¢£¥·©§¶¼½¾¬|¯¨´×\x7bABCDEFGHI\xadôöòóõ\x7dJKLMNOPQR¹ûüùúÿ\x5c÷STUVWXYZ²ÔÖÒÓÕ0123456789³Û",
    "ÜÙÚ\x9f"]

def ibm875 : CodePage where
  name := "cp875"
  aliases := []
  first := 4
  cells := [
    "\x9c\x09\x86\x7f\x97\x8d\x8e\x0b\x0c\x0d\x0e\x0f\x10\x11\x12\x13\x9d\x85\x08\x87\x18\x19\x92",
    "\x8f\x1c\x1d\x1e\x1f\x80\x81\x82\x83\x84\x0a\x17\x1b\x88\x89\x8a\x8b\x8c\x05\x06\x07\x90\x91",
    "\x16\x93\x94\x95\x96\x04\x98\x99\x9a\x9b\x14\x15\x9e\x1a ΑΒΓΔΕΖΗΘΙ[.<(+!&ΚΛΜΝΞΟΠΡΣ]$*);^\x2d",
    "\x2fΤΥΦΧΨΩΪΫ|,%_>?¨ΆΈΉ\xa0ΊΌΎΏ\x60:\x23@\x27=\x22΅abcdefghiαβγδεζ°jklmnopqrηθικλμ´~stuvwxyzνξ",
    "οπρσ£άέήϊίόύϋώςτυφχψ\x7bABCDEFGHI\xadωΐΰ‘―\x7dJKLMNOPQR±½\x1a\u0387’¦\x5c\x1aSTUVWXYZ²§\x1a",
    "\x1a«¬0123456789³©\x1a\x1a»\x9f"]

def ibm1026 : CodePage where
  name := "cp1026"
  aliases := ["1026", "csibm1026", "ibm1026"]
  first := 4
  cells := [
    "\x9c\x09\x86\x7f\x97\x8d\x8e\x0b\x0c\x0d\x0e\x0f\x10\x11\x12\x13\x9d\x85\x08\x87\x18\x19\x92",
    "\x8f\x1c\x1d\x1e\x1f\x80\x81\x82\x83\x84\x0a\x17\x1b\x88\x89\x8a\x8b\x8c\x05\x06\x07\x90\x91",
    "\x16\x93\x94\x95\x96\x04\x98\x99\x9a\x9b\x14\x15\x9e\x1a \xa0âäàáãå\x7bñÇ.<(+!&éêëèíîïìßĞİ*);",
    "^\x2d\x2fÂÄÀÁÃÅ[Ñş,%_>?øÉÊËÈÍÎÏÌı:ÖŞ\x27=ÜØabcdefghi«»\x7d\x60¦±°jklmnopqrªºæ¸Æ¤µöstuvwxyz¡¿]",
    "$@®¢£¥·©§¶¼½¾¬|¯¨´×çABCDEFGHI\xadô~òóõğJKLMNOPQR¹û\x5cùúÿü÷STUVWXYZ²Ô\x23ÒÓÕ0123456789³Û\x22Ù",
    "Ú\x9f"]

def ibm1140 : CodePage where
  name := "cp1140"
  aliases := ["1140", "ibm1140"]
  first := 4
  cells := [
    "\x9c\x09\x86\x7f\x97\x8d\x8e\x0b\x0c\x0d\x0e\x0f\x10\x11\x12\x13\x9d\x85\x08\x87\x18\x19\x92",
    "\x8f\x1c\x1d\x1e\x1f\x80\x81\x82\x83\x84\x0a\x17\x1b\x88\x89\x8a\x8b\x8c\x05\x06\x07\x90\x91",
    "\x16\x93\x94\x95\x96\x04\x98\x99\x9a\x9b\x14\x15\x9e\x1a \xa0âäàáãåçñ¢.<(+|&éêëèíîïìß!$*);¬",
    "\x2d\x2fÂÄÀÁÃÅÇÑ¦,%_>?øÉÊËÈÍÎÏÌ\x60:\x23@\x27=\x22Øabcdefghi«»ðýþ±°jklmnopqrªºæ¸Æ€µ~stuvwxyz¡",
    "¿ÐÝÞ®^£¥·©§¶¼½¾[]¯¨´×\x7bABCDEFGHI\xadôöòóõ\x7dJKLMNOPQR¹ûüùúÿ\x5c÷STUVWXYZ²ÔÖÒÓÕ0123456789³Û",
    "ÜÙÚ\x9f"]

/-- The character sets of mainframes, in which letters do not stand where ASCII has them. -/
def mainframe : List CodePage := [
  ibm037, ibm273, ibm424, ibm500, ibm875, ibm1026, ibm1140]

end CodePage

end SearchBridge
