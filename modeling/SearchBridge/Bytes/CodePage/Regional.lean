import SearchBridge.Bytes.CodePage.Basic
/-!
Character sets of single countries and single makers.
-/

namespace SearchBridge

namespace CodePage

def hpRoman8 : CodePage where
  name := "hp_roman8"
  aliases := ["cp1051", "csHPRoman8", "ibm1051", "r8", "roman8"]
  first := 161
  cells := [
    "ÀÂÈÊËÎÏ´ˋˆ¨˜ÙÛ₤¯Ýý°ÇçÑñ¡¿¤£¥§ƒ¢âêôûáéóúàèòùäëöüÅîØÆåíøæÄìÖÜÉïßÔÁÃãÐðÍÌÓÒÕõŠšÚŸÿÞþ·µ¶¾—¼½ªº«■»",
    "±�"]

def koi8r : CodePage where
  name := "koi8_r"
  aliases := ["cskoi8r"]
  first := 128
  cells := [
    "─│┌┐└┘├┤┬┴┼▀▄█▌▐░▒▓⌠■∙√≈≤≥\xa0⌡°²·÷═║╒ё╓╔╕╖╗╘╙╚╛╜╝╞╟╠╡Ё╢╣╤╥╦╧╨╩╪╫╬©юабцдефгхийклмнопярстужвьы",
    "зшэщчъЮАБЦДЕФГХИЙКЛМНОПЯРСТУЖВЬЫЗШЭЩЧЪ"]

def koi8t : CodePage where
  name := "koi8_t"
  aliases := []
  first := 128
  cells := [
    "қғ‚Ғ„…†‡�‰ҳ‹ҲҷҶ�Қ‘’“”•–—�™�›�����ӯӮё¤ӣ¦§���«¬\xad®�°±²Ё�Ӣ¶·�№�»���©юабцдефгхийклмнопярстужвьы",
    "зшэщчъЮАБЦДЕФГХИЙКЛМНОПЯРСТУЖВЬЫЗШЭЩЧЪ"]

def koi8u : CodePage where
  name := "koi8_u"
  aliases := []
  first := 128
  cells := [
    "─│┌┐└┘├┤┬┴┼▀▄█▌▐░▒▓⌠■∙√≈≤≥\xa0⌡°²·÷═║╒ёє╔ії╗╘╙╚╛ґ╝╞╟╠╡ЁЄ╣ІЇ╦╧╨╩╪Ґ╬©юабцдефгхийклмнопярстужвьы",
    "зшэщчъЮАБЦДЕФГХИЙКЛМНОПЯРСТУЖВЬЫЗШЭЩЧЪ"]

def kz1048 : CodePage where
  name := "kz1048"
  aliases := ["kz_1048", "rk1048", "strk1048_2002"]
  first := 128
  cells := [
    "ЂЃ‚ѓ„…†‡€‰Љ‹ЊҚҺЏђ‘’“”•–—�™љ›њқһџ\xa0ҰұӘ¤Ө¦§Ё©Ғ«¬\xad®Ү°±Ііөµ¶·ё№ғ»әҢңүАБВГДЕЖЗИЙКЛМНОПРСТУФХЦ",
    "ЧШЩЪЫЬЭЮЯабвгдежзийклмнопрстуфхцчшщъыьэюя"]

def palmOs : CodePage where
  name := "palmos"
  aliases := []
  first := 128
  cells := [
    "€\x81‚ƒ„…†‡ˆ‰Š‹Œ♦♣♥♠‘’“”•–—˜™š\x9bœ\x9d\x9eŸ\xa0¡¢£¤¥¦§¨©ª«¬\xad®¯°±²³´µ¶·¸¹º»¼½¾¿ÀÁÂÃÄÅÆÇÈÉÊ",
    "ËÌÍÎÏÐÑÒÓÔÕÖ×ØÙÚÛÜÝÞßàáâãäåæçèéêëìíîïðñòóôõö÷øùúûüýþÿ"]

def ptcp154 : CodePage where
  name := "ptcp154"
  aliases := ["cp154", "csptcp154", "cyrillic_asian", "pt154"]
  first := 128
  cells := [
    "ҖҒӮғ„…ҶҮҲүҠӢҢҚҺҸҗ‘’“”•–—ҳҷҡӣңқһҹ\xa0ЎўЈӨҘҰ§Ё©Ә«¬ӯ®Ҝ°ұІіҙө¶·ё№ә»јҪҫҝАБВГДЕЖЗИЙКЛМНОПРСТУФХЦЧШЩ",
    "ЪЫЬЭЮЯабвгдежзийклмнопрстуфхцчшщъыьэюя"]

/-- The character sets of single countries and single makers. -/
def regional : List CodePage := [
  hpRoman8, koi8r, koi8t, koi8u, kz1048, palmOs, ptcp154]

end CodePage

end SearchBridge
