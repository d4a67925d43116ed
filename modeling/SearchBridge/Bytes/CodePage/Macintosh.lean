import SearchBridge.Bytes.CodePage.Basic
/-!
Character sets of the Macintosh.
-/

namespace SearchBridge

namespace CodePage

def macArabic : CodePage where
  name := "mac_arabic"
  aliases := []
  first := 128
  cells := [
    "Ä\xa0ÇÉÑÖÜáàâä\u06ba«çéèêëí…îïñó»ôö÷úùûü !\x22\x23$٪&\x27()*+،\x2d.\x2f\u0660\u0661\u0662",
    "\u0663\u0664\u0665\u0666\u0667\u0668\u0669:\u061b<=>\u061f❊\u0621\u0622\u0623\u0624\u0625",
    "\u0626\u0627\u0628\u0629\u062a\u062b\u062c\u062d\u062e\u062f\u0630\u0631\u0632\u0633\u0634",
    "\u0635\u0636\u0637\u0638\u0639\u063a[\x5c]^_\u0640\u0641\u0642\u0643\u0644\u0645\u0646\u0647",
    "\u0648\u0649\u064a\u064b\u064c\u064d\u064e\u064f\u0650\u0651\u0652\u067e\u0679\u0686\u06d5",
    "\u06a4\u06af\u0688\u0691\x7b|\x7d\u0698\u06d2"]

def macCroatian : CodePage where
  name := "mac_croatian"
  aliases := []
  first := 128
  cells := [
    "ÄÅÇÉÑÖÜáàâäãåçéèêëíìîïñóòôöõúùûü†°¢£§•¶ß®Š™´¨≠ŽØ∞±≤≥∆µ∂∑∏š∫ªºΩžø¿¡¬√ƒ≈Ć«Č…\xa0ÀÃÕŒœĐ—“”‘’÷◊",
    "\uf8ff©⁄€‹›Æ»–·‚„‰ÂćÁčÈÍÎÏÌÓÔđÒÚÛÙıˆ˜¯πË˚¸Êæˇ"]

def macCyrillic : CodePage where
  name := "mac_cyrillic"
  aliases := ["maccyrillic"]
  first := 128
  cells := [
    "АБВГДЕЖЗИЙКЛМНОПРСТУФХЦЧШЩЪЫЬЭЮЯ†°Ґ£§•¶І®©™Ђђ≠Ѓѓ∞±≤≥іµґЈЄєЇїЉљЊњјЅ¬√ƒ≈∆«»…\xa0ЋћЌќѕ–—“”‘’÷„Ўў",
    "Џџ№Ёёяабвгдежзийклмнопрстуфхцчшщъыьэю€"]

def macFarsi : CodePage where
  name := "mac_farsi"
  aliases := []
  first := 128
  cells := [
    "Ä\xa0ÇÉÑÖÜáàâä\u06ba«çéèêëí…îïñó»ôö÷úùûü !\x22\x23$٪&\x27()*+،\x2d.\x2f۰۱۲۳۴۵۶۷۸۹:\u061b<=>",
    "\u061f❊\u0621\u0622\u0623\u0624\u0625\u0626\u0627\u0628\u0629\u062a\u062b\u062c\u062d\u062e",
    "\u062f\u0630\u0631\u0632\u0633\u0634\u0635\u0636\u0637\u0638\u0639\u063a[\x5c]^_\u0640\u0641",
    "\u0642\u0643\u0644\u0645\u0646\u0647\u0648\u0649\u064a\u064b\u064c\u064d\u064e\u064f\u0650",
    "\u0651\u0652\u067e\u0679\u0686\u06d5\u06a4\u06af\u0688\u0691\x7b|\x7d\u0698\u06d2"]

def macGreek : CodePage where
  name := "mac_greek"
  aliases := ["macgreek"]
  first := 128
  cells := [
    "Ä¹²É³ÖÜ΅àâä΄¨çéèêë£™îï•½‰ôö¦€ùûü†ΓΔΘΛΞΠß®©ΣΪ§≠°·Α±≤≥¥ΒΕΖΗΙΚΜΦΫΨΩάΝ¬ΟΡ≈Τ«»…\xa0ΥΧΆΈœ–―“”‘’÷ΉΊΌ",
    "ΎέήίόΏύαβψδεφγηιξκλμνοπώρστθωςχυζϊϋΐΰ\xad"]

def macIceland : CodePage where
  name := "mac_iceland"
  aliases := ["maciceland"]
  first := 128
  cells := [
    "ÄÅÇÉÑÖÜáàâäãåçéèêëíìîïñóòôöõúùûüÝ°¢£§•¶ß®©™´¨≠ÆØ∞±≤≥¥µ∂∑∏π∫ªºΩæø¿¡¬√ƒ≈∆«»…\xa0ÀÃÕŒœ–—“”‘’÷◊ÿŸ",
    "⁄€ÐðÞþý·‚„‰ÂÊÁËÈÍÎÏÌÓÔ\uf8ffÒÚÛÙıˆ˜¯˘˙˚¸˝˛ˇ"]

def macLatin2 : CodePage where
  name := "mac_latin2"
  aliases := ["mac_centeuro", "maccentraleurope", "maclatin2"]
  first := 128
  cells := [
    "ÄĀāÉĄÖÜáąČäčĆćéŹźĎíďĒēĖóėôöõúĚěü†°Ę£§•¶ß®©™ę¨≠ģĮįĪ≤≥īĶ∂∑łĻļĽľĹĺŅņŃ¬√ńŇ∆«»…\xa0ňŐÕőŌ–—“”‘’÷◊ōŔ",
    "ŕŘ‹›řŖŗŠ‚„šŚśÁŤťÍŽžŪÓÔūŮÚůŰűŲųÝýķŻŁżĢˇ"]

def macRoman : CodePage where
  name := "mac_roman"
  aliases := ["macintosh", "macroman"]
  first := 128
  cells := [
    "ÄÅÇÉÑÖÜáàâäãåçéèêëíìîïñóòôöõúùûü†°¢£§•¶ß®©™´¨≠ÆØ∞±≤≥¥µ∂∑∏π∫ªºΩæø¿¡¬√ƒ≈∆«»…\xa0ÀÃÕŒœ–—“”‘’÷◊ÿŸ",
    "⁄€‹›ﬁﬂ‡·‚„‰ÂÊÁËÈÍÎÏÌÓÔ\uf8ffÒÚÛÙıˆ˜¯˘˙˚¸˝˛ˇ"]

def macRomanian : CodePage where
  name := "mac_romanian"
  aliases := []
  first := 128
  cells := [
    "ÄÅÇÉÑÖÜáàâäãåçéèêëíìîïñóòôöõúùûü†°¢£§•¶ß®©™´¨≠ĂȘ∞±≤≥¥µ∂∑∏π∫ªºΩăș¿¡¬√ƒ≈∆«»…\xa0ÀÃÕŒœ–—“”‘’÷◊ÿŸ",
    "⁄€‹›Țț‡·‚„‰ÂÊÁËÈÍÎÏÌÓÔ\uf8ffÒÚÛÙıˆ˜¯˘˙˚¸˝˛ˇ"]

def macTurkish : CodePage where
  name := "mac_turkish"
  aliases := ["macturkish"]
  first := 128
  cells := [
    "ÄÅÇÉÑÖÜáàâäãåçéèêëíìîïñóòôöõúùûü†°¢£§•¶ß®©™´¨≠ÆØ∞±≤≥¥µ∂∑∏π∫ªºΩæø¿¡¬√ƒ≈∆«»…\xa0ÀÃÕŒœ–—“”‘’÷◊ÿŸ",
    "ĞğİıŞş‡·‚„‰ÂÊÁËÈÍÎÏÌÓÔ\uf8ffÒÚÛÙ\uf8a0ˆ˜¯˘˙˚¸˝˛ˇ"]

def macintosh : List CodePage := [
  macArabic, macCroatian, macCyrillic, macFarsi, macGreek, macIceland, macLatin2, macRoman,
  macRomanian, macTurkish]

end CodePage

end SearchBridge
