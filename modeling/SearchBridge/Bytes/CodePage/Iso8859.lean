import SearchBridge.Bytes.CodePage.Basic
/-!
Parts of ISO 8859 and other standards for one script each.
-/

namespace SearchBridge

namespace CodePage

def iso8859Part2 : CodePage where
  name := "iso8859_2"
  aliases := ["csisolatin2", "iso_8859_2", "iso_8859_2_1987", "iso_ir_101", "l2", "latin2"]
  first := 161
  cells := [
    "Ą˘Ł¤ĽŚ§¨ŠŞŤŹ\xadŽŻ°ą˛ł´ľśˇ¸šşťź˝žżŔÁÂĂÄĹĆÇČÉĘËĚÍÎĎĐŃŇÓÔŐÖ×ŘŮÚŰÜÝŢßŕáâăäĺćçčéęëěíîďđńňóôőö÷řůú",
    "űüýţ˙"]

def iso8859Part3 : CodePage where
  name := "iso8859_3"
  aliases := ["csisolatin3", "iso_8859_3", "iso_8859_3_1988", "iso_ir_109", "l3", "latin3"]
  first := 161
  cells := [
    "Ħ˘£¤�Ĥ§¨İŞĞĴ\xad�Ż°ħ²³´µĥ·¸ışğĵ½�żÀÁÂ�ÄĊĈÇÈÉÊËÌÍÎÏ�ÑÒÓÔĠÖ×ĜÙÚÛÜŬŜßàáâ�äċĉçèéêëìíîï�ñòóôġö÷ĝùú",
    "ûüŭŝ˙"]

def iso8859Part4 : CodePage where
  name := "iso8859_4"
  aliases := ["csisolatin4", "iso_8859_4", "iso_8859_4_1988", "iso_ir_110", "l4", "latin4"]
  first := 161
  cells := [
    "ĄĸŖ¤ĨĻ§¨ŠĒĢŦ\xadŽ¯°ą˛ŗ´ĩļˇ¸šēģŧŊžŋĀÁÂÃÄÅÆĮČÉĘËĖÍÎĪĐŅŌĶÔÕÖ×ØŲÚÛÜŨŪßāáâãäåæįčéęëėíîīđņōķôõö÷øųú",
    "ûüũū˙"]

def iso8859Part5 : CodePage where
  name := "iso8859_5"
  aliases := ["csisolatincyrillic", "cyrillic", "iso_8859_5", "iso_8859_5_1988", "iso_ir_144"]
  first := 161
  cells := [
    "ЁЂЃЄЅІЇЈЉЊЋЌ\xadЎЏАБВГДЕЖЗИЙКЛМНОПРСТУФХЦЧШЩЪЫЬЭЮЯабвгдежзийклмнопрстуфхцчшщъыьэюя№ёђѓєѕіїјљњ",
    "ћќ§ўџ"]

def iso8859Part6 : CodePage where
  name := "iso8859_6"
  aliases := [
    "arabic", "asmo_708", "csisolatinarabic", "ecma_114", "iso_8859_6", "iso_8859_6_1987",
    "iso_ir_127"]
  first := 161
  cells := [
    "���¤�������،\xad�������������\u061b���\u061f�\u0621\u0622\u0623\u0624\u0625\u0626\u0627\u0628",
    "\u0629\u062a\u062b\u062c\u062d\u062e\u062f\u0630\u0631\u0632\u0633\u0634\u0635\u0636\u0637",
    "\u0638\u0639\u063a�����\u0640\u0641\u0642\u0643\u0644\u0645\u0646\u0647\u0648\u0649\u064a",
    "\u064b\u064c\u064d\u064e\u064f\u0650\u0651\u0652�������������"]

def iso8859Part7 : CodePage where
  name := "iso8859_7"
  aliases := [
    "csisolatingreek", "ecma_118", "elot_928", "greek", "greek8", "iso_8859_7", "iso_8859_7_1987",
    "iso_ir_126"]
  first := 161
  cells := [
    "‘’£€₯¦§¨©ͺ«¬\xad�―°±²³΄΅Ά·ΈΉΊ»Ό½ΎΏΐΑΒΓΔΕΖΗΘΙΚΛΜΝΞΟΠΡ�ΣΤΥΦΧΨΩΪΫάέήίΰαβγδεζηθικλμνξοπρςστυφχψωϊ",
    "ϋόύώ�"]

def iso8859Part8 : CodePage where
  name := "iso8859_8"
  aliases := ["csisolatinhebrew", "hebrew", "iso_8859_8", "iso_8859_8_1988", "iso_ir_138"]
  first := 161
  cells := [
    "�¢£¤¥¦§¨©×«¬\xad®¯°±²³´µ¶·¸¹÷»¼½¾��������������������������������‗\u05d0\u05d1\u05d2\u05d3",
    "\u05d4\u05d5\u05d6\u05d7\u05d8\u05d9\u05da\u05db\u05dc\u05dd\u05de\u05df\u05e0\u05e1\u05e2",
    "\u05e3\u05e4\u05e5\u05e6\u05e7\u05e8\u05e9\u05ea��\u200e\u200f�"]

def iso8859Part9 : CodePage where
  name := "iso8859_9"
  aliases := ["csisolatin5", "iso_8859_9", "iso_8859_9_1989", "iso_ir_148", "l5", "latin5"]
  first := 208
  cells := [
    "ĞÑÒÓÔÕÖ×ØÙÚÛÜİŞßàáâãäåæçèéêëìíîïğñòóôõö÷øùúûüışÿ"]

def iso8859Part10 : CodePage where
  name := "iso8859_10"
  aliases := ["csisolatin6", "iso_8859_10", "iso_8859_10_1992", "iso_ir_157", "l6", "latin6"]
  first := 161
  cells := [
    "ĄĒĢĪĨĶ§ĻĐŠŦŽ\xadŪŊ°ąēģīĩķ·ļđšŧž―ūŋĀÁÂÃÄÅÆĮČÉĘËĖÍÎÏÐŅŌÓÔÕÖŨØŲÚÛÜÝÞßāáâãäåæįčéęëėíîïðņōóôõöũøųú",
    "ûüýþĸ"]

def iso8859Part11 : CodePage where
  name := "iso8859_11"
  aliases := ["iso_8859_11", "iso_8859_11_2001", "thai"]
  first := 161
  cells := [
    "กขฃคฅฆงจฉชซฌญฎฏฐฑฒณดตถทธนบปผฝพฟภมยรฤลฦวศษสหฬอฮฯะ\u0e31าำ\u0e34\u0e35\u0e36\u0e37\u0e38\u0e39",
    "\u0e3a����฿เแโใไๅๆ\u0e47\u0e48\u0e49\u0e4a\u0e4b\u0e4c\u0e4d\u0e4e๏๐๑๒๓๔๕๖๗๘๙๚๛����"]

def iso8859Part13 : CodePage where
  name := "iso8859_13"
  aliases := ["iso_8859_13", "l7", "latin7"]
  first := 161
  cells := [
    "”¢£¤„¦§Ø©Ŗ«¬\xad®Æ°±²³“µ¶·ø¹ŗ»¼½¾æĄĮĀĆÄÅĘĒČÉŹĖĢĶĪĻŠŃŅÓŌÕÖ×ŲŁŚŪÜŻŽßąįāćäåęēčéźėģķīļšńņóōõö÷ųłś",
    "ūüżž’"]

def iso8859Part14 : CodePage where
  name := "iso8859_14"
  aliases := ["iso_8859_14", "iso_8859_14_1998", "iso_celtic", "iso_ir_199", "l8", "latin8"]
  first := 161
  cells := [
    "Ḃḃ£ĊċḊ§Ẁ©ẂḋỲ\xad®ŸḞḟĠġṀṁ¶ṖẁṗẃṠỳẄẅṡÀÁÂÃÄÅÆÇÈÉÊËÌÍÎÏŴÑÒÓÔÕÖṪØÙÚÛÜÝŶßàáâãäåæçèéêëìíîïŵñòóôõöṫøùú",
    "ûüýŷÿ"]

def iso8859Part15 : CodePage where
  name := "iso8859_15"
  aliases := ["iso_8859_15", "l9", "latin9"]
  first := 164
  cells := [
    "€¥Š§š©ª«¬\xad®¯°±²³Žµ¶·ž¹º»ŒœŸ¿ÀÁÂÃÄÅÆÇÈÉÊËÌÍÎÏÐÑÒÓÔÕÖ×ØÙÚÛÜÝÞßàáâãäåæçèéêëìíîïðñòóôõö÷øùúûüý",
    "þÿ"]

def iso8859Part16 : CodePage where
  name := "iso8859_16"
  aliases := ["iso_8859_16", "iso_8859_16_2001", "iso_ir_226", "l10", "latin10"]
  first := 161
  cells := [
    "ĄąŁ€„Š§š©Ș«Ź\xadźŻ°±ČłŽ”¶·žčș»ŒœŸżÀÁÂĂÄĆÆÇÈÉÊËÌÍÎÏĐŃÒÓÔŐÖŚŰÙÚÛÜĘȚßàáâăäćæçèéêëìíîïđńòóôőöśűùú",
    "ûüęțÿ"]

def tis620 : CodePage where
  name := "tis_620"
  aliases := ["iso_ir_166", "tis620", "tis_620_0", "tis_620_2529_0", "tis_620_2529_1"]
  first := 160
  cells := [
    "�กขฃคฅฆงจฉชซฌญฎฏฐฑฒณดตถทธนบปผฝพฟภมยรฤลฦวศษสหฬอฮฯะ\u0e31าำ\u0e34\u0e35\u0e36\u0e37\u0e38\u0e39",
    "\u0e3a����฿เแโใไๅๆ\u0e47\u0e48\u0e49\u0e4a\u0e4b\u0e4c\u0e4d\u0e4e๏๐๑๒๓๔๕๖๗๘๙๚๛����"]

/-- The parts of ISO 8859 and other standards for one script each. -/
def iso8859 : List CodePage := [
  iso8859Part2, iso8859Part3, iso8859Part4, iso8859Part5, iso8859Part6, iso8859Part7, iso8859Part8,
  iso8859Part9, iso8859Part10, iso8859Part11, iso8859Part13, iso8859Part14, iso8859Part15,
  iso8859Part16, tis620]

end CodePage

end SearchBridge
