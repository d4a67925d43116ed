import SearchBridge.Bytes.CodePage.Basic
/-!
Character sets of Windows.
-/

namespace SearchBridge

namespace CodePage

def windows874 : CodePage where
  name := "cp874"
  aliases := []
  first := 128
  cells := [
    "€����…�����������‘’“”•–—��������\xa0กขฃคฅฆงจฉชซฌญฎฏฐฑฒณดตถทธนบปผฝพฟภมยรฤลฦวศษสหฬอฮฯะ\u0e31าำ",
    "\u0e34\u0e35\u0e36\u0e37\u0e38\u0e39\u0e3a����฿เแโใไๅๆ\u0e47\u0e48\u0e49\u0e4a\u0e4b\u0e4c",
    "\u0e4d\u0e4e๏๐๑๒๓๔๕๖๗๘๙๚๛����"]

def windows1250 : CodePage where
  name := "cp1250"
  aliases := ["1250", "windows_1250"]
  first := 128
  cells := [
    "€�‚�„…†‡�‰Š‹ŚŤŽŹ�‘’“”•–—�™š›śťžź\xa0ˇ˘Ł¤Ą¦§¨©Ş«¬\xad®Ż°±˛ł´µ¶·¸ąş»Ľ˝ľżŔÁÂĂÄĹĆÇČÉĘËĚÍÎĎĐŃŇÓÔŐÖ",
    "×ŘŮÚŰÜÝŢßŕáâăäĺćçčéęëěíîďđńňóôőö÷řůúűüýţ˙"]

def windows1251 : CodePage where
  name := "cp1251"
  aliases := ["1251", "windows_1251"]
  first := 128
  cells := [
    "ЂЃ‚ѓ„…†‡€‰Љ‹ЊЌЋЏђ‘’“”•–—�™љ›њќћџ\xa0ЎўЈ¤Ґ¦§Ё©Є«¬\xad®Ї°±Ііґµ¶·ё№є»јЅѕїАБВГДЕЖЗИЙКЛМНОПРСТУФХЦ",
    "ЧШЩЪЫЬЭЮЯабвгдежзийклмнопрстуфхцчшщъыьэюя"]

def windows1252 : CodePage where
  name := "cp1252"
  aliases := ["1252", "windows_1252"]
  first := 128
  cells := [
    "€�‚ƒ„…†‡ˆ‰Š‹Œ�Ž��‘’“”•–—˜™š›œ�žŸ\xa0¡¢£¤¥¦§¨©ª«¬\xad®¯°±²³´µ¶·¸¹º»¼½¾¿ÀÁÂÃÄÅÆÇÈÉÊËÌÍÎÏÐÑÒÓÔÕÖ",
    "×ØÙÚÛÜÝÞßàáâãäåæçèéêëìíîïðñòóôõö÷øùúûüýþÿ"]

def windows1253 : CodePage where
  name := "cp1253"
  aliases := ["1253", "windows_1253"]
  first := 128
  cells := [
    "€�‚ƒ„…†‡�‰�‹�����‘’“”•–—�™�›����\xa0΅Ά£¤¥¦§¨©�«¬\xad®―°±²³΄µ¶·ΈΉΊ»Ό½ΎΏΐΑΒΓΔΕΖΗΘΙΚΛΜΝΞΟΠΡ�ΣΤΥΦ",
    "ΧΨΩΪΫάέήίΰαβγδεζηθικλμνξοπρςστυφχψωϊϋόύώ�"]

def windows1254 : CodePage where
  name := "cp1254"
  aliases := ["1254", "windows_1254"]
  first := 128
  cells := [
    "€�‚ƒ„…†‡ˆ‰Š‹Œ����‘’“”•–—˜™š›œ��Ÿ\xa0¡¢£¤¥¦§¨©ª«¬\xad®¯°±²³´µ¶·¸¹º»¼½¾¿ÀÁÂÃÄÅÆÇÈÉÊËÌÍÎÏĞÑÒÓÔÕÖ",
    "×ØÙÚÛÜİŞßàáâãäåæçèéêëìíîïğñòóôõö÷øùúûüışÿ"]

def windows1255 : CodePage where
  name := "cp1255"
  aliases := ["1255", "windows_1255"]
  first := 128
  cells := [
    "€�‚ƒ„…†‡ˆ‰�‹�����‘’“”•–—˜™�›����\xa0¡¢£₪¥¦§¨©×«¬\xad®¯°±²³´µ¶·¸¹÷»¼½¾¿\u05b0\u05b1\u05b2",
    "\u05b3\u05b4\u05b5\u05b6\u05b7\u05b8\u05b9�\u05bb\u05bc\u05bd\u05be\u05bf\u05c0\u05c1\u05c2",
    "\u05c3\u05f0\u05f1\u05f2\u05f3\u05f4�������\u05d0\u05d1\u05d2\u05d3\u05d4\u05d5\u05d6\u05d7",
    "\u05d8\u05d9\u05da\u05db\u05dc\u05dd\u05de\u05df\u05e0\u05e1\u05e2\u05e3\u05e4\u05e5\u05e6",
    "\u05e7\u05e8\u05e9\u05ea��\u200e\u200f�"]

def windows1256 : CodePage where
  name := "cp1256"
  aliases := ["1256", "windows_1256"]
  first := 128
  cells := [
    "€\u067e‚ƒ„…†‡ˆ‰\u0679‹Œ\u0686\u0698\u0688\u06af‘’“”•–—\u06a9™\u0691›œ\u200c\u200d\u06ba\xa0،¢",
    "£¤¥¦§¨©\u06be«¬\xad®¯°±²³´µ¶·¸¹\u061b»¼½¾\u061f\u06c1\u0621\u0622\u0623\u0624\u0625\u0626",
    "\u0627\u0628\u0629\u062a\u062b\u062c\u062d\u062e\u062f\u0630\u0631\u0632\u0633\u0634\u0635",
    "\u0636×\u0637\u0638\u0639\u063a\u0640\u0641\u0642\u0643à\u0644â\u0645\u0646\u0647\u0648çèéêë",
    "\u0649\u064aîï\u064b\u064c\u064d\u064eô\u064f\u0650÷\u0651ù\u0652ûü\u200e\u200f\u06d2"]

def windows1257 : CodePage where
  name := "cp1257"
  aliases := ["1257", "windows_1257"]
  first := 128
  cells := [
    "€�‚�„…†‡�‰�‹�¨ˇ¸�‘’“”•–—�™�›�¯˛�\xa0�¢£¤�¦§Ø©Ŗ«¬\xad®Æ°±²³´µ¶·ø¹ŗ»¼½¾æĄĮĀĆÄÅĘĒČÉŹĖĢĶĪĻŠŃŅÓŌÕÖ",
    "×ŲŁŚŪÜŻŽßąįāćäåęēčéźėģķīļšńņóōõö÷ųłśūüżž˙"]

def windows1258 : CodePage where
  name := "cp1258"
  aliases := ["1258", "windows_1258"]
  first := 128
  cells := [
    "€�‚ƒ„…†‡ˆ‰�‹Œ����‘’“”•–—˜™�›œ��Ÿ\xa0¡¢£¤¥¦§¨©ª«¬\xad®¯°±²³´µ¶·¸¹º»¼½¾¿ÀÁÂĂÄÅÆÇÈÉÊË\u0300ÍÎÏĐÑ",
    "\u0309ÓÔƠÖ×ØÙÚÛÜƯ\u0303ßàáâăäåæçèéêë\u0301íîïđñ\u0323óôơö÷øùúûüư₫ÿ"]

def windows : List CodePage := [
  windows874, windows1250, windows1251, windows1252, windows1253, windows1254, windows1255,
  windows1256, windows1257, windows1258]

end CodePage

end SearchBridge
