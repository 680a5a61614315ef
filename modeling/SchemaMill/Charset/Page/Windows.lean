import SchemaMill.Charset.CodePage

/-!
# Windows code pages

The code pages of Windows.
-/

namespace SchemaMill.Charset.CodePage

/-- Thai. -/
def cp874 : CodePage := .extendingAscii [
  "€\uFFFE\uFFFE\uFFFE\uFFFE…\uFFFE\uFFFE\uFFFE\uFFFE\uFFFE\uFFFE\uFFFE\uFFFE\uFFFE\uFFFE",
  "\uFFFE‘’“”•–—\uFFFE\uFFFE\uFFFE\uFFFE\uFFFE\uFFFE\uFFFE\uFFFE",
  "\u00A0กขฃคฅฆงจฉชซฌญฎฏ",
  "ฐฑฒณดตถทธนบปผฝพฟ",
  "ภมยรฤลฦวศษสหฬอฮฯ",
  "ะ\u0E31าำ\u0E34\u0E35\u0E36\u0E37\u0E38\u0E39\u0E3A\uFFFE\uFFFE\uFFFE\uFFFE฿",
  "เแโใไๅ\u0E46\u0E47\u0E48\u0E49\u0E4A\u0E4B\u0E4C\u0E4D\u0E4E๏",
  "๐๑๒๓๔๕๖๗๘๙๚๛\uFFFE\uFFFE\uFFFE\uFFFE"]

/-- Central European languages. -/
def cp1250 : CodePage := .extendingAscii [
  "€\uFFFE‚\uFFFE„…†‡\uFFFE‰Š‹ŚŤŽŹ",
  "\uFFFE‘’“”•–—\uFFFE™š›śťžź",
  "\u00A0\u02C7˘Ł¤Ą¦§¨©Ş«¬\u00AD®Ż",
  "°±˛ł´µ¶·¸ąş»Ľ˝ľż",
  "ŔÁÂĂÄĹĆÇČÉĘËĚÍÎĎ",
  "ĐŃŇÓÔŐÖ×ŘŮÚŰÜÝŢß",
  "ŕáâăäĺćçčéęëěíîď",
  "đńňóôőö÷řůúűüýţ˙"]

/-- Cyrillic. -/
def cp1251 : CodePage := .extendingAscii [
  "ЂЃ‚ѓ„…†‡€‰Љ‹ЊЌЋЏ",
  "ђ‘’“”•–—\uFFFE™љ›њќћџ",
  "\u00A0ЎўЈ¤Ґ¦§Ё©Є«¬\u00AD®Ї",
  "°±Ііґµ¶·ё№є»јЅѕї",
  "АБВГДЕЖЗИЙКЛМНОП",
  "РСТУФХЦЧШЩЪЫЬЭЮЯ",
  "абвгдежзийклмноп",
  "рстуфхцчшщъыьэюя"]

/-- Western European languages. -/
def cp1252 : CodePage := .extendingAscii [
  "€\uFFFE‚ƒ„…†‡\u02C6‰Š‹Œ\uFFFEŽ\uFFFE",
  "\uFFFE‘’“”•–—˜™š›œ\uFFFEžŸ",
  "\u00A0¡¢£¤¥¦§¨©ª«¬\u00AD®¯",
  "°±²³´µ¶·¸¹º»¼½¾¿",
  "ÀÁÂÃÄÅÆÇÈÉÊËÌÍÎÏ",
  "ÐÑÒÓÔÕÖ×ØÙÚÛÜÝÞß",
  "àáâãäåæçèéêëìíîï",
  "ðñòóôõö÷øùúûüýþÿ"]

/-- Greek. -/
def cp1253 : CodePage := .extendingAscii [
  "€\uFFFE‚ƒ„…†‡\uFFFE‰\uFFFE‹\uFFFE\uFFFE\uFFFE\uFFFE",
  "\uFFFE‘’“”•–—\uFFFE™\uFFFE›\uFFFE\uFFFE\uFFFE\uFFFE",
  "\u00A0΅Ά£¤¥¦§¨©\uFFFE«¬\u00AD®―",
  "°±²³΄µ¶·ΈΉΊ»Ό½ΎΏ",
  "ΐΑΒΓΔΕΖΗΘΙΚΛΜΝΞΟ",
  "ΠΡ\uFFFEΣΤΥΦΧΨΩΪΫάέήί",
  "ΰαβγδεζηθικλμνξο",
  "πρςστυφχψωϊϋόύώ\uFFFE"]

/-- Turkish. -/
def cp1254 : CodePage := .extendingAscii [
  "€\uFFFE‚ƒ„…†‡\u02C6‰Š‹Œ\uFFFE\uFFFE\uFFFE",
  "\uFFFE‘’“”•–—˜™š›œ\uFFFE\uFFFEŸ",
  "\u00A0¡¢£¤¥¦§¨©ª«¬\u00AD®¯",
  "°±²³´µ¶·¸¹º»¼½¾¿",
  "ÀÁÂÃÄÅÆÇÈÉÊËÌÍÎÏ",
  "ĞÑÒÓÔÕÖ×ØÙÚÛÜİŞß",
  "àáâãäåæçèéêëìíîï",
  "ğñòóôõö÷øùúûüışÿ"]

/-- Hebrew. -/
def cp1255 : CodePage := .extendingAscii [
  "€\uFFFE‚ƒ„…†‡\u02C6‰\uFFFE‹\uFFFE\uFFFE\uFFFE\uFFFE",
  "\uFFFE‘’“”•–—˜™\uFFFE›\uFFFE\uFFFE\uFFFE\uFFFE",
  "\u00A0¡¢£₪¥¦§¨©×«¬\u00AD®¯",
  "°±²³´µ¶·¸¹÷»¼½¾¿",
  "\u05B0\u05B1\u05B2\u05B3\u05B4\u05B5\u05B6\u05B7\u05B8\u05B9\uFFFE\u05BB\u05BC\u05BD\u05BE\u05BF",
  "\u05C0\u05C1\u05C2\u05C3\u05F0\u05F1\u05F2\u05F3\u05F4\uFFFE\uFFFE\uFFFE\uFFFE\uFFFE\uFFFE\uFFFE",
  "\u05D0\u05D1\u05D2\u05D3\u05D4\u05D5\u05D6\u05D7\u05D8\u05D9\u05DA\u05DB\u05DC\u05DD\u05DE\u05DF",
  "\u05E0\u05E1\u05E2\u05E3\u05E4\u05E5\u05E6\u05E7\u05E8\u05E9\u05EA\uFFFE\uFFFE\u200E\u200F\uFFFE"]

/-- Arabic. -/
def cp1256 : CodePage := .extendingAscii [
  "€\u067E‚ƒ„…†‡\u02C6‰\u0679‹Œ\u0686\u0698\u0688",
  "\u06AF‘’“”•–—\u06A9™\u0691›œ\u200C\u200D\u06BA",
  "\u00A0،¢£¤¥¦§¨©\u06BE«¬\u00AD®¯",
  "°±²³´µ¶·¸¹\u061B»¼½¾\u061F",
  "\u06C1\u0621\u0622\u0623\u0624\u0625\u0626\u0627\u0628\u0629\u062A\u062B\u062C\u062D\u062E\u062F",
  "\u0630\u0631\u0632\u0633\u0634\u0635\u0636×\u0637\u0638\u0639\u063A\u0640\u0641\u0642\u0643",
  "à\u0644â\u0645\u0646\u0647\u0648çèéêë\u0649\u064Aîï",
  "\u064B\u064C\u064D\u064Eô\u064F\u0650÷\u0651ù\u0652ûü\u200E\u200F\u06D2"]

/-- Baltic languages. -/
def cp1257 : CodePage := .extendingAscii [
  "€\uFFFE‚\uFFFE„…†‡\uFFFE‰\uFFFE‹\uFFFE¨\u02C7¸",
  "\uFFFE‘’“”•–—\uFFFE™\uFFFE›\uFFFE¯˛\uFFFE",
  "\u00A0\uFFFE¢£¤\uFFFE¦§Ø©Ŗ«¬\u00AD®Æ",
  "°±²³´µ¶·ø¹ŗ»¼½¾æ",
  "ĄĮĀĆÄÅĘĒČÉŹĖĢĶĪĻ",
  "ŠŃŅÓŌÕÖ×ŲŁŚŪÜŻŽß",
  "ąįāćäåęēčéźėģķīļ",
  "šńņóōõö÷ųłśūüżž˙"]

/-- Vietnamese. -/
def cp1258 : CodePage := .extendingAscii [
  "€\uFFFE‚ƒ„…†‡\u02C6‰\uFFFE‹Œ\uFFFE\uFFFE\uFFFE",
  "\uFFFE‘’“”•–—˜™\uFFFE›œ\uFFFE\uFFFEŸ",
  "\u00A0¡¢£¤¥¦§¨©ª«¬\u00AD®¯",
  "°±²³´µ¶·¸¹º»¼½¾¿",
  "ÀÁÂĂÄÅÆÇÈÉÊË\u0300ÍÎÏ",
  "ĐÑ\u0309ÓÔƠÖ×ØÙÚÛÜƯ\u0303ß",
  "àáâăäåæçèéêë\u0301íîï",
  "đñ\u0323óôơö÷øùúûüư₫ÿ"]

end SchemaMill.Charset.CodePage
