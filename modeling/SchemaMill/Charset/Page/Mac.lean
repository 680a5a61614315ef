import SchemaMill.Charset.CodePage

/-!
# Macintosh code pages

The code pages of the Macintosh.
-/

namespace SchemaMill.Charset.CodePage

/-- Arabic. -/
def macArabic : CodePage := .extendingAscii [
  "Ä\u00A0ÇÉÑÖÜáàâä\u06BA«çéè",
  "êëí…îïñó»ôö÷úùûü",
  " !\"#$٪&'()*+،-.\x2f",
  "\u0660\u0661\u0662\u0663\u0664\u0665\u0666\u0667\u0668\u0669:\u061B<=>\u061F",
  "❊\u0621\u0622\u0623\u0624\u0625\u0626\u0627\u0628\u0629\u062A\u062B\u062C\u062D\u062E\u062F",
  "\u0630\u0631\u0632\u0633\u0634\u0635\u0636\u0637\u0638\u0639\u063A[\\]^_",
  "\u0640\u0641\u0642\u0643\u0644\u0645\u0646\u0647\u0648\u0649\u064A\u064B\u064C\u064D\u064E\u064F",
  "\u0650\u0651\u0652\u067E\u0679\u0686\u06D5\u06A4\u06AF\u0688\u0691\x7b|\x7d\u0698\u06D2"]

/-- Croatian. -/
def macCroatian : CodePage := .extendingAscii [
  "ÄÅÇÉÑÖÜáàâäãåçéè",
  "êëíìîïñóòôöõúùûü",
  "†°¢£§•¶ß®Š™´¨≠ŽØ",
  "∞±≤≥∆µ∂∑∏š∫ªºΩžø",
  "¿¡¬√ƒ≈Ć«Č…\u00A0ÀÃÕŒœ",
  "Đ—“”‘’÷◊\uF8FF©⁄€‹›Æ»",
  "–·‚„‰ÂćÁčÈÍÎÏÌÓÔ",
  "đÒÚÛÙı\u02C6˜¯πË˚¸Êæ\u02C7"]

/-- Cyrillic. -/
def macCyrillic : CodePage := .extendingAscii [
  "АБВГДЕЖЗИЙКЛМНОП",
  "РСТУФХЦЧШЩЪЫЬЭЮЯ",
  "†°Ґ£§•¶І®©™Ђђ≠Ѓѓ",
  "∞±≤≥іµґЈЄєЇїЉљЊњ",
  "јЅ¬√ƒ≈∆«»…\u00A0ЋћЌќѕ",
  "–—“”‘’÷„ЎўЏџ№Ёёя",
  "абвгдежзийклмноп",
  "рстуфхцчшщъыьэю€"]

/-- Farsi. -/
def macFarsi : CodePage := .extendingAscii [
  "Ä\u00A0ÇÉÑÖÜáàâä\u06BA«çéè",
  "êëí…îïñó»ôö÷úùûü",
  " !\"#$٪&'()*+،-.\x2f",
  "۰۱۲۳۴۵۶۷۸۹:\u061B<=>\u061F",
  "❊\u0621\u0622\u0623\u0624\u0625\u0626\u0627\u0628\u0629\u062A\u062B\u062C\u062D\u062E\u062F",
  "\u0630\u0631\u0632\u0633\u0634\u0635\u0636\u0637\u0638\u0639\u063A[\\]^_",
  "\u0640\u0641\u0642\u0643\u0644\u0645\u0646\u0647\u0648\u0649\u064A\u064B\u064C\u064D\u064E\u064F",
  "\u0650\u0651\u0652\u067E\u0679\u0686\u06D5\u06A4\u06AF\u0688\u0691\x7b|\x7d\u0698\u06D2"]

/-- Greek. -/
def macGreek : CodePage := .extendingAscii [
  "Ä¹²É³ÖÜ΅àâä΄¨çéè",
  "êë£™îï•½‰ôö¦€ùûü",
  "†ΓΔΘΛΞΠß®©ΣΪ§≠°·",
  "Α±≤≥¥ΒΕΖΗΙΚΜΦΫΨΩ",
  "άΝ¬ΟΡ≈Τ«»…\u00A0ΥΧΆΈœ",
  "–―“”‘’÷ΉΊΌΎέήίόΏ",
  "ύαβψδεφγηιξκλμνο",
  "πώρστθωςχυζϊϋΐΰ\u00AD"]

/-- Icelandic. -/
def macIceland : CodePage := .extendingAscii [
  "ÄÅÇÉÑÖÜáàâäãåçéè",
  "êëíìîïñóòôöõúùûü",
  "Ý°¢£§•¶ß®©™´¨≠ÆØ",
  "∞±≤≥¥µ∂∑∏π∫ªºΩæø",
  "¿¡¬√ƒ≈∆«»…\u00A0ÀÃÕŒœ",
  "–—“”‘’÷◊ÿŸ⁄€ÐðÞþ",
  "ý·‚„‰ÂÊÁËÈÍÎÏÌÓÔ",
  "\uF8FFÒÚÛÙı\u02C6˜¯˘˙˚¸˝˛\u02C7"]

/-- Central European languages. -/
def macLatin2 : CodePage := .extendingAscii [
  "ÄĀāÉĄÖÜáąČäčĆćéŹ",
  "źĎíďĒēĖóėôöõúĚěü",
  "†°Ę£§•¶ß®©™ę¨≠ģĮ",
  "įĪ≤≥īĶ∂∑łĻļĽľĹĺŅ",
  "ņŃ¬√ńŇ∆«»…\u00A0ňŐÕőŌ",
  "–—“”‘’÷◊ōŔŕŘ‹›řŖ",
  "ŗŠ‚„šŚśÁŤťÍŽžŪÓÔ",
  "ūŮÚůŰűŲųÝýķŻŁżĢ\u02C7"]

/-- Western European languages. -/
def macRoman : CodePage := .extendingAscii [
  "ÄÅÇÉÑÖÜáàâäãåçéè",
  "êëíìîïñóòôöõúùûü",
  "†°¢£§•¶ß®©™´¨≠ÆØ",
  "∞±≤≥¥µ∂∑∏π∫ªºΩæø",
  "¿¡¬√ƒ≈∆«»…\u00A0ÀÃÕŒœ",
  "–—“”‘’÷◊ÿŸ⁄€‹›\uFB01\uFB02",
  "‡·‚„‰ÂÊÁËÈÍÎÏÌÓÔ",
  "\uF8FFÒÚÛÙı\u02C6˜¯˘˙˚¸˝˛\u02C7"]

/-- Romanian. -/
def macRomanian : CodePage := .extendingAscii [
  "ÄÅÇÉÑÖÜáàâäãåçéè",
  "êëíìîïñóòôöõúùûü",
  "†°¢£§•¶ß®©™´¨≠ĂȘ",
  "∞±≤≥¥µ∂∑∏π∫ªºΩăș",
  "¿¡¬√ƒ≈∆«»…\u00A0ÀÃÕŒœ",
  "–—“”‘’÷◊ÿŸ⁄€‹›Țț",
  "‡·‚„‰ÂÊÁËÈÍÎÏÌÓÔ",
  "\uF8FFÒÚÛÙı\u02C6˜¯˘˙˚¸˝˛\u02C7"]

/-- Turkish. -/
def macTurkish : CodePage := .extendingAscii [
  "ÄÅÇÉÑÖÜáàâäãåçéè",
  "êëíìîïñóòôöõúùûü",
  "†°¢£§•¶ß®©™´¨≠ÆØ",
  "∞±≤≥¥µ∂∑∏π∫ªºΩæø",
  "¿¡¬√ƒ≈∆«»…\u00A0ÀÃÕŒœ",
  "–—“”‘’÷◊ÿŸĞğİıŞş",
  "‡·‚„‰ÂÊÁËÈÍÎÏÌÓÔ",
  "\uF8FFÒÚÛÙ\uF8A0\u02C6˜¯˘˙˚¸˝˛\u02C7"]

end SchemaMill.Charset.CodePage
