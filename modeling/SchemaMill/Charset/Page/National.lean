import SchemaMill.Charset.CodePage

/-!
# National and vendor code pages

Cyrillic code pages of several nations, and the code pages of two vendors.
-/

namespace SchemaMill.Charset.CodePage

/-- Russian. -/
def koi8R : CodePage := .extendingAscii [
  "─│┌┐└┘├┤┬┴┼▀▄█▌▐",
  "░▒▓⌠■∙√≈≤≥\u00A0⌡°²·÷",
  "═║╒ё╓╔╕╖╗╘╙╚╛╜╝╞",
  "╟╠╡Ё╢╣╤╥╦╧╨╩╪╫╬©",
  "юабцдефгхийклмно",
  "пярстужвьызшэщчъ",
  "ЮАБЦДЕФГХИЙКЛМНО",
  "ПЯРСТУЖВЬЫЗШЭЩЧЪ"]

/-- Tajik. -/
def koi8T : CodePage := .extendingAscii [
  "қғ‚Ғ„…†‡\uFFFE‰ҳ‹ҲҷҶ\uFFFE",
  "Қ‘’“”•–—\uFFFE™\uFFFE›\uFFFE\uFFFE\uFFFE\uFFFE",
  "\uFFFEӯӮё¤ӣ¦§\uFFFE\uFFFE\uFFFE«¬\u00AD®\uFFFE",
  "°±²Ё\uFFFEӢ¶·\uFFFE№\uFFFE»\uFFFE\uFFFE\uFFFE©",
  "юабцдефгхийклмно",
  "пярстужвьызшэщчъ",
  "ЮАБЦДЕФГХИЙКЛМНО",
  "ПЯРСТУЖВЬЫЗШЭЩЧЪ"]

/-- Ukrainian. -/
def koi8U : CodePage := .extendingAscii [
  "─│┌┐└┘├┤┬┴┼▀▄█▌▐",
  "░▒▓⌠■∙√≈≤≥\u00A0⌡°²·÷",
  "═║╒ёє╔ії╗╘╙╚╛ґ╝╞",
  "╟╠╡ЁЄ╣ІЇ╦╧╨╩╪Ґ╬©",
  "юабцдефгхийклмно",
  "пярстужвьызшэщчъ",
  "ЮАБЦДЕФГХИЙКЛМНО",
  "ПЯРСТУЖВЬЫЗШЭЩЧЪ"]

/-- Kazakh. -/
def kz1048 : CodePage := .extendingAscii [
  "ЂЃ‚ѓ„…†‡€‰Љ‹ЊҚҺЏ",
  "ђ‘’“”•–—\uFFFE™љ›њқһџ",
  "\u00A0ҰұӘ¤Ө¦§Ё©Ғ«¬\u00AD®Ү",
  "°±Ііөµ¶·ё№ғ»әҢңү",
  "АБВГДЕЖЗИЙКЛМНОП",
  "РСТУФХЦЧШЩЪЫЬЭЮЯ",
  "абвгдежзийклмноп",
  "рстуфхцчшщъыьэюя"]

/-- Asian Cyrillic. -/
def ptcp154 : CodePage := .extendingAscii [
  "ҖҒӮғ„…ҶҮҲүҠӢҢҚҺҸ",
  "җ‘’“”•–—ҳҷҡӣңқһҹ",
  "\u00A0ЎўЈӨҘҰ§Ё©Ә«¬ӯ®Ҝ",
  "°ұІіҙө¶·ё№ә»јҪҫҝ",
  "АБВГДЕЖЗИЙКЛМНОП",
  "РСТУФХЦЧШЩЪЫЬЭЮЯ",
  "абвгдежзийклмноп",
  "рстуфхцчшщъыьэюя"]

/-- Western European languages on HP machines. -/
def hpRoman8 : CodePage := .extendingAscii [
  "\u0080\u0081\u0082\u0083\u0084\u0085\u0086\u0087\u0088\u0089\u008A\u008B\u008C\u008D\u008E\u008F",
  "\u0090\u0091\u0092\u0093\u0094\u0095\u0096\u0097\u0098\u0099\u009A\u009B\u009C\u009D\u009E\u009F",
  "\u00A0ÀÂÈÊËÎÏ´\u02CB\u02C6¨˜ÙÛ₤",
  "¯Ýý°ÇçÑñ¡¿¤£¥§ƒ¢",
  "âêôûáéóúàèòùäëöü",
  "ÅîØÆåíøæÄìÖÜÉïßÔ",
  "ÁÃãÐðÍÌÓÒÕõŠšÚŸÿ",
  "Þþ·µ¶¾—¼½ªº«■»±\uFFFE"]

/-- Palm OS. -/
def palmos : CodePage := .extendingAscii [
  "€\u0081‚ƒ„…†‡\u02C6‰Š‹Œ♦♣♥",
  "♠‘’“”•–—˜™š\u009Bœ\u009D\u009EŸ",
  "\u00A0¡¢£¤¥¦§¨©ª«¬\u00AD®¯",
  "°±²³´µ¶·¸¹º»¼½¾¿",
  "ÀÁÂÃÄÅÆÇÈÉÊËÌÍÎÏ",
  "ÐÑÒÓÔÕÖ×ØÙÚÛÜÝÞß",
  "àáâãäåæçèéêëìíîï",
  "ðñòóôõö÷øùúûüýþÿ"]

end SchemaMill.Charset.CodePage
