import BulkLoad.Encoding.CodePage.Basic

/-!
What the bytes from 0x80 up stand for in each single-byte character set, in sixteens.
-/
namespace BulkLoad.Encoding.CodePage

def tableOf (rows : List String) : Array Char :=
  (rows.flatMap String.toList).toArray

def upperTable : CodePage → Array Char
  | .ibm866 =>
    tableOf
      ["АБВГДЕЖЗИЙКЛМНОП",
        "РСТУФХЦЧШЩЪЫЬЭЮЯ",
        "абвгдежзийклмноп",
        "░▒▓│┤╡╢╖╕╣║╗╝╜╛┐",
        "└┴┬├─┼╞╟╚╔╩╦╠═╬╧",
        "╨╤╥╙╘╒╓╫╪┘┌█▄▌▐▀",
        "рстуфхцчшщъыьэюя",
        "ЁёЄєЇїЎў°∙·√№¤■\u00a0"]
  | .iso8859n2 =>
    tableOf
      ["\u0080\u0081\u0082\u0083\u0084\u0085\u0086\u0087\u0088\u0089\u008a\u008b\u008c\u008d\u008e\u008f",
        "\u0090\u0091\u0092\u0093\u0094\u0095\u0096\u0097\u0098\u0099\u009a\u009b\u009c\u009d\u009e\u009f",
        "\u00a0Ą˘Ł¤ĽŚ§¨ŠŞŤŹ\u00adŽŻ",
        "°ą˛ł´ľśˇ¸šşťź˝žż",
        "ŔÁÂĂÄĹĆÇČÉĘËĚÍÎĎ",
        "ĐŃŇÓÔŐÖ×ŘŮÚŰÜÝŢß",
        "ŕáâăäĺćçčéęëěíîď",
        "đńňóôőö÷řůúűüýţ˙"]
  | .iso8859n3 =>
    tableOf
      ["\u0080\u0081\u0082\u0083\u0084\u0085\u0086\u0087\u0088\u0089\u008a\u008b\u008c\u008d\u008e\u008f",
        "\u0090\u0091\u0092\u0093\u0094\u0095\u0096\u0097\u0098\u0099\u009a\u009b\u009c\u009d\u009e\u009f",
        "\u00a0Ħ˘£¤\ufffdĤ§¨İŞĞĴ\u00ad\ufffdŻ",
        "°ħ²³´µĥ·¸ışğĵ½\ufffdż",
        "ÀÁÂ\ufffdÄĊĈÇÈÉÊËÌÍÎÏ",
        "\ufffdÑÒÓÔĠÖ×ĜÙÚÛÜŬŜß",
        "àáâ\ufffdäċĉçèéêëìíîï",
        "\ufffdñòóôġö÷ĝùúûüŭŝ˙"]
  | .iso8859n4 =>
    tableOf
      ["\u0080\u0081\u0082\u0083\u0084\u0085\u0086\u0087\u0088\u0089\u008a\u008b\u008c\u008d\u008e\u008f",
        "\u0090\u0091\u0092\u0093\u0094\u0095\u0096\u0097\u0098\u0099\u009a\u009b\u009c\u009d\u009e\u009f",
        "\u00a0ĄĸŖ¤ĨĻ§¨ŠĒĢŦ\u00adŽ¯",
        "°ą˛ŗ´ĩļˇ¸šēģŧŊžŋ",
        "ĀÁÂÃÄÅÆĮČÉĘËĖÍÎĪ",
        "ĐŅŌĶÔÕÖ×ØŲÚÛÜŨŪß",
        "āáâãäåæįčéęëėíîī",
        "đņōķôõö÷øųúûüũū˙"]
  | .iso8859n5 =>
    tableOf
      ["\u0080\u0081\u0082\u0083\u0084\u0085\u0086\u0087\u0088\u0089\u008a\u008b\u008c\u008d\u008e\u008f",
        "\u0090\u0091\u0092\u0093\u0094\u0095\u0096\u0097\u0098\u0099\u009a\u009b\u009c\u009d\u009e\u009f",
        "\u00a0ЁЂЃЄЅІЇЈЉЊЋЌ\u00adЎЏ",
        "АБВГДЕЖЗИЙКЛМНОП",
        "РСТУФХЦЧШЩЪЫЬЭЮЯ",
        "абвгдежзийклмноп",
        "рстуфхцчшщъыьэюя",
        "№ёђѓєѕіїјљњћќ§ўџ"]
  | .iso8859n6 =>
    tableOf
      ["\u0080\u0081\u0082\u0083\u0084\u0085\u0086\u0087\u0088\u0089\u008a\u008b\u008c\u008d\u008e\u008f",
        "\u0090\u0091\u0092\u0093\u0094\u0095\u0096\u0097\u0098\u0099\u009a\u009b\u009c\u009d\u009e\u009f",
        "\u00a0\ufffd\ufffd\ufffd¤\ufffd\ufffd\ufffd\ufffd\ufffd\ufffd\ufffd،\u00ad\ufffd\ufffd",
        "\ufffd\ufffd\ufffd\ufffd\ufffd\ufffd\ufffd\ufffd\ufffd\ufffd\ufffd؛\ufffd\ufffd\ufffd؟",
        "\ufffdءآأؤإئابةتثجحخد",
        "ذرزسشصضطظعغ\ufffd\ufffd\ufffd\ufffd\ufffd",
        "ـفقكلمنهوىي\u064b\u064c\u064d\u064e\u064f",
        "\u0650\u0651\u0652\ufffd\ufffd\ufffd\ufffd\ufffd\ufffd\ufffd\ufffd\ufffd\ufffd\ufffd\ufffd\ufffd"]
  | .iso8859n7 =>
    tableOf
      ["\u0080\u0081\u0082\u0083\u0084\u0085\u0086\u0087\u0088\u0089\u008a\u008b\u008c\u008d\u008e\u008f",
        "\u0090\u0091\u0092\u0093\u0094\u0095\u0096\u0097\u0098\u0099\u009a\u009b\u009c\u009d\u009e\u009f",
        "\u00a0‘’£€₯¦§¨©ͺ«¬\u00ad\ufffd―",
        "°±²³΄΅Ά·ΈΉΊ»Ό½ΎΏ",
        "ΐΑΒΓΔΕΖΗΘΙΚΛΜΝΞΟ",
        "ΠΡ\ufffdΣΤΥΦΧΨΩΪΫάέήί",
        "ΰαβγδεζηθικλμνξο",
        "πρςστυφχψωϊϋόύώ\ufffd"]
  | .iso8859n8 | .iso8859n8I =>
    tableOf
      ["\u0080\u0081\u0082\u0083\u0084\u0085\u0086\u0087\u0088\u0089\u008a\u008b\u008c\u008d\u008e\u008f",
        "\u0090\u0091\u0092\u0093\u0094\u0095\u0096\u0097\u0098\u0099\u009a\u009b\u009c\u009d\u009e\u009f",
        "\u00a0\ufffd¢£¤¥¦§¨©×«¬\u00ad®¯",
        "°±²³´µ¶·¸¹÷»¼½¾\ufffd",
        "\ufffd\ufffd\ufffd\ufffd\ufffd\ufffd\ufffd\ufffd\ufffd\ufffd\ufffd\ufffd\ufffd\ufffd\ufffd\ufffd",
        "\ufffd\ufffd\ufffd\ufffd\ufffd\ufffd\ufffd\ufffd\ufffd\ufffd\ufffd\ufffd\ufffd\ufffd\ufffd‗",
        "אבגדהוזחטיךכלםמן",
        "נסעףפץצקרשת\ufffd\ufffd\u200e\u200f\ufffd"]
  | .iso8859n10 =>
    tableOf
      ["\u0080\u0081\u0082\u0083\u0084\u0085\u0086\u0087\u0088\u0089\u008a\u008b\u008c\u008d\u008e\u008f",
        "\u0090\u0091\u0092\u0093\u0094\u0095\u0096\u0097\u0098\u0099\u009a\u009b\u009c\u009d\u009e\u009f",
        "\u00a0ĄĒĢĪĨĶ§ĻĐŠŦŽ\u00adŪŊ",
        "°ąēģīĩķ·ļđšŧž―ūŋ",
        "ĀÁÂÃÄÅÆĮČÉĘËĖÍÎÏ",
        "ÐŅŌÓÔÕÖŨØŲÚÛÜÝÞß",
        "āáâãäåæįčéęëėíîï",
        "ðņōóôõöũøųúûüýþĸ"]
  | .iso8859n13 =>
    tableOf
      ["\u0080\u0081\u0082\u0083\u0084\u0085\u0086\u0087\u0088\u0089\u008a\u008b\u008c\u008d\u008e\u008f",
        "\u0090\u0091\u0092\u0093\u0094\u0095\u0096\u0097\u0098\u0099\u009a\u009b\u009c\u009d\u009e\u009f",
        "\u00a0”¢£¤„¦§Ø©Ŗ«¬\u00ad®Æ",
        "°±²³“µ¶·ø¹ŗ»¼½¾æ",
        "ĄĮĀĆÄÅĘĒČÉŹĖĢĶĪĻ",
        "ŠŃŅÓŌÕÖ×ŲŁŚŪÜŻŽß",
        "ąįāćäåęēčéźėģķīļ",
        "šńņóōõö÷ųłśūüżž’"]
  | .iso8859n14 =>
    tableOf
      ["\u0080\u0081\u0082\u0083\u0084\u0085\u0086\u0087\u0088\u0089\u008a\u008b\u008c\u008d\u008e\u008f",
        "\u0090\u0091\u0092\u0093\u0094\u0095\u0096\u0097\u0098\u0099\u009a\u009b\u009c\u009d\u009e\u009f",
        "\u00a0Ḃḃ£ĊċḊ§Ẁ©ẂḋỲ\u00ad®Ÿ",
        "ḞḟĠġṀṁ¶ṖẁṗẃṠỳẄẅṡ",
        "ÀÁÂÃÄÅÆÇÈÉÊËÌÍÎÏ",
        "ŴÑÒÓÔÕÖṪØÙÚÛÜÝŶß",
        "àáâãäåæçèéêëìíîï",
        "ŵñòóôõöṫøùúûüýŷÿ"]
  | .iso8859n15 =>
    tableOf
      ["\u0080\u0081\u0082\u0083\u0084\u0085\u0086\u0087\u0088\u0089\u008a\u008b\u008c\u008d\u008e\u008f",
        "\u0090\u0091\u0092\u0093\u0094\u0095\u0096\u0097\u0098\u0099\u009a\u009b\u009c\u009d\u009e\u009f",
        "\u00a0¡¢£€¥Š§š©ª«¬\u00ad®¯",
        "°±²³Žµ¶·ž¹º»ŒœŸ¿",
        "ÀÁÂÃÄÅÆÇÈÉÊËÌÍÎÏ",
        "ÐÑÒÓÔÕÖ×ØÙÚÛÜÝÞß",
        "àáâãäåæçèéêëìíîï",
        "ðñòóôõö÷øùúûüýþÿ"]
  | .iso8859n16 =>
    tableOf
      ["\u0080\u0081\u0082\u0083\u0084\u0085\u0086\u0087\u0088\u0089\u008a\u008b\u008c\u008d\u008e\u008f",
        "\u0090\u0091\u0092\u0093\u0094\u0095\u0096\u0097\u0098\u0099\u009a\u009b\u009c\u009d\u009e\u009f",
        "\u00a0ĄąŁ€„Š§š©Ș«Ź\u00adźŻ",
        "°±ČłŽ”¶·žčș»ŒœŸż",
        "ÀÁÂĂÄĆÆÇÈÉÊËÌÍÎÏ",
        "ĐŃÒÓÔŐÖŚŰÙÚÛÜĘȚß",
        "àáâăäćæçèéêëìíîï",
        "đńòóôőöśűùúûüęțÿ"]
  | .koi8R =>
    tableOf
      ["─│┌┐└┘├┤┬┴┼▀▄█▌▐",
        "░▒▓⌠■∙√≈≤≥\u00a0⌡°²·÷",
        "═║╒ё╓╔╕╖╗╘╙╚╛╜╝╞",
        "╟╠╡Ё╢╣╤╥╦╧╨╩╪╫╬©",
        "юабцдефгхийклмно",
        "пярстужвьызшэщчъ",
        "ЮАБЦДЕФГХИЙКЛМНО",
        "ПЯРСТУЖВЬЫЗШЭЩЧЪ"]
  | .koi8U =>
    tableOf
      ["─│┌┐└┘├┤┬┴┼▀▄█▌▐",
        "░▒▓⌠■∙√≈≤≥\u00a0⌡°²·÷",
        "═║╒ёє╔ії╗╘╙╚╛ґў╞",
        "╟╠╡ЁЄ╣ІЇ╦╧╨╩╪ҐЎ©",
        "юабцдефгхийклмно",
        "пярстужвьызшэщчъ",
        "ЮАБЦДЕФГХИЙКЛМНО",
        "ПЯРСТУЖВЬЫЗШЭЩЧЪ"]
  | .macintosh =>
    tableOf
      ["ÄÅÇÉÑÖÜáàâäãåçéè",
        "êëíìîïñóòôöõúùûü",
        "†°¢£§•¶ß®©™´¨≠ÆØ",
        "∞±≤≥¥µ∂∑∏π∫ªºΩæø",
        "¿¡¬√ƒ≈∆«»…\u00a0ÀÃÕŒœ",
        "–—“”‘’÷◊ÿŸ⁄€‹›\ufb01\ufb02",
        "‡·‚„‰ÂÊÁËÈÍÎÏÌÓÔ",
        "\uf8ffÒÚÛÙıˆ˜¯˘˙˚¸˝˛ˇ"]
  | .windows874 =>
    tableOf
      ["€\u0081\u0082\u0083\u0084…\u0086\u0087\u0088\u0089\u008a\u008b\u008c\u008d\u008e\u008f",
        "\u0090‘’“”•–—\u0098\u0099\u009a\u009b\u009c\u009d\u009e\u009f",
        "\u00a0กขฃคฅฆงจฉชซฌญฎฏ",
        "ฐฑฒณดตถทธนบปผฝพฟ",
        "ภมยรฤลฦวศษสหฬอฮฯ",
        "ะ\u0e31าำ\u0e34\u0e35\u0e36\u0e37\u0e38\u0e39\u0e3a\ufffd\ufffd\ufffd\ufffd\u0e3f",
        "เแโใไๅๆ\u0e47\u0e48\u0e49\u0e4a\u0e4b\u0e4c\u0e4d\u0e4e\u0e4f",
        "๐๑๒๓๔๕๖๗๘๙๚๛\ufffd\ufffd\ufffd\ufffd"]
  | .windows1250 =>
    tableOf
      ["€\u0081‚\u0083„…†‡\u0088‰Š‹ŚŤŽŹ",
        "\u0090‘’“”•–—\u0098™š›śťžź",
        "\u00a0ˇ˘Ł¤Ą¦§¨©Ş«¬\u00ad®Ż",
        "°±˛ł´µ¶·¸ąş»Ľ˝ľż",
        "ŔÁÂĂÄĹĆÇČÉĘËĚÍÎĎ",
        "ĐŃŇÓÔŐÖ×ŘŮÚŰÜÝŢß",
        "ŕáâăäĺćçčéęëěíîď",
        "đńňóôőö÷řůúűüýţ˙"]
  | .windows1251 =>
    tableOf
      ["ЂЃ‚ѓ„…†‡€‰Љ‹ЊЌЋЏ",
        "ђ‘’“”•–—\u0098™љ›њќћџ",
        "\u00a0ЎўЈ¤Ґ¦§Ё©Є«¬\u00ad®Ї",
        "°±Ііґµ¶·ё№є»јЅѕї",
        "АБВГДЕЖЗИЙКЛМНОП",
        "РСТУФХЦЧШЩЪЫЬЭЮЯ",
        "абвгдежзийклмноп",
        "рстуфхцчшщъыьэюя"]
  | .windows1252 =>
    tableOf
      ["€\u0081‚ƒ„…†‡ˆ‰Š‹Œ\u008dŽ\u008f",
        "\u0090‘’“”•–—˜™š›œ\u009džŸ",
        "\u00a0¡¢£¤¥¦§¨©ª«¬\u00ad®¯",
        "°±²³´µ¶·¸¹º»¼½¾¿",
        "ÀÁÂÃÄÅÆÇÈÉÊËÌÍÎÏ",
        "ÐÑÒÓÔÕÖ×ØÙÚÛÜÝÞß",
        "àáâãäåæçèéêëìíîï",
        "ðñòóôõö÷øùúûüýþÿ"]
  | .windows1253 =>
    tableOf
      ["€\u0081‚ƒ„…†‡\u0088‰\u008a‹\u008c\u008d\u008e\u008f",
        "\u0090‘’“”•–—\u0098™\u009a›\u009c\u009d\u009e\u009f",
        "\u00a0΅Ά£¤¥¦§¨©\ufffd«¬\u00ad®―",
        "°±²³΄µ¶·ΈΉΊ»Ό½ΎΏ",
        "ΐΑΒΓΔΕΖΗΘΙΚΛΜΝΞΟ",
        "ΠΡ\ufffdΣΤΥΦΧΨΩΪΫάέήί",
        "ΰαβγδεζηθικλμνξο",
        "πρςστυφχψωϊϋόύώ\ufffd"]
  | .windows1254 =>
    tableOf
      ["€\u0081‚ƒ„…†‡ˆ‰Š‹Œ\u008d\u008e\u008f",
        "\u0090‘’“”•–—˜™š›œ\u009d\u009eŸ",
        "\u00a0¡¢£¤¥¦§¨©ª«¬\u00ad®¯",
        "°±²³´µ¶·¸¹º»¼½¾¿",
        "ÀÁÂÃÄÅÆÇÈÉÊËÌÍÎÏ",
        "ĞÑÒÓÔÕÖ×ØÙÚÛÜİŞß",
        "àáâãäåæçèéêëìíîï",
        "ğñòóôõö÷øùúûüışÿ"]
  | .windows1255 =>
    tableOf
      ["€\u0081‚ƒ„…†‡ˆ‰\u008a‹\u008c\u008d\u008e\u008f",
        "\u0090‘’“”•–—˜™\u009a›\u009c\u009d\u009e\u009f",
        "\u00a0¡¢£₪¥¦§¨©×«¬\u00ad®¯",
        "°±²³´µ¶·¸¹÷»¼½¾¿",
        "\u05b0\u05b1\u05b2\u05b3\u05b4\u05b5\u05b6\u05b7\u05b8\u05b9\u05ba\u05bb\u05bc\u05bd\u05be\u05bf",
        "\u05c0\u05c1\u05c2\u05c3װױײ\u05f3\u05f4\ufffd\ufffd\ufffd\ufffd\ufffd\ufffd\ufffd",
        "אבגדהוזחטיךכלםמן",
        "נסעףפץצקרשת\ufffd\ufffd\u200e\u200f\ufffd"]
  | .windows1256 =>
    tableOf
      ["€پ‚ƒ„…†‡ˆ‰ٹ‹Œچژڈ",
        "گ‘’“”•–—ک™ڑ›œ\u200c\u200dں",
        "\u00a0،¢£¤¥¦§¨©ھ«¬\u00ad®¯",
        "°±²³´µ¶·¸¹؛»¼½¾؟",
        "ہءآأؤإئابةتثجحخد",
        "ذرزسشصض×طظعغـفقك",
        "àلâمنهوçèéêëىيîï",
        "\u064b\u064c\u064d\u064eô\u064f\u0650÷\u0651ù\u0652ûü\u200e\u200fے"]
  | .windows1257 =>
    tableOf
      ["€\u0081‚\u0083„…†‡\u0088‰\u008a‹\u008c¨ˇ¸",
        "\u0090‘’“”•–—\u0098™\u009a›\u009c¯˛\u009f",
        "\u00a0\ufffd¢£¤\ufffd¦§Ø©Ŗ«¬\u00ad®Æ",
        "°±²³´µ¶·ø¹ŗ»¼½¾æ",
        "ĄĮĀĆÄÅĘĒČÉŹĖĢĶĪĻ",
        "ŠŃŅÓŌÕÖ×ŲŁŚŪÜŻŽß",
        "ąįāćäåęēčéźėģķīļ",
        "šńņóōõö÷ųłśūüżž˙"]
  | .windows1258 =>
    tableOf
      ["€\u0081‚ƒ„…†‡ˆ‰\u008a‹Œ\u008d\u008e\u008f",
        "\u0090‘’“”•–—˜™\u009a›œ\u009d\u009eŸ",
        "\u00a0¡¢£¤¥¦§¨©ª«¬\u00ad®¯",
        "°±²³´µ¶·¸¹º»¼½¾¿",
        "ÀÁÂĂÄÅÆÇÈÉÊË\u0300ÍÎÏ",
        "ĐÑ\u0309ÓÔƠÖ×ØÙÚÛÜƯ\u0303ß",
        "àáâăäåæçèéêë\u0301íîï",
        "đñ\u0323óôơö÷øùúûüư₫ÿ"]
  | .macCyrillic =>
    tableOf
      ["АБВГДЕЖЗИЙКЛМНОП",
        "РСТУФХЦЧШЩЪЫЬЭЮЯ",
        "†°Ґ£§•¶І®©™Ђђ≠Ѓѓ",
        "∞±≤≥іµґЈЄєЇїЉљЊњ",
        "јЅ¬√ƒ≈∆«»…\u00a0ЋћЌќѕ",
        "–—“”‘’÷„ЎўЏџ№Ёёя",
        "абвгдежзийклмноп",
        "рстуфхцчшщъыьэю€"]

/-- What a byte stands for, given the table of the bytes from 0x80 up. -/
def charOf (table : Array Char) (b : UInt8) : Char :=
  if b < 0x80 then Char.ofNat b.toNat else table.getD (b.toNat - 0x80) '\ufffd'

end BulkLoad.Encoding.CodePage
