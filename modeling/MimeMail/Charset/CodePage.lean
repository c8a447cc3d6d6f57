import MimeMail.Text.Basic

/-!
The upper halves of the single-byte charsets of the Encoding Standard, in byte order from 0x80, with
U+FFFD where a byte has no character. The lower half is ASCII in all of them.
-/

namespace MimeMail.CodePage

def controls : String :=
  "\u0080\u0081\u0082\u0083\u0084\u0085\u0086\u0087\u0088\u0089\u008a\u008b\u008c\u008d\u008e\u008f" ++
  "\u0090\u0091\u0092\u0093\u0094\u0095\u0096\u0097\u0098\u0099\u009a\u009b\u009c\u009d\u009e\u009f"

def ibm866 : Text :=
  ("АБВГДЕЖЗИЙКЛМНОП" ++
    "РСТУФХЦЧШЩЪЫЬЭЮЯ" ++
    "абвгдежзийклмноп" ++
    "░▒▓│┤╡╢╖╕╣║╗╝╜╛┐" ++
    "└┴┬├─┼╞╟╚╔╩╦╠═╬╧" ++
    "╨╤╥╙╘╒╓╫╪┘┌█▄▌▐▀" ++
    "рстуфхцчшщъыьэюя" ++
    "ЁёЄєЇїЎў°∙·√№¤■\u00a0").toList

def latin2 : Text :=
  (controls ++
    "\u00a0Ą˘Ł¤ĽŚ§¨ŠŞŤŹ\u00adŽŻ" ++
    "°ą˛ł´ľśˇ¸šşťź˝žż" ++
    "ŔÁÂĂÄĹĆÇČÉĘËĚÍÎĎ" ++
    "ĐŃŇÓÔŐÖ×ŘŮÚŰÜÝŢß" ++
    "ŕáâăäĺćçčéęëěíîď" ++
    "đńňóôőö÷řůúűüýţ˙").toList

def latin3 : Text :=
  (controls ++
    "\u00a0Ħ˘£¤\ufffdĤ§¨İŞĞĴ\u00ad\ufffdŻ" ++
    "°ħ²³´µĥ·¸ışğĵ½\ufffdż" ++
    "ÀÁÂ\ufffdÄĊĈÇÈÉÊËÌÍÎÏ" ++
    "\ufffdÑÒÓÔĠÖ×ĜÙÚÛÜŬŜß" ++
    "àáâ\ufffdäċĉçèéêëìíîï" ++
    "\ufffdñòóôġö÷ĝùúûüŭŝ˙").toList

def latin4 : Text :=
  (controls ++
    "\u00a0ĄĸŖ¤ĨĻ§¨ŠĒĢŦ\u00adŽ¯" ++
    "°ą˛ŗ´ĩļˇ¸šēģŧŊžŋ" ++
    "ĀÁÂÃÄÅÆĮČÉĘËĖÍÎĪ" ++
    "ĐŅŌĶÔÕÖ×ØŲÚÛÜŨŪß" ++
    "āáâãäåæįčéęëėíîī" ++
    "đņōķôõö÷øųúûüũū˙").toList

def latinCyrillic : Text :=
  (controls ++
    "\u00a0ЁЂЃЄЅІЇЈЉЊЋЌ\u00adЎЏ" ++
    "АБВГДЕЖЗИЙКЛМНОП" ++
    "РСТУФХЦЧШЩЪЫЬЭЮЯ" ++
    "абвгдежзийклмноп" ++
    "рстуфхцчшщъыьэюя" ++
    "№ёђѓєѕіїјљњћќ§ўџ").toList

def latinArabic : Text :=
  (controls ++
    "\u00a0\ufffd\ufffd\ufffd¤\ufffd\ufffd\ufffd\ufffd\ufffd\ufffd\ufffd،\u00ad\ufffd\ufffd" ++
    "\ufffd\ufffd\ufffd\ufffd\ufffd\ufffd\ufffd\ufffd\ufffd\ufffd\ufffd\u061b\ufffd\ufffd\ufffd\u061f" ++
    "\ufffd\u0621\u0622\u0623\u0624\u0625\u0626\u0627\u0628\u0629\u062a\u062b\u062c\u062d\u062e\u062f" ++
    "\u0630\u0631\u0632\u0633\u0634\u0635\u0636\u0637\u0638\u0639\u063a\ufffd\ufffd\ufffd\ufffd\ufffd" ++
    "\u0640\u0641\u0642\u0643\u0644\u0645\u0646\u0647\u0648\u0649\u064a\u064b\u064c\u064d\u064e\u064f" ++
    "\u0650\u0651\u0652\ufffd\ufffd\ufffd\ufffd\ufffd\ufffd\ufffd\ufffd\ufffd\ufffd\ufffd\ufffd\ufffd").toList

def latinGreek : Text :=
  (controls ++
    "\u00a0‘’£€₯¦§¨©ͺ«¬\u00ad\ufffd―" ++
    "°±²³΄΅Ά·ΈΉΊ»Ό½ΎΏ" ++
    "ΐΑΒΓΔΕΖΗΘΙΚΛΜΝΞΟ" ++
    "ΠΡ\ufffdΣΤΥΦΧΨΩΪΫάέήί" ++
    "ΰαβγδεζηθικλμνξο" ++
    "πρςστυφχψωϊϋόύώ\ufffd").toList

def latinHebrew : Text :=
  (controls ++
    "\u00a0\ufffd¢£¤¥¦§¨©×«¬\u00ad®¯" ++
    "°±²³´µ¶·¸¹÷»¼½¾\ufffd" ++
    "\ufffd\ufffd\ufffd\ufffd\ufffd\ufffd\ufffd\ufffd\ufffd\ufffd\ufffd\ufffd\ufffd\ufffd\ufffd\ufffd" ++
    "\ufffd\ufffd\ufffd\ufffd\ufffd\ufffd\ufffd\ufffd\ufffd\ufffd\ufffd\ufffd\ufffd\ufffd\ufffd‗" ++
    "\u05d0\u05d1\u05d2\u05d3\u05d4\u05d5\u05d6\u05d7\u05d8\u05d9\u05da\u05db\u05dc\u05dd\u05de\u05df" ++
    "\u05e0\u05e1\u05e2\u05e3\u05e4\u05e5\u05e6\u05e7\u05e8\u05e9\u05ea\ufffd\ufffd\u200e\u200f\ufffd").toList

def latin6 : Text :=
  (controls ++
    "\u00a0ĄĒĢĪĨĶ§ĻĐŠŦŽ\u00adŪŊ" ++
    "°ąēģīĩķ·ļđšŧž―ūŋ" ++
    "ĀÁÂÃÄÅÆĮČÉĘËĖÍÎÏ" ++
    "ÐŅŌÓÔÕÖŨØŲÚÛÜÝÞß" ++
    "āáâãäåæįčéęëėíîï" ++
    "ðņōóôõöũøųúûüýþĸ").toList

def latin7 : Text :=
  (controls ++
    "\u00a0”¢£¤„¦§Ø©Ŗ«¬\u00ad®Æ" ++
    "°±²³“µ¶·ø¹ŗ»¼½¾æ" ++
    "ĄĮĀĆÄÅĘĒČÉŹĖĢĶĪĻ" ++
    "ŠŃŅÓŌÕÖ×ŲŁŚŪÜŻŽß" ++
    "ąįāćäåęēčéźėģķīļ" ++
    "šńņóōõö÷ųłśūüżž’").toList

def latin8 : Text :=
  (controls ++
    "\u00a0Ḃḃ£ĊċḊ§Ẁ©ẂḋỲ\u00ad®Ÿ" ++
    "ḞḟĠġṀṁ¶ṖẁṗẃṠỳẄẅṡ" ++
    "ÀÁÂÃÄÅÆÇÈÉÊËÌÍÎÏ" ++
    "ŴÑÒÓÔÕÖṪØÙÚÛÜÝŶß" ++
    "àáâãäåæçèéêëìíîï" ++
    "ŵñòóôõöṫøùúûüýŷÿ").toList

def latin9 : Text :=
  (controls ++
    "\u00a0¡¢£€¥Š§š©ª«¬\u00ad®¯" ++
    "°±²³Žµ¶·ž¹º»ŒœŸ¿" ++
    "ÀÁÂÃÄÅÆÇÈÉÊËÌÍÎÏ" ++
    "ÐÑÒÓÔÕÖ×ØÙÚÛÜÝÞß" ++
    "àáâãäåæçèéêëìíîï" ++
    "ðñòóôõö÷øùúûüýþÿ").toList

def latin10 : Text :=
  (controls ++
    "\u00a0ĄąŁ€„Š§š©Ș«Ź\u00adźŻ" ++
    "°±ČłŽ”¶·žčș»ŒœŸż" ++
    "ÀÁÂĂÄĆÆÇÈÉÊËÌÍÎÏ" ++
    "ĐŃÒÓÔŐÖŚŰÙÚÛÜĘȚß" ++
    "àáâăäćæçèéêëìíîï" ++
    "đńòóôőöśűùúûüęțÿ").toList

def koi8r : Text :=
  ("─│┌┐└┘├┤┬┴┼▀▄█▌▐" ++
    "░▒▓⌠■∙√≈≤≥\u00a0⌡°²·÷" ++
    "═║╒ё╓╔╕╖╗╘╙╚╛╜╝╞" ++
    "╟╠╡Ё╢╣╤╥╦╧╨╩╪╫╬©" ++
    "юабцдефгхийклмно" ++
    "пярстужвьызшэщчъ" ++
    "ЮАБЦДЕФГХИЙКЛМНО" ++
    "ПЯРСТУЖВЬЫЗШЭЩЧЪ").toList

def koi8u : Text :=
  ("─│┌┐└┘├┤┬┴┼▀▄█▌▐" ++
    "░▒▓⌠■∙√≈≤≥\u00a0⌡°²·÷" ++
    "═║╒ёє╔ії╗╘╙╚╛ґў╞" ++
    "╟╠╡ЁЄ╣ІЇ╦╧╨╩╪ҐЎ©" ++
    "юабцдефгхийклмно" ++
    "пярстужвьызшэщчъ" ++
    "ЮАБЦДЕФГХИЙКЛМНО" ++
    "ПЯРСТУЖВЬЫЗШЭЩЧЪ").toList

def macintosh : Text :=
  ("ÄÅÇÉÑÖÜáàâäãåçéè" ++
    "êëíìîïñóòôöõúùûü" ++
    "†°¢£§•¶ß®©™´¨≠ÆØ" ++
    "∞±≤≥¥µ∂∑∏π∫ªºΩæø" ++
    "¿¡¬√ƒ≈∆«»…\u00a0ÀÃÕŒœ" ++
    "–—“”‘’÷◊ÿŸ⁄€‹›\ufb01\ufb02" ++
    "‡·‚„‰ÂÊÁËÈÍÎÏÌÓÔ" ++
    "\uf8ffÒÚÛÙıˆ˜¯˘˙˚¸˝˛ˇ").toList

def windows874 : Text :=
  ("€\u0081\u0082\u0083\u0084…\u0086\u0087\u0088\u0089\u008a\u008b\u008c\u008d\u008e\u008f" ++
    "\u0090‘’“”•–—\u0098\u0099\u009a\u009b\u009c\u009d\u009e\u009f" ++
    "\u00a0กขฃคฅฆงจฉชซฌญฎฏ" ++
    "ฐฑฒณดตถทธนบปผฝพฟ" ++
    "ภมยรฤลฦวศษสหฬอฮฯ" ++
    "ะ\u0e31าำ\u0e34\u0e35\u0e36\u0e37\u0e38\u0e39\u0e3a\ufffd\ufffd\ufffd\ufffd฿" ++
    "เแโใไๅๆ\u0e47\u0e48\u0e49\u0e4a\u0e4b\u0e4c\u0e4d\u0e4e๏" ++
    "๐๑๒๓๔๕๖๗๘๙๚๛\ufffd\ufffd\ufffd\ufffd").toList

def windows1250 : Text :=
  ("€\u0081‚\u0083„…†‡\u0088‰Š‹ŚŤŽŹ" ++
    "\u0090‘’“”•–—\u0098™š›śťžź" ++
    "\u00a0ˇ˘Ł¤Ą¦§¨©Ş«¬\u00ad®Ż" ++
    "°±˛ł´µ¶·¸ąş»Ľ˝ľż" ++
    "ŔÁÂĂÄĹĆÇČÉĘËĚÍÎĎ" ++
    "ĐŃŇÓÔŐÖ×ŘŮÚŰÜÝŢß" ++
    "ŕáâăäĺćçčéęëěíîď" ++
    "đńňóôőö÷řůúűüýţ˙").toList

def windows1251 : Text :=
  ("ЂЃ‚ѓ„…†‡€‰Љ‹ЊЌЋЏ" ++
    "ђ‘’“”•–—\u0098™љ›њќћџ" ++
    "\u00a0ЎўЈ¤Ґ¦§Ё©Є«¬\u00ad®Ї" ++
    "°±Ііґµ¶·ё№є»јЅѕї" ++
    "АБВГДЕЖЗИЙКЛМНОП" ++
    "РСТУФХЦЧШЩЪЫЬЭЮЯ" ++
    "абвгдежзийклмноп" ++
    "рстуфхцчшщъыьэюя").toList

def windows1252 : Text :=
  ("€\u0081‚ƒ„…†‡ˆ‰Š‹Œ\u008dŽ\u008f" ++
    "\u0090‘’“”•–—˜™š›œ\u009džŸ" ++
    "\u00a0¡¢£¤¥¦§¨©ª«¬\u00ad®¯" ++
    "°±²³´µ¶·¸¹º»¼½¾¿" ++
    "ÀÁÂÃÄÅÆÇÈÉÊËÌÍÎÏ" ++
    "ÐÑÒÓÔÕÖ×ØÙÚÛÜÝÞß" ++
    "àáâãäåæçèéêëìíîï" ++
    "ðñòóôõö÷øùúûüýþÿ").toList

def windows1253 : Text :=
  ("€\u0081‚ƒ„…†‡\u0088‰\u008a‹\u008c\u008d\u008e\u008f" ++
    "\u0090‘’“”•–—\u0098™\u009a›\u009c\u009d\u009e\u009f" ++
    "\u00a0΅Ά£¤¥¦§¨©\ufffd«¬\u00ad®―" ++
    "°±²³΄µ¶·ΈΉΊ»Ό½ΎΏ" ++
    "ΐΑΒΓΔΕΖΗΘΙΚΛΜΝΞΟ" ++
    "ΠΡ\ufffdΣΤΥΦΧΨΩΪΫάέήί" ++
    "ΰαβγδεζηθικλμνξο" ++
    "πρςστυφχψωϊϋόύώ\ufffd").toList

def windows1254 : Text :=
  ("€\u0081‚ƒ„…†‡ˆ‰Š‹Œ\u008d\u008e\u008f" ++
    "\u0090‘’“”•–—˜™š›œ\u009d\u009eŸ" ++
    "\u00a0¡¢£¤¥¦§¨©ª«¬\u00ad®¯" ++
    "°±²³´µ¶·¸¹º»¼½¾¿" ++
    "ÀÁÂÃÄÅÆÇÈÉÊËÌÍÎÏ" ++
    "ĞÑÒÓÔÕÖ×ØÙÚÛÜİŞß" ++
    "àáâãäåæçèéêëìíîï" ++
    "ğñòóôõö÷øùúûüışÿ").toList

def windows1255 : Text :=
  ("€\u0081‚ƒ„…†‡ˆ‰\u008a‹\u008c\u008d\u008e\u008f" ++
    "\u0090‘’“”•–—˜™\u009a›\u009c\u009d\u009e\u009f" ++
    "\u00a0¡¢£₪¥¦§¨©×«¬\u00ad®¯" ++
    "°±²³´µ¶·¸¹÷»¼½¾¿" ++
    "\u05b0\u05b1\u05b2\u05b3\u05b4\u05b5\u05b6\u05b7\u05b8\u05b9\u05ba\u05bb\u05bc\u05bd\u05be\u05bf" ++
    "\u05c0\u05c1\u05c2\u05c3\u05f0\u05f1\u05f2\u05f3\u05f4\ufffd\ufffd\ufffd\ufffd\ufffd\ufffd\ufffd" ++
    "\u05d0\u05d1\u05d2\u05d3\u05d4\u05d5\u05d6\u05d7\u05d8\u05d9\u05da\u05db\u05dc\u05dd\u05de\u05df" ++
    "\u05e0\u05e1\u05e2\u05e3\u05e4\u05e5\u05e6\u05e7\u05e8\u05e9\u05ea\ufffd\ufffd\u200e\u200f\ufffd").toList

def windows1256 : Text :=
  ("€\u067e‚ƒ„…†‡ˆ‰\u0679‹Œ\u0686\u0698\u0688" ++
    "\u06af‘’“”•–—\u06a9™\u0691›œ\u200c\u200d\u06ba" ++
    "\u00a0،¢£¤¥¦§¨©\u06be«¬\u00ad®¯" ++
    "°±²³´µ¶·¸¹\u061b»¼½¾\u061f" ++
    "\u06c1\u0621\u0622\u0623\u0624\u0625\u0626\u0627\u0628\u0629\u062a\u062b\u062c\u062d\u062e\u062f" ++
    "\u0630\u0631\u0632\u0633\u0634\u0635\u0636×\u0637\u0638\u0639\u063a\u0640\u0641\u0642\u0643" ++
    "à\u0644â\u0645\u0646\u0647\u0648çèéêë\u0649\u064aîï" ++
    "\u064b\u064c\u064d\u064eô\u064f\u0650÷\u0651ù\u0652ûü\u200e\u200f\u06d2").toList

def windows1257 : Text :=
  ("€\u0081‚\u0083„…†‡\u0088‰\u008a‹\u008c¨ˇ¸" ++
    "\u0090‘’“”•–—\u0098™\u009a›\u009c¯˛\u009f" ++
    "\u00a0\ufffd¢£¤\ufffd¦§Ø©Ŗ«¬\u00ad®Æ" ++
    "°±²³´µ¶·ø¹ŗ»¼½¾æ" ++
    "ĄĮĀĆÄÅĘĒČÉŹĖĢĶĪĻ" ++
    "ŠŃŅÓŌÕÖ×ŲŁŚŪÜŻŽß" ++
    "ąįāćäåęēčéźėģķīļ" ++
    "šńņóōõö÷ųłśūüżž˙").toList

def windows1258 : Text :=
  ("€\u0081‚ƒ„…†‡ˆ‰\u008a‹Œ\u008d\u008e\u008f" ++
    "\u0090‘’“”•–—˜™\u009a›œ\u009d\u009eŸ" ++
    "\u00a0¡¢£¤¥¦§¨©ª«¬\u00ad®¯" ++
    "°±²³´µ¶·¸¹º»¼½¾¿" ++
    "ÀÁÂĂÄÅÆÇÈÉÊË\u0300ÍÎÏ" ++
    "ĐÑ\u0309ÓÔƠÖ×ØÙÚÛÜƯ\u0303ß" ++
    "àáâăäåæçèéêë\u0301íîï" ++
    "đñ\u0323óôơö÷øùúûüư₫ÿ").toList

def macCyrillic : Text :=
  ("АБВГДЕЖЗИЙКЛМНОП" ++
    "РСТУФХЦЧШЩЪЫЬЭЮЯ" ++
    "†°Ґ£§•¶І®©™Ђђ≠Ѓѓ" ++
    "∞±≤≥іµґЈЄєЇїЉљЊњ" ++
    "јЅ¬√ƒ≈∆«»…\u00a0ЋћЌќѕ" ++
    "–—“”‘’÷„ЎўЏџ№Ёёя" ++
    "абвгдежзийклмноп" ++
    "рстуфхцчшщъыьэю€").toList

def char (high : Text) (b : UInt8) : Char :=
  if b < 0x80 then Char.ofNat b.toNat else high.getD (b.toNat - 0x80) '\uFFFD'

def decode (high : Text) (bs : Bytes) : Text := bs.map (char high)

end MimeMail.CodePage
