import LogWarden.Encoding.Index

/-! # Code pages

In a code page every byte is a character: up to 7F one of ASCII, from 80 on one of the page. -/

namespace LogWarden.Encoding

/-- A code page. -/
inductive CodePage
  | ibm866 | iso2 | iso3 | iso4 | iso5 | iso6 | iso7 | iso8 | iso8i
  | iso10 | iso13 | iso14 | iso15 | iso16
  | koi8r | koi8u | macintosh | windows874
  | windows1250 | windows1251 | windows1252 | windows1253 | windows1254
  | windows1255 | windows1256 | windows1257 | windows1258 | macCyrillic
  deriving DecidableEq, Repr

namespace CodePage

/-- All code pages. -/
def all : List CodePage :=
  [.ibm866, .iso2, .iso3, .iso4, .iso5, .iso6, .iso7, .iso8, .iso8i, .iso10, .iso13, .iso14,
   .iso15, .iso16, .koi8r, .koi8u, .macintosh, .windows874, .windows1250, .windows1251,
   .windows1252, .windows1253, .windows1254, .windows1255, .windows1256, .windows1257,
   .windows1258, .macCyrillic]

/-- The name of a code page. -/
def name : CodePage → String
  | .ibm866 => "IBM866"
  | .iso2 => "ISO-8859-2"
  | .iso3 => "ISO-8859-3"
  | .iso4 => "ISO-8859-4"
  | .iso5 => "ISO-8859-5"
  | .iso6 => "ISO-8859-6"
  | .iso7 => "ISO-8859-7"
  | .iso8 => "ISO-8859-8"
  | .iso8i => "ISO-8859-8-I"
  | .iso10 => "ISO-8859-10"
  | .iso13 => "ISO-8859-13"
  | .iso14 => "ISO-8859-14"
  | .iso15 => "ISO-8859-15"
  | .iso16 => "ISO-8859-16"
  | .koi8r => "KOI8-R"
  | .koi8u => "KOI8-U"
  | .macintosh => "macintosh"
  | .windows874 => "windows-874"
  | .windows1250 => "windows-1250"
  | .windows1251 => "windows-1251"
  | .windows1252 => "windows-1252"
  | .windows1253 => "windows-1253"
  | .windows1254 => "windows-1254"
  | .windows1255 => "windows-1255"
  | .windows1256 => "windows-1256"
  | .windows1257 => "windows-1257"
  | .windows1258 => "windows-1258"
  | .macCyrillic => "x-mac-cyrillic"

/-- The labels of a code page, in lower case. -/
def labels : CodePage → List String
  | .ibm866 => ["866", "cp866", "csibm866", "ibm866"]
  | .iso2 =>
    ["csisolatin2", "iso-8859-2", "iso-ir-101", "iso8859-2", "iso88592", "iso_8859-2",
     "iso_8859-2:1987", "l2", "latin2"]
  | .iso3 =>
    ["csisolatin3", "iso-8859-3", "iso-ir-109", "iso8859-3", "iso88593", "iso_8859-3",
     "iso_8859-3:1988", "l3", "latin3"]
  | .iso4 =>
    ["csisolatin4", "iso-8859-4", "iso-ir-110", "iso8859-4", "iso88594", "iso_8859-4",
     "iso_8859-4:1988", "l4", "latin4"]
  | .iso5 =>
    ["csisolatincyrillic", "cyrillic", "iso-8859-5", "iso-ir-144", "iso8859-5", "iso88595",
     "iso_8859-5", "iso_8859-5:1988"]
  | .iso6 =>
    ["arabic", "asmo-708", "csiso88596e", "csiso88596i", "csisolatinarabic", "ecma-114",
     "iso-8859-6", "iso-8859-6-e", "iso-8859-6-i", "iso-ir-127", "iso8859-6", "iso88596",
     "iso_8859-6", "iso_8859-6:1987"]
  | .iso7 =>
    ["csisolatingreek", "ecma-118", "elot_928", "greek", "greek8", "iso-8859-7", "iso-ir-126",
     "iso8859-7", "iso88597", "iso_8859-7", "iso_8859-7:1987", "sun_eu_greek"]
  | .iso8 =>
    ["csiso88598e", "csisolatinhebrew", "hebrew", "iso-8859-8", "iso-8859-8-e", "iso-ir-138",
     "iso8859-8", "iso88598", "iso_8859-8", "iso_8859-8:1988", "visual"]
  | .iso8i => ["csiso88598i", "iso-8859-8-i", "logical"]
  | .iso10 =>
    ["csisolatin6", "iso-8859-10", "iso-ir-157", "iso8859-10", "iso885910", "l6", "latin6"]
  | .iso13 => ["iso-8859-13", "iso8859-13", "iso885913"]
  | .iso14 => ["iso-8859-14", "iso8859-14", "iso885914"]
  | .iso15 => ["csisolatin9", "iso-8859-15", "iso8859-15", "iso885915", "iso_8859-15", "l9"]
  | .iso16 => ["iso-8859-16"]
  | .koi8r => ["cskoi8r", "koi", "koi8", "koi8-r", "koi8_r"]
  | .koi8u => ["koi8-ru", "koi8-u"]
  | .macintosh => ["csmacintosh", "mac", "macintosh", "x-mac-roman"]
  | .windows874 => ["dos-874", "iso-8859-11", "iso8859-11", "iso885911", "tis-620", "windows-874"]
  | .windows1250 => ["cp1250", "windows-1250", "x-cp1250"]
  | .windows1251 => ["cp1251", "windows-1251", "x-cp1251"]
  | .windows1252 =>
    ["ansi_x3.4-1968", "ascii", "cp1252", "cp819", "csisolatin1", "ibm819", "iso-8859-1",
     "iso-ir-100", "iso8859-1", "iso88591", "iso_8859-1", "iso_8859-1:1987", "l1", "latin1",
     "us-ascii", "windows-1252", "x-cp1252"]
  | .windows1253 => ["cp1253", "windows-1253", "x-cp1253"]
  | .windows1254 =>
    ["cp1254", "csisolatin5", "iso-8859-9", "iso-ir-148", "iso8859-9", "iso88599", "iso_8859-9",
     "iso_8859-9:1989", "l5", "latin5", "windows-1254", "x-cp1254"]
  | .windows1255 => ["cp1255", "windows-1255", "x-cp1255"]
  | .windows1256 => ["cp1256", "windows-1256", "x-cp1256"]
  | .windows1257 => ["cp1257", "windows-1257", "x-cp1257"]
  | .windows1258 => ["cp1258", "windows-1258", "x-cp1258"]
  | .macCyrillic => ["x-mac-cyrillic", "x-mac-ukrainian"]

/-- The control characters from 80 to 9F. -/
def controls : String :=
  String.ofList ((List.range 32).map fun i => Char.ofNat (0x80 + i))

/-- The characters from 80 on. -/
def index : CodePage → Index
  | .ibm866 => ⟨32, #[
    "АБВГДЕЖЗИЙКЛМНОПРСТУФХЦЧШЩЪЫЬЭЮЯ",
    "абвгдежзийклмноп░▒▓│┤╡╢╖╕╣║╗╝╜╛┐",
    "└┴┬├─┼╞╟╚╔╩╦╠═╬╧╨╤╥╙╘╒╓╫╪┘┌█▄▌▐▀",
    "рстуфхцчшщъыьэюяЁёЄєЇїЎў°∙·√№¤■\u00A0"]⟩
  | .iso2 => ⟨32, #[
    controls,
    "\u00A0Ą˘Ł¤ĽŚ§¨ŠŞŤŹ\u00ADŽŻ°ą˛ł´ľśˇ¸šşťź˝žż",
    "ŔÁÂĂÄĹĆÇČÉĘËĚÍÎĎĐŃŇÓÔŐÖ×ŘŮÚŰÜÝŢß",
    "ŕáâăäĺćçčéęëěíîďđńňóôőö÷řůúűüýţ˙"]⟩
  | .iso3 => ⟨32, #[
    controls,
    "\u00A0Ħ˘£¤.Ĥ§¨İŞĞĴ\u00AD.Ż°ħ²³´µĥ·¸ışğĵ½.ż",
    "ÀÁÂ.ÄĊĈÇÈÉÊËÌÍÎÏ.ÑÒÓÔĠÖ×ĜÙÚÛÜŬŜß",
    "àáâ.äċĉçèéêëìíîï.ñòóôġö÷ĝùúûüŭŝ˙"]⟩
  | .iso4 => ⟨32, #[
    controls,
    "\u00A0ĄĸŖ¤ĨĻ§¨ŠĒĢŦ\u00ADŽ¯°ą˛ŗ´ĩļˇ¸šēģŧŊžŋ",
    "ĀÁÂÃÄÅÆĮČÉĘËĖÍÎĪĐŅŌĶÔÕÖ×ØŲÚÛÜŨŪß",
    "āáâãäåæįčéęëėíîīđņōķôõö÷øųúûüũū˙"]⟩
  | .iso5 => ⟨32, #[
    controls,
    "\u00A0ЁЂЃЄЅІЇЈЉЊЋЌ\u00ADЎЏАБВГДЕЖЗИЙКЛМНОП",
    "РСТУФХЦЧШЩЪЫЬЭЮЯабвгдежзийклмноп",
    "рстуфхцчшщъыьэюя№ёђѓєѕіїјљњћќ§ўџ"]⟩
  | .iso6 => ⟨32, #[
    controls,
    "\u00A0...¤.......،\u00AD.............؛...؟",
    ".ءآأؤإئابةتثجحخدذرزسشصضطظعغ.....",
    "ـفقكلمنهوىي\u064B\u064C\u064D\u064E\u064F\u0650\u0651\u0652............."]⟩
  | .iso7 => ⟨32, #[
    controls,
    "\u00A0‘’£€₯¦§¨©ͺ«¬\u00AD.―°±²³΄΅Ά·ΈΉΊ»Ό½ΎΏ",
    "ΐΑΒΓΔΕΖΗΘΙΚΛΜΝΞΟΠΡ.ΣΤΥΦΧΨΩΪΫάέήί",
    "ΰαβγδεζηθικλμνξοπρςστυφχψωϊϋόύώ."]⟩
  | .iso8 | .iso8i => ⟨32, #[
    controls,
    "\u00A0.¢£¤¥¦§¨©×«¬\u00AD®¯°±²³´µ¶·¸¹÷»¼½¾.",
    "...............................‗",
    "אבגדהוזחטיךכלםמןנסעףפץצקרשת..\u200E\u200F."]⟩
  | .iso10 => ⟨32, #[
    controls,
    "\u00A0ĄĒĢĪĨĶ§ĻĐŠŦŽ\u00ADŪŊ°ąēģīĩķ·ļđšŧž―ūŋ",
    "ĀÁÂÃÄÅÆĮČÉĘËĖÍÎÏÐŅŌÓÔÕÖŨØŲÚÛÜÝÞß",
    "āáâãäåæįčéęëėíîïðņōóôõöũøųúûüýþĸ"]⟩
  | .iso13 => ⟨32, #[
    controls,
    "\u00A0”¢£¤„¦§Ø©Ŗ«¬\u00AD®Æ°±²³“µ¶·ø¹ŗ»¼½¾æ",
    "ĄĮĀĆÄÅĘĒČÉŹĖĢĶĪĻŠŃŅÓŌÕÖ×ŲŁŚŪÜŻŽß",
    "ąįāćäåęēčéźėģķīļšńņóōõö÷ųłśūüżž’"]⟩
  | .iso14 => ⟨32, #[
    controls,
    "\u00A0Ḃḃ£ĊċḊ§Ẁ©ẂḋỲ\u00AD®ŸḞḟĠġṀṁ¶ṖẁṗẃṠỳẄẅṡ",
    "ÀÁÂÃÄÅÆÇÈÉÊËÌÍÎÏŴÑÒÓÔÕÖṪØÙÚÛÜÝŶß",
    "àáâãäåæçèéêëìíîïŵñòóôõöṫøùúûüýŷÿ"]⟩
  | .iso15 => ⟨32, #[
    controls,
    "\u00A0¡¢£€¥Š§š©ª«¬\u00AD®¯°±²³Žµ¶·ž¹º»ŒœŸ¿",
    "ÀÁÂÃÄÅÆÇÈÉÊËÌÍÎÏÐÑÒÓÔÕÖ×ØÙÚÛÜÝÞß",
    "àáâãäåæçèéêëìíîïðñòóôõö÷øùúûüýþÿ"]⟩
  | .iso16 => ⟨32, #[
    controls,
    "\u00A0ĄąŁ€„Š§š©Ș«Ź\u00ADźŻ°±ČłŽ”¶·žčș»ŒœŸż",
    "ÀÁÂĂÄĆÆÇÈÉÊËÌÍÎÏĐŃÒÓÔŐÖŚŰÙÚÛÜĘȚß",
    "àáâăäćæçèéêëìíîïđńòóôőöśűùúûüęțÿ"]⟩
  | .koi8r => ⟨32, #[
    "─│┌┐└┘├┤┬┴┼▀▄█▌▐░▒▓⌠■∙√≈≤≥\u00A0⌡°²·÷",
    "═║╒ё╓╔╕╖╗╘╙╚╛╜╝╞╟╠╡Ё╢╣╤╥╦╧╨╩╪╫╬©",
    "юабцдефгхийклмнопярстужвьызшэщчъ",
    "ЮАБЦДЕФГХИЙКЛМНОПЯРСТУЖВЬЫЗШЭЩЧЪ"]⟩
  | .koi8u => ⟨32, #[
    "─│┌┐└┘├┤┬┴┼▀▄█▌▐░▒▓⌠■∙√≈≤≥\u00A0⌡°²·÷",
    "═║╒ёє╔ії╗╘╙╚╛ґў╞╟╠╡ЁЄ╣ІЇ╦╧╨╩╪ҐЎ©",
    "юабцдефгхийклмнопярстужвьызшэщчъ",
    "ЮАБЦДЕФГХИЙКЛМНОПЯРСТУЖВЬЫЗШЭЩЧЪ"]⟩
  | .macintosh => ⟨32, #[
    "ÄÅÇÉÑÖÜáàâäãåçéèêëíìîïñóòôöõúùûü",
    "†°¢£§•¶ß®©™´¨≠ÆØ∞±≤≥¥µ∂∑∏π∫ªºΩæø",
    "¿¡¬√ƒ≈∆«»…\u00A0ÀÃÕŒœ–—“”‘’÷◊ÿŸ⁄€‹›ﬁﬂ",
    "‡·‚„‰ÂÊÁËÈÍÎÏÌÓÔ\uF8FFÒÚÛÙıˆ˜¯˘˙˚¸˝˛ˇ"]⟩
  | .windows874 => ⟨32, #[
    "€\u0081\u0082\u0083\u0084…\u0086\u0087\u0088\u0089\u008A\u008B\u008C\u008D\u008E\u008F" ++
      "\u0090‘’“”•–—\u0098\u0099\u009A\u009B\u009C\u009D\u009E\u009F",
    "\u00A0กขฃคฅฆงจฉชซฌญฎฏฐฑฒณดตถทธนบปผฝพฟ",
    "ภมยรฤลฦวศษสหฬอฮฯะ\u0E31าำ\u0E34\u0E35\u0E36\u0E37\u0E38\u0E39\u0E3A....฿",
    "เแโใไๅๆ\u0E47\u0E48\u0E49\u0E4A\u0E4B\u0E4C\u0E4D\u0E4E๏๐๑๒๓๔๕๖๗๘๙๚๛...."]⟩
  | .windows1250 => ⟨32, #[
    "€\u0081‚\u0083„…†‡\u0088‰Š‹ŚŤŽŹ\u0090‘’“”•–—\u0098™š›śťžź",
    "\u00A0ˇ˘Ł¤Ą¦§¨©Ş«¬\u00AD®Ż°±˛ł´µ¶·¸ąş»Ľ˝ľż",
    "ŔÁÂĂÄĹĆÇČÉĘËĚÍÎĎĐŃŇÓÔŐÖ×ŘŮÚŰÜÝŢß",
    "ŕáâăäĺćçčéęëěíîďđńňóôőö÷řůúűüýţ˙"]⟩
  | .windows1251 => ⟨32, #[
    "ЂЃ‚ѓ„…†‡€‰Љ‹ЊЌЋЏђ‘’“”•–—\u0098™љ›њќћџ",
    "\u00A0ЎўЈ¤Ґ¦§Ё©Є«¬\u00AD®Ї°±Ііґµ¶·ё№є»јЅѕї",
    "АБВГДЕЖЗИЙКЛМНОПРСТУФХЦЧШЩЪЫЬЭЮЯ",
    "абвгдежзийклмнопрстуфхцчшщъыьэюя"]⟩
  | .windows1252 => ⟨32, #[
    "€\u0081‚ƒ„…†‡ˆ‰Š‹Œ\u008DŽ\u008F\u0090‘’“”•–—˜™š›œ\u009DžŸ",
    "\u00A0¡¢£¤¥¦§¨©ª«¬\u00AD®¯°±²³´µ¶·¸¹º»¼½¾¿",
    "ÀÁÂÃÄÅÆÇÈÉÊËÌÍÎÏÐÑÒÓÔÕÖ×ØÙÚÛÜÝÞß",
    "àáâãäåæçèéêëìíîïðñòóôõö÷øùúûüýþÿ"]⟩
  | .windows1253 => ⟨32, #[
    "€\u0081‚ƒ„…†‡\u0088‰\u008A‹\u008C\u008D\u008E\u008F" ++
      "\u0090‘’“”•–—\u0098™\u009A›\u009C\u009D\u009E\u009F",
    "\u00A0΅Ά£¤¥¦§¨©.«¬\u00AD®―°±²³΄µ¶·ΈΉΊ»Ό½ΎΏ",
    "ΐΑΒΓΔΕΖΗΘΙΚΛΜΝΞΟΠΡ.ΣΤΥΦΧΨΩΪΫάέήί",
    "ΰαβγδεζηθικλμνξοπρςστυφχψωϊϋόύώ."]⟩
  | .windows1254 => ⟨32, #[
    "€\u0081‚ƒ„…†‡ˆ‰Š‹Œ\u008D\u008E\u008F\u0090‘’“”•–—˜™š›œ\u009D\u009EŸ",
    "\u00A0¡¢£¤¥¦§¨©ª«¬\u00AD®¯°±²³´µ¶·¸¹º»¼½¾¿",
    "ÀÁÂÃÄÅÆÇÈÉÊËÌÍÎÏĞÑÒÓÔÕÖ×ØÙÚÛÜİŞß",
    "àáâãäåæçèéêëìíîïğñòóôõö÷øùúûüışÿ"]⟩
  | .windows1255 => ⟨32, #[
    "€\u0081‚ƒ„…†‡ˆ‰\u008A‹\u008C\u008D\u008E\u008F\u0090‘’“”•–—˜™\u009A›\u009C\u009D\u009E\u009F",
    "\u00A0¡¢£₪¥¦§¨©×«¬\u00AD®¯°±²³´µ¶·¸¹÷»¼½¾¿",
    "\u05B0\u05B1\u05B2\u05B3\u05B4\u05B5\u05B6\u05B7\u05B8\u05B9\u05BA\u05BB\u05BC\u05BD־\u05BF" ++
      "׀\u05C1\u05C2׃װױײ׳״.......",
    "אבגדהוזחטיךכלםמןנסעףפץצקרשת..\u200E\u200F."]⟩
  | .windows1256 => ⟨32, #[
    "€پ‚ƒ„…†‡ˆ‰ٹ‹Œچژڈگ‘’“”•–—ک™ڑ›œ\u200C\u200Dں",
    "\u00A0،¢£¤¥¦§¨©ھ«¬\u00AD®¯°±²³´µ¶·¸¹؛»¼½¾؟",
    "ہءآأؤإئابةتثجحخدذرزسشصض×طظعغـفقك",
    "àلâمنهوçèéêëىيîï\u064B\u064C\u064D\u064Eô\u064F\u0650÷\u0651ù\u0652ûü\u200E\u200Fے"]⟩
  | .windows1257 => ⟨32, #[
    "€\u0081‚\u0083„…†‡\u0088‰\u008A‹\u008C¨ˇ¸\u0090‘’“”•–—\u0098™\u009A›\u009C¯˛\u009F",
    "\u00A0.¢£¤.¦§Ø©Ŗ«¬\u00AD®Æ°±²³´µ¶·ø¹ŗ»¼½¾æ",
    "ĄĮĀĆÄÅĘĒČÉŹĖĢĶĪĻŠŃŅÓŌÕÖ×ŲŁŚŪÜŻŽß",
    "ąįāćäåęēčéźėģķīļšńņóōõö÷ųłśūüżž˙"]⟩
  | .windows1258 => ⟨32, #[
    "€\u0081‚ƒ„…†‡ˆ‰\u008A‹Œ\u008D\u008E\u008F\u0090‘’“”•–—˜™\u009A›œ\u009D\u009EŸ",
    "\u00A0¡¢£¤¥¦§¨©ª«¬\u00AD®¯°±²³´µ¶·¸¹º»¼½¾¿",
    "ÀÁÂĂÄÅÆÇÈÉÊË\u0300ÍÎÏĐÑ\u0309ÓÔƠÖ×ØÙÚÛÜƯ\u0303ß",
    "àáâăäåæçèéêë\u0301íîïđñ\u0323óôơö÷øùúûüư₫ÿ"]⟩
  | .macCyrillic => ⟨32, #[
    "АБВГДЕЖЗИЙКЛМНОПРСТУФХЦЧШЩЪЫЬЭЮЯ",
    "†°Ґ£§•¶І®©™Ђђ≠Ѓѓ∞±≤≥іµґЈЄєЇїЉљЊњ",
    "јЅ¬√ƒ≈∆«»…\u00A0ЋћЌќѕ–—“”‘’÷„ЎўЏџ№Ёёя",
    "абвгдежзийклмнопрстуфхцчшщъыьэю€"]⟩

/-- The character of a byte. -/
def char (p : CodePage) (b : UInt8) : Char :=
  if b.toNat < 0x80 then Char.ofNat b.toNat else (p.index.char? (b.toNat - 0x80)).getD '\uFFFD'

end CodePage

end LogWarden.Encoding
