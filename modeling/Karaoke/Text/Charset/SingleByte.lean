/-!
# Sets of one byte a character

Most sets of one byte a character agree with ASCII on the lower bytes and fill the upper ones with
the letters of some languages.
-/

set_option autoImplicit false

namespace Karaoke.Text

/-- A set of one byte a character. Its rows give the characters of 32 bytes each, up to the last
byte; the bytes in front of them stand for the code points of the same number. The replacement
character stands at a byte that is not in the set. -/
structure SingleByte where
  proper : String
  aliases : List String := []
  rows : List String
  deriving DecidableEq, Repr

namespace SingleByte

/-- The character that a byte stands for. -/
def char? (t : SingleByte) (b : UInt8) : Option Char :=
  let upper := t.rows.flatMap String.toList
  let first := 0x100 - upper.length
  if b.toNat < first then some (Char.ofNat b.toNat)
  else upper[b.toNat - first]?.filter (· != '\uFFFD')

/-- The sets of ISO 8859 but the first. -/
def isoSets : List SingleByte :=
  [{ proper := "iso8859_2"
     aliases := ["csisolatin2", "iso_8859_2", "iso_8859_2_1987", "iso_ir_101", "l2", "latin2"]
     rows := ["\u00a0Ą˘Ł¤ĽŚ§¨ŠŞŤŹ\u00adŽŻ°ą˛ł´ľśˇ¸šşťź˝žż",
       "ŔÁÂĂÄĹĆÇČÉĘËĚÍÎĎĐŃŇÓÔŐÖ×ŘŮÚŰÜÝŢß",
       "ŕáâăäĺćçčéęëěíîďđńňóôőö÷řůúűüýţ˙"] },
   { proper := "iso8859_3"
     aliases := ["csisolatin3", "iso_8859_3", "iso_8859_3_1988", "iso_ir_109", "l3", "latin3"]
     rows := ["\u00a0Ħ˘£¤�Ĥ§¨İŞĞĴ\u00ad�Ż°ħ²³´µĥ·¸ışğĵ½�ż",
       "ÀÁÂ�ÄĊĈÇÈÉÊËÌÍÎÏ�ÑÒÓÔĠÖ×ĜÙÚÛÜŬŜß",
       "àáâ�äċĉçèéêëìíîï�ñòóôġö÷ĝùúûüŭŝ˙"] },
   { proper := "iso8859_4"
     aliases := ["csisolatin4", "iso_8859_4", "iso_8859_4_1988", "iso_ir_110", "l4", "latin4"]
     rows := ["\u00a0ĄĸŖ¤ĨĻ§¨ŠĒĢŦ\u00adŽ¯°ą˛ŗ´ĩļˇ¸šēģŧŊžŋ",
       "ĀÁÂÃÄÅÆĮČÉĘËĖÍÎĪĐŅŌĶÔÕÖ×ØŲÚÛÜŨŪß",
       "āáâãäåæįčéęëėíîīđņōķôõö÷øųúûüũū˙"] },
   { proper := "iso8859_5"
     aliases := ["csisolatincyrillic", "cyrillic", "iso_8859_5", "iso_8859_5_1988", "iso_ir_144"]
     rows := ["\u00a0ЁЂЃЄЅІЇЈЉЊЋЌ\u00adЎЏАБВГДЕЖЗИЙКЛМНОП",
       "РСТУФХЦЧШЩЪЫЬЭЮЯабвгдежзийклмноп",
       "рстуфхцчшщъыьэюя№ёђѓєѕіїјљњћќ§ўџ"] },
   { proper := "iso8859_6"
     aliases := ["arabic", "asmo_708", "csisolatinarabic", "ecma_114", "iso_8859_6",
       "iso_8859_6_1987", "iso_ir_127"]
     rows := ["\u00a0���¤�������،\u00ad�������������؛���؟",
       "�ءآأؤإئابةتثجحخدذرزسشصضطظعغ�����",
       "ـفقكلمنهوىي\u064b\u064c\u064d\u064e\u064f\u0650\u0651\u0652�������������"] },
   { proper := "iso8859_7"
     aliases := ["csisolatingreek", "ecma_118", "elot_928", "greek", "greek8", "iso_8859_7",
       "iso_8859_7_1987", "iso_ir_126"]
     rows := ["\u00a0‘’£€₯¦§¨©ͺ«¬\u00ad�―°±²³΄΅Ά·ΈΉΊ»Ό½ΎΏ",
       "ΐΑΒΓΔΕΖΗΘΙΚΛΜΝΞΟΠΡ�ΣΤΥΦΧΨΩΪΫάέήί",
       "ΰαβγδεζηθικλμνξοπρςστυφχψωϊϋόύώ�"] },
   { proper := "iso8859_8"
     aliases := ["csisolatinhebrew", "hebrew", "iso_8859_8", "iso_8859_8_1988", "iso_ir_138"]
     rows := ["\u00a0�¢£¤¥¦§¨©×«¬\u00ad®¯°±²³´µ¶·¸¹÷»¼½¾�",
       "�������������������������������‗",
       "אבגדהוזחטיךכלםמןנסעףפץצקרשת��\u200e\u200f�"] },
   { proper := "iso8859_9"
     aliases := ["csisolatin5", "iso_8859_9", "iso_8859_9_1989", "iso_ir_148", "l5", "latin5"]
     rows := ["\u00a0¡¢£¤¥¦§¨©ª«¬\u00ad®¯°±²³´µ¶·¸¹º»¼½¾¿",
       "ÀÁÂÃÄÅÆÇÈÉÊËÌÍÎÏĞÑÒÓÔÕÖ×ØÙÚÛÜİŞß",
       "àáâãäåæçèéêëìíîïğñòóôõö÷øùúûüışÿ"] },
   { proper := "iso8859_10"
     aliases := ["csisolatin6", "iso_8859_10", "iso_8859_10_1992", "iso_ir_157", "l6", "latin6"]
     rows := ["\u00a0ĄĒĢĪĨĶ§ĻĐŠŦŽ\u00adŪŊ°ąēģīĩķ·ļđšŧž―ūŋ",
       "ĀÁÂÃÄÅÆĮČÉĘËĖÍÎÏÐŅŌÓÔÕÖŨØŲÚÛÜÝÞß",
       "āáâãäåæįčéęëėíîïðņōóôõöũøųúûüýþĸ"] },
   { proper := "iso8859_11"
     aliases := ["thai", "iso_8859_11", "iso_8859_11_2001"]
     rows := ["\u00a0กขฃคฅฆงจฉชซฌญฎฏฐฑฒณดตถทธนบปผฝพฟ",
       "ภมยรฤลฦวศษสหฬอฮฯะ\u0e31าำ\u0e34\u0e35\u0e36\u0e37\u0e38\u0e39\u0e3a����฿",
       "เแโใไๅๆ\u0e47\u0e48\u0e49\u0e4a\u0e4b\u0e4c\u0e4d\u0e4e๏๐๑๒๓๔๕๖๗๘๙๚๛����"] },
   { proper := "iso8859_13"
     aliases := ["iso_8859_13", "l7", "latin7"]
     rows := ["\u00a0”¢£¤„¦§Ø©Ŗ«¬\u00ad®Æ°±²³“µ¶·ø¹ŗ»¼½¾æ",
       "ĄĮĀĆÄÅĘĒČÉŹĖĢĶĪĻŠŃŅÓŌÕÖ×ŲŁŚŪÜŻŽß",
       "ąįāćäåęēčéźėģķīļšńņóōõö÷ųłśūüżž’"] },
   { proper := "iso8859_14"
     aliases := ["iso_8859_14", "iso_8859_14_1998", "iso_celtic", "iso_ir_199", "l8", "latin8"]
     rows := ["\u00a0Ḃḃ£ĊċḊ§Ẁ©ẂḋỲ\u00ad®ŸḞḟĠġṀṁ¶ṖẁṗẃṠỳẄẅṡ",
       "ÀÁÂÃÄÅÆÇÈÉÊËÌÍÎÏŴÑÒÓÔÕÖṪØÙÚÛÜÝŶß",
       "àáâãäåæçèéêëìíîïŵñòóôõöṫøùúûüýŷÿ"] },
   { proper := "iso8859_15"
     aliases := ["iso_8859_15", "l9", "latin9"]
     rows := ["\u00a0¡¢£€¥Š§š©ª«¬\u00ad®¯°±²³Žµ¶·ž¹º»ŒœŸ¿",
       "ÀÁÂÃÄÅÆÇÈÉÊËÌÍÎÏÐÑÒÓÔÕÖ×ØÙÚÛÜÝÞß",
       "àáâãäåæçèéêëìíîïðñòóôõö÷øùúûüýþÿ"] },
   { proper := "iso8859_16"
     aliases := ["iso_8859_16", "iso_8859_16_2001", "iso_ir_226", "l10", "latin10"]
     rows := ["\u00a0ĄąŁ€„Š§š©Ș«Ź\u00adźŻ°±ČłŽ”¶·žčș»ŒœŸż",
       "ÀÁÂĂÄĆÆÇÈÉÊËÌÍÎÏĐŃÒÓÔŐÖŚŰÙÚÛÜĘȚß",
       "àáâăäćæçèéêëìíîïđńòóôőöśűùúûüęțÿ"] }]

/-- The sets of KOI 8. -/
def koiSets : List SingleByte :=
  [{ proper := "koi8_r"
     aliases := ["cskoi8r"]
     rows := ["─│┌┐└┘├┤┬┴┼▀▄█▌▐░▒▓⌠■∙√≈≤≥\u00a0⌡°²·÷",
       "═║╒ё╓╔╕╖╗╘╙╚╛╜╝╞╟╠╡Ё╢╣╤╥╦╧╨╩╪╫╬©",
       "юабцдефгхийклмнопярстужвьызшэщчъ",
       "ЮАБЦДЕФГХИЙКЛМНОПЯРСТУЖВЬЫЗШЭЩЧЪ"] },
   { proper := "koi8_u"
     rows := ["─│┌┐└┘├┤┬┴┼▀▄█▌▐░▒▓⌠■∙√≈≤≥\u00a0⌡°²·÷",
       "═║╒ёє╔ії╗╘╙╚╛ґ╝╞╟╠╡ЁЄ╣ІЇ╦╧╨╩╪Ґ╬©",
       "юабцдефгхийклмнопярстужвьызшэщчъ",
       "ЮАБЦДЕФГХИЙКЛМНОПЯРСТУЖВЬЫЗШЭЩЧЪ"] }]

/-- The sets of Windows. -/
def windowsSets : List SingleByte :=
  [{ proper := "cp1250"
     aliases := ["1250", "windows_1250"]
     rows := ["€�‚�„…†‡�‰Š‹ŚŤŽŹ�‘’“”•–—�™š›śťžź",
       "\u00a0ˇ˘Ł¤Ą¦§¨©Ş«¬\u00ad®Ż°±˛ł´µ¶·¸ąş»Ľ˝ľż",
       "ŔÁÂĂÄĹĆÇČÉĘËĚÍÎĎĐŃŇÓÔŐÖ×ŘŮÚŰÜÝŢß",
       "ŕáâăäĺćçčéęëěíîďđńňóôőö÷řůúűüýţ˙"] },
   { proper := "cp1251"
     aliases := ["1251", "windows_1251"]
     rows := ["ЂЃ‚ѓ„…†‡€‰Љ‹ЊЌЋЏђ‘’“”•–—�™љ›њќћџ",
       "\u00a0ЎўЈ¤Ґ¦§Ё©Є«¬\u00ad®Ї°±Ііґµ¶·ё№є»јЅѕї",
       "АБВГДЕЖЗИЙКЛМНОПРСТУФХЦЧШЩЪЫЬЭЮЯ",
       "абвгдежзийклмнопрстуфхцчшщъыьэюя"] },
   { proper := "cp1252"
     aliases := ["1252", "windows_1252"]
     rows := ["€�‚ƒ„…†‡ˆ‰Š‹Œ�Ž��‘’“”•–—˜™š›œ�žŸ",
       "\u00a0¡¢£¤¥¦§¨©ª«¬\u00ad®¯°±²³´µ¶·¸¹º»¼½¾¿",
       "ÀÁÂÃÄÅÆÇÈÉÊËÌÍÎÏÐÑÒÓÔÕÖ×ØÙÚÛÜÝÞß",
       "àáâãäåæçèéêëìíîïðñòóôõö÷øùúûüýþÿ"] },
   { proper := "cp1253"
     aliases := ["1253", "windows_1253"]
     rows := ["€�‚ƒ„…†‡�‰�‹�����‘’“”•–—�™�›����",
       "\u00a0΅Ά£¤¥¦§¨©�«¬\u00ad®―°±²³΄µ¶·ΈΉΊ»Ό½ΎΏ",
       "ΐΑΒΓΔΕΖΗΘΙΚΛΜΝΞΟΠΡ�ΣΤΥΦΧΨΩΪΫάέήί",
       "ΰαβγδεζηθικλμνξοπρςστυφχψωϊϋόύώ�"] },
   { proper := "cp1254"
     aliases := ["1254", "windows_1254"]
     rows := ["€�‚ƒ„…†‡ˆ‰Š‹Œ����‘’“”•–—˜™š›œ��Ÿ",
       "\u00a0¡¢£¤¥¦§¨©ª«¬\u00ad®¯°±²³´µ¶·¸¹º»¼½¾¿",
       "ÀÁÂÃÄÅÆÇÈÉÊËÌÍÎÏĞÑÒÓÔÕÖ×ØÙÚÛÜİŞß",
       "àáâãäåæçèéêëìíîïğñòóôõö÷øùúûüışÿ"] },
   { proper := "cp1255"
     aliases := ["1255", "windows_1255"]
     rows := ["€�‚ƒ„…†‡ˆ‰�‹�����‘’“”•–—˜™�›����",
       "\u00a0¡¢£₪¥¦§¨©×«¬\u00ad®¯°±²³´µ¶·¸¹÷»¼½¾¿",
       "\u05b0\u05b1\u05b2\u05b3\u05b4\u05b5\u05b6\u05b7\u05b8\u05b9�\u05bb\u05bc\u05bd־" ++
         "\u05bf׀\u05c1\u05c2׃װױײ׳״�������",
       "אבגדהוזחטיךכלםמןנסעףפץצקרשת��\u200e\u200f�"] },
   { proper := "cp1256"
     aliases := ["1256", "windows_1256"]
     rows := ["€پ‚ƒ„…†‡ˆ‰ٹ‹Œچژڈگ‘’“”•–—ک™ڑ›œ\u200c\u200dں",
       "\u00a0،¢£¤¥¦§¨©ھ«¬\u00ad®¯°±²³´µ¶·¸¹؛»¼½¾؟",
       "ہءآأؤإئابةتثجحخدذرزسشصض×طظعغـفقك",
       "àلâمنهوçèéêëىيîï\u064b\u064c\u064d\u064eô\u064f\u0650÷\u0651ù\u0652ûü\u200e\u200fے"] },
   { proper := "cp1257"
     aliases := ["1257", "windows_1257"]
     rows := ["€�‚�„…†‡�‰�‹�¨ˇ¸�‘’“”•–—�™�›�¯˛�",
       "\u00a0�¢£¤�¦§Ø©Ŗ«¬\u00ad®Æ°±²³´µ¶·ø¹ŗ»¼½¾æ",
       "ĄĮĀĆÄÅĘĒČÉŹĖĢĶĪĻŠŃŅÓŌÕÖ×ŲŁŚŪÜŻŽß",
       "ąįāćäåęēčéźėģķīļšńņóōõö÷ųłśūüżž˙"] },
   { proper := "cp1258"
     aliases := ["1258", "windows_1258"]
     rows := ["€�‚ƒ„…†‡ˆ‰�‹Œ����‘’“”•–—˜™�›œ��Ÿ",
       "\u00a0¡¢£¤¥¦§¨©ª«¬\u00ad®¯°±²³´µ¶·¸¹º»¼½¾¿",
       "ÀÁÂĂÄÅÆÇÈÉÊË\u0300ÍÎÏĐÑ\u0309ÓÔƠÖ×ØÙÚÛÜƯ\u0303ß",
       "àáâăäåæçèéêë\u0301íîïđñ\u0323óôơö÷øùúûüư₫ÿ"] }]

end SingleByte

end Karaoke.Text
