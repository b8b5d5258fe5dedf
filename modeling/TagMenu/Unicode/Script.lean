import TagMenu.Unicode.ScriptTables
import TagMenu.Unicode.ScriptExtensionTables

namespace TagMenu.Unicode.Script

def shortNames : List (String × String) := [
  ("adlm", "adlam"), ("aghb", "caucasianalbanian"), ("arab", "arabic"),
  ("armi", "imperialaramaic"), ("armn", "armenian"), ("avst", "avestan"), ("bali", "balinese"),
  ("bamu", "bamum"), ("bass", "bassavah"), ("batk", "batak"), ("beng", "bengali"),
  ("bhks", "bhaiksuki"), ("bopo", "bopomofo"), ("brah", "brahmi"), ("brai", "braille"),
  ("bugi", "buginese"), ("buhd", "buhid"), ("cakm", "chakma"), ("cans", "canadianaboriginal"),
  ("cari", "carian"), ("cher", "cherokee"), ("chrs", "chorasmian"), ("copt", "coptic"),
  ("qaac", "coptic"), ("cpmn", "cyprominoan"), ("cprt", "cypriot"), ("cyrl", "cyrillic"),
  ("deva", "devanagari"), ("diak", "divesakuru"), ("dogr", "dogra"), ("dsrt", "deseret"),
  ("dupl", "duployan"), ("egyp", "egyptianhieroglyphs"), ("elba", "elbasan"), ("elym", "elymaic"),
  ("ethi", "ethiopic"), ("geor", "georgian"), ("glag", "glagolitic"), ("gong", "gunjalagondi"),
  ("gonm", "masaramgondi"), ("goth", "gothic"), ("gran", "grantha"), ("grek", "greek"),
  ("gujr", "gujarati"), ("guru", "gurmukhi"), ("hang", "hangul"), ("hani", "han"),
  ("hano", "hanunoo"), ("hatr", "hatran"), ("hebr", "hebrew"), ("hira", "hiragana"),
  ("hluw", "anatolianhieroglyphs"), ("hmng", "pahawhhmong"), ("hmnp", "nyiakengpuachuehmong"),
  ("hung", "oldhungarian"), ("ital", "olditalic"), ("java", "javanese"), ("kali", "kayahli"),
  ("kana", "katakana"), ("khar", "kharoshthi"), ("khmr", "khmer"), ("khoj", "khojki"),
  ("kits", "khitansmallscript"), ("knda", "kannada"), ("kthi", "kaithi"), ("lana", "taitham"),
  ("laoo", "lao"), ("latn", "latin"), ("lepc", "lepcha"), ("limb", "limbu"), ("lina", "lineara"),
  ("linb", "linearb"), ("lyci", "lycian"), ("lydi", "lydian"), ("mahj", "mahajani"),
  ("maka", "makasar"), ("mand", "mandaic"), ("mani", "manichaean"), ("marc", "marchen"),
  ("medf", "medefaidrin"), ("mend", "mendekikakui"), ("merc", "meroiticcursive"),
  ("mero", "meroitichieroglyphs"), ("mlym", "malayalam"), ("mong", "mongolian"), ("mroo", "mro"),
  ("mtei", "meeteimayek"), ("mult", "multani"), ("mymr", "myanmar"), ("nagm", "nagmundari"),
  ("nand", "nandinagari"), ("narb", "oldnortharabian"), ("nbat", "nabataean"), ("nkoo", "nko"),
  ("nshu", "nushu"), ("ogam", "ogham"), ("olck", "olchiki"), ("orkh", "oldturkic"),
  ("orya", "oriya"), ("osge", "osage"), ("osma", "osmanya"), ("ougr", "olduyghur"),
  ("palm", "palmyrene"), ("pauc", "paucinhau"), ("perm", "oldpermic"), ("phag", "phagspa"),
  ("phli", "inscriptionalpahlavi"), ("phlp", "psalterpahlavi"), ("phnx", "phoenician"),
  ("plrd", "miao"), ("prti", "inscriptionalparthian"), ("rjng", "rejang"),
  ("rohg", "hanifirohingya"), ("runr", "runic"), ("samr", "samaritan"),
  ("sarb", "oldsoutharabian"), ("saur", "saurashtra"), ("sgnw", "signwriting"),
  ("shaw", "shavian"), ("shrd", "sharada"), ("sidd", "siddham"), ("sind", "khudawadi"),
  ("sinh", "sinhala"), ("sogd", "sogdian"), ("sogo", "oldsogdian"), ("sora", "sorasompeng"),
  ("soyo", "soyombo"), ("sund", "sundanese"), ("sylo", "sylotinagri"), ("syrc", "syriac"),
  ("tagb", "tagbanwa"), ("takr", "takri"), ("tale", "taile"), ("talu", "newtailue"),
  ("taml", "tamil"), ("tang", "tangut"), ("tavt", "taiviet"), ("telu", "telugu"),
  ("tfng", "tifinagh"), ("tglg", "tagalog"), ("thaa", "thaana"), ("tibt", "tibetan"),
  ("tirh", "tirhuta"), ("tnsa", "tangsa"), ("ugar", "ugaritic"), ("vaii", "vai"),
  ("vith", "vithkuqi"), ("wara", "warangciti"), ("wcho", "wancho"), ("xpeo", "oldpersian"),
  ("xsux", "cuneiform"), ("yezi", "yezidi"), ("yiii", "yi"), ("zanb", "zanabazarsquare"),
  ("zinh", "inherited"), ("qaai", "inherited"), ("zyyy", "common"), ("gara", "garay"),
  ("gukh", "gurungkhema"), ("krai", "kiratrai"), ("onao", "olonal"), ("sunu", "sunuwar"),
  ("todr", "todhri"), ("tutg", "tulutigalari")]

def fullName (name : String) : String := (shortNames.lookup name).getD name

def codes? (name : String) : Option CodeSet :=
  (tables.lookup (fullName name)).map CodeSet.ofTable

def extendedCodes? (name : String) : Option CodeSet :=
  match extensionTables.lookup (fullName name) with
  | some table => some (CodeSet.ofTable table)
  | none => codes? name

end TagMenu.Unicode.Script
