import Gallery.Regex.CharClass

/-!
# `Gallery.Regex.Property.Script` — the scripts of characters

A character has one script at most; what several scripts use is common or inherited.  For some of
these characters, and for a few others, the scripts that use them are listed: their script extensions.
The extensions of every other character are its script.

## Contents
- `Script`, and `Script.named` with the names that ask for a script.
- `scriptRuns`, the scripts of the characters; `sharedRuns`, the listed script extensions.
- `CharClass.ofScript` and `CharClass.usedBy`, the characters of a script and those that it uses.
-/

namespace Gallery.Regex

open Gallery.Text

/-- A script. -/
inductive Script where
  | adlam | ahom | anatolianHieroglyphs | arabic | armenian | avestan | balinese | bamum | bassaVah
  | batak | bengali | beriaErfe | bhaiksuki | bopomofo | brahmi | braille | buginese | buhid
  | canadianAboriginal | carian | caucasianAlbanian | chakma | cham | cherokee | chorasmian | common
  | coptic | cuneiform | cypriot | cyproMinoan | cyrillic | deseret | devanagari | divesAkuru
  | dogra | duployan | egyptianHieroglyphs | elbasan | elymaic | ethiopic | garay | georgian
  | glagolitic | gothic | grantha | greek | gujarati | gunjalaGondi | gurmukhi | gurungKhema | han
  | hangul | hanifiRohingya | hanunoo | hatran | hebrew | hiragana | imperialAramaic | inherited
  | inscriptionalPahlavi | inscriptionalParthian | javanese | kaithi | kannada | katakana | kawi
  | kayahLi | kharoshthi | khitanSmallScript | khmer | khojki | khudawadi | kiratRai | lao | latin
  | lepcha | limbu | linearA | linearB | lisu | lycian | lydian | mahajani | makasar | malayalam
  | mandaic | manichaean | marchen | masaramGondi | medefaidrin | meeteiMayek | mendeKikakui
  | meroiticCursive | meroiticHieroglyphs | miao | modi | mongolian | mro | multani | myanmar
  | nabataean | nagMundari | nandinagari | newTaiLue | newa | nko | nushu | nyiakengPuachueHmong
  | ogham | olChiki | olOnal | oldHungarian | oldItalic | oldNorthArabian | oldPermic | oldPersian
  | oldSogdian | oldSouthArabian | oldTurkic | oldUyghur | oriya | osage | osmanya | pahawhHmong
  | palmyrene | pauCinHau | phagsPa | phoenician | psalterPahlavi | rejang | runic | samaritan
  | saurashtra | sharada | shavian | siddham | sidetic | signWriting | sinhala | sogdian
  | soraSompeng | soyombo | sundanese | sunuwar | sylotiNagri | syriac | tagalog | tagbanwa | taiLe
  | taiTham | taiViet | taiYo | takri | tamil | tangsa | tangut | telugu | thaana | thai | tibetan
  | tifinagh | tirhuta | todhri | tolongSiki | toto | tuluTigalari | ugaritic | vai | vithkuqi
  | wancho | warangCiti | yezidi | yi | zanabazarSquare
  deriving DecidableEq, Repr

/-- The scripts with their short and long names, in lower case without low lines. -/
def Script.named : List (List String × Script) := [
  (["adlm", "adlam"], .adlam), (["ahom"], .ahom),
  (["hluw", "anatolianhieroglyphs"], .anatolianHieroglyphs), (["arab", "arabic"], .arabic),
  (["armn", "armenian"], .armenian), (["avst", "avestan"], .avestan),
  (["bali", "balinese"], .balinese), (["bamu", "bamum"], .bamum), (["bass", "bassavah"], .bassaVah),
  (["batk", "batak"], .batak), (["beng", "bengali"], .bengali), (["berf", "beriaerfe"], .beriaErfe),
  (["bhks", "bhaiksuki"], .bhaiksuki), (["bopo", "bopomofo"], .bopomofo),
  (["brah", "brahmi"], .brahmi), (["brai", "braille"], .braille), (["bugi", "buginese"], .buginese),
  (["buhd", "buhid"], .buhid), (["cans", "canadianaboriginal"], .canadianAboriginal),
  (["cari", "carian"], .carian), (["aghb", "caucasianalbanian"], .caucasianAlbanian),
  (["cakm", "chakma"], .chakma), (["cham"], .cham), (["cher", "cherokee"], .cherokee),
  (["chrs", "chorasmian"], .chorasmian), (["zyyy", "common"], .common),
  (["copt", "coptic", "qaac"], .coptic), (["xsux", "cuneiform"], .cuneiform),
  (["cprt", "cypriot"], .cypriot), (["cpmn", "cyprominoan"], .cyproMinoan),
  (["cyrl", "cyrillic"], .cyrillic), (["dsrt", "deseret"], .deseret),
  (["deva", "devanagari"], .devanagari), (["diak", "divesakuru"], .divesAkuru),
  (["dogr", "dogra"], .dogra), (["dupl", "duployan"], .duployan),
  (["egyp", "egyptianhieroglyphs"], .egyptianHieroglyphs), (["elba", "elbasan"], .elbasan),
  (["elym", "elymaic"], .elymaic), (["ethi", "ethiopic"], .ethiopic), (["gara", "garay"], .garay),
  (["geor", "georgian"], .georgian), (["glag", "glagolitic"], .glagolitic),
  (["goth", "gothic"], .gothic), (["gran", "grantha"], .grantha), (["grek", "greek"], .greek),
  (["gujr", "gujarati"], .gujarati), (["gong", "gunjalagondi"], .gunjalaGondi),
  (["guru", "gurmukhi"], .gurmukhi), (["gukh", "gurungkhema"], .gurungKhema),
  (["hani", "han"], .han), (["hang", "hangul"], .hangul),
  (["rohg", "hanifirohingya"], .hanifiRohingya), (["hano", "hanunoo"], .hanunoo),
  (["hatr", "hatran"], .hatran), (["hebr", "hebrew"], .hebrew), (["hira", "hiragana"], .hiragana),
  (["armi", "imperialaramaic"], .imperialAramaic), (["zinh", "inherited", "qaai"], .inherited),
  (["phli", "inscriptionalpahlavi"], .inscriptionalPahlavi),
  (["prti", "inscriptionalparthian"], .inscriptionalParthian), (["java", "javanese"], .javanese),
  (["kthi", "kaithi"], .kaithi), (["knda", "kannada"], .kannada), (["kana", "katakana"], .katakana),
  (["kawi"], .kawi), (["kali", "kayahli"], .kayahLi), (["khar", "kharoshthi"], .kharoshthi),
  (["kits", "khitansmallscript"], .khitanSmallScript), (["khmr", "khmer"], .khmer),
  (["khoj", "khojki"], .khojki), (["sind", "khudawadi"], .khudawadi),
  (["krai", "kiratrai"], .kiratRai), (["laoo", "lao"], .lao), (["latn", "latin"], .latin),
  (["lepc", "lepcha"], .lepcha), (["limb", "limbu"], .limbu), (["lina", "lineara"], .linearA),
  (["linb", "linearb"], .linearB), (["lisu"], .lisu), (["lyci", "lycian"], .lycian),
  (["lydi", "lydian"], .lydian), (["mahj", "mahajani"], .mahajani), (["maka", "makasar"], .makasar),
  (["mlym", "malayalam"], .malayalam), (["mand", "mandaic"], .mandaic),
  (["mani", "manichaean"], .manichaean), (["marc", "marchen"], .marchen),
  (["gonm", "masaramgondi"], .masaramGondi), (["medf", "medefaidrin"], .medefaidrin),
  (["mtei", "meeteimayek"], .meeteiMayek), (["mend", "mendekikakui"], .mendeKikakui),
  (["merc", "meroiticcursive"], .meroiticCursive),
  (["mero", "meroitichieroglyphs"], .meroiticHieroglyphs), (["plrd", "miao"], .miao),
  (["modi"], .modi), (["mong", "mongolian"], .mongolian), (["mroo", "mro"], .mro),
  (["mult", "multani"], .multani), (["mymr", "myanmar"], .myanmar),
  (["nbat", "nabataean"], .nabataean), (["nagm", "nagmundari"], .nagMundari),
  (["nand", "nandinagari"], .nandinagari), (["talu", "newtailue"], .newTaiLue), (["newa"], .newa),
  (["nkoo", "nko"], .nko), (["nshu", "nushu"], .nushu),
  (["hmnp", "nyiakengpuachuehmong"], .nyiakengPuachueHmong), (["ogam", "ogham"], .ogham),
  (["olck", "olchiki"], .olChiki), (["onao", "olonal"], .olOnal),
  (["hung", "oldhungarian"], .oldHungarian), (["ital", "olditalic"], .oldItalic),
  (["narb", "oldnortharabian"], .oldNorthArabian), (["perm", "oldpermic"], .oldPermic),
  (["xpeo", "oldpersian"], .oldPersian), (["sogo", "oldsogdian"], .oldSogdian),
  (["sarb", "oldsoutharabian"], .oldSouthArabian), (["orkh", "oldturkic"], .oldTurkic),
  (["ougr", "olduyghur"], .oldUyghur), (["orya", "oriya"], .oriya), (["osge", "osage"], .osage),
  (["osma", "osmanya"], .osmanya), (["hmng", "pahawhhmong"], .pahawhHmong),
  (["palm", "palmyrene"], .palmyrene), (["pauc", "paucinhau"], .pauCinHau),
  (["phag", "phagspa"], .phagsPa), (["phnx", "phoenician"], .phoenician),
  (["phlp", "psalterpahlavi"], .psalterPahlavi), (["rjng", "rejang"], .rejang),
  (["runr", "runic"], .runic), (["samr", "samaritan"], .samaritan),
  (["saur", "saurashtra"], .saurashtra), (["shrd", "sharada"], .sharada),
  (["shaw", "shavian"], .shavian), (["sidd", "siddham"], .siddham), (["sidt", "sidetic"], .sidetic),
  (["sgnw", "signwriting"], .signWriting), (["sinh", "sinhala"], .sinhala),
  (["sogd", "sogdian"], .sogdian), (["sora", "sorasompeng"], .soraSompeng),
  (["soyo", "soyombo"], .soyombo), (["sund", "sundanese"], .sundanese),
  (["sunu", "sunuwar"], .sunuwar), (["sylo", "sylotinagri"], .sylotiNagri),
  (["syrc", "syriac"], .syriac), (["tglg", "tagalog"], .tagalog), (["tagb", "tagbanwa"], .tagbanwa),
  (["tale", "taile"], .taiLe), (["lana", "taitham"], .taiTham), (["tavt", "taiviet"], .taiViet),
  (["tayo", "taiyo"], .taiYo), (["takr", "takri"], .takri), (["taml", "tamil"], .tamil),
  (["tnsa", "tangsa"], .tangsa), (["tang", "tangut"], .tangut), (["telu", "telugu"], .telugu),
  (["thaa", "thaana"], .thaana), (["thai"], .thai), (["tibt", "tibetan"], .tibetan),
  (["tfng", "tifinagh"], .tifinagh), (["tirh", "tirhuta"], .tirhuta), (["todr", "todhri"], .todhri),
  (["tols", "tolongsiki"], .tolongSiki), (["toto"], .toto),
  (["tutg", "tulutigalari"], .tuluTigalari), (["ugar", "ugaritic"], .ugaritic),
  (["vaii", "vai"], .vai), (["vith", "vithkuqi"], .vithkuqi), (["wcho", "wancho"], .wancho),
  (["wara", "warangciti"], .warangCiti), (["yezi", "yezidi"], .yezidi), (["yiii", "yi"], .yi),
  (["zanb", "zanabazarsquare"], .zanabazarSquare)]

/-- The characters of each script, in order. -/
def scriptRuns : List (ValueRun Script) := [
  ⟨0x0, 0x40, .common⟩, ⟨0x41, 0x5A, .latin⟩, ⟨0x5B, 0x60, .common⟩, ⟨0x61, 0x7A, .latin⟩,
  ⟨0x7B, 0xA9, .common⟩, ⟨0xAA, 0xAA, .latin⟩, ⟨0xAB, 0xB9, .common⟩, ⟨0xBA, 0xBA, .latin⟩,
  ⟨0xBB, 0xBF, .common⟩, ⟨0xC0, 0xD6, .latin⟩, ⟨0xD7, 0xD7, .common⟩, ⟨0xD8, 0xF6, .latin⟩,
  ⟨0xF7, 0xF7, .common⟩, ⟨0xF8, 0x2B8, .latin⟩, ⟨0x2B9, 0x2DF, .common⟩, ⟨0x2E0, 0x2E4, .latin⟩,
  ⟨0x2E5, 0x2E9, .common⟩, ⟨0x2EA, 0x2EB, .bopomofo⟩, ⟨0x2EC, 0x2FF, .common⟩,
  ⟨0x300, 0x36F, .inherited⟩, ⟨0x370, 0x373, .greek⟩, ⟨0x374, 0x374, .common⟩,
  ⟨0x375, 0x377, .greek⟩, ⟨0x37A, 0x37D, .greek⟩, ⟨0x37E, 0x37E, .common⟩, ⟨0x37F, 0x37F, .greek⟩,
  ⟨0x384, 0x384, .greek⟩, ⟨0x385, 0x385, .common⟩, ⟨0x386, 0x386, .greek⟩, ⟨0x387, 0x387, .common⟩,
  ⟨0x388, 0x38A, .greek⟩, ⟨0x38C, 0x38C, .greek⟩, ⟨0x38E, 0x3A1, .greek⟩, ⟨0x3A3, 0x3E1, .greek⟩,
  ⟨0x3E2, 0x3EF, .coptic⟩, ⟨0x3F0, 0x3FF, .greek⟩, ⟨0x400, 0x484, .cyrillic⟩,
  ⟨0x485, 0x486, .inherited⟩, ⟨0x487, 0x52F, .cyrillic⟩, ⟨0x531, 0x556, .armenian⟩,
  ⟨0x559, 0x58A, .armenian⟩, ⟨0x58D, 0x58F, .armenian⟩, ⟨0x591, 0x5C7, .hebrew⟩,
  ⟨0x5D0, 0x5EA, .hebrew⟩, ⟨0x5EF, 0x5F4, .hebrew⟩, ⟨0x600, 0x604, .arabic⟩,
  ⟨0x605, 0x605, .common⟩, ⟨0x606, 0x60B, .arabic⟩, ⟨0x60C, 0x60C, .common⟩,
  ⟨0x60D, 0x61A, .arabic⟩, ⟨0x61B, 0x61B, .common⟩, ⟨0x61C, 0x61E, .arabic⟩,
  ⟨0x61F, 0x61F, .common⟩, ⟨0x620, 0x63F, .arabic⟩, ⟨0x640, 0x640, .common⟩,
  ⟨0x641, 0x64A, .arabic⟩, ⟨0x64B, 0x655, .inherited⟩, ⟨0x656, 0x66F, .arabic⟩,
  ⟨0x670, 0x670, .inherited⟩, ⟨0x671, 0x6DC, .arabic⟩, ⟨0x6DD, 0x6DD, .common⟩,
  ⟨0x6DE, 0x6FF, .arabic⟩, ⟨0x700, 0x70D, .syriac⟩, ⟨0x70F, 0x74A, .syriac⟩,
  ⟨0x74D, 0x74F, .syriac⟩, ⟨0x750, 0x77F, .arabic⟩, ⟨0x780, 0x7B1, .thaana⟩, ⟨0x7C0, 0x7FA, .nko⟩,
  ⟨0x7FD, 0x7FF, .nko⟩, ⟨0x800, 0x82D, .samaritan⟩, ⟨0x830, 0x83E, .samaritan⟩,
  ⟨0x840, 0x85B, .mandaic⟩, ⟨0x85E, 0x85E, .mandaic⟩, ⟨0x860, 0x86A, .syriac⟩,
  ⟨0x870, 0x891, .arabic⟩, ⟨0x897, 0x8E1, .arabic⟩, ⟨0x8E2, 0x8E2, .common⟩,
  ⟨0x8E3, 0x8FF, .arabic⟩, ⟨0x900, 0x950, .devanagari⟩, ⟨0x951, 0x954, .inherited⟩,
  ⟨0x955, 0x963, .devanagari⟩, ⟨0x964, 0x965, .common⟩, ⟨0x966, 0x97F, .devanagari⟩,
  ⟨0x980, 0x983, .bengali⟩, ⟨0x985, 0x98C, .bengali⟩, ⟨0x98F, 0x990, .bengali⟩,
  ⟨0x993, 0x9A8, .bengali⟩, ⟨0x9AA, 0x9B0, .bengali⟩, ⟨0x9B2, 0x9B2, .bengali⟩,
  ⟨0x9B6, 0x9B9, .bengali⟩, ⟨0x9BC, 0x9C4, .bengali⟩, ⟨0x9C7, 0x9C8, .bengali⟩,
  ⟨0x9CB, 0x9CE, .bengali⟩, ⟨0x9D7, 0x9D7, .bengali⟩, ⟨0x9DC, 0x9DD, .bengali⟩,
  ⟨0x9DF, 0x9E3, .bengali⟩, ⟨0x9E6, 0x9FE, .bengali⟩, ⟨0xA01, 0xA03, .gurmukhi⟩,
  ⟨0xA05, 0xA0A, .gurmukhi⟩, ⟨0xA0F, 0xA10, .gurmukhi⟩, ⟨0xA13, 0xA28, .gurmukhi⟩,
  ⟨0xA2A, 0xA30, .gurmukhi⟩, ⟨0xA32, 0xA33, .gurmukhi⟩, ⟨0xA35, 0xA36, .gurmukhi⟩,
  ⟨0xA38, 0xA39, .gurmukhi⟩, ⟨0xA3C, 0xA3C, .gurmukhi⟩, ⟨0xA3E, 0xA42, .gurmukhi⟩,
  ⟨0xA47, 0xA48, .gurmukhi⟩, ⟨0xA4B, 0xA4D, .gurmukhi⟩, ⟨0xA51, 0xA51, .gurmukhi⟩,
  ⟨0xA59, 0xA5C, .gurmukhi⟩, ⟨0xA5E, 0xA5E, .gurmukhi⟩, ⟨0xA66, 0xA76, .gurmukhi⟩,
  ⟨0xA81, 0xA83, .gujarati⟩, ⟨0xA85, 0xA8D, .gujarati⟩, ⟨0xA8F, 0xA91, .gujarati⟩,
  ⟨0xA93, 0xAA8, .gujarati⟩, ⟨0xAAA, 0xAB0, .gujarati⟩, ⟨0xAB2, 0xAB3, .gujarati⟩,
  ⟨0xAB5, 0xAB9, .gujarati⟩, ⟨0xABC, 0xAC5, .gujarati⟩, ⟨0xAC7, 0xAC9, .gujarati⟩,
  ⟨0xACB, 0xACD, .gujarati⟩, ⟨0xAD0, 0xAD0, .gujarati⟩, ⟨0xAE0, 0xAE3, .gujarati⟩,
  ⟨0xAE6, 0xAF1, .gujarati⟩, ⟨0xAF9, 0xAFF, .gujarati⟩, ⟨0xB01, 0xB03, .oriya⟩,
  ⟨0xB05, 0xB0C, .oriya⟩, ⟨0xB0F, 0xB10, .oriya⟩, ⟨0xB13, 0xB28, .oriya⟩, ⟨0xB2A, 0xB30, .oriya⟩,
  ⟨0xB32, 0xB33, .oriya⟩, ⟨0xB35, 0xB39, .oriya⟩, ⟨0xB3C, 0xB44, .oriya⟩, ⟨0xB47, 0xB48, .oriya⟩,
  ⟨0xB4B, 0xB4D, .oriya⟩, ⟨0xB55, 0xB57, .oriya⟩, ⟨0xB5C, 0xB5D, .oriya⟩, ⟨0xB5F, 0xB63, .oriya⟩,
  ⟨0xB66, 0xB77, .oriya⟩, ⟨0xB82, 0xB83, .tamil⟩, ⟨0xB85, 0xB8A, .tamil⟩, ⟨0xB8E, 0xB90, .tamil⟩,
  ⟨0xB92, 0xB95, .tamil⟩, ⟨0xB99, 0xB9A, .tamil⟩, ⟨0xB9C, 0xB9C, .tamil⟩, ⟨0xB9E, 0xB9F, .tamil⟩,
  ⟨0xBA3, 0xBA4, .tamil⟩, ⟨0xBA8, 0xBAA, .tamil⟩, ⟨0xBAE, 0xBB9, .tamil⟩, ⟨0xBBE, 0xBC2, .tamil⟩,
  ⟨0xBC6, 0xBC8, .tamil⟩, ⟨0xBCA, 0xBCD, .tamil⟩, ⟨0xBD0, 0xBD0, .tamil⟩, ⟨0xBD7, 0xBD7, .tamil⟩,
  ⟨0xBE6, 0xBFA, .tamil⟩, ⟨0xC00, 0xC0C, .telugu⟩, ⟨0xC0E, 0xC10, .telugu⟩, ⟨0xC12, 0xC28, .telugu⟩,
  ⟨0xC2A, 0xC39, .telugu⟩, ⟨0xC3C, 0xC44, .telugu⟩, ⟨0xC46, 0xC48, .telugu⟩,
  ⟨0xC4A, 0xC4D, .telugu⟩, ⟨0xC55, 0xC56, .telugu⟩, ⟨0xC58, 0xC5A, .telugu⟩,
  ⟨0xC5C, 0xC5D, .telugu⟩, ⟨0xC60, 0xC63, .telugu⟩, ⟨0xC66, 0xC6F, .telugu⟩,
  ⟨0xC77, 0xC7F, .telugu⟩, ⟨0xC80, 0xC8C, .kannada⟩, ⟨0xC8E, 0xC90, .kannada⟩,
  ⟨0xC92, 0xCA8, .kannada⟩, ⟨0xCAA, 0xCB3, .kannada⟩, ⟨0xCB5, 0xCB9, .kannada⟩,
  ⟨0xCBC, 0xCC4, .kannada⟩, ⟨0xCC6, 0xCC8, .kannada⟩, ⟨0xCCA, 0xCCD, .kannada⟩,
  ⟨0xCD5, 0xCD6, .kannada⟩, ⟨0xCDC, 0xCDE, .kannada⟩, ⟨0xCE0, 0xCE3, .kannada⟩,
  ⟨0xCE6, 0xCEF, .kannada⟩, ⟨0xCF1, 0xCF3, .kannada⟩, ⟨0xD00, 0xD0C, .malayalam⟩,
  ⟨0xD0E, 0xD10, .malayalam⟩, ⟨0xD12, 0xD44, .malayalam⟩, ⟨0xD46, 0xD48, .malayalam⟩,
  ⟨0xD4A, 0xD4F, .malayalam⟩, ⟨0xD54, 0xD63, .malayalam⟩, ⟨0xD66, 0xD7F, .malayalam⟩,
  ⟨0xD81, 0xD83, .sinhala⟩, ⟨0xD85, 0xD96, .sinhala⟩, ⟨0xD9A, 0xDB1, .sinhala⟩,
  ⟨0xDB3, 0xDBB, .sinhala⟩, ⟨0xDBD, 0xDBD, .sinhala⟩, ⟨0xDC0, 0xDC6, .sinhala⟩,
  ⟨0xDCA, 0xDCA, .sinhala⟩, ⟨0xDCF, 0xDD4, .sinhala⟩, ⟨0xDD6, 0xDD6, .sinhala⟩,
  ⟨0xDD8, 0xDDF, .sinhala⟩, ⟨0xDE6, 0xDEF, .sinhala⟩, ⟨0xDF2, 0xDF4, .sinhala⟩,
  ⟨0xE01, 0xE3A, .thai⟩, ⟨0xE3F, 0xE3F, .common⟩, ⟨0xE40, 0xE5B, .thai⟩, ⟨0xE81, 0xE82, .lao⟩,
  ⟨0xE84, 0xE84, .lao⟩, ⟨0xE86, 0xE8A, .lao⟩, ⟨0xE8C, 0xEA3, .lao⟩, ⟨0xEA5, 0xEA5, .lao⟩,
  ⟨0xEA7, 0xEBD, .lao⟩, ⟨0xEC0, 0xEC4, .lao⟩, ⟨0xEC6, 0xEC6, .lao⟩, ⟨0xEC8, 0xECE, .lao⟩,
  ⟨0xED0, 0xED9, .lao⟩, ⟨0xEDC, 0xEDF, .lao⟩, ⟨0xF00, 0xF47, .tibetan⟩, ⟨0xF49, 0xF6C, .tibetan⟩,
  ⟨0xF71, 0xF97, .tibetan⟩, ⟨0xF99, 0xFBC, .tibetan⟩, ⟨0xFBE, 0xFCC, .tibetan⟩,
  ⟨0xFCE, 0xFD4, .tibetan⟩, ⟨0xFD5, 0xFD8, .common⟩, ⟨0xFD9, 0xFDA, .tibetan⟩,
  ⟨0x1000, 0x109F, .myanmar⟩, ⟨0x10A0, 0x10C5, .georgian⟩, ⟨0x10C7, 0x10C7, .georgian⟩,
  ⟨0x10CD, 0x10CD, .georgian⟩, ⟨0x10D0, 0x10FA, .georgian⟩, ⟨0x10FB, 0x10FB, .common⟩,
  ⟨0x10FC, 0x10FF, .georgian⟩, ⟨0x1100, 0x11FF, .hangul⟩, ⟨0x1200, 0x1248, .ethiopic⟩,
  ⟨0x124A, 0x124D, .ethiopic⟩, ⟨0x1250, 0x1256, .ethiopic⟩, ⟨0x1258, 0x1258, .ethiopic⟩,
  ⟨0x125A, 0x125D, .ethiopic⟩, ⟨0x1260, 0x1288, .ethiopic⟩, ⟨0x128A, 0x128D, .ethiopic⟩,
  ⟨0x1290, 0x12B0, .ethiopic⟩, ⟨0x12B2, 0x12B5, .ethiopic⟩, ⟨0x12B8, 0x12BE, .ethiopic⟩,
  ⟨0x12C0, 0x12C0, .ethiopic⟩, ⟨0x12C2, 0x12C5, .ethiopic⟩, ⟨0x12C8, 0x12D6, .ethiopic⟩,
  ⟨0x12D8, 0x1310, .ethiopic⟩, ⟨0x1312, 0x1315, .ethiopic⟩, ⟨0x1318, 0x135A, .ethiopic⟩,
  ⟨0x135D, 0x137C, .ethiopic⟩, ⟨0x1380, 0x1399, .ethiopic⟩, ⟨0x13A0, 0x13F5, .cherokee⟩,
  ⟨0x13F8, 0x13FD, .cherokee⟩, ⟨0x1400, 0x167F, .canadianAboriginal⟩, ⟨0x1680, 0x169C, .ogham⟩,
  ⟨0x16A0, 0x16EA, .runic⟩, ⟨0x16EB, 0x16ED, .common⟩, ⟨0x16EE, 0x16F8, .runic⟩,
  ⟨0x1700, 0x1715, .tagalog⟩, ⟨0x171F, 0x171F, .tagalog⟩, ⟨0x1720, 0x1734, .hanunoo⟩,
  ⟨0x1735, 0x1736, .common⟩, ⟨0x1740, 0x1753, .buhid⟩, ⟨0x1760, 0x176C, .tagbanwa⟩,
  ⟨0x176E, 0x1770, .tagbanwa⟩, ⟨0x1772, 0x1773, .tagbanwa⟩, ⟨0x1780, 0x17DD, .khmer⟩,
  ⟨0x17E0, 0x17E9, .khmer⟩, ⟨0x17F0, 0x17F9, .khmer⟩, ⟨0x1800, 0x1801, .mongolian⟩,
  ⟨0x1802, 0x1803, .common⟩, ⟨0x1804, 0x1804, .mongolian⟩, ⟨0x1805, 0x1805, .common⟩,
  ⟨0x1806, 0x1819, .mongolian⟩, ⟨0x1820, 0x1878, .mongolian⟩, ⟨0x1880, 0x18AA, .mongolian⟩,
  ⟨0x18B0, 0x18F5, .canadianAboriginal⟩, ⟨0x1900, 0x191E, .limbu⟩, ⟨0x1920, 0x192B, .limbu⟩,
  ⟨0x1930, 0x193B, .limbu⟩, ⟨0x1940, 0x1940, .limbu⟩, ⟨0x1944, 0x194F, .limbu⟩,
  ⟨0x1950, 0x196D, .taiLe⟩, ⟨0x1970, 0x1974, .taiLe⟩, ⟨0x1980, 0x19AB, .newTaiLue⟩,
  ⟨0x19B0, 0x19C9, .newTaiLue⟩, ⟨0x19D0, 0x19DA, .newTaiLue⟩, ⟨0x19DE, 0x19DF, .newTaiLue⟩,
  ⟨0x19E0, 0x19FF, .khmer⟩, ⟨0x1A00, 0x1A1B, .buginese⟩, ⟨0x1A1E, 0x1A1F, .buginese⟩,
  ⟨0x1A20, 0x1A5E, .taiTham⟩, ⟨0x1A60, 0x1A7C, .taiTham⟩, ⟨0x1A7F, 0x1A89, .taiTham⟩,
  ⟨0x1A90, 0x1A99, .taiTham⟩, ⟨0x1AA0, 0x1AAD, .taiTham⟩, ⟨0x1AB0, 0x1ADD, .inherited⟩,
  ⟨0x1AE0, 0x1AEB, .inherited⟩, ⟨0x1B00, 0x1B4C, .balinese⟩, ⟨0x1B4E, 0x1B7F, .balinese⟩,
  ⟨0x1B80, 0x1BBF, .sundanese⟩, ⟨0x1BC0, 0x1BF3, .batak⟩, ⟨0x1BFC, 0x1BFF, .batak⟩,
  ⟨0x1C00, 0x1C37, .lepcha⟩, ⟨0x1C3B, 0x1C49, .lepcha⟩, ⟨0x1C4D, 0x1C4F, .lepcha⟩,
  ⟨0x1C50, 0x1C7F, .olChiki⟩, ⟨0x1C80, 0x1C8A, .cyrillic⟩, ⟨0x1C90, 0x1CBA, .georgian⟩,
  ⟨0x1CBD, 0x1CBF, .georgian⟩, ⟨0x1CC0, 0x1CC7, .sundanese⟩, ⟨0x1CD0, 0x1CD2, .inherited⟩,
  ⟨0x1CD3, 0x1CD3, .common⟩, ⟨0x1CD4, 0x1CE0, .inherited⟩, ⟨0x1CE1, 0x1CE1, .common⟩,
  ⟨0x1CE2, 0x1CE8, .inherited⟩, ⟨0x1CE9, 0x1CEC, .common⟩, ⟨0x1CED, 0x1CED, .inherited⟩,
  ⟨0x1CEE, 0x1CF3, .common⟩, ⟨0x1CF4, 0x1CF4, .inherited⟩, ⟨0x1CF5, 0x1CF7, .common⟩,
  ⟨0x1CF8, 0x1CF9, .inherited⟩, ⟨0x1CFA, 0x1CFA, .common⟩, ⟨0x1D00, 0x1D25, .latin⟩,
  ⟨0x1D26, 0x1D2A, .greek⟩, ⟨0x1D2B, 0x1D2B, .cyrillic⟩, ⟨0x1D2C, 0x1D5C, .latin⟩,
  ⟨0x1D5D, 0x1D61, .greek⟩, ⟨0x1D62, 0x1D65, .latin⟩, ⟨0x1D66, 0x1D6A, .greek⟩,
  ⟨0x1D6B, 0x1D77, .latin⟩, ⟨0x1D78, 0x1D78, .cyrillic⟩, ⟨0x1D79, 0x1DBE, .latin⟩,
  ⟨0x1DBF, 0x1DBF, .greek⟩, ⟨0x1DC0, 0x1DFF, .inherited⟩, ⟨0x1E00, 0x1EFF, .latin⟩,
  ⟨0x1F00, 0x1F15, .greek⟩, ⟨0x1F18, 0x1F1D, .greek⟩, ⟨0x1F20, 0x1F45, .greek⟩,
  ⟨0x1F48, 0x1F4D, .greek⟩, ⟨0x1F50, 0x1F57, .greek⟩, ⟨0x1F59, 0x1F59, .greek⟩,
  ⟨0x1F5B, 0x1F5B, .greek⟩, ⟨0x1F5D, 0x1F5D, .greek⟩, ⟨0x1F5F, 0x1F7D, .greek⟩,
  ⟨0x1F80, 0x1FB4, .greek⟩, ⟨0x1FB6, 0x1FC4, .greek⟩, ⟨0x1FC6, 0x1FD3, .greek⟩,
  ⟨0x1FD6, 0x1FDB, .greek⟩, ⟨0x1FDD, 0x1FEF, .greek⟩, ⟨0x1FF2, 0x1FF4, .greek⟩,
  ⟨0x1FF6, 0x1FFE, .greek⟩, ⟨0x2000, 0x200B, .common⟩, ⟨0x200C, 0x200D, .inherited⟩,
  ⟨0x200E, 0x2064, .common⟩, ⟨0x2066, 0x2070, .common⟩, ⟨0x2071, 0x2071, .latin⟩,
  ⟨0x2074, 0x207E, .common⟩, ⟨0x207F, 0x207F, .latin⟩, ⟨0x2080, 0x208E, .common⟩,
  ⟨0x2090, 0x209C, .latin⟩, ⟨0x20A0, 0x20C1, .common⟩, ⟨0x20D0, 0x20F0, .inherited⟩,
  ⟨0x2100, 0x2125, .common⟩, ⟨0x2126, 0x2126, .greek⟩, ⟨0x2127, 0x2129, .common⟩,
  ⟨0x212A, 0x212B, .latin⟩, ⟨0x212C, 0x2131, .common⟩, ⟨0x2132, 0x2132, .latin⟩,
  ⟨0x2133, 0x214D, .common⟩, ⟨0x214E, 0x214E, .latin⟩, ⟨0x214F, 0x215F, .common⟩,
  ⟨0x2160, 0x2188, .latin⟩, ⟨0x2189, 0x218B, .common⟩, ⟨0x2190, 0x2429, .common⟩,
  ⟨0x2440, 0x244A, .common⟩, ⟨0x2460, 0x27FF, .common⟩, ⟨0x2800, 0x28FF, .braille⟩,
  ⟨0x2900, 0x2B73, .common⟩, ⟨0x2B76, 0x2BFF, .common⟩, ⟨0x2C00, 0x2C5F, .glagolitic⟩,
  ⟨0x2C60, 0x2C7F, .latin⟩, ⟨0x2C80, 0x2CF3, .coptic⟩, ⟨0x2CF9, 0x2CFF, .coptic⟩,
  ⟨0x2D00, 0x2D25, .georgian⟩, ⟨0x2D27, 0x2D27, .georgian⟩, ⟨0x2D2D, 0x2D2D, .georgian⟩,
  ⟨0x2D30, 0x2D67, .tifinagh⟩, ⟨0x2D6F, 0x2D70, .tifinagh⟩, ⟨0x2D7F, 0x2D7F, .tifinagh⟩,
  ⟨0x2D80, 0x2D96, .ethiopic⟩, ⟨0x2DA0, 0x2DA6, .ethiopic⟩, ⟨0x2DA8, 0x2DAE, .ethiopic⟩,
  ⟨0x2DB0, 0x2DB6, .ethiopic⟩, ⟨0x2DB8, 0x2DBE, .ethiopic⟩, ⟨0x2DC0, 0x2DC6, .ethiopic⟩,
  ⟨0x2DC8, 0x2DCE, .ethiopic⟩, ⟨0x2DD0, 0x2DD6, .ethiopic⟩, ⟨0x2DD8, 0x2DDE, .ethiopic⟩,
  ⟨0x2DE0, 0x2DFF, .cyrillic⟩, ⟨0x2E00, 0x2E5D, .common⟩, ⟨0x2E80, 0x2E99, .han⟩,
  ⟨0x2E9B, 0x2EF3, .han⟩, ⟨0x2F00, 0x2FD5, .han⟩, ⟨0x2FF0, 0x3004, .common⟩, ⟨0x3005, 0x3005, .han⟩,
  ⟨0x3006, 0x3006, .common⟩, ⟨0x3007, 0x3007, .han⟩, ⟨0x3008, 0x3020, .common⟩,
  ⟨0x3021, 0x3029, .han⟩, ⟨0x302A, 0x302D, .inherited⟩, ⟨0x302E, 0x302F, .hangul⟩,
  ⟨0x3030, 0x3037, .common⟩, ⟨0x3038, 0x303B, .han⟩, ⟨0x303C, 0x303F, .common⟩,
  ⟨0x3041, 0x3096, .hiragana⟩, ⟨0x3099, 0x309A, .inherited⟩, ⟨0x309B, 0x309C, .common⟩,
  ⟨0x309D, 0x309F, .hiragana⟩, ⟨0x30A0, 0x30A0, .common⟩, ⟨0x30A1, 0x30FA, .katakana⟩,
  ⟨0x30FB, 0x30FC, .common⟩, ⟨0x30FD, 0x30FF, .katakana⟩, ⟨0x3105, 0x312F, .bopomofo⟩,
  ⟨0x3131, 0x318E, .hangul⟩, ⟨0x3190, 0x319F, .common⟩, ⟨0x31A0, 0x31BF, .bopomofo⟩,
  ⟨0x31C0, 0x31E5, .common⟩, ⟨0x31EF, 0x31EF, .common⟩, ⟨0x31F0, 0x31FF, .katakana⟩,
  ⟨0x3200, 0x321E, .hangul⟩, ⟨0x3220, 0x325F, .common⟩, ⟨0x3260, 0x327E, .hangul⟩,
  ⟨0x327F, 0x32CF, .common⟩, ⟨0x32D0, 0x32FE, .katakana⟩, ⟨0x32FF, 0x32FF, .common⟩,
  ⟨0x3300, 0x3357, .katakana⟩, ⟨0x3358, 0x33FF, .common⟩, ⟨0x3400, 0x4DBF, .han⟩,
  ⟨0x4DC0, 0x4DFF, .common⟩, ⟨0x4E00, 0x9FFF, .han⟩, ⟨0xA000, 0xA48C, .yi⟩, ⟨0xA490, 0xA4C6, .yi⟩,
  ⟨0xA4D0, 0xA4FF, .lisu⟩, ⟨0xA500, 0xA62B, .vai⟩, ⟨0xA640, 0xA69F, .cyrillic⟩,
  ⟨0xA6A0, 0xA6F7, .bamum⟩, ⟨0xA700, 0xA721, .common⟩, ⟨0xA722, 0xA787, .latin⟩,
  ⟨0xA788, 0xA78A, .common⟩, ⟨0xA78B, 0xA7DC, .latin⟩, ⟨0xA7F1, 0xA7FF, .latin⟩,
  ⟨0xA800, 0xA82C, .sylotiNagri⟩, ⟨0xA830, 0xA839, .common⟩, ⟨0xA840, 0xA877, .phagsPa⟩,
  ⟨0xA880, 0xA8C5, .saurashtra⟩, ⟨0xA8CE, 0xA8D9, .saurashtra⟩, ⟨0xA8E0, 0xA8FF, .devanagari⟩,
  ⟨0xA900, 0xA92D, .kayahLi⟩, ⟨0xA92E, 0xA92E, .common⟩, ⟨0xA92F, 0xA92F, .kayahLi⟩,
  ⟨0xA930, 0xA953, .rejang⟩, ⟨0xA95F, 0xA95F, .rejang⟩, ⟨0xA960, 0xA97C, .hangul⟩,
  ⟨0xA980, 0xA9CD, .javanese⟩, ⟨0xA9CF, 0xA9CF, .common⟩, ⟨0xA9D0, 0xA9D9, .javanese⟩,
  ⟨0xA9DE, 0xA9DF, .javanese⟩, ⟨0xA9E0, 0xA9FE, .myanmar⟩, ⟨0xAA00, 0xAA36, .cham⟩,
  ⟨0xAA40, 0xAA4D, .cham⟩, ⟨0xAA50, 0xAA59, .cham⟩, ⟨0xAA5C, 0xAA5F, .cham⟩,
  ⟨0xAA60, 0xAA7F, .myanmar⟩, ⟨0xAA80, 0xAAC2, .taiViet⟩, ⟨0xAADB, 0xAADF, .taiViet⟩,
  ⟨0xAAE0, 0xAAF6, .meeteiMayek⟩, ⟨0xAB01, 0xAB06, .ethiopic⟩, ⟨0xAB09, 0xAB0E, .ethiopic⟩,
  ⟨0xAB11, 0xAB16, .ethiopic⟩, ⟨0xAB20, 0xAB26, .ethiopic⟩, ⟨0xAB28, 0xAB2E, .ethiopic⟩,
  ⟨0xAB30, 0xAB5A, .latin⟩, ⟨0xAB5B, 0xAB5B, .common⟩, ⟨0xAB5C, 0xAB64, .latin⟩,
  ⟨0xAB65, 0xAB65, .greek⟩, ⟨0xAB66, 0xAB69, .latin⟩, ⟨0xAB6A, 0xAB6B, .common⟩,
  ⟨0xAB70, 0xABBF, .cherokee⟩, ⟨0xABC0, 0xABED, .meeteiMayek⟩, ⟨0xABF0, 0xABF9, .meeteiMayek⟩,
  ⟨0xAC00, 0xD7A3, .hangul⟩, ⟨0xD7B0, 0xD7C6, .hangul⟩, ⟨0xD7CB, 0xD7FB, .hangul⟩,
  ⟨0xF900, 0xFA6D, .han⟩, ⟨0xFA70, 0xFAD9, .han⟩, ⟨0xFB00, 0xFB06, .latin⟩,
  ⟨0xFB13, 0xFB17, .armenian⟩, ⟨0xFB1D, 0xFB36, .hebrew⟩, ⟨0xFB38, 0xFB3C, .hebrew⟩,
  ⟨0xFB3E, 0xFB3E, .hebrew⟩, ⟨0xFB40, 0xFB41, .hebrew⟩, ⟨0xFB43, 0xFB44, .hebrew⟩,
  ⟨0xFB46, 0xFB4F, .hebrew⟩, ⟨0xFB50, 0xFD3D, .arabic⟩, ⟨0xFD3E, 0xFD3F, .common⟩,
  ⟨0xFD40, 0xFDCF, .arabic⟩, ⟨0xFDF0, 0xFDFF, .arabic⟩, ⟨0xFE00, 0xFE0F, .inherited⟩,
  ⟨0xFE10, 0xFE19, .common⟩, ⟨0xFE20, 0xFE2D, .inherited⟩, ⟨0xFE2E, 0xFE2F, .cyrillic⟩,
  ⟨0xFE30, 0xFE52, .common⟩, ⟨0xFE54, 0xFE66, .common⟩, ⟨0xFE68, 0xFE6B, .common⟩,
  ⟨0xFE70, 0xFE74, .arabic⟩, ⟨0xFE76, 0xFEFC, .arabic⟩, ⟨0xFEFF, 0xFEFF, .common⟩,
  ⟨0xFF01, 0xFF20, .common⟩, ⟨0xFF21, 0xFF3A, .latin⟩, ⟨0xFF3B, 0xFF40, .common⟩,
  ⟨0xFF41, 0xFF5A, .latin⟩, ⟨0xFF5B, 0xFF65, .common⟩, ⟨0xFF66, 0xFF6F, .katakana⟩,
  ⟨0xFF70, 0xFF70, .common⟩, ⟨0xFF71, 0xFF9D, .katakana⟩, ⟨0xFF9E, 0xFF9F, .common⟩,
  ⟨0xFFA0, 0xFFBE, .hangul⟩, ⟨0xFFC2, 0xFFC7, .hangul⟩, ⟨0xFFCA, 0xFFCF, .hangul⟩,
  ⟨0xFFD2, 0xFFD7, .hangul⟩, ⟨0xFFDA, 0xFFDC, .hangul⟩, ⟨0xFFE0, 0xFFE6, .common⟩,
  ⟨0xFFE8, 0xFFEE, .common⟩, ⟨0xFFF9, 0xFFFD, .common⟩, ⟨0x10000, 0x1000B, .linearB⟩,
  ⟨0x1000D, 0x10026, .linearB⟩, ⟨0x10028, 0x1003A, .linearB⟩, ⟨0x1003C, 0x1003D, .linearB⟩,
  ⟨0x1003F, 0x1004D, .linearB⟩, ⟨0x10050, 0x1005D, .linearB⟩, ⟨0x10080, 0x100FA, .linearB⟩,
  ⟨0x10100, 0x10102, .common⟩, ⟨0x10107, 0x10133, .common⟩, ⟨0x10137, 0x1013F, .common⟩,
  ⟨0x10140, 0x1018E, .greek⟩, ⟨0x10190, 0x1019C, .common⟩, ⟨0x101A0, 0x101A0, .greek⟩,
  ⟨0x101D0, 0x101FC, .common⟩, ⟨0x101FD, 0x101FD, .inherited⟩, ⟨0x10280, 0x1029C, .lycian⟩,
  ⟨0x102A0, 0x102D0, .carian⟩, ⟨0x102E0, 0x102E0, .inherited⟩, ⟨0x102E1, 0x102FB, .common⟩,
  ⟨0x10300, 0x10323, .oldItalic⟩, ⟨0x1032D, 0x1032F, .oldItalic⟩, ⟨0x10330, 0x1034A, .gothic⟩,
  ⟨0x10350, 0x1037A, .oldPermic⟩, ⟨0x10380, 0x1039D, .ugaritic⟩, ⟨0x1039F, 0x1039F, .ugaritic⟩,
  ⟨0x103A0, 0x103C3, .oldPersian⟩, ⟨0x103C8, 0x103D5, .oldPersian⟩, ⟨0x10400, 0x1044F, .deseret⟩,
  ⟨0x10450, 0x1047F, .shavian⟩, ⟨0x10480, 0x1049D, .osmanya⟩, ⟨0x104A0, 0x104A9, .osmanya⟩,
  ⟨0x104B0, 0x104D3, .osage⟩, ⟨0x104D8, 0x104FB, .osage⟩, ⟨0x10500, 0x10527, .elbasan⟩,
  ⟨0x10530, 0x10563, .caucasianAlbanian⟩, ⟨0x1056F, 0x1056F, .caucasianAlbanian⟩,
  ⟨0x10570, 0x1057A, .vithkuqi⟩, ⟨0x1057C, 0x1058A, .vithkuqi⟩, ⟨0x1058C, 0x10592, .vithkuqi⟩,
  ⟨0x10594, 0x10595, .vithkuqi⟩, ⟨0x10597, 0x105A1, .vithkuqi⟩, ⟨0x105A3, 0x105B1, .vithkuqi⟩,
  ⟨0x105B3, 0x105B9, .vithkuqi⟩, ⟨0x105BB, 0x105BC, .vithkuqi⟩, ⟨0x105C0, 0x105F3, .todhri⟩,
  ⟨0x10600, 0x10736, .linearA⟩, ⟨0x10740, 0x10755, .linearA⟩, ⟨0x10760, 0x10767, .linearA⟩,
  ⟨0x10780, 0x10785, .latin⟩, ⟨0x10787, 0x107B0, .latin⟩, ⟨0x107B2, 0x107BA, .latin⟩,
  ⟨0x10800, 0x10805, .cypriot⟩, ⟨0x10808, 0x10808, .cypriot⟩, ⟨0x1080A, 0x10835, .cypriot⟩,
  ⟨0x10837, 0x10838, .cypriot⟩, ⟨0x1083C, 0x1083C, .cypriot⟩, ⟨0x1083F, 0x1083F, .cypriot⟩,
  ⟨0x10840, 0x10855, .imperialAramaic⟩, ⟨0x10857, 0x1085F, .imperialAramaic⟩,
  ⟨0x10860, 0x1087F, .palmyrene⟩, ⟨0x10880, 0x1089E, .nabataean⟩, ⟨0x108A7, 0x108AF, .nabataean⟩,
  ⟨0x108E0, 0x108F2, .hatran⟩, ⟨0x108F4, 0x108F5, .hatran⟩, ⟨0x108FB, 0x108FF, .hatran⟩,
  ⟨0x10900, 0x1091B, .phoenician⟩, ⟨0x1091F, 0x1091F, .phoenician⟩, ⟨0x10920, 0x10939, .lydian⟩,
  ⟨0x1093F, 0x1093F, .lydian⟩, ⟨0x10940, 0x10959, .sidetic⟩,
  ⟨0x10980, 0x1099F, .meroiticHieroglyphs⟩, ⟨0x109A0, 0x109B7, .meroiticCursive⟩,
  ⟨0x109BC, 0x109CF, .meroiticCursive⟩, ⟨0x109D2, 0x109FF, .meroiticCursive⟩,
  ⟨0x10A00, 0x10A03, .kharoshthi⟩, ⟨0x10A05, 0x10A06, .kharoshthi⟩, ⟨0x10A0C, 0x10A13, .kharoshthi⟩,
  ⟨0x10A15, 0x10A17, .kharoshthi⟩, ⟨0x10A19, 0x10A35, .kharoshthi⟩, ⟨0x10A38, 0x10A3A, .kharoshthi⟩,
  ⟨0x10A3F, 0x10A48, .kharoshthi⟩, ⟨0x10A50, 0x10A58, .kharoshthi⟩,
  ⟨0x10A60, 0x10A7F, .oldSouthArabian⟩, ⟨0x10A80, 0x10A9F, .oldNorthArabian⟩,
  ⟨0x10AC0, 0x10AE6, .manichaean⟩, ⟨0x10AEB, 0x10AF6, .manichaean⟩, ⟨0x10B00, 0x10B35, .avestan⟩,
  ⟨0x10B39, 0x10B3F, .avestan⟩, ⟨0x10B40, 0x10B55, .inscriptionalParthian⟩,
  ⟨0x10B58, 0x10B5F, .inscriptionalParthian⟩, ⟨0x10B60, 0x10B72, .inscriptionalPahlavi⟩,
  ⟨0x10B78, 0x10B7F, .inscriptionalPahlavi⟩, ⟨0x10B80, 0x10B91, .psalterPahlavi⟩,
  ⟨0x10B99, 0x10B9C, .psalterPahlavi⟩, ⟨0x10BA9, 0x10BAF, .psalterPahlavi⟩,
  ⟨0x10C00, 0x10C48, .oldTurkic⟩, ⟨0x10C80, 0x10CB2, .oldHungarian⟩,
  ⟨0x10CC0, 0x10CF2, .oldHungarian⟩, ⟨0x10CFA, 0x10CFF, .oldHungarian⟩,
  ⟨0x10D00, 0x10D27, .hanifiRohingya⟩, ⟨0x10D30, 0x10D39, .hanifiRohingya⟩,
  ⟨0x10D40, 0x10D65, .garay⟩, ⟨0x10D69, 0x10D85, .garay⟩, ⟨0x10D8E, 0x10D8F, .garay⟩,
  ⟨0x10E60, 0x10E7E, .arabic⟩, ⟨0x10E80, 0x10EA9, .yezidi⟩, ⟨0x10EAB, 0x10EAD, .yezidi⟩,
  ⟨0x10EB0, 0x10EB1, .yezidi⟩, ⟨0x10EC2, 0x10EC7, .arabic⟩, ⟨0x10ED0, 0x10ED8, .arabic⟩,
  ⟨0x10EFA, 0x10EFF, .arabic⟩, ⟨0x10F00, 0x10F27, .oldSogdian⟩, ⟨0x10F30, 0x10F59, .sogdian⟩,
  ⟨0x10F70, 0x10F89, .oldUyghur⟩, ⟨0x10FB0, 0x10FCB, .chorasmian⟩, ⟨0x10FE0, 0x10FF6, .elymaic⟩,
  ⟨0x11000, 0x1104D, .brahmi⟩, ⟨0x11052, 0x11075, .brahmi⟩, ⟨0x1107F, 0x1107F, .brahmi⟩,
  ⟨0x11080, 0x110C2, .kaithi⟩, ⟨0x110CD, 0x110CD, .kaithi⟩, ⟨0x110D0, 0x110E8, .soraSompeng⟩,
  ⟨0x110F0, 0x110F9, .soraSompeng⟩, ⟨0x11100, 0x11134, .chakma⟩, ⟨0x11136, 0x11147, .chakma⟩,
  ⟨0x11150, 0x11176, .mahajani⟩, ⟨0x11180, 0x111DF, .sharada⟩, ⟨0x111E1, 0x111F4, .sinhala⟩,
  ⟨0x11200, 0x11211, .khojki⟩, ⟨0x11213, 0x11241, .khojki⟩, ⟨0x11280, 0x11286, .multani⟩,
  ⟨0x11288, 0x11288, .multani⟩, ⟨0x1128A, 0x1128D, .multani⟩, ⟨0x1128F, 0x1129D, .multani⟩,
  ⟨0x1129F, 0x112A9, .multani⟩, ⟨0x112B0, 0x112EA, .khudawadi⟩, ⟨0x112F0, 0x112F9, .khudawadi⟩,
  ⟨0x11300, 0x11303, .grantha⟩, ⟨0x11305, 0x1130C, .grantha⟩, ⟨0x1130F, 0x11310, .grantha⟩,
  ⟨0x11313, 0x11328, .grantha⟩, ⟨0x1132A, 0x11330, .grantha⟩, ⟨0x11332, 0x11333, .grantha⟩,
  ⟨0x11335, 0x11339, .grantha⟩, ⟨0x1133B, 0x1133B, .inherited⟩, ⟨0x1133C, 0x11344, .grantha⟩,
  ⟨0x11347, 0x11348, .grantha⟩, ⟨0x1134B, 0x1134D, .grantha⟩, ⟨0x11350, 0x11350, .grantha⟩,
  ⟨0x11357, 0x11357, .grantha⟩, ⟨0x1135D, 0x11363, .grantha⟩, ⟨0x11366, 0x1136C, .grantha⟩,
  ⟨0x11370, 0x11374, .grantha⟩, ⟨0x11380, 0x11389, .tuluTigalari⟩,
  ⟨0x1138B, 0x1138B, .tuluTigalari⟩, ⟨0x1138E, 0x1138E, .tuluTigalari⟩,
  ⟨0x11390, 0x113B5, .tuluTigalari⟩, ⟨0x113B7, 0x113C0, .tuluTigalari⟩,
  ⟨0x113C2, 0x113C2, .tuluTigalari⟩, ⟨0x113C5, 0x113C5, .tuluTigalari⟩,
  ⟨0x113C7, 0x113CA, .tuluTigalari⟩, ⟨0x113CC, 0x113D5, .tuluTigalari⟩,
  ⟨0x113D7, 0x113D8, .tuluTigalari⟩, ⟨0x113E1, 0x113E2, .tuluTigalari⟩, ⟨0x11400, 0x1145B, .newa⟩,
  ⟨0x1145D, 0x11461, .newa⟩, ⟨0x11480, 0x114C7, .tirhuta⟩, ⟨0x114D0, 0x114D9, .tirhuta⟩,
  ⟨0x11580, 0x115B5, .siddham⟩, ⟨0x115B8, 0x115DD, .siddham⟩, ⟨0x11600, 0x11644, .modi⟩,
  ⟨0x11650, 0x11659, .modi⟩, ⟨0x11660, 0x1166C, .mongolian⟩, ⟨0x11680, 0x116B9, .takri⟩,
  ⟨0x116C0, 0x116C9, .takri⟩, ⟨0x116D0, 0x116E3, .myanmar⟩, ⟨0x11700, 0x1171A, .ahom⟩,
  ⟨0x1171D, 0x1172B, .ahom⟩, ⟨0x11730, 0x11746, .ahom⟩, ⟨0x11800, 0x1183B, .dogra⟩,
  ⟨0x118A0, 0x118F2, .warangCiti⟩, ⟨0x118FF, 0x118FF, .warangCiti⟩, ⟨0x11900, 0x11906, .divesAkuru⟩,
  ⟨0x11909, 0x11909, .divesAkuru⟩, ⟨0x1190C, 0x11913, .divesAkuru⟩, ⟨0x11915, 0x11916, .divesAkuru⟩,
  ⟨0x11918, 0x11935, .divesAkuru⟩, ⟨0x11937, 0x11938, .divesAkuru⟩, ⟨0x1193B, 0x11946, .divesAkuru⟩,
  ⟨0x11950, 0x11959, .divesAkuru⟩, ⟨0x119A0, 0x119A7, .nandinagari⟩,
  ⟨0x119AA, 0x119D7, .nandinagari⟩, ⟨0x119DA, 0x119E4, .nandinagari⟩,
  ⟨0x11A00, 0x11A47, .zanabazarSquare⟩, ⟨0x11A50, 0x11AA2, .soyombo⟩,
  ⟨0x11AB0, 0x11ABF, .canadianAboriginal⟩, ⟨0x11AC0, 0x11AF8, .pauCinHau⟩,
  ⟨0x11B00, 0x11B09, .devanagari⟩, ⟨0x11B60, 0x11B67, .sharada⟩, ⟨0x11BC0, 0x11BE1, .sunuwar⟩,
  ⟨0x11BF0, 0x11BF9, .sunuwar⟩, ⟨0x11C00, 0x11C08, .bhaiksuki⟩, ⟨0x11C0A, 0x11C36, .bhaiksuki⟩,
  ⟨0x11C38, 0x11C45, .bhaiksuki⟩, ⟨0x11C50, 0x11C6C, .bhaiksuki⟩, ⟨0x11C70, 0x11C8F, .marchen⟩,
  ⟨0x11C92, 0x11CA7, .marchen⟩, ⟨0x11CA9, 0x11CB6, .marchen⟩, ⟨0x11D00, 0x11D06, .masaramGondi⟩,
  ⟨0x11D08, 0x11D09, .masaramGondi⟩, ⟨0x11D0B, 0x11D36, .masaramGondi⟩,
  ⟨0x11D3A, 0x11D3A, .masaramGondi⟩, ⟨0x11D3C, 0x11D3D, .masaramGondi⟩,
  ⟨0x11D3F, 0x11D47, .masaramGondi⟩, ⟨0x11D50, 0x11D59, .masaramGondi⟩,
  ⟨0x11D60, 0x11D65, .gunjalaGondi⟩, ⟨0x11D67, 0x11D68, .gunjalaGondi⟩,
  ⟨0x11D6A, 0x11D8E, .gunjalaGondi⟩, ⟨0x11D90, 0x11D91, .gunjalaGondi⟩,
  ⟨0x11D93, 0x11D98, .gunjalaGondi⟩, ⟨0x11DA0, 0x11DA9, .gunjalaGondi⟩,
  ⟨0x11DB0, 0x11DDB, .tolongSiki⟩, ⟨0x11DE0, 0x11DE9, .tolongSiki⟩, ⟨0x11EE0, 0x11EF8, .makasar⟩,
  ⟨0x11F00, 0x11F10, .kawi⟩, ⟨0x11F12, 0x11F3A, .kawi⟩, ⟨0x11F3E, 0x11F5A, .kawi⟩,
  ⟨0x11FB0, 0x11FB0, .lisu⟩, ⟨0x11FC0, 0x11FF1, .tamil⟩, ⟨0x11FFF, 0x11FFF, .tamil⟩,
  ⟨0x12000, 0x12399, .cuneiform⟩, ⟨0x12400, 0x1246E, .cuneiform⟩, ⟨0x12470, 0x12474, .cuneiform⟩,
  ⟨0x12480, 0x12543, .cuneiform⟩, ⟨0x12F90, 0x12FF2, .cyproMinoan⟩,
  ⟨0x13000, 0x13455, .egyptianHieroglyphs⟩, ⟨0x13460, 0x143FA, .egyptianHieroglyphs⟩,
  ⟨0x14400, 0x14646, .anatolianHieroglyphs⟩, ⟨0x16100, 0x16139, .gurungKhema⟩,
  ⟨0x16800, 0x16A38, .bamum⟩, ⟨0x16A40, 0x16A5E, .mro⟩, ⟨0x16A60, 0x16A69, .mro⟩,
  ⟨0x16A6E, 0x16A6F, .mro⟩, ⟨0x16A70, 0x16ABE, .tangsa⟩, ⟨0x16AC0, 0x16AC9, .tangsa⟩,
  ⟨0x16AD0, 0x16AED, .bassaVah⟩, ⟨0x16AF0, 0x16AF5, .bassaVah⟩, ⟨0x16B00, 0x16B45, .pahawhHmong⟩,
  ⟨0x16B50, 0x16B59, .pahawhHmong⟩, ⟨0x16B5B, 0x16B61, .pahawhHmong⟩,
  ⟨0x16B63, 0x16B77, .pahawhHmong⟩, ⟨0x16B7D, 0x16B8F, .pahawhHmong⟩, ⟨0x16D40, 0x16D79, .kiratRai⟩,
  ⟨0x16E40, 0x16E9A, .medefaidrin⟩, ⟨0x16EA0, 0x16EB8, .beriaErfe⟩, ⟨0x16EBB, 0x16ED3, .beriaErfe⟩,
  ⟨0x16F00, 0x16F4A, .miao⟩, ⟨0x16F4F, 0x16F87, .miao⟩, ⟨0x16F8F, 0x16F9F, .miao⟩,
  ⟨0x16FE0, 0x16FE0, .tangut⟩, ⟨0x16FE1, 0x16FE1, .nushu⟩, ⟨0x16FE2, 0x16FE3, .han⟩,
  ⟨0x16FE4, 0x16FE4, .khitanSmallScript⟩, ⟨0x16FF0, 0x16FF6, .han⟩, ⟨0x17000, 0x18AFF, .tangut⟩,
  ⟨0x18B00, 0x18CD5, .khitanSmallScript⟩, ⟨0x18CFF, 0x18CFF, .khitanSmallScript⟩,
  ⟨0x18D00, 0x18D1E, .tangut⟩, ⟨0x18D80, 0x18DF2, .tangut⟩, ⟨0x1AFF0, 0x1AFF3, .katakana⟩,
  ⟨0x1AFF5, 0x1AFFB, .katakana⟩, ⟨0x1AFFD, 0x1AFFE, .katakana⟩, ⟨0x1B000, 0x1B000, .katakana⟩,
  ⟨0x1B001, 0x1B11F, .hiragana⟩, ⟨0x1B120, 0x1B122, .katakana⟩, ⟨0x1B132, 0x1B132, .hiragana⟩,
  ⟨0x1B150, 0x1B152, .hiragana⟩, ⟨0x1B155, 0x1B155, .katakana⟩, ⟨0x1B164, 0x1B167, .katakana⟩,
  ⟨0x1B170, 0x1B2FB, .nushu⟩, ⟨0x1BC00, 0x1BC6A, .duployan⟩, ⟨0x1BC70, 0x1BC7C, .duployan⟩,
  ⟨0x1BC80, 0x1BC88, .duployan⟩, ⟨0x1BC90, 0x1BC99, .duployan⟩, ⟨0x1BC9C, 0x1BC9F, .duployan⟩,
  ⟨0x1BCA0, 0x1BCA3, .common⟩, ⟨0x1CC00, 0x1CCFC, .common⟩, ⟨0x1CD00, 0x1CEB3, .common⟩,
  ⟨0x1CEBA, 0x1CED0, .common⟩, ⟨0x1CEE0, 0x1CEF0, .common⟩, ⟨0x1CF00, 0x1CF2D, .inherited⟩,
  ⟨0x1CF30, 0x1CF46, .inherited⟩, ⟨0x1CF50, 0x1CFC3, .common⟩, ⟨0x1D000, 0x1D0F5, .common⟩,
  ⟨0x1D100, 0x1D126, .common⟩, ⟨0x1D129, 0x1D166, .common⟩, ⟨0x1D167, 0x1D169, .inherited⟩,
  ⟨0x1D16A, 0x1D17A, .common⟩, ⟨0x1D17B, 0x1D182, .inherited⟩, ⟨0x1D183, 0x1D184, .common⟩,
  ⟨0x1D185, 0x1D18B, .inherited⟩, ⟨0x1D18C, 0x1D1A9, .common⟩, ⟨0x1D1AA, 0x1D1AD, .inherited⟩,
  ⟨0x1D1AE, 0x1D1EA, .common⟩, ⟨0x1D200, 0x1D245, .greek⟩, ⟨0x1D2C0, 0x1D2D3, .common⟩,
  ⟨0x1D2E0, 0x1D2F3, .common⟩, ⟨0x1D300, 0x1D356, .common⟩, ⟨0x1D360, 0x1D378, .common⟩,
  ⟨0x1D400, 0x1D454, .common⟩, ⟨0x1D456, 0x1D49C, .common⟩, ⟨0x1D49E, 0x1D49F, .common⟩,
  ⟨0x1D4A2, 0x1D4A2, .common⟩, ⟨0x1D4A5, 0x1D4A6, .common⟩, ⟨0x1D4A9, 0x1D4AC, .common⟩,
  ⟨0x1D4AE, 0x1D4B9, .common⟩, ⟨0x1D4BB, 0x1D4BB, .common⟩, ⟨0x1D4BD, 0x1D4C3, .common⟩,
  ⟨0x1D4C5, 0x1D505, .common⟩, ⟨0x1D507, 0x1D50A, .common⟩, ⟨0x1D50D, 0x1D514, .common⟩,
  ⟨0x1D516, 0x1D51C, .common⟩, ⟨0x1D51E, 0x1D539, .common⟩, ⟨0x1D53B, 0x1D53E, .common⟩,
  ⟨0x1D540, 0x1D544, .common⟩, ⟨0x1D546, 0x1D546, .common⟩, ⟨0x1D54A, 0x1D550, .common⟩,
  ⟨0x1D552, 0x1D6A5, .common⟩, ⟨0x1D6A8, 0x1D7CB, .common⟩, ⟨0x1D7CE, 0x1D7FF, .common⟩,
  ⟨0x1D800, 0x1DA8B, .signWriting⟩, ⟨0x1DA9B, 0x1DA9F, .signWriting⟩,
  ⟨0x1DAA1, 0x1DAAF, .signWriting⟩, ⟨0x1DF00, 0x1DF1E, .latin⟩, ⟨0x1DF25, 0x1DF2A, .latin⟩,
  ⟨0x1E000, 0x1E006, .glagolitic⟩, ⟨0x1E008, 0x1E018, .glagolitic⟩, ⟨0x1E01B, 0x1E021, .glagolitic⟩,
  ⟨0x1E023, 0x1E024, .glagolitic⟩, ⟨0x1E026, 0x1E02A, .glagolitic⟩, ⟨0x1E030, 0x1E06D, .cyrillic⟩,
  ⟨0x1E08F, 0x1E08F, .cyrillic⟩, ⟨0x1E100, 0x1E12C, .nyiakengPuachueHmong⟩,
  ⟨0x1E130, 0x1E13D, .nyiakengPuachueHmong⟩, ⟨0x1E140, 0x1E149, .nyiakengPuachueHmong⟩,
  ⟨0x1E14E, 0x1E14F, .nyiakengPuachueHmong⟩, ⟨0x1E290, 0x1E2AE, .toto⟩, ⟨0x1E2C0, 0x1E2F9, .wancho⟩,
  ⟨0x1E2FF, 0x1E2FF, .wancho⟩, ⟨0x1E4D0, 0x1E4F9, .nagMundari⟩, ⟨0x1E5D0, 0x1E5FA, .olOnal⟩,
  ⟨0x1E5FF, 0x1E5FF, .olOnal⟩, ⟨0x1E6C0, 0x1E6DE, .taiYo⟩, ⟨0x1E6E0, 0x1E6F5, .taiYo⟩,
  ⟨0x1E6FE, 0x1E6FF, .taiYo⟩, ⟨0x1E7E0, 0x1E7E6, .ethiopic⟩, ⟨0x1E7E8, 0x1E7EB, .ethiopic⟩,
  ⟨0x1E7ED, 0x1E7EE, .ethiopic⟩, ⟨0x1E7F0, 0x1E7FE, .ethiopic⟩, ⟨0x1E800, 0x1E8C4, .mendeKikakui⟩,
  ⟨0x1E8C7, 0x1E8D6, .mendeKikakui⟩, ⟨0x1E900, 0x1E94B, .adlam⟩, ⟨0x1E950, 0x1E959, .adlam⟩,
  ⟨0x1E95E, 0x1E95F, .adlam⟩, ⟨0x1EC71, 0x1ECB4, .common⟩, ⟨0x1ED01, 0x1ED3D, .common⟩,
  ⟨0x1EE00, 0x1EE03, .arabic⟩, ⟨0x1EE05, 0x1EE1F, .arabic⟩, ⟨0x1EE21, 0x1EE22, .arabic⟩,
  ⟨0x1EE24, 0x1EE24, .arabic⟩, ⟨0x1EE27, 0x1EE27, .arabic⟩, ⟨0x1EE29, 0x1EE32, .arabic⟩,
  ⟨0x1EE34, 0x1EE37, .arabic⟩, ⟨0x1EE39, 0x1EE39, .arabic⟩, ⟨0x1EE3B, 0x1EE3B, .arabic⟩,
  ⟨0x1EE42, 0x1EE42, .arabic⟩, ⟨0x1EE47, 0x1EE47, .arabic⟩, ⟨0x1EE49, 0x1EE49, .arabic⟩,
  ⟨0x1EE4B, 0x1EE4B, .arabic⟩, ⟨0x1EE4D, 0x1EE4F, .arabic⟩, ⟨0x1EE51, 0x1EE52, .arabic⟩,
  ⟨0x1EE54, 0x1EE54, .arabic⟩, ⟨0x1EE57, 0x1EE57, .arabic⟩, ⟨0x1EE59, 0x1EE59, .arabic⟩,
  ⟨0x1EE5B, 0x1EE5B, .arabic⟩, ⟨0x1EE5D, 0x1EE5D, .arabic⟩, ⟨0x1EE5F, 0x1EE5F, .arabic⟩,
  ⟨0x1EE61, 0x1EE62, .arabic⟩, ⟨0x1EE64, 0x1EE64, .arabic⟩, ⟨0x1EE67, 0x1EE6A, .arabic⟩,
  ⟨0x1EE6C, 0x1EE72, .arabic⟩, ⟨0x1EE74, 0x1EE77, .arabic⟩, ⟨0x1EE79, 0x1EE7C, .arabic⟩,
  ⟨0x1EE7E, 0x1EE7E, .arabic⟩, ⟨0x1EE80, 0x1EE89, .arabic⟩, ⟨0x1EE8B, 0x1EE9B, .arabic⟩,
  ⟨0x1EEA1, 0x1EEA3, .arabic⟩, ⟨0x1EEA5, 0x1EEA9, .arabic⟩, ⟨0x1EEAB, 0x1EEBB, .arabic⟩,
  ⟨0x1EEF0, 0x1EEF1, .arabic⟩, ⟨0x1F000, 0x1F02B, .common⟩, ⟨0x1F030, 0x1F093, .common⟩,
  ⟨0x1F0A0, 0x1F0AE, .common⟩, ⟨0x1F0B1, 0x1F0BF, .common⟩, ⟨0x1F0C1, 0x1F0CF, .common⟩,
  ⟨0x1F0D1, 0x1F0F5, .common⟩, ⟨0x1F100, 0x1F1AD, .common⟩, ⟨0x1F1E6, 0x1F1FF, .common⟩,
  ⟨0x1F200, 0x1F200, .hiragana⟩, ⟨0x1F201, 0x1F202, .common⟩, ⟨0x1F210, 0x1F23B, .common⟩,
  ⟨0x1F240, 0x1F248, .common⟩, ⟨0x1F250, 0x1F251, .common⟩, ⟨0x1F260, 0x1F265, .common⟩,
  ⟨0x1F300, 0x1F6D8, .common⟩, ⟨0x1F6DC, 0x1F6EC, .common⟩, ⟨0x1F6F0, 0x1F6FC, .common⟩,
  ⟨0x1F700, 0x1F7D9, .common⟩, ⟨0x1F7E0, 0x1F7EB, .common⟩, ⟨0x1F7F0, 0x1F7F0, .common⟩,
  ⟨0x1F800, 0x1F80B, .common⟩, ⟨0x1F810, 0x1F847, .common⟩, ⟨0x1F850, 0x1F859, .common⟩,
  ⟨0x1F860, 0x1F887, .common⟩, ⟨0x1F890, 0x1F8AD, .common⟩, ⟨0x1F8B0, 0x1F8BB, .common⟩,
  ⟨0x1F8C0, 0x1F8C1, .common⟩, ⟨0x1F8D0, 0x1F8D8, .common⟩, ⟨0x1F900, 0x1FA57, .common⟩,
  ⟨0x1FA60, 0x1FA6D, .common⟩, ⟨0x1FA70, 0x1FA7C, .common⟩, ⟨0x1FA80, 0x1FA8A, .common⟩,
  ⟨0x1FA8E, 0x1FAC6, .common⟩, ⟨0x1FAC8, 0x1FAC8, .common⟩, ⟨0x1FACD, 0x1FADC, .common⟩,
  ⟨0x1FADF, 0x1FAEA, .common⟩, ⟨0x1FAEF, 0x1FAF8, .common⟩, ⟨0x1FB00, 0x1FB92, .common⟩,
  ⟨0x1FB94, 0x1FBFA, .common⟩, ⟨0x20000, 0x2A6DF, .han⟩, ⟨0x2A700, 0x2B81D, .han⟩,
  ⟨0x2B820, 0x2CEAD, .han⟩, ⟨0x2CEB0, 0x2EBE0, .han⟩, ⟨0x2EBF0, 0x2EE5D, .han⟩,
  ⟨0x2F800, 0x2FA1D, .han⟩, ⟨0x30000, 0x3134A, .han⟩, ⟨0x31350, 0x33479, .han⟩,
  ⟨0xE0001, 0xE0001, .common⟩, ⟨0xE0020, 0xE007F, .common⟩, ⟨0xE0100, 0xE01EF, .inherited⟩]

/-- The characters whose script extensions are listed, in order. -/
def sharedRuns : List (ValueRun (List Script)) := [
  ⟨0xB7, 0xB7, [.avestan, .carian, .coptic, .duployan, .elbasan, .georgian, .glagolitic, .gothic,
    .greek, .gunjalaGondi, .han, .latin, .lydian, .mahajani, .oldPermic, .shavian]⟩,
  ⟨0x2BC, 0x2BC, [.bengali, .cyrillic, .devanagari, .latin, .lisu, .thai, .toto]⟩,
  ⟨0x2C7, 0x2C7, [.bopomofo, .latin]⟩, ⟨0x2C9, 0x2CB, [.bopomofo, .latin]⟩,
  ⟨0x2CD, 0x2CD, [.latin, .lisu]⟩, ⟨0x2D7, 0x2D7, [.latin, .thai]⟩,
  ⟨0x2D9, 0x2D9, [.bopomofo, .latin]⟩,
  ⟨0x300, 0x300, [.cherokee, .coptic, .cyrillic, .greek, .latin, .oldPermic, .sunuwar, .taiLe]⟩,
  ⟨0x301, 0x301, [.cherokee, .cyrillic, .greek, .latin, .osage, .sunuwar, .taiLe, .todhri]⟩,
  ⟨0x302, 0x302, [.cherokee, .cyrillic, .latin, .tifinagh]⟩,
  ⟨0x303, 0x303, [.glagolitic, .latin, .sunuwar, .syriac, .thai]⟩,
  ⟨0x304, 0x304, [.caucasianAlbanian, .cherokee, .coptic, .cyrillic, .gothic, .greek, .latin,
    .osage, .syriac, .tifinagh, .todhri]⟩,
  ⟨0x305, 0x305, [.coptic, .elbasan, .glagolitic, .gothic, .katakana, .latin]⟩,
  ⟨0x306, 0x306, [.cyrillic, .greek, .latin, .oldPermic, .tifinagh]⟩,
  ⟨0x307, 0x307, [.coptic, .duployan, .hebrew, .latin, .oldPermic, .syriac, .taiLe, .tifinagh,
    .todhri]⟩,
  ⟨0x308, 0x308, [.armenian, .cyrillic, .duployan, .gothic, .greek, .hebrew, .latin, .oldPermic,
    .syriac, .taiLe, .tifinagh]⟩, ⟨0x309, 0x309, [.latin, .tifinagh]⟩,
  ⟨0x30A, 0x30A, [.duployan, .latin, .syriac]⟩,
  ⟨0x30B, 0x30B, [.cherokee, .cyrillic, .latin, .osage]⟩,
  ⟨0x30C, 0x30C, [.cherokee, .latin, .taiLe]⟩, ⟨0x30D, 0x30D, [.latin, .sunuwar]⟩,
  ⟨0x30E, 0x30E, [.ethiopic, .latin]⟩, ⟨0x310, 0x310, [.latin, .sunuwar]⟩,
  ⟨0x311, 0x311, [.cyrillic, .latin, .todhri]⟩,
  ⟨0x313, 0x313, [.greek, .latin, .oldPermic, .todhri]⟩,
  ⟨0x323, 0x323, [.cherokee, .duployan, .katakana, .latin, .syriac, .tifinagh]⟩,
  ⟨0x324, 0x324, [.cherokee, .duployan, .latin, .syriac]⟩, ⟨0x325, 0x325, [.latin, .syriac]⟩,
  ⟨0x32D, 0x32D, [.latin, .sunuwar, .syriac]⟩, ⟨0x32E, 0x32E, [.latin, .syriac]⟩,
  ⟨0x330, 0x330, [.cherokee, .latin, .syriac]⟩,
  ⟨0x331, 0x331, [.caucasianAlbanian, .cherokee, .gothic, .latin, .sunuwar, .syriac, .thai]⟩,
  ⟨0x342, 0x342, [.greek]⟩, ⟨0x345, 0x345, [.greek]⟩, ⟨0x358, 0x358, [.latin, .osage]⟩,
  ⟨0x35E, 0x35E, [.caucasianAlbanian, .latin, .todhri]⟩, ⟨0x363, 0x36F, [.latin]⟩,
  ⟨0x374, 0x375, [.coptic, .greek]⟩, ⟨0x483, 0x483, [.cyrillic, .oldPermic]⟩,
  ⟨0x484, 0x484, [.cyrillic, .glagolitic]⟩, ⟨0x485, 0x486, [.cyrillic, .latin]⟩,
  ⟨0x487, 0x487, [.cyrillic, .glagolitic]⟩, ⟨0x589, 0x589, [.armenian, .georgian, .glagolitic]⟩,
  ⟨0x60C, 0x60C, [.arabic, .garay, .hanifiRohingya, .nko, .syriac, .thaana, .yezidi]⟩,
  ⟨0x61B, 0x61B, [.arabic, .garay, .hanifiRohingya, .nko, .syriac, .thaana, .yezidi]⟩,
  ⟨0x61C, 0x61C, [.arabic, .syriac, .thaana]⟩,
  ⟨0x61F, 0x61F, [.adlam, .arabic, .garay, .hanifiRohingya, .nko, .syriac, .thaana, .yezidi]⟩,
  ⟨0x640, 0x640, [.adlam, .arabic, .hanifiRohingya, .mandaic, .manichaean, .oldUyghur,
    .psalterPahlavi, .sogdian, .syriac]⟩, ⟨0x64B, 0x655, [.arabic, .syriac]⟩,
  ⟨0x660, 0x669, [.arabic, .thaana, .yezidi]⟩, ⟨0x670, 0x670, [.arabic, .syriac]⟩,
  ⟨0x6D4, 0x6D4, [.arabic, .hanifiRohingya]⟩,
  ⟨0x951, 0x951, [.bengali, .devanagari, .grantha, .gujarati, .gurmukhi, .kannada, .latin,
    .malayalam, .nandinagari, .newa, .oriya, .sharada, .tamil, .telugu, .tirhuta]⟩,
  ⟨0x952, 0x952, [.bengali, .devanagari, .grantha, .gujarati, .gurmukhi, .kannada, .latin,
    .malayalam, .newa, .oriya, .tamil, .telugu, .tirhuta]⟩,
  ⟨0x964, 0x964, [.bengali, .devanagari, .dogra, .grantha, .gujarati, .gunjalaGondi, .gurmukhi,
    .kannada, .khudawadi, .mahajani, .malayalam, .masaramGondi, .nandinagari, .olOnal, .oriya,
    .sinhala, .sylotiNagri, .takri, .tamil, .telugu, .tirhuta]⟩,
  ⟨0x965, 0x965, [.bengali, .devanagari, .dogra, .grantha, .gujarati, .gunjalaGondi, .gurmukhi,
    .gurungKhema, .kannada, .khudawadi, .limbu, .mahajani, .malayalam, .masaramGondi, .nandinagari,
    .olOnal, .oriya, .sinhala, .sylotiNagri, .takri, .tamil, .telugu, .tirhuta]⟩,
  ⟨0x966, 0x96F, [.devanagari, .dogra, .kaithi, .mahajani]⟩,
  ⟨0x9E6, 0x9EF, [.bengali, .chakma, .sylotiNagri]⟩, ⟨0xA66, 0xA6F, [.gurmukhi, .multani]⟩,
  ⟨0xAE6, 0xAEF, [.gujarati, .khojki]⟩, ⟨0xBE6, 0xBF3, [.grantha, .tamil]⟩,
  ⟨0xCE6, 0xCEF, [.kannada, .nandinagari, .tuluTigalari]⟩,
  ⟨0x1040, 0x1049, [.chakma, .myanmar, .taiLe]⟩, ⟨0x10FB, 0x10FB, [.georgian, .glagolitic, .latin]⟩,
  ⟨0x16EB, 0x16ED, [.runic]⟩, ⟨0x1735, 0x1736, [.buhid, .hanunoo, .tagalog, .tagbanwa]⟩,
  ⟨0x1802, 0x1803, [.mongolian, .phagsPa]⟩, ⟨0x1805, 0x1805, [.mongolian, .phagsPa]⟩,
  ⟨0x1CD0, 0x1CD0, [.bengali, .devanagari, .grantha, .kannada]⟩, ⟨0x1CD1, 0x1CD1, [.devanagari]⟩,
  ⟨0x1CD2, 0x1CD2, [.bengali, .devanagari, .grantha, .kannada]⟩,
  ⟨0x1CD3, 0x1CD3, [.devanagari, .grantha, .kannada]⟩, ⟨0x1CD4, 0x1CD4, [.devanagari]⟩,
  ⟨0x1CD5, 0x1CD5, [.bengali, .devanagari, .newa, .telugu, .tirhuta]⟩,
  ⟨0x1CD6, 0x1CD6, [.bengali, .devanagari, .telugu]⟩,
  ⟨0x1CD7, 0x1CD7, [.devanagari, .newa, .sharada]⟩,
  ⟨0x1CD8, 0x1CD8, [.bengali, .devanagari, .newa, .telugu]⟩,
  ⟨0x1CD9, 0x1CD9, [.devanagari, .sharada]⟩,
  ⟨0x1CDA, 0x1CDA, [.devanagari, .kannada, .malayalam, .oriya, .tamil, .telugu]⟩,
  ⟨0x1CDB, 0x1CDB, [.devanagari]⟩, ⟨0x1CDC, 0x1CDD, [.devanagari, .sharada]⟩,
  ⟨0x1CDE, 0x1CDF, [.devanagari]⟩, ⟨0x1CE0, 0x1CE0, [.devanagari, .sharada]⟩,
  ⟨0x1CE1, 0x1CE1, [.bengali, .devanagari]⟩, ⟨0x1CE2, 0x1CE2, [.devanagari, .newa, .tirhuta]⟩,
  ⟨0x1CE3, 0x1CE8, [.devanagari]⟩, ⟨0x1CE9, 0x1CE9, [.devanagari, .nandinagari, .newa]⟩,
  ⟨0x1CEA, 0x1CEA, [.bengali, .devanagari, .sharada]⟩, ⟨0x1CEB, 0x1CEB, [.devanagari, .newa]⟩,
  ⟨0x1CEC, 0x1CEC, [.devanagari]⟩, ⟨0x1CED, 0x1CED, [.bengali, .devanagari, .newa, .sharada]⟩,
  ⟨0x1CEE, 0x1CF1, [.devanagari]⟩,
  ⟨0x1CF2, 0x1CF2, [.bengali, .devanagari, .grantha, .kannada, .malayalam, .nandinagari, .oriya,
    .sinhala, .telugu, .tirhuta, .tuluTigalari]⟩, ⟨0x1CF3, 0x1CF3, [.devanagari, .grantha]⟩,
  ⟨0x1CF4, 0x1CF4, [.devanagari, .grantha, .kannada, .tuluTigalari]⟩,
  ⟨0x1CF5, 0x1CF6, [.bengali, .devanagari]⟩, ⟨0x1CF7, 0x1CF7, [.bengali]⟩,
  ⟨0x1CF8, 0x1CF9, [.devanagari, .grantha]⟩, ⟨0x1CFA, 0x1CFA, [.nandinagari]⟩,
  ⟨0x1DC0, 0x1DC1, [.greek]⟩, ⟨0x1DF8, 0x1DF8, [.cyrillic, .latin, .syriac]⟩,
  ⟨0x1DFA, 0x1DFA, [.syriac]⟩, ⟨0x202F, 0x202F, [.latin, .mongolian, .phagsPa]⟩,
  ⟨0x204F, 0x204F, [.adlam, .arabic]⟩,
  ⟨0x205A, 0x205A, [.carian, .georgian, .glagolitic, .lycian, .oldHungarian, .oldTurkic]⟩,
  ⟨0x205D, 0x205D, [.carian, .greek, .meroiticHieroglyphs, .oldHungarian]⟩,
  ⟨0x20F0, 0x20F0, [.devanagari, .grantha, .latin]⟩, ⟨0x2E17, 0x2E17, [.coptic, .latin]⟩,
  ⟨0x2E30, 0x2E30, [.avestan, .oldTurkic]⟩,
  ⟨0x2E31, 0x2E31, [.avestan, .carian, .georgian, .kaithi, .lydian, .oldHungarian, .samaritan]⟩,
  ⟨0x2E3C, 0x2E3C, [.duployan]⟩, ⟨0x2E41, 0x2E41, [.adlam, .arabic, .oldHungarian]⟩,
  ⟨0x2E43, 0x2E43, [.cyrillic, .glagolitic]⟩, ⟨0x2FF0, 0x2FFF, [.han, .tangut]⟩,
  ⟨0x3001, 0x3001, [.bopomofo, .han, .hangul, .hiragana, .katakana, .mongolian, .yi]⟩,
  ⟨0x3002, 0x3002, [.bopomofo, .han, .hangul, .hiragana, .katakana, .mongolian, .phagsPa, .yi]⟩,
  ⟨0x3003, 0x3003, [.bopomofo, .han, .hangul, .hiragana, .katakana]⟩, ⟨0x3006, 0x3006, [.han]⟩,
  ⟨0x3008, 0x3009, [.bopomofo, .han, .hangul, .hiragana, .katakana, .mongolian, .tibetan, .yi]⟩,
  ⟨0x300A, 0x300B, [.bopomofo, .han, .hangul, .hiragana, .katakana, .lisu, .mongolian, .tibetan,
    .yi]⟩, ⟨0x300C, 0x3011, [.bopomofo, .han, .hangul, .hiragana, .katakana, .yi]⟩,
  ⟨0x3013, 0x3013, [.bopomofo, .han, .hangul, .hiragana, .katakana]⟩,
  ⟨0x3014, 0x301B, [.bopomofo, .han, .hangul, .hiragana, .katakana, .yi]⟩,
  ⟨0x301C, 0x301F, [.bopomofo, .han, .hangul, .hiragana, .katakana]⟩,
  ⟨0x302A, 0x302D, [.bopomofo, .han]⟩,
  ⟨0x3030, 0x3030, [.bopomofo, .han, .hangul, .hiragana, .katakana]⟩,
  ⟨0x3031, 0x3035, [.hiragana, .katakana]⟩,
  ⟨0x3037, 0x3037, [.bopomofo, .han, .hangul, .hiragana, .katakana]⟩,
  ⟨0x303C, 0x303D, [.han, .hiragana, .katakana]⟩, ⟨0x303E, 0x303F, [.han]⟩,
  ⟨0x3099, 0x309C, [.hiragana, .katakana]⟩, ⟨0x30A0, 0x30A0, [.hiragana, .katakana]⟩,
  ⟨0x30FB, 0x30FB, [.bopomofo, .han, .hangul, .hiragana, .katakana, .yi]⟩,
  ⟨0x30FC, 0x30FC, [.hiragana, .katakana]⟩, ⟨0x3190, 0x319F, [.han]⟩, ⟨0x31C0, 0x31E5, [.han]⟩,
  ⟨0x31EF, 0x31EF, [.han, .tangut]⟩, ⟨0x3220, 0x3247, [.han]⟩, ⟨0x3280, 0x32B0, [.han]⟩,
  ⟨0x32C0, 0x32CB, [.han]⟩, ⟨0x32FF, 0x32FF, [.han]⟩, ⟨0x3358, 0x3370, [.han]⟩,
  ⟨0x337B, 0x337F, [.han]⟩, ⟨0x33E0, 0x33FE, [.han]⟩, ⟨0xA66F, 0xA66F, [.cyrillic, .glagolitic]⟩,
  ⟨0xA700, 0xA707, [.han, .latin]⟩,
  ⟨0xA830, 0xA832, [.devanagari, .dogra, .gujarati, .gurmukhi, .kaithi, .kannada, .khojki,
    .khudawadi, .mahajani, .malayalam, .modi, .nandinagari, .sharada, .takri, .tirhuta,
    .tuluTigalari]⟩,
  ⟨0xA833, 0xA835, [.devanagari, .dogra, .gujarati, .gurmukhi, .kaithi, .kannada, .khojki,
    .khudawadi, .mahajani, .modi, .nandinagari, .sharada, .takri, .tirhuta, .tuluTigalari]⟩,
  ⟨0xA836, 0xA837, [.devanagari, .dogra, .gujarati, .gurmukhi, .kaithi, .khojki, .khudawadi,
    .mahajani, .modi, .takri, .tirhuta]⟩,
  ⟨0xA838, 0xA838, [.devanagari, .dogra, .gujarati, .gurmukhi, .kaithi, .khojki, .khudawadi,
    .mahajani, .modi, .sharada, .takri, .tirhuta]⟩,
  ⟨0xA839, 0xA839, [.devanagari, .dogra, .gujarati, .gurmukhi, .kaithi, .khojki, .khudawadi,
    .mahajani, .modi, .takri, .tirhuta]⟩, ⟨0xA8F1, 0xA8F1, [.bengali, .devanagari, .tuluTigalari]⟩,
  ⟨0xA8F3, 0xA8F3, [.devanagari, .tamil]⟩, ⟨0xA92E, 0xA92E, [.kayahLi, .latin, .myanmar]⟩,
  ⟨0xA9CF, 0xA9CF, [.buginese, .javanese]⟩, ⟨0xFD3E, 0xFD3F, [.arabic, .nko]⟩,
  ⟨0xFDF2, 0xFDF2, [.arabic, .thaana]⟩, ⟨0xFDFD, 0xFDFD, [.arabic, .thaana]⟩,
  ⟨0xFE45, 0xFE46, [.bopomofo, .han, .hangul, .hiragana, .katakana]⟩,
  ⟨0xFF61, 0xFF65, [.bopomofo, .han, .hangul, .hiragana, .katakana, .yi]⟩,
  ⟨0xFF70, 0xFF70, [.hiragana, .katakana]⟩, ⟨0xFF9E, 0xFF9F, [.hiragana, .katakana]⟩,
  ⟨0x10100, 0x10101, [.cypriot, .cyproMinoan, .linearB]⟩, ⟨0x10102, 0x10102, [.cypriot, .linearB]⟩,
  ⟨0x10107, 0x10133, [.cypriot, .linearA, .linearB]⟩, ⟨0x10137, 0x1013F, [.cypriot, .linearB]⟩,
  ⟨0x102E0, 0x102FB, [.arabic, .coptic]⟩, ⟨0x10AF2, 0x10AF2, [.manichaean, .oldUyghur]⟩,
  ⟨0x11301, 0x11301, [.grantha, .tamil]⟩, ⟨0x11303, 0x11303, [.grantha, .tamil]⟩,
  ⟨0x1133B, 0x1133C, [.grantha, .tamil]⟩, ⟨0x11FD0, 0x11FD1, [.grantha, .tamil]⟩,
  ⟨0x11FD3, 0x11FD3, [.grantha, .tamil]⟩, ⟨0x1BCA0, 0x1BCA3, [.duployan]⟩,
  ⟨0x1D360, 0x1D371, [.han]⟩, ⟨0x1F250, 0x1F251, [.han]⟩]

/-- The script of a character, if it has one. -/
def scriptOf? (c : Char) : Option Script := ValueRun.value? scriptRuns c

/-- The scripts that use a character. -/
def scriptsOf (c : Char) : List Script :=
  (ValueRun.value? sharedRuns c).getD (scriptOf? c).toList

namespace CharClass

/-- The characters of a script. -/
def ofScript (s : Script) : CharClass := table (ValueRun.runsWith (· == s) scriptRuns)

/-- The characters that a script uses: those listed for it, and its own that are not listed. -/
def usedBy (s : Script) : CharClass :=
  union (table (ValueRun.runsWith (·.contains s) sharedRuns))
    (diff (ofScript s) (table (ValueRun.runsWith (fun _ => true) sharedRuns)))

end CharClass

end Gallery.Regex
