/-!
# Names of properties and their values

A name is looked up without regard to case, blanks, hyphens and underscores, and without a leading
`is`. Each list pairs the names in that form with the short name under which the tables hold the
set.
-/

namespace TransitionMap.Property

/-- The general categories, single ones and groups. -/
def categoryNames : List (String × String) := [
  ("c", "C"), ("other", "C"), ("cc", "Cc"), ("control", "Cc"), ("cntrl", "Cc"), ("cf", "Cf"),
  ("format", "Cf"), ("cn", "Cn"), ("unassigned", "Cn"), ("co", "Co"), ("privateuse", "Co"),
  ("l", "L"), ("letter", "L"), ("lc", "LC"), ("casedletter", "LC"), ("ll", "Ll"),
  ("lowercaseletter", "Ll"), ("lm", "Lm"), ("modifierletter", "Lm"), ("lo", "Lo"),
  ("otherletter", "Lo"), ("lt", "Lt"), ("titlecaseletter", "Lt"), ("lu", "Lu"),
  ("uppercaseletter", "Lu"), ("m", "M"), ("mark", "M"), ("combiningmark", "M"), ("mc", "Mc"),
  ("spacingmark", "Mc"), ("me", "Me"), ("enclosingmark", "Me"), ("mn", "Mn"),
  ("nonspacingmark", "Mn"), ("n", "N"), ("number", "N"), ("nd", "Nd"), ("decimalnumber", "Nd"),
  ("digit", "Nd"), ("nl", "Nl"), ("letternumber", "Nl"), ("no", "No"), ("othernumber", "No"),
  ("p", "P"), ("punctuation", "P"), ("punct", "P"), ("pc", "Pc"), ("connectorpunctuation", "Pc"),
  ("pd", "Pd"), ("dashpunctuation", "Pd"), ("pe", "Pe"), ("closepunctuation", "Pe"), ("pf", "Pf"),
  ("finalpunctuation", "Pf"), ("pi", "Pi"), ("initialpunctuation", "Pi"), ("po", "Po"),
  ("otherpunctuation", "Po"), ("ps", "Ps"), ("openpunctuation", "Ps"), ("s", "S"),
  ("symbol", "S"), ("sc", "Sc"), ("currencysymbol", "Sc"), ("sk", "Sk"), ("modifiersymbol", "Sk"),
  ("sm", "Sm"), ("mathsymbol", "Sm"), ("so", "So"), ("othersymbol", "So"), ("z", "Z"),
  ("separator", "Z"), ("zl", "Zl"), ("lineseparator", "Zl"), ("zp", "Zp"),
  ("paragraphseparator", "Zp"), ("zs", "Zs"), ("spaceseparator", "Zs")]

/-- The scripts. -/
def scriptNames : List (String × String) := [
  ("adlm", "Adlm"), ("adlam", "Adlm"), ("aghb", "Aghb"), ("caucasianalbanian", "Aghb"),
  ("ahom", "Ahom"), ("arab", "Arab"), ("arabic", "Arab"), ("armi", "Armi"),
  ("imperialaramaic", "Armi"), ("armn", "Armn"), ("armenian", "Armn"), ("avst", "Avst"),
  ("avestan", "Avst"), ("bali", "Bali"), ("balinese", "Bali"), ("bamu", "Bamu"),
  ("bamum", "Bamu"), ("bass", "Bass"), ("bassavah", "Bass"), ("batk", "Batk"), ("batak", "Batk"),
  ("beng", "Beng"), ("bengali", "Beng"), ("bhks", "Bhks"), ("bhaiksuki", "Bhks"),
  ("bopo", "Bopo"), ("bopomofo", "Bopo"), ("brah", "Brah"), ("brahmi", "Brah"), ("brai", "Brai"),
  ("braille", "Brai"), ("bugi", "Bugi"), ("buginese", "Bugi"), ("buhd", "Buhd"),
  ("buhid", "Buhd"), ("cakm", "Cakm"), ("chakma", "Cakm"), ("cans", "Cans"),
  ("canadianaboriginal", "Cans"), ("cari", "Cari"), ("carian", "Cari"), ("cham", "Cham"),
  ("cher", "Cher"), ("cherokee", "Cher"), ("chrs", "Chrs"), ("chorasmian", "Chrs"),
  ("copt", "Copt"), ("coptic", "Copt"), ("qaac", "Copt"), ("cpmn", "Cpmn"),
  ("cyprominoan", "Cpmn"), ("cprt", "Cprt"), ("cypriot", "Cprt"), ("cyrl", "Cyrl"),
  ("cyrillic", "Cyrl"), ("deva", "Deva"), ("devanagari", "Deva"), ("diak", "Diak"),
  ("divesakuru", "Diak"), ("dogr", "Dogr"), ("dogra", "Dogr"), ("dsrt", "Dsrt"),
  ("deseret", "Dsrt"), ("dupl", "Dupl"), ("duployan", "Dupl"), ("egyp", "Egyp"),
  ("egyptianhieroglyphs", "Egyp"), ("elba", "Elba"), ("elbasan", "Elba"), ("elym", "Elym"),
  ("elymaic", "Elym"), ("ethi", "Ethi"), ("ethiopic", "Ethi"), ("gara", "Gara"),
  ("garay", "Gara"), ("geor", "Geor"), ("georgian", "Geor"), ("glag", "Glag"),
  ("glagolitic", "Glag"), ("gong", "Gong"), ("gunjalagondi", "Gong"), ("gonm", "Gonm"),
  ("masaramgondi", "Gonm"), ("goth", "Goth"), ("gothic", "Goth"), ("gran", "Gran"),
  ("grantha", "Gran"), ("grek", "Grek"), ("greek", "Grek"), ("gujr", "Gujr"),
  ("gujarati", "Gujr"), ("gukh", "Gukh"), ("gurungkhema", "Gukh"), ("guru", "Guru"),
  ("gurmukhi", "Guru"), ("hang", "Hang"), ("hangul", "Hang"), ("hani", "Hani"), ("han", "Hani"),
  ("hano", "Hano"), ("hanunoo", "Hano"), ("hatr", "Hatr"), ("hatran", "Hatr"), ("hebr", "Hebr"),
  ("hebrew", "Hebr"), ("hira", "Hira"), ("hiragana", "Hira"), ("hluw", "Hluw"),
  ("anatolianhieroglyphs", "Hluw"), ("hmng", "Hmng"), ("pahawhhmong", "Hmng"), ("hmnp", "Hmnp"),
  ("nyiakengpuachuehmong", "Hmnp"), ("hung", "Hung"), ("oldhungarian", "Hung"), ("ital", "Ital"),
  ("olditalic", "Ital"), ("java", "Java"), ("javanese", "Java"), ("kali", "Kali"),
  ("kayahli", "Kali"), ("kana", "Kana"), ("katakana", "Kana"), ("kawi", "Kawi"), ("khar", "Khar"),
  ("kharoshthi", "Khar"), ("khmr", "Khmr"), ("khmer", "Khmr"), ("khoj", "Khoj"),
  ("khojki", "Khoj"), ("kits", "Kits"), ("khitansmallscript", "Kits"), ("knda", "Knda"),
  ("kannada", "Knda"), ("krai", "Krai"), ("kiratrai", "Krai"), ("kthi", "Kthi"),
  ("kaithi", "Kthi"), ("lana", "Lana"), ("taitham", "Lana"), ("laoo", "Laoo"), ("lao", "Laoo"),
  ("latn", "Latn"), ("latin", "Latn"), ("lepc", "Lepc"), ("lepcha", "Lepc"), ("limb", "Limb"),
  ("limbu", "Limb"), ("lina", "Lina"), ("lineara", "Lina"), ("linb", "Linb"), ("linearb", "Linb"),
  ("lisu", "Lisu"), ("lyci", "Lyci"), ("lycian", "Lyci"), ("lydi", "Lydi"), ("lydian", "Lydi"),
  ("mahj", "Mahj"), ("mahajani", "Mahj"), ("maka", "Maka"), ("makasar", "Maka"), ("mand", "Mand"),
  ("mandaic", "Mand"), ("mani", "Mani"), ("manichaean", "Mani"), ("marc", "Marc"),
  ("marchen", "Marc"), ("medf", "Medf"), ("medefaidrin", "Medf"), ("mend", "Mend"),
  ("mendekikakui", "Mend"), ("merc", "Merc"), ("meroiticcursive", "Merc"), ("mero", "Mero"),
  ("meroitichieroglyphs", "Mero"), ("mlym", "Mlym"), ("malayalam", "Mlym"), ("modi", "Modi"),
  ("mong", "Mong"), ("mongolian", "Mong"), ("mroo", "Mroo"), ("mro", "Mroo"), ("mtei", "Mtei"),
  ("meeteimayek", "Mtei"), ("mult", "Mult"), ("multani", "Mult"), ("mymr", "Mymr"),
  ("myanmar", "Mymr"), ("nagm", "Nagm"), ("nagmundari", "Nagm"), ("nand", "Nand"),
  ("nandinagari", "Nand"), ("narb", "Narb"), ("oldnortharabian", "Narb"), ("nbat", "Nbat"),
  ("nabataean", "Nbat"), ("newa", "Newa"), ("nkoo", "Nkoo"), ("nko", "Nkoo"), ("nshu", "Nshu"),
  ("nushu", "Nshu"), ("ogam", "Ogam"), ("ogham", "Ogam"), ("olck", "Olck"), ("olchiki", "Olck"),
  ("onao", "Onao"), ("olonal", "Onao"), ("orkh", "Orkh"), ("oldturkic", "Orkh"), ("orya", "Orya"),
  ("oriya", "Orya"), ("osge", "Osge"), ("osage", "Osge"), ("osma", "Osma"), ("osmanya", "Osma"),
  ("ougr", "Ougr"), ("olduyghur", "Ougr"), ("palm", "Palm"), ("palmyrene", "Palm"),
  ("pauc", "Pauc"), ("paucinhau", "Pauc"), ("perm", "Perm"), ("oldpermic", "Perm"),
  ("phag", "Phag"), ("phagspa", "Phag"), ("phli", "Phli"), ("inscriptionalpahlavi", "Phli"),
  ("phlp", "Phlp"), ("psalterpahlavi", "Phlp"), ("phnx", "Phnx"), ("phoenician", "Phnx"),
  ("plrd", "Plrd"), ("miao", "Plrd"), ("prti", "Prti"), ("inscriptionalparthian", "Prti"),
  ("rjng", "Rjng"), ("rejang", "Rjng"), ("rohg", "Rohg"), ("hanifirohingya", "Rohg"),
  ("runr", "Runr"), ("runic", "Runr"), ("samr", "Samr"), ("samaritan", "Samr"), ("sarb", "Sarb"),
  ("oldsoutharabian", "Sarb"), ("saur", "Saur"), ("saurashtra", "Saur"), ("sgnw", "Sgnw"),
  ("signwriting", "Sgnw"), ("shaw", "Shaw"), ("shavian", "Shaw"), ("shrd", "Shrd"),
  ("sharada", "Shrd"), ("sidd", "Sidd"), ("siddham", "Sidd"), ("sind", "Sind"),
  ("khudawadi", "Sind"), ("sinh", "Sinh"), ("sinhala", "Sinh"), ("sogd", "Sogd"),
  ("sogdian", "Sogd"), ("sogo", "Sogo"), ("oldsogdian", "Sogo"), ("sora", "Sora"),
  ("sorasompeng", "Sora"), ("soyo", "Soyo"), ("soyombo", "Soyo"), ("sund", "Sund"),
  ("sundanese", "Sund"), ("sunu", "Sunu"), ("sunuwar", "Sunu"), ("sylo", "Sylo"),
  ("sylotinagri", "Sylo"), ("syrc", "Syrc"), ("syriac", "Syrc"), ("tagb", "Tagb"),
  ("tagbanwa", "Tagb"), ("takr", "Takr"), ("takri", "Takr"), ("tale", "Tale"), ("taile", "Tale"),
  ("talu", "Talu"), ("newtailue", "Talu"), ("taml", "Taml"), ("tamil", "Taml"), ("tang", "Tang"),
  ("tangut", "Tang"), ("tavt", "Tavt"), ("taiviet", "Tavt"), ("telu", "Telu"), ("telugu", "Telu"),
  ("tfng", "Tfng"), ("tifinagh", "Tfng"), ("tglg", "Tglg"), ("tagalog", "Tglg"), ("thaa", "Thaa"),
  ("thaana", "Thaa"), ("thai", "Thai"), ("tibt", "Tibt"), ("tibetan", "Tibt"), ("tirh", "Tirh"),
  ("tirhuta", "Tirh"), ("tnsa", "Tnsa"), ("tangsa", "Tnsa"), ("todr", "Todr"), ("todhri", "Todr"),
  ("toto", "Toto"), ("tutg", "Tutg"), ("tulutigalari", "Tutg"), ("ugar", "Ugar"),
  ("ugaritic", "Ugar"), ("vaii", "Vaii"), ("vai", "Vaii"), ("vith", "Vith"), ("vithkuqi", "Vith"),
  ("wara", "Wara"), ("warangciti", "Wara"), ("wcho", "Wcho"), ("wancho", "Wcho"),
  ("xpeo", "Xpeo"), ("oldpersian", "Xpeo"), ("xsux", "Xsux"), ("cuneiform", "Xsux"),
  ("yezi", "Yezi"), ("yezidi", "Yezi"), ("yiii", "Yiii"), ("yi", "Yiii"), ("zanb", "Zanb"),
  ("zanabazarsquare", "Zanb"), ("zinh", "Zinh"), ("inherited", "Zinh"), ("qaai", "Zinh"),
  ("zyyy", "Zyyy"), ("common", "Zyyy")]

/-- The properties that a character has or has not. -/
def binaryNames : List (String × String) := [
  ("ahex", "ASCII_Hex_Digit"), ("asciihexdigit", "ASCII_Hex_Digit"), ("alpha", "Alphabetic"),
  ("alphabetic", "Alphabetic"), ("bidic", "Bidi_Control"), ("bidicontrol", "Bidi_Control"),
  ("bidim", "Bidi_Mirrored"), ("bidimirrored", "Bidi_Mirrored"), ("ci", "Case_Ignorable"),
  ("caseignorable", "Case_Ignorable"), ("cased", "Cased"), ("cwcf", "Changes_When_Casefolded"),
  ("changeswhencasefolded", "Changes_When_Casefolded"), ("cwcm", "Changes_When_Casemapped"),
  ("changeswhencasemapped", "Changes_When_Casemapped"), ("cwl", "Changes_When_Lowercased"),
  ("changeswhenlowercased", "Changes_When_Lowercased"), ("cwt", "Changes_When_Titlecased"),
  ("changeswhentitlecased", "Changes_When_Titlecased"), ("cwu", "Changes_When_Uppercased"),
  ("changeswhenuppercased", "Changes_When_Uppercased"), ("dash", "Dash"),
  ("di", "Default_Ignorable_Code_Point"),
  ("defaultignorablecodepoint", "Default_Ignorable_Code_Point"), ("dep", "Deprecated"),
  ("deprecated", "Deprecated"), ("dia", "Diacritic"), ("diacritic", "Diacritic"),
  ("emoji", "Emoji"), ("ecomp", "Emoji_Component"), ("emojicomponent", "Emoji_Component"),
  ("emod", "Emoji_Modifier"), ("emojimodifier", "Emoji_Modifier"),
  ("ebase", "Emoji_Modifier_Base"), ("emojimodifierbase", "Emoji_Modifier_Base"),
  ("epres", "Emoji_Presentation"), ("emojipresentation", "Emoji_Presentation"),
  ("extpict", "Extended_Pictographic"), ("extendedpictographic", "Extended_Pictographic"),
  ("ext", "Extender"), ("extender", "Extender"), ("grbase", "Grapheme_Base"),
  ("graphemebase", "Grapheme_Base"), ("grext", "Grapheme_Extend"),
  ("graphemeextend", "Grapheme_Extend"), ("grlink", "Grapheme_Link"),
  ("graphemelink", "Grapheme_Link"), ("hex", "Hex_Digit"), ("hexdigit", "Hex_Digit"),
  ("hyphen", "Hyphen"), ("idsb", "IDS_Binary_Operator"),
  ("idsbinaryoperator", "IDS_Binary_Operator"), ("idst", "IDS_Trinary_Operator"),
  ("idstrinaryoperator", "IDS_Trinary_Operator"), ("idsu", "IDS_Unary_Operator"),
  ("idsunaryoperator", "IDS_Unary_Operator"), ("idcompatmathcontinue", "ID_Compat_Math_Continue"),
  ("idcompatmathstart", "ID_Compat_Math_Start"), ("idc", "ID_Continue"),
  ("idcontinue", "ID_Continue"), ("ids", "ID_Start"), ("idstart", "ID_Start"),
  ("ideo", "Ideographic"), ("ideographic", "Ideographic"), ("joinc", "Join_Control"),
  ("joincontrol", "Join_Control"), ("loe", "Logical_Order_Exception"),
  ("logicalorderexception", "Logical_Order_Exception"), ("lower", "Lowercase"),
  ("lowercase", "Lowercase"), ("math", "Math"), ("mcm", "Modifier_Combining_Mark"),
  ("modifiercombiningmark", "Modifier_Combining_Mark"), ("nchar", "Noncharacter_Code_Point"),
  ("noncharactercodepoint", "Noncharacter_Code_Point"), ("oalpha", "Other_Alphabetic"),
  ("otheralphabetic", "Other_Alphabetic"), ("odi", "Other_Default_Ignorable_Code_Point"),
  ("otherdefaultignorablecodepoint", "Other_Default_Ignorable_Code_Point"),
  ("ogrext", "Other_Grapheme_Extend"), ("othergraphemeextend", "Other_Grapheme_Extend"),
  ("oidc", "Other_ID_Continue"), ("otheridcontinue", "Other_ID_Continue"),
  ("oids", "Other_ID_Start"), ("otheridstart", "Other_ID_Start"), ("olower", "Other_Lowercase"),
  ("otherlowercase", "Other_Lowercase"), ("omath", "Other_Math"), ("othermath", "Other_Math"),
  ("oupper", "Other_Uppercase"), ("otheruppercase", "Other_Uppercase"),
  ("patsyn", "Pattern_Syntax"), ("patternsyntax", "Pattern_Syntax"),
  ("patws", "Pattern_White_Space"), ("patternwhitespace", "Pattern_White_Space"),
  ("pcm", "Prepended_Concatenation_Mark"),
  ("prependedconcatenationmark", "Prepended_Concatenation_Mark"), ("qmark", "Quotation_Mark"),
  ("quotationmark", "Quotation_Mark"), ("radical", "Radical"), ("ri", "Regional_Indicator"),
  ("regionalindicator", "Regional_Indicator"), ("sterm", "Sentence_Terminal"),
  ("sentenceterminal", "Sentence_Terminal"), ("sd", "Soft_Dotted"), ("softdotted", "Soft_Dotted"),
  ("term", "Terminal_Punctuation"), ("terminalpunctuation", "Terminal_Punctuation"),
  ("uideo", "Unified_Ideograph"), ("unifiedideograph", "Unified_Ideograph"),
  ("upper", "Uppercase"), ("uppercase", "Uppercase"), ("vs", "Variation_Selector"),
  ("variationselector", "Variation_Selector"), ("wspace", "White_Space"),
  ("whitespace", "White_Space"), ("space", "White_Space"), ("xidc", "XID_Continue"),
  ("xidcontinue", "XID_Continue"), ("xids", "XID_Start"), ("xidstart", "XID_Start")]

/-- The versions in which characters were added. -/
def ageNames : List (String × String) := [
  ("1.1", "1.1"), ("v11", "1.1"), ("2.0", "2.0"), ("v20", "2.0"), ("2.1", "2.1"), ("v21", "2.1"),
  ("3.0", "3.0"), ("v30", "3.0"), ("3.1", "3.1"), ("v31", "3.1"), ("3.2", "3.2"), ("v32", "3.2"),
  ("4.0", "4.0"), ("v40", "4.0"), ("4.1", "4.1"), ("v41", "4.1"), ("5.0", "5.0"), ("v50", "5.0"),
  ("5.1", "5.1"), ("v51", "5.1"), ("5.2", "5.2"), ("v52", "5.2"), ("6.0", "6.0"), ("v60", "6.0"),
  ("6.1", "6.1"), ("v61", "6.1"), ("6.2", "6.2"), ("v62", "6.2"), ("6.3", "6.3"), ("v63", "6.3"),
  ("7.0", "7.0"), ("v70", "7.0"), ("8.0", "8.0"), ("v80", "8.0"), ("9.0", "9.0"), ("v90", "9.0"),
  ("10.0", "10.0"), ("v100", "10.0"), ("11.0", "11.0"), ("v110", "11.0"), ("12.0", "12.0"),
  ("v120", "12.0"), ("12.1", "12.1"), ("v121", "12.1"), ("13.0", "13.0"), ("v130", "13.0"),
  ("14.0", "14.0"), ("v140", "14.0"), ("15.0", "15.0"), ("v150", "15.0"), ("15.1", "15.1"),
  ("v151", "15.1"), ("16.0", "16.0"), ("v160", "16.0")]

end TransitionMap.Property
