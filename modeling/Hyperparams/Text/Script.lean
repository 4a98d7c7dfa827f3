import Hyperparams.Text.Runs

/-!
# Scripts

Every code point belongs to one script (Unicode 17): a system of writing, `zyyy` for what all have
in common, `zinh` for what takes over the script before it, or `zzzz` for none.
-/

namespace Hyperparams.Text

namespace Script

def names : List (String × String) := [
  ("adlm", "adlam"), ("aghb", "caucasianalbanian"), ("ahom", "ahom"), ("arab", "arabic"),
  ("armi", "imperialaramaic"), ("armn", "armenian"), ("avst", "avestan"), ("bali", "balinese"),
  ("bamu", "bamum"), ("bass", "bassavah"), ("batk", "batak"), ("beng", "bengali"),
  ("berf", "beriaerfe"), ("bhks", "bhaiksuki"), ("bopo", "bopomofo"), ("brah", "brahmi"),
  ("brai", "braille"), ("bugi", "buginese"), ("buhd", "buhid"), ("cakm", "chakma"),
  ("cans", "canadianaboriginal"), ("cari", "carian"), ("cham", "cham"), ("cher", "cherokee"),
  ("chrs", "chorasmian"), ("copt", "coptic"), ("cpmn", "cyprominoan"), ("cprt", "cypriot"),
  ("cyrl", "cyrillic"), ("deva", "devanagari"), ("diak", "divesakuru"), ("dogr", "dogra"),
  ("dsrt", "deseret"), ("dupl", "duployan"), ("egyp", "egyptianhieroglyphs"), ("elba", "elbasan"),
  ("elym", "elymaic"), ("ethi", "ethiopic"), ("gara", "garay"), ("geor", "georgian"),
  ("glag", "glagolitic"), ("gong", "gunjalagondi"), ("gonm", "masaramgondi"), ("goth", "gothic"),
  ("gran", "grantha"), ("grek", "greek"), ("gujr", "gujarati"), ("gukh", "gurungkhema"),
  ("guru", "gurmukhi"), ("hang", "hangul"), ("hani", "han"), ("hano", "hanunoo"),
  ("hatr", "hatran"), ("hebr", "hebrew"), ("hira", "hiragana"), ("hluw", "anatolianhieroglyphs"),
  ("hmng", "pahawhhmong"), ("hmnp", "nyiakengpuachuehmong"), ("hung", "oldhungarian"),
  ("ital", "olditalic"), ("java", "javanese"), ("kali", "kayahli"), ("kana", "katakana"),
  ("kawi", "kawi"), ("khar", "kharoshthi"), ("khmr", "khmer"), ("khoj", "khojki"),
  ("kits", "khitansmallscript"), ("knda", "kannada"), ("krai", "kiratrai"), ("kthi", "kaithi"),
  ("lana", "taitham"), ("laoo", "lao"), ("latn", "latin"), ("lepc", "lepcha"), ("limb", "limbu"),
  ("lina", "lineara"), ("linb", "linearb"), ("lisu", "lisu"), ("lyci", "lycian"),
  ("lydi", "lydian"), ("mahj", "mahajani"), ("maka", "makasar"), ("mand", "mandaic"),
  ("mani", "manichaean"), ("marc", "marchen"), ("medf", "medefaidrin"), ("mend", "mendekikakui"),
  ("merc", "meroiticcursive"), ("mero", "meroitichieroglyphs"), ("mlym", "malayalam"),
  ("modi", "modi"), ("mong", "mongolian"), ("mroo", "mro"), ("mtei", "meeteimayek"),
  ("mult", "multani"), ("mymr", "myanmar"), ("nagm", "nagmundari"), ("nand", "nandinagari"),
  ("narb", "oldnortharabian"), ("nbat", "nabataean"), ("newa", "newa"), ("nkoo", "nko"),
  ("nshu", "nushu"), ("ogam", "ogham"), ("olck", "olchiki"), ("onao", "olonal"),
  ("orkh", "oldturkic"), ("orya", "oriya"), ("osge", "osage"), ("osma", "osmanya"),
  ("ougr", "olduyghur"), ("palm", "palmyrene"), ("pauc", "paucinhau"), ("perm", "oldpermic"),
  ("phag", "phagspa"), ("phli", "inscriptionalpahlavi"), ("phlp", "psalterpahlavi"),
  ("phnx", "phoenician"), ("plrd", "miao"), ("prti", "inscriptionalparthian"), ("rjng", "rejang"),
  ("rohg", "hanifirohingya"), ("runr", "runic"), ("samr", "samaritan"),
  ("sarb", "oldsoutharabian"), ("saur", "saurashtra"), ("sgnw", "signwriting"),
  ("shaw", "shavian"), ("shrd", "sharada"), ("sidd", "siddham"), ("sidt", "sidetic"),
  ("sind", "khudawadi"), ("sinh", "sinhala"), ("sogd", "sogdian"), ("sogo", "oldsogdian"),
  ("sora", "sorasompeng"), ("soyo", "soyombo"), ("sund", "sundanese"), ("sunu", "sunuwar"),
  ("sylo", "sylotinagri"), ("syrc", "syriac"), ("tagb", "tagbanwa"), ("takr", "takri"),
  ("tale", "taile"), ("talu", "newtailue"), ("taml", "tamil"), ("tang", "tangut"),
  ("tavt", "taiviet"), ("tayo", "taiyo"), ("telu", "telugu"), ("tfng", "tifinagh"),
  ("tglg", "tagalog"), ("thaa", "thaana"), ("thai", "thai"), ("tibt", "tibetan"),
  ("tirh", "tirhuta"), ("tnsa", "tangsa"), ("todr", "todhri"), ("tols", "tolongsiki"),
  ("toto", "toto"), ("tutg", "tulutigalari"), ("ugar", "ugaritic"), ("vaii", "vai"),
  ("vith", "vithkuqi"), ("wara", "warangciti"), ("wcho", "wancho"), ("xpeo", "oldpersian"),
  ("xsux", "cuneiform"), ("yezi", "yezidi"), ("yiii", "yi"), ("zanb", "zanabazarsquare"),
  ("zinh", "inherited"), ("zyyy", "common")]

/-- The short name of a script of either name. -/
def ofName? (name : String) : Option String :=
  let name := if name = "qaac" then "copt" else if name = "qaai" then "zinh" else name
  (names.find? fun entry => entry.1 = name || entry.2 = name).map Prod.fst

def rows : List String := [
  "zyyy65 latn26 zyyy6 latn26 zyyy47 latn1 zyyy15 latn1 zyyy5 latn23 zyyy1 latn31 zyyy1",
  "latn449 zyyy39 latn5 zyyy5 bopo2 zyyy20 zinh112 grek4 zyyy1 grek3 zzzz2 grek4 zyyy1",
  "grek1 zzzz4 grek1 zyyy1 grek1 zyyy1 grek3 zzzz1 grek1 zzzz1 grek20 zzzz1 grek63 copt14",
  "grek16 cyrl133 zinh2 cyrl169 zzzz1 armn38 zzzz2 armn50 zzzz2 armn3 zzzz1 hebr55 zzzz8",
  "hebr27 zzzz4 hebr6 zzzz11 arab5 zyyy1 arab6 zyyy1 arab14 zyyy1 arab3 zyyy1 arab32 zyyy1",
  "arab10 zinh11 arab26 zinh1 arab108 zyyy1 arab34 syrc14 zzzz1 syrc60 zzzz2 syrc3 arab48",
  "thaa50 zzzz14 nkoo59 zzzz2 nkoo3 samr46 zzzz2 samr15 zzzz1 mand28 zzzz2 mand1 zzzz1",
  "syrc11 zzzz5 arab34 zzzz5 arab75 zyyy1 arab29 deva81 zinh4 deva15 zyyy2 deva26 beng4",
  "zzzz1 beng8 zzzz2 beng2 zzzz2 beng22 zzzz1 beng7 zzzz1 beng1 zzzz3 beng4 zzzz2 beng9",
  "zzzz2 beng2 zzzz2 beng4 zzzz8 beng1 zzzz4 beng2 zzzz1 beng5 zzzz2 beng25 zzzz2 guru3",
  "zzzz1 guru6 zzzz4 guru2 zzzz2 guru22 zzzz1 guru7 zzzz1 guru2 zzzz1 guru2 zzzz1 guru2",
  "zzzz2 guru1 zzzz1 guru5 zzzz4 guru2 zzzz2 guru3 zzzz3 guru1 zzzz7 guru4 zzzz1 guru1",
  "zzzz7 guru17 zzzz10 gujr3 zzzz1 gujr9 zzzz1 gujr3 zzzz1 gujr22 zzzz1 gujr7 zzzz1 gujr2",
  "zzzz1 gujr5 zzzz2 gujr10 zzzz1 gujr3 zzzz1 gujr3 zzzz2 gujr1 zzzz15 gujr4 zzzz2 gujr12",
  "zzzz7 gujr7 zzzz1 orya3 zzzz1 orya8 zzzz2 orya2 zzzz2 orya22 zzzz1 orya7 zzzz1 orya2",
  "zzzz1 orya5 zzzz2 orya9 zzzz2 orya2 zzzz2 orya3 zzzz7 orya3 zzzz4 orya2 zzzz1 orya5",
  "zzzz2 orya18 zzzz10 taml2 zzzz1 taml6 zzzz3 taml3 zzzz1 taml4 zzzz3 taml2 zzzz1 taml1",
  "zzzz1 taml2 zzzz3 taml2 zzzz3 taml3 zzzz3 taml12 zzzz4 taml5 zzzz3 taml3 zzzz1 taml4",
  "zzzz2 taml1 zzzz6 taml1 zzzz14 taml21 zzzz5 telu13 zzzz1 telu3 zzzz1 telu23 zzzz1 telu16",
  "zzzz2 telu9 zzzz1 telu3 zzzz1 telu4 zzzz7 telu2 zzzz1 telu3 zzzz1 telu2 zzzz2 telu4",
  "zzzz2 telu10 zzzz7 telu9 knda13 zzzz1 knda3 zzzz1 knda23 zzzz1 knda10 zzzz1 knda5 zzzz2",
  "knda9 zzzz1 knda3 zzzz1 knda4 zzzz7 knda2 zzzz5 knda3 zzzz1 knda4 zzzz2 knda10 zzzz1",
  "knda3 zzzz12 mlym13 zzzz1 mlym3 zzzz1 mlym51 zzzz1 mlym3 zzzz1 mlym6 zzzz4 mlym16 zzzz2",
  "mlym26 zzzz1 sinh3 zzzz1 sinh18 zzzz3 sinh24 zzzz1 sinh9 zzzz1 sinh1 zzzz2 sinh7 zzzz3",
  "sinh1 zzzz4 sinh6 zzzz1 sinh1 zzzz1 sinh8 zzzz6 sinh10 zzzz2 sinh3 zzzz12 thai58 zzzz4",
  "zyyy1 thai28 zzzz37 laoo2 zzzz1 laoo1 zzzz1 laoo5 zzzz1 laoo24 zzzz1 laoo1 zzzz1 laoo23",
  "zzzz2 laoo5 zzzz1 laoo1 zzzz1 laoo7 zzzz1 laoo10 zzzz2 laoo4 zzzz32 tibt72 zzzz1 tibt36",
  "zzzz4 tibt39 zzzz1 tibt36 zzzz1 tibt15 zzzz1 tibt7 zyyy4 tibt2 zzzz37 mymr160 geor38",
  "zzzz1 geor1 zzzz5 geor1 zzzz2 geor43 zyyy1 geor4 hang256 ethi73 zzzz1 ethi4 zzzz2 ethi7",
  "zzzz1 ethi1 zzzz1 ethi4 zzzz2 ethi41 zzzz1 ethi4 zzzz2 ethi33 zzzz1 ethi4 zzzz2 ethi7",
  "zzzz1 ethi1 zzzz1 ethi4 zzzz2 ethi15 zzzz1 ethi57 zzzz1 ethi4 zzzz2 ethi67 zzzz2 ethi32",
  "zzzz3 ethi26 zzzz6 cher86 zzzz2 cher6 zzzz2 cans640 ogam29 zzzz3 runr75 zyyy3 runr11",
  "zzzz7 tglg22 zzzz9 tglg1 hano21 zyyy2 zzzz9 buhd20 zzzz12 tagb13 zzzz1 tagb3 zzzz1 tagb2",
  "zzzz12 khmr94 zzzz2 khmr10 zzzz6 khmr10 zzzz6 mong2 zyyy2 mong1 zyyy1 mong20 zzzz6",
  "mong89 zzzz7 mong43 zzzz5 cans70 zzzz10 limb31 zzzz1 limb12 zzzz4 limb12 zzzz4 limb1",
  "zzzz3 limb12 tale30 zzzz2 tale5 zzzz11 talu44 zzzz4 talu26 zzzz6 talu11 zzzz3 talu2",
  "khmr32 bugi28 zzzz2 bugi2 lana63 zzzz1 lana29 zzzz2 lana11 zzzz6 lana10 zzzz6 lana14",
  "zzzz2 zinh46 zzzz2 zinh12 zzzz20 bali77 zzzz1 bali50 sund64 batk52 zzzz8 batk4 lepc56",
  "zzzz3 lepc15 zzzz3 lepc3 olck48 cyrl11 zzzz5 geor43 zzzz2 geor3 sund8 zzzz8 zinh3 zyyy1",
  "zinh13 zyyy1 zinh7 zyyy4 zinh1 zyyy6 zinh1 zyyy3 zinh2 zyyy1 zzzz5 latn38 grek5 cyrl1",
  "latn49 grek5 latn4 grek5 latn13 cyrl1 latn70 grek1 zinh64 latn256 grek22 zzzz2 grek6",
  "zzzz2 grek38 zzzz2 grek6 zzzz2 grek8 zzzz1 grek1 zzzz1 grek1 zzzz1 grek1 zzzz1 grek31",
  "zzzz2 grek53 zzzz1 grek15 zzzz1 grek14 zzzz2 grek6 zzzz1 grek19 zzzz2 grek3 zzzz1 grek9",
  "zzzz1 zyyy12 zinh2 zyyy87 zzzz1 zyyy11 latn1 zzzz2 zyyy11 latn1 zyyy15 zzzz1 latn13",
  "zzzz3 zyyy34 zzzz14 zinh33 zzzz15 zyyy38 grek1 zyyy3 latn2 zyyy6 latn1 zyyy27 latn1",
  "zyyy17 latn41 zyyy3 zzzz4 zyyy666 zzzz22 zyyy11 zzzz21 zyyy928 brai256 zyyy628 zzzz2",
  "zyyy138 glag96 latn32 copt116 zzzz5 copt7 geor38 zzzz1 geor1 zzzz5 geor1 zzzz2 tfng56",
  "zzzz7 tfng2 zzzz14 tfng1 ethi23 zzzz9 ethi7 zzzz1 ethi7 zzzz1 ethi7 zzzz1 ethi7 zzzz1",
  "ethi7 zzzz1 ethi7 zzzz1 ethi7 zzzz1 ethi7 zzzz1 cyrl32 zyyy94 zzzz34 hani26 zzzz1 hani89",
  "zzzz12 hani214 zzzz26 zyyy21 hani1 zyyy1 hani1 zyyy25 hani9 zinh4 hang2 zyyy8 hani4",
  "zyyy4 zzzz1 hira86 zzzz2 zinh2 zyyy2 hira3 zyyy1 kana90 zyyy2 kana3 zzzz5 bopo43 zzzz1",
  "hang94 zzzz1 zyyy16 bopo32 zyyy38 zzzz9 zyyy1 kana16 hang31 zzzz1 zyyy64 hang31 zyyy81",
  "kana47 zyyy1 kana88 zyyy168 hani6592 zyyy64 hani20992 yiii1165 zzzz3 yiii55 zzzz9 lisu48",
  "vaii300 zzzz20 cyrl96 bamu88 zzzz8 zyyy34 latn102 zyyy3 latn82 zzzz20 latn15 sylo45",
  "zzzz3 zyyy10 zzzz6 phag56 zzzz8 saur70 zzzz8 saur12 zzzz6 deva32 kali46 zyyy1 kali1",
  "rjng36 zzzz11 rjng1 hang29 zzzz3 java78 zzzz1 zyyy1 java10 zzzz4 java2 mymr31 zzzz1",
  "cham55 zzzz9 cham14 zzzz2 cham10 zzzz2 cham4 mymr32 tavt67 zzzz24 tavt5 mtei23 zzzz10",
  "ethi6 zzzz2 ethi6 zzzz2 ethi6 zzzz9 ethi7 zzzz1 ethi7 zzzz1 latn43 zyyy1 latn9 grek1",
  "latn4 zyyy2 zzzz4 cher80 mtei46 zzzz2 mtei10 zzzz6 hang11172 zzzz12 hang23 zzzz4 hang49",
  "zzzz8452 hani366 zzzz2 hani106 zzzz38 latn7 zzzz12 armn5 zzzz5 hebr26 zzzz1 hebr5 zzzz1",
  "hebr1 zzzz1 hebr2 zzzz1 hebr2 zzzz1 hebr10 arab494 zyyy2 arab144 zzzz32 arab16 zinh16",
  "zyyy10 zzzz6 zinh14 cyrl2 zyyy35 zzzz1 zyyy19 zzzz1 zyyy4 zzzz4 arab5 zzzz1 arab135",
  "zzzz2 zyyy1 zzzz1 zyyy32 latn26 zyyy6 latn26 zyyy11 kana10 zyyy1 kana45 zyyy2 hang31",
  "zzzz3 hang6 zzzz2 hang6 zzzz2 hang6 zzzz2 hang3 zzzz3 zyyy7 zzzz1 zyyy7 zzzz10 zyyy5",
  "zzzz2 linb12 zzzz1 linb26 zzzz1 linb19 zzzz1 linb2 zzzz1 linb15 zzzz2 linb14 zzzz34",
  "linb123 zzzz5 zyyy3 zzzz4 zyyy45 zzzz3 zyyy9 grek79 zzzz1 zyyy13 zzzz3 grek1 zzzz47",
  "zyyy45 zinh1 zzzz130 lyci29 zzzz3 cari49 zzzz15 zinh1 zyyy27 zzzz4 ital36 zzzz9 ital3",
  "goth27 zzzz5 perm43 zzzz5 ugar30 zzzz1 ugar1 xpeo36 zzzz4 xpeo14 zzzz42 dsrt80 shaw48",
  "osma30 zzzz2 osma10 zzzz6 osge36 zzzz4 osge36 zzzz4 elba40 zzzz8 aghb52 zzzz11 aghb1",
  "vith11 zzzz1 vith15 zzzz1 vith7 zzzz1 vith2 zzzz1 vith11 zzzz1 vith15 zzzz1 vith7 zzzz1",
  "vith2 zzzz3 todr52 zzzz12 lina311 zzzz9 lina22 zzzz10 lina8 zzzz24 latn6 zzzz1 latn42",
  "zzzz1 latn9 zzzz69 cprt6 zzzz2 cprt1 zzzz1 cprt44 zzzz1 cprt2 zzzz3 cprt1 zzzz2 cprt1",
  "armi22 zzzz1 armi9 palm32 nbat31 zzzz8 nbat9 zzzz48 hatr19 zzzz1 hatr2 zzzz5 hatr5",
  "phnx28 zzzz3 phnx1 lydi26 zzzz5 lydi1 sidt26 zzzz38 mero32 merc24 zzzz4 merc20 zzzz2",
  "merc46 khar4 zzzz1 khar2 zzzz5 khar8 zzzz1 khar3 zzzz1 khar29 zzzz2 khar3 zzzz4 khar10",
  "zzzz7 khar9 zzzz7 sarb32 narb32 zzzz32 mani39 zzzz4 mani12 zzzz9 avst54 zzzz3 avst7",
  "prti22 zzzz2 prti8 phli19 zzzz5 phli8 phlp18 zzzz7 phlp4 zzzz12 phlp7 zzzz80 orkh73",
  "zzzz55 hung51 zzzz13 hung51 zzzz7 hung6 rohg40 zzzz8 rohg10 zzzz6 gara38 zzzz3 gara29",
  "zzzz8 gara2 zzzz208 arab31 zzzz1 yezi42 zzzz1 yezi3 zzzz2 yezi2 zzzz16 arab6 zzzz8 arab9",
  "zzzz33 arab6 sogo40 zzzz8 sogd42 zzzz22 ougr26 zzzz38 chrs28 zzzz20 elym23 zzzz9 brah78",
  "zzzz4 brah36 zzzz9 brah1 kthi67 zzzz10 kthi1 zzzz2 sora25 zzzz7 sora10 zzzz6 cakm53",
  "zzzz1 cakm18 zzzz8 mahj39 zzzz9 shrd96 zzzz1 sinh20 zzzz11 khoj18 zzzz1 khoj47 zzzz62",
  "mult7 zzzz1 mult1 zzzz1 mult4 zzzz1 mult15 zzzz1 mult11 zzzz6 sind59 zzzz5 sind10 zzzz6",
  "gran4 zzzz1 gran8 zzzz2 gran2 zzzz2 gran22 zzzz1 gran7 zzzz1 gran2 zzzz1 gran5 zzzz1",
  "zinh1 gran9 zzzz2 gran2 zzzz2 gran3 zzzz2 gran1 zzzz6 gran1 zzzz5 gran7 zzzz2 gran7",
  "zzzz3 gran5 zzzz11 tutg10 zzzz1 tutg1 zzzz2 tutg1 zzzz1 tutg38 zzzz1 tutg10 zzzz1 tutg1",
  "zzzz2 tutg1 zzzz1 tutg4 zzzz1 tutg10 zzzz1 tutg2 zzzz8 tutg2 zzzz29 newa92 zzzz1 newa5",
  "zzzz30 tirh72 zzzz8 tirh10 zzzz166 sidd54 zzzz2 sidd38 zzzz34 modi69 zzzz11 modi10 zzzz6",
  "mong13 zzzz19 takr58 zzzz6 takr10 zzzz6 mymr20 zzzz28 ahom27 zzzz2 ahom15 zzzz4 ahom23",
  "zzzz185 dogr60 zzzz100 wara83 zzzz12 wara1 diak7 zzzz2 diak1 zzzz2 diak8 zzzz1 diak2",
  "zzzz1 diak30 zzzz1 diak2 zzzz2 diak12 zzzz9 diak10 zzzz70 nand8 zzzz2 nand46 zzzz2",
  "nand11 zzzz27 zanb72 zzzz8 soyo83 zzzz13 cans16 pauc57 zzzz7 deva10 zzzz86 shrd8 zzzz88",
  "sunu34 zzzz14 sunu10 zzzz6 bhks9 zzzz1 bhks45 zzzz1 bhks14 zzzz10 bhks29 zzzz3 marc32",
  "zzzz2 marc22 zzzz1 marc14 zzzz73 gonm7 zzzz1 gonm2 zzzz1 gonm44 zzzz3 gonm1 zzzz1 gonm2",
  "zzzz1 gonm9 zzzz8 gonm10 zzzz6 gong6 zzzz1 gong2 zzzz1 gong37 zzzz1 gong2 zzzz1 gong6",
  "zzzz7 gong10 zzzz6 tols44 zzzz4 tols10 zzzz246 maka25 zzzz7 kawi17 zzzz1 kawi41 zzzz3",
  "kawi29 zzzz85 lisu1 zzzz15 taml50 zzzz13 taml1 xsux922 zzzz102 xsux111 zzzz1 xsux5",
  "zzzz11 xsux196 zzzz2636 cpmn99 zzzz13 egyp1110 zzzz10 egyp3995 zzzz5 hluw583 zzzz6841",
  "gukh58 zzzz1734 bamu569 zzzz7 mroo31 zzzz1 mroo10 zzzz4 mroo2 tnsa79 zzzz1 tnsa10 zzzz6",
  "bass30 zzzz2 bass6 zzzz10 hmng70 zzzz10 hmng10 zzzz1 hmng7 zzzz1 hmng21 zzzz5 hmng19",
  "zzzz432 krai58 zzzz198 medf91 zzzz5 berf25 zzzz2 berf25 zzzz44 plrd75 zzzz4 plrd57 zzzz7",
  "plrd17 zzzz64 tang1 nshu1 hani2 kits1 zzzz11 hani7 zzzz9 tang6912 kits470 zzzz41 kits1",
  "tang31 zzzz97 tang115 zzzz8701 kana4 zzzz1 kana7 zzzz1 kana2 zzzz1 kana1 hira287 kana3",
  "zzzz15 hira1 zzzz29 hira3 zzzz2 kana1 zzzz14 kana4 zzzz8 nshu396 zzzz2308 dupl107 zzzz5",
  "dupl13 zzzz3 dupl9 zzzz7 dupl10 zzzz2 dupl4 zyyy4 zzzz3932 zyyy253 zzzz3 zyyy436 zzzz6",
  "zyyy23 zzzz15 zyyy17 zzzz15 zinh46 zzzz2 zinh23 zzzz9 zyyy116 zzzz60 zyyy246 zzzz10",
  "zyyy39 zzzz2 zyyy62 zinh3 zyyy17 zinh8 zyyy2 zinh7 zyyy30 zinh4 zyyy61 zzzz21 grek70",
  "zzzz122 zyyy20 zzzz12 zyyy20 zzzz12 zyyy87 zzzz9 zyyy25 zzzz135 zyyy85 zzzz1 zyyy71",
  "zzzz1 zyyy2 zzzz2 zyyy1 zzzz2 zyyy2 zzzz2 zyyy4 zzzz1 zyyy12 zzzz1 zyyy1 zzzz1 zyyy7",
  "zzzz1 zyyy65 zzzz1 zyyy4 zzzz2 zyyy8 zzzz1 zyyy7 zzzz1 zyyy28 zzzz1 zyyy4 zzzz1 zyyy5",
  "zzzz1 zyyy1 zzzz3 zyyy7 zzzz1 zyyy340 zzzz2 zyyy292 zzzz2 zyyy50 sgnw652 zzzz15 sgnw5",
  "zzzz1 sgnw15 zzzz1104 latn31 zzzz6 latn6 zzzz213 glag7 zzzz1 glag17 zzzz2 glag7 zzzz1",
  "glag2 zzzz1 glag5 zzzz5 cyrl62 zzzz33 cyrl1 zzzz112 hmnp45 zzzz3 hmnp14 zzzz2 hmnp10",
  "zzzz4 hmnp2 zzzz320 toto31 zzzz17 wcho58 zzzz5 wcho1 zzzz464 nagm42 zzzz214 onao43 zzzz4",
  "onao1 zzzz192 tayo31 zzzz1 tayo22 zzzz8 tayo2 zzzz224 ethi7 zzzz1 ethi4 zzzz1 ethi2",
  "zzzz1 ethi15 zzzz1 mend197 zzzz2 mend16 zzzz41 adlm76 zzzz4 adlm10 zzzz4 adlm2 zzzz785",
  "zyyy68 zzzz76 zyyy61 zzzz194 arab4 zzzz1 arab27 zzzz1 arab2 zzzz1 arab1 zzzz2 arab1",
  "zzzz1 arab10 zzzz1 arab4 zzzz1 arab1 zzzz1 arab1 zzzz6 arab1 zzzz4 arab1 zzzz1 arab1",
  "zzzz1 arab1 zzzz1 arab3 zzzz1 arab2 zzzz1 arab1 zzzz2 arab1 zzzz1 arab1 zzzz1 arab1",
  "zzzz1 arab1 zzzz1 arab1 zzzz1 arab2 zzzz1 arab1 zzzz2 arab4 zzzz1 arab7 zzzz1 arab4",
  "zzzz1 arab4 zzzz1 arab1 zzzz1 arab10 zzzz1 arab17 zzzz5 arab3 zzzz1 arab5 zzzz1 arab17",
  "zzzz52 arab2 zzzz270 zyyy44 zzzz4 zyyy100 zzzz12 zyyy15 zzzz2 zyyy15 zzzz1 zyyy15 zzzz1",
  "zyyy37 zzzz10 zyyy174 zzzz56 zyyy26 hira1 zyyy2 zzzz13 zyyy44 zzzz4 zyyy9 zzzz7 zyyy2",
  "zzzz14 zyyy6 zzzz154 zyyy985 zzzz3 zyyy17 zzzz3 zyyy13 zzzz3 zyyy218 zzzz6 zyyy12 zzzz4",
  "zyyy1 zzzz15 zyyy12 zzzz4 zyyy56 zzzz8 zyyy10 zzzz6 zyyy40 zzzz8 zyyy30 zzzz2 zyyy12",
  "zzzz4 zyyy2 zzzz14 zyyy9 zzzz39 zyyy344 zzzz8 zyyy14 zzzz2 zyyy13 zzzz3 zyyy11 zzzz3",
  "zyyy57 zzzz1 zyyy1 zzzz4 zyyy16 zzzz2 zyyy12 zzzz4 zyyy10 zzzz7 zyyy147 zzzz1 zyyy103",
  "zzzz1029 hani42720 zzzz32 hani4382 zzzz2 hani5774 zzzz2 hani7473 zzzz15 hani622 zzzz2466",
  "hani542 zzzz1506 hani4939 zzzz5 hani8490 zzzz707463 zyyy1 zzzz30 zyyy96 zzzz128 zinh240",
  "zzzz196112"
]

def runs : Runs String :=
  .ofRows id rows

end Script

def script (c : Char) : String :=
  (Script.runs.at? c.toNat).getD "zzzz"

end Hyperparams.Text
