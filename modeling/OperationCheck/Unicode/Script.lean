import OperationCheck.Unicode.Property

/-!
The scripts of Unicode.
-/

namespace OperationCheck.Unicode

/-- Each script has its names and its code ranges. -/
def scripts : List Property := [
  ⟨["adlm", "adlam"],
    ["1e90g4rkpkh"]⟩,
  ⟨["ahom"],
    ["1170g1qiuk1m"]⟩,
  ⟨["hluw", "anatolianhieroglyphs"],
    ["1440g24m"]⟩,
  ⟨["arab", "arabic"],
    ["60gkhlhthih1vhpr1ph6rh2h5g2vfg1uhhm4ph1sf25g7i1g16qi4vi3lng2gv7gkh8mf6j1u7uidf0gjh1qhh",
    "hgighphjhghgmgkghghghihhhgighghghghghhhgijhmhjhjhghph1glihkh1g3kh"]⟩,
  ⟨["armn", "armenian"],
    ["53h2li3hiif58jk"]⟩,
  ⟨["avst", "avestan"],
    ["10b0g3ljm"]⟩,
  ⟨["bali", "balinese"],
    ["1b0g4sj2u"]⟩,
  ⟨["bamu", "bamum"],
    ["a6ag5nc10o23o"]⟩,
  ⟨["bass", "bassavah"],
    ["16adg1til"]⟩,
  ⟨["batk", "batak"],
    ["1bcg3joj"]⟩,
  ⟨["beng", "bengali"],
    ["98gjhnihi1lhmhgjjioihijogkhhki1o"]⟩,
  ⟨["bhks", "bhaiksuki"],
    ["11c0goh2shtq1s"]⟩,
  ⟨["bopo", "bopomofo"],
    ["2eqh2e1p2q7g1v"]⟩,
  ⟨["brah", "brahmi"],
    ["1100g4tk2jpg"]⟩,
  ⟨["brai", "braille"],
    ["280gfv"]⟩,
  ⟨["bugi", "buginese"],
    ["1a0g1rih"]⟩,
  ⟨["buhd", "buhid"],
    ["174g1j"]⟩,
  ⟨["cans", "canadianaboriginal"],
    ["140g27v23g4l101bqv"]⟩,
  ⟨["cari", "carian"],
    ["102ag3g"]⟩,
  ⟨["aghb", "caucasianalbanian"],
    ["1053g3jrg"]⟩,
  ⟨["cakm", "chakma"],
    ["1110g3kh1h"]⟩,
  ⟨["cham"],
    ["aa0g3mptipij"]⟩,
  ⟨["cher", "cherokee"],
    ["13ag5lil977i4v"]⟩,
  ⟨["chrs", "chorasmian"],
    ["10fbg1r"]⟩,
  ⟨["zyyy", "common"],
    ["g4g1ql1q2uhuhk1ng1vg1ch2mlki1j7kgpgmghg27tgmgugjg2gg9sg20kg8hh4dpg19lj12ig5evi4nhcrhhg",
    "4ctgtgnjhlhiig30lri5mhqjqhu1h2g3v2lhiilh1qh1g2pik29m1pq1l39v10g27ji1vh6o20g5t19irkkhgh",
    "1ovnkj5rhjg5qh9jv2g2j3s3v1v5g2vg5oan19cg3v590g2h6mialpfkgagg18rguh51dihdgp1m2ih1ihj9jg",
    "h1v1ql1qqqg2th4gmhmqk10iik2sjo5gs3j2sek1qb9akj12as7j3sflq2mi3tj1gohn1tk3sdl1js1js5mp1o",
    "8n5kh4mhhigihijhrhghmh4ghjinhmh1rhjhkhgjmh15ji12ji3h147h4j4s3s2ci2rk6jsuiuhuh2kqat3o1p",
    "hht2rkonhul9q3dnk1gjsj7mk5umrkgvrk3nopm2no1tih4u15jstisjon2thmotkonon9ih3m2lpc040ng1u5",
    "v"]⟩,
  ⟨["copt", "coptic", "qaac"],
    ["3eit289g7jlm"]⟩,
  ⟨["xsux", "cuneiform"],
    ["1200g39p6m6uhkrcj"]⟩,
  ⟨["cprt", "cypriot"],
    ["1080gligh2rhhjgig"]⟩,
  ⟨["cpmn", "cyprominoan"],
    ["12f9g6i"]⟩,
  ⟨["cyrl", "cyrillic"],
    ["40g8kiao175goaig4sg106n1v784g5v578uhe20g3t2hg"]⟩,
  ⟨["dsrt", "deseret"],
    ["1040g4v"]⟩,
  ⟨["deva", "devanagari"],
    ["90g5gkui1p9f6g1v720gp"]⟩,
  ⟨["diak", "divesakuru"],
    ["1190gmiginhhh1thhirpp"]⟩,
  ⟨["dogr", "dogra"],
    ["1180g3r"]⟩,
  ⟨["dupl", "duployan"],
    ["1bc0g6qlsjonpij"]⟩,
  ⟨["egyp", "egyptianhieroglyphs"],
    ["1300g45l"]⟩,
  ⟨["elba", "elbasan"],
    ["1050g2n"]⟩,
  ⟨["elym", "elymaic"],
    ["10feg1m"]⟩,
  ⟨["ethi", "ethiopic"],
    ["120g4ohjimhghji2ohji2ghjimhghjiuh3ohji4ii1vj1p19em1mpmhmhmhmhmhmhmhm7d2ilililpmhm13cbh",
    "mhjhhhu"]⟩,
  ⟨["geor", "georgian"],
    ["10ag2lhglgi2qhjb9g2qii104g2lhglg"]⟩,
  ⟨["glag", "glagolitic"],
    ["2c0g5v1b3agmh1gimhhhk"]⟩,
  ⟨["goth", "gothic"],
    ["1033g1q"]⟩,
  ⟨["gran", "grantha"],
    ["1130gjhnihi1lhmhhhkioihiiigmglmimjk"]⟩,
  ⟨["grek", "greek"],
    ["37gjhiijhgkghghihgh1jh3uuv192mk3ikkk5kg14g1lili2lilinhghghgh1ui3khuhtilh1iiiho12ng8a3u",
    "g55dq4u1hgd05v4l"]⟩,
  ⟨["gujr", "gujarati"],
    ["a8hihohih1lhmhhhkiphihiigvjirnm"]⟩,
  ⟨["gong", "gunjalagondi"],
    ["11d6glhhh2khhhlnp"]⟩,
  ⟨["guru", "gurmukhi"],
    ["a0hihlkhi1lhmhhhhhhighkkhiijgnjhgn1g"]⟩,
  ⟨["hani", "han"],
    ["2e8g1ph5osdl2vghg1pouj3ck19bv4g51fv590g16ti6p750ohsh900ua6dv2g103pmdti168hu1d3gc1v21t5",
    "ei134ql105v"]⟩,
  ⟨["hang", "hangul"],
    ["110gfv1e2uh10h5t7h1u4h1u76eh1s28j2bajs1mk3g27ak1ujlililii"]⟩,
  ⟨["rohg", "hanifirohingya"],
    ["10d0g2nop"]⟩,
  ⟨["hano", "hanunoo"],
    ["172g1k"]⟩,
  ⟨["hatr", "hatran"],
    ["108eg1ihhlk"]⟩,
  ⟨["hebr", "hebrew"],
    ["59h3mo1qklf52o1phkhghhhhhp"]⟩,
  ⟨["hira", "hiragana"],
    ["304h5lmi17f6h11u1ig1ti40atg"]⟩,
  ⟨["armi", "imperialaramaic"],
    ["1084g1lho"]⟩,
  ⟨["zinh", "inherited", "qaai"],
    ["30g6v11lh1ckq1qg2egj115r1u20hihshmkgmgjhcm3v20shci2gf3pj6rhcd6lv1gt3cvgeig105qgbbck2ti",
    "1m22gi1hnim1ujc2f5iev"]⟩,
  ⟨["phli", "inscriptionalpahlavi"],
    ["10b6g1iln"]⟩,
  ⟨["prti", "inscriptionalparthian"],
    ["10b4g1lin"]⟩,
  ⟨["java", "javanese"],
    ["a98g4tipkh"]⟩,
  ⟨["kthi", "kaithi"],
    ["1108g4iqg"]⟩,
  ⟨["knda", "kannada"],
    ["c8gshih1mhphkiohihjnhmhhjiphi"]⟩,
  ⟨["kana", "katakana"],
    ["30ah5piifgvdg2uh5ncc0uph2sb05ijhmhhhg11vi3iguj"]⟩,
  ⟨["kawi"],
    ["11f0g1gh2oj1r"]⟩,
  ⟨["kali", "kayahli"],
    ["a90g2thg"]⟩,
  ⟨["khar", "kharoshthi"],
    ["10a0gjhhlnhih1siikpno"]⟩,
  ⟨["kits", "khitansmallscript"],
    ["16fekg1b1r1dl"]⟩,
  ⟨["khmr", "khmer"],
    ["178g5tipmp1em1v"]⟩,
  ⟨["khoj", "khojki"],
    ["1120g1hh2u"]⟩,
  ⟨["sind", "khudawadi"],
    ["112bg3qlp"]⟩,
  ⟨["laoo", "lao"],
    ["e8hhhghkh1nhgh1mikhghmhpij"]⟩,
  ⟨["latn", "latin"],
    ["4h1pm1p2vgvgl1mh1uh1cg2nk1a1r2lm3gljlsh4l4hfv17hgtg1gs8thmg1rg1h2oadn1v7aai6lj3vlhhghk",
    "1ot33g2qhohj4f9mm41q1pm1p82llh2phod74l1uml"]⟩,
  ⟨["lepc", "lepcha"],
    ["1c0g3njuji"]⟩,
  ⟨["limb", "limbu"],
    ["190g1uhrkrkgjr"]⟩,
  ⟨["lina", "lineara"],
    ["1060g13mp1lqn"]⟩,
  ⟨["linb", "linearb"],
    ["1000grh1ph1ihhhuit2i7q"]⟩,
  ⟨["lisu"],
    ["a4dg2v7abgg"]⟩,
  ⟨["lyci", "lycian"],
    ["1028g1s"]⟩,
  ⟨["lydi", "lydian"],
    ["1092g1plg"]⟩,
  ⟨["mahj", "mahajani"],
    ["1115g2m"]⟩,
  ⟨["maka", "makasar"],
    ["11eeg1o"]⟩,
  ⟨["mlym", "malayalam"],
    ["d0gshih3ihihlkvi1p"]⟩,
  ⟨["mand", "mandaic"],
    ["84g1rig"]⟩,
  ⟨["mani", "manichaean"],
    ["10acg2mkr"]⟩,
  ⟨["marc", "marchen"],
    ["11c7g1vi1lht"]⟩,
  ⟨["gonm", "masaramgondi"],
    ["11d0gmhhh2rjghhhoop"]⟩,
  ⟨["medf", "medefaidrin"],
    ["16e4g5q"]⟩,
  ⟨["mtei", "meeteimayek"],
    ["aaeg1mcp2tip"]⟩,
  ⟨["mend", "mendekikakui"],
    ["1e80gckiv"]⟩,
  ⟨["merc", "meroiticcursive"],
    ["109ag1nk1ji2t"]⟩,
  ⟨["mero", "meroitichieroglyphs"],
    ["1098g1v"]⟩,
  ⟨["plrd", "miao"],
    ["16f0g4qk3on1g"]⟩,
  ⟨["modi"],
    ["1160g4krp"]⟩,
  ⟨["mong", "mongolian"],
    ["180ghigh1jm5on2qfdbls"]⟩,
  ⟨["mroo", "mro"],
    ["16a4g1uhpkh"]⟩,
  ⟨["mult", "multani"],
    ["1128gmhghjhuhq"]⟩,
  ⟨["mymr", "myanmar"],
    ["100g9v994g1u6h1v"]⟩,
  ⟨["nbat", "nabataean"],
    ["1088g1uoo"]⟩,
  ⟨["nagm", "nagmundari"],
    ["1e4dg2p"]⟩,
  ⟨["nand", "nandinagari"],
    ["119agni2tiq"]⟩,
  ⟨["talu", "newtailue"],
    ["198g2rk1pmqjh"]⟩,
  ⟨["newa"],
    ["1140g5rhk"]⟩,
  ⟨["nkoo", "nko"],
    ["7cg3qii"]⟩,
  ⟨["nshu", "nushu"],
    ["16fehg418u18r"]⟩,
  ⟨["hmnp", "nyiakengpuachuehmong"],
    ["1e10g2sjtipkh"]⟩,
  ⟨["ogam", "ogham"],
    ["168g1s"]⟩,
  ⟨["olck", "olchiki"],
    ["1c5g2v"]⟩,
  ⟨["hung", "oldhungarian"],
    ["10c8g3it3inl"]⟩,
  ⟨["ital", "olditalic"],
    ["1030g2jpi"]⟩,
  ⟨["narb", "oldnortharabian"],
    ["10a8g1v"]⟩,
  ⟨["perm", "oldpermic"],
    ["1035g2q"]⟩,
  ⟨["xpeo", "oldpersian"],
    ["103ag2jkt"]⟩,
  ⟨["sogo", "oldsogdian"],
    ["10f0g2n"]⟩,
  ⟨["sarb", "oldsoutharabian"],
    ["10a6g1v"]⟩,
  ⟨["orkh", "oldturkic"],
    ["10c0g4o"]⟩,
  ⟨["ougr", "olduyghur"],
    ["10f7g1p"]⟩,
  ⟨["orya", "oriya"],
    ["b0hihnihi1lhmhhhkioihiinikhhki1h"]⟩,
  ⟨["osge", "osage"],
    ["104bg2jk2j"]⟩,
  ⟨["osma", "osmanya"],
    ["1048g1tip"]⟩,
  ⟨["hmng", "pahawhhmong"],
    ["16b0g4lqphmh1kl1i"]⟩,
  ⟨["palm", "palmyrene"],
    ["1086g1v"]⟩,
  ⟨["pauc", "paucinhau"],
    ["11acg3o"]⟩,
  ⟨["phag", "phagspa"],
    ["a84g3n"]⟩,
  ⟨["phnx", "phoenician"],
    ["1090g1rjg"]⟩,
  ⟨["phlp", "psalterpahlavi"],
    ["10b8g1hnjsm"]⟩,
  ⟨["rjng", "rejang"],
    ["a93g2jrg"]⟩,
  ⟨["runr", "runic"],
    ["16ag4qjq"]⟩,
  ⟨["samr", "samaritan"],
    ["80g2tiu"]⟩,
  ⟨["saur", "saurashtra"],
    ["a88g4lor"]⟩,
  ⟨["shrd", "sharada"],
    ["1118g5v"]⟩,
  ⟨["shaw", "shavian"],
    ["1045g2v"]⟩,
  ⟨["sidd", "siddham"],
    ["1158g3li2l"]⟩,
  ⟨["sgnw", "signwriting"],
    ["1d80g28rvkhu"]⟩,
  ⟨["sinh", "sinhala"],
    ["d8hih1hj1nhohgimjgklhghnmpii103es1j"]⟩,
  ⟨["sogd", "sogdian"],
    ["10f3g2p"]⟩,
  ⟨["sora", "sorasompeng"],
    ["110dg1onp"]⟩,
  ⟨["soyo", "soyombo"],
    ["11a5g5i"]⟩,
  ⟨["sund", "sundanese"],
    ["1b8g3v10gn"]⟩,
  ⟨["sylo", "sylotinagri"],
    ["a80g2s"]⟩,
  ⟨["syrc", "syriac"],
    ["70gth3rii11gq"]⟩,
  ⟨["tglg", "tagalog"],
    ["170g1lpg"]⟩,
  ⟨["tagb", "tagbanwa"],
    ["176gshihh"]⟩,
  ⟨["tale", "taile"],
    ["195g1tik"]⟩,
  ⟨["lana", "taitham"],
    ["1a2g3uh1siqmpmt"]⟩,
  ⟨["tavt", "taiviet"],
    ["aa8g4i1ok"]⟩,
  ⟨["takr", "takri"],
    ["1168g3pmp"]⟩,
  ⟨["taml", "tamil"],
    ["b8ihhljihjjhhghhjhjijrkkjihjigmgu1k113cl3htg"]⟩,
  ⟨["tnsa", "tangsa"],
    ["16a7g4uhp"]⟩,
  ⟨["tang", "tangut"],
    ["16fegg1v17fno2fv20go"]⟩,
  ⟨["telu", "telugu"],
    ["c0gshih1mhviohihjnhhiigijipno"]⟩,
  ⟨["thaa", "thaana"],
    ["78g3h"]⟩,
  ⟨["thai"],
    ["e0h3pl1r"]⟩,
  ⟨["tibt", "tibetan"],
    ["f0g4nh2jk2mh2jhuhmkh"]⟩,
  ⟨["tfng", "tifinagh"],
    ["2d3g3nnhug"]⟩,
  ⟨["tirh", "tirhuta"],
    ["1148g4nop"]⟩,
  ⟨["toto"],
    ["1e29g1u"]⟩,
  ⟨["ugar", "ugaritic"],
    ["1038g1thg"]⟩,
  ⟨["vaii", "vai"],
    ["a50g12r"]⟩,
  ⟨["vith", "vithkuqi"],
    ["1057gqhuhmhhhqhuhmhh"]⟩,
  ⟨["wcho", "wancho"],
    ["1e2cg3plg"]⟩,
  ⟨["wara", "warangciti"],
    ["118ag5isg"]⟩,
  ⟨["yezi", "yezidi"],
    ["10e8g2phiih"]⟩,
  ⟨["yiii", "yi"],
    ["a00g48sj3m"]⟩,
  ⟨["zanb", "zanabazarsquare"],
    ["11a0g4n"]⟩]

end OperationCheck.Unicode
