import OperationCheck.Unicode.Property

/-!
The scripts of Unicode together with the characters they share.
-/

namespace OperationCheck.Unicode

/-- Each script has its names and the ranges of the characters that are used in it. -/
def scriptExtensions : List Property := [
  ⟨["adlm", "adlam"],
    ["61vg2gg1e2bv4rkpkh"]⟩,
  ⟨["ahom"],
    ["1170g1qiuk1m"]⟩,
  ⟨["hluw", "anatolianhieroglyphs"],
    ["1440g24m"]⟩,
  ⟨["arab", "arabic"],
    ["60gkhdmh2h5g2vfg1uhhm4ph1sf25g7i1g1bsi3lng2gv7gkh8m3ej1rb6k1u7uidf0gjh1qhhhgighphjhghg",
    "mgkghghghihhhgighghghghghhhgijhmhjhjhghph1glihkh1g3kh"]⟩,
  ⟨["armn", "armenian"],
    ["53h2li3hiif58jk"]⟩,
  ⟨["avst", "avestan"],
    ["10b0g3ljm"]⟩,
  ⟨["bali", "balinese"],
    ["1b0g4sj2u"]⟩,
  ⟨["bamu", "bamum"],
    ["a6ag5nc10o23o"]⟩,
  ⟨["bass", "bassavah"],
    ["16adg1til"]⟩,
  ⟨["batk", "batak"],
    ["1bcg3joj"]⟩,
  ⟨["beng", "bengali"],
    ["95hh1hh1qjhnihi1lhmhgjjioihijogkhhki1o12dhghgihhgogogigkgii8bfpg"]⟩,
  ⟨["bhks", "bhaiksuki"],
    ["11c0goh2shtq1s"]⟩,
  ⟨["bopo", "bopomofo"],
    ["2eqh2d1likphsqjigmgcjgp2q7g1vcc8lh11qk"]⟩,
  ⟨["brah", "brahmi"],
    ["1100g4tk2jpg"]⟩,
  ⟨["brai", "braille"],
    ["280gfv"]⟩,
  ⟨["bugi", "buginese"],
    ["1a0g1rih8favg"]⟩,
  ⟨["buhd", "buhid"],
    ["173lhp1j"]⟩,
  ⟨["cans", "canadianaboriginal"],
    ["140g27v23g4l101bqv"]⟩,
  ⟨["cari", "carian"],
    ["102ag3g"]⟩,
  ⟨["aghb", "caucasianalbanian"],
    ["1053g3jrg"]⟩,
  ⟨["cakm", "chakma"],
    ["9emp65gp100bm3kh1h"]⟩,
  ⟨["cham"],
    ["aa0g3mptipij"]⟩,
  ⟨["cher", "cherokee"],
    ["13ag5lil977i4v"]⟩,
  ⟨["chrs", "chorasmian"],
    ["10fbg1r"]⟩,
  ⟨["zyyy", "common"],
    ["g4g1ql1q2uhuhk1ng1vg1ch2mlki1j7kgpgmghg27tgdng20kg55sg19lj71ii91iri2gh3khqjqhu1h2g3v2l",
    "hiilh1qh1g2pik29m1pq1l39v10g27ji1vh6o20g4ih1p19irkgjgtgtg1lg21h1n1vg3husjahpl5v1vg19cg",
    "3v590o1p6mi3dgguh52akp1m1kirh1ihj9jgh1v1ql1ql7vmhmqk19is3j2scd5j7j3sflq2mi3tj1gohn1tk3",
    "sdl1js1js5m1rm8n5kh4mhhigihijhrhghmh4ghjinhmh1rhjhkhgjmh15ji12ji3h147h4j4s3s2ci2rk6jsu",
    "iuhuh2kqat3o1phht2rko1nl9q3dnk1gjsj7mk5umrkgvrk3nopm2no1tih4u15jstisjon2thmotkonon9ih3",
    "m2lpc040ng1u5v"]⟩,
  ⟨["copt", "coptic", "qaac"],
    ["3eit289g7jlmd5eg1r"]⟩,
  ⟨["xsux", "cuneiform"],
    ["1200g39p6m6uhkrcj"]⟩,
  ⟨["cprt", "cypriot"],
    ["1010gik2sjo6cgligh2rhhjgig"]⟩,
  ⟨["cpmn", "cyprominoan"],
    ["1010gh2e8u6i"]⟩,
  ⟨["cyrl", "cyrillic"],
    ["40g12v175goaig4sg7vgfen1v4jg77fs5v578uhe20g3t2hg"]⟩,
  ⟨["dsrt", "deseret"],
    ["1040g4v"]⟩,
  ⟨["deva", "devanagari"],
    ["90g5ii2q135g2mhh3fmg873vpam1v720gp"]⟩,
  ⟨["diak", "divesakuru"],
    ["1190gmiginhhh1thhirpp"]⟩,
  ⟨["dogr", "dogra"],
    ["96kr9ecgp6fcm3r"]⟩,
  ⟨["dupl", "duployan"],
    ["1bc0g6qlsjonpin"]⟩,
  ⟨["egyp", "egyptianhieroglyphs"],
    ["1300g45l"]⟩,
  ⟨["elba", "elbasan"],
    ["1050g2n"]⟩,
  ⟨["elym", "elymaic"],
    ["10feg1m"]⟩,
  ⟨["ethi", "ethiopic"],
    ["120g4ohjimhghji2ohji2ghjimhghjiuh3ohji4ii1vj1p19em1mpmhmhmhmhmhmhmhm7d2ilililpmhm13cbh",
    "mhjhhhu"]⟩,
  ⟨["geor", "georgian"],
    ["10ag2lhglgi2vb9g2qii104g2lhglg"]⟩,
  ⟨["glag", "glagolitic"],
    ["48kgig277o5v1ejg782rg1399gmh1gimhhhk"]⟩,
  ⟨["goth", "gothic"],
    ["1033g1q"]⟩,
  ⟨["gran", "grantha"],
    ["95hh1hh28gt10dsghh1uijh3fmgf20vjhnihi1lhmhhhkhpihiiigmglmimjkc5rhhg"]⟩,
  ⟨["grek", "greek"],
    ["34igig2qjhiijhgkghghihgh1jh3uuv192mk3ikkk5ki13u1lili2lilinhghghgh1ui3khuhtilh1iiiho12n",
    "g8a3ug55dq4u1hgd05v4l"]⟩,
  ⟨["gujr", "gujarati"],
    ["95hh1hh11rihohih1lhmhhhkiphihiigvjirnm9d3gp"]⟩,
  ⟨["gong", "gunjalagondi"],
    ["96kh113fqlhhh2khhhlnp"]⟩,
  ⟨["guru", "gurmukhi"],
    ["95hh1hh9rihlkhi1lhmhhhhhhighkkhiijgnjhgn1g9dbpp"]⟩,
  ⟨["hani", "han"],
    ["2e8g1ph5osdl2rihshshsigmobrg9kv2g2j3s2n3o3gvr3jg5o1oqk6g1uh19bv4g51fv70gn51fo16ti6p36r",
    "h11qk707shsh636u1h1eduhdaua6dv2g103pmdti168hu1d3gc1v21t5ei134ql105v"]⟩,
  ⟨["hang", "hangul"],
    ["110gfv1e0hikphsuimgcjg3l5t7h1u4h1u76eh1s28j2bajs1mk3g264ph11qk3q1ujlililii"]⟩,
  ⟨["rohg", "hanifirohingya"],
    ["60sgugjg2gg9jg1062r2nop"]⟩,
  ⟨["hano", "hanunoo"],
    ["172g1m"]⟩,
  ⟨["hatr", "hatran"],
    ["108eg1ihhlk"]⟩,
  ⟨["hebr", "hebrew"],
    ["59h3mo1qklf52o1phkhghhhhhp"]⟩,
  ⟨["hira", "hiragana"],
    ["300hikphs1glhgkhj5lin5qhcd4oh11qkqg2thb06h11u1ig1ti40atg"]⟩,
  ⟨["armi", "imperialaramaic"],
    ["1084g1lho"]⟩,
  ⟨["zinh", "inherited", "qaai"],
    ["30g4hhhh1s5fgh115r1u2fj3lhghk20shci1vdd1gv1gt3cvgcd0i2ti1m22gi1hnim1ujc2f5iev"]⟩,
  ⟨["phli", "inscriptionalpahlavi"],
    ["10b6g1iln"]⟩,
  ⟨["prti", "inscriptionalparthian"],
    ["10b4g1lin"]⟩,
  ⟨["java", "javanese"],
    ["a98g4thqkh"]⟩,
  ⟨["kthi", "kaithi"],
    ["96mp9ecgp684m4iqg"]⟩,
  ⟨["knda", "kannada"],
    ["95hh1hh31qshih1mhphkiohihjnhmhhjiphifdsghgng1nghg8b3rl"]⟩,
  ⟨["kana", "katakana"],
    ["300hikphs1glhgkh5rjj5vfgvdg2uh5ncaeth11q3ub05gjhmhhhg11vi3iguj"]⟩,
  ⟨["kawi"],
    ["11f0g1gh2oj1r"]⟩,
  ⟨["kali", "kayahli"],
    ["a90g2v"]⟩,
  ⟨["khar", "kharoshthi"],
    ["10a0gjhhlnhih1siikpno"]⟩,
  ⟨["kits", "khitansmallscript"],
    ["16fekg1b1r1dl"]⟩,
  ⟨["khmr", "khmer"],
    ["178g5tipmp1em1v"]⟩,
  ⟨["khoj", "khojki"],
    ["aemp9d4gp69cm1hh2u"]⟩,
  ⟨["sind", "khudawadi"],
    ["96kh9ecqp6a7m3qlp"]⟩,
  ⟨["laoo", "lao"],
    ["e8hhhghkh1nhgh1mikhghmhpij"]⟩,
  ⟨["latn", "latin"],
    ["4h1pm1p2vgvgl1mh1uh1cg2nk7us11lh4cqh7aogc0k2lm3gljlsh4l4hfv12vg4hgtg1gs5jg3phmg1rg1h2o",
    "adn1v7a8gn1q6lj3vlhhghk1ot12ug20h2qhohj4f9mm41q1pm1p82llh2phod74l1uml"]⟩,
  ⟨["lepc", "lepcha"],
    ["1c0g3njuji"]⟩,
  ⟨["limb", "limbu"],
    ["96lgf9q1uhrkrkgjr"]⟩,
  ⟨["lina", "lineara"],
    ["1010n2s4cs13mp1lqn"]⟩,
  ⟨["linb", "linearb"],
    ["1000grh1ph1ihhhuit2i7qlik2sjo"]⟩,
  ⟨["lisu"],
    ["a4dg2v7abgg"]⟩,
  ⟨["lyci", "lycian"],
    ["1028g1s"]⟩,
  ⟨["lydi", "lydian"],
    ["1092g1plg"]⟩,
  ⟨["mahj", "mahajani"],
    ["96kr9ecgp691m2m"]⟩,
  ⟨["maka", "makasar"],
    ["11eeg1o"]⟩,
  ⟨["mlym", "malayalam"],
    ["95hh1hh39qshih3ihihlkvi1pf5qg8b5li"]⟩,
  ⟨["mand", "mandaic"],
    ["64gg1fv1rig"]⟩,
  ⟨["mani", "manichaean"],
    ["64gg1047v2mkr"]⟩,
  ⟨["marc", "marchen"],
    ["11c7g1vi1lht"]⟩,
  ⟨["gonm", "masaramgondi"],
    ["96kh1139qmhhh2rjghhhoop"]⟩,
  ⟨["medf", "medefaidrin"],
    ["16e4g5q"]⟩,
  ⟨["mtei", "meeteimayek"],
    ["aaeg1mcp2tip"]⟩,
  ⟨["mend", "mendekikakui"],
    ["1e80gckiv"]⟩,
  ⟨["merc", "meroiticcursive"],
    ["109ag1nk1ji2t"]⟩,
  ⟨["mero", "meroitichieroglyphs"],
    ["1098g1v"]⟩,
  ⟨["plrd", "miao"],
    ["16f0g4qk3on1g"]⟩,
  ⟨["modi"],
    ["a83gp6dcm4krp"]⟩,
  ⟨["mong", "mongolian"],
    ["180g1pm5on2q78kgf63gs"]⟩,
  ⟨["mroo", "mro"],
    ["16a4g1uhpkh"]⟩,
  ⟨["mult", "multani"],
    ["a6mp1081gmhghjhuhq"]⟩,
  ⟨["mymr", "myanmar"],
    ["100g9v988ugbh1u6h1v"]⟩,
  ⟨["nbat", "nabataean"],
    ["1088g1uoo"]⟩,
  ⟨["nagm", "nagmundari"],
    ["1e4dg2p"]⟩,
  ⟨["nand", "nandinagari"],
    ["96kh38gpffpgogng8b3ll716qni2tiq"]⟩,
  ⟨["talu", "newtailue"],
    ["198g2rk1pmqjh"]⟩,
  ⟨["newa"],
    ["1140g5rhk"]⟩,
  ⟨["nkoo", "nko"],
    ["60sgugjg1ag3qiif53uh"]⟩,
  ⟨["nshu", "nushu"],
    ["16fehg418u18r"]⟩,
  ⟨["hmnp", "nyiakengpuachuehmong"],
    ["1e10g2sjtipkh"]⟩,
  ⟨["ogam", "ogham"],
    ["168g1s"]⟩,
  ⟨["olck", "olchiki"],
    ["1c5g2v"]⟩,
  ⟨["hung", "oldhungarian"],
    ["10c8g3it3inl"]⟩,
  ⟨["ital", "olditalic"],
    ["1030g2jpi"]⟩,
  ⟨["narb", "oldnortharabian"],
    ["10a8g1v"]⟩,
  ⟨["perm", "oldpermic"],
    ["48jgfecs2q"]⟩,
  ⟨["xpeo", "oldpersian"],
    ["103ag2jkt"]⟩,
  ⟨["sogo", "oldsogdian"],
    ["10f0g2n"]⟩,
  ⟨["sarb", "oldsoutharabian"],
    ["10a6g1v"]⟩,
  ⟨["orkh", "oldturkic"],
    ["10c0g4o"]⟩,
  ⟨["ougr", "olduyghur"],
    ["64gg104bhg47t1p"]⟩,
  ⟨["orya", "oriya"],
    ["95hh1hh19rihnihi1lhmhhhkioihiinikhhki1h116ig1ng"]⟩,
  ⟨["osge", "osage"],
    ["104bg2jk2j"]⟩,
  ⟨["osma", "osmanya"],
    ["1048g1tip"]⟩,
  ⟨["hmng", "pahawhhmong"],
    ["16b0g4lqphmh1kl1i"]⟩,
  ⟨["palm", "palmyrene"],
    ["1086g1v"]⟩,
  ⟨["pauc", "paucinhau"],
    ["11acg3o"]⟩,
  ⟨["phag", "phagspa"],
    ["180ihhg903q3n"]⟩,
  ⟨["phnx", "phoenician"],
    ["1090g1rjg"]⟩,
  ⟨["phlp", "psalterpahlavi"],
    ["64gg1053v1hnjsm"]⟩,
  ⟨["rjng", "rejang"],
    ["a93g2jrg"]⟩,
  ⟨["runr", "runic"],
    ["16ag4qjq"]⟩,
  ⟨["samr", "samaritan"],
    ["80g2tiu"]⟩,
  ⟨["saur", "saurashtra"],
    ["a88g4lor"]⟩,
  ⟨["shrd", "sharada"],
    ["95hg138lghgihigf49v5v"]⟩,
  ⟨["shaw", "shavian"],
    ["1045g2v"]⟩,
  ⟨["sidd", "siddham"],
    ["1158g3li2l"]⟩,
  ⟨["sgnw", "signwriting"],
    ["1d80g28rvkhu"]⟩,
  ⟨["sinh", "sinhala"],
    ["96kh41rih1hj1nhohgimjgklhghnmpii103es1j"]⟩,
  ⟨["sogd", "sogdian"],
    ["64gg108ev2p"]⟩,
  ⟨["sora", "sorasompeng"],
    ["110dg1onp"]⟩,
  ⟨["soyo", "soyombo"],
    ["11a5g5i"]⟩,
  ⟨["sund", "sundanese"],
    ["1b8g3v10gn"]⟩,
  ⟨["sylo", "sylotinagri"],
    ["96kh8gp9e1g2s"]⟩,
  ⟨["syrc", "syriac"],
    ["60sguhig2ggqq1qg8vth3rii11gq158tghg"]⟩,
  ⟨["tglg", "tagalog"],
    ["170g1lpg1lh"]⟩,
  ⟨["tagb", "tagbanwa"],
    ["173lh2pshihh"]⟩,
  ⟨["tale", "taile"],
    ["104gp90m1tik"]⟩,
  ⟨["lana", "taitham"],
    ["1a2g3uh1siqmpmt"]⟩,
  ⟨["tavt", "taiviet"],
    ["aa8g4i1ok"]⟩,
  ⟨["takr", "takri"],
    ["96kh9ecqp6e4m3pmp"]⟩,
  ⟨["taml", "tamil"],
    ["95hh1hh21shhljihjjhhghhjhjijrkkjihjigmgu1k10dvg8c1og6a0tghg3nhc8j3htg"]⟩,
  ⟨["tnsa", "tangsa"],
    ["16a7g4uhp"]⟩,
  ⟨["tang", "tangut"],
    ["16fegg1v17fno2fv20go"]⟩,
  ⟨["telu", "telugu"],
    ["95hh1hh29qshih1mhviohihjnhhiigijipno105qg1ng"]⟩,
  ⟨["thaa", "thaana"],
    ["60sguhig4gp11m3hf64ggqg"]⟩,
  ⟨["thai"],
    ["e0h3pl1r"]⟩,
  ⟨["tibt", "tibetan"],
    ["f0g4nh2jk2mh2jhuhmkh"]⟩,
  ⟨["tfng", "tifinagh"],
    ["2d3g3nnhug"]⟩,
  ⟨["tirh", "tirhuta"],
    ["95hh1hh138sg8b3tp6c4m4nop"]⟩,
  ⟨["toto"],
    ["1e29g1u"]⟩,
  ⟨["ugar", "ugaritic"],
    ["1038g1thg"]⟩,
  ⟨["vaii", "vai"],
    ["a50g12r"]⟩,
  ⟨["vith", "vithkuqi"],
    ["1057gqhuhmhhhqhuhmhh"]⟩,
  ⟨["wcho", "wancho"],
    ["1e2cg3plg"]⟩,
  ⟨["wara", "warangciti"],
    ["118ag5isg"]⟩,
  ⟨["yezi", "yezidi"],
    ["60sgugjg4gp1081m2phiih"]⟩,
  ⟨["yiii", "yi"],
    ["300hhlpindvg6f0k48sj3m5a9qk"]⟩,
  ⟨["zanb", "zanabazarsquare"],
    ["11a0g4n"]⟩]

end OperationCheck.Unicode
