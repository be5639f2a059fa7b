import OperationCheck.Unicode.Property

/-!
The properties of Unicode that a character has or lacks.
-/

namespace OperationCheck.Unicode

/-- Each binary property has its names and its code ranges. -/
def binaryProperties : List Property := [
  ⟨["ahex", "asciihexdigit"],
    ["3gpnl1ql"]⟩,
  ⟨["alpha", "alphabetic"],
    ["4h1pm1p2vgqgkgl1mh1uh1cpkruknghg5mg2qkhhijhgmghihgh1jh5ih8qoalh2ligm2o2nthghhhhhgo1qkj",
    "1tql3nhmu6lhnknkiqiig1g2vt6k1o2gphkgl1ni1i1j1onql1nhl1h2pqrjmm4rhvhikut1ihnihi1lhmhgjj",
    "jnihihhgogkhhkshqgkihlkhi1lhmhhhhhhkkkhihkgnjhg1hlrihohih1lhmhhhkjohihhjgvj1ljkihnihi1",
    "lhmhhhkjnihihphkhhktg1ghhljihjjhhghhjhjijrkkjihijgmg2oshih1mhvjnhihiohhiigij1sjhnhih1m",
    "hphkjnhihiohmhhjtisshih2oinhihihgljnk1mlhih1hj1nhohgimolhghn1iht3plmmg3jhhghkh1nhgh1ih",
    "iikhgmguj2gg3vnh2jk1ikvh2j4j3mhgik1g3vqji2lhglgi2qh14shjimhghji2ohji2ghjimhghjiuh3ohji",
    "4i2lv1g5lilj26ri1gh1pl4qjqn1jr1ks1jsshihhs3ji1iugkg4j5on2ql4lq1uhrko1n1tikr2rk1p3m1rk3",
    "ui1j3ig1nhri3h3jhuhn3j2pijq2rhqu3m1miq2jion2qii2pjhlhhjglbv2ntr11lili2lilinhghghgh1ui3",
    "khmhgjihmjjilkslihm7kgtg1gs6lgkgiphgjkmghghghjhqijlkkg1h2o32t3j71mekmjjhs2lhglgi3nng1g",
    "1mpmhmhmhmhmhmhmhmh1v2vg1dli1ponkikk5lmih5phjl2qh5t1h1v3gv20g19bv4g568s4j2ti10sjvqh1k2",
    "ulnj7g2noi6mi3vlhhghk1o1jh2g1o3js4jhg2sljghiq2gl2it1sj3ihrvg1gvqkh3mpt1i1mj4khghg1oiiv",
    "ijrlililpmhmh2qhtm7q1l2bajs1mk3g210k16ti6p2mmsklrhshkhghhhhh6r2h16q1i3vi3l2or7kkh8m2k1",
    "pm1pr5ojlililii2jrh1ph1ihhhuit2i7q4l3k10r1sj3g2v1vt1tl2ql1ti2jknhk2q9t1i2jk2jk2no3jsqh",
    "uhmhhhqhuhmhh4j13mp1lqn1olh2pho4lligh2rhhjgi1mq1mp1u4h1ihhq1lq1p4m3nmh4gjhhlnhih1s2q1s",
    "j1s2jnh1r1r3lq1lq1it1h6u4o3n3it3it2n15o2phhjh4u1sqgo1l2q1h2u1k1r1mp4l2rkq3opgt1o1n3i1h",
    "jo2ijgp3vhjphqghg2j1hh2higmj3umhghjhuhpn3o1njhnihi1lhmhhhkjnihihjgmglm9s4hhihj1ki1u4hi",
    "hhgbo3lim1pl2i3uhgjg3r3lig4n1qit1lmbp3o6n3v1vniginhhh1thhihij5tni2tilhghh1r3iip1h4nlg1",
    "i4o10noh2shmhg3h1ti1lht4pmhhh2rjghhhihgih1olhhh2khhhjhg14n1mp1gh2oji6vg4v39p6m6u1hcja4",
    "s6gv42v1hlfbp24m21bp23on1u1h4u1h1t1i2v1gj1v1kl1i2bg3v8g4qk3on1g4ghhgshu17fno4dl2qo22en",
    "jhmhhh12ivg1tiigujo18r90k6qlsjonpkg176h5kh4mhhigihijhrhghmh4ghjinhmh1rhjhkhgjmh15ji1oh",
    "1oh1uh1oh1uh1oh1uh1oh1uh1ohn73k1umldlmh1gimhhhkl3t2hg7g2sqm1gg14h1t1i2r1ek1r2fkmhjhhhu",
    "hck3r4jjgjg4bkjh1qhhhgighphjhghgmgkghghghihhhgighghghghghhhgijhmhjhjhghph1glihkh1g27k1",
    "pm1pm1pe7ma6dv2g103pmdti168hu1d3gc1v21t5ei134ql105v"]⟩,
  ⟨["bidic", "bidicontrol"],
    ["61sg19fhh1qk3nj"]⟩,
  ⟨["bidim", "bidimirrored"],
    ["2oh1ighg1sghg1tghg2tgvge7uj75th99shqh3mhuhbhgcgjjljgjhjjhjhghgkolgh1hljphhghni1uijlgph",
    "i1ilhpkihk1nivoj1khnh43tt4qgijhhhiljlijt19j1lilhtognljgkkhhikkghiihqlihs1ihjighgighjlh",
    "mi1ohrhkjhhihk2qinh2nlghgjklikgjkhg10gg20jjjhhhuhip2rn1arpince3tllhaih1ighg1sghg1tghgh",
    "hhhd77ng3pg3pg3pg3pg"]⟩,
  ⟨["ci", "caseignorable"],
    ["2ngmgrg2jghg4ngkghgkgih1fnbvkhkgphhgfrmcvglg3h2shghhhhhg2sgrlqqhg2jgq1k1gg6lnhphj2hghg",
    "1u1q5rq3qqkgig1o1n2ri2sgnhmn2p3p3nghgknkgjmqhtgvg3qgkjog1kh1qgih3pgkhkhiijg1uhjgrh3pgk",
    "khhkg1kh1mlhg3qgighjognhrh1ug3tgsg3igjg3nghilihjnhrh1tg3qgigmglh1kh1sh3phkjog1kh1tg4og",
    "nihg5qgimro6igiopghm4ph1rghghg3nthkhhlqh2jpg6mjhlhhih1phki1gjtgihmgvg5ug26gi3bii1th1uh",
    "1uh4ghhmogiqjglg2tk3jg4hh2ig7mikhpgmidrhig3qghmhghginmpig2ngo1u3hj3gghkhglg2oosh2gjihh",
    "i3oghhjghi3qnih4gl5iihshmkgmgjh3i3utg2i6k1btghirititithskohqgigik3hkhphgtg1gs3j2gb8rh7",
    "hi7tgvg6g1v2vg1dlg2kjjklg5tl5ti6f1mg4eil10ug6ijhphg1sj5ghu2h4ug1ni6nijhogjgkg1phlg9nh1",
    "q1htg2mn1pq2ui3ggijih1hg1lh4ilihihsgog2jgrg3jghiihlhhg1rguhlhhg6kkpi7pgigkg4f3gg9j1g23",
    "tvjgsv2igigapgngmgrg2jghg2vg2th4jg1li20hgeig9lk40llh2pho24mihhlj2oikgalh23tj18jh5gi4mq",
    "3hj7rg3mu2pgihqi3hjihigkgqg3ii2kkhn3ugsh3koqjig5viighhmgig9tgjn1lh3phjg2lmjkcjniihg1ng",
    "5klhgkhhheujmhhh1rh5lnighh6qghgilhg6liijhk10johh10ghhgkg9gjihkg2gp2olijogplii2ushh19mm",
    "hlhg5i1limhhhh7qljghhhmhg4ohjghg15rhrh3kklghg14et1gmu369qk3rmpj40rg3v1g4ghhh400rjhmhhc",
    "9uhhj125s2ti1m22gipvim1uj9ki7br3mk3hogug1mkhu55gmh1gimhhhkl3t2hgagt17gg3tj1frk3egm6tna",
    "avkc0c0hg1u5v8gev"]⟩,
  ⟨["cased"],
    ["4h1pm1p2vgqgkgl1mh1uhcihjkcvh2jnh1uk6gg2qjihijhgmghihgh1jh5ih8qoalh2lp2ob1n2lhglgi2qhj",
    "2ag5lil88ion2qii4gbv4g11lili2lilinhghghgh1ui3khmhgjihmjjilkslihm7kgtg1gs6lgkgiphgjkmgh",
    "ghghjhlkgijlkkg1h1vjh33h3j71mekmjjhs2lhglg791i2t1i1t8k6ljjh3qlhhghk1okhi33l2qhtm4v4f4g",
    "msk40p1pm1p4al4v6g2jk2j7kqhuhmhhhqhuhmhh1cjgiih2pho4cl3it3ibat3v556g3v658g5kh4mhhigihi",
    "jhrhghmh4ghjinhmh1rhjhkhgjmh15ji1oh1oh1uh1oh1uh1oh1uh1oh1uh1ohn73kph1jml10l3t89i4j7es1",
    "pm1pm1p"]⟩,
  ⟨["cwcf", "changeswhencasefolded"],
    ["4h1p5qgq1mhn2gghghghghghghghghghghghghghghghghghghghghghghghghghghghgighghghghghghghgh",
    "hhghghghghghghghghghghghghghghghghghghghghghghhhghghghhhghhhiijhhhijhhhhghghhhgighhhih",
    "ghhjgnhhhhhhghghghghghghghgighghghghghghghghgihhghihghghghghghghghghghghghghghghghghgh",
    "ghghghghghghghghghghghgnhhhighjhghghghgfmg2qghgjgogmghihghhh1gho1mgsijhhghghghghghghgh",
    "ghghghghghhihhghhi3i3gghghghghghghghghghghghghghghghghgpghghghghghghghghghghghghghghgh",
    "ghghghghghghghghghghghghhhghghghghghgighghghghghghghghghghghghghghghghghghghghghghghgh",
    "ghghghghghghghghghghghghghghghghghghghghghghghgi2l3ggb1o2lhglg32ql88ion2qii14gghghghgh",
    "ghghghghghghghghghghghghghghghghghghghghghghghghghghghghghghghghghghghghghghghghghghgh",
    "ghghghghghghghghghghghghghghghghghghghghghghghghghghghglhighghghghghghghghghghghghghgh",
    "ghghghghghghghghghghghghghghghghghghghghghghghghghghghghghghghghghghgpnolqnonolrghghgh",
    "gon1g2viiilliilrjskliil12pgjhmg2tv1jg33i1p73g2v3gghiighghghjhgigoihghghghghghghghghghg",
    "hghghghghghghghghghghghghghghghghghghghghghghghghghghghghghghghghghghghghghghgoghgkg79",
    "4tghghghghghghghghghghghghghghghghghghghghghghg1jghghghghghghghghghghghghghg8nghghghgh",
    "ghghgjghghghghghghghghghghghghghghghghghghghghghghghghghghghghghghgqghghhhghghghgkghgi",
    "ghgjghghghghghghghghghghkhkhghghghghghghghjhgmglghg1sg37q4v4f4gmsk40p1p4cl2n8o2j9sqhuh",
    "mhh6eq3ibet1v558g1v7aag2h"]⟩,
  ⟨["cwcm", "changeswhencasemapped"],
    ["4h1pm1p3qgq1mh1uh3vh5jhshtitihhgk5sh1hm1qhhhghhjhhghhhkighhigngighhjllgqhamg2qjihjihgm",
    "ghihgh1jh2uj2ghkh8koalh2lq2mb1o2lhglgi2qii2ag5lil88ion2qiibpgjg1gg7h9righ7lili2lilinhg",
    "hghgh1ui3khmhgjihmjjilkslihm12pgjhmg1rg1h1vjh33h3j71m7ghhhhn6lnjjhs2lhglg791i2t1i1r8mt",
    "i3tpujiikh1oh1qlhkj1rh35sg1s4v4f4gmsk40p1pm1p4al4v6g2jk2j7kqhuhmhhhqhuhmhh6cj3it3ibat3",
    "v556g3v7a8g4j"]⟩,
  ⟨["cwl", "changeswhenlowercased"],
    ["4h1p6l1mhm2hghghghghghghghghghghghghghghghghghghghghghghghghghghghgighghghghghghghgigh",
    "ghghghghghghghghghghghghghghghghghghghghghghhhghgjhhghhhiijhhhijhhhhghghhhgighhhihghhj",
    "gnhhhhhhghghghghghghghgighghghghghghghghgihhghihghghghghghghghghghghghghghghghghghghgh",
    "ghghghghghghghghghgnhhhighjhghghghg12hghgjgogmghihghhh1gho2jgoghghghghghghghghghghghgl",
    "gighhi3i3gghghghghghghghghghghghghghghghghgpghghghghghghghghghghghghghghghghghghghghgh",
    "ghghghghghghhhghghghghghgighghghghghghghghghghghghghghghghghghghghghghghghghghghghghgh",
    "ghghghghghghghghghghghghghghghghghgi2lb4p2lhglg2di5l89q2qii14gghghghghghghghghghghghgh",
    "ghghghghghghghghghghghghghghghghghghghghghghghghghghghghghghghghghghghghghghghghghghgh",
    "ghghghghghghghghghghghghghghghghghghghgpghghghghghghghghghghghghghghghghghghghghghghgh",
    "ghghghghghghghghghghghghghghghghghghghghghghghghghgpnolqnonolrghghghgon1onononokrkrjsk",
    "rk12pgjhmg2tv1jg33i1p73g2v3gghiighghghjhgigoihghghghghghghghghghghghghghghghghghghghgh",
    "ghghghghghghghghghghghghghghghghghghghghghghghghghghghghgoghgkg794tghghghghghghghghghg",
    "hghghghghghghghghghghghghg1jghghghghghghghghghghghghghg8nghghghghghghgjghghghghghghghg",
    "hghghghghghghghghghghghghghghghghghghghghghghgqghghhhghghghgkghgighgjghghghghghghghghg",
    "hghkhkhghghghghghghghjhgmglghg1sg572r1p4cl2n8o2j9sqhuhmhh6eq3ibet1v558g1v7aag2h"]⟩,
  ⟨["cwt", "changeswhentitlecased"],
    ["6h1p3qg2p1nhnhghghghghghghghghghghghghghghghghghghghghghghghghghghghgighghghghghghghhh",
    "ghghghghghghghghghghghghghghghghghghghghghghgighghiighgigjglgigjhjgighghgigkgigjghgigj",
    "ghgkghhhhhghghghghghghghghhhghghghghghghghghihghgjghghghghghghghghghghghghghghghghghgh",
    "ghgjghghghghghghghghgogihhgkghghghghlhhhghhjhhghhhkighhigngighhjllgqhamg2rghgjgji1ig1r",
    "2ihhjihghghghghghghghghghghghkhgigig3k2vhghghghghghghghghghghghghghghghghgpghghghghghg",
    "hghghghghghghghghghghghghghghghghghghghghgighghghghghghhhghghghghghghghghghghghghghghg",
    "hghghghghghghghghghghghghghghghghghghghghghghghghghghghghghghghghg3h2me7gl88iofggjg1gg",
    "7ighghghghghghghghghghghghghghghghghghghghghghghghghghghghghghghghghghghghghghghghghgh",
    "ghghghghghghghghghghghghghghghghghghghghghghghghghghghghghghghghmlghghghghghghghghghgh",
    "ghghghghghghghghghghghghghghghghghghghghghghghghghghghghghghghghghghghghghoolqnonolqno",
    "notinononokhhmgjihhojihonqihh15mg2hvkg34r1p74m2vhgjhhghghgmgigqghghghghghghghghghghghg",
    "hghghghghghghghghghghghghghghghghghghghghghghghghghghghghghghghghghghghghghgoghgkgs2lh",
    "glg791jghghghghghghghghghghghghghghghghghghghghghghg1jghghghghghghghghghghghghghg8nghg",
    "hghghghghgjghghghghghghghghghghghghghghghghghghghghghghghghghghghghghghgqghgighghghghg",
    "kgkghhighghghghghghghghghgrghghghghghghghgkghgmglghg1sg35sg1s4v4f4gmsk42p1p4ct2n8o2j9r",
    "qhuhmhh70j3ibct1v558g1v7aai2h"]⟩,
  ⟨["cwu", "changeswhenuppercased"],
    ["6h1p3qg2p1nhnhghghghghghghghghghghghghghghghghghghghghghghghghghghghgighghghghghghghhh",
    "ghghghghghghghghghghghghghghghghghghghghghghgighghiighgigjglgigjhjgighghgigkgigjghgigj",
    "ghglhhhhhhghghghghghghghhhghghghghghghghghhhhhgjghghghghghghghghghghghghghghghghghghgh",
    "gjghghghghghghghghgogihhgkghghghghlhhhghhjhhghhhkighhigngighhjllgqhamg2rghgjgji1ig1r2i",
    "hhjihghghghghghghghghghghghkhgigig3k2vhghghghghghghghghghghghghghghghghgpghghghghghghg",
    "hghghghghghghghghghghghghghghghghghghghgighghghghghghhhghghghghghghghghghghghghghghghg",
    "hghghghghghghghghghghghghghghghghghghghghghghghghghghghghghghghg3h2mb4o2qii2fol88iofgg",
    "jg1gg7ighghghghghghghghghghghghghghghghghghghghghghghghghghghghghghghghghghghghghghghg",
    "hghghghghghghghghghghghghghghghghghghghghghghghghghghghghghghghghghghmlghghghghghghghg",
    "hghghghghghghghghghghghghghghghghghghghghghghghghghghghghghghghghghghghghghghghoolqnon",
    "olqnonoti3khhkghgjihhkgjjihonqihhkg15hg2hvkg34r1p74m2vhgjhhghghgmgigqghghghghghghghghg",
    "hghghghghghghghghghghghghghghghghghghghghghghghghghghghghghghghghghghghghghghghghgoghg",
    "kgs2lhglg791jghghghghghghghghghghghghghghghghghghghghghghg1jghghghghghghghghghghghghgh",
    "g8nghghghghghghgjghghghghghghghghghghghghghghghghghghghghghghghghghghghghghghgqghgighg",
    "hghghgkgkghhighghghghghghghghghgrghghghghghghghgkghgmglghg1sg35sg1s4v4f4gmsk42p1p4ct2n",
    "8o2j9rqhuhmhh70j3ibct1v558g1v7aai2h"]⟩,
  ⟨["dash"],
    ["2tg55sg3jge4hg40lg80pl3tg2ngvg18mgc0kgig1vhkg1sg1bug1jg6vgcd9gh2lgqgapgf9vg"]⟩,
  ⟨["di", "defaultignorablecodepoint"],
    ["atg2ahg2csgb4ih65jh5lk7frk1qk3hv10fkgcc9rvevgagg4vobcanj14cvnc2e8lffv"]⟩,
  ⟨["dep", "deprecated"],
    ["14pg52pg90jghg82ph8cll2bphddcdmg"]⟩,
  ⟨["dia", "diacritic"],
    ["5ughg4ngmgkgih1fn9uhnll1hhkgphftkdhg3n1gh1qhghhhg8mnkh8mhkhji4j1q5rq3qq2ih7un2pp1g1r3t",
    "g1ggjj1sg4qg1gg6ug1gg6ug1gg2vi3sg1ggng7ng6ug1gg6ug1gg6th1gg7sg7slhg6rgtk4rh1rghghgkh4i",
    "ihh3ug7gghh2ohkk1pmhgqh2chi3bkhbjqpg15ri13pnig3guiq6ogvg2mo3mh8qh4gl5i1okgmgii3i3u5pr2",
    "lq1btghirititithcfgi13tg1fql6pj5vg757igshhg1sh5ihu2h6mi6thcqg1r1h3pj2kg5vgsg2kg9li4hj3",
    "jg6kkpi8gh4f3gg30hv10ughg2vg2th4jg2fsg49vlh2pho32qh23rl1dli4mq3hjcgg2pg4oh7oh3ug4sgpi6",
    "ohbih5hg1gg1omjkctgjg7rhfrh7ug7mh7jg10th10ihkg9sg5jg1ig5hg1alg10ighh5hg16avu369qk3rm45",
    "o1g5gh3ffujhmhh1f0h2ti1m22gijlonim1uje8i3tcim17ng3tj5egm6tihi"]⟩,
  ⟨["emoji"],
    ["2jgmglp6vgkg1f8tgsgdog1mg5qlvh16vhsgamg1pqkicngenhqgpg3qjhkpgigihigkgighhigjgjhoilghgl",
    "rrhighhhg1igih1ilhghhjhlgihkhrhlhiglhhghh1khllhjigkgigilhgighghgmgjgmgqhvgigkghgkihgrh",
    "3gipgugug17kh1cvi1jh3jgkg4dqgsg25pghg1bd6qgcqgaghshugip4r1phh1ng1kgio1lhau2hi6vihhii5i",
    "iih10mh3urlh1nnhinsgijigkhthigohpglisioiighgkgmgjgm5l3g4llniikpjghhjgipejrkg11r2uhphbo",
    "7gsjon2thmotkono"]⟩,
  ⟨["ecomp", "emojicomponent"],
    ["2jgmglp1fdjgdlgdd2rgf3dm1p1frk5bgjc066s5v"]⟩,
  ⟨["emod", "emojimodifier"],
    ["1f3frk"]⟩,
  ⟨["ebase", "emojimodifierbase"],
    ["261tgdrg1gj1cc7ng3siigii7lhiq1l1ijgkihinghg1ogcphkg1lgkhauijk5jg1gipgrg23vgigonmgppii3",
    "og3thhhhg1hihseli2qo"]⟩,
  ⟨["epres", "emojipresentation"],
    ["231qhctjjgig20ph1lh3ir2rg1jgtgoh1hhlhoglg1lgnhhgkgigngkh1sg2jghgkihg3ti1ogug35rh3jgkg1",
    "c4augcqgbugip4r1phg1og1kgikhi1lhau2gsoh4lh1ls2qkks1gjgj4mhghbqi3utjh1n1ig1qhtg5m5k3g4l",
    "mgjiiikjrhnoejrkg11r2uhphbo7gsjon2thmotkono"]⟩,
  ⟨["extpict", "extendedpictographic"],
    ["apgkg1f8tgsgdog1mg5qlvh16vhsg5vg4mg1pqkicngenhqgpg3qjhlhrh7hq7liqhghgmgjgmgqhvgigkghgk",
    "ihgrk2tipgugug17kh1cvi1jh3jgkg4dqgsg25pghg1bd6mfvti1vg3slshugip1i3o1ruqg1kgiohjp1bhl13",
    "to10p3g7v7kr5l2qsj3onql2on1u5hs2uhph1bo10g3ft"]⟩,
  ⟨["ext", "extender"],
    ["bng21oh36ug1bpg35qg2fgg7vg94jg3og26jg18ug4kg138pg2rk6nh5ti6f1mg5fmg3cig1mg8pg6sg1lh547",
    "rg81ghbdqg26oi4cvg50aph49shhg715oh80mi"]⟩,
  ⟨["grbase", "graphemebase"],
    ["2g5u2hsh25h7gnilkmhgh1jhdvnalh2li3hii2ughgigigp1qkl1hprgh2t1lvh6kogmhigk1vigh1t1t5orgu",
    "2qpmj1nkgpgjgnuh1olghql1u1h2p3p3mhghjojhinpi1shhhnihi1lhmhgjjjghhmhihhgthhik1nlghlkhi1",
    "lhmhhhhhhki1ojhgnpiihgsghohih1lhmhhhkjjoghhjgvhkrngohhnihi1lhmhhhkjgigmhihvhhik1hrghlj",
    "ihjjhhghhjhjijrlghhjihijg1l1kmihnhih1mhvjgjj1jiigihkpnphqhih1mhphkjhhhhhihhh1hhhhkphiu",
    "qhih2oighhlihihhkihpk1pihh1hj1nhohgimphmmnpiis2vhhrnos2lhhghkh1nhghphhpgikhgppij2g1ni1",
    "qhghghth2j1iglgik3hnhlhs2l2skgmgihi1oijjvkshhilhuh2nhglgi17ohjimhghji2ohji2ghjimhghjiu",
    "h3ohji4il1sj1pm5lili29sj5on1hjgp1iiip1hushiv3jignnhhrojpmpmqlpm5onki2hhgl4lq1ukjiikhhl",
    "ngj2pikr2rk1pmqj3oihj3nhgpghholtpmpmt5m2vnghkhpj1qpqj1vkhigj3nhgiihgjho2vohluj3rn2qiqr",
    "gtgnjhlhiiglbv4g11lili2lilinhghghgh1ui3khuhtilh1iiihohql1nn3g1ghi1qhsj2g3v8rk29m1pq1l7",
    "1ji1vh15njhl2shglgi3nnhv1mpmhmhmhmhmhmhmhm2h5t2i1ph5osdl1qrk2pmvh5lk6kl2qh5th5js2uh726",
    "sj3mp15r1k2ukgq1vi4vilocqlhhghk1ovhihjh1oikkpm3no4jqr1osh2lo1orhr1tm2vhhkhivhqkmh1oh2o",
    "mhihrihnhgipi1vh3ihgjhikighg1o1ginrlililpmhmh3rk7khhhjjpm2bajs1mk3g210k16ti6p2mmsklgh1",
    "nhkhghhhhh7s1g1bsi3lng2gv1gp1m2ih1ihjkkh8mk9si1ujlililiijmhmthirh1ph1ihhhuit2i7qlik2sj",
    "5nhsjg2v2s8j1sj3g1g1qk2jp1tl2lq1th2kkt2q9tipm2jk2jk2no3jrrhuhmhhhqhuhmhh4j13mp1lqn1olh",
    "2pho4lligh2rhhjgi1mh4noo3g1ihhl2gj1qlg4g3nk1ji2uvjhih1sqonon3v2g2kmrp3lj1si1ql1pnjsm5g",
    "4o3n3it3in2psp12m1uh2pjgih4u2no1lro1m1hkj2m1r1k1mpgh3lvmk1thhigs3gkhihhju1onpp2jlgp1ho",
    "2ihir3jppkhhvh1jr1hh1rjhhgilhh3vmhghjhuhqm2uhitpohhnihi1lhmhhhkjghghjihiiigsm9s3nohjgh",
    "1khghi1u2vhhmghhhgigijopam2uhhmjigi1q2k3iohhgijrpms1j2qhghhmghhmp3m1qlhkgp1mbp2upgig6k",
    "5isniginhhh1nhkhhkghjhipp4mni2pojhj1rgq2nmhknpgmhj2ttgiot4onpfmoh2lughlq1sj1v1pgngig4r",
    "mhhh2l1lgppmlhhh2kkhhghgnp13m1iijpuh2johhgh1m5mgv3ht39q6m6uhkrcja4s6it42v1hlfbp24m21bp",
    "23on1uhpk5ghpm1tngq2vnuqphmh1kl1i2bg5q6l4ql3nrs4gjshu17fno4dl2qo22enjhmhhh12ivg1tiiguj",
    "o18r90k6qlsjonpigig12bg7j3sflq2mi3rhgjj1lhn1tk3s1l4hjg7q1js1js5mp1o8n5kh4mhhigihijhrhg",
    "hmh4ghjinhmh1rhjhkhgjmh15ji12ji23h3nj3inhthm47k1uml10l3t9i2sqmipkh14g1t1i2rkplg1dg1rkp",
    "2emmhjhhhuhckio3g4jngkpkh31h4j4s3scijh1qhhhgighphjhghgmgkghghghihhhgighghghghghhhgijhm",
    "hjhjhghph1glihkh1g3kh10u2rk6jsuiuhuh2kqat3o1st2rkonhul9q3dnk1gjsj7mk5umrkgvrk3nopm2no1",
    "tih4u15jstisjon2thmotkonon9ih3m2lp40ma6dv2g103pmdti168hu1d3gc1v21t5ei134ql105v"]⟩,
  ⟨["grext", "graphemeextend"],
    ["30g6v11jm10n2shghhhhhg4oq3g1k1gg6lmilihhj2jg1u1q5rq3qopg1ojhohihk2ri3sn2q1nh1v3nghgknk",
    "gjmqh1tg3qghgijogpgqh1qgih3pgkhkhiijg1uhjgrh3pgkkhhkg1kh1mlhg3qghhhjogniqh1ug3rghgsgpg",
    "2ogjg3nghilihjnhrh1tg3qgigigjglhnhrh1sh3phhgijogpgqh1tg4ogkgiihgog5hgimsn6igiorm4ph1rg",
    "hghg3nthkhhlqh2jpg6mjhlhhih1phki1gjtgihmgvg2bvi3bii1th1uh1uh4ghhmogiqpg2tihg7lh2ig7mik",
    "hpgmidrhig3qghmhghginmpig3g1u3hj3gmhglg2oosh2gjihhi3oghhjghi3qnih9oihshmkgmgjhcm3v20sg",
    "cj2gbfui8tg6g1v22ql6ph75dkjhp2gh5gh11ggjgkg1phlg9nh1q1htg2mn1pq2ui3ggijih2ng4jlihihsgo",
    "g2vg3jghiihlhhg2qhogeugigkg4f3gg2ehv1gv16uh25tgeig9lk68mihhlj2oikgalh23tj18jh5gi4mq3hj",
    "7rg3mu2pgihqi3hjihng3ti2kkhn3ugsh3koqjig5viighhmgig9tgjn1lh3phhghg1mgumjkcjniihg1ng5hg",
    "ilhgighhhhergijmhhh1rh5lnighh6qghgilhg6liijhk10johhflgqhhgkg9gjihkg2gp2olijogplii2ushh",
    "19mmhlhg5i1limhhhh7qljghhhmhg4ohjghg15rhrh3kklghg14ftgmu369qk3rm41og3vj5hg4cboh126h2ti",
    "1m21ughikkonim1uj9ki7br3mk3hogug1mkhu55gmh1gimhhhk6kgagm17ng3tj1fsj3egm6tmc16dl5v8gev"]⟩,
  ⟨["hex", "hexdigit"],
    ["3gpnl1qlfeappnl1ql"]⟩,
  ⟨["idsb", "idsbinaryoperator"],
    ["2ffghin"]⟩,
  ⟨["idst", "idstrinaryoperator"],
    ["2ffih"]⟩,
  ⟨["idc", "idcontinue"],
    ["3gpn1pkgh1p2vgqghgigl1mh1uh1cpkruknghg1h7khhijhgmkhgh1jh5ih8qhkialh2ligm2oo2shghhhhhgo",
    "1qkj1tql4pk6lhniph1iig1g3qi6ku3lkgigi2t1i1rkql1nhlp4ph8giph1ihnihi1lhmhgjjioihijogkhhk",
    "irqghgiihlkhi1lhmhhhhhhighkkhiijgnjhgnvrihohih1lhmhhhkiphihiigvjippmhihnihi1lhmhhhkioi",
    "hiinikhhkiphg1ghhljihjjhhghhjhjijrkkjihjigmgup1gshih1mhviohihjnhhiigijip1gjhnhih1mhphk",
    "iohihjnhmhhjiphisshih3ihihkljnkipqlhih1hj1nhohgimjgklhghnmpiht3pluhp2nhhghkh1nhgh1mikh",
    "ghmhpij2gg1nhmprghghgkph2jk1jh1hh2jpg3p4pm4ti2lhglgi2qh14shjimhghji2ohji2ghjimhghjiuh3",
    "ohji4iiipouv1g5lilj26ri1gh1pl4qjqn1lp1lr1jsshihhs5jjgkhip2hihqm5on2ql4lq1uhrkrq2nikr2r",
    "k1pmq2l1rk3uh1siqmptgothv3h4sjp1hos7js3nopj3gion2qii1gih2ml21lili2lilinhghghgh1ui3khmh",
    "gjihmjjilkslihm4ih1jg1sgtg1gs3jskgjr1hgkgiphgilmghghghvijlkkg1h2oa7nekmos2lhglgi3nngv1",
    "npmhmhmhmhmhmhmhmh1v20li1puhkikk5limh5phjl2qh5t1h1v3gv20g19bv4g568s4j2ti10sj1r1k2vkph7",
    "i2loi6mi3vlhhghk1o3lkg1j3js4lqpm1njgh3gi2js1sj4guqm1uh3mptipm1mj4o1oiivikqlililpmhmh2q",
    "htm7qhhipm2bajs1mk3g210k16ti6p2mmsklrhshkhghhhhh6r2h16q1i3vi3l2orkv1gvjh1oi2gkh8m1jpn1",
    "pkgh1pr5ojlililii2jrh1ph1ihhhuit2i7q4l3k8og8i1sj3gvg1v1vt1tl2ql1ti2jknhk2q9tipm2jk2jk2",
    "no3jsqhuhmhhhqhuhmhh4j13mp1lqn1olh2pho4lligh2rhhjgi1mq1mp1u4h1ihhq1lq1p4m3nmh4gjhhlnhi",
    "h1siikg2g1sj1s2jnh1t1p3lq1lq1it1h6u4o3n3it3it2nop14m2phhjh4r1vqgo2g1v1l2q1k1r1mp4m1vvp",
    "3rngt1onpm3khpkjo2jigp4kkjhshg2j1hh2kmj3umhghjhuhpn3qlpmjhnihi1lhmhhhkhpihiiigmglmimjk",
    "8r4qlpkj1u4lhgopam3lio1nl2i4gjgrp2m3onp3m1qiukpmmbp3q6l4p1lniginhhh1thhiosp4mni2tinhh1",
    "r3uogo4pjg1i4o10noh2shovp1o1ti1lht4pmhhh2rjghhhoopmlhhh2khhhlnp13m1mp1gh2ojktp5mg4v39p",
    "6m6u1hcja4s6gv42v1g1lfaq24m21bp23on1uhpm4uhpm1tikr3mpjspp1kl1i2bg3v8g4qk3on1g4ghhhrhu1",
    "7fno4dl2qo22enjhmhhh12ivg1tiigujo18r90k6qlsjonpjh126h2ti1m21ukjlonim1uj9ki1br5kh4mhhig",
    "ihijhrhghmh4ghjinhmh1rhjhkhgjmh15ji1oh1oh1uh1oh1uh1oh1uh1oh1uh1ohni3h20g3mk3hogug1mkhu",
    "45g1umldlmh1gimhhhkl3t2hg7g2sjtipkg14h1u1h3p1dm2p2emmhjhhhuhckrm2p4rkp4amjh1qhhhgighph",
    "jhghgmgkghghghihhhgighghghghghhhgijhmhjhjhghph1glihkh1gd3kp40ma6dv2g103pmdti168hu1d3gc",
    "1v21t5ei134ql105vadd5gev"]⟩,
  ⟨["ids", "idstart"],
    ["4h1pm1p2vgqgkgl1mh1uh1cpkruknghg8hkhhijhgmghihgh1jh5ih8qoalh2ligm2o4n1qkj2t2q2jhh6ihgv",
    "hnhqiig1ggh1t1t5org1o2gphkgl1lkgpgjg1n1onql1nhl1h2p3q3ljg1ignpvvknihi1lhmhgjjjg1ggthhi",
    "uhqgolkhi1lhmhhhhhh1vjhg1ji1gohih1lhmhhhkjg1igvh1ngrnihi1lhmhhhkjg1uhhivg1hghljihjjhhg",
    "hhjhjijr1mg3knhih1mhvjg1qiigih1ugknhih1mhphkjg1vhhhvh1hohih2oig1gglioi1oll1hj1nhohgim3",
    "q2vhhsm3qhhghkh1nhghphhpgikhg1lj2gg3vnh2j1rk7j2q1kg1glkjjgjhnikssg1h2lhglgi2qh14shjimh",
    "ghji2ohji2ghjimhghjiuh3ohji4i2lv1g5lilj26ri1gh1pl4qjqn1ht1iu1hushiv3j2jgkg4j5on2ohgl4l",
    "q1u3h1tikr2rk1p3m1mp3k5ig5t2u1hn3m1tthq2r1q2j2piq2jion2qii2pjhlhhjglbv4g11lili2lilinhg",
    "hghgh1ui3khmhgjihmjjilkslihm7kgtg1gs6lgkgiphgilmghghghvijlkkg1h2oa7nekmjjhs2lhglgi3nng",
    "1g1mpmhmhmhmhmhmhmhm22mi1ponkikk5lkkh5phjl2qh5t1h1v3gv20g19bv4g568s4j2ti10sjvqh1k2u1g1",
    "ui4v2noi6mi3vlhhghk1ovhihjh1m1t3ju3h3uljghhr1rq1m1p1sn2u1sg1gkhpqkh2o1nihn1k1mjgj3hhgj",
    "hikighg1oiiqnislililpmhmh2qhtm7i1t2bajs1mk3g210k16ti6p2mmsklghphshkhghhhhh6r2h16q1i3vi",
    "3l2or7kkh8m2k1pm1pr5ojlililii2jrh1ph1ihhhuit2i7q4l3k10r1sj3g2v1vt1tl2lq1ti2jknhk2q9t1i",
    "2jk2jk2no3jsqhuhmhhhqhuhmhh4j13mp1lqn1olh2pho4lligh2rhhjgi1mq1mp1u4h1ihhq1lq1p4m3nmh4g",
    "gvjhih1s2q1sj1s2jnh1r1r3lq1lq1it1h6u4o3n3it3it2j15s2pmh4u1sqgo1l2q1h2u1k1r1ms3k3phigt2",
    "s2g1o1q2j1tgigo2ijgs2vuj1lghg2j1hh1o1jh3vmhghjhuhpn2u2mnihi1lhmhhhkjg1igsk9u3k1ij1ki1u",
    "2v1khhgbo2u2pj2k2v1kg3r2qtg4n1q2lmbp2r7k3v1vniginhhh1nvghg5uni2m1gghg1sgq2nng1lgr2t1jg",
    "1i4o10noh2k1hg3h1t7gmhhh2l1lg1plhhh1vug14n1ivghsh2h7sg4v39p6m6u1hcja4s6gv42v1hlfbp24m2",
    "1bp23on1u1h4u1h1t1i2v1gj1v1kl1i2bg3v8g4qlg4is4ghhg1s17fno4dl2qo22enjhmhhh12ivg1tiigujo",
    "18r90k6qlsjonp176m5kh4mhhigihijhrhghmh4ghjinhmh1rhjhkhgjmh15ji1oh1oh1uh1oh1uh1oh1uh1oh",
    "1uh1ohn73k1uml10l3t9i2sqm1gg14h1t1i2r1ek1r2fkmhjhhhuhck3r4jng4bkjh1qhhhgighphjhghgmgkg",
    "hghghihhhgighghghghghhhgijhmhjhjhghph1glihkh1g114ka6dv2g103pmdti168hu1d3gc1v21t5ei134q",
    "l105v"]⟩,
  ⟨["ideo", "ideographic"],
    ["300mh1poui3cl19bv4g51fv590g16ti6p750qg1r17fno4dl2qo246n18r4d0ka6dv2g103pmdti168hu1d3gc",
    "1v21t5ei134ql105v"]⟩,
  ⟨["joinc", "joincontrol"],
    ["200sh"]⟩,
  ⟨["loe", "logicalorderexception"],
    ["e4gk7rkafgiig90fqhighh"]⟩,
  ⟨["lower", "lowercase"],
    ["6h1p2vgqgkg2k1nhnhghghghghghghghghghghghghghghghghghghghghghghghghghghghhhghghghghghgh",
    "ghhhghghghghghghghghghghghghghghghghghghghghghghgighghiighgigjhkgigjiigighghgighhhgigj",
    "ghgihiimgigighghghghghghghghhhghghghghghghghghhighgjghghghghghghghghghghghghghghghghgh",
    "ghghghghghghghghghghghghmigihhgkghghghgh4kh2jnh1uk6gg2rghgjgij1ig1r2ihhjihghghghghghgh",
    "ghghghghghkhgigih3j2vhghghghghghghghghghghghghghghghghgpghghghghghghghghghghghghghghgh",
    "ghghghghghghghghghghghgighghghghghghhhghghghghghghghghghghghghghghghghghghghghghghghgh",
    "ghghghghghghghghghghghghghghghghghghghghghghghg3g2ob4n2qhj2fol88io7nbv4hghghghghghghgh",
    "ghghghghghghghghghghghghghghghghghghghghghghghghghghghghghghghghghghghghghghghghghghgh",
    "ghghghghghghghghghghghghghghghghghghghghghghghghohghghghghghghghghghghghghghghghghghgh",
    "ghghghghghghghghghghghghghghghghghghghghghghghghghghghghghghoolqnonolqnonotinononokhhm",
    "gjihhojihonqihh7pgtg1gs6tgjhjg1rgkgkgihojkg2hvkg34r1p74m2vhgjhhghghgkghhhnjghghghghghg",
    "hghghghghghghghghghghghghghghghghghghghghghghghghghghghghghghghghghghghghghghghghghghg",
    "hhnghgkgs2lhglg791jghghghghghghghghghghghghghghghghghghghghghghg1jghghghghghghghghghgh",
    "ghghghi8lghghghghghghihghghghghghghghghghghghghghghghghghghghghghghghghghghghghghghphg",
    "hgighghghghgkghgighihghghghghghghghghghglglghghghghghghghgkghgmghghghghg1oihghi33l2qht",
    "m4v4f4gmsk42p1p4ct2n8o2j9rqhuhmhh1cjgiih2pho50l3ibct1v558g1v659q1p1qmh1h1q1p1qjhghmhq1",
    "q1p1q1p1q1p1q1p1q1p1q1p1q1p1q1p1q1r1s1ohl1q1ohl1q1ohl1q1ohl1q1ohlhg73kph1jml10l3t8bk2h"]⟩,
  ⟨["math"],
    ["2rg1gi1vg1tghg2tgkg2lg1vg2doiig1qhii20vi1a0tg1rirgjgtguj1lkrk4hskgjhkk1igkgiphgilmgjhi",
    "hhihljthg4k1nhlhhkhk1vhgmhu10roj1kh5qg1u1qhg1ogrm1bthspklkhihjkughgilrnlh3pghg1tjpi15g",
    "3v10g1fv3g1kilcfdsg33nlhgaig1gi1tghg1tghg8jgmjd41j5kh4mhhigihijhrhghmh4ghjinhmh1rhjhkh",
    "gjmh15ji12ji3h160gjh1qhhhgighphjhghgmgkghghghihhhgighghghghghhhgijhmhjhjhghph1glihkh1g",
    "3kh"]⟩,
  ⟨["nchar", "noncharactercodepoint"],
    ["fddg1v20uhfffuhfffuhfffuhfffuhfffuhfffuhfffuhfffuhfffuhfffuhfffuhfffuhfffuhfffuhfffuhf",
    "ffuh"]⟩,
  ⟨["patsyn", "patternsyntax"],
    ["2huqm1qjhg1qj2imhghhhghhkgkgjg1ng1vg1f1o1noui1ihp13h2cvag27l1u46r20g7v18hik1ovgcd0th10",
    "lh"]⟩,
  ⟨["patws", "patternwhitespace"],
    ["pk1ig6kg1f8oh1oh"]⟩,
  ⟨["pcm", "prependedconcatenationmark"],
    ["60gldng3hg18gh5gg107dqgvg"]⟩,
  ⟨["qmark", "quotationmark"],
    ["2igkg8jgvg1f5sn1phe0ng1cpjtice2hjbtgkg5qh"]⟩,
  ⟨["radical"],
    ["2e8g1ph5osdl"]⟩,
  ⟨["ri", "regionalindicator"],
    ["1f1em1p"]⟩,
  ⟨["sterm", "sentenceterminal"],
    ["2hgsg1gg54pg9jibkg2rifmg3tghgjh12lh6ekh31mgkh30lgcmhcsglg13qh16ijauhih1thbsh4hh3bshpid",
    "ekgtg1mh1atg74fsg10uhejgjg17uh5mh5vg9oh9ji9ghfpg526mgjhapgsg1gg4hgafkh4ftk2sjbth7lj7vi",
    "8hhmg1gh5ohhh6sg1ahh17lhlu6phfpi20lghgfrh5nh1akh2bkh4qh4b2ph8lg4hhrg35jg4e0mg1deog"]⟩,
  ⟨["sd", "softdotted"],
    ["6phckg11pg1ug3kg1kg14gg6ighg190pg3jgtgjg8kg9tg1algdmhb3ig1a7alh3ih3ih3ih3ih3ih3ih3ih3i",
    "h3ih3ih3ih3ih88mg13hh1qg"]⟩,
  ⟨["term", "terminalpunctuation"],
    ["2hgqghgrhjg33ugog20hg3pg4ogughibkg2rqhgerh3mu1vg10lh4fkhasgkl13nh31ln30lg7si4nh9tijg2n",
    "jih13qh16ijauhhi1thbsk3uh3bshpidekgtgkgqghhjh1ash74frh10tiejk17uh5mh5vg9ni9ji7vg1ghfpg",
    "526kihjapgqghgrhjg4hgig43qg3gg48mgcng13mh9ol4kl5pj3bok2sjbtm7gj7vi8hhmg1gh5ok6sg1ahish",
    "16mjju6phfpi20lghgfrh5nhkh19ui2tg28lh4qh52rk45fph8lg4hiqg35ih4e0mg1denj"]⟩,
  ⟨["uideo", "unifiedideograph"],
    ["340g19bv4g51fv5a0uhhghhqghghhii105dma6dv2g103pmdti168hu1d3g141v134ql105v"]⟩,
  ⟨["upper", "uppercase"],
    ["4h1p6l1mhm2hghghghghghghghghghghghghghghghghghghghghghghghghghghghgighghghghghghghgigh",
    "ghghghghghghghghghghghghghghghghghghghghghghhhghgjhhghhhiijhhhijhhhhghghhhgighhhihghhj",
    "gngigigighghghghghghghgighghghghghghghghgigighihghghghghghghghghghghghghghghghghghghgh",
    "ghghghghghghghghghgnhhhighjhghghghg12hghgjgogmghihghhh1gho2jgiijghghghghghghghghghghgh",
    "glgighhi3i3gghghghghghghghghghghghghghghghghgpghghghghghghghghghghghghghghghghghghghgh",
    "ghghghghghghghhhghghghghghgighghghghghghghghghghghghghghghghghghghghghghghghghghghghgh",
    "ghghghghghghghghghghghghghghghghghghgi2lb4p2lhglg2di5l89q2qii14gghghghghghghghghghghgh",
    "ghghghghghghghghghghghghghghghghghghghghghghghghghghghghghghghghghghghghghghghghghghgh",
    "ghghghghghghghghghghghghghghghghghghghghgpghghghghghghghghghghghghghghghghghghghghghgh",
    "ghghghghghghghghghghghghghghghghghghghghghghghghghghgpnolqnonolrghghghgon4ojsjsjskrj10",
    "mgkgjiiiigjkmghghghjijqhlg1qv1jg33i1p73g2v3gghiighghghjhgigoihghghghghghghghghghghghgh",
    "ghghghghghghghghghghghghghghghghghghghghghghghghghghghghghghghghghghghghgoghgkg794tghg",
    "hghghghghghghghghghghghghghghghghghghghghg1jghghghghghghghghghghghghghg8nghghghghghghg",
    "jghghghghghghghghghghghghghghghghghghghghghghghghghghghghghghgqghghhhghghghgkghgighgjg",
    "hghghghghghghghghghkhkhghghghghghghghjhgmglghg1sg572r1p4cl2n8o2j9sqhuhmhh6eq3ibet1v558",
    "g1v65ag1p1q1p1q1p1qghhigihijhn1q1p1qhhjinhm1rhhjhkhgjm1r1p1q1p1q1p1q1p1q1p1q1p1u1o2h1o",
    "2h1o2h1o2h1o2hg113l2h80u1pm1pm1p"]⟩,
  ⟨["vs", "variationselector"],
    ["180rihge5fgvd02fgev"]⟩,
  ⟨["wspace", "whitespace", "space"],
    ["pk1ig6kg1qg15dvg97vq1thlg2vgfagg"]⟩,
  ⟨["xidc", "xidcontinue"],
    ["3gpn1pkgh1p2vgqghgigl1mh1uh1cpkruknghg1h7khhjihgmkhgh1jh5ih8qhkialh2ligm2oo2shghhhhhgo",
    "1qkj1tql4pk6lhniph1iig1g3qi6ku3lkgigi2t1i1rkql1nhlp4ph8giph1ihnihi1lhmhgjjioihijogkhhk",
    "irqghgiihlkhi1lhmhhhhhhighkkhiijgnjhgnvrihohih1lhmhhhkiphihiigvjippmhihnihi1lhmhhhkioi",
    "hiinikhhkiphg1ghhljihjjhhghhjhjijrkkjihjigmgup1gshih1mhviohihjnhhiigijip1gjhnhih1mhphk",
    "iohihjnhmhhjiphisshih3ihihkljnkipqlhih1hj1nhohgimjgklhghnmpiht3pluhp2nhhghkh1nhgh1mikh",
    "ghmhpij2gg1nhmprghghgkph2jk1jh1hh2jpg3p4pm4ti2lhglgi2qh14shjimhghji2ohji2ghjimhghjiuh3",
    "ohji4iiipouv1g5lilj26ri1gh1pl4qjqn1lp1lr1jsshihhs5jjgkhip2hihqm5on2ql4lq1uhrkrq2nikr2r",
    "k1pmq2l1rk3uh1siqmptgothv3h4sjp1hos7js3nopj3gion2qii1gih2ml21lili2lilinhghghgh1ui3khmh",
    "gjihmjjilkslihm4ih1jg1sgtg1gs3jskgjr1hgkgiphgilmghghghvijlkkg1h2oa7nekmos2lhglgi3nngv1",
    "npmhmhmhmhmhmhmhmh1v20li1puhkikk5lihiih5phjl2qh5t1h1v3gv20g19bv4g568s4j2ti10sj1r1k2vkp",
    "h7i2loi6mi3vlhhghk1o3lkg1j3js4lqpm1njgh3gi2js1sj4guqm1uh3mptipm1mj4o1oiivikqlililpmhmh",
    "2qhtm7qhhipm2bajs1mk3g210k16ti6p2mmsklrhshkhghhhhh6r2h8qmdp1i3vi3l2opmv1gvjh1oi2hghgjg",
    "hghghgh7t1jpn1pkgh1pr5ojlililii2jrh1ph1ihhhuit2i7q4l3k8og8i1sj3gvg1v1vt1tl2ql1ti2jknhk",
    "2q9tipm2jk2jk2no3jsqhuhmhhhqhuhmhh4j13mp1lqn1olh2pho4lligh2rhhjgi1mq1mp1u4h1ihhq1lq1p4",
    "m3nmh4gjhhlnhih1siikg2g1sj1s2jnh1t1p3lq1lq1it1h6u4o3n3it3it2nop14m2phhjh4r1vqgo2g1v1l2",
    "q1k1r1mp4m1vvp3rngt1onpm3khpkjo2jigp4kkjhshg2j1hh2kmj3umhghjhuhpn3qlpmjhnihi1lhmhhhkhp",
    "ihiiigmglmimjk8r4qlpkj1u4lhgopam3lio1nl2i4gjgrp2m3onp3m1qiukpmmbp3q6l4p1lniginhhh1thhi",
    "osp4mni2tinhh1r3uogo4pjg1i4o10noh2shovp1o1ti1lht4pmhhh2rjghhhoopmlhhh2khhhlnp13m1mp1gh",
    "2ojktp5mg4v39p6m6u1hcja4s6gv42v1g1lfaq24m21bp23on1uhpm4uhpm1tikr3mpjspp1kl1i2bg3v8g4qk",
    "3on1g4ghhhrhu17fno4dl2qo22enjhmhhh12ivg1tiigujo18r90k6qlsjonpjh126h2ti1m21ukjlonim1uj9",
    "ki1br5kh4mhhigihijhrhghmh4ghjinhmh1rhjhkhgjmh15ji1oh1oh1uh1oh1uh1oh1uh1oh1uh1ohni3h20g",
    "3mk3hogug1mkhu45g1umldlmh1gimhhhkl3t2hg7g2sjtipkg14h1u1h3p1dm2p2emmhjhhhuhckrm2p4rkp4a",
    "mjh1qhhhgighphjhghgmgkghghghihhhgighghghghghhhgijhmhjhjhghph1glihkh1gd3kp40ma6dv2g103p",
    "mdti168hu1d3gc1v21t5ei134ql105vadd5gev"]⟩,
  ⟨["xids", "xidstart"],
    ["4h1pm1p2vgqgkgl1mh1uh1cpkruknghg8hkhhjihgmghihgh1jh5ih8qoalh2ligm2o4n1qkj2t2q2jhh6ihgv",
    "hnhqiig1ggh1t1t5org1o2gphkgl1lkgpgjg1n1onql1nhl1h2p3q3ljg1ignpvvknihi1lhmhgjjjg1ggthhi",
    "uhqgolkhi1lhmhhhhhh1vjhg1ji1gohih1lhmhhhkjg1igvh1ngrnihi1lhmhhhkjg1uhhivg1hghljihjjhhg",
    "hhjhjijr1mg3knhih1mhvjg1qiigih1ugknhih1mhphkjg1vhhhvh1hohih2oig1gglioi1oll1hj1nhohgim3",
    "q2vhgtm3qhhghkh1nhghphgqgikhg1lj2gg3vnh2j1rk7j2q1kg1glkjjgjhnikssg1h2lhglgi2qh14shjimh",
    "ghji2ohji2ghjimhghjiuh3ohji4i2lv1g5lilj26ri1gh1pl4qjqn1ht1iu1hushiv3j2jgkg4j5on2ohgl4l",
    "q1u3h1tikr2rk1p3m1mp3k5ig5t2u1hn3m1tthq2r1q2j2piq2jion2qii2pjhlhhjglbv4g11lili2lilinhg",
    "hghgh1ui3khmhgjihmjjilkslihm7kgtg1gs6lgkgiphgilmghghghvijlkkg1h2oa7nekmjjhs2lhglgi3nng",
    "1g1mpmhmhmhmhmhmhmhm22mi1ponkikk5lmih5phjl2qh5t1h1v3gv20g19bv4g568s4j2ti10sjvqh1k2u1g1",
    "ui4v2noi6mi3vlhhghk1ovhihjh1m1t3ju3h3uljghhr1rq1m1p1sn2u1sg1gkhpqkh2o1nihn1k1mjgj3hhgj",
    "hikighg1oiiqnislililpmhmh2qhtm7i1t2bajs1mk3g210k16ti6p2mmsklghphshkhghhhhh6r2h8qmdp1i3",
    "vi3l2op7nghgjghghghgh7t2k1pm1pr3ni1ujlililii2jrh1ph1ihhhuit2i7q4l3k10r1sj3g2v1vt1tl2lq",
    "1ti2jknhk2q9t1i2jk2jk2no3jsqhuhmhhhqhuhmhh4j13mp1lqn1olh2pho4lligh2rhhjgi1mq1mp1u4h1ih",
    "hq1lq1p4m3nmh4ggvjhih1s2q1sj1s2jnh1r1r3lq1lq1it1h6u4o3n3it3it2j15s2pmh4u1sqgo1l2q1h2u1",
    "k1r1ms3k3phigt2s2g1o1q2j1tgigo2ijgs2vuj1lghg2j1hh1o1jh3vmhghjhuhpn2u2mnihi1lhmhhhkjg1i",
    "gsk9u3k1ij1ki1u2v1khhgbo2u2pj2k2v1kg3r2qtg4n1q2lmbp2r7k3v1vniginhhh1nvghg5uni2m1gghg1s",
    "gq2nng1lgr2t1jg1i4o10noh2k1hg3h1t7gmhhh2l1lg1plhhh1vug14n1ivghsh2h7sg4v39p6m6u1hcja4s6",
    "gv42v1hlfbp24m21bp23on1u1h4u1h1t1i2v1gj1v1kl1i2bg3v8g4qlg4is4ghhg1s17fno4dl2qo22enjhmh",
    "hh12ivg1tiigujo18r90k6qlsjonp176m5kh4mhhigihijhrhghmh4ghjinhmh1rhjhkhgjmh15ji1oh1oh1uh",
    "1oh1uh1oh1uh1oh1uh1ohn73k1uml10l3t9i2sqm1gg14h1t1i2r1ek1r2fkmhjhhhuhck3r4jng4bkjh1qhhh",
    "gighphjhghgmgkghghghihhhgighghghghghhhgijhmhjhjhghph1glihkh1g114ka6dv2g103pmdti168hu1d",
    "3gc1v21t5ei134ql105v"]⟩]

end OperationCheck.Unicode
