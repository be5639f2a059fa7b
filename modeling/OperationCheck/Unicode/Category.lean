import OperationCheck.Unicode.Property

/-!
The general categories of Unicode, surrogates left out.
-/

namespace OperationCheck.Unicode

/-- Each general category has its names and its code ranges. -/
def categories : List Property := [
  ⟨["c", "other"],
    ["g1v5v2gtg2cqhmjnghg1kg18tg2mh3ihjg3nn1rjm1g1mgcgg3gh3rh6lt3rh3hhvg1shhgrk1vo4qgahgohih",
    "1mgnghikhphihknhjiglh1phjgmjih1mgngigigihhgljihjihmkghm1hpjgpgjg1mgngiglhqgjgjhhukhsmn",
    "gjgohih1mgngiglhphihjmjjiglh1ipigmijgkiighgiiiijisjlijgkhhlht1lktgjg1ng1ghpgjgkmigjhhh",
    "khqm1mgjg1ngqglhpgjgkmiligkhqgjrtgjg3jgjgmj1gh1qgjg1ii1ogpghhnihjmghgolqhjr3qj1t2kighg",
    "lg1oghg1nhlghgngqhk1v4og2kj2ng2kgvgt2kcmghkhh17pgkhnghgkh2pgkh2hgkhnghgkhvg3pgkh4jh2gi",
    "1ql5mhmh29ti5pm1mo1oo1krtgjgir5uhqlqlugrl5pm2rk4mp1vgsjsjhi2qhlq2sj1qlri3uh4hg1thrlqlu",
    "h1v3g4ti2vg7kn3sivi3sm2rhrn2rk21mhmh2mhmhoghghghg1vh3lgvguhmg1jhjgpgrk1qk3hvih1rgti2hu",
    "2hu8sj29n1or1k71kh2gg15tk2tghkhh3omit1oongngngngngngngng7u2h1qg5prdm1psj4gg5mh6nk2rg5u",
    "g5kr2vg726ti3no15s1jboncrkighgl1n3riql3on4mnsl7kq1ui4ugrj2hg3nouhqh6n1n1spmhmhmongng3s",
    "j7uhql2bakr1nj3hj80g18fv16uh6q2lnrlk1qglghgigig7tv1bth3mmh1v2ql3jg1jgkjlg8njbuimhmhmhj",
    "ingnsihsg1qg1jgigvhu2h7rkjj2ti5ogtih2u2u8h1ti3hu1sj2ko1uk2rk1ug2lju2p9uhql2kj2kj2on3kq",
    "sgvgngigrgvgngi4i13no1mpo1nmg2qgp4kmhhg2sgiihh1ng4onp2v1jgik2hi1rkh3v3oj1kh3igikogjg1t",
    "hjjqmpm4g1v2njso3mi1th1rk1qmkrn4v4p3m3js3jm2unq12l1vg2qgjhi4q2rn2q1l1q2l1s1j1no4uj2ko3",
    "ugls1pmql3lg1in2no6gg1kq1ig2v3tnghgkgvgrl3rkqlkgohih1mgngiglgqhihjhhlhknhnil8q5sgl1t4o",
    "nqal3mh2m2h4lqqlt1i3qlq3l1rhvj1nbo3s6j5jrohhhogig1ugihsoq4loh2uhr1q4on5js4pmqflpg2tgup",
    "1ti2gh1mgu4ongig2sihgigpnqlmgig2lgigmmq13l1pm1hg2pi1s5lhu3is39r6l6vglqcka4r6js43gv1mfa",
    "p24n21bo23pm1vgqj5hgql1uhmp4mpqgng1lk1j2av5r6k4rj3pm1h3vlqit17fon4dm2pp22emkgngig12juh",
    "1sjhhtkn18s90j6rktipmqhk125v2uh1no7k3rfmp2nh4qn7g1k4m7p1kr1kr5no1p8m5lg4ngihhhihkgsghg",
    "ng4hgkhogng1sgkglghing15kh12kh2buulgv44v1vlmdkng1hhngiglk3u2gh6v2tiuhqji13v1v1g3qkh1cv",
    "2q2elngkgigvgclh1g2o4sjqji31g4k4r3tchkg1rgighhhgqgkghghlhjhghghgjgighhhghghghghgighhkg",
    "ngkgkghgqg1hkjglg1h3ji10t2sj6krvhvgvg2lpau3n1ts2sjpmitm9p3doj1hiti7nj5vlsjhusj3onql2on",
    "1uhi4t15kruhtipm2ugnnujpmpm9jg3n2kq40la6eg1v103qlduh168it1d3hc1u21u5eh134rk106gadd4vfg",
    "2fe0v"]⟩,
  ⟨["cc", "control", "cntrl"],
    ["g1v5v2g"]⟩,
  ⟨["cf", "format"],
    ["atg55il1mgcgg3hg18gh5ggf2rg7fsk1qk3hkhpde8vgfpi10chgvg236iv886gj14cvnc2e8mg1u5v"]⟩,
  ⟨["cn", "unassigned"],
    ["37ohmjnghg1kg18tg2mh3ihjg3nn1rjmq10ug3sh6lt3rh3hhvg1shhgrk1vgilesgohih1mgnghikhphihknh",
    "jiglh1phjgmjih1mgngigigihhgljihjihmkghm1hpjgpgjg1mgngiglhqgjgjhhukhsmngjgohih1mgngiglh",
    "phihjmjjiglh1ipigmijgkiighgiiiijisjlijgkhhlht1lktgjg1ng1ghpgjgkmigjhhhkhqm1mgjg1ngqglh",
    "pgjgkmiligkhqgjrtgjg3jgjgmj1gh1qgjg1ii1ogpghhnihjmghgolqhjr3qj1t2kighglg1oghg1nhlghgng",
    "qhk1v4og2kj2ng2kgvgt2kcmghkhh17pgkhnghgkh2pgkh2hgkhnghgkhvg3pgkh4jh2gi1ql5mhmh29ti5pm1",
    "mo1oo1krtgjgir5uhqlql1ql5pm2rk4mp1vgsjsjhi2qhlq2sj1qlri3uh4hg1thrlqluh1v3g4ti2vg7kn3si",
    "vi3sm2rhrn2rk21mhmh2mhmhoghghghg1vh3lgvguhmg1jhjgpg6lgsh1rgti2hu2hu8sj29n1or1k71kh2gg1",
    "5tk2tghkhh3omit1oongngngngngngngng7u2h1qg5prdm1psj4gg5mh6nk2rg5ug5kr2vg726ti3no15s1jbo",
    "ncrkighgl1n3riql3on4mnsl7kq1ui4ugrj2hg3nouhqh6n1n1spmhmhmongng3sj7uhql2bakr1nj3hj226uh",
    "6q2lnrlk1qglghgigig7tv1bth3mmh1v2ql3jg1jgkjlg8nhhgbuimhmhmhjingnplhsg1qg1jgigvhu2h7rkj",
    "j2ti5ogtih2u2u8h1ti3hu1sj2ko1uk2rk1ug2lju2p9uhql2kj2kj2on3kqsgvgngigrgvgngi4i13no1mpo1",
    "nmg2qgp4kmhhg2sgiihh1ng4onp2v1jgik2hi1rkh3v3oj1kh3igikogjg1thjjqmpm4g1v2njso3mi1th1rk1",
    "qmkrn4v4p3m3js3jm2unq12l1vg2qgjhi4q2rn2q1l1q2l1s1j1no4uj2ko4kphh1pmql3lg1in2no6gg1kq1i",
    "g2v3tnghgkgvgrl3rkqlkgohih1mgngiglgqhihjhhlhknhnil8q5sgl1t4onqal3mh2m2h4lqqlt1i3qlq3l1",
    "rhvj1nbo3s6j5jrohhhogig1ugihsoq4loh2uhr1q4on5js4pmqflpg2tgup1ti2gh1mgu4ongig2sihgigpnq",
    "lmgig2lgigmmq13l1pm1hg2pi1s5lhu3is39r6l6vglqcka4r6js45mfap24n21bo23pm1vgqj5hgql1uhmp4m",
    "pqgng1lk1j2av5r6k4rj3pm1h3vlqit17fon4dm2pp22emkgngig12juh1sjhhtkn18s90j6rktipmqho125r2",
    "uh1no7k3rfmp2nhci1k4m7p1kr1kr5no1p8m5lg4ngihhhihkgsghgng4hgkhogng1sgkglghing15kh12kh2b",
    "uulgv44v1vlmdkng1hhngiglk3u2gh6v2tiuhqji13v1v1g3qkh1cv2q2elngkgigvgclh1g2o4sjqji31g4k4",
    "r3tchkg1rgighhhgqgkghghlhjhghghgjgighhhghghghghgighhkgngkgkghgqg1hkjglg1h3ji10t2sj6krv",
    "hvgvg2lpau3n1ts2sjpmitm9p3doj1hiti7nj5vlsjhusj3onql2on1uhi4t15kruhtipm2ugnnujpmpm9jg3n",
    "2kq40la6eg1v103qlduh168it1d3hc1u21u5eh134rk106gadc5gh1t6g7vfgfe0vfffuhfffuh"]⟩,
  ⟨["co", "privateuse"],
    ["e00g18fve070gffftiffft"]⟩,
  ⟨["l", "letter"],
    ["4h1pm1p2vgqgkgl1mh1uh1cpkruknghg8hkhhijhgmghihgh1jh5ih8qoalh2ligm2o4n1qkj2t2q2jhh6ihgv",
    "hnhqiig1ggh1t1t5org1o2gphkgl1lkgpgjg1n1onql1nhl1h2p3q3ljg1ignpvvknihi1lhmhgjjjg1ggthhi",
    "uhqgolkhi1lhmhhhhhh1vjhg1ji1gohih1lhmhhhkjg1igvh1ngrnihi1lhmhhhkjg1uhhivg1hghljihjjhhg",
    "hhjhjijr1mg3knhih1mhvjg1qiigih1ugknhih1mhphkjg1vhhhvh1hohih2oig1gglioi1oll1hj1nhohgim3",
    "q2vhhsm3qhhghkh1nhghphhpgikhg1lj2gg3vnh2j1rk7j2q1kg1glkjjgjhnikssg1h2lhglgi2qh14shjimh",
    "ghji2ohji2ghjimhghjiuh3ohji4i2lv1g5lilj26ri1gh1pl4qmnn1ht1iu1hushiv3j2jgkg4j5onki2hhgl",
    "4lq1u3h1tikr2rk1p3m1mp3k5ig5t2u1hn3m1tthq2r1q2j2piq2jion2qii2pjhlhhjglbv4g11lili2lilin",
    "hghghgh1ui3khmhgjihmjjilkslihm7kgtg1gs6lgkgiphgjkmghghghjhqijlkkg3kha7rekmjjhs2lhglgi3",
    "nng1g1mpmhmhmhmhmhmhmhm5gg1dlh2qklhk5lmih5phjl2qh5t1h1v3gv20g19bv4g568s4j2ti10sjvqh1k2",
    "u1g1ui4l3hoi6mi3vlhhghk1ovhihjh1m1t3ju3h3uljghhr1rq1m1p1sn2u1sg1gkhpqkh2o1nihn1k1mjgj3",
    "hhgjhikighg1oiiqnislililpmhmh2qhtm7i1t2bajs1mk3g210k16ti6p2mmsklghphshkhghhhhh6r2h16q1",
    "i3vi3l2or7kkh8m2k1pm1pr5ojlililii2jrh1ph1ihhhuit2i7q18l1sj3g2v1vt1jhnm2lq1ti2jkn3g9t1i",
    "2jk2jk2no3jsqhuhmhhhqhuhmhh4j13mp1lqn1olh2pho4lligh2rhhjgi1mq1mp1u4h1ihhq1lq1p4m3nmh4g",
    "gvjhih1s2q1sj1s2jnh1r1r3lq1lq1it1h6u4o3n3it3it2j15s2pmh4u1sqgo1l2q1h2u1k1r1ms3k3phigt2",
    "s2g1o1q2j1tgigo2ijgs2vuj1lghg2j1hh1o1jh3vmhghjhuhpn2u2mnihi1lhmhhhkjg1igsk9u3k1ij1ki1u",
    "2v1khhgbo2u2pj2k2v1kg3r2qtg4n1q2lmbp2r7k3v1vniginhhh1nvghg5uni2m1gghg1sgq2nng1lgr2t1jg",
    "1i4o10noh2k1hg3h1t7gmhhh2l1lg1plhhh1vug14n1ivghsh2h7sg4v39pemcja4s6gv42v1hlfbp24m21bp2",
    "3on1u1h4u1h1t1i2v1gj1v1kl1i2bg3v8g4qlg4is4ghhg1s17fno4dl2qo22enjhmhhh12ivg1tiigujo18r9",
    "0k6qlsjonp176m5kh4mhhigihijhrhghmh4ghjinhmh1rhjhkhgjmh15ji1oh1oh1uh1oh1uh1oh1uh1oh1uh1",
    "ohn73k1uml10l3t9i2sqm1gg14h1t1i2r1ek1r2fkmhjhhhuhck3r4jng4bkjh1qhhhgighphjhghgmgkghghg",
    "hihhhgighghghghghhhgijhmhjhjhghph1glihkh1g114ka6dv2g103pmdti168hu1d3gc1v21t5ei134ql105",
    "v"]⟩,
  ⟨["lc", "casedletter"],
    ["4h1pm1p3qgq1mh1uhcihjkcvh1qcgjihjihgmghihgh1jh5ih8qoalh2lp2ob1n2lhglgi2qii2ag5lil88ion",
    "2qii4g2r3vsh2h6l11lili2lilinhghghgh1ui3khmhgjihmjjilkslihm10lgkgiphgjkmghghghjhlkgijlk",
    "kg3kha7r7ri6mmjjhs2lhglg791i2t1i1r8m4th1mjjh3qlhhghk1rhjg33l2qlon4v4f4gmsk40p1pm1p4al4",
    "v6g2jk2j7kqhuhmhhhqhuhmhh6cj3it3ibat3v556g3v658g5kh4mhhigihijhrhghmh4ghjinhmh1rhjhkhgj",
    "mh15ji1oh1oh1uh1oh1uh1oh1uh1oh1uh1ohn73kph1jml9dl4j"]⟩,
  ⟨["ll", "lowercaseletter"],
    ["6h1p3qg2p1nhnhghghghghghghghghghghghghghghghghghghghghghghghghghghghhhghghghghghghghhh",
    "ghghghghghghghghghghghghghghghghghghghghghghgighghiighgigjhkgigjiigighghgighhhgigjghgi",
    "hiimgigighghghghghghghghhhghghghghghghghghhighgjghghghghghghghghghghghghghghghghghghgh",
    "ghghghghghghghghghghmigihhgkghghghgh4kh1qchghgjgji1ig1r2ihhjihghghghghghghghghghghghkh",
    "gigih3j2vhghghghghghghghghghghghghghghghghgpghghghghghghghghghghghghghghghghghghghghgh",
    "ghghghghghgighghghghghghhhghghghghghghghghghghghghghghghghghghghghghghghghghghghghghgh",
    "ghghghghghghghghghghghghghghghghghg3g2ob4n2qii2fol88io7n2r3vsh2h6mghghghghghghghghghgh",
    "ghghghghghghghghghghghghghghghghghghghghghghghghghghghghghghghghghghghghghghghghghghgh",
    "ghghghghghghghghghghghghghghghghghghghghghohghghghghghghghghghghghghghghghghghghghghgh",
    "ghghghghghghghghghghghghghghghghghghghghghghghghghghghoolqnonolqnonotinononokhhmgjihho",
    "jihonqihh11igjhjg1rgkgkgihojkg3lgaar2vhgjhhghghgkghhhllghghghghghghghghghghghghghghghg",
    "hghghghghghghghghghghghghghghghghghghghghghghghghghghghghghghghghghhnghgkgs2lhglg791jg",
    "hghghghghghghghghghghghghghghghghghghghghghg1jghghghghghghghghghghghghghg8nghghghghghg",
    "hihghghghghghghghghghghghghghghghghghghghghghghghghghghghghghghghnhghgighghghghgkghgig",
    "hihghghghghghghghghghglglghghghghghghghgkghgmghghghghg1sgjg33l2qlon4v4f4gmsk42p1p4ct2n",
    "8o2j9rqhuhmhh70j3ibct1v558g1v659q1p1qmh1h1q1p1qjhghmhq1q1p1q1p1q1p1q1p1q1p1q1p1q1p1q1p",
    "1q1r1s1ohl1q1ohl1q1ohl1q1ohl1q1ohlhg73kph1jml9fn2h"]⟩,
  ⟨["lm", "modifierletter"],
    ["2bg1hkruknghg8lglg1dugemgakh10thkg1vgpgjgaggang4dkg7vg23lg6dqg6rg26jg1dglau3utg2i2k2bh",
    "gtg1gsbdvhfhgbvg1dlg2rklg6hh5ti6f1mg4eil10ug7ig1sh7po5gg1ng6pijh1dlg1mg8pg6sg1lh6njpg5",
    "40mg2th7eglh2pho638lj44vs4ghhg400sjhmhh303h3tcpm3atg45vg"]⟩,
  ⟨["lo", "otherletter"],
    ["aqgvg10ggkjdgg33r1qkj2t1vhp2jhh6ihg1ohqiig1ggh1t1t5org1o2g1l1l2q1onql1nhl1h2o3r3ljg1ig",
    "np1guknihi1lhmhgjjjg1ggthhiuhqgolkhi1lhmhhhhhh1vjhg1ji1gohih1lhmhhhkjg1igvh1ngrnihi1lh",
    "mhhhkjg1uhhivg1hghljihjjhhghhjhjijr1mg3knhih1mhvjg1qiigih1ugknhih1mhphkjg1vhhhvh1hohih",
    "2oig1gglioi1oll1hj1nhohgim3q2vhhsl3rhhghkh1nhghphhpgik1nj2gg3vnh2j1rk7j2q1kg1glkjjgjhn",
    "ikssg7h14ohjimhghji2ohji2ghjimhghjiuh3ohji4i2lv7h26ri1gh1pl4qmnn1ht1iu1hushiv3j2og4j2i",
    "h3knki2hhgl4lq1u3h1tikr2rk1p3m1mp3kbg2u1hn3m1tthq2r1q2j2piq1t7hjhlhhjg43qjbfn3n1o1mpmh",
    "mhmhmhmhmhmhm22ng3lgk5logh5pkgl2qh5t1h1v3gv20g19bv4g521kh47m4j2no10rkvqh4ig3h4lapg6ngj",
    "mhihjh1m1t3ju3h3uljghhr1rq1m1p1sn2u2tkioqkh2o1nihn1kvhljgj3hhgjhikighg1ohjqngulililpmh",
    "m9h2i1t2bajs1mk3g210k16ti6p4jghphshkhghhhhh6r2h16q1i3vi3l2or7kkh8m6pph2si1ujlililii2jr",
    "h1ph1ihhhuit2i7q18l1sj3g2v1vt1jhnm2lq1ti2jkn8g4t6i2no3j9s13mp1lqn9oligh2rhhjgi1mq1mp1u",
    "4h1ihhq1lq1p4m3nmh4ggvjhih1s2q1sj1s2jnh1r1r3lq1lq1it1h6u4obn2j15s2pmh4u1sqgo1l2q1h2u1k",
    "1r1ms3k3phigt2s2g1o1q2j1tgigo2ijgs2vuj1lghg2j1hh1o1jh3vmhghjhuhpn2u2mnihi1lhmhhhkjg1ig",
    "sk9u3k1ij1ki1u2v1khhgbo2u2pj2k2v1kg3r2qtg4n1q2lmbp2rdjniginhhh1nvghg5uni2m1gghg1sgq2nn",
    "g1lgr2t1jg1i4o10noh2k1hg3h1t7gmhhh2l1lg1plhhh1vug14n1ivghsh2h7sg4v39pemcja4s6gv42v1hlf",
    "bp24m21bp23on1u1h4u1h1t1i2v3j1kl1i37g4qlgav17fno4dl2qo22fn12ivg1tiigujo18r90k6qlsjonp2",
    "27gg1fl2s2hg14h1t1i2r1ek1q2flmhjhhhuhck53rjh1qhhhgighphjhghgmgkghghghihhhgighghghghghh",
    "hgijhmhjhjhghph1glihkh1g114ka6dv2g103pmdti168hu1d3gc1v21t5ei134ql105v"]⟩,
  ⟨["lt", "titlecaseletter"],
    ["1clgigig2mg1d9lnononsgvg2vg"]⟩,
  ⟨["lu", "uppercaseletter"],
    ["4h1p6l1mhm2hghghghghghghghghghghghghghghghghghghghghghghghghghghghgighghghghghghghgigh",
    "ghghghghghghghghghghghghghghghghghghghghghghhhghgjhhghhhiijhhhijhhhhghghhhgighhhihghhj",
    "gngigigighghghghghghghgighghghghghghghghgigighihghghghghghghghghghghghghghghghghghghgh",
    "ghghghghghghghghghgnhhhighjhghghghg12hghgjgogmghihghhh1gho2jgiijghghghghghghghghghghgh",
    "glgighhi3i3gghghghghghghghghghghghghghghghghgpghghghghghghghghghghghghghghghghghghghgh",
    "ghghghghghghghhhghghghghghgighghghghghghghghghghghghghghghghghghghghghghghghghghghghgh",
    "ghghghghghghghghghghghghghghghghghghgi2lb4p2lhglg2di5l89q2qii14gghghghghghghghghghghgh",
    "ghghghghghghghghghghghghghghghghghghghghghghghghghghghghghghghghghghghghghghghghghghgh",
    "ghghghghghghghghghghghghghghghghghghghghgpghghghghghghghghghghghghghghghghghghghghghgh",
    "ghghghghghghghghghghghghghghghghghghghghghghghghghghgpnolqnonolrghghghgon4ojsjsjskrj10",
    "mgkgjiiiigjkmghghghjijqhlg3tga7s2v3gghiighghghjhgigoihghghghghghghghghghghghghghghghgh",
    "ghghghghghghghghghghghghghghghghghghghghghghghghghghghghghghghghgoghgkg794tghghghghghg",
    "hghghghghghghghghghghghghghghghghg1jghghghghghghghghghghghghghg8nghghghghghghgjghghghg",
    "hghghghghghghghghghghghghghghghghghghghghghghghghghghgqghghhhghghghgkghgighgjghghghghg",
    "hghghghghghkhkhghghghghghghghjhgmglghg1sg572r1p4cl2n8o2j9sqhuhmhh6eq3ibet1v558g1v65ag1",
    "p1q1p1q1p1qghhigihijhn1q1p1qhhjinhm1rhhjhkhgjm1r1p1q1p1q1p1q1p1q1p1q1p1u1o2h1o2h1o2h1o",
    "2h1o2hg113l2h"]⟩,
  ⟨["m", "mark", "combiningmark"],
    ["30g6v11jm10n2shghhhhhg4oq3g1k1gg6lmilihhj2jg1u1q5rq3qopg1ojhohihk2ri3sn2q1nh2g3mih1hhm",
    "qh1ti3oghmihiipgqh1qgii3oghkkhiijg1uhjgri3oghnhihi1kh1mlhi3oghmihiiniqh1ug3rkjihjpg2ok",
    "3nghmhihjnhrh1ti3oghmhihjnhrhvgsj3nhhmhihjpgqh1ti4mgklhghn1ih3tgimsn6igiorm4ph1rghghgk",
    "h3h1jhhlqh2jpg6k1j1njkihiimjjtrhgqj2bvi3bij1si1th1uh4g1vpg2tihg7lh2ig7mrkrdrk3pph1sig3",
    "g1u3hk2v1g2mosi1us3ot3g1j9oih1kkgmgiicm3v2dg2gbfui8tg6g1v22ql6ph75dkjhp2gh5gh11ggjgkg1",
    "nkkg5jh3i1h1q1htg2mn1ps2sj2vt2kg4jtsgoh2ti3ighiihlhhg2pklhesnhh4f3gg2ehv1gv3ctgeig9lk6",
    "8mihhlj2oikgalh23tj18jh5gi4mq3hj7qi3lu2pgihqj2tqng3ti2kt1gh2sgsi3gtojhh5srmgig9tr1lj3n",
    "hhmihiipgqhimjkcg1h1ng5h1jermio1rh5i1g6qs6lu10gufllhhijhghh8tmimjg1sp2omhjogpq2uv19lnh",
    "n5i1lht7qljghhhmhg4ikhhhk15rjphhg3gmjk14ftgmu369qk3rm41ogh3mnj5hgrh4carh126h2ti1m21ukj",
    "lonim1uj9ki7br3mk3hogug1mkhu55gmh1gimhhhk6kgagm17ng3tj1fsj3egm6tmc17blev"]⟩,
  ⟨["mc", "spacingmark"],
    ["90jg3ngiiojhh3ih3qimhihqg2rg3qi4ig3qioghh3lh3qghgmhihqg6mhhhjihiqg2pi3tj3th3qghkihhhph",
    "1sguh3qilihiqg2qh4rimn1ih14qh3vgarhkgmgih1phqiim1lhiligqi67og1ug8hgnnhh15qjiikhhlegh3q",
    "ghgpghhol9hg3gglghkhh3tg1ugkhig3sgiihgjh3gnoharg1lg133mh77fjhig5oh3iv8uh2vg3ghkhii6uhi",
    "h1og2tghg6tgihlgethhhhhhg641jghg7vg2tikh7jg1oh3rg3giphtg5tijhhgaqi1vh3qhhjihiipgqhdhio",
    "hjg6qimghjigetimjig7hiohhg6tghhmg6phkg10lipgfnlhhkgighg8uiojkg5kg1th3ug19ngug6qgngigdl",
    "kkhhg15uhsg3ghohhg500v3m6oh617jhml"]⟩,
  ⟨["me", "enclosingmark"],
    ["48oh163kg61ujhi858ri"]⟩,
  ⟨["mn", "nonspacingmark"],
    ["30g6v11jk10p2shghhhhhg4oq3g1k1gg6lmilihhj2jg1u1q5rq3qopg1ojhohihk2ri3sn2q1nh1v3nghgknk",
    "gjmqh1tg3qgkjog1kh1qgih3pgkhkhiijg1uhjgrh3pgkkhhkg1kh1mlhg3qgighjognhrh1ug3tgsg3igjg3n",
    "ghilihjnhrh1tg3qgigmglh1kh1sh3phkjog1kh1tg4ognihg5qgimsn6igiorm4ph1rghghg3nthkhhlqh2jp",
    "g6mjhlhhih1phki1gjtgihmgvg2bvi3bii1th1uh1uh4ghhmogiqpg2tihg7lh2ig7mikhpgmidrhig3qghmhg",
    "hginmpig3gthv3hj3gghkhglg2oosh2gjihhi3oghhjghi3qnih9oihshmkgmgjhcm3v2dgskgjrbfui8tg6g1",
    "v22qj6rh75dkgkp2gh5gh11ggjgkg1phlg9nh1q1htg2mn1pq2ui3ggijih2ng4jlihihsgog2vg3jghiihlhh",
    "g2qhogeugigkg4f3gg2ehv1gv3ctgeig9lk68mihhlj2oikgalh23tj18jh5gi4mq3hj7rg3mu2pgihqi3hjih",
    "ng3ti2kkhn3ugsh3koqjig5viighhmgig9tgjn1lh3phjg2lmjkcjniihg1ng5klhgkhhheujmhhh1rh5lnigh",
    "h6qghgilhg6liijhk10johh10ghhgkg9gjihkg2gp2olijogplii2ushh19mmhlhg5i1limhhhh7qljghhhmhg",
    "4ohjghg15rhrh3kklghg14ftgmu369qk3rm41og3vj5hg4cboh126h2ti1m22gi1hnim1uj9ki7br3mk3hogug",
    "1mkhu55gmh1gimhhhk6kgagm17ng3tj1fsj3egm6tmc17blev"]⟩,
  ⟨["n", "number"],
    ["3gp7ohlgii5ahp8mpcmp19sp7mpkl6sp7mp7mpil6us7jpom6np6omn1i6tp6gp7mp4m1j10sp4mp2cv1j37hi",
    "evpmp1mp12sp8gqalpmpbmp5mp8mpmp41mgjlmpcm3iik2dm3r4u1l27m1t56pg30pg1poui15nj8qp1unhu2g",
    "p2nu736gpbsp14gl9qp2mpcmp1mp5mp19mp531mp1et2ss3o1hh15l1q2kj1tgog8mkcqp3aun1pm2no4rk1ml",
    "aghivi2t4go3kh1ui4rk6on1on2pm14ql3gp12m1u9up2qj7gm8m1t8gp3sp9gpn1jfrp15mp7mp17mp6mp6mr",
    "1ak1i5tp2fm1sejp4mp1amp6m1k42r6u45fhp5mp8mphm31u1m642p1js1j6s1o45l3h94gp1amp1fmp3cto8g",
    "p31n3qhihj4s2shu3cisaejp"]⟩,
  ⟨["nd", "decimalnumber", "digit"],
    ["3gp62mp8mpcmp19sp7mp7mp7mp7mp7mp7mp7mp7mp7mp6gp7mp4mp11mp4mp74mp2mp12sp8gpampmpbmp5mp8",
    "mpmp89cmp2amp2mpcmp1mp5mp19mp531mp58mp88mp32sp8gp3sp9gp11mp15mp7mp17mp6mp6mp1amp6mp2fm",
    "pfmp4mp1amp4b0mp5mp8mp6c7k3h94gp1amp1fmp45mp129mp"]⟩,
  ⟨["nl", "letternumber"],
    ["16euia6v2iije7ug1poui76arp5a5g3k1csgog8mk202q6u"]⟩,
  ⟨["no", "othernumber"],
    ["bihlgii93ll17ol7oi8lmdpm1ho1bhp43l1j47jp1egg69lgjlmpcmv2pg2dm3r4u1l27m1t56pg49kj8qp1un",
    "hu2gp2nu757gl58dh2s4hj1hh15l1q2kj53kn1pm2no4rk1mlaghivi2t4go3kh1ui4rk6on1on2pm14ql16g1",
    "u9up2qj7gm8m1j17r1j54lh1auo36n1i35j1k4b8mm31u1m642p1js1j6s1o154uo3ah3qhihj4s2shu3cis"]⟩,
  ⟨["p", "punctuation", "punct"],
    ["2hihlhjqhjh1qihg1rghg2jglgjgqhjgjg2bugog1dil2ph3jghgigig2sh1khhhtghi4qj6mg2rtepi3mu1vg",
    "10lhqg8sg7og7pg18mgsg16vg5qgqhaouhg2lj4ng4qkkh6vlarg26ko9ng26tg2sh4ui4nh9tihi2lq13phdo",
    "h8gmhlasm1sh7tj3rk3uh4gnrg33s1no1jhshr1uhuh27pj1th43tt4vh1vp19j1l3vj2gh2frjhh7gg8v2uh1",
    "vir1ajikpir1ggsg6ig5qg740ih10ti6jgqg7jl17sj5mh2oihg3hh2vg6hs1gh7sj7uh1ghfpg515ihdgp1m2",
    "ihthgkghh9lihlhjqhjh1qihg1rghghm19qi29sg3gg19ug2engcng1vg11go2mg7gm4im5pj31ggank2sjbtm",
    "6thhj7uj3gh4vjkgtghi5ol6rg1ahkqhhg6ogfq1m6pi1ss4sg8iifsg10oi9rg5sn5jihk5tp13nk2qh28lh4",
    "qsavg47gkb7sh3a7rh8lg4hkog35ij14ng4cbsg1denkedih"]⟩,
  ⟨["pc", "connectorpunctuation"],
    ["5vg1fdvh1jgddduh1oievg"]⟩,
  ⟨["pd", "dashpunctuation"],
    ["2tg55sg3jge4hg40lg80ple0hgig1vhkg1sg1bug1jg6vgcd9gh2lgqgapgf9vg"]⟩,
  ⟨["pe", "closepunctuation"],
    ["2pg3jg1vgebtghg75ug9apg3ngvg27qghg1ug43ughghghghghghg5gg2gghghghghg19kghghghghghghghgh",
    "ghghg4gghg2hg42lghghghg2sghghghg1asghghghghgjghghghgihcd1ugdpg1tghghghghghghghgjg1hghg",
    "hgaqg3jg1vgigig"]⟩,
  ⟨["pf", "finalpunctuation"],
    ["brg1f5tgjg1sgdcoghgkgigvgjg"]⟩,
  ⟨["pi", "initialpunctuation"],
    ["arg1f6sgihig1pgdcoghgkgigvgjg"]⟩,
  ⟨["po", "otherpunctuation"],
    ["2hihiighghhqhjh1rg4kglguhng2bugog1dil2pg3mgigig2sh1khhhtghi4qj6mg2rtepi3mu1vg10lhqg8sg",
    "7og7pg18mgsg16vg5qgqhaouhg7gg4qkkh6vlarg26ko30lg7si4nh9tihi2llhj13phdoh8gmhlasm1sh7tj3",
    "rk3uh4gnrg34ihonooijiijqhghpc9qjhh7gg8vhkiigiohhhgihqkhpijhghsii1asi3pgbtg740ih10ti6jg",
    "qg7jl17sj5mh2oihg3hh2vg6hs1gh7sj7uh1ghfpg522kmig1mg1khijjihjnimghh9lihiighghhqhjh1rg2k",
    "gih19qi29sg3gg19ug2engcng1vg11go2mg7gm4im5pj3bok2sjbtm6thhj7uj3gh4vjkgtghi5ol6rg1ahkqh",
    "hg6ogfq1m6pi1ss4sg8iifsg10oi9rg5sn5jihk5tp13nk2qh28lh4qsavg47gkb7sh3a7rh8lg4hkog35ij14",
    "ng4cbsg1denkedih"]⟩,
  ⟨["ps", "openpunctuation"],
    ["2og3ig1vgebughg75ug97ugjg2mg3ngvg27qghg1ug43ughghghghghghg5gg2gghghghghg19kghghghghghg",
    "hghghghghg4gghg2hg42lghghghg1pg1ighghghg1asghghghghgjghghghgigcd2hgdng1tghghghghghghgh",
    "gjg1hghghgaqg3ig1vgjgig"]⟩,
  ⟨["s", "symbol"],
    ["2kgmg1gi1vghg1rghg2jkhhighjigjg1ug1vg1cqjstlmhgh1g7lguh7gg8rg10qi7miigihcugqg1jhfngnh8",
    "og16phmhflg7ug8in8kgcvg2pgclgchivghiil1kghghg8lnhlhhljclh2fgp2djg16tg16kg9t2h16hppo44g",
    "ghirititith4lgtg2niti1j2g3vhhjhhqghillhghghgkgrhkkljhg3qhk17nk1sifr1pq5h4t1m26n2s3gi1u",
    "q19i1m3uk1vi17li1vh6oell16lh2u1ph5osdl1qrogthsg1lhmh5rhfjhkp2g2j1s1ur1togv1vq2mv13v19c",
    "g3v569g3m23p1mph6nh9tjqj23tiehguh4fbtg8o1g17tv7vg2sj6ighiig9qgmg1gi1vghg1rghg8hmhmth13",
    "po3p1giihsjg2v2s67qh24vgc7mg89l1s4b4qjlg515mg12bj7j3sflq2mi3rli1mhn1tk3s1l4hjgbq5m36qg",
    "1pg1vg1pg1vg1pg1vg1pg1vg1pg3s1fv3nj3inhthh6cog1avg9asgjg7tg1chh10u2rk6jsuiuhuh2k1nag3o",
    "1st2rkonhul9q3dnk1gjsj7mk5umrkgvrk3nopm2no1tih4u15jstisjon2thmotkonon9ih3m"]⟩,
  ⟨["sc", "currencysymbol"],
    ["2kg7tj4epg7rg1fih1fihngflg10ng24lg99rg8ck2g877ng55cjg6sg9qgdrhjh1ffmjc31ug9bgg"]⟩,
  ⟨["sk", "modifiersymbol"],
    ["5ughg4ngmgkgjg20pjstlmhgh1g7lguh50ig173kghirititith109sh766j1mph6nh3dgguh504m1g37rghga",
    "igf41nk"]⟩,
  ⟨["sm", "mathsymbol"],
    ["2rg1gi3tghg2tgkg2lg1vg2fug20vi1a3rgtg2niti8rg2nkmg4kklhkgigigng1vhighg1v10r2gh5qg1u1o2",
    "ol1dlgpg3mn6vg15gki1uqv10g8i1m3uk1vi10h3g1kilcfdsg33oghiakg1gi3tghg8jgmjd6dkg1pg1vg1pg",
    "1vg1pg1vg1pg1vg1pg172sh"]⟩,
  ⟨["so", "othersymbol"],
    ["amgigkghg3dhg10qh7vhcugqg1jhfng20jg17lg8ilhg8kgcvg2pg18nivghiil1kghghg8lnhlhhljclh2fgp",
    "2djg2dig9t2h16hppo58jhhjhhqghhmlhghghgkgrhughhhg3qhpkijhhhhhmh1uihhgh1u10snk1jimi5gh1t",
    "1p2nm4k1pq5h4t1mbmhoh3lo6uhfn2s2r4gfv20g2v1lhm2mi1vh6oell16lh2u1ph5osdl1qrogthsg1lhmh1",
    "5ghkp2g2j1s1ur1togv1vq2mv13v19cg3v569g3m36hjqhhg23ti52cmv7vg2ti1ekgjgkhth13po3p1giihsj",
    "g2v2s67qh24vgc7mg89lnk1g4b4qjlg515mg12bj7j3sflq2mi3rli1mhn1tk3s1l4hjgbq5m4ap1fv3nj3inh",
    "thh6cogb5sg8hg2dh2rk6jsuiuhuh2k1nag3o1st2rkonhul9qfql2dnk1gjsj7mk5umrkgvrk3nopm2no1tih",
    "4u15jstisjon2thmotkonon9ih3m"]⟩,
  ⟨["z", "separator"],
    ["2gg7vg15dvg97vq1thlg2vgfagg"]⟩,
  ⟨["zl", "lineseparator"],
    ["202og"]⟩,
  ⟨["zp", "paragraphseparator"],
    ["202pg"]⟩,
  ⟨["zs", "spaceseparator"],
    ["2gg7vg15dvg97vq2kg2vgfagg"]⟩]

end OperationCheck.Unicode
