import OperationCheck.Unicode.Property

/-!
The sentence break classes of Unicode.
-/

namespace OperationCheck.Unicode

/-- Each sentence break class has its names and its code ranges. -/
def sentenceBreaks : List Property := [
  ⟨["at", "aterm"],
    ["2ug1fflgde2tgbrg"]⟩,
  ⟨["cr"],
    ["tg"]⟩,
  ⟨["cl", "close"],
    ["2igki3hghg1tghg2tgvge7uj75th97rn1phqh3mhuh27pj1th43glnt4vh1vp19j1l3vj2gh40ituhip1og1in",
    "1arpinhicd1uhdnh1svih1glaph3hghg1tghghhhhf71ii"]⟩,
  ⟨["ex", "extend"],
    ["30g6v11jm10n2shghhhhhg4oq3g1k1gg6lmilihhj2jg1u1q5rq3qopg1ojhohihk2ri3sn2q1nh2g3mih1hhm",
    "qh1ti3oghmihiipgqh1qgii3oghkkhiijg1uhjgri3oghnhihi1kh1mlhi3oghmihiiniqh1ug3rkjihjpg2ok",
    "3nghmhihjnhrh1ti3oghmhihjnhrhvgsj3nhhmhihjpgqh1ti4mgklhghn1ih3tgimsn6igiorm4ph1rghghgk",
    "h3h1jhhlqh2jpg6k1j1njkihiimjjtrhgqj2bvi3bij1si1th1uh4g1vpg2tihg7lh2ig7mrkrdrk3pph1sig3",
    "g1u3hk2v1g2mosi1us3ot3g1j9oih1kkgmgiicm3v20shci2gbfui8tg6g1v22ql6ph75dkjhp2gh5gh11ggjg",
    "kg1nkkg5jh3i1h1q1htg2mn1ps2sj2vt2kg4jtsgoh2ti3ighiihlhhg2pklhesnhh4f3gg2ehv1gv16uh25tg",
    "eig9lk68mihhlj2oikgalh23tj18jh5gi4mq3hj7qi3lu2pgihqj2tqng3ti2kt1gh2sgsi3gtojhh5srmgig9",
    "tr1lj3nhhmihiipgqhimjkcg1h1ng5h1jermio1rh5i1g6qs6lu10gufllhhijhghh8tmimjg1sp2omhjogpq2",
    "uv19lnhn5i1lht7qljghhhmhg4ikhhhk15rjphhg3gmjk14ftgmu369qk3rm41ogh3mnj5hgrh4carh126h2ti",
    "1m21ukjlonim1uj9ki7br3mk3hogug1mkhu55gmh1gimhhhk6kgagm17ng3tj1fsj3egm6tmc16dl5v8gev"]⟩,
  ⟨["fo", "format"],
    ["atg55il1mgcgg3hg18gh5ggf2rg7fsgih1qk3hkhpde8vgfpi10chgvg236iv886gj14cvnc2e8mg"]⟩,
  ⟨["lf"],
    ["qg"]⟩,
  ⟨["lo", "lower"],
    ["6h1p2vgqgkg2k1nhnhghghghghghghghghghghghghghghghghghghghghghghghghghghghhhghghghghghgh",
    "ghhhghghghghghghghghghghghghghghghghghghghghghghgighghiighgigjhkgigjiigighghgighhhgigj",
    "ghgihiimgigighghghghghghghghhhghghghghghghghghhighgjghghghghghghghghghghghghghghghghgh",
    "ghghghghghghghghghghghghmigihhgkghghghgh4kh2jnh1uk8sghgjgij1ig1r2ihhjihghghghghghghghg",
    "hghghghkhgigih3j2vhghghghghghghghghghghghghghghghghgpghghghghghghghghghghghghghghghghg",
    "hghghghghghghghghghgighghghghghghhhghghghghghghghghghghghghghghghghghghghghghghghghghg",
    "hghghghghghghghghghghghghghghghghghghghghghg3g2ob7jg2frl88io7nbv4hghghghghghghghghghgh",
    "ghghghghghghghghghghghghghghghghghghghghghghghghghghghghghghghghghghghghghghghghghghgh",
    "ghghghghghghghghghghghghghghghghghghghghghohghghghghghghghghghghghghghghghghghghghghgh",
    "ghghghghghghghghghghghghghghghghghghghghghghghghghghghoolqnonolqnonotinononokhhmgjihho",
    "jihonqihh7pgtg1gs6tgjhjg1rgkgkgihojkg2hvkg34r1p74m2vhgjhhghghgkghhhnjghghghghghghghghg",
    "hghghghghghghghghghghghghghghghghghghghghghghghghghghghghghghghghghghghghghghghghhnghg",
    "kgs2lhglg791jghghghghghghghghghghghghghghghghghghghghghghg1jghghghghghghghghghghghghgh",
    "i8lghghghghghghihghghghghghghghghghghghghghghghghghghghghghghghghghghghghghghphghgighg",
    "hghghgkghgighihghghghghghghghghghglglghghghghghghghgkghgmghghghghg1oihghi33l2qhtm4v4f4",
    "gmsk42p1p4ct2n8o2j9rqhuhmhh1cjgiih2pho50l3ibct1v558g1v659q1p1qmh1h1q1p1qjhghmhq1q1p1q1",
    "p1q1p1q1p1q1p1q1p1q1p1q1p1q1r1s1ohl1q1ohl1q1ohl1q1ohl1q1ohlhg73kph1jml10l3t8bk2h"]⟩,
  ⟨["nu", "numeric"],
    ["3gp62mphh8jpcmp19sp7mp7mp7mp7mp7mp7mp7mp7mp7mp6gp7mp4mp11mp4mp74mp2mp12sp8gpampmpbmp5m",
    "p8mpmp89cmp2amp2mpcmp1mp5mp19mp531mp58mp88mp32sp8gp3sp9gp11mp15mp7mp17mp6mp6mp1amp6mp2",
    "fmpfmp4mp1amp4b0mp5mp8mp6c7k3h94gp1amp1fmp45mp129mp"]⟩,
  ⟨["le", "oletter"],
    ["1brgkjdgg2kmmr1qghg8lg1ekg7m1qkk2s2q2jhh6ihgvhnhqiig1ggh1t1t5org1o2gphkgl1lkgpgjg1n1on",
    "ql1nhl1h2p3q3ljg1ignpvvknihi1lhmhgjjjg1ggthhiuhqgolkhi1lhmhhhhhh1vjhg1ji1gohih1lhmhhhk",
    "jg1igvh1ngrnihi1lhmhhhkjg1uhhivg1hghljihjjhhghhjhjijr1mg3knhih1mhvjg1qiigih1ugknhih1mh",
    "phkjg1vhhhvh1hohih2oig1gglioi1oll1hj1nhohgim3q2vhhsm3qhhghkh1nhghphhpgikhg1lj2gg3vnh2j",
    "1rk7j2q1kg1glkjjgjhnikssg4h2qi14rhjimhghji2ohji2ghjimhghjiuh3ohji4i2lv7h26ri1gh1pl4qjq",
    "n1ht1iu1hushiv3j2jgkg4j5onki2hhgl4lq1u3h1tikr2rk1p3m1mp3k5ig5t2u1hn3m1tthq2r1q2j2piq2j",
    "1i2qii2pjhlhhjg43qj4niijban3nng1g1mpmhmhmhmhmhmhmhm5gg1dli1ponkikk5lmih5phjl2qh5t1h1v3",
    "gv20g19bv4g568s4j2ti10sjvqh4ig1gg2g4v2no6ogmg6ngjmhihjh1m1t3ju3h3uljghhr1rq1m1p1sn2u1s",
    "g1gkhpqkh2o1nihn1k1mjgj3hhgjhikighg1oiiqnislililpmhm9h2i1t2bajs1mk3g210k16ti6p4jghphsh",
    "khghhhhh6r2h16q1i3vi3l2or7kkh8m6p3ni1ujlililii2jrh1ph1ihhhuit2i7q4l3k10r1sj3g2v1vt1tl2",
    "lq1ti2jknhk7q4t6i2no3j9s13mp1lqn1ph7tligh2rhhjgi1mq1mp1u4h1ihhq1lq1p4m3nmh4ggvjhih1s2q",
    "1sj1s2jnh1r1r3lq1lq1it1h6u4obn2j15s2pmh4u1sqgo1l2q1h2u1k1r1ms3k3phigt2s2g1o1q2j1tgigo2",
    "ijgs2vuj1lghg2j1hh1o1jh3vmhghjhuhpn2u2mnihi1lhmhhhkjg1igsk9u3k1ij1ki1u2v1khhgbo2u2pj2k",
    "2v1kg3r2qtg4n1q2lmbp2rdjniginhhh1nvghg5uni2m1gghg1sgq2nng1lgr2t1jg1i4o10noh2k1hg3h1t7g",
    "mhhh2l1lg1plhhh1vug14n1ivghsh2h7sg4v39p6m6u1hcja4s6gv42v1hlfbp24m21bp23on1u1h4u1h1t1i2",
    "v1gj1v1kl1i37g4qlg4is4ghhg1s17fno4dl2qo22enjhmhhh12ivg1tiigujo18r90k6qlsjonp227gg1fl2s",
    "qm1gg14h1t1i2r1ek1r2fkmhjhhhuhck8mg4bkjh1qhhhgighphjhghgmgkghghghihhhgighghghghghhhgij",
    "hmhjhjhghph1glihkh1g114ka6dv2g103pmdti168hu1d3gc1v21t5ei134ql105v"]⟩,
  ⟨["sc", "scontinue"],
    ["2shsg52igauh1eqg100pglg80qhfesgce0uhhg1th1thjgigqgaohsg4pg"]⟩,
  ⟨["st", "sterm"],
    ["2hg1tg54pg9jibkg2rifmg3tghgjh12lh6ekh31mgkh30lgcmhcsglg13qh16ijauhih1thbsh4hh3bshpidek",
    "gtg1mh1atg74fsg10uhejgjg17uh5mh5vg9oh9ji9ghfpg526qhapg1tg4hgafkh4ftk2sjbth7lj7vi8hhmg1",
    "gh5ohhh6sg1ahh17lhlu6phfpi20lghgfrh5nh1akh2bkh4qh4b2ph8lg4hhrg35jg4e0mg1deog"]⟩,
  ⟨["se", "sep"],
    ["8lg1faih"]⟩,
  ⟨["sp"],
    ["pghh1jg7vg15dvg97vq2kg2vgfagg"]⟩,
  ⟨["up", "upper"],
    ["4h1p6l1mhm2hghghghghghghghghghghghghghghghghghghghghghghghghghghghgighghghghghghghgigh",
    "ghghghghghghghghghghghghghghghghghghghghghghhhghgjhhghhhiijhhhijhhhhghghhhgighhhihghhj",
    "gnhhhhhhghghghghghghghgighghghghghghghghgihhghihghghghghghghghghghghghghghghghghghghgh",
    "ghghghghghghghghghgnhhhighjhghghghg12hghgjgogmghihghhh1gho2jgiijghghghghghghghghghghgh",
    "glgighhi3i3gghghghghghghghghghghghghghghghghgpghghghghghghghghghghghghghghghghghghghgh",
    "ghghghghghghghhhghghghghghgighghghghghghghghghghghghghghghghghghghghghghghghghghghghgh",
    "ghghghghghghghghghghghghghghghghghghgi2lb4p2lhglg2di5la0qghghghghghghghghghghghghghghg",
    "hghghghghghghghghghghghghghghghghghghghghghghghghghghghghghghghghghghghghghghghghghghg",
    "hghghghghghghghghghghghghghghghghgpghghghghghghghghghghghghghghghghghghghghghghghghghg",
    "hghghghghghghghghghghghghghghghghghghghghghghgpnolqnonolrghghghgon1onononokrkrjskrk10l",
    "gkgjiiiigjkmghghghjijqhlg1qv1jg33i1p73g2v3gghiighghghjhgigoihghghghghghghghghghghghghg",
    "hghghghghghghghghghghghghghghghghghghghghghghghghghghghghghghghghghghghgoghgkg794tghgh",
    "ghghghghghghghghghghghghghghghghghghghghg1jghghghghghghghghghghghghghg8nghghghghghghgj",
    "ghghghghghghghghghghghghghghghghghghghghghghghghghghghghghghgqghghhhghghghgkghgighgjgh",
    "ghghghghghghghghghkhkhghghghghghghghjhgmglghg1sg572r1p4cl2n8o2j9sqhuhmhh6eq3ibet1v558g",
    "1v65ag1p1q1p1q1p1qghhigihijhn1q1p1qhhjinhm1rhhjhkhgjm1r1p1q1p1q1p1q1p1q1p1q1p1u1o2h1o2",
    "h1o2h1o2h1o2hg113l2h80u1pm1pm1p"]⟩]

end OperationCheck.Unicode
