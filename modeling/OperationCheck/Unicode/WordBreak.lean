import OperationCheck.Unicode.Property

/-!
The word break classes of Unicode.
-/

namespace OperationCheck.Unicode

/-- Each word break class has its names and its code ranges. -/
def wordBreaks : List Property := [
  ⟨["le", "aletter"],
    ["4h1pm1p2vgqgkgl1mh1uh1dvm2h7gkhhijhgmghihgh1jh5ih8qoalh2lijhgh2ohg6og2s2q2jhh6ihgvhnhq",
    "iig1ggh1t1t5org1o2gphkgl1lkgpgjg1n1onql1nhl1h2p3q3ljg1ignpvvknihi1lhmhgjjjg1ggthhiuhqg",
    "olkhi1lhmhhhhhh1vjhg1ji1gohih1lhmhhhkjg1igvh1ngrnihi1lhmhhhkjg1uhhivg1hghljihjjhhghhjh",
    "jijr1mg3knhih1mhvjg1qiigih1ugknhih1mhphkjg1vhhhvh1hohih2oig1gglioi1oll1hj1nhohgim13pg3",
    "vnh2j1rk11j2lhglgi2qh14shjimhghji2ohji2ghjimhghjiuh3ohji4i2lv1g5lilj26ri1gh1pl4qjqn1ht",
    "1iu1hushiav5onki2hhgl4lq1ueh1meu2u1hn3m1tthq2r1q2j2piq2jion2qii2pjhlhhjglbv4g11lili2li",
    "linhghghgh1ui3khmhgjihmjjilkslihm7kgtg1gs6lgkgiphgjkmghghghjhqijlkkg1h2o32t3j71mekmjjh",
    "s2lhglgi3nng1g1mpmhmhmhmhmhmhmhm5gg1dlg3lhco2qh5t1h1v6e4g48s4j2ti10sjvqh1k2u1g1ui4v1oc",
    "ilhhghk1ovhihjh1m1t3ju3h3uljghhr1rq1m1p1sn2u1sg3g2o1nihn9kqnislililpmhmh3pm7i1t2bajs1m",
    "k3g230kmsk3o6h2h16q1i3vi3l2or7kkh8m2k1pm1p4l1ujlililii2jrh1ph1ihhhuit2i7q4l3k10r1sj3g2",
    "v1vt1tl2lq1ti2jknhk2q9t1i2jk2jk2no3jsqhuhmhhhqhuhmhh4j13mp1lqn1olh2pho4lligh2rhhjgi1mq",
    "1mp1u4h1ihhq1lq1p4m3nmh4ggvjhih1s2q1sj1s2jnh1r1r3lq1lq1it1h6u4o3n3it3it2j15s2pmh4u1sqg",
    "o1l2q1h2u1k1r1ms3k3phigt2s2g1o1q2j1tgigo2ijgs2vuj1lghg2j1hh1o1jh3vmhghjhuhpn2u2mnihi1l",
    "hmhhhkjg1igsk9u3k1ij1ki1u2v1khhgbo2u2pj2k2v1kg3r2qtg14n2r7k3v1vniginhhh1nvghg5uni2m1gg",
    "hg1sgq2nng1lgr2t1jg1i4o10noh2k1hg3h1t7gmhhh2l1lg1plhhh1vug14n1ivghsh2h7sg4v39p6m6u1hcj",
    "a4s6gv42v1hlfbp24m21bp23on1u1h4u1h1t1i2v1gj1v1kl1i2bg3v8g4qlg4is4ghhg4c1s6qlsjonp176m5",
    "kh4mhhigihijhrhghmh4ghjinhmh1rhjhkhgjmh15ji1oh1oh1uh1oh1uh1oh1uh1oh1uh1ohn73k1uml10l3t",
    "9i2sqm1gg14h1t1i2r1ek1r2fkmhjhhhuhck3r4jng4bkjh1qhhhgighphjhghgmgkghghghihhhgighghghgh",
    "ghhhgijhmhjhjhghph1glihkh1g27k1pm1pm1p"]⟩,
  ⟨["cr"],
    ["tg"]⟩,
  ⟨["dq", "doublequote"],
    ["2ig"]⟩,
  ⟨["eb", "ebase"],
    [""]⟩,
  ⟨["ebg", "ebasegaz"],
    [""]⟩,
  ⟨["em", "emodifier"],
    [""]⟩,
  ⟨["extend"],
    ["30g6v11jm10n2shghhhhhg4oq3g1k1gg6lmilihhj2jg1u1q5rq3qopg1ojhohihk2ri3sn2q1nh2g3mih1hhm",
    "qh1ti3oghmihiipgqh1qgii3oghkkhiijg1uhjgri3oghnhihi1kh1mlhi3oghmihiiniqh1ug3rkjihjpg2ok",
    "3nghmhihjnhrh1ti3oghmhihjnhrhvgsj3nhhmhihjpgqh1ti4mgklhghn1ih3tgimsn6igiorm4ph1rghghgk",
    "h3h1jhhlqh2jpg6k1j1njkihiimjjtrhgqj2bvi3bij1si1th1uh4g1vpg2tihg7lh2ig7mrkrdrk3pph1sig3",
    "g1u3hk2v1g2mosi1us3ot3g1j9oih1kkgmgiicm3v20sgcj2gbfui8tg6g1v22ql6ph75dkjhp2gh5gh11ggjg",
    "kg1nkkg5jh3i1h1q1htg2mn1ps2sj2vt2kg4jtsgoh2ti3ighiihlhhg2pklhesnhh4f3gg2ehv1gv16uh25tg",
    "eig9lk68mihhlj2oikgalh23tj18jh5gi4mq3hj7qi3lu2pgihqj2tqng3ti2kt1gh2sgsi3gtojhh5srmgig9",
    "tr1lj3nhhmihiipgqhimjkcg1h1ng5h1jermio1rh5i1g6qs6lu10gufllhhijhghh8tmimjg1sp2omhjogpq2",
    "uv19lnhn5i1lht7qljghhhmhg4ikhhhk15rjphhg3gmjk14ftgmu369qk3rm41ogh3mnj5hgrh4carh126h2ti",
    "1m21ukjlonim1uj9ki7br3mk3hogug1mkhu55gmh1gimhhhk6kgagm17ng3tj1fsj3egm6tmabgkc0c2g5v8ge",
    "v"]⟩,
  ⟨["ex", "extendnumlet"],
    ["5vg1fcvgvh1jgddduh1oievg"]⟩,
  ⟨["fo", "format"],
    ["atg55il1mgcgg3hg18gh5ggf2rg7fvh1qk3hkhpde8vgfpi10chgvg236iv886gj14cvnc2e8mg"]⟩,
  ⟨["gaz", "glueafterzwj"],
    [""]⟩,
  ⟨["hl", "hebrewletter"],
    ["5dg1qkjf52qghphshkhghhhhhp"]⟩,
  ⟨["ka", "katakana"],
    ["303hk6lhj5qhjfgvdg2uh5ncc0u3nb05ijhmhhhg11vi3iguj"]⟩,
  ⟨["lf"],
    ["qg"]⟩,
  ⟨["ml", "midletter"],
    ["3qg7sg2cvg1dng9kg1a3igdderg4hgckg"]⟩,
  ⟨["mn", "midnum"],
    ["2sgug34ig20qg8ih5ug18rg184rgddcrgjg3rgjgbngug"]⟩,
  ⟨["mb", "midnumlet"],
    ["2ug1fephqgde2tgbkgmg"]⟩,
  ⟨["nl", "newline"],
    ["rh7og1faih"]⟩,
  ⟨["nu", "numeric"],
    ["3gp62mphg8kpcmp19sp7mp7mp7mp7mp7mp7mp7mp7mp7mp6gp7mp4mp11mp4mp74mp2mp12sp8gpampmpbmp5m",
    "p8mpmp89cmp2amp2mpcmp1mp5mp19mp531mp58mp88mp32sp8gp3sp9gp11mp15mp7mp17mp6mp6mp1amp6mp2",
    "fmpfmp4mp1amp4b0mp5mp8mp6c7k3h94gp1amp1fmp45mp129mp"]⟩,
  ⟨["ri", "regionalindicator"],
    ["1f1em1p"]⟩,
  ⟨["sq", "singlequote"],
    ["2ng"]⟩,
  ⟨["wsegspace"],
    ["2gg165vg97vmhi5kgfagg"]⟩,
  ⟨["zwj"],
    ["200tg"]⟩]

end OperationCheck.Unicode
