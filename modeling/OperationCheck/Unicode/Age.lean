import OperationCheck.Unicode.Property

/-!
The versions of Unicode, and what each of them added.
-/

namespace OperationCheck.Unicode

/-- Each version has its names and the code ranges that it added, oldest first. -/
def ages : List Property := [
  ⟨["1.1", "v11"],
    ["g1flk1t3o5on2uhp1m4l1qh1ihkgjglmhgh1jh2rhmjghghghgh1htrh4hhrh2op3kihihj1rinih3n2limh2m",
    "hg2mphos1qlk1ngugjgh1pl1itti4nikhuh1tip20nih3ki1hikj1o1gihnihi1lhmhgjjighmihiipgkhhki1",
    "kngilkhi1lhmhhhhhhighkkhiirjhgnusihmhghih1lhmhhhkiphihiigvglp1hihnihi1lhmhhijinjhiiohk",
    "hhikq1hhhljihjjhhghhjhjijnhikkjihjpgvruihnhih1mhphkkmhihjnhphkp1ihhnhih1mhphkkmhihjnhn",
    "ghhkp1ihhnhih1mhvkliihjpgohkp9h3pk1s2lhhgihhgigmjhmhihghgihhshiikhghlipih1ci2lq2mkgk5p",
    "l4jl5hc0m9ql5pm1lili2lilinhghghgh1ui3khuhtilh1iiihoh2uh1m2jmj1q1hq2l1h1u3o1q2vt5q1lfhu",
    "gh7o8l2k1rq1l8q1l9lq4v1g1jm5l9hjhji1rh2ihghjjghmimu1uj1nht84h3nngh5jkli5tm2nk5thv6g1sj",
    "2j1s1rj3hvrk2uh7mk6ii1u1a0h51al405q1a2tdimskm1ohkhghhhhh6r2h16s1g3vi3l2or2kjs1kkph1ihj",
    "kihgh8migh5ti5tjlililiijmhmui"]⟩,
  ⟨["2.0", "v20"],
    ["59h1ghs1kg93r4nh2gn1qklhgh1kjmhgeehg20vg8b5k2baj1285qhfffuhfffuhfffuhfffuhfffuhfffuhff",
    "fuhfffuhfffuhfffuhfffuhfffuhfffu2000h"]⟩,
  ⟨["2.1", "v21"],
    ["20asgdf4vg"]⟩,
  ⟨["3.0", "v30"],
    ["1fmj1uni1h7lk3hgqk5no1jg7kgjghghghg1ugsg4igsg2qhij5sh9sgcoi6ihlgvg2qkhth1tj1q3l3g5dhhh",
    "1hj1nhohgimjgklhghn1ii17lg2rg1ninghihuig3g2hhkhhhmjjm1p1ammh3uhghjimhghji2mhghji1uhghj",
    "imhghjimhmh1mh1uhghjimh2mh1im1r2j5ks27lp1sj5g8v5sjp1muhpm5no2p78lg1ol5vi3ih5lh4og6no10",
    "tg7pgh1t8qh1cpn2hg5mh18ufv58g1ph5osdl1qr3sijg16h1n24o19bl524q48sj1hivhrhihg565mg4dri"]⟩,
  ⟨["3.1", "v31"],
    ["3fkhf9dq1v51g1uhjs1qbl2li2lcbbiflq2mjbj22i5kh4mhhigihijhrhghjhhh4ghjinhmh1rhjhkhgjmh15",
    "hk12hk3h280ga6dm512p21tb05ejg1u5v"]⟩,
  ⟨["3.2", "v32"],
    ["22gg12ug1js6oh1sg9jh3phihih3hv15uh14hg94lh60nshmr1mp1jsshihh8djgmkkgnktg3uh3im5iuaorfi",
    "t7sg1u3j11s1j9np5on1mh5qripdut5q1rkv10g1fv53ri5nhoh5ugfgv5hu5hu71eih1ggsgjg556q3q39hgj",
    "v3lh2sgerh"]⟩,
  ⟨["4.0", "v40"],
    ["22hg1ii7nh3v1g5gnli9nk20kjpo4gi9lhvg2ti1ti1bkgbog4jghg8og5kitg4jg3rg8hnchhb1vg1ip10m1s",
    "jrkrkgj2pik6r1v30g6r2enhemg29jh12ug11kh7knuh45ut70vh3hg2rh4ujanj6jh1vg19cg3vafftg4ph1b",
    "nrh1ph1ihhhuit2i7qlik2sjo24g1thg8mh2m4vip35mligh2rhhjgigcacg5m16qgc2c3uev"]⟩,
  ⟨["4.1", "v41"],
    ["23nq11mk9vjfmhaqg2ii4jg1ig3qlfh1t20vg5gg1eng2vg3eph12nhhg10qg3vg3vg2ng1vg1vg1vgvg2ng1n",
    "h1v1p5em2pm1pmpkh2g1rih34s5n29hhhm3hk1tj3lg5ggvg28kq23sg6lh1iqlv10um34nles2uh2u2h6qu2s",
    "q3lpg1g1mpmhmhmhmhmhmhmhm2h1nkh3aivaug6d2n1l74k1mep2r524k6p33mp32m4q21l2jkt62qjhhlnhih",
    "1qkikoooc7an4l45uh"]⟩,
  ⟨["5.0", "v50"],
    ["24it12ri15hg2ql1gjamg20l3q18ghhh36ihthe0t4rk2s24nm3jh2esj5th3lg25nr2cqg11kj34pmlj13ssn",
    "j7a9vjlh11u3n608o1plg16eg36u9h6itjaees1h45oh"]⟩,
  ⟨["5.1", "v51"],
    ["37gjih5ngbng8sveikrk2gk12u1h1fhhdug2jgcug1th6sg6sg1qhoh1knbtgmg1thsljm1erh6hgji4tglgig",
    "nikl1q3vkh80qg2dl2qjr4m3njuj3i14r1rblj5ql16kg8rg5ug3lj51kg1lpjj10og1vj32rkk2ojk11oihik",
    "l16i1v1oji1i2fsgai1j6ddon53s12r1k1vi1ho1r8jki6q6uk8g4kpr2m5jrgag3mptipij53cki36pr3k2t8",
    "i1sj3g64v1plgc7epg1edm2rk6j"]⟩,
  ⟨["5.2", "v52"],
    ["52kh2dq2tiuchg4tgmg2jh8gg5dpjchjbsk4kk5il20gg27mo23g4lbkh2ug4l3uh1siqmpmt22i2i10qg2boi",
    "9ni3mg25ug2blh1tikph1ihgk1n5ng3ftk11mgth6rm13vg41ir6d7kn50k2v1ag5n13opam1r6k1sj4thqkh8",
    "g1rk4i1okeg2tip2bbm1mk3g226viddi1lhobqh14k1v8g3lj1si1qln8g4o21n1u20h4h1f3u42ubcdhql1ui",
    "grghgigjgjkogng1pghhigqjig6vgv2huob4bn103k"]⟩,
  ⟨["6.0", "v60"],
    ["52mhfog3ug1eg1rigdrh1jgmh1rk1fql1bhg1gg1jg23tj4ph38ih86h3joj1fsg29on1sg32vq2dqg1jghj1t",
    "gkh1sg2jghgkiph3ki1oguguh5aggug43oi74alh12rhhhup5gg30mlililpmhm508jv143u4tk1t579g23o45",
    "cnh409uuitiuhu5gghqhghhhihilnhmhpmohgihhpkhhp4r1phh2vo1lhau2gvlh4lj1js2khk1l1gv3uhghbl",
    "hjj3t1i1n9jkhvhihghghghihlijhgijhrkq3g4l3q7jbfcsdt"]⟩,
  ⟨["6.1", "v61"],
    ["58vg7kg29rghq3n1q1fhg3eth1englg2viaarisl10gn2rjadkghg52kh3jglg3ohcqp719gg6ann2jgfih1mg",
    "4th2em1m4f3nhf5g3nmh71g1onpm3kht3s4onp4am3nop583m4kr2u1g1g7e6gjh1qhhhgighphjhghgmgkghg",
    "hghihhhgighghghghghhhgijhmhjhjhghph1glihkh1g3kh27oh3dkjbsg1ggjghghghgjgmhkghhkg"]⟩,
  ⟨["6.2", "v62"],
    ["20bqg"]⟩,
  ⟨["6.3", "v63"],
    ["61sg1a4pj"]⟩,
  ⟨["7.0", "v70"],
    ["37vg1aon5th7mg29rgrl4sg7ogng27vg3jg4sg7vgekp90hn22kh19hu23phetu2cli33mm30lg44siq1pi1vi",
    "2hjrhn26qm785llfmrriih4lg1eo1u7tjbg2vkh52chm35th1jg13v1r2jg3g2q18l2no3jrg9g13mp1lqnfo3",
    "uoo1dg1v2g2mkr8p1hnjsm4cvgdg2m5mgsgm1jr1hh2q7i3qlpnihnihi1lhmhhhkioihiipglmimjk10r4nop",
    "am3li1h3m4krp24m5isg1cg3o87m2pcqrlg45cr1uhpkh6g1tilq4lqphmh1kl1i507g6qlsjonpin2b5sckiv",
    "7eog2g1l1lh21krpg4mg1mr2lgljlr1hm4nghgbmgkh3vhkm1t1hh2oh5l4mht2v4mp1gsjj8s5k2rrk3nopm2",
    "no1t"]⟩,
  ⟨["8.0", "v80"],
    ["8bjh2ug21lg16gg10kg69lgilccggcrha6gj73dto6cogfgg2il14kh26ijs4v526uhabg1ihhlkbshivi2t28",
    "g3it3inl4cpjukagmhghjhuhq5mg4vg27p1j12i1pjukvc5pgemcj1ebs24m8b9nq61n28rvkhu187ti4uh4vk",
    "2knfvg4rkfjh8rg23vo6nk3rgbe5v168h"]⟩,
  ⟨["9.0", "v90"],
    ["8bmn1mu39tgcugkihm1nif0no17ig5fvja4kh796pg11mg58cnh32h2jk2jd4ig1ch5phghg20is59joh2shtq",
    "1sj1vi1lht532pg1v17es1j2fi550tmh1gimhhhk8dl4qlpkh83r1h8ug33ug2pg12sh2hi22ilhnogirhrku2",
    "ms"]⟩,
  ⟨["10.0", "v100"],
    ["86gq19hhfsl20gg3qhfbqgfuj2clg33vg7dig27ik2ekg6ean1k634ii16dg4no3ji1mhk25tmhhh2rjghhhoo",
    "p528ng402g11s5h18r3f6kl46th2ih20nr1jgonhh1pg1is2ml3o1md4cp1d3g"]⟩,
  ⟨["11.0", "v110"],
    ["56gg2ng6mg20tidjg12qg7ng18tg7vgbfjg41n2qiiefqi1m1oku24rk2egg6ebrk7bvgoh14kh613kh1ig2bn",
    "2nop1cm2no2p17jg7mi1fkg12ig2brgel3r26hg2cilhhh2khhhlnp13m1o4f4n5q195ik4aeu1j7um18fo4j4",
    "7qg5cpgdrj17ki1skijjghj1oqtpnh2k1o6gt"]⟩,
  ⟨["12.0", "v120"],
    ["c7ng20ugigighlkgngnhigtge3vgecug3lg24vg796qlik39vh647o1m46og25og2enni2tiq9vh53q3htg143",
    "go3b0slkg2vo5qh180ul295oi1hj2f9o2sjtipkh17g3plg64rg3bl3s42ug56og2kgelr12hi2vg3hgpg2plj",
    "hqljnii3g5j1sjkilitl"]⟩,
  ⟨["12.1", "v121"],
    ["32fvg"]⟩,
  ⟨["13.0", "v130"],
    ["8bup28tg1aug7sgd3th10dmg2boi36ok1bfmp523gs7cqj2qh3lg33rj563ggcej2phiihfu1r17rg8mh28qgl",
    "h49umiginhhh1thhirpp65mg503jgrh1b0h1ei2qo640ki5ti3tg52oh2jh1bjh5qg6lgkh2qhmi1tgaogujv1",
    "inmpitm2p9ih3m2lpaadtm592i134q"]⟩,
  ⟨["14.0", "v140"],
    ["61tg25i1uhhmn1lg1iq36pg2gg7vga2vgngpgevg2bht7tg3gh27rg2clgb6ug2vg1fjq719vi7cghuhhghk1o",
    "i53ctg17tv7vg2uh77gqhuhmhhhqhuhmhh1cjlh2pho7bl1peml4sg5fmg8mm36pv14dg6i3a7t4uhp452mjhm",
    "hh12gj1ddt2ti1mp7j22lhd1l1u37h1u53hmhjhhhuedui11gg18og5igauh2sjqjoi1himnomabenh105lj"]⟩,
  ⟨["15.0", "v150"],
    ["cfjg1dqg1002ui33vi8bup3fm1gh2oj1r14dlgp1s7cdsg2ig216q1jc5hl10l3t2hg44g2p11eig9nikk5pg2",
    "9rivh2kirihguhqhsguhbc4gg5c1m105v"]⟩]

end OperationCheck.Unicode
