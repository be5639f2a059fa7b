import OperationCheck.Unicode.Property

/-!
Word characters: letters, marks, decimal digits, connectors and joiners.
-/

namespace OperationCheck.Unicode

/-- The ranges of word characters beyond the first 128 code points are those of Unicode. -/
def wordRanges : List (Nat × Nat) := rangesOf
  ["3gpn1pkgh1p2vgqgkgl1mh1uh1cpkruknghg1h7khhijhgmghihgh1jh5ih8qhash2ligm2oo2shghhhhhgo1qkj",
  "1tql4pk6lhniph1iig1g3qi6ku3lkgigi2t1i1rkql1nhlp4ph8giph1ihnihi1lhmhgjjioihijogkhhkirqghg",
  "iihlkhi1lhmhhhhhhighkkhiijgnjhgnvrihohih1lhmhhhkiphihiigvjippmhihnihi1lhmhhhkioihiinikhh",
  "kiphg1ghhljihjjhhghhjhjijrkkjihjigmgup1gshih1mhviohihjnhhiigijip1gjhnhih1mhphkiohihjnhmh",
  "hjiphisshih3ihihkljnkipqlhih1hj1nhohgimjgklhghnmpiht3pluhp2nhhghkh1nhgh1mikhghmhpij2gg1n",
  "hmprghghgkph2jk1jh1hh2jpg3p4pm4ti2lhglgi2qh14shjimhghji2ohji2ghjimhghjiuh3ohji4iii2gv1g5",
  "lilj26ri1gh1pl4qjqn1lp1lr1jsshihhs5jjgkhip2hihqm5on2ql4lq1uhrkrq2nikr2rk1pmp2m1rk3uh1siq",
  "mptgo1u3h4sjp1hos7js3nopj3gion2qii1gih2ml21lili2lilinhghghgh1ui3khmhgjihmjjilkslihmvh3hh",
  "1jg1sgtg1gs3j2g1hgkgiphgjkmghghghjhqijlkkg1h2o32t3j71mekmos2lhglgi3nngv1npmhmhmhmhmhmhmh",
  "mh1v2vg1dli1puhkikk5lihiih5phjl2qh5t1h1v3gv20g19bv4g568s4j2ti10sj1r1k3ihph7i2loi6mi3vlhh",
  "ghk1o3lkg1j3js4lqpm1njgh3gi2js1sj4guqm1uh3mptipm1mj4o1oiivikqlililpmhmh2qhtm7qhhipm2bajs",
  "1mk3g210k16ti6p2mmsklrhshkhghhhhh6r2h16q1i3vi3l2orkv1gvjh1oi2gkh8m1jpn1pkgh1pr5ojlililii",
  "2jrh1ph1ihhhuit2i7q4l3k8og8i1sj3gvg1v1vt1tl2ql1ti2jknhk2q9tipm2jk2jk2no3jsqhuhmhhhqhuhmh",
  "h4j13mp1lqn1olh2pho4lligh2rhhjgi1mq1mp1u4h1ihhq1lq1p4m3nmh4gjhhlnhih1siikg2g1sj1s2jnh1t1",
  "p3lq1lq1it1h6u4o3n3it3it2nop14m2phhjh4r1vqgo2g1v1l2q1k1r1mp4m1vvp3rngt1onpm3khpkjo2jigp4",
  "kkjhshg2j1hh2kmj3umhghjhuhpn3qlpmjhnihi1lhmhhhkhpihiiigmglmimjk8r4qlpkj1u4lhgopam3lio1nl",
  "2i4gjgrp2m3onp3m1qiukpmmbp3q6l4p1lniginhhh1thhiosp4mni2tinhh1r3uogo4pjg1i4o10noh2shovp1o",
  "1ti1lht4pmhhh2rjghhhoopmlhhh2khhhlnp13m1mp1gh2ojktp5mg4v39p6m6u1hcja4s6gv42v1g1lfaq24m21",
  "bp23on1uhpm4uhpm1tikr3mpjspp1kl1i2bg3v8g4qk3on1g4ghhhrhu17fno4dl2qo22enjhmhhh12ivg1tiigu",
  "jo18r90k6qlsjonpjh126h2ti1m21ukjlonim1uj9ki1br5kh4mhhigihijhrhghmh4ghjinhmh1rhjhkhgjmh15",
  "ji1oh1oh1uh1oh1uh1oh1uh1oh1uh1ohni3h20g3mk3hogug1mkhu45g1umldlmh1gimhhhkl3t2hg7g2sjtipkg",
  "14h1u1h3p1dm2p2emmhjhhhuhckrm2p4rkp4amjh1qhhhgighphjhghgmgkghghghihhhgighghghghghhhgijhm",
  "hjhjhghph1glihkh1g27k1pm1pm1pa6mp40ma6dv2g103pmdti168hu1d3gc1v21t5ei134ql105vadd5gev"]

/-- A word character is a letter, a mark, a decimal digit, a connector or a joiner. -/
def isWord (c : Char) : Bool :=
  if c.toNat < 128 then c.isAlphanum || c == '_' else within wordRanges c.toNat

theorem isWord_grave : isWord '\x60' = false := rfl

end OperationCheck.Unicode
