import OperationCheck.Unicode.Property

/-!
The grapheme cluster break classes of Unicode.
-/

namespace OperationCheck.Unicode

/-- Each grapheme cluster break class has its names and its code ranges. -/
def graphemeBreaks : List Property := [
  ⟨["cr"],
    ["tg"]⟩,
  ⟨["cn", "control"],
    ["gphhh1h5v2gtg56ug11fhg7fsgih1om3hvde8vgfgr343kv886gj14cvnc2e8l1v6g7vfge0v"]⟩,
  ⟨["eb", "ebase"],
    [""]⟩,
  ⟨["ebg", "ebasegaz"],
    [""]⟩,
  ⟨["em", "emodifier"],
    [""]⟩,
  ⟨["ex", "extend"],
    ["30g6v11jm10n2shghhhhhg4oq3g1k1gg6lmilihhj2jg1u1q5rq3qopg1ojhohihk2ri3sn2q1nh1v3nghgknk",
    "gjmqh1tg3qghgijogpgqh1qgih3pgkhkhiijg1uhjgrh3pgkkhhkg1kh1mlhg3qghhhjogniqh1ug3rghgsgpg",
    "2ogjg3nghilihjnhrh1tg3qgigigjglhnhrh1sh3phhgijogpgqh1tg4ogkgiihgog5hgimsn6igiorm4ph1rg",
    "hghg3nthkhhlqh2jpg6mjhlhhih1phki1gjtgihmgvg2bvi3bii1th1uh1uh4ghhmogiqpg2tihg7lh2ig7mik",
    "hpgmidrhig3qghmhghginmpig3g1u3hj3gmhglg2oosh2gjihhi3oghhjghi3qnih9oihshmkgmgjhcm3v20sg",
    "cj2gbfui8tg6g1v22ql6ph75dkjhp2gh5gh11ggjgkg1phlg9nh1q1htg2mn1pq2ui3ggijih2ng4jlihihsgo",
    "g2vg3jghiihlhhg2qhogeugigkg4f3gg2ehv1gv16uh25tgeig9lk68mihhlj2oikgalh23tj18jh5gi4mq3hj",
    "7rg3mu2pgihqi3hjihng3ti2kkhn3ugsh3koqjig5viighhmgig9tgjn1lh3phhghg1mgumjkcjniihg1ng5hg",
    "ilhgighhhhergijmhhh1rh5lnighh6qghgilhg6liijhk10johhflgqhhgkg9gjihkg2gp2olijogplii2ushh",
    "19mmhlhg5i1limhhhh7qljghhhmhg4ohjghg15rhrh3kklghg14ftgmu369qk3rm41og3vj5hg4cboh126h2ti",
    "1m21ughikkonim1uj9ki7br3mk3hogug1mkhu55gmh1gimhhhk6kgagm17ng3tj1fsj3egm6tmabgkc0c2g5v8",
    "gev"]⟩,
  ⟨["gaz", "glueafterzwj"],
    [""]⟩,
  ⟨["l"],
    ["110g5v980g1s"]⟩,
  ⟨["lf"],
    ["qg"]⟩,
  ⟨["lv"],
    ["ac0gg1rg1rg1rg1rg1rg1rg1rg1rg1rg1rg1rg1rg1rg1rg1rg1rg1rg1rg1rg1rg1rg1rg1rg1rg1rg1rg1rg",
    "1rg1rg1rg1rg1rg1rg1rg1rg1rg1rg1rg1rg1rg1rg1rg1rg1rg1rg1rg1rg1rg1rg1rg1rg1rg1rg1rg1rg1r",
    "g1rg1rg1rg1rg1rg1rg1rg1rg1rg1rg1rg1rg1rg1rg1rg1rg1rg1rg1rg1rg1rg1rg1rg1rg1rg1rg1rg1rg1",
    "rg1rg1rg1rg1rg1rg1rg1rg1rg1rg1rg1rg1rg1rg1rg1rg1rg1rg1rg1rg1rg1rg1rg1rg1rg1rg1rg1rg1rg",
    "1rg1rg1rg1rg1rg1rg1rg1rg1rg1rg1rg1rg1rg1rg1rg1rg1rg1rg1rg1rg1rg1rg1rg1rg1rg1rg1rg1rg1r",
    "g1rg1rg1rg1rg1rg1rg1rg1rg1rg1rg1rg1rg1rg1rg1rg1rg1rg1rg1rg1rg1rg1rg1rg1rg1rg1rg1rg1rg1",
    "rg1rg1rg1rg1rg1rg1rg1rg1rg1rg1rg1rg1rg1rg1rg1rg1rg1rg1rg1rg1rg1rg1rg1rg1rg1rg1rg1rg1rg",
    "1rg1rg1rg1rg1rg1rg1rg1rg1rg1rg1rg1rg1rg1rg1rg1rg1rg1rg1rg1rg1rg1rg1rg1rg1rg1rg1rg1rg1r",
    "g1rg1rg1rg1rg1rg1rg1rg1rg1rg1rg1rg1rg1rg1rg1rg1rg1rg1rg1rg1rg1rg1rg1rg1rg1rg1rg1rg1rg1",
    "rg1rg1rg1rg1rg1rg1rg1rg1rg1rg1rg1rg1rg1rg1rg1rg1rg1rg1rg1rg1rg1rg1rg1rg1rg1rg1rg1rg1rg",
    "1rg1rg1rg1rg1rg1rg1rg1rg1rg1rg1rg1rg1rg1rg1rg1rg1rg1rg1rg1rg1rg1rg1rg1rg1rg1rg1rg1rg1r",
    "g1rg1rg1rg1rg1rg1rg1rg1rg1rg1rg1rg1rg1rg1rg1rg1rg1rg1rg1rg1rg1rg1rg1rg1rg1rg1rg1rg1rg1",
    "rg1rg1rg1rg1rg1rg1rg1rg1rg1rg1rg1rg1rg1rg1rg1rg1rg1rg1rg1rg1rg1rg1rg1rg1rg1rg1rg1rg1rg",
    "1rg1rg1rg1rg1rg1rg1rg1rg1rg1rg1rg1rg1rg1rg1rg1rg1rg1rg1rg1rg1rg1rg1rg1rg1rg1rg1rg"]⟩,
  ⟨["lvt"],
    ["ac0h1qh1qh1qh1qh1qh1qh1qh1qh1qh1qh1qh1qh1qh1qh1qh1qh1qh1qh1qh1qh1qh1qh1qh1qh1qh1qh1qh1",
    "qh1qh1qh1qh1qh1qh1qh1qh1qh1qh1qh1qh1qh1qh1qh1qh1qh1qh1qh1qh1qh1qh1qh1qh1qh1qh1qh1qh1qh",
    "1qh1qh1qh1qh1qh1qh1qh1qh1qh1qh1qh1qh1qh1qh1qh1qh1qh1qh1qh1qh1qh1qh1qh1qh1qh1qh1qh1qh1q",
    "h1qh1qh1qh1qh1qh1qh1qh1qh1qh1qh1qh1qh1qh1qh1qh1qh1qh1qh1qh1qh1qh1qh1qh1qh1qh1qh1qh1qh1",
    "qh1qh1qh1qh1qh1qh1qh1qh1qh1qh1qh1qh1qh1qh1qh1qh1qh1qh1qh1qh1qh1qh1qh1qh1qh1qh1qh1qh1qh",
    "1qh1qh1qh1qh1qh1qh1qh1qh1qh1qh1qh1qh1qh1qh1qh1qh1qh1qh1qh1qh1qh1qh1qh1qh1qh1qh1qh1qh1q",
    "h1qh1qh1qh1qh1qh1qh1qh1qh1qh1qh1qh1qh1qh1qh1qh1qh1qh1qh1qh1qh1qh1qh1qh1qh1qh1qh1qh1qh1",
    "qh1qh1qh1qh1qh1qh1qh1qh1qh1qh1qh1qh1qh1qh1qh1qh1qh1qh1qh1qh1qh1qh1qh1qh1qh1qh1qh1qh1qh",
    "1qh1qh1qh1qh1qh1qh1qh1qh1qh1qh1qh1qh1qh1qh1qh1qh1qh1qh1qh1qh1qh1qh1qh1qh1qh1qh1qh1qh1q",
    "h1qh1qh1qh1qh1qh1qh1qh1qh1qh1qh1qh1qh1qh1qh1qh1qh1qh1qh1qh1qh1qh1qh1qh1qh1qh1qh1qh1qh1",
    "qh1qh1qh1qh1qh1qh1qh1qh1qh1qh1qh1qh1qh1qh1qh1qh1qh1qh1qh1qh1qh1qh1qh1qh1qh1qh1qh1qh1qh",
    "1qh1qh1qh1qh1qh1qh1qh1qh1qh1qh1qh1qh1qh1qh1qh1qh1qh1qh1qh1qh1qh1qh1qh1qh1qh1qh1qh1qh1q",
    "h1qh1qh1qh1qh1qh1qh1qh1qh1qh1qh1qh1qh1qh1qh1qh1qh1qh1qh1qh1qh1qh1qh1qh1qh1qh1qh1qh1qh1",
    "qh1qh1qh1qh1qh1qh1qh1qh1qh1qh1qh1qh1qh1qh1qh1qh1qh1qh1qh1qh1qh1qh1qh1qh1qh1qh1qh1q"]⟩,
  ⟨["pp", "prepend"],
    ["60gldng3hg18gh5gg46rg1036ugvgfkh77rghgfog4pl2bsg1brg"]⟩,
  ⟨["ri", "regionalindicator"],
    ["1f1em1p"]⟩,
  ⟨["sm", "spacingmark"],
    ["90jg3ngiiojhh3ih3rhmhih3mg3qi4ig3qioghh3lh3sgmhih7ighhjihi3ki3tj3th3qghhhhihhh2nguh3rh",
    "lihi3lh4shmm1jh3vg7vg8qh3vgbhgph1ph2sg69gg1ug8hgnnhh15qjiikhhlegh3qghg1ll9hg3mghkhh3tg",
    "1ugkhig3sgiihgjh3gnoharg1lg8b2rhig5oh3iv8uh2vg3ghkhii6uhih1og9tgihlgethhhhhhg641jghg7v",
    "g2tikh7jg1oh3rg3giphtg5tijhhgaqi1vh3rghjihii1khdhiohjg6rhmghhhgigeuhmjig7hiohhg6tghhmg",
    "6vg10lipgfokhhkgighg8uiojkg5kg1th3ug19ngug6qgngigdlkkhhg15uhsg3ghohhg500v3m6oh617kgmg"]⟩,
  ⟨["t"],
    ["11ao5nc5cr3g"]⟩,
  ⟨["v"],
    ["116g4nc60o1m"]⟩,
  ⟨["zwj"],
    ["200tg"]⟩]

end OperationCheck.Unicode
