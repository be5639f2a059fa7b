import OperationCheck.Unicode.Property

/-!
Simple case folding. Characters that fold to the same character form a class, and a character
outside all classes is alone.
-/

namespace OperationCheck.Unicode

/-- The members of a class after its first one are given by their distances less one. -/
def takeMembers : Nat → Nat → List Nat → List Nat × List Nat
  | 0, _, rest => ([], rest)
  | _ + 1, _, [] => ([], [])
  | count + 1, last, distance :: rest =>
      let (members, remaining) := takeMembers count (last + distance + 1) rest
      ((last + distance + 1) :: members, remaining)

/-- A class is written as the distance of its first member from that of the class before, the
number of its members less two, and the distances between them. The first argument bounds the
number of classes. -/
def classesFrom : Nat → Nat → List Nat → List (List Nat)
  | count + 1, start, gap :: more :: rest =>
      let (members, remaining) := takeMembers (more + 1) (start + gap) rest
      ((start + gap) :: members) :: classesFrom count (start + gap) remaining
  | _, _, _ => []

/-- The classes hold all characters that have another spelling of their case. -/
def foldingClasses : List (List Nat) :=
  let code := numbers 0 (charactersOf
    ["4hg1vhg1vhg1vhg1vhg1vhg1vhg1vhg1vhg1vhg1vhh1v20buhg1vhg1vhg1vhg1vhg1vhg1vhg1vhh1v10rhg",
    "1vhg1vhg1vhg1vhg1vhg1vhg1v5rh2em1vrg1vhg1vhg1vhg1vhg1vhh1v204lhg1vhg1vhg1vhg1vhg1vhg1v",
    "hg1vhg1vhg1vhg1vhg1vhg1vhg1vhg1vhg1vhg1vhg1vig1vhg1vhg1vhg1vhg1vhg1vhg1vhg1dbu2gg7ohgg",
    "iggiggiggiggiggiggiggiggiggiggiggiggiggiggiggiggiggiggiggiggiggiggiggkggiggiggjggiggig",
    "giggiggiggiggiggjggiggiggiggiggiggiggiggiggiggiggiggiggiggiggiggiggiggiggiggiggiggiggj",
    "ggiggiggjgcihgdhhggiggigcthggigcshgcshggjg4uhgcphgcqhggigcshgcuhg6ghgdihgdghggigaiigdi",
    "hgdkhg8hhgdlhggiggiggigdphggigdpjggigdphggigdohgdohggiggigdqhggkggjg3nlhggjhggjhggjggi",
    "ggiggiggiggiggiggiggjggiggiggiggiggiggiggiggiggjhggjggkggiggiggiggiggiggiggiggiggiggig",
    "giggiggiggiggiggiggiggiggiggkggiggiggiggiggiggiggiggiggog2a2qhggjg2a2nhg2a3uhg2a3uhggj",
    "g4khg4mhggiggiggiggiggig2a1uhg2a1rhg2a1tqga54ulga54qkga52nhga54jkga54jhg29fmhga54glg29",
    "fssg29emlga54ilga52p1mga51khga51hani5j1v1c0k2rggiggkgglg8hhg8hhg8hig7jng2lig2khg2khg2k",
    "ig3vig3uhg3uig1vhh1v1thg1vhg1vhh1v3vhg1vhg1vhi1v1o2iih1v3lhg1vig1vhg1vhg1vhh1v1lhh1v2v",
    "ih1ughg1vhg1vhh1vuhg1vhg1vhh1v1d5shg1vhg1v2kgnpggiggiggiggiggiggiggiggiggiggiggiggkgml",
    "ggjggmg4vhg4vhg4vhg4vhg4vhg4vhg4vhg4vhg4vhg4vhg4vhg4vhg4vhg4vhg4vhg4vhg1vhg1vhh1v184th",
    "g1vhh1v184shg1vhg1vhg1vhg1vhg1vhg1vhg1vhg1vhg1vhh1v184jhg1vhg1vhh1v184hhi1v184hghg1vhg",
    "1vhg1vhg1vhg1vhg1vhg1vhh1v183rhg1vhg1vhg1vhg1vhg1v3hggihg182jiggiggiggiggiggiggiggiggi",
    "ggiggiggiggiggiggiggqggiggiggiggiggiggiggiggiggiggiggiggiggiggiggiggiggiggiggiggiggigg",
    "iggiggiggiggiggiguhggiggiggiggiggiggiggjggiggiggiggiggiggiggiggiggiggiggiggiggiggiggig",
    "giggiggiggiggiggiggiggiggiggiggiggiggiggiggiggiggiggiggiggiggiggiggiggiggiggiggiggiggi",
    "ggiggiggiggjg2vhg2vhg2vhg2vhg2vhg2vhg2vhg2vhg2vhg2vhg2vhg2vhg2vhg2vhg2vhg2vhg2vhg2vhg2",
    "vhg2vhg2vhg2vhg2vhg2vhg2vhg2vhg2vhg2vhg2vhg2vhg2vhg2vhg2vhg2vhg2vhg2vhg2vhg2vb4qg1c5vh",
    "g1c5vhg1c5vhg1c5vhg1c5vhg1c5vhg1c5vhg1c5vhg1c5vhg1c5vhg1c5vhg1c5vhg1c5vhg1c5vhg1c5vhg1",
    "c5vhg1c5vhg1c5vhg1c5vhg1c5vhg1c5vhg1c5vhg1c5vhg1c5vhg1c5vhg1c5vhg1c5vhg1c5vhg1c5vhg1c5",
    "vhg1c5vhg1c5vhg1c5vhg1c5vhg1c5vhg1c5vhg1c5vhg1c5vig1c5vmg1c5vjgbbvhgbbvhgbbvhgbbvhgbbv",
    "hgbbvhgbbvhgbbvhgbbvhgbbvhgbbvhgbbvhgbbvhgbbvhgbbvhgbbvhgbbvhgbbvhgbbvhgbbvhgbbvhgbbvh",
    "gbbvhgbbvhgbbvhgbbvhgbbvhgbbvhgbbvhgbbvhgbbvhgbbvhgbbvhgbbvhgbbvhgbbvhgbbvhgbbvhgbbvhg",
    "bbvhgbbvhgbbvhgbbvjgbbvhgbbvhgbbv2ahg97cvhg97cvhg97cvhg97cvhg97cvhg97cvhg97cvhg97cvhg9",
    "7cvhg97cvhg97cvhg97cvhg97cvhg97cvhg97cvhg97cvhg97cvhg97cvhg97cvhg97cvhg97cvhg97cvhg97c",
    "vhg97cvhg97cvhg97cvhg97cvhg97cvhg97cvhg97cvhg97cvhg97cvhg97cvhg97cvhg97cvhg97cvhg97cvh",
    "g97cvhg97cvhg97cvhg97cvhg97cvhg97cvhg97cvhg97cvhg97cvhg97cvhg97cvhg97cvhg97cvhg97cvhg9",
    "7cvhg97cvhg97cvhg97cvhg97cvhg97cvhg97cvhg97cvhg97cvhg97cvhg97cvhg97cvhg97cvhg97cvhg97c",
    "vhg97cvhg97cvhg97cvhg97cvhg97cvhg97cvhg97cvhg97cvhg97cvhg97cvhg97cvhg97cvhg97cvhg97cvh",
    "gnhgnhgnhgnhgnhgn89jh89chgfhg8a0jkgeel1hg8a3n7iggiggiggiggiggiggiggiggiggiggiggiggiggi",
    "ggiggiggiggiggiggiggiggiggiggiggiggiggiggiggiggiggiggiggiggiggiggiggiggiggiggiggiggigg",
    "iggiggiggiggiggiggihg3piggiggiggiggiggiggiggiggiggiggiggiggiggiggiggiggiggiggiggiggigg",
    "iggiggiggiggiggsggiggiggiggiggiggiggiggiggiggiggiggiggiggiggiggiggiggiggiggiggiggiggig",
    "giggiggiggiggiggiggiggiggiggiggiggiggiggiggiggiggiggiggiggiggiggiggiggiggignhgnhgnhgnh",
    "gnhgnhgnhgnpgnhgnhgnhgnhgnhgnrgnhgnhgnhgnhgnhgnhgnhgnpgnhgnhgnhgnhgnhgnhgnhgnpgnhgnhgn",
    "hgnhgnhgnsgnignignignpgnhgnhgnhgnhgnhgnhgnhgnpg4phg4phg5lhg5lhg5lhg5lhg6jhg6jhg7vhg7vh",
    "g6vhg6vhg7thg7tjgnhgnhgnhgnhgnhgnhgnhgnpgnhgnhgnhgnhgnhgnhgnhgnpgnhgnhgnhgnhgnhgnhgnhg",
    "npgnhgnigo1ggotgnhgnvgnhgnkgmugo13vg1r2ugvhgvhgvhgvhgvhgvhgvhgvhgvhgvhgvhgvhgvhgvhgvhg",
    "v1kgg33jg1phg1phg1phg1phg1phg1phg1phg1phg1phg1phg1phg1phg1phg1phg1phg1phg1phg1phg1phg1",
    "phg1phg1phg1phg1phg1phg1p73hg2vhg2vhg2vhg2vhg2vhg2vhg2vhg2vhg2vhg2vhg2vhg2vhg2vhg2vhg2",
    "vhg2vhg2vhg2vhg2vhg2vhg2vhg2vhg2vhg2vhg2vhg2vhg2vhg2vhg2vhg2vhg2vhg2vhg2vhg2vhg2vhg2vh",
    "g2vhg2vhg2vhg2vhg2vhg2vhg2vhg2vhg2vhg2vhg2vhg2v3hggnggiggiggnggjggrggiggiggiggiggiggig",
    "giggiggiggiggiggiggiggiggiggiggiggiggiggiggiggiggiggiggiggiggiggiggiggiggiggiggiggiggi",
    "ggiggiggiggiggiggiggiggiggiggiggiggiggiggiggpggigglgg794uggiggiggiggiggkggiggiggiggigg",
    "iggiggiggiggiggiggiggiggiggiggiggigg1kggiggiggiggiggiggiggiggiggiggiggiggiggigg8oggigg",
    "iggiggiggiggiggkggiggiggiggiggiggiggiggiggiggiggiggiggiggiggiggiggiggiggiggiggiggiggig",
    "giggiggiggiggiggiggiggrggiggjggiggiggiggigglgglggiggig2viggiggiggiggiggiggiggiggiggigg",
    "rg39vhggiggiggiggiggiggiggigglggiggnggmggigg1tgg572sg1vhg1vhg1vhg1vhg1vhg1vhg1vhg1vhg1",
    "vhg1vhg1vhg1vhg1vhg1vhg1vhg1vhg1vhg1vhg1vhg1vhg1vhg1vhg1vhg1vhg1vhg1v4cmg2nhg2nhg2nhg2",
    "nhg2nhg2nhg2nhg2nhg2nhg2nhg2nhg2nhg2nhg2nhg2nhg2nhg2nhg2nhg2nhg2nhg2nhg2nhg2nhg2nhg2nh",
    "g2nhg2nhg2nhg2nhg2nhg2nhg2nhg2nhg2nhg2nhg2nhg2nhg2nhg2nhg2n8pg2nhg2nhg2nhg2nhg2nhg2nhg",
    "2nhg2nhg2nhg2nhg2nhg2nhg2nhg2nhg2nhg2nhg2nhg2nhg2nhg2nhg2nhg2nhg2nhg2nhg2nhg2nhg2nhg2n",
    "hg2nhg2nhg2nhg2nhg2nhg2nhg2nhg2n9tg2mhg2mhg2mhg2mhg2mhg2mhg2mhg2mhg2mhg2mhg2mig2mhg2mh",
    "g2mhg2mhg2mhg2mhg2mhg2mhg2mhg2mhg2mhg2mhg2mhg2mhg2mig2mhg2mhg2mhg2mhg2mhg2mhg2mig2mhg2",
    "m6erg3vhg3vhg3vhg3vhg3vhg3vhg3vhg3vhg3vhg3vhg3vhg3vhg3vhg3vhg3vhg3vhg3vhg3vhg3vhg3vhg3",
    "vhg3vhg3vhg3vhg3vhg3vhg3vhg3vhg3vhg3vhg3vhg3vhg3vhg3vhg3vhg3vhg3vhg3vhg3vhg3vhg3vhg3vh",
    "g3vhg3vhg3vhg3vhg3vhg3vhg3vhg3vhg3vbeug1vhg1vhg1vhg1vhg1vhg1vhg1vhg1vhg1vhg1vhg1vhg1vh",
    "g1vhg1vhg1vhg1vhg1vhg1vhg1vhg1vhg1vhg1vhg1vhg1vhg1vhg1vhg1vhg1vhg1vhg1vhg1vhg1v558hg1v",
    "hg1vhg1vhg1vhg1vhg1vhg1vhg1vhg1vhg1vhg1vhg1vhg1vhg1vhg1vhg1vhg1vhg1vhg1vhg1vhg1vhg1vhg",
    "1vhg1vhg1vhg1vhg1vhg1vhg1vhg1vhg1vhg1v7aahg2hhg2hhg2hhg2hhg2hhg2hhg2hhg2hhg2hhg2hhg2hh",
    "g2hhg2hhg2hhg2hhg2hhg2hhg2hhg2hhg2hhg2hhg2hhg2hhg2hhg2hhg2hhg2hhg2hhg2hhg2hhg2hhg2hhg2",
    "hhg2h"])
  classesFrom code.length 0 code

/-- The case variants of a character are the members of its class. -/
def caseVariants (c : Char) : List Nat :=
  match foldingClasses.find? fun members => members.contains c.toNat with
  | some members => members
  | none => [c.toNat]

end OperationCheck.Unicode
