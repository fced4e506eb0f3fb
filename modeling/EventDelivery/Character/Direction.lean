import EventDelivery.Character.Category
/-!
# Directions and joining

In which direction characters are written, and which of them join the ones beside them.
-/

namespace EventDelivery

/-- How a character takes part in the direction of a text. -/
inductive Direction where
  | leftToRight
  | rightToLeft
  | arabicLetter
  | arabicNumber
  | europeanNumber
  | europeanSeparator
  | europeanTerminator
  | commonSeparator
  | otherNeutral
  | boundaryNeutral
  | mark
deriving DecidableEq

namespace Direction

def ofShort? (name : String) : Option Direction :=
  match name with
  | "L" => some .leftToRight
  | "R" => some .rightToLeft
  | "AL" => some .arabicLetter
  | "AN" => some .arabicNumber
  | "EN" => some .europeanNumber
  | "ES" => some .europeanSeparator
  | "ET" => some .europeanTerminator
  | "CS" => some .commonSeparator
  | "ON" => some .otherNeutral
  | "BN" => some .boundaryNeutral
  | _ => none

/-- The directions of the codes that names can hold, without those of marks. -/
def table : Runs Direction :=
  Runs.read (fun name => (ofShort? name).getD .leftToRight) [
    "BN33 ON2 ET3 ON5 ES CS ES CS2 EN10 CS ON38 L26 ON4 BN34 ON ET4 ON10 ET6 ON41 L24 ON",
    "L449 ON2 L7 ON14 L2 ON28 L ON130 L4 ON2 L127 ON2 L402 ON5 ET47 R72 ON2 AL ET2 AL CS AL",
    "ON13 AL69 AN10 ET AN2 AL113 ON7 AL4 ON5 AL2 EN10 AL198 R54 ON4 R102 AL163 L239 ET2 L7",
    "ET L245 ET8 L250 ON6 ET ON7 L119 ON7 L448 ET L250 ON4 L1106 ON16 L96 ON L666 ON5 L315",
    "ET L20 ON32 L304 ON6 L152 ON34 L1548 BN4 ON32 ET5 ON15 CS ON91 ET100 ON42 ET12 ON20",
    "L60 ON136 ES ET ON290 L69 ON26 L ON790 L ON339 L256 ON816 L181 ON7 L13 ON7 L256 ON517",
    "L3 ON25 L15 ON L6 ON4 L2 ON4 L95 ON L90 ON L196 ON48 L7120 ON64 L22160 ON64 L317 ON3",
    "L99 ON14 L127 ON35 L101 ON L159 ON8 L8 ET8 L52 ON12 L746 ON86 L20466 AL396 ON309 AL397",
    "L257 ON L62 ON77 L3 ON64 L273 EN31 L1280 R287 ON R537 ON7 R448 AL48 AN16 R46 ON R241",
    "AN32 R66 AL62 R48 AL64 R144 L82 ON20 L1530 ON32 L2389 ON8 ET4 ON30 L20451 ON L23581",
    "ON848 L665 ON215 L64 ON96 L3999 ET465 L816 R1137 AL639 ON608 L29 ON3 L61 ON57 L122",
    "ON3488 L983040"]

/-- The marks that have the direction of letters. -/
def letterMarks : Ranges := Ranges.read ["cbf cc6 11a07-11a08 11c3f"]

/-- The letters that have the direction of marks. -/
def markLetters : Ranges := Ranges.read ["1171e"]

/-- The direction of a character that a name can hold. -/
def of (c : Char) : Direction :=
  let category := Category.of c
  if markLetters.holds c.toNat ||
      ((category == .nonspacingMark || category == .enclosingMark) && !letterMarks.holds c.toNat)
  then .mark
  else (table.at? c.toNat).getD .leftToRight

end Direction

namespace Joining

/-- The codes that join the next one. -/
def forward : Ranges :=
  Ranges.read [
    "620 626 628 62a-62e 633-63f 641-647 649-64a 66e-66f 678-687 69a-6bf 6c1-6c2 6cc 6ce",
    "6d0-6d1 6fa-6fc 6ff 712-714 71a-71d 71f-727 729 72b 72d-72e 74e-758 75c-76a 76d-770",
    "772 775-777 77a-77f 7ca-7ea 841-845 848 84a-853 855 860 862-865 868 886 889-88d",
    "8a0-8a9 8af-8b0 8b3-8b8 8ba-8c8 1807 1820-1878 1887-18a8 18aa a840-a872 10ac0-10ac4",
    "10acd 10ad3-10adc 10ade-10ae0 10aeb-10aee 10b80 10b82 10b86-10b88 10b8a-10b8b 10b8d",
    "10b90 10bad-10bae 10d00-10d21 10d23 10ec3-10ec4 10f30-10f32 10f34-10f44 10f51-10f53",
    "10f70-10f73 10f76-10f81 10fb0 10fb2-10fb3 10fb8 10fbb-10fbc 10fbe-10fbf 10fc1 10fc4",
    "10fca-10fcb 1e900-1e943"]

/-- The codes that join the one before. -/
def backward : Ranges :=
  Ranges.read [
    "620 622-63f 641-64a 66e-66f 671-673 675-6d3 6d5 6ee-6ef 6fa-6fc 6ff 710 712-72f",
    "74d-77f 7ca-7ea 840-858 860 862-865 867-86a 870-882 886 889-88e 8a0-8ac 8ae-8c8 1807",
    "1820-1878 1887-18a8 18aa a840-a871 10ac0-10ac5 10ac7 10ac9-10aca 10ace-10ad6",
    "10ad8-10ae1 10ae4 10aeb-10aef 10b80-10b91 10ba9-10bae 10d01-10d23 10ec2-10ec4",
    "10f30-10f44 10f51-10f54 10f70-10f81 10fb0 10fb2-10fb6 10fb8-10fbf 10fc1-10fc4",
    "10fc9-10fca 1e900-1e943"]

/-- Whether joining passes through a character: marks and format characters, but not the two signs
for joining and for keeping apart. -/
def isTransparent (c : Char) : Bool :=
  c.toNat = 0x1e94b ||
    ([Category.nonspacingMark, .enclosingMark, .format].contains (Category.of c) &&
      c.toNat != 0x200c && c.toNat != 0x200d)

end Joining

end EventDelivery
