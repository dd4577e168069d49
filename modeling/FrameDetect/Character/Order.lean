import FrameDetect.Character.Table

/-!
# The order of marks

Marks after a character stand in the order of their classes; marks of one class keep the order in which
they were written, since it can be seen.  Class zero is that of characters which are not moved.
-/

namespace FrameDetect.Character

/-- The first code, the number and the class of marks that may be moved. -/
def classTable : String := "
  300 15 E6, 315 1 E8, 316 4 DC, 31A 1 E8, 31B 1 D8, 31C 5 DC, 321 2 CA, 323 4 DC, 327 2 CA, 329 B
  DC, 334 5 1, 339 4 DC, 33D 6 E6, 345 1 F0, 346 1 E6, 347 3 DC, 34A 3 E6, 34D 2 DC, 350 3 E6, 353
  4 DC, 357 1 E6, 358 1 E8, 359 2 DC, 35B 1 E6, 35C 1 E9, 35D 2 EA, 35F 1 E9, 360 2 EA, 362 1 E9,
  363 D E6, 483 5 E6, 591 1 DC, 592 4 E6, 596 1 DC, 597 3 E6, 59A 1 DE, 59B 1 DC, 59C 6 E6, 5A2 6
  DC, 5A8 2 E6, 5AA 1 DC, 5AB 2 E6, 5AD 1 DE, 5AE 1 E4, 5AF 1 E6, 5B0 1 A, 5B1 1 B, 5B2 1 C, 5B3 1
  D, 5B4 1 E, 5B5 1 F, 5B6 1 10, 5B7 1 11, 5B8 1 12, 5B9 2 13, 5BB 1 14, 5BC 1 15, 5BD 1 16, 5BF 1
  17, 5C1 1 18, 5C2 1 19, 5C4 1 E6, 5C5 1 DC, 5C7 1 12, 610 8 E6, 618 1 1E, 619 1 1F, 61A 1 20,
  64B 1 1B, 64C 1 1C, 64D 1 1D, 64E 1 1E, 64F 1 1F, 650 1 20, 651 1 21, 652 1 22, 653 2 E6, 655 2
  DC, 657 5 E6, 65C 1 DC, 65D 2 E6, 65F 1 DC, 670 1 23, 6D6 7 E6, 6DF 4 E6, 6E3 1 DC, 6E4 1 E6,
  6E7 2 E6, 6EA 1 DC, 6EB 2 E6, 6ED 1 DC, 711 1 24, 730 1 E6, 731 1 DC, 732 2 E6, 734 1 DC, 735 2
  E6, 737 3 DC, 73A 1 E6, 73B 2 DC, 73D 1 E6, 73E 1 DC, 73F 3 E6, 742 1 DC, 743 1 E6, 744 1 DC,
  745 1 E6, 746 1 DC, 747 1 E6, 748 1 DC, 749 2 E6, 7EB 7 E6, 7F2 1 DC, 7F3 1 E6, 7FD 1 DC, 816 4
  E6, 81B 9 E6, 825 3 E6, 829 5 E6, 859 3 DC, 897 2 E6, 899 3 DC, 89C 4 E6, 8CA 5 E6, 8CF 5 DC,
  8D4 E E6, 8E3 1 DC, 8E4 2 E6, 8E6 1 DC, 8E7 2 E6, 8E9 1 DC, 8EA 3 E6, 8ED 3 DC, 8F0 1 1B, 8F1 1
  1C, 8F2 1 1D, 8F3 3 E6, 8F6 1 DC, 8F7 2 E6, 8F9 2 DC, 8FB 5 E6, 93C 1 7, 94D 1 9, 951 1 E6, 952
  1 DC, 953 2 E6, 9BC 1 7, 9CD 1 9, 9FE 1 E6, A3C 1 7, A4D 1 9, ABC 1 7, ACD 1 9, B3C 1 7, B4D 1
  9, BCD 1 9, C3C 1 7, C4D 1 9, C55 1 54, C56 1 5B, CBC 1 7, CCD 1 9, D3B 2 9, D4D 1 9, DCA 1 9,
  E38 2 67, E3A 1 9, E48 4 6B, EB8 2 76, EBA 1 9, EC8 4 7A, F18 2 DC, F35 1 DC, F37 1 DC, F39 1
  D8, F71 1 81, F72 1 82, F74 1 84, F7A 4 82, F80 1 82, F82 2 E6, F84 1 9, F86 2 E6, FC6 1 DC,
  1037 1 7, 1039 2 9, 108D 1 DC, 135D 3 E6, 1714 2 9, 1734 1 9, 17D2 1 9, 17DD 1 E6, 18A9 1 E4,
  1939 1 DE, 193A 1 E6, 193B 1 DC, 1A17 1 E6, 1A18 1 DC, 1A60 1 9, 1A75 8 E6, 1A7F 1 DC, 1AB0 5
  E6, 1AB5 6 DC, 1ABB 2 E6, 1ABD 1 DC, 1ABF 2 DC, 1AC1 2 E6, 1AC3 2 DC, 1AC5 5 E6, 1ACA 1 DC, 1ACB
  12 E6, 1ADD 1 DC, 1AE0 6 E6, 1AE6 1 DC, 1AE7 4 E6, 1AEB 1 EA, 1B34 1 7, 1B44 1 9, 1B6B 1 E6,
  1B6C 1 DC, 1B6D 7 E6, 1BAA 2 9, 1BE6 1 7, 1BF2 2 9, 1C37 1 7, 1CD0 3 E6, 1CD4 1 1, 1CD5 5 DC,
  1CDA 2 E6, 1CDC 4 DC, 1CE0 1 E6, 1CE2 7 1, 1CED 1 DC, 1CF4 1 E6, 1CF8 2 E6, 1DC0 2 E6, 1DC2 1
  DC, 1DC3 7 E6, 1DCA 1 DC, 1DCB 2 E6, 1DCD 1 EA, 1DCE 1 D6, 1DCF 1 DC, 1DD0 1 CA, 1DD1 25 E6,
  1DF6 1 E8, 1DF7 2 E4, 1DF9 1 DC, 1DFA 1 DA, 1DFB 1 E6, 1DFC 1 E9, 1DFD 1 DC, 1DFE 1 E6, 1DFF 1
  DC, 20D0 2 E6, 20D2 2 1, 20D4 4 E6, 20D8 3 1, 20DB 2 E6, 20E1 1 E6, 20E5 2 1, 20E7 1 E6, 20E8 1
  DC, 20E9 1 E6, 20EA 2 1, 20EC 4 DC, 20F0 1 E6, 2CEF 3 E6, 2D7F 1 9, 2DE0 20 E6, 302A 1 DA, 302B
  1 E4, 302C 1 E8, 302D 1 DE, 302E 2 E0, 3099 2 8, A66F 1 E6, A674 A E6, A69E 2 E6, A6F0 2 E6,
  A806 1 9, A82C 1 9, A8C4 1 9, A8E0 12 E6, A92B 3 DC, A953 1 9, A9B3 1 7, A9C0 1 9, AAB0 1 E6,
  AAB2 2 E6, AAB4 1 DC, AAB7 2 E6, AABE 2 E6, AAC1 1 E6, AAF6 1 9, ABED 1 9, FB1E 1 1A, FE20 7 E6,
  FE27 7 DC, FE2E 2 E6, 101FD 1 DC, 102E0 1 DC, 10376 5 E6, 10A0D 1 DC, 10A0F 1 E6, 10A38 1 E6,
  10A39 1 1, 10A3A 1 DC, 10A3F 1 9, 10AE5 1 E6, 10AE6 1 DC, 10D24 4 E6, 10D69 5 E6, 10EAB 2 E6,
  10EFA 2 DC, 10EFD 3 DC, 10F46 2 DC, 10F48 3 E6, 10F4B 1 DC, 10F4C 1 E6, 10F4D 4 DC, 10F82 1 E6,
  10F83 1 DC, 10F84 1 E6, 10F85 1 DC, 11046 1 9, 11070 1 9, 1107F 1 9, 110B9 1 9, 110BA 1 7, 11100
  3 E6, 11133 2 9, 11173 1 7, 111C0 1 9, 111CA 1 7, 11235 1 9, 11236 1 7, 112E9 1 7, 112EA 1 9,
  1133B 2 7, 1134D 1 9, 11366 F E6, 113CE 3 9, 11442 1 9, 11446 1 7, 1145E 1 E6, 114C2 1 9, 114C3
  1 7, 115BF 1 9, 115C0 1 7, 1163F 1 9, 116B6 1 9, 116B7 1 7, 1172B 1 9, 11839 1 9, 1183A 1 7,
  1193D 2 9, 11943 1 7, 119E0 1 9, 11A34 1 9, 11A47 1 9, 11A99 1 9, 11C3F 1 9, 11D42 1 7, 11D44 2
  9, 11D97 1 9, 11F41 2 9, 1612F 1 9, 16AF0 5 1, 16B30 7 E6, 16FF0 2 6, 1BC9E 1 1, 1D165 2 D8,
  1D167 3 1, 1D16D 1 E2, 1D16E 5 D8, 1D17B 8 DC, 1D185 5 E6, 1D18A 2 DC, 1D1AA 4 E6, 1D242 3 E6,
  1E000 90 E6, 1E130 7 E6, 1E2AE 1 E6, 1E2EC 4 E6, 1E4EC 2 E8, 1E4EE 1 DC, 1E4EF 1 E6, 1E5EE 1 E6,
  1E5EF 1 DC, 1E6E3 1 E6, 1E6E6 1 E6, 1E6EE 2 E6, 1E6F5 1 E6, 1E8D0 7 DC, 1E944 6 E6, 1E94A 1 7"

/-- The runs of marks and their classes. -/
def classRuns : List (Run × Nat) :=
  (entries classTable).filterMap fun
    | [first, count, cls] => some (⟨first, count⟩, cls)
    | _ => none

/-- The class of a character.  The first mark has the code `300` in base 16. -/
def combiningClass (c : Char) : Nat :=
  if c.toNat < 0x300 then 0
  else match classRuns.find? fun (run, _) => run.contains c.toNat with
    | some (_, cls) => cls
    | none => 0

/-- Moves a mark before those at the end that have a greater class, where the characters are given from
the last one on. -/
def insertMark (mark : Char) (cls : Nat) : List Char → List Char
  | [] => [mark]
  | c :: before =>
    if cls < combiningClass c then c :: insertMark mark cls before else mark :: c :: before

/-- Puts marks in order. -/
def ordered (cs : List Char) : List Char :=
  (cs.foldl
    (fun done c =>
      let cls := combiningClass c
      if cls = 0 then c :: done else insertMark c cls done)
    []).reverse

end FrameDetect.Character
