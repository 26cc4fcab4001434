import AccessControl.Text.Ranges

/-!
# Letter case

The lower and the upper case of a code point, the groups of lower-case characters that
differ only in an older or a contextual form, and the upper case of the letters
that matter to a word of plain capitals.
-/

namespace AccessControl

/-- Lower case beyond the first 128 characters: in `(first, last, step, delta)` every
`step`-th code point from `first` to `last` is moved by `delta`. -/
def lowerRuns : List (Nat × Nat × Nat × Int) :=
  [(0xC0, 0xD6, 1, 32), (0xD8, 0xDE, 1, 32), (0x100, 0x12E, 2, 1), (0x130, 0x130, 1, -199),
   (0x132, 0x136, 2, 1), (0x139, 0x147, 2, 1), (0x14A, 0x176, 2, 1), (0x178, 0x178, 1, -121),
   (0x179, 0x17D, 2, 1), (0x181, 0x181, 1, 210), (0x182, 0x184, 2, 1), (0x186, 0x186, 1, 206),
   (0x187, 0x187, 1, 1), (0x189, 0x18A, 1, 205), (0x18B, 0x18B, 1, 1), (0x18E, 0x18E, 1, 79),
   (0x18F, 0x18F, 1, 202), (0x190, 0x190, 1, 203), (0x191, 0x191, 1, 1), (0x193, 0x193, 1, 205),
   (0x194, 0x194, 1, 207), (0x196, 0x196, 1, 211), (0x197, 0x197, 1, 209), (0x198, 0x198, 1, 1),
   (0x19C, 0x19C, 1, 211), (0x19D, 0x19D, 1, 213), (0x19F, 0x19F, 1, 214), (0x1A0, 0x1A4, 2, 1),
   (0x1A6, 0x1A6, 1, 218), (0x1A7, 0x1A7, 1, 1), (0x1A9, 0x1A9, 1, 218), (0x1AC, 0x1AC, 1, 1),
   (0x1AE, 0x1AE, 1, 218), (0x1AF, 0x1AF, 1, 1), (0x1B1, 0x1B2, 1, 217), (0x1B3, 0x1B5, 2, 1),
   (0x1B7, 0x1B7, 1, 219), (0x1B8, 0x1B8, 1, 1), (0x1BC, 0x1BC, 1, 1), (0x1C4, 0x1C4, 1, 2),
   (0x1C5, 0x1C5, 1, 1), (0x1C7, 0x1C7, 1, 2), (0x1C8, 0x1C8, 1, 1), (0x1CA, 0x1CA, 1, 2),
   (0x1CB, 0x1DB, 2, 1), (0x1DE, 0x1EE, 2, 1), (0x1F1, 0x1F1, 1, 2), (0x1F2, 0x1F4, 2, 1),
   (0x1F6, 0x1F6, 1, -97), (0x1F7, 0x1F7, 1, -56), (0x1F8, 0x21E, 2, 1), (0x220, 0x220, 1, -130),
   (0x222, 0x232, 2, 1), (0x23A, 0x23A, 1, 10795), (0x23B, 0x23B, 1, 1), (0x23D, 0x23D, 1, -163),
   (0x23E, 0x23E, 1, 10792), (0x241, 0x241, 1, 1), (0x243, 0x243, 1, -195),
   (0x244, 0x244, 1, 69), (0x245, 0x245, 1, 71), (0x246, 0x24E, 2, 1), (0x370, 0x372, 2, 1),
   (0x376, 0x376, 1, 1), (0x37F, 0x37F, 1, 116), (0x386, 0x386, 1, 38), (0x388, 0x38A, 1, 37),
   (0x38C, 0x38C, 1, 64), (0x38E, 0x38F, 1, 63), (0x391, 0x3A1, 1, 32), (0x3A3, 0x3AB, 1, 32),
   (0x3CF, 0x3CF, 1, 8), (0x3D8, 0x3EE, 2, 1), (0x3F4, 0x3F4, 1, -60), (0x3F7, 0x3F7, 1, 1),
   (0x3F9, 0x3F9, 1, -7), (0x3FA, 0x3FA, 1, 1), (0x3FD, 0x3FF, 1, -130), (0x400, 0x40F, 1, 80),
   (0x410, 0x42F, 1, 32), (0x460, 0x480, 2, 1), (0x48A, 0x4BE, 2, 1), (0x4C0, 0x4C0, 1, 15),
   (0x4C1, 0x4CD, 2, 1), (0x4D0, 0x52E, 2, 1), (0x531, 0x556, 1, 48), (0x10A0, 0x10C5, 1, 7264),
   (0x10C7, 0x10C7, 1, 7264), (0x10CD, 0x10CD, 1, 7264), (0x13A0, 0x13EF, 1, 38864),
   (0x13F0, 0x13F5, 1, 8), (0x1C90, 0x1CBA, 1, -3008), (0x1CBD, 0x1CBF, 1, -3008),
   (0x1E00, 0x1E94, 2, 1), (0x1E9E, 0x1E9E, 1, -7615), (0x1EA0, 0x1EFE, 2, 1),
   (0x1F08, 0x1F0F, 1, -8), (0x1F18, 0x1F1D, 1, -8), (0x1F28, 0x1F2F, 1, -8),
   (0x1F38, 0x1F3F, 1, -8), (0x1F48, 0x1F4D, 1, -8), (0x1F59, 0x1F5F, 2, -8),
   (0x1F68, 0x1F6F, 1, -8), (0x1F88, 0x1F8F, 1, -8), (0x1F98, 0x1F9F, 1, -8),
   (0x1FA8, 0x1FAF, 1, -8), (0x1FB8, 0x1FB9, 1, -8), (0x1FBA, 0x1FBB, 1, -74),
   (0x1FBC, 0x1FBC, 1, -9), (0x1FC8, 0x1FCB, 1, -86), (0x1FCC, 0x1FCC, 1, -9),
   (0x1FD8, 0x1FD9, 1, -8), (0x1FDA, 0x1FDB, 1, -100), (0x1FE8, 0x1FE9, 1, -8),
   (0x1FEA, 0x1FEB, 1, -112), (0x1FEC, 0x1FEC, 1, -7), (0x1FF8, 0x1FF9, 1, -128),
   (0x1FFA, 0x1FFB, 1, -126), (0x1FFC, 0x1FFC, 1, -9), (0x2126, 0x2126, 1, -7517),
   (0x212A, 0x212A, 1, -8383), (0x212B, 0x212B, 1, -8262), (0x2132, 0x2132, 1, 28),
   (0x2160, 0x216F, 1, 16), (0x2183, 0x2183, 1, 1), (0x24B6, 0x24CF, 1, 26),
   (0x2C00, 0x2C2F, 1, 48), (0x2C60, 0x2C60, 1, 1), (0x2C62, 0x2C62, 1, -10743),
   (0x2C63, 0x2C63, 1, -3814), (0x2C64, 0x2C64, 1, -10727), (0x2C67, 0x2C6B, 2, 1),
   (0x2C6D, 0x2C6D, 1, -10780), (0x2C6E, 0x2C6E, 1, -10749), (0x2C6F, 0x2C6F, 1, -10783),
   (0x2C70, 0x2C70, 1, -10782), (0x2C72, 0x2C72, 1, 1), (0x2C75, 0x2C75, 1, 1),
   (0x2C7E, 0x2C7F, 1, -10815), (0x2C80, 0x2CE2, 2, 1), (0x2CEB, 0x2CED, 2, 1),
   (0x2CF2, 0x2CF2, 1, 1), (0xA640, 0xA66C, 2, 1), (0xA680, 0xA69A, 2, 1),
   (0xA722, 0xA72E, 2, 1), (0xA732, 0xA76E, 2, 1), (0xA779, 0xA77B, 2, 1),
   (0xA77D, 0xA77D, 1, -35332), (0xA77E, 0xA786, 2, 1), (0xA78B, 0xA78B, 1, 1),
   (0xA78D, 0xA78D, 1, -42280), (0xA790, 0xA792, 2, 1), (0xA796, 0xA7A8, 2, 1),
   (0xA7AA, 0xA7AA, 1, -42308), (0xA7AB, 0xA7AB, 1, -42319), (0xA7AC, 0xA7AC, 1, -42315),
   (0xA7AD, 0xA7AD, 1, -42305), (0xA7AE, 0xA7AE, 1, -42308), (0xA7B0, 0xA7B0, 1, -42258),
   (0xA7B1, 0xA7B1, 1, -42282), (0xA7B2, 0xA7B2, 1, -42261), (0xA7B3, 0xA7B3, 1, 928),
   (0xA7B4, 0xA7C2, 2, 1), (0xA7C4, 0xA7C4, 1, -48), (0xA7C5, 0xA7C5, 1, -42307),
   (0xA7C6, 0xA7C6, 1, -35384), (0xA7C7, 0xA7C9, 2, 1), (0xA7D0, 0xA7D0, 1, 1),
   (0xA7D6, 0xA7D8, 2, 1), (0xA7F5, 0xA7F5, 1, 1), (0xFF21, 0xFF3A, 1, 32),
   (0x10400, 0x10427, 1, 40), (0x104B0, 0x104D3, 1, 40), (0x10570, 0x1057A, 1, 39),
   (0x1057C, 0x1058A, 1, 39), (0x1058C, 0x10592, 1, 39), (0x10594, 0x10595, 1, 39),
   (0x10C80, 0x10CB2, 1, 64), (0x118A0, 0x118BF, 1, 32), (0x16E40, 0x16E5F, 1, 32),
   (0x1E900, 0x1E921, 1, 34)]

/-- The code point that some runs move a code point to. -/
def movedBy? (runs : List (Nat × Nat × Nat × Int)) (n : Nat) : Option Nat :=
  (runs.find? fun (a, b, step, _) => a ≤ n && n ≤ b && (n - a) % step == 0).map
    fun (_, _, _, delta) => ((n : Int) + delta).toNat

/-- The lower case of one of the first 128 code points; any other is kept. -/
def lowerAscii (n : Nat) : Nat := if 65 ≤ n ∧ n ≤ 90 then n + 32 else n

/-- The lower case of a code point, cut to its first character. -/
def lowerCode (n : Nat) : Nat :=
  if n < 128 then lowerAscii n else (movedBy? lowerRuns n).getD n

/-- The other code points whose lower case is the given one. -/
def capitalsOf (lower : Nat) : List Nat :=
  (if 97 ≤ lower ∧ lower ≤ 122 then [lower - 32] else [])
    ++ lowerRuns.filterMap fun (a, b, step, delta) =>
      let n := ((lower : Int) - delta).toNat
      if a ≤ n ∧ n ≤ b ∧ (n - a) % step = 0 then some n else none

/-- Upper case that is not the first of the capitals of a code point, in runs as those
of lower case. -/
def upperRuns : List (Nat × Nat × Nat × Int) :=
  [(0xB5, 0xB5, 1, 743), (0xDF, 0xDF, 1, -140), (0x131, 0x131, 1, -232), (0x149, 0x149, 1, 371),
   (0x17F, 0x17F, 1, -300), (0x1C5, 0x1C5, 1, -1), (0x1C8, 0x1C8, 1, -1), (0x1CB, 0x1CB, 1, -1),
   (0x1F0, 0x1F0, 1, -422), (0x1F2, 0x1F2, 1, -1), (0x345, 0x345, 1, 84), (0x390, 0x390, 1, 9),
   (0x3B0, 0x3B0, 1, -11), (0x3C2, 0x3C2, 1, -31), (0x3D0, 0x3D0, 1, -62), (0x3D1, 0x3D1, 1, -57),
   (0x3D5, 0x3D5, 1, -47), (0x3D6, 0x3D6, 1, -54), (0x3F0, 0x3F0, 1, -86), (0x3F1, 0x3F1, 1, -80),
   (0x3F5, 0x3F5, 1, -96), (0x587, 0x587, 1, -82), (0x1C80, 0x1C80, 1, -6254),
   (0x1C81, 0x1C81, 1, -6253), (0x1C82, 0x1C82, 1, -6244), (0x1C83, 0x1C84, 1, -6242),
   (0x1C85, 0x1C85, 1, -6243), (0x1C86, 0x1C86, 1, -6236), (0x1C87, 0x1C87, 1, -6181),
   (0x1C88, 0x1C88, 1, 35266), (0x1E96, 0x1E96, 1, -7758), (0x1E97, 0x1E97, 1, -7747),
   (0x1E98, 0x1E98, 1, -7745), (0x1E99, 0x1E99, 1, -7744), (0x1E9A, 0x1E9A, 1, -7769),
   (0x1E9B, 0x1E9B, 1, -59), (0x1F50, 0x1F50, 1, -7083), (0x1F52, 0x1F52, 1, -7085),
   (0x1F54, 0x1F54, 1, -7087), (0x1F56, 0x1F56, 1, -7089), (0x1F80, 0x1F87, 1, -120),
   (0x1F88, 0x1F8F, 1, -128), (0x1F90, 0x1F97, 1, -104), (0x1F98, 0x1F9F, 1, -112),
   (0x1FA0, 0x1FA7, 1, -56), (0x1FA8, 0x1FAF, 1, -64), (0x1FB2, 0x1FB2, 1, 8),
   (0x1FB3, 0x1FB3, 1, -7202), (0x1FB4, 0x1FB4, 1, -7214), (0x1FB6, 0x1FB6, 1, -7205),
   (0x1FB7, 0x1FB7, 1, -7206), (0x1FBC, 0x1FBC, 1, -7211), (0x1FBE, 0x1FBE, 1, -7205),
   (0x1FC2, 0x1FC2, 1, 8), (0x1FC3, 0x1FC3, 1, -7212), (0x1FC4, 0x1FC4, 1, -7227),
   (0x1FC6, 0x1FC6, 1, -7215), (0x1FC7, 0x1FC7, 1, -7216), (0x1FCC, 0x1FCC, 1, -7221),
   (0x1FD2, 0x1FD2, 1, -7225), (0x1FD3, 0x1FD3, 1, -7226), (0x1FD6, 0x1FD6, 1, -7229),
   (0x1FD7, 0x1FD7, 1, -7230), (0x1FE2, 0x1FE2, 1, -7229), (0x1FE3, 0x1FE3, 1, -7230),
   (0x1FE4, 0x1FE4, 1, -7235), (0x1FE6, 0x1FE6, 1, -7233), (0x1FE7, 0x1FE7, 1, -7234),
   (0x1FF2, 0x1FF2, 1, 8), (0x1FF3, 0x1FF3, 1, -7242), (0x1FF4, 0x1FF4, 1, -7269),
   (0x1FF6, 0x1FF6, 1, -7245), (0x1FF7, 0x1FF7, 1, -7246), (0x1FFC, 0x1FFC, 1, -7251),
   (0xFB00, 0xFB00, 1, -64186), (0xFB01, 0xFB01, 1, -64187), (0xFB02, 0xFB02, 1, -64188),
   (0xFB03, 0xFB03, 1, -64189), (0xFB04, 0xFB04, 1, -64190), (0xFB05, 0xFB05, 1, -64178),
   (0xFB06, 0xFB06, 1, -64179), (0xFB13, 0xFB13, 1, -62927), (0xFB14, 0xFB14, 1, -62928),
   (0xFB15, 0xFB15, 1, -62929), (0xFB16, 0xFB16, 1, -62920), (0xFB17, 0xFB17, 1, -62931)]

/-- The upper case of a code point, cut to its first character. -/
def upperCode (n : Nat) : Nat := (movedBy? upperRuns n).getD ((capitalsOf n).headD n)

/-- Groups of lower-case characters that are equal when case is ignored. -/
def caseGroups : List (List Nat) :=
  [
   [0x69, 0x131], [0x73, 0x17F], [0xB5, 0x3BC], [0x345, 0x3B9, 0x1FBE],
   [0x390, 0x1FD3], [0x3B0, 0x1FE3], [0x3B2, 0x3D0], [0x3B5, 0x3F5],
   [0x3B8, 0x3D1], [0x3BA, 0x3F0], [0x3C0, 0x3D6], [0x3C1, 0x3F1],
   [0x3C2, 0x3C3], [0x3C6, 0x3D5], [0x432, 0x1C80], [0x434, 0x1C81],
   [0x43E, 0x1C82], [0x441, 0x1C83], [0x442, 0x1C84, 0x1C85], [0x44A, 0x1C86],
   [0x463, 0x1C87], [0x1C88, 0xA64B], [0x1E61, 0x1E9B], [0xFB05, 0xFB06]]

/-- The code points that equal a lower-case one when case is ignored. -/
def caseVariants (n : Nat) : List Nat := (caseGroups.find? (·.contains n)).getD [n]

/-- The upper case of a text whose letters are plain ones, long s, dotless i, sharp s
or a Latin ligature; any other character beyond the first 128 is kept. -/
def upperWord (s : String) : String :=
  String.ofList (s.toList.flatMap fun c =>
    if isAscii c then [c.toUpper]
    else if c == '\u0131' then ['I']
    else if c == '\u017f' then ['S']
    else if c == '\u00df' then ['S', 'S']
    else if c == '\ufb00' then ['F', 'F']
    else if c == '\ufb01' then ['F', 'I']
    else if c == '\ufb02' then ['F', 'L']
    else if c == '\ufb03' then ['F', 'F', 'I']
    else if c == '\ufb04' then ['F', 'F', 'L']
    else if c == '\ufb05' || c == '\ufb06' then ['S', 'T']
    else [c])

end AccessControl
