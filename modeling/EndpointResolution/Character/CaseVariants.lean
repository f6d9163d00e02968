import EndpointResolution.Character.Ranges

/-!
Characters that differ in letter case alone, by the simple case folding of Unicode 16.0.
-/

namespace EndpointResolution.CaseVariants

/-- Distances between the two cases of a letter, and the letters from which the other case is so far
ahead. -/
def distances : List (Nat × Ranges) :=
  [(0x1, .ofText
      "100~12E 132~136 139~147 14A~176 179~17D 182 184 187 18B 191 198 1A0~1A4 1A7 1AC 1AF 1B3 1B5
      1B8 1BC 1CD~1DB 1DE~1EE 1F4 1F8~21E 222~232 23B 241 246~24E 370 372 376 3D8~3EE 3F7 3FA 460
      464~480 48A~4BE 4C1~4CD 4D0~52E 1C89 1E00~1E5E 1E62~1E94 1EA0~1EFE 2183 2C60 2C67~2C6B 2C72
      2C75 2C80~2CE2 2CEB 2CED 2CF2 A640~A648 A64C~A66C A680~A69A A722~A72E A732~A76E A779 A77B
      A77E~A786 A78B A790 A792 A796~A7A8 A7B4~A7C2 A7C7 A7C9 A7CC A7D0 A7D6~A7DA A7F5 FB05"),
    (0x7, .ofText "3F2 1FE5"),
    (0x8, .ofText
      "3CF 13F0-13F5 1F00-1F07 1F10-1F15 1F20-1F27 1F30-1F37 1F40-1F45 1F51~1F57 1F60-1F67
      1F80-1F87 1F90-1F97 1FA0-1FA7 1FB0-1FB1 1FD0-1FD1 1FE0-1FE1"),
    (0x9, .ofText "1FB3 1FC3 1FF3"),
    (0xF, .ofText "4C0"),
    (0x10, .ofText "2160-216F"),
    (0x1A, .ofText "24B6-24CF"),
    (0x1C, .ofText "2132"),
    (0x20, .ofText
      "41-4A 4C-52 54-5A C0-C4 C6-D6 D8-DE 391 393-394 396-397 39B 39D-39F 3A4-3A5 3A7-3A8 3AA-3AB
      410-411 413 415-41D 41F-420 423-429 42B-42F FF21-FF3A 10D50-10D65 118A0-118BF 16E40-16E5F"),
    (0x22, .ofText "1E900-1E921"),
    (0x25, .ofText "388-38A"),
    (0x26, .ofText "386"),
    (0x27, .ofText "10570-1057A 1057C-1058A 1058C-10592 10594-10595"),
    (0x28, .ofText "10400-10427 104B0-104D3"),
    (0x30, .ofText "531-556 2C00-2C2F A794"),
    (0x38, .ofText "1BF"),
    (0x3F, .ofText "38E-38F"),
    (0x40, .ofText "38C 10C80-10CB2"),
    (0x45, .ofText "244"),
    (0x47, .ofText "245"),
    (0x4A, .ofText "1F70-1F71"),
    (0x4F, .ofText "18E"),
    (0x50, .ofText "400-40F"),
    (0x56, .ofText "1F72-1F75"),
    (0x61, .ofText "195"),
    (0x64, .ofText "1F76-1F77"),
    (0x70, .ofText "1F7A-1F7B"),
    (0x74, .ofText "37F"),
    (0x79, .ofText "FF"),
    (0x7E, .ofText "1F7C-1F7D"),
    (0x80, .ofText "1F78-1F79"),
    (0x82, .ofText "19E 37B-37D"),
    (0xA3, .ofText "19A"),
    (0xC3, .ofText "180"),
    (0xCA, .ofText "18F"),
    (0xCB, .ofText "190"),
    (0xCD, .ofText "189-18A 193"),
    (0xCE, .ofText "186"),
    (0xCF, .ofText "194"),
    (0xD1, .ofText "197"),
    (0xD2, .ofText "181"),
    (0xD3, .ofText "196 19C"),
    (0xD5, .ofText "19D"),
    (0xD6, .ofText "19F"),
    (0xD9, .ofText "1B1-1B2"),
    (0xDA, .ofText "1A6 1A9 1AE"),
    (0xDB, .ofText "1B7"),
    (0x3A0, .ofText "A7B3"),
    (0xBC0, .ofText "10D0-10FA 10FD-10FF"),
    (0xEE6, .ofText "1D7D"),
    (0x1C33, .ofText "3B0"),
    (0x1C43, .ofText "390"),
    (0x1C60, .ofText "10A0-10C5 10C7 10CD"),
    (0x1DBF, .ofText "DF"),
    (0x29E7, .ofText "27D"),
    (0x29F7, .ofText "26B"),
    (0x29FD, .ofText "271"),
    (0x2A1C, .ofText "251"),
    (0x2A1E, .ofText "252"),
    (0x2A1F, .ofText "250"),
    (0x2A28, .ofText "23E"),
    (0x2A2B, .ofText "23A"),
    (0x2A3F, .ofText "23F-240"),
    (0x8A04, .ofText "1D79"),
    (0x8A38, .ofText "1D8E"),
    (0x97D0, .ofText "13A0-13EF"),
    (0xA512, .ofText "29E"),
    (0xA515, .ofText "29D"),
    (0xA528, .ofText "265"),
    (0xA52A, .ofText "287"),
    (0xA541, .ofText "26C"),
    (0xA543, .ofText "282"),
    (0xA544, .ofText "266 26A"),
    (0xA54B, .ofText "261"),
    (0xA54F, .ofText "25C"),
    (0xA567, .ofText "264"),
    (0xA641, .ofText "19B")]

/-- More than two characters that are the same letter. -/
def families : List Ranges :=
  [.ofText "4B 6B 212A",
    .ofText "53 73 17F",
    .ofText "B5 39C 3BC",
    .ofText "C5 E5 212B",
    .ofText "1C4-1C6",
    .ofText "1C7-1C9",
    .ofText "1CA-1CC",
    .ofText "1F1-1F3",
    .ofText "345 399 3B9 1FBE",
    .ofText "392 3B2 3D0",
    .ofText "395 3B5 3F5",
    .ofText "398 3B8 3D1 3F4",
    .ofText "39A 3BA 3F0",
    .ofText "3A0 3C0 3D6",
    .ofText "3A1 3C1 3F1",
    .ofText "3A3 3C2-3C3",
    .ofText "3A6 3C6 3D5",
    .ofText "3A9 3C9 2126",
    .ofText "412 432 1C80",
    .ofText "414 434 1C81",
    .ofText "41E 43E 1C82",
    .ofText "421 441 1C83",
    .ofText "422 442 1C84-1C85",
    .ofText "42A 44A 1C86",
    .ofText "462-463 1C87",
    .ofText "1C88 A64A-A64B",
    .ofText "1E60-1E61 1E9B"]

def codes (ranges : Ranges) : List Nat :=
  ranges.runs.flatMap fun run => (List.range (run.2 + 1 - run.1)).map (run.1 + ·)

/-- The other code points of a letter. -/
def ofCode (code : Nat) : List Nat :=
  let pairs := distances.filterMap fun row =>
    if row.2.contains code then some (code + row.1)
    else if row.1 ≤ code ∧ row.2.contains (code - row.1) then some (code - row.1)
    else none
  let family := (families.filter (·.contains code)).flatMap codes
  pairs ++ family.filter (· ≠ code)

/-- All code points that have others. -/
def all : Ranges :=
  .unions (families ++ distances.flatMap fun row =>
    [row.2, ⟨row.2.runs.map fun run => (run.1 + row.1, run.2 + row.1)⟩])

/-- Code points with their others. -/
def table : List (Nat × List Nat) := (codes all).map fun code => (code, ofCode code)

end EndpointResolution.CaseVariants
