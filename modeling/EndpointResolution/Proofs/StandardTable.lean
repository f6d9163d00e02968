import EndpointResolution.Function.Apply
import EndpointResolution.Proofs.AutomatonSize

/-!
The standard table is accepted, and what is read from its text are the standard partitions. Only the
size of its patterns is not found by reading them: they look for characters of words and for digits,
whose tables have few runs.
-/

namespace EndpointResolution

namespace Ranges

set_option maxRecDepth 20000

theorem pieceBound_cased_le : pieceBound Property.cased.runs ≤ 4100 := by
  have lower : pieceBound Property.lowercase.runs ≤ 2000 + 220 :=
    pieceBound_union_le (pieceBound_ofText_le (by decide +kernel))
      (pieceBound_ofText_le (by decide +kernel))
  have upper : pieceBound Property.uppercase.runs ≤ 1700 + 120 :=
    pieceBound_union_le (pieceBound_ofText_le (by decide +kernel))
      (pieceBound_ofText_le (by decide +kernel))
  have title : pieceBound GeneralCategory.titlecaseLetters.runs ≤ 40 :=
    pieceBound_ofText_le (by decide +kernel)
  exact Nat.le_trans (pieceBound_unions_le
    (.cons lower (.cons upper (.cons title .nil)))) (by decide)

theorem pieceBound_alphabetic_le : pieceBound Property.alphabetic.runs ≤ 12500 := by
  have modifiers : pieceBound GeneralCategory.modifierLetters.runs ≤ 320 :=
    pieceBound_ofText_le (by decide +kernel)
  have others : pieceBound GeneralCategory.otherLetters.runs ≤ 6600 :=
    pieceBound_ofText_le (by decide +kernel)
  have numbers : pieceBound GeneralCategory.letterNumbers.runs ≤ 130 :=
    pieceBound_ofText_le (by decide +kernel)
  have rest : pieceBound Property.otherAlphabetic.runs ≤ 1320 :=
    pieceBound_ofText_le (by decide +kernel)
  exact Nat.le_trans (pieceBound_unions_le (.cons pieceBound_cased_le (.cons modifiers
    (.cons others (.cons numbers (.cons rest .nil)))))) (by decide)

theorem pieceBound_marks_le : pieceBound GeneralCategory.marks.runs ≤ 2100 := by
  have nonspacing : pieceBound GeneralCategory.nonspacingMarks.runs ≤ 1600 :=
    pieceBound_ofText_le (by decide +kernel)
  have spacing : pieceBound GeneralCategory.spacingMarks.runs ≤ 450 :=
    pieceBound_ofText_le (by decide +kernel)
  have enclosing : pieceBound GeneralCategory.enclosingMarks.runs ≤ 20 :=
    pieceBound_ofText_le (by decide +kernel)
  exact Nat.le_trans (pieceBound_unions_le
    (.cons nonspacing (.cons spacing (.cons enclosing .nil)))) (by decide)

theorem pieceBound_decimalNumbers_le : pieceBound GeneralCategory.decimalNumbers.runs ≤ 750 :=
  pieceBound_ofText_le (by decide +kernel)

theorem pieceBound_wordCharacters_le : pieceBound Character.wordCharacters.runs ≤ 16000 := by
  have connectors : pieceBound GeneralCategory.connectorPunctuation.runs ≤ 20 :=
    pieceBound_ofText_le (by decide +kernel)
  have joiners : pieceBound Property.joinControl.runs ≤ 10 :=
    pieceBound_ofText_le (by decide +kernel)
  exact Nat.le_trans (pieceBound_unions_le (.cons pieceBound_alphabetic_le (.cons
    pieceBound_marks_le (.cons pieceBound_decimalNumbers_le (.cons connectors
      (.cons joiners .nil)))))) (by decide)

end Ranges

namespace Pattern

open Automaton

namespace Shape

theorem ofSet_single (c : Char) : ofSet (CharSet.toRanges (.single c)) = .text [c] := by
  simp [ofSet, CharSet.toRanges, Char.ofNat_toNat]

theorem isBlank_ofSet (ranges : Ranges) : (ofSet ranges).isBlank = false := by
  rw [ofSet]
  split
  · split <;> rfl
  · rfl

theorem many1_ofSet (ranges : Ranges) :
    (ofSet ranges).repeatIt 1 none = .repeated (.ofSet ranges) 1 none := by
  simp [repeatIt, isBlank_ofSet]

/-- A place and a number, with a hyphen between them. -/
def numbered (place number : CharSet) : List Shape :=
  [.repeated (.ofSet place.toRanges) 1 none, .text ['-'],
    .repeated (.ofSet number.toRanges) 1 none, .anchor .textEnd]

theorem joinTexts_letters {chars : List Char} (nonempty : chars ≠ []) (place number : CharSet) :
    joinTexts (chars.map (fun c => .text [c]) ++ numbered place number) =
      .text chars :: numbered place number := by
  induction chars with
  | nil => exact absurd rfl nonempty
  | cons c rest ih =>
      cases rest with
      | nil => rfl
      | cons next rest =>
          rw [List.map_cons, List.cons_append, joinTexts, ih (List.cons_ne_nil _ _)]
          rfl

theorem steps_letters (chars : List Char) :
    (chars.map fun c => Shape.text [c]).flatMap steps = chars.map fun c => .text [c] := by
  induction chars with
  | nil => rfl
  | cons c rest ih =>
      rw [List.map_cons, List.flatMap_cons, ih]
      rfl

theorem takes_word : Takes (setRoom 16000) (ofSet (CharSet.toRanges .word)) := by
  rw [CharSet.toRanges]
  exact (takes_ofSet _).mono (setRoom_mono Ranges.pieceBound_wordCharacters_le)

theorem takes_digit : Takes (setRoom 750) (ofSet (CharSet.toRanges .digit)) := by
  rw [CharSet.toRanges]
  exact (takes_ofSet _).mono (setRoom_mono Ranges.pieceBound_decimalNumbers_le)

theorem takes_numbered : Takes 2700000 (.sequence (numbered .word .digit)) := by
  have number := takes_sequence_cons takes_digit.many1
    (takes_sequence_cons (takes_anchor .textEnd) takes_sequence_nil)
  have place := takes_sequence_cons takes_word.many1
    (takes_sequence_cons (takes_text ['-']) number)
  exact place.mono (by decide)

theorem isSmall_letters {chars : List Char} (short : (utf8 chars).length ≤ 100) :
    (sequence (.anchor .textStart :: .text chars :: numbered .word .digit)).isSmall = true := by
  have area := takes_sequence_cons (takes_anchor .textStart)
    (takes_sequence_cons (takes_text chars) takes_numbered)
  refine isSmall_of_takes area ?_
  simp only [stateSize, sizeLimit]
  omega

end Shape

namespace Tree

theorem shape_many1 (set : CharSet) :
    (Tree.repeated (.char set 0) 1 none).shape = .repeated (.ofSet set.toRanges) 1 none := by
  rw [shape, shape, Shape.many1_ofSet]

theorem shapes_append (trees more : List Tree) :
    shapes (trees ++ more) = shapes trees ++ shapes more := by
  induction trees with
  | nil => rfl
  | cons tree rest ih => rw [List.cons_append, shapes, ih, shapes, List.cons_append]

def letters (chars : List Char) : List Tree := chars.map fun c => .char (.single c) 0

theorem shapes_letters (chars : List Char) :
    shapes (letters chars) = chars.map fun c => .text [c] := by
  induction chars with
  | nil => rfl
  | cons c rest ih =>
      rw [letters, List.map_cons, shapes, shape, Shape.ofSet_single, ← letters, ih, List.map_cons]

def numbered (place number : CharSet) : List Tree :=
  [.repeated (.char place 0) 1 none, .char (.single '-') 0, .repeated (.char number 0) 1 none,
    .anchor .textEnd]

theorem shapes_numbered (place number : CharSet) :
    shapes (numbered place number) = Shape.numbered place number := by
  simp only [numbered, shapes, shape_many1]
  simp only [shape, Shape.ofSet_single, Shape.numbered]

/-- What is written of the regions of an area: the area, a place and a number. -/
def regional (area : List Tree) : Tree :=
  .sequence (.anchor .textStart :: (area ++ numbered .word .digit))

/-- One of several areas, in a group. -/
def choices (areas : List String) : Tree :=
  .capture none (.choice (areas.map fun area => .sequence (letters area.toList)))

theorem steps_numbered (place number : CharSet) :
    (Shape.numbered place number).flatMap Shape.steps = Shape.numbered place number :=
  rfl

theorem shape_regional_letters {chars : List Char} (nonempty : chars ≠ []) :
    (regional (letters chars)).shape =
      .sequence (.anchor .textStart :: .text chars :: Shape.numbered .word .digit) := by
  rw [regional, shape, shapes, shapes_append, shapes_letters, shapes_numbered, shape,
    Shape.ofParts, List.flatMap_cons, List.flatMap_append, Shape.steps_letters, steps_numbered,
    Shape.steps, List.singleton_append, Shape.joinTexts, Shape.joinTexts_letters nonempty]
  all_goals simp

theorem shape_regional_choices {texts : List (List Char)} {areas : List String}
    (own : (choices areas).shape = .capture (.choice (texts.map .text))) :
    (regional (choices areas :: letters ['-'])).shape =
      .sequence (.anchor .textStart :: .capture (.choice (texts.map .text)) :: .text ['-'] ::
        Shape.numbered .word .digit) := by
  have hyphen : Shape.joinTexts ([.text ['-']] ++ Shape.numbered .word .digit) =
      .text ['-'] :: Shape.numbered .word .digit :=
    Shape.joinTexts_letters (List.cons_ne_nil '-' []) .word .digit
  rw [regional, shape, shapes, List.cons_append, shapes, own, shapes_append, shapes_letters,
    shapes_numbered, shape, Shape.ofParts, List.flatMap_cons, List.flatMap_cons,
    List.flatMap_append, Shape.steps_letters, steps_numbered, Shape.steps, Shape.steps,
    List.singleton_append, List.singleton_append, Shape.joinTexts, Shape.joinTexts, List.map_cons,
    List.map_nil, hyphen]
  all_goals simp

end Tree

/-- A tree that neither nests deep nor names groups is accepted if it is small. -/
theorem parse?_of_tree {text : String} {tree : Tree} (read : tree? text.toList = some tree)
    (flat : tree.levels ≤ levelLimit) (unnamed : tree.names = []) (small : tree.shape.isSmall) :
    parse? text = some tree.pattern := by
  have acceptable : tree.isAcceptable = true := by
    simp [Tree.isAcceptable, flat, unnamed, small]
  rw [parse?, read]
  simp only [acceptable, if_pos]

theorem parse?_letters {text : String} (chars : List Char)
    (read : tree? text.toList = some (.regional (Tree.letters chars)))
    (flat : (Tree.regional (Tree.letters chars)).levels ≤ levelLimit)
    (unnamed : (Tree.regional (Tree.letters chars)).names = [])
    (nonempty : chars ≠ []) (short : (utf8 chars).length ≤ 100) :
    parse? text = some (Tree.regional (Tree.letters chars)).pattern := by
  refine parse?_of_tree read flat unnamed ?_
  rw [Tree.shape_regional_letters nonempty]
  exact Shape.isSmall_letters short

end Pattern

namespace Partition

open Pattern

def awsAreas : List String := ["us", "eu", "ap", "sa", "ca", "me", "af", "il", "mx"]

/-- The areas in one trie, by their letters in the order in which they are read. -/
def awsTrie : ReadingOrder → Automaton.Trie
  | .forward =>
      .node [] [(105, .ofBytes [108]), (109, .node [] [(120, .ofBytes []), (101, .ofBytes [])]),
        (99, .ofBytes [97]), (115, .ofBytes [97]),
        (97, .node [] [(102, .ofBytes []), (112, .ofBytes [])]), (101, .ofBytes [117]),
        (117, .ofBytes [115])]
  | .backward =>
      .node [] [(120, .ofBytes [109]), (108, .ofBytes [105]), (102, .ofBytes [97]),
        (101, .ofBytes [109]), (97, .node [] [(99, .ofBytes []), (115, .ofBytes [])]),
        (112, .ofBytes [97]), (117, .ofBytes [101]), (115, .ofBytes [117])]

theorem takes_awsAreas :
    Shape.Takes 3000 (.choice ((awsAreas.map String.toList).map .text)) := by
  refine Shape.takes_texts fun order => ?_
  have room : Automaton.stateSize * ((awsTrie order).cost.states + 1) +
      (awsTrie order).cost.edges ≤ 3000 := by
    cases order <;> cbv
  cases order <;> exact (Automaton.takes_add? _ _).mono room

theorem parse?_aws : Pattern.parse? "^(us|eu|ap|sa|ca|me|af|il|mx)\\-\\w+\\-\\d+$" =
    some aws.regionPattern := by
  have read : tree? "^(us|eu|ap|sa|ca|me|af|il|mx)\\-\\w+\\-\\d+$".toList =
    some (.regional (.choices awsAreas :: Tree.letters ['-'])) := rfl
  have own : (Tree.choices awsAreas).shape =
    .capture (.choice ((awsAreas.map String.toList).map .text)) := rfl
  refine parse?_of_tree read (by decide) rfl ?_
  rw [Tree.shape_regional_choices own]
  have whole := Shape.takes_sequence_cons (Shape.takes_anchor .textStart)
    (Shape.takes_sequence_cons takes_awsAreas.capture
      (Shape.takes_sequence_cons (Shape.takes_text ['-']) Shape.takes_numbered))
  exact Shape.isSmall_of_takes whole (by decide)

theorem parse?_awsCn : Pattern.parse? "^cn\\-\\w+\\-\\d+$" = some awsCn.regionPattern :=
  parse?_letters "cn-".toList rfl (by decide) rfl (by decide) (by decide)

theorem parse?_awsUsGov : Pattern.parse? "^us\\-gov\\-\\w+\\-\\d+$" = some awsUsGov.regionPattern :=
  parse?_letters "us-gov-".toList rfl (by decide) rfl (by decide) (by decide)

theorem parse?_awsIso : Pattern.parse? "^us\\-iso\\-\\w+\\-\\d+$" = some awsIso.regionPattern :=
  parse?_letters "us-iso-".toList rfl (by decide) rfl (by decide) (by decide)

theorem parse?_awsIsoB :
    Pattern.parse? "^us\\-isob\\-\\w+\\-\\d+$" = some awsIsoB.regionPattern :=
  parse?_letters "us-isob-".toList rfl (by decide) rfl (by decide) (by decide)

/-- A partition as a table writes it. -/
def written (partition : Partition) (pattern : String) : Written := { partition with pattern }

theorem compile_written {partition : Partition} {pattern : String} (reports : Reports)
    (read : Pattern.parse? pattern = some partition.regionPattern) :
    (partition.written pattern).compile reports = .ok partition := by
  rw [Written.compile, written, read]

theorem parse?_ofList (chars : List Char) : Json.parse? (.ofList chars) =
    (Json.value? (2 * chars.length + 2) Json.nestingLimit (Json.skipSpace chars)).bind fun read =>
      if Json.skipSpace read.2 = [] then some read.1 else none := by
  rw [Json.parse?, String.toList_ofList]
  cases Json.value? (2 * chars.length + 2) Json.nestingLimit (Json.skipSpace chars) <;> rfl

theorem tableOfJson?_of_value? {chars : List Char} {table : List Written}
    (read : ((Json.value? (2 * chars.length + 2) Json.nestingLimit (Json.skipSpace chars)).bind
      fun read => if Json.skipSpace read.2 = [] then some read.1 else none).bind
        Written.tableOfJson? = some table) :
    (Json.parse? (.ofList chars)).bind Written.tableOfJson? = some table := by
  rw [parse?_ofList, read]

set_option maxRecDepth 20000 in
theorem writtenTable_standardText :
    (Json.parse? standardText).bind Written.tableOfJson? =
      some [aws.written "^(us|eu|ap|sa|ca|me|af|il|mx)\\-\\w+\\-\\d+$",
        awsCn.written "^cn\\-\\w+\\-\\d+$", awsUsGov.written "^us\\-gov\\-\\w+\\-\\d+$",
        awsIso.written "^us\\-iso\\-\\w+\\-\\d+$", awsIsoB.written "^us\\-isob\\-\\w+\\-\\d+$"] :=
  tableOfJson?_of_value? (by decide +kernel)

/-- The standard table is accepted, and holds the standard partitions. -/
theorem tableOfText_standardText (reports : Reports) :
    tableOfText reports standardText = .ok standard := by
  rw [tableOfText, writtenTable_standardText]
  simp only [List.mapM_cons, List.mapM_nil, compile_written reports parse?_aws,
    compile_written reports parse?_awsCn, compile_written reports parse?_awsUsGov,
    compile_written reports parse?_awsIso, compile_written reports parse?_awsIsoB]
  rfl

theorem standardTable_eq_ok : standardTable = .ok standard := tableOfText_standardText _

end Partition

/-- Functions find the standard partitions. -/
theorem Function.partitionOf_eq_ok (region : String) :
    partitionOf region = .ok (if region = "" then .none
      else .ofOption PartitionOutputs.toValue (Partition.resolve? Partition.standard region)) := by
  rw [partitionOf, Partition.standardTable_eq_ok]
  split <;> rfl

end EndpointResolution
