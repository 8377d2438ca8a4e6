import GrammarTables.Text.Mark
import GrammarTables.Text.Printable

/-!
# Directions of writing

A label that has letters or digits which are written from right to left must keep to rules
that make it look the same wherever it is shown.  The tables hold the code points of host
names in Unicode 14; newer ones have no known direction.
-/

namespace GrammarTables.Hostname

open Text (CodeRanges isInRanges)

/-- How a code point is placed in its line. -/
inductive Direction where
  | left
  | right
  /-- A letter of Arabic and of scripts like it. -/
  | arabic
  | arabicDigit
  | digit
  /-- The hyphen. -/
  | separator
  | mark
  | joiner
  | neutral
  | unknown
  deriving DecidableEq, Repr

namespace Direction

/-- The runs of letters that are written from right to left. -/
def rightRanges : CodeRanges :=
  [(0x05D0, 0x05EA), (0x05EF, 0x05F4), (0x07C0, 0x07EA), (0x07F4, 0x07F5), (0x0800, 0x0815),
   (0x081A, 0x081A), (0x0824, 0x0824), (0x0828, 0x0828), (0x0840, 0x0858), (0x10800, 0x10805),
   (0x10808, 0x10808), (0x1080A, 0x10835), (0x10837, 0x10838), (0x1083C, 0x1083C),
   (0x1083F, 0x10855), (0x10860, 0x10876), (0x10880, 0x1089E), (0x108E0, 0x108F2),
   (0x108F4, 0x108F5), (0x10900, 0x10915), (0x10920, 0x10939), (0x10980, 0x109B7),
   (0x109BE, 0x109BF), (0x10A00, 0x10A00), (0x10A10, 0x10A13), (0x10A15, 0x10A17),
   (0x10A19, 0x10A35), (0x10A60, 0x10A7C), (0x10A80, 0x10A9C), (0x10AC0, 0x10AC7),
   (0x10AC9, 0x10AE4), (0x10B00, 0x10B35), (0x10B40, 0x10B55), (0x10B60, 0x10B72),
   (0x10B80, 0x10B91), (0x10C00, 0x10C48), (0x10CC0, 0x10CF2), (0x10E80, 0x10EA9),
   (0x10EB0, 0x10EB1), (0x10F00, 0x10F1C), (0x10F27, 0x10F27), (0x10F70, 0x10F81),
   (0x10FB0, 0x10FC4), (0x10FE0, 0x10FF6), (0x1E800, 0x1E8C4), (0x1E922, 0x1E943),
   (0x1E94B, 0x1E94B), (0x1E950, 0x1E959)]

/-- The runs of letters of Arabic and of scripts like it. -/
def arabicRanges : CodeRanges :=
  [(0x0620, 0x063F), (0x0641, 0x064A), (0x066E, 0x066F), (0x0671, 0x0674), (0x0679, 0x06D3),
   (0x06D5, 0x06D5), (0x06E5, 0x06E6), (0x06EE, 0x06EF), (0x06FA, 0x06FF), (0x0710, 0x0710),
   (0x0712, 0x072F), (0x074D, 0x07A5), (0x07B1, 0x07B1), (0x0860, 0x086A), (0x0870, 0x0887),
   (0x0889, 0x088E), (0x08A0, 0x08C9), (0xFE73, 0xFE73), (0x10D00, 0x10D23), (0x10F30, 0x10F45)]

/-- The runs of digits that are placed as Arabic ones are. -/
def arabicDigitRanges : CodeRanges :=
  [(0x0660, 0x0669), (0x10D30, 0x10D39)]

/-- The runs of digits that are placed as plain ones are. -/
def digitRanges : CodeRanges :=
  [(0x0030, 0x0039), (0x06F0, 0x06F9)]

/-- The runs of code points that are placed as their neighbours are. -/
def neutralRanges : CodeRanges :=
  [(0x00B7, 0x00B7), (0x02B9, 0x02BA), (0x02C6, 0x02CF), (0x02EC, 0x02EC), (0x0375, 0x0375),
   (0x2E2F, 0x2E2F), (0x30FB, 0x30FB), (0xA67F, 0xA67F), (0xA717, 0xA71F), (0xA788, 0xA788)]

/-- Marks that are placed as letters are. -/
def leftMarks : List Nat := [0x0CBF, 0x0CC6, 0x11A07, 0x11A08, 0x11C3F]

/-- The runs of all tables are in order. -/
example : ([rightRanges, arabicRanges, arabicDigitRanges, digitRanges, neutralRanges].all
    Text.areApart) = true := by
  decide +kernel

/-- The direction of a code point of host names. -/
def ofCode (code : Nat) : Direction :=
  if isInRanges digitRanges code then digit
  else if code == 0x2D then separator
  else if isInRanges rightRanges code then right
  else if isInRanges arabicRanges code then arabic
  else if isInRanges arabicDigitRanges code then arabicDigit
  else if code == 0x200C || code == 0x200D then joiner
  else if isInRanges neutralRanges code then neutral
  else if leftMarks.contains code then left
  else if Text.isNonspacing code then mark
  else if Text.isPrintable (Char.ofNat code) then left
  else unknown

/-- Whether a label that has the direction must keep to the rules. -/
def isRightward : Direction → Bool
  | right | arabic | arabicDigit => true
  | _ => false

end Direction

/-- What is wrong with the directions in a label. -/
inductive DirectionProblem where
  | unknown (position : Nat)
  /-- The label does not begin with a letter. -/
  | start
  /-- A code point is not allowed in a label that begins from that side. -/
  | misplaced (position : Nat) (fromRight : Bool)
  /-- Digits of both kinds are in a label. -/
  | mixedDigits
  /-- The label does not end with a letter or a digit and its marks. -/
  | ending
  deriving DecidableEq, Repr

namespace Direction

/-- Whether a code point may stand in a label that begins from the right or from the
left. -/
def isAllowedIn (fromRight : Bool) : Direction → Bool
  | left => !fromRight
  | right | arabic | arabicDigit => fromRight
  | _ => true

/-- Whether a label that begins from the right or from the left may end with a code point
and its marks. -/
def mayEnd (fromRight : Bool) : Direction → Bool
  | left => !fromRight
  | right | arabic | arabicDigit => fromRight
  | digit => true
  | _ => false

def isDigit : Direction → Bool
  | digit | arabicDigit => true
  | _ => false

/-- What is wrong with directions from a position on, given the kind of digits so far and
whether the label might end here. -/
def problemFrom? (fromRight : Bool) (position : Nat) (digits : Option Direction)
    (mayEndHere : Bool) : List Direction → Option DirectionProblem
  | [] => if mayEndHere then none else some .ending
  | direction :: rest =>
    if !direction.isAllowedIn fromRight then some (.misplaced position fromRight)
    else if fromRight && direction.isDigit && digits.any (· != direction) then
      some .mixedDigits
    else
      let digits := if direction.isDigit then digits.or (some direction) else digits
      problemFrom? fromRight (position + 1) digits
        (if direction == mark then mayEndHere else direction.mayEnd fromRight) rest

/-- What is wrong with the directions in a label, counted from one. -/
def problem? (directions : List Direction) : Option DirectionProblem :=
  if directions.contains unknown then some (.unknown (directions.idxOf unknown + 1))
  else if !directions.any isRightward then none
  else
    match directions.head? with
    | some right | some arabic => problemFrom? true 1 none false directions
    | some left => problemFrom? false 1 none false directions
    | _ => some .start

end Direction

end GrammarTables.Hostname
