import SqlTemplate.Domain.BidiTable

/-!
# Directions of a label

In a name with letters written from right to left, no label may mix directions so that it reads in
another order than it is written.
-/

namespace SqlTemplate.Domain

inductive Direction
  | leftToRight
  | rightToLeft
  | arabicLetter
  | arabicNumber
  | europeanNumber
  | europeanSeparator
  | europeanTerminator
  | commonSeparator
  | nonspacingMark
  | boundaryNeutral
  | otherNeutral
  deriving DecidableEq

namespace Direction

def of (c : CodePoint) : Direction :=
  if c.isIn Domain.rightToLeft then .rightToLeft
  else if c.isIn arabicLetters then .arabicLetter
  else if c.isIn arabicNumbers then .arabicNumber
  else if c.isIn europeanNumbers then .europeanNumber
  else if c.isIn europeanSeparators then .europeanSeparator
  else if c.isIn europeanTerminators then .europeanTerminator
  else if c.isIn commonSeparators then .commonSeparator
  else if c.isIn nonspacingMarks then .nonspacingMark
  else if c.isIn boundaryNeutrals then .boundaryNeutral
  else if c.isIn otherNeutrals then .otherNeutral
  else .leftToRight

def isRightToLeft (d : Direction) : Bool :=
  d = rightToLeft || d = arabicLetter

/-- Signs that take their direction from what is around them. -/
def isWeak (d : Direction) : Bool :=
  [europeanSeparator, commonSeparator, europeanTerminator, otherNeutral, boundaryNeutral,
    nonspacingMark].contains d

end Direction

/-- Whether the directions make up a label that is written from left to right. -/
def isLeftToRight (ds : List Direction) : Bool :=
  let numberOrLetter (d : Direction) := d = .leftToRight || d = .europeanNumber
  ds.head? = some .leftToRight && ds.all (fun d => numberOrLetter d || d.isWeak) &&
    (ds.reverse.dropWhile (· = .nonspacingMark)).head?.any numberOrLetter

/-- Whether the directions make up a label that is written from right to left. -/
def isRightToLeft (ds : List Direction) : Bool :=
  let numberOrLetter (d : Direction) :=
    d.isRightToLeft || d = .europeanNumber || d = .arabicNumber
  ds.head?.any Direction.isRightToLeft && ds.all (fun d => numberOrLetter d || d.isWeak) &&
    (ds.reverse.dropWhile (· = .nonspacingMark)).head?.any numberOrLetter &&
    !(ds.contains .europeanNumber && ds.contains .arabicNumber)

/-- Whether the labels of a name may stand together: all of them keep to one direction each if any
code point is written from right to left. -/
def keepDirections (labels : List Text) : Bool :=
  let directions := labels.map (·.map Direction.of)
  let mixed := directions.any (·.any fun d => d.isRightToLeft || d = .arabicNumber)
  !mixed || directions.all fun ds => ds = [] || isLeftToRight ds || isRightToLeft ds

end SqlTemplate.Domain
