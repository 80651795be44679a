import SqlTemplate.Text.CodePoint

/-!
# Dates and times

Their text is the extended ISO 8601 form. A fraction of a second is written with six digits and only
if it is not zero; so are the seconds of an offset from UTC.
-/

namespace SqlTemplate

structure Date where
  year : Nat
  month : Nat
  day : Nat
  deriving DecidableEq

structure TimeOfDay where
  hour : Nat
  minute : Nat
  second : Nat
  microsecond : Nat
  deriving DecidableEq

/-- A moment, with its offset from UTC in seconds if it has one. -/
structure DateTime where
  date : Date
  time : TimeOfDay
  offset : Option Int
  deriving DecidableEq

def Date.text (d : Date) : Text :=
  Text.ofNatPadded 4 d.year ++ CodePoint.ofChar '-' :: Text.ofNatPadded 2 d.month ++
    CodePoint.ofChar '-' :: Text.ofNatPadded 2 d.day

def TimeOfDay.text (t : TimeOfDay) : Text :=
  Text.join ":" ([t.hour, t.minute, t.second].map (Text.ofNatPadded 2)) ++
    if t.microsecond = 0 then [] else CodePoint.ofChar '.' :: Text.ofNatPadded 6 t.microsecond

/-- An offset from UTC given in seconds. -/
def offsetText (offset : Int) : Text :=
  let n := offset.natAbs
  let fields := [Text.ofNatPadded 2 (n / 3600), Text.ofNatPadded 2 (n / 60 % 60)] ++
    if n % 60 = 0 then [] else [Text.ofNatPadded 2 (n % 60)]
  CodePoint.ofChar (if offset < 0 then '-' else '+') :: Text.join ":" fields

def DateTime.text (d : DateTime) : Text :=
  d.date.text ++ CodePoint.ofChar 'T' :: d.time.text ++ d.offset.elim [] offsetText

end SqlTemplate
