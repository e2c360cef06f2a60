import RecordRules.Display

/-!
# Screens

A screen reads the marks in what it is given to show, and it refuses a text whose marks do not go
together, such as one that closes what is not open. Something with a text that is refused is not
shown at all, and nothing is shown after it.
-/

namespace RecordRules

/-- A screen: its complaint about a text whose marks it cannot read. -/
structure Screen where
  complaint? : String → Option String

/-- Why something is not shown: a value in it cannot be written, or a screen refuses a text. -/
inductive DisplayFault
  | unwritable (e : TooLong)
  | refused (complaint : String)
  deriving DecidableEq, Repr

/-- What is shown, and what kept the rest from being shown. -/
structure Showing where
  shown : List Shown
  fault : Option DisplayFault
  deriving DecidableEq, Repr

namespace Screen

/-- The complaint about something that is to be shown. -/
def complaintAbout? (screen : Screen) (item : Shown) : Option String :=
  item.markups.findSome? screen.complaint?

/-- What comes of showing things in order. -/
def print (screen : Screen) (items : List Shown) : Showing where
  shown := items.takeWhile fun item => (screen.complaintAbout? item).isNone
  fault := (items.findSome? screen.complaintAbout?).map .refused

end Screen

/-- What comes of showing the failures of a report on a screen. -/
def Report.displayFailures (screen : Screen) (room : Value.Room) (limit : Int) (r : Report) :
    Showing :=
  match r.showFailures limit room with
  | .error e => ⟨[], some (.unwritable e)⟩
  | .ok items => screen.print items

end RecordRules
