/-
This file holds the time stamps of tables: instants in nanoseconds, with the offset of the
clock they were read from when it is known. A stamp is written as that clock showed it.
-/

import SeriesChart.Calendar.IsoText
import SeriesChart.Calendar.Moment

namespace SeriesChart.Calendar

/-- An instant in nanoseconds, and how many microseconds its clock is ahead of universal time. -/
structure Stamp where
  nanos : Int
  offset : Option Int
  deriving DecidableEq, Repr

namespace Stamp

/-! ### Making -/

/-- The stamp of a time. -/
def ofDateTime (time : DateTime) : Stamp := ⟨time.epochMicros * 1000, time.offset⟩

/-- The stamp of a known moment. -/
def ofMoment? (moment : Moment) : Option Stamp :=
  moment.count.map fun count => ⟨Moment.nanosOf moment.unit count, none⟩

/-- The stamp of what was read, unless its year is out of use. -/
def ofLongForm? (form : LongForm) : Option Stamp :=
  if form.date.isValid then some ⟨form.instant, form.offset.map (· * 60 * microsPerSecond)⟩
  else none

/-- The stamp that a text stands for. The long form has more places; every other form will do
too. -/
def ofText? (text : String) : Option Stamp :=
  ((LongForm.read? text.toList).bind ofLongForm?).orElse fun _ =>
    (IsoText.read? text.toList).map ofDateTime

/-! ### Reading -/

/-- The microseconds that a clock of the stamp shows, and the nanoseconds left over. -/
def localTime (stamp : Stamp) : DateTime × Nat :=
  let shown := stamp.nanos + stamp.offset.getD 0 * 1000
  ({ DateTime.ofEpochMicros (shown / 1000) with offset := none }, (shown % 1000).toNat)

end Stamp

end SeriesChart.Calendar
