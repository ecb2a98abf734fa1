import TorznabGateway.Time.Moment

/-!
# Dates of RFC 2822

The date format of mail and of RSS. It has room for the years 0 to 9999 only.
-/
namespace TorznabGateway.Time.Rfc2822

open Text

def weekdayNames : List String :=
  ["Sun", "Mon", "Tue", "Wed", "Thu", "Fri", "Sat"]

def monthNames : List String :=
  ["Jan", "Feb", "Mar", "Apr", "May", "Jun", "Jul", "Aug", "Sep", "Oct", "Nov", "Dec"]

/-- Whether the format has room for the year of a moment. -/
def isPrintable (m : Moment) : Bool :=
  let year := m.reading.date.year
  0 ≤ year && year ≤ 9999

/-- A moment in UTC, if the format has room for it. -/
def render? (m : Moment) : Option String :=
  if isPrintable m then
    let r := m.reading
    some (.ofList
      ((weekdayNames.getD r.weekday "").toList ++ [',', ' '] ++ Decimal.digits r.date.day
        ++ ' ' :: (monthNames.getD (r.date.month - 1) "").toList
        ++ ' ' :: Decimal.padded 4 r.date.year.toNat
        ++ ' ' :: Decimal.padded 2 r.hour ++ ':' :: Decimal.padded 2 r.minute
        ++ ':' :: Decimal.padded 2 r.second ++ [' ', '+', '0', '0', '0', '0']))
  else none

end TorznabGateway.Time.Rfc2822
