namespace EventLedger.Text

def lineFeed : UInt8 := 10

def carriageReturn : UInt8 := 13

def chompReturn (line : List UInt8) : List UInt8 :=
  if line.getLast? = some carriageReturn then line.dropLast else line

/-- The lines of a byte sequence. What stands after the last line feed is a line if it is not
    empty. -/
def lines (bs : List UInt8) : List (List UInt8) :=
  let parts := bs.splitOn lineFeed
  parts.dropLast.map chompReturn ++ (parts.getLast?.toList.filter fun line => !line.isEmpty)

end EventLedger.Text
