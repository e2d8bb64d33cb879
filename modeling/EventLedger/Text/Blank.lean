namespace EventLedger.Text

def isBlank (c : Char) : Bool :=
  let n := c.toNat
  (9 ≤ n && n ≤ 13) || n == 0x20 || n == 0x85 || n == 0xA0 || n == 0x1680 ||
    (0x2000 ≤ n && n ≤ 0x200A) || n == 0x2028 || n == 0x2029 || n == 0x202F ||
    n == 0x205F || n == 0x3000

def trimLeft (cs : List Char) : List Char := cs.dropWhile isBlank

def trimRight (cs : List Char) : List Char := (cs.reverse.dropWhile isBlank).reverse

def trim (s : String) : String := String.ofList (trimRight (trimLeft s.toList))

def isBlankText (s : String) : Bool := s.toList.all isBlank

/-- How names are compared: without surrounding blanks, ASCII letters in lower case, and an
    underscore for each hyphen. -/
def canonicalName (s : String) : String :=
  (trim s).map fun c => if c = '-' then '_' else c.toLower

end EventLedger.Text
