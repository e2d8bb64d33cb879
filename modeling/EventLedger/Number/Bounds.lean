namespace EventLedger

/-! The ends of the ranges of integers of fixed widths -/

abbrev greatestWord32 : Nat := 4294967295

abbrev greatestWord64 : Nat := 18446744073709551615

abbrev leastSigned32 : Int := -2147483648

abbrev greatestSigned32 : Int := 2147483647

abbrev leastSigned64 : Int := -9223372036854775808

abbrev greatestSigned64 : Int := 9223372036854775807

end EventLedger
