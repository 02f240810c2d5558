import DocGateway.Text.Utf8
/-!
# Series of a family

The label values of a family tell its series apart, by a hash of the values one after another.
Values that differ but hash alike belong to one series, which keeps the values that came first.
-/

namespace DocGateway

/-- A key of a series: the 64-bit FNV-1a hash of label values, which are not set apart. -/
def seriesKey (values : List String) : UInt64 :=
  (values.flatMap Utf8.encode).foldl (fun h b => (h ^^^ b.toUInt64) * 0x100000001B3)
    0xCBF29CE484222325

end DocGateway
