/-!
# East Asian character sets

* `East` : the sets in which a character takes two octets or more.
-/

namespace SessionKeeper.Text

/-- The charts that escape sequences may choose in a set of seven bits. -/
inductive East.Family where
  | japanese
  | japaneseFirst
  | japaneseSecond
  | japaneseThird
  | japanese2004
  | japaneseExtended
  | korean
deriving DecidableEq

/-- A set in which a character takes two octets or more. -/
inductive East where
  | gb2312
  | gbk
  | gb18030
  | hz
  | big5
  | windows950
  | hongKong
  | eucKr
  | windows949
  | johab
  | shiftJis
  | windows31
  | shiftJis2000
  | shiftJis2004
  | eucJp
  | eucJis2000
  | eucJis2004
  | seven (f : East.Family)
deriving DecidableEq

end SessionKeeper.Text
