import SessionKeeper.Text.East.Seven

/-!
# Text in East Asian character sets

* `East.decode` : octets to text, a replacement character for what is no character.
-/

namespace SessionKeeper.Text.East

/-- Octets to text; none if too many of them at the end are too few to tell. -/
def decode : East → List UInt8 → Option (List Char)
  | gb2312 => scanPlain (pairsFront gb2312Char?)
  | gbk => scanPlain (pairsFront gbkChar?)
  | gb18030 => scanPlain gb18030Front
  | hz => fun bs => scan hzFront bs.length false bs
  | big5 => scanPlain (pairsFront big5Char?)
  | windows950 => scanPlain (pairsFront windows950Char?)
  | hongKong => scanPlain (pairsFront hongKongChar?)
  | eucKr => scanPlain eucKrFront
  | windows949 => scanPlain (pairsFront windows949Char?)
  | johab => scanPlain (pairsFront johabChar?)
  | shiftJis => scanPlain shiftJisFront
  | windows31 => scanPlain windows31Front
  | shiftJis2000 => scanPlain (shiftJis213Front .year2000)
  | shiftJis2004 => scanPlain (shiftJis213Front .year2004)
  | eucJp => scanPlain eucJpFront
  | eucJis2000 => scanPlain (eucJis213Front .year2000)
  | eucJis2004 => scanPlain (eucJis213Front .year2004)
  | seven f => fun bs => scan (sevenFront f) bs.length .initial bs

end SessionKeeper.Text.East
