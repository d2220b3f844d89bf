import SessionKeeper.Text.East.Basic

/-!
# Character sets

* `Charset` : the ways to write text in octets.
* `Charset.Refusal` : the names of sets that write something else than text.
-/

namespace SessionKeeper.Text

/-- What a set writes that is no way to write text: nothing, the labels of host names, text for text,
or octets for octets. -/
inductive Charset.Refusal where
  | undefined
  | labels
  | letters
  | octets
deriving DecidableEq

/-- A way to write text in octets. The order of the octets of wide units may be fixed, or given by a
mark in front. -/
inductive Charset where
  | utf8 (signed : Bool)
  | utf16 (big : Option Bool)
  | utf32 (big : Option Bool)
  | utf7
  | escaped (raw : Bool)
  | punycode
  | ascii
  | latin1
  /-- One octet a character: the plain characters below 128, and from there on those of some rows. -/
  | upper (rows : List String)
  /-- One octet a character, all of them in rows. -/
  | full (rows : List String)
  | east (s : East)
  | refused (r : Charset.Refusal)

end SessionKeeper.Text
