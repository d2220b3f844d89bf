import SessionKeeper.Json.Read
import SessionKeeper.Text.Utf8
import SessionKeeper.Text.Wide

/-!
# Structured values in octets

* `Json.textOf?` : the text that the octets write; a byte order mark or the zero octets at the start
  tell the width of its units, which is one octet otherwise.
* `Json.ofOctets` : the value that the octets write.
-/

namespace SessionKeeper

namespace Json

open Text

def text16? (big : Bool) (bs : List UInt8) : Option (List Char) :=
  (scan16 true (units16 big bs)).mapM id

def text32? (big : Bool) (bs : List UInt8) : Option (List Char) :=
  (scan32 true (units32 big bs)).mapM id

/-- The marks that may stand in front of a text, with what reads the text behind each. -/
def marked : List (List UInt8 × (List UInt8 → Option (List Char))) := [
  ([0, 0, 0xFE, 0xFF], text32? true),
  ([0xFF, 0xFE, 0, 0], text32? false),
  ([0xFE, 0xFF], text16? true),
  ([0xFF, 0xFE], text16? false),
  ([0xEF, 0xBB, 0xBF], decodeUtf8? true)]

/-- The text that octets without a mark write. -/
def unmarked? (bs : List UInt8) : Option (List Char) :=
  match bs with
  | a :: b :: c :: d :: _ =>
    if a = 0 then (if b = 0 then text32? true bs else text16? true bs)
    else if b = 0 then (if c = 0 && d = 0 then text32? false bs else text16? false bs)
    else decodeUtf8? true bs
  | [a, b] =>
    if a = 0 then text16? true bs
    else if b = 0 then text16? false bs
    else decodeUtf8? true bs
  | _ => decodeUtf8? true bs

def textOf? (bs : List UInt8) : Option (List Char) :=
  match marked.find? fun m => m.1.isPrefixOf bs with
  | some (mark, read) => read (bs.drop mark.length)
  | none => unmarked? bs

/-- The value that the octets write, where there is room for so many lists and objects inside one another. -/
def ofOctets (room : Nat) (bs : List UInt8) : Except Failure Json :=
  match textOf? bs with
  | some cs => read room cs
  | none => .error .malformed

end Json

end SessionKeeper
