import SessionKeeper.Text.Charset.Escaped
import SessionKeeper.Text.Charset.Seven
import SessionKeeper.Text.Charset.Table
import SessionKeeper.Text.East
import SessionKeeper.Text.Punycode
import SessionKeeper.Text.Wide

/-!
# Text in a character set

* `Charset.ofName?` : a character set by one of its names; case, and which marks part the words of a
  name, do not matter.
* `Charset.Failure` : why octets cannot be read at all.
* `Charset.decode` : octets to text, a replacement character for what is no character.
-/

namespace SessionKeeper.Text.Charset

/-! ## Names -/

/-- The words of a name with single underscores between them, in lower case. -/
def normalName (cs : List Char) : List Char :=
  let marked := cs.map fun c => if c.isAlphanum || c = '.' then c.toLower else '_'
  let trimmed := (marked.dropWhile (· = '_')).reverse.dropWhile (· = '_')
  trimmed.foldl (fun acc c => if c = '_' && acc.head? = some '_' then acc else c :: acc) []

/-- The character set of that name; in a further name a point may stand for an underscore. -/
def ofName? (cs : List Char) : Option Charset :=
  let plain := normalName cs
  let name := String.ofList plain
  let pointless := String.ofList (plain.map fun c => if c = '.' then '_' else c)
  match table.find? fun e => e.others.contains name || e.others.contains pointless with
  | some e => some e.charset
  | none => (table.find? (·.name = name)).map (·.charset)

/-! ## Octets to text -/

/-- Why octets cannot be read. -/
inductive Failure where
  /-- The mark of the order of octets is missing. -/
  | noMark (width : Nat)
  | refused (r : Refusal)
  /-- An octet that only a plain set could hold. -/
  | notPlain
  /-- Too many octets at the end are too few to tell. -/
  | overflow
deriving DecidableEq

/-- The character of an octet in rows of sixteen characters. -/
def look (rows : List String) (i : Nat) : Char :=
  ((rows.getD (i / 16) "").toList).getD (i % 16) replacement

/-- Text with the mark in front that a signed text has; part of the mark alone is no text. -/
def withoutMark (bs : List UInt8) : List UInt8 :=
  let mark : List UInt8 := [0xEF, 0xBB, 0xBF]
  if bs.length < 3 && bs.isPrefixOf mark then [] else if bs.take 3 == mark then bs.drop 3 else bs

/-- The text of units without gaps, or with a replacement character in each. -/
def filled (cs : List (Option Char)) : List Char := cs.map (·.getD replacement)

def decode16 (big : Bool) (bs : List UInt8) : List Char := filled (scan16 false (units16 big bs))

def decode32 (big : Bool) (bs : List UInt8) : List Char := filled (scan32 false (units32 big bs))

/-- Text in wide units whose order a mark tells. What is shorter than a unit needs none. -/
def decodeMarked (width : Nat) (mark : List UInt8) (decode : Bool → List UInt8 → List Char)
    (bs : List UInt8) : Except Failure (List Char) :=
  if bs.length < width then .ok (decode false bs)
  else if bs.take width = mark then .ok (decode true (bs.drop width))
  else if bs.take width = mark.reverse then .ok (decode false (bs.drop width))
  else .error (.noMark (8 * width))

def decode : Charset → List UInt8 → Except Failure (List Char)
  | utf8 signed, bs => .ok (decodeUtf8Lossy (if signed then withoutMark bs else bs))
  | utf16 (some big), bs => .ok (decode16 big bs)
  | utf16 none, bs => decodeMarked 2 [0xFE, 0xFF] decode16 bs
  | utf32 (some big), bs => .ok (decode32 big bs)
  | utf32 none, bs => decodeMarked 4 [0, 0, 0xFE, 0xFF] decode32 bs
  | utf7, bs => .ok (Seven.decode bs)
  | escaped raw, bs => .ok (Escaped.decode raw bs)
  | punycode, bs =>
    match Punycode.decodeLossy? bs with
    | some codes => .ok (codes.map ofCode)
    | none => .error .notPlain
  | ascii, bs => .ok (bs.map fun b => if b < 128 then Char.ofNat b.toNat else replacement)
  | latin1, bs => .ok (bs.map fun b => Char.ofNat b.toNat)
  | upper rows, bs =>
    .ok (bs.map fun b => if b < 128 then Char.ofNat b.toNat else look rows (b.toNat - 128))
  | full rows, bs => .ok (bs.map fun b => look rows b.toNat)
  | east s, bs => (s.decode bs).elim (.error .overflow) .ok
  | refused r, _ => .error (.refused r)

def Failure.message : Failure → String
  | .noMark width =>
    "UTF-" ++ String.ofList (Decimal.naturalText width) ++ " stream does not start with BOM"
  | .refused .undefined => "undefined encoding"
  | .refused .labels => "Unsupported error handling replace"
  | .overflow => "pending buffer overflow"
  | _ => ""

end SessionKeeper.Text.Charset
