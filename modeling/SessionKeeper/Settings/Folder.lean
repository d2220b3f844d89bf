import SessionKeeper.Fault
import SessionKeeper.Text.Pieces
import SessionKeeper.Text.Utf8

/-!
# Files

* `FilePath`, `FilePath.ofText` : the way to a file, as names to go through one after another.
* `FilePath.atHome` : the way as seen from the home folder.
* `Tree`, `Spot`, `Tree.step`, `Tree.walk` : files in folders, and walks through them.
* `Folder`, `Folder.contents` : the files of the folder of work, and the octets of one of them.
-/

namespace SessionKeeper

open Text

/-! ## Paths -/

/-- The way to a file, from the folder of work or from the top of all folders. -/
structure FilePath where
  isAbsolute : Bool
  parts : List String
deriving DecidableEq

namespace FilePath

/-- The way that a text names; empty parts and points count for nothing. -/
def ofText (s : String) : FilePath :=
  ⟨s.toList.head? = some '/',
    ((splitBy (· = '/') s.toList).map String.ofList).filter fun p => !p.isEmpty && p != "."⟩

def text (p : FilePath) : String :=
  let rest := "/".intercalate p.parts
  if p.isAbsolute then "/" ++ rest else if p.parts.isEmpty then "." else rest

/-- The wording for a name with the character zero, which ends names. -/
def zeroMessage : String := "embedded null byte"

/-- Whether a text can name anything: it can be written in octets and has no zero in it. A lone half of
the upper range stands for an octet by itself. -/
def checkName (s : String) : Except Fault Unit :=
  if s.toList.any fun c => (surrogate? c).any fun n => !(0xDC80 ≤ n && n < 0xDD00) then .error .unwritable
  else if s.toList.contains (Char.ofNat 0) then .error (.badValue zeroMessage none)
  else .ok ()

/-- The wording for the home of somebody unknown. -/
def homeMessage : String := "Could not determine home directory."

/-- The homes of those who are always known. -/
def knownHomes : List (String × String) := [
  ("~root", "/root"), ("~daemon", "/usr/sbin"), ("~bin", "/bin"), ("~sys", "/dev"), ("~sync", "/bin"),
  ("~games", "/usr/games"), ("~man", "/var/cache/man"), ("~lp", "/var/spool/lpd"),
  ("~mail", "/var/mail"), ("~news", "/var/spool/news"), ("~uucp", "/var/spool/uucp"),
  ("~proxy", "/bin"), ("~www-data", "/var/www"), ("~backup", "/var/backups"),
  ("~list", "/var/list"), ("~irc", "/run/ircd"), ("~_apt", "/nonexistent"),
  ("~nobody", "/nonexistent")]

/-- The path as seen from the home folder, which is the folder of work. -/
def atHome (p : FilePath) : Except Fault FilePath :=
  match p.isAbsolute, p.parts with
  | false, first :: rest =>
    if first = "~" then .ok ⟨false, rest⟩
    else if first.toList.head? = some '~' then do
      checkName first
      match Json.lookup first knownHomes with
      | some home => return ⟨true, (ofText home).parts ++ rest⟩
      | none => .error (.badState homeMessage)
    else .ok p
  | _, _ => .ok p

/-- The number of octets of a name; a lone half stands for one. -/
def octetCount (s : String) : Nat :=
  s.toList.foldl (fun n c => n + if isLoneHalf c then 1 else (encodeChar c).length) 0

/-- The greatest number of octets of a name. -/
def maxName : Nat := 255

/-- The greatest number of octets of a path. -/
def maxPath : Nat := 4095

end FilePath

/-! ## Trees -/

/-- Files in folders: what lies at the end of which names, octets for a file and nothing for a folder.
A folder is also what other names lead through. -/
structure Tree where
  /-- Whether there is nothing above the tree. -/
  isTop : Bool
  entries : List (List String × Option (List UInt8))

/-- Where a walk has got to. -/
inductive Spot where
  | folder (names : List String)
  | file (octets : List UInt8)
  /-- A folder of which nothing is known. -/
  | outside

namespace Tree

/-- What lies at the end of some names. -/
def spot? (t : Tree) (names : List String) : Option Spot :=
  match t.entries.find? (·.1 == names) with
  | some (_, some octets) => some (.file octets)
  | some (_, none) => some (.folder names)
  | none => if t.entries.any fun e => names.isPrefixOf e.1 then some (.folder names) else none

def upName : String := ".."

def step (t : Tree) (spot : Spot) (name : String) : Except Fault Spot :=
  match spot with
  | .file _ => .error .throughFile
  | .outside =>
    if name = upName then .ok .outside
    else .error (if FilePath.maxName < FilePath.octetCount name then .longName else .noFile)
  | .folder names =>
    if name = upName then .ok (if names.isEmpty && !t.isTop then .outside else .folder names.dropLast)
    else if FilePath.maxName < FilePath.octetCount name then .error .longName
    else
      match t.spot? (names ++ [name]) with
      | some s => .ok s
      | none => .error .noFile

def walk (t : Tree) (names : List String) : Except Fault Spot := names.foldlM t.step (.folder [])

/-- The folders at the top of every tree, and the file in which nothing is kept. -/
def common : Tree :=
  ⟨true, (["dev", "null"], some []) ::
    ([["bin"], ["boot"], ["dev"], ["etc"], ["home"], ["lib"], ["media"], ["mnt"], ["opt"], ["proc"],
      ["root"], ["run"], ["sbin"], ["srv"], ["sys"], ["tmp"], ["usr"], ["var"], ["usr", "sbin"],
      ["usr", "bin"], ["usr", "lib"], ["usr", "local"], ["usr", "share"], ["usr", "games"],
      ["var", "mail"], ["var", "backups"], ["var", "cache"], ["var", "lib"], ["var", "log"],
      ["var", "spool"], ["var", "tmp"]].map fun names => (names, none))⟩

end Tree

/-- The files of the folder of work, with their octets. -/
abbrev Folder := List (String × List UInt8)

namespace Folder

def tree (files : Folder) : Tree := ⟨false, files.map fun f => ((FilePath.ofText f.1).parts, some f.2)⟩

/-- The octets of the file at a place. -/
def contents (files : Folder) (p : FilePath) : Except Fault (List UInt8) := do
  FilePath.checkName p.text
  if FilePath.maxPath < FilePath.octetCount p.text then throw .longName
  match ← (if p.isAbsolute then Tree.common else files.tree).walk p.parts with
  | .file octets => return octets
  | _ => throw .folder

end Folder

end SessionKeeper
