import SessionKeeper.Ownership
import SessionKeeper.Template

/-!
# Choosing a template

* `Template.matchesTag`, `Template.isHouse` : a tag occurs in a text of the template; the house word
  occurs in its name.
* `Template.choose` : the first template of the first tag that matches any, else the first of the
  house, else the first.
-/

namespace SessionKeeper.Template

open Text Ownership

/-- Whether the tag occurs in the name, the display name or the description, in any letter case. -/
def matchesTag (t : Template) (tag : String) : Bool :=
  [t.name, t.displayName, t.description].any fun s =>
    occursIn (lowerChars tag.toList) (lowerChars s.toList)

/-- Whether the house word, which is not empty, occurs in the name, in any letter case. -/
def isHouse (word : String) (t : Template) : Bool :=
  !(lowerChars word.toList).isEmpty && occursIn (lowerChars word.toList) (lowerChars t.name.toList)

/-- The first template of the first tag that matches any. -/
def byTags (ts : List Template) (tags : List String) : Option Template :=
  tags.findSome? fun tag => if tag.isEmpty then none else ts.find? (·.matchesTag tag)

def choose (ts : List Template) (tags : List String) (word : String) : Option Template :=
  (byTags ts tags).or ((ts.find? (isHouse word)).or ts.head?)

end SessionKeeper.Template
