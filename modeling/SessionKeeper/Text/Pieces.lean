/-!
# Pieces of a text

* `splitBy` : the pieces between the characters of a class.
-/

namespace SessionKeeper.Text

/-- The pieces of a text between the characters of a class. -/
def splitBy (p : Char → Bool) : List Char → List (List Char)
  | [] => [[]]
  | c :: rest =>
    match p c, splitBy p rest with
    | true, pieces => [] :: pieces
    | false, piece :: pieces => (c :: piece) :: pieces
    | false, [] => [[c]]

end SessionKeeper.Text
