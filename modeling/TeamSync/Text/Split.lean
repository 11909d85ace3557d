/-!
Cutting a text into the parts between separators.
-/

namespace TeamSync.Text

/-- The parts of a text between the characters of a kind; there is always one part. -/
def splitAt (p : Char → Bool) : List Char → List (List Char)
  | [] => [[]]
  | c :: cs =>
    match splitAt p cs with
    | [] => [[c]]
    | s :: ss => if p c then [] :: s :: ss else (c :: s) :: ss

end TeamSync.Text
