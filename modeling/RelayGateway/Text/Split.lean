/-! # Cutting text into pieces

A text is cut at every character of some kind; what lies between two cuts may be empty.
-/
namespace RelayGateway.Text

/-- The pieces between the characters that satisfy `p`; one more than there are such characters. -/
def split (p : Char → Bool) (cs : List Char) : List (List Char) :=
  cs.foldr (fun c parts => if p c then [] :: parts else
    match parts with
    | part :: rest => (c :: part) :: rest
    | [] => [[c]]) [[]]

def words (p : Char → Bool) (cs : List Char) : List (List Char) := (split p cs).filter (· ≠ [])

end RelayGateway.Text
