namespace AccessControl.Text

-- The parts between the characters that satisfy the test: one more than there are of those.
def splitAt (separates : Char → Bool) : List Char → List (List Char)
  | [] => [[]]
  | c :: cs =>
    if separates c then [] :: splitAt separates cs
    else
      match splitAt separates cs with
      | part :: parts => (c :: part) :: parts
      | [] => [[c]]

theorem splitAt_ne_nil {separates : Char → Bool} {cs : List Char} : splitAt separates cs ≠ [] := by
  cases cs with
  | nil => simp [splitAt]
  | cons c cs =>
    unfold splitAt
    split
    · simp
    · split <;> simp

end AccessControl.Text
