namespace Reconcile.Text

-- The pieces between separators: always at least one, and one more than there are separators.
def split (isSeparator : Char → Bool) : List Char → List (List Char)
  | [] => [[]]
  | c :: rest =>
    if isSeparator c then [] :: split isSeparator rest
    else match split isSeparator rest with
      | [] => [[c]]
      | piece :: more => (c :: piece) :: more

theorem split_ne_nil (isSeparator : Char → Bool) (cs : List Char) : split isSeparator cs ≠ [] := by
  cases cs with
  | nil => simp [split]
  | cons c rest =>
    unfold split
    split
    · simp
    · split <;> simp

-- The text before the first separator, and the text after it if there is one.
def cut (isSeparator : Char → Bool) (cs : List Char) : List Char × Option (List Char) :=
  match cs.dropWhile (!isSeparator ·) with
  | [] => (cs, none)
  | _ :: rest => (cs.takeWhile (!isSeparator ·), some rest)

end Reconcile.Text
