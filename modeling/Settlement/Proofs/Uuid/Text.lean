import Settlement.Uuid

/-!
The written form of an identifier is read as that identifier, so different identifiers are
written differently.
-/

namespace Settlement.Uuid

theorem digit?_digitText (digit : Fin 16) : digit? (digitText digit) = some digit := by
  revert digit
  decide

theorem ofHex?_digits (id : Uuid) : ofHex? (id.digits.map digitText) = some id := by
  have read : ∀ digits : List (Fin 16), (digits.map digitText).mapM digit? = some digits := by
    intro digits
    induction digits with
    | nil => rfl
    | cons digit rest ih => simp [digit?_digitText, ih]
  simp [ofHex?, read, ofDigits?, id.length_eq]

theorem ofHyphenated?_groups {a b c d e : List Char} (first : a.length = 8)
    (second : b.length = 4) (third : c.length = 4) (fourth : d.length = 4) :
    ofHyphenated? (a ++ '-' :: b ++ '-' :: c ++ '-' :: d ++ '-' :: e) =
      ofHex? (a ++ b ++ c ++ d ++ e) := by
  have marked : ([8, 13, 18, 23].all fun position =>
      (a ++ '-' :: b ++ '-' :: c ++ '-' :: d ++ '-' :: e)[position]? = some '-') = true := by
    simp [List.getElem?_append, first, second, third, fourth]
  rw [ofHyphenated?, if_pos marked]
  simp (disch := omega) [List.drop_append, List.drop_of_length_le, first, second, third, fourth]

theorem groups (characters : List Char) :
    characters.take 8 ++ (characters.drop 8).take 4 ++ (characters.drop 12).take 4 ++
      (characters.drop 16).take 4 ++ characters.drop 20 = characters := by
  have rest : ∀ start, (characters.drop start).take 4 ++ characters.drop (start + 4) =
      characters.drop start := by
    intro start
    rw [← List.drop_drop, List.take_append_drop]
  rw [List.append_assoc _ _ (characters.drop 20), rest 16, List.append_assoc, rest 12,
    List.append_assoc, rest 8, List.take_append_drop]

theorem ofText?_text (id : Uuid) : ofText? id.text = some id := by
  have length : id.text.toList.length = 36 := by simp [text, id.length_eq]
  rw [ofText?, if_neg (by omega), if_pos length, text, String.toList_ofList,
    ofHyphenated?_groups, groups, ofHex?_digits]
  all_goals simp [id.length_eq]

theorem text_injective {first second : Uuid} (same : first.text = second.text) :
    first = second := by
  have read := ofText?_text first
  rw [same, ofText?_text second] at read
  exact (Option.some.inj read).symm

end Settlement.Uuid
