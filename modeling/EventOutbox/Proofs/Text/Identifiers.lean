import EventOutbox.Proofs.Text.Digits
import EventOutbox.Uuid

/-!
# Identifiers that are read back

The text of an identifier is read back as the identifier: the hyphens that writing puts between the
groups of digits are those that reading takes out.

## Main statement

- `Uuid.ofText_text`
-/

namespace EventOutbox.Uuid

open EventOutbox.Text

/-- Hyphens between groups are found where they were put, when the sizes of the groups add up. -/
theorem unhyphenate?_hyphenate {sizes : List Nat} {cs : List Char} (h : cs.length = sizes.sum) :
    unhyphenate? sizes (hyphenate sizes cs) = some cs := by
  induction sizes generalizing cs with
  | nil =>
    rw [List.sum_nil, List.length_eq_zero_iff] at h
    subst h
    rfl
  | cons n sizes ih =>
    rw [List.sum_cons] at h
    cases sizes with
    | nil =>
      rw [List.sum_nil, Nat.add_zero] at h
      have hall : cs.take n = cs := List.take_of_length_le (Nat.le_of_eq h)
      rw [hyphenate, hall, unhyphenate?, if_pos h]
    | cons m sizes =>
      -- the first group is taken off, and its hyphen stands behind it
      have hfirst : (cs.take n).length = n := List.length_take_of_le (by omega)
      have hrest : (cs.drop n).length = (m :: sizes).sum := by
        rw [List.length_drop]
        omega
      rw [hyphenate, unhyphenate?, List.drop_left' hfirst, List.take_left' hfirst]
      simp only [ih hrest, Option.map_some, List.take_append_drop]

theorem mapM_hexValue? (ds : List (Fin 16)) : (ds.map hexChar).mapM hexValue? = some ds := by
  induction ds with
  | nil => rfl
  | cons d ds ih =>
    rw [List.map_cons, List.mapM_cons, hexValue?_hexChar, ih]
    rfl

/-- The digits of an identifier, one after the other, are read as the identifier. -/
theorem ofHex?_digits (u : Uuid) : ofHex? (u.digits.map hexChar) = some u := by
  rw [ofHex?, mapM_hexValue?]
  exact dif_pos u.length_digits

/-- The hyphens that are written are those that reading takes out. -/
theorem ofChars?_chars (u : Uuid) : ofChars? u.chars = some u := by
  have hlength : (u.digits.map hexChar).length = groupSizes.sum := by
    rw [List.length_map, u.length_digits]
    rfl
  rw [ofChars?, ofHyphenated?, chars, unhyphenate?_hyphenate hlength, Option.bind_some,
    ofHex?_digits, Option.some_or]

/-- The text of an identifier is read back. -/
theorem ofText_text (u : Uuid) : ofText u.text = .ok u := by
  rw [ofText, text, String.toList_ofList, ofChars?_chars]

end EventOutbox.Uuid
