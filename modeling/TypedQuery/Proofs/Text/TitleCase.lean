import Mathlib
import TypedQuery.Text.TitleCase

/-!
# Title case of ASCII names

Of an ASCII name the title case has a character for each character: a letter in upper case if it
begins a word and in lower case if it does not, and everything else as it is (`titleCaseFrom_cons`).
Whether a letter begins a word is known from the character before it alone.

Nothing in this looks at the case of a letter, so names that are equal up to case have one title
case (`titleCaseFrom_map_toLower`). And the case is all that is lost: the lower case of the title
case is the lower case of the name (`map_toLower_titleCaseFrom`). So the title cases of two names
are equal exactly if the names are equal up to case (`titleCase_eq_iff`).
-/

namespace TypedQuery.Text

/-- Whether every character of a text is ASCII. -/
def IsAscii (s : String) : Prop := ∀ c ∈ s.toList, c.toNat < 0x80

/-- The title case of an ASCII character, after a letter or not. -/
def titled (inWord : Bool) (c : Char) : Char :=
  if c.isAlpha then if inWord then c.toLower else c.toUpper else c

/-! ## One character -/

/-- The lower case of a character is ASCII exactly if the character is. -/
theorem toNat_toLower_lt_iff {c : Char} : c.toLower.toNat < 0x80 ↔ c.toNat < 0x80 := by
  by_cases h : c.isUpper
  · have hlast : c.toNat ≤ 90 := by
      simp only [Char.isUpper, decide_eq_true_eq] at h
      exact UInt32.le_iff_toNat_le.mp h.2
    have hvalid : (c.toNat + 32).isValidChar := .inl (by omega)
    rw [Char.toLower_eq_of_isUpper h, Char.toNat_ofNat, if_pos hvalid]
    omega
  · rw [Char.toLower_eq_of_not_isUpper h]

/-- What is no letter is its own lower case. -/
theorem toLower_of_not_isAlpha {c : Char} (other : c.isAlpha = false) : c.toLower = c := by
  refine Char.toLower_eq_of_not_isUpper fun h => ?_
  simp [Char.isAlpha, h] at other

/-- A character and its lower case have one title case. -/
theorem titled_toLower (inWord : Bool) (c : Char) : titled inWord c.toLower = titled inWord c := by
  rw [titled, titled]
  cases h : c.isAlpha with
  | false => simp [h, toLower_of_not_isAlpha h]
  | true => simp [h]

/-- A character differs from its title case in case alone. -/
theorem toLower_titled (inWord : Bool) (c : Char) : (titled inWord c).toLower = c.toLower := by
  rw [titled]
  split
  · cases inWord <;> simp
  · rfl

/-- A letter is in upper case exactly if it does not stand after a letter. -/
theorem isUpper_titled_iff {inWord : Bool} {c : Char} (letter : c.isAlpha = true) :
    (titled inWord c).isUpper = true ↔ inWord = false := by
  cases inWord <;> simp [titled, letter]

/-! ## Rows of characters -/

variable {cs : List Char}

/-- An ASCII name has its title case letter by letter. -/
theorem titleCaseFrom_cons {c : Char} (ascii : c.toNat < 0x80) (inWord : Bool) (rest : List Char) :
    titleCaseFrom inWord (c :: rest) = titled inWord c :: titleCaseFrom c.isAlpha rest := by
  rw [titleCaseFrom, isAlphabetic, lowerCase, upperCase, titled, if_pos ascii, if_pos ascii,
    if_pos ascii]
  cases c.isAlpha with
  | false => rfl
  | true => cases inWord <;> rfl

/-- Hence the title case is as long as the name. -/
theorem length_titleCaseFrom (ascii : ∀ c ∈ cs, c.toNat < 0x80) (inWord : Bool) :
    (titleCaseFrom inWord cs).length = cs.length := by
  induction cs generalizing inWord with
  | nil => rfl
  | cons c rest ih =>
    rw [List.forall_mem_cons] at ascii
    rw [titleCaseFrom_cons ascii.1, List.length_cons, ih ascii.2, List.length_cons]

/-- The title case differs from the name in case alone. -/
theorem map_toLower_titleCaseFrom (ascii : ∀ c ∈ cs, c.toNat < 0x80) (inWord : Bool) :
    (titleCaseFrom inWord cs).map Char.toLower = cs.map Char.toLower := by
  induction cs generalizing inWord with
  | nil => rfl
  | cons c rest ih =>
    rw [List.forall_mem_cons] at ascii
    rw [titleCaseFrom_cons ascii.1, List.map_cons, toLower_titled, ih ascii.2, List.map_cons]

/-- The case of a name does not show in its title case. -/
theorem titleCaseFrom_map_toLower (ascii : ∀ c ∈ cs, c.toNat < 0x80) (inWord : Bool) :
    titleCaseFrom inWord (cs.map Char.toLower) = titleCaseFrom inWord cs := by
  induction cs generalizing inWord with
  | nil => rfl
  | cons c rest ih =>
    rw [List.forall_mem_cons] at ascii
    rw [List.map_cons, titleCaseFrom_cons (toNat_toLower_lt_iff.mpr ascii.1), titled_toLower,
      Char.isAlpha_toLower_eq_isAlpha, ih ascii.2, titleCaseFrom_cons ascii.1]

/-- A character stands in the title case as the character before it asks. -/
theorem getElem?_titleCaseFrom {before after : List Char} {c : Char}
    (split : cs = before ++ c :: after) (ascii : ∀ d ∈ cs, d.toNat < 0x80) (inWord : Bool) :
    (titleCaseFrom inWord cs)[before.length]? =
      some (titled ((before.getLast?.map Char.isAlpha).getD inWord) c) := by
  subst split
  induction before generalizing inWord with
  | nil =>
    have hc := ascii c List.mem_cons_self
    rw [List.nil_append, titleCaseFrom_cons hc]
    rfl
  | cons d rest ih =>
    rw [List.cons_append, List.forall_mem_cons] at ascii
    rw [List.cons_append, titleCaseFrom_cons ascii.1, List.length_cons, List.getElem?_cons_succ,
      ih _ ascii.2]
    -- The character before `c` is the last one of `d :: rest`, which is `d` if there is no other.
    cases rest with
    | nil => rfl
    | cons e rest => rw [List.getLast?_cons_cons, List.getLast?_cons]; rfl

/-! ## Names -/

/-- What the title case of a name is: as long as the name, with every character in its place. A
letter is changed in case alone, and it is in upper case exactly if no letter stands before it; all
else is kept. -/
structure TitleCaseOf (name title : List Char) : Prop where
  length : title.length = name.length
  place : ∀ before c after, name = before ++ c :: after → ∃ image,
    title[before.length]? = some image ∧ image.toLower = c.toLower ∧
      (c.isAlpha = false → image = c) ∧
      (c.isAlpha = true → (image.isUpper = true ↔ ∀ last ∈ before.getLast?, last.isAlpha = false))

/-- Of an ASCII name this is what the title case is. -/
theorem titleCaseOf_titleCase {name : String} (ascii : IsAscii name) :
    TitleCaseOf name.toList (titleCase name).toList := by
  rw [titleCase, String.toList_ofList]
  refine ⟨length_titleCaseFrom ascii false, fun before c after hname => ?_⟩
  refine ⟨_, getElem?_titleCaseFrom hname ascii false, toLower_titled _ c, fun other => ?_,
    fun letter => ?_⟩
  · rw [titled, other]
    rfl
  · rw [isUpper_titled_iff letter]
    cases before.getLast? <;> simp

/-- Names have one title case exactly if they are equal up to case. -/
theorem titleCase_eq_iff {a b : String} (ha : IsAscii a) (hb : IsAscii b) :
    titleCase a = titleCase b ↔ a.toLower = b.toLower := by
  rw [titleCase, titleCase, String.ofList_inj, ← String.toList_inj, String.toLower, String.toLower,
    String.toList_map, String.toList_map]
  constructor
  · intro h
    rw [← map_toLower_titleCaseFrom ha false, h, map_toLower_titleCaseFrom hb]
  · intro h
    rw [← titleCaseFrom_map_toLower ha, h, titleCaseFrom_map_toLower hb]

/-- The lower case of a name can be read off its title case. -/
theorem toLower_titleCase {name : String} (ascii : IsAscii name) :
    (titleCase name).toLower = name.toLower := by
  rw [← String.toList_inj, String.toLower, String.toLower, String.toList_map, String.toList_map,
    titleCase, String.toList_ofList, map_toLower_titleCaseFrom ascii]

/-- The title case of an ASCII name is ASCII as well. -/
theorem isAscii_titleCase {name : String} (ascii : IsAscii name) : IsAscii (titleCase name) := by
  intro c hc
  have hlower := congrArg String.toList (toLower_titleCase ascii)
  rw [String.toLower, String.toLower, String.toList_map, String.toList_map] at hlower
  -- The lower case of the character is that of a character of the name.
  obtain ⟨d, hd, heq⟩ := List.mem_map.mp (hlower ▸ List.mem_map_of_mem hc)
  rw [← toNat_toLower_lt_iff, ← heq, toNat_toLower_lt_iff]
  exact ascii d hd

/-- A name in title case is its own title case. -/
theorem titleCase_titleCase {name : String} (ascii : IsAscii name) :
    titleCase (titleCase name) = titleCase name :=
  (titleCase_eq_iff (isAscii_titleCase ascii) ascii).mpr (toLower_titleCase ascii)

end TypedQuery.Text
