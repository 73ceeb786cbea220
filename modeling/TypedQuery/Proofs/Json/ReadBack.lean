import TypedQuery.Json.Draft
import TypedQuery.Json.Printer
import TypedQuery.Json.Utf8
import TypedQuery.Proofs.Query.Literal

/-!
# Texts that are read back

What is written for a text between quotes is read as one token that holds the text, whatever its
characters are (`tokensFrom_quote`), and the bytes of a text in UTF-8 are decoded to its characters
(`ofBytes_utf8`). So an object with one text is read back from the bytes that are sent for it
(`parse_member`).
-/

namespace TypedQuery.Json

/-! ## Characters from bytes -/

/-- The bytes of a text in UTF-8. -/
def utf8 (s : String) : List UInt8 := s.toList.flatMap String.utf8EncodeChar

/-- Bytes are decoded one by one, each in the state that the ones before it have left. -/
theorem utf8From_cons {state : Utf8State} {n : Nat} (byte : n < 256) (rest : List UInt8) :
    utf8From state (UInt8.ofNat n :: rest) =
      (utf8Step state n).1 ++ utf8From (utf8Step state n).2 rest := by
  rw [utf8From, UInt8.toNat_ofNat_of_lt' byte]

/-- The last byte of a character completes it. -/
theorem utf8Step_last {low high value read byte : Nat} (hlow : low ≤ byte) (hhigh : byte ≤ high) :
    utf8Step (.inside 1 low high value read) byte =
      ([some (Char.ofNat (value * 64 + (byte - 0x80)))], .between) := by
  rw [utf8Step, if_pos ⟨hlow, hhigh⟩]
  rfl

/-- A byte before the last goes on with the character. -/
theorem utf8Step_inside {missing low high value read byte : Nat} (more : 1 < missing)
    (hlow : low ≤ byte) (hhigh : byte ≤ high) :
    utf8Step (.inside missing low high value read) byte =
      ([], .inside (missing - 1) 0x80 0xBF (value * 64 + (byte - 0x80)) (read + 1)) := by
  rw [utf8Step, if_pos ⟨hlow, hhigh⟩]
  exact if_neg (by omega)

/-- The first of three bytes leaves room for the second one, since the code is no surrogate and has
no shorter form. -/
theorem utf8Lead_three {n : Nat} (least : 0x800 ≤ n) (greatest : n < 0x10000)
    (noSurrogate : n < 0xD800 ∨ 0xDFFF < n) :
    ∃ low high, utf8Lead (n / 4096 + 0xE0) = ([], .inside 2 low high (n / 4096) 1) ∧
      low ≤ n / 64 % 64 + 0x80 ∧ n / 64 % 64 + 0x80 ≤ high := by
  rw [utf8Lead, if_neg (by omega), if_neg (by omega)]
  split_ifs with h0 hD h1
  · exact ⟨0xA0, 0xBF, by rw [show n / 4096 = 0 by omega], by omega⟩
  · exact ⟨0x80, 0x9F, by rw [show n / 4096 = 0xD by omega], by omega⟩
  · exact ⟨0x80, 0xBF, by rw [Nat.add_sub_cancel], by omega⟩
  all_goals omega

/-- The first of four bytes leaves room for the second one, since the code is none of fewer bytes
and within the range of codes. -/
theorem utf8Lead_four {n : Nat} (least : 0x10000 ≤ n) (greatest : n < 0x110000) :
    ∃ low high, utf8Lead (n / 262144 + 0xF0) = ([], .inside 3 low high (n / 262144) 1) ∧
      low ≤ n / 4096 % 64 + 0x80 ∧ n / 4096 % 64 + 0x80 ≤ high := by
  rw [utf8Lead, if_neg (by omega), if_neg (by omega), if_neg (by omega), if_neg (by omega),
    if_neg (by omega)]
  split_ifs with h0 h1 h4
  · exact ⟨0x90, 0xBF, by rw [show n / 262144 = 0 by omega], by omega⟩
  · exact ⟨0x80, 0xBF, by rw [Nat.add_sub_cancel], by omega⟩
  · exact ⟨0x80, 0x8F, by rw [show n / 262144 = 4 by omega], by omega⟩
  · omega

/-- The bytes of a character are decoded to it. -/
theorem utf8From_encodeChar (c : Char) (rest : List UInt8) :
    utf8From .between (String.utf8EncodeChar c ++ rest) = some c :: utf8From .between rest := by
  have hvalid : c.val.toNat < 0xD800 ∨ 0xDFFF < c.val.toNat ∧ c.val.toNat < 0x110000 := c.valid
  have hc : ∀ n, n = c.val.toNat → Char.ofNat n = c := by
    rintro _ rfl
    exact Char.ofNat_toNat c
  rw [String.utf8EncodeChar]
  generalize c.val.toNat = n at *
  -- One case for each length of a character, from one byte to four.
  split_ifs with h1 h2 h3
  · rw [List.singleton_append, utf8From_cons (by omega), utf8Step, utf8Lead, if_pos (by omega),
      hc n rfl]
    rfl
  · have hlead : utf8Lead (n / 64 % 32 + 0xC0) = ([], .inside 1 0x80 0xBF (n / 64) 1) := by
      rw [utf8Lead, if_neg (by omega), if_pos (by omega),
        show n / 64 % 32 + 0xC0 - 0xC0 = n / 64 by omega]
    simp only [List.cons_append, List.nil_append]
    rw [utf8From_cons (by omega), utf8Step, hlead, List.nil_append, utf8From_cons (by omega),
      utf8Step_last (by omega) (by omega), hc _ (by omega)]
    rfl
  -- From three bytes on, the first byte narrows the range of the second one.
  · obtain ⟨low, high, hlead, hlow, hhigh⟩ :=
      utf8Lead_three (n := n) (by omega) (by omega) (by omega)
    simp only [List.cons_append, List.nil_append]
    rw [utf8From_cons (by omega), utf8Step, Nat.mod_eq_of_lt (by omega), hlead, List.nil_append,
      utf8From_cons (by omega), utf8Step_inside (by decide) hlow hhigh, List.nil_append,
      utf8From_cons (by omega), utf8Step_last (by omega) (by omega), hc _ (by omega)]
    rfl
  · obtain ⟨low, high, hlead, hlow, hhigh⟩ := utf8Lead_four (n := n) (by omega) (by omega)
    simp only [List.cons_append, List.nil_append]
    rw [utf8From_cons (by omega), utf8Step, Nat.mod_eq_of_lt (by omega), hlead, List.nil_append,
      utf8From_cons (by omega), utf8Step_inside (by decide) hlow hhigh, List.nil_append,
      utf8From_cons (by omega), utf8Step_inside (by decide) (by omega) (by omega),
      List.nil_append, utf8From_cons (by omega), utf8Step_last (by omega) (by omega),
      hc _ (by omega)]
    rfl

/-- The bytes of a text are decoded to its characters. -/
theorem ofBytes_utf8 (s : String) : Source.ofBytes (utf8 s) = Source.ofString s := by
  rw [Source.ofBytes, utf8, Source.ofString]
  induction s.toList with
  | nil => rfl
  | cons c cs ih => rw [List.flatMap_cons, utf8From_encodeChar, ih, List.map_cons]

/-! ## Texts between quotes -/

theorem simpleEscape?_eq (c : Char) : simpleEscape? c = Query.escape? c := rfl

/-- Characters that can be looked at are four bytes at least if they are four. -/
theorem hasFourBytes_cons (a b c d : Char) (rest : Source) :
    hasFourBytes (some a :: some b :: some c :: some d :: rest) = true := by
  have := a.utf8Size_pos
  have := b.utf8Size_pos
  have := c.utf8Size_pos
  have := d.utf8Size_pos
  simp only [hasFourBytes, List.take, List.map, List.foldl, glyphSize, decide_eq_true_eq]
  omega

/-- The code of a character is no half of a surrogate pair. -/
theorem escapeStep_of_valid {code : Nat} (valid : code.isValidChar) (read : List Char)
    (stray : Bool) :
    escapeStep none code read stray = .more .plain (Char.ofNat code :: read) stray := by
  have hvalid : code < 0xD800 ∨ 0xDFFF < code ∧ code < 0x110000 := valid
  have hlow : ¬ (0xDC00 ≤ code ∧ code ≤ 0xDFFF) := by omega
  have hhigh : ¬ (0xD800 ≤ code ∧ code ≤ 0xDBFF) := by omega
  simp [escapeStep, hlow, hhigh]

/-- However a character is written, it is read as one more character of the text. -/
theorem tokensFrom_of_writes {c : Char} {written : List Char} (h : Query.Writes c written)
    {read : List Char} {rest : Source} :
    tokensFrom (.string .plain read false) (written.map some ++ rest) =
      tokensFrom (.string .plain (c :: read) false) rest := by
  -- A character is written as itself, by a letter behind a backslash, or by its code.
  cases h with
  | plain noQuote noBackslash printed =>
    have hprinted : ¬ c.toNat < 0x20 := by omega
    simp [tokensFrom, readStep, stringStep, noQuote, noBackslash, hprinted]
  | @short letter h =>
    rw [← simpleEscape?_eq] at h
    simp [tokensFrom, readStep, stringStep, h]
  | @long first second hfirst hsecond h =>
    obtain ⟨a, ha⟩ := Option.isSome_iff_exists.mp hfirst
    obtain ⟨b, hb⟩ := Option.isSome_iff_exists.mp hsecond
    have hzero : hexDigit? '0' = some 0 := rfl
    simp only [Query.coded?, hzero, ha, hb, Option.bind_eq_bind, Option.bind_some] at h
    split at h
    -- The two digits are a code that is a character of its own, so no second half is awaited.
    · rename_i hvalid
      have hstep := escapeStep_of_valid hvalid read false
      rw [Option.some.inj h] at hstep
      simp only [Nat.zero_mul, Nat.zero_add] at hstep
      simp [tokensFrom, readStep, stringStep, simpleEscape?, hasFourBytes_cons, hzero, ha, hb,
        hstep]
    · cases h

/-- Characters that are written one after the other are read into the text between quotes. -/
theorem tokensFrom_escaped (cs : List Char) {read : List Char} {rest : Source} :
    tokensFrom (.string .plain read false) ((cs.flatMap escapedChar).map some ++ rest) =
      tokensFrom (.string .plain (cs.reverse ++ read) false) rest := by
  induction cs generalizing read with
  | nil => rfl
  | cons c cs ih =>
    rw [List.flatMap_cons, List.map_append, List.append_assoc,
      tokensFrom_of_writes (Query.writes_escapedChar c), ih, List.reverse_cons, List.append_assoc]
    rfl

/-- What is written for a text between quotes is one token, which holds the text. -/
theorem tokensFrom_quote (s : String) (rest : Source) :
    tokensFrom .between ((quote s).map some ++ rest) =
      .string s :: tokensFrom .between rest := by
  have hopen : ∀ rest : Source, tokensFrom .between (some '"' :: rest) =
      tokensFrom (.string .plain [] false) rest := fun _ => rfl
  have hclose : ∀ rest : Source, tokensFrom (.string .plain s.toList.reverse false)
      (some '"' :: rest) = .string s :: tokensFrom .between rest := by
    intro rest
    have htoken : stringToken s.toList.reverse false = .string s := by simp [stringToken]
    simp [tokensFrom, readStep, stringStep, htoken]
  rw [quote, List.cons_append, List.map_cons, List.cons_append, hopen, List.map_append,
    List.append_assoc, tokensFrom_escaped, List.append_nil]
  exact hclose rest

/-- An object with one text is read back from its text. -/
theorem parse_member (key value : String) :
    parse (some documentDepth) (Source.ofString (object [(key, .string value)]).text) =
      .ok (object [(key, .string value)]) := by
  have htokens : tokens (Source.ofString (object [(key, .string value)]).text) =
      [.openObject, .string key, .colon, .string value, .closeObject] := by
    have htext : Source.ofString (object [(key, .string value)]).text =
        some '\x7b' :: ((quote key).map some ++
          (some ':' :: ((quote value).map some ++ [some '\x7d']))) := by
      simp [Source.ofString, text, compact, compactMembers]
    rw [htext]
    show .openObject :: tokensFrom .between _ = _
    rw [tokensFrom_quote]
    show _ :: _ :: .colon :: tokensFrom .between _ = _
    rw [tokensFrom_quote]
    rfl
  rw [parse, draftOf, htokens]
  rfl

end TypedQuery.Json
