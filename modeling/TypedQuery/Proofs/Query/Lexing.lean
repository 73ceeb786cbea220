import Mathlib.Data.List.Chain
import TypedQuery.Proofs.Query.Literal
import TypedQuery.Proofs.Query.Tokens

/-!
# Reading the tokens of a text

A text is taken apart into tokens from the left: a word goes on as long as there are letters, digits
and underscores, a literal up to its closing quote, and anything else is a mark. No text can be
taken apart in two ways (`Lexes.unique`).

The text of a tree is taken apart into the tokens it was written from (`WireDocument.lexes`), as two
words, or a word and a literal, never stand side by side (`WireDocument.spaced`).
-/

namespace TypedQuery.Query

/-! ## Neighbours -/

/-- Of two neighbours one is a mark. -/
def Spaced (tokens : List Token) : Prop := tokens.IsChain fun a b => a.IsMark ∨ b.IsMark

@[simp] theorem spaced_nil : Spaced [] := .nil

@[simp] theorem spaced_mark {sign : Mark} {rest : List Token} :
    Spaced (.mark sign :: rest) ↔ Spaced rest := by
  cases rest with
  | nil => exact iff_of_true (.singleton _) .nil
  | cons token rest => simp [Spaced, Token.IsMark]

@[simp] theorem spaced_cons_mark {token : Token} {sign : Mark} {rest : List Token} :
    Spaced (token :: .mark sign :: rest) ↔ Spaced rest := by
  rw [Spaced, List.isChain_cons_cons, ← Spaced, spaced_mark]
  exact and_iff_right (.inr trivial)

/-- Arguments behind the first keep their words apart from each other, and from what follows. -/
theorem spaced_moreArgumentTokens (arguments : List (String × String)) {rest : List Token}
    (h : Spaced rest) : Spaced (moreArgumentTokens arguments ++ rest) := by
  induction arguments with
  | nil => simpa [moreArgumentTokens] using h
  | cons argument others ih =>
    -- A literal is followed by a comma or by what closes the arguments.
    cases others <;> simpa [moreArgumentTokens] using ih

/-- Arguments keep their words apart from each other, and from what follows. -/
theorem spaced_argumentTokens (arguments : List (String × String)) {rest : List Token}
    (h : Spaced rest) : Spaced (argumentTokens arguments ++ rest) := by
  cases arguments with
  | nil => simpa [argumentTokens] using h
  | cons argument others =>
    have hmore := spaced_moreArgumentTokens (argument :: others) h
    simpa [argumentTokens, moreArgumentTokens] using hmore

/-- The words of a head are kept apart, if a mark follows it. -/
theorem WireHead.spaced (head : WireHead) {sign : Mark} {rest : List Token} (h : Spaced rest) :
    Spaced (head.tokens ++ .mark sign :: rest) := by
  cases head with
  | name key => simpa [WireHead.tokens] using h
  | call key arguments =>
    have hmark : Spaced (.mark sign :: rest) := spaced_mark.mpr h
    simpa [WireHead.tokens] using spaced_argumentTokens arguments hmark
  | on typename => simpa [WireHead.tokens] using h

/-- A comma for a missing item keeps apart what is apart without it. -/
theorem spaced_leadingTokens (items : List WireItem) {rest : List Token} (h : Spaced rest) :
    Spaced (leadingTokens items ++ rest) := by
  cases items <;> simpa [leadingTokens] using h

mutual

/-- The words of an item are kept apart, if a mark follows it. -/
theorem WireItem.spaced {sign : Mark} {rest : List Token} (h : Spaced rest) :
    ∀ item : WireItem, Spaced (item.tokens ++ .mark sign :: rest)
  | .name key => by simpa [WireItem.tokens] using h
  | .spread fragment => by simpa [WireItem.tokens] using h
  | .selection inner => WireSelection.spaced (spaced_mark.mpr h) inner

/-- The words of a selection are kept apart, whatever follows its closing brace. -/
theorem WireSelection.spaced {rest : List Token} (h : Spaced rest) :
    ∀ selection : WireSelection, Spaced (selection.tokens ++ rest)
  | ⟨head, items⟩ => by
    rw [WireSelection.tokens, List.append_assoc, List.cons_append, List.append_assoc]
    exact head.spaced (spaced_leadingTokens items (spaced_wireTokens h items))

/-- The words of a list of items are kept apart, the discriminator at its end included. -/
theorem spaced_wireTokens {rest : List Token} (h : Spaced rest) :
    ∀ items : List WireItem, Spaced (wireTokens items ++ rest)
  | [] => by simpa [wireTokens] using h
  | item :: others => by
    rw [wireTokens, List.append_assoc, List.cons_append]
    exact WireItem.spaced (spaced_wireTokens h others) item

end

/-- The words of a fragment definition are kept apart. -/
theorem WireFragment.spaced (fragment : WireFragment) {rest : List Token} (h : Spaced rest) :
    Spaced (fragment.tokens ++ rest) := by
  simpa [WireFragment.tokens] using
    spaced_leadingTokens fragment.items (spaced_wireTokens h fragment.items)

/-- If parts keep their words apart whatever follows them, so does a row of parts. -/
theorem spaced_flatMap {α : Type} {tokens : α → List Token}
    (spaced : ∀ part {rest}, Spaced rest → Spaced (tokens part ++ rest)) (parts : List α)
    {rest : List Token} (h : Spaced rest) : Spaced (parts.flatMap tokens ++ rest) := by
  induction parts with
  | nil => exact h
  | cons part others ih =>
    rw [List.flatMap_cons, List.append_assoc]
    exact spaced part ih

/-- No two words, nor a word and a literal, stand side by side in a text. -/
theorem WireDocument.spaced (document : WireDocument) : Spaced document.tokens := by
  have hfragments := spaced_flatMap WireFragment.spaced document.fragments spaced_nil
  rw [List.append_nil] at hfragments
  rw [WireDocument.tokens, spaced_cons_mark]
  exact spaced_flatMap (fun selection _ h => selection.spaced h) document.selections
    (spaced_mark.mpr hfragments)

/-! ## Taking a text apart -/

/-- Whether a character may stand in a word. -/
def isWordChar (c : Char) : Bool := c.isAlphanum || c == '_'

/-- Whether a text is a word: letters, digits and underscores, at least one of them. -/
def IsWord (name : String) : Prop := name ≠ "" ∧ ∀ c ∈ name.toList, isWordChar c = true

instance (name : String) : Decidable (IsWord name) :=
  decidable_of_iff (name ≠ "" ∧ name.toList.all isWordChar = true)
    (by rw [IsWord, List.all_eq_true])

/-- A text as a row of tokens. A word ends only where it cannot go on, and three quotes in a row,
which open a block of text, are no literal. -/
inductive Lexes : List Char → List Token → Prop
  | nil : Lexes [] []
  | word {name : String} {rest : List Char} {tokens : List Token} (isWord : IsWord name)
      (ends : ∀ c ∈ rest.head?, isWordChar c = false) (lexes : Lexes rest tokens) :
      Lexes (name.toList ++ rest) (.word name :: tokens)
  | mark {sign : Mark} {rest : List Char} {tokens : List Token} (lexes : Lexes rest tokens) :
      Lexes (sign.text.toList ++ rest) (.mark sign :: tokens)
  | literal {source value rest : List Char} {tokens : List Token}
      (read : readLiteral source = some (value, rest)) (single : ¬ ['"', '"'] <+: source)
      (lexes : Lexes rest tokens) :
      Lexes ('"' :: source) (.literal (String.ofList value) :: tokens)

/-! ## One way only -/

/-- A word has a first character, which may stand in a word. -/
theorem IsWord.exists_cons {name : String} (isWord : IsWord name) :
    ∃ c rest, name.toList = c :: rest ∧ isWordChar c = true := by
  cases h : name.toList with
  | nil => exact absurd (String.toList_eq_nil_iff.mp h) isWord.1
  | cons c rest => exact ⟨c, rest, rfl, isWord.2 c (h ▸ List.mem_cons_self)⟩

/-- A word can be read off from the left as far as its characters go, if what follows ends it. -/
theorem takeWhile_append_of_ends {name : String} (isWord : IsWord name) {rest : List Char}
    (ends : ∀ c ∈ rest.head?, isWordChar c = false) :
    (name.toList ++ rest).takeWhile isWordChar = name.toList := by
  rw [List.takeWhile_append_of_pos isWord.2]
  cases rest with
  | nil => simp
  | cons c rest => simp [ends c rfl]

/-- A word is as long as it can be. -/
theorem IsWord.append_inj {name other : String} {rest otherRest : List Char}
    (isWord : IsWord name) (ends : ∀ c ∈ rest.head?, isWordChar c = false)
    (isOther : IsWord other) (otherEnds : ∀ c ∈ otherRest.head?, isWordChar c = false)
    (h : name.toList ++ rest = other.toList ++ otherRest) : name = other ∧ rest = otherRest := by
  have htake := congrArg (List.takeWhile isWordChar) h
  rw [takeWhile_append_of_ends isWord ends, takeWhile_append_of_ends isOther otherEnds] at htake
  obtain rfl := String.toList_inj.mp htake
  exact ⟨rfl, List.append_cancel_left h⟩

/-- A mark begins with a character that begins neither a word nor a literal. -/
theorem Mark.exists_cons (sign : Mark) :
    ∃ c rest, sign.text.toList = c :: rest ∧ isWordChar c = false ∧ c ≠ '"' := by
  cases sign <;> exact ⟨_, _, rfl, by decide, by decide⟩

/-- A mark is told from any other mark by what it begins with. -/
theorem Mark.append_inj {sign other : Mark} {rest otherRest : List Char}
    (h : sign.text.toList ++ rest = other.text.toList ++ otherRest) :
    sign = other ∧ rest = otherRest := by
  cases sign <;> cases other <;> simp_all [Mark.text]

/-- What a token begins with tells which kind it is of. -/
theorem IsWord.append_ne_mark {name : String} (isWord : IsWord name) {sign : Mark}
    {rest otherRest : List Char} : name.toList ++ rest ≠ sign.text.toList ++ otherRest := by
  obtain ⟨c, tail, hname, hword⟩ := isWord.exists_cons
  obtain ⟨d, otherTail, hsign, hnoWord, -⟩ := sign.exists_cons
  rw [hname, hsign]
  rintro h
  obtain rfl : c = d := (List.cons.inj h).1
  rw [hword] at hnoWord
  cases hnoWord

/-- No word begins with a quote. -/
theorem IsWord.append_ne_quote {name : String} (isWord : IsWord name) {rest source : List Char} :
    name.toList ++ rest ≠ '"' :: source := by
  obtain ⟨c, tail, hname, hword⟩ := isWord.exists_cons
  rw [hname]
  rintro h
  obtain rfl : c = '"' := (List.cons.inj h).1
  cases hword

/-- No mark begins with a quote. -/
theorem Mark.append_ne_quote {sign : Mark} {rest source : List Char} :
    sign.text.toList ++ rest ≠ '"' :: source := by
  obtain ⟨c, tail, hsign, -, hquote⟩ := sign.exists_cons
  rw [hsign]
  exact fun h => hquote (List.cons.inj h).1

/-- A text is one row of tokens at most. -/
theorem Lexes.unique {source : List Char} {tokens others : List Token}
    (lexes : Lexes source tokens) (otherLexes : Lexes source others) : tokens = others := by
  -- Along the one row, the other begins with the same token, and both go on with the same text.
  induction lexes generalizing others with
  | nil =>
    generalize hsource : ([] : List Char) = source at otherLexes
    cases otherLexes with
    | nil => rfl
    | word isWord _ _ =>
      obtain ⟨c, tail, hname, -⟩ := isWord.exists_cons
      simp [hname] at hsource
    | @mark sign _ _ _ =>
      obtain ⟨c, tail, hsign, -⟩ := sign.exists_cons
      simp [hsign] at hsource
    | literal _ _ _ => cases hsource
  | @word name rest tokens isWord ends _ ih =>
    generalize hsource : name.toList ++ rest = source at otherLexes
    cases otherLexes with
    | nil =>
      obtain ⟨c, tail, hname, -⟩ := isWord.exists_cons
      simp [hname] at hsource
    | word isOther otherEnds otherLexes =>
      obtain ⟨rfl, rfl⟩ := isWord.append_inj ends isOther otherEnds hsource
      rw [ih otherLexes]
    | mark _ => exact absurd hsource isWord.append_ne_mark
    | literal _ _ _ => exact absurd hsource isWord.append_ne_quote
  | @mark sign rest tokens _ ih =>
    generalize hsource : sign.text.toList ++ rest = source at otherLexes
    cases otherLexes with
    | nil =>
      obtain ⟨c, tail, hsign, -⟩ := sign.exists_cons
      simp [hsign] at hsource
    | word isOther _ _ => exact absurd hsource.symm isOther.append_ne_mark
    | mark otherLexes =>
      obtain ⟨rfl, rfl⟩ := Mark.append_inj hsource
      rw [ih otherLexes]
    | literal _ _ _ => exact absurd hsource Mark.append_ne_quote
  | @literal source value rest tokens read _ _ ih =>
    generalize hsource : '"' :: source = text at otherLexes
    cases otherLexes with
    | nil => cases hsource
    | word isOther _ _ => exact absurd hsource.symm isOther.append_ne_quote
    | mark _ => exact absurd hsource.symm Mark.append_ne_quote
    | literal otherRead _ otherLexes =>
      obtain rfl : source = _ := (List.cons.inj hsource).2
      rw [read, Option.some.injEq, Prod.mk.injEq] at otherRead
      obtain ⟨rfl, rfl⟩ := otherRead
      rw [ih otherLexes]

/-! ## The tokens of a text that is written -/

/-- What follows a word or a literal is nothing, or begins with a mark. -/
theorem Spaced.ends {token : Token} {rest : List Token} (spaced : Spaced (token :: rest))
    (noMark : ¬ token.IsMark) {c : Char} (h : c ∈ (tokensText rest).toList.head?) :
    isWordChar c = false ∧ c ≠ '"' := by
  cases rest with
  | nil => cases h
  | cons next rest =>
    cases next with
    | mark sign =>
      obtain ⟨first, tail, hsign, hfirst⟩ := sign.exists_cons
      rw [tokensText_cons, String.toList_append, Token.text, hsign] at h
      obtain rfl : first = c := by simpa using h
      exact hfirst
    | word name => exact False.elim ((List.isChain_cons_cons.mp spaced).1.resolve_left noMark)
    | literal value => exact False.elim ((List.isChain_cons_cons.mp spaced).1.resolve_left noMark)

/-- A literal does not open with three quotes, unless one follows it. -/
theorem not_isPrefix_literalBody {value : String} {rest : List Char}
    (ends : ∀ c ∈ rest.head?, c ≠ '"') : ¬ ['"', '"'] <+: literalBody value ++ '"' :: rest := by
  rw [literalBody]
  cases value.toList with
  | nil =>
    rintro ⟨tail, h⟩
    cases rest with
    | nil => cases h
    | cons c rest =>
      obtain ⟨rfl, -⟩ : c = '"' ∧ rest = tail := by simpa using h.symm
      exact ends _ rfl rfl
  -- The first quote in a value is written behind a backslash.
  | cons c value =>
    rintro ⟨tail, h⟩
    rw [List.flatMap_cons, List.append_assoc] at h
    have hwrites := writes_escapedChar c
    generalize Json.escapedChar c = written at h hwrites
    cases hwrites with
    | plain noQuote _ _ => exact noQuote (List.cons.inj h).1.symm
    | short _ => cases h
    | long _ _ _ => cases h

/-- The text of a row of tokens is taken apart into these tokens. -/
theorem lexes_tokensText {tokens : List Token} (spaced : Spaced tokens)
    (words : ∀ name, .word name ∈ tokens → IsWord name) :
    Lexes (tokensText tokens).toList tokens := by
  induction tokens with
  | nil => exact .nil
  | cons token rest ih =>
    -- The induction goes from the right, since a token is known to end by what follows it.
    have lexes := ih spaced.tail fun name h => words name (List.mem_cons_of_mem _ h)
    rw [tokensText_cons, String.toList_append]
    cases token with
    | word name =>
      exact .word (words name List.mem_cons_self) (fun c h => (spaced.ends id h).1) lexes
    | mark sign => exact .mark lexes
    | literal value =>
      have h := Lexes.literal (readLiteral_escaped value _)
        (not_isPrefix_literalBody fun c h => (spaced.ends id h).2) lexes
      rw [String.ofList_toList] at h
      rw [Token.text, toList_literal, List.cons_append, List.append_assoc]
      exact h

/-- The text of a document whose names are words is taken apart into its tokens. -/
theorem WireDocument.lexes {document : WireDocument}
    (words : ∀ node ∈ document.nodes, ∀ name ∈ node.names, IsWord name) :
    Lexes (tokensText document.tokens).toList document.tokens := by
  refine lexes_tokensText document.spaced fun name h => ?_
  rcases WireDocument.emitted h with hkeyword | ⟨node, hnode, hname⟩
  · have hall : ∀ name ∈ keywords, IsWord name := by decide
    exact hall name hkeyword
  · exact words node hnode name hname

end TypedQuery.Query
