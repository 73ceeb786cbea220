import TypedQuery.Proofs.Query.Lexing

/-!
# Texts have one reading

Trees with the same text name the same things on the wire, in the same places
(`exists_wireDocument_of_same_text`). The text determines its tokens, and the tokens determine the
erased tree, as every construct shows where it ends: an item ends before a comma, what heads a
selection before a brace, and the discriminator at the end of a list is no item, since a brace
follows it.

Each lemma takes what follows along: two rows of tokens that begin with the same construct go on in
the same way.
-/

namespace TypedQuery.Query

variable {rest otherRest : List Token}

/-! ## Heads -/

/-- Arguments behind the first end at their parenthesis, and are told from others. -/
theorem moreArgumentTokens_inj {arguments others : List (String × String)}
    (h : moreArgumentTokens arguments ++ rest = moreArgumentTokens others ++ otherRest) :
    arguments = others ∧ rest = otherRest := by
  induction arguments generalizing others with
  | nil => cases others <;> simp_all [moreArgumentTokens]
  | cons argument arguments ih =>
    cases others with
    | nil => simp [moreArgumentTokens] at h
    | cons other others =>
      simp only [moreArgumentTokens, List.cons_append, List.cons.injEq, Token.word.injEq,
        Token.literal.injEq, true_and] at h
      obtain ⟨hkey, hvalue, hmore⟩ := h
      obtain ⟨harguments, hrest⟩ := ih hmore
      exact ⟨by rw [Prod.ext hkey hvalue, harguments], hrest⟩

/-- Arguments end at their parenthesis, and are told from others. -/
theorem argumentTokens_inj {arguments others : List (String × String)}
    (h : argumentTokens arguments ++ rest = argumentTokens others ++ otherRest) :
    arguments = others ∧ rest = otherRest := by
  cases arguments with
  | nil => cases others <;> simp_all [argumentTokens]
  | cons argument arguments =>
    cases others with
    | nil => simp [argumentTokens] at h
    | cons other others =>
      have hmore : moreArgumentTokens (argument :: arguments) ++ rest =
          moreArgumentTokens (other :: others) ++ otherRest := by
        simpa [argumentTokens, moreArgumentTokens] using h
      exact moreArgumentTokens_inj hmore

/-- A head ends before a brace. -/
theorem WireHead.tokens_inj {head other : WireHead}
    (h : head.tokens ++ .mark .openBrace :: rest = other.tokens ++ .mark .openBrace :: otherRest) :
    head = other ∧ rest = otherRest := by
  cases head with
  | name key => cases other <;> simp_all [WireHead.tokens]
  | call key arguments =>
    cases other with
    | call other others =>
      simp only [WireHead.tokens, List.cons_append, List.cons.injEq, Token.word.injEq,
        true_and] at h
      obtain ⟨hkey, harguments⟩ := h
      obtain ⟨hsame, hrest⟩ := argumentTokens_inj harguments
      exact ⟨by rw [hkey, hsame], (List.cons.inj hrest).2⟩
    | _ => simp [WireHead.tokens] at h
  | on typename => cases other <;> simp_all [WireHead.tokens]

/-! ## Items -/

/-- No item begins with a comma. -/
theorem WireItem.tokens_ne_comma (item : WireItem) :
    item.tokens ++ rest ≠ .mark .comma :: otherRest := by
  rcases item with key | fragment | ⟨⟨key⟩ | ⟨key, arguments⟩ | typename, items⟩ <;>
    simp [WireItem.tokens, WireSelection.tokens, WireHead.tokens]

/-- The end of a list is no item. -/
theorem WireItem.tokens_ne_end (item : WireItem) {name : String} :
    item.tokens ++ .mark .comma :: rest ≠ .word name :: .mark .closeBrace :: otherRest := by
  rcases item with key | fragment | ⟨⟨key⟩ | ⟨key, arguments⟩ | typename, items⟩ <;>
    simp [WireItem.tokens, WireSelection.tokens, WireHead.tokens]

/-- A selection is neither a name nor a spread. -/
theorem WireSelection.tokens_ne_name (selection : WireSelection) {name : String} :
    selection.tokens ++ rest ≠ .word name :: .mark .comma :: otherRest := by
  rcases selection with ⟨⟨key⟩ | ⟨key, arguments⟩ | typename, items⟩ <;>
    simp [WireSelection.tokens, WireHead.tokens]

/-- A selection is not the spread of a fragment. -/
theorem WireSelection.tokens_ne_spread (selection : WireSelection) {name : String} :
    selection.tokens ++ rest ≠ .mark .ellipsis :: .word name :: otherRest := by
  rcases selection with ⟨⟨key⟩ | ⟨key, arguments⟩ | typename, items⟩ <;>
    simp [WireSelection.tokens, WireHead.tokens]

mutual

/-- An item ends before a comma. -/
theorem WireItem.tokens_inj : ∀ {item other : WireItem} {rest otherRest : List Token},
    item.tokens ++ .mark .comma :: rest = other.tokens ++ .mark .comma :: otherRest →
    item = other ∧ rest = otherRest
  | .name key, other, rest, otherRest, h => by
    cases other with
    | name other => simpa [WireItem.tokens] using h
    | spread fragment => simp [WireItem.tokens] at h
    | selection other => exact absurd h.symm other.tokens_ne_name
  -- An inline fragment begins as a spread does, but with a blank behind the ellipsis.
  | .spread fragment, other, rest, otherRest, h => by
    cases other with
    | name other => simp [WireItem.tokens] at h
    | spread other => simpa [WireItem.tokens] using h
    | selection other => exact absurd h.symm other.tokens_ne_spread
  | .selection inner, other, rest, otherRest, h => by
    cases other with
    | name other => exact absurd h inner.tokens_ne_name
    | spread other => exact absurd h inner.tokens_ne_spread
    | selection other =>
      obtain ⟨hsame, hrest⟩ := @WireSelection.tokens_inj inner other _ _ h
      exact ⟨by rw [hsame], (List.cons.inj hrest).2⟩

/-- A selection ends with a brace of its own. -/
theorem WireSelection.tokens_inj :
    ∀ {selection other : WireSelection} {rest otherRest : List Token},
      selection.tokens ++ rest = other.tokens ++ otherRest → selection = other ∧ rest = otherRest
  | ⟨head, items⟩, ⟨other, others⟩, rest, otherRest, h => by
    simp only [WireSelection.tokens, List.append_assoc, List.cons_append] at h
    obtain ⟨hhead, hitems⟩ := WireHead.tokens_inj h
    obtain ⟨hsame, hrest⟩ := listTokens_inj hitems
    exact ⟨by rw [hhead, hsame], hrest⟩

/-- A list of items is told from others, and an empty one from one with items. -/
theorem listTokens_inj : ∀ {items others : List WireItem} {rest otherRest : List Token},
    leadingTokens items ++ (wireTokens items ++ rest) =
      leadingTokens others ++ (wireTokens others ++ otherRest) →
    items = others ∧ rest = otherRest
  | [], [], rest, otherRest, h => by simpa [leadingTokens, wireTokens] using h
  | [], other :: others, rest, otherRest, h => by
    simp only [leadingTokens, wireTokens, List.nil_append, List.append_assoc] at h
    exact absurd h.symm other.tokens_ne_comma
  | item :: items, [], rest, otherRest, h => by
    simp only [leadingTokens, wireTokens, List.nil_append, List.append_assoc] at h
    exact absurd h item.tokens_ne_comma
  | item :: items, other :: others, rest, otherRest, h => wireTokens_inj h

/-- A list of items ends where a brace follows the discriminator, and is told from others. -/
theorem wireTokens_inj : ∀ {items others : List WireItem} {rest otherRest : List Token},
    wireTokens items ++ rest = wireTokens others ++ otherRest → items = others ∧ rest = otherRest
  | [], [], rest, otherRest, h => by simpa [wireTokens] using h
  | [], other :: others, rest, otherRest, h => by
    rw [wireTokens, wireTokens, List.append_assoc, List.cons_append] at h
    exact absurd h.symm other.tokens_ne_end
  | item :: items, [], rest, otherRest, h => by
    rw [wireTokens, wireTokens, List.append_assoc, List.cons_append] at h
    exact absurd h item.tokens_ne_end
  | item :: items, other :: others, rest, otherRest, h => by
    rw [wireTokens, wireTokens, List.append_assoc, List.append_assoc, List.cons_append,
      List.cons_append] at h
    obtain ⟨hitem, hitems⟩ := WireItem.tokens_inj h
    obtain ⟨hsame, hrest⟩ := wireTokens_inj hitems
    exact ⟨by rw [hitem, hsame], hrest⟩

end

/-! ## Documents -/

/-- No selection is the end of the root block. -/
theorem WireSelection.tokens_ne_closeBrace (selection : WireSelection) :
    selection.tokens ++ rest ≠ .mark .closeBrace :: otherRest := by
  rcases selection with ⟨⟨key⟩ | ⟨key, arguments⟩ | typename, items⟩ <;>
    simp [WireSelection.tokens, WireHead.tokens]

/-- The roots of a document end at their brace, and are told from others. -/
theorem rootTokens_inj {selections others : List WireSelection}
    (h : selections.flatMap WireSelection.tokens ++ .mark .closeBrace :: rest =
      others.flatMap WireSelection.tokens ++ .mark .closeBrace :: otherRest) :
    selections = others ∧ rest = otherRest := by
  induction selections generalizing others with
  | nil =>
    cases others with
    | nil => simpa using h
    -- If one row is at its end and the other is not, a selection would begin with a closing brace.
    | cons other others =>
      rw [List.flatMap_cons, List.append_assoc] at h
      exact absurd h.symm other.tokens_ne_closeBrace
  | cons selection selections ih =>
    cases others with
    | nil =>
      rw [List.flatMap_cons, List.append_assoc] at h
      exact absurd h selection.tokens_ne_closeBrace
    | cons other others =>
      rw [List.flatMap_cons, List.flatMap_cons, List.append_assoc, List.append_assoc] at h
      obtain ⟨hselection, hselections⟩ := WireSelection.tokens_inj h
      obtain ⟨hsame, hrest⟩ := ih hselections
      exact ⟨by rw [hselection, hsame], hrest⟩

/-- A fragment definition ends at its brace, and is told from others. -/
theorem WireFragment.tokens_inj {fragment other : WireFragment}
    (h : fragment.tokens ++ rest = other.tokens ++ otherRest) :
    fragment = other ∧ rest = otherRest := by
  obtain ⟨name, typename, items⟩ := fragment
  obtain ⟨otherName, otherTypename, others⟩ := other
  simp only [WireFragment.tokens, List.cons_append, List.append_assoc, List.cons.injEq,
    Token.word.injEq, true_and] at h
  obtain ⟨rfl, rfl, hitems⟩ := h
  obtain ⟨rfl, hrest⟩ := listTokens_inj hitems
  exact ⟨rfl, hrest⟩

/-- The fragment definitions of a document are told from others. -/
theorem fragmentTokens_inj {fragments others : List WireFragment}
    (h : fragments.flatMap WireFragment.tokens = others.flatMap WireFragment.tokens) :
    fragments = others := by
  induction fragments generalizing others with
  | nil =>
    cases others with
    | nil => rfl
    | cons other others => simp [WireFragment.tokens] at h
  | cons fragment fragments ih =>
    cases others with
    | nil => simp [WireFragment.tokens] at h
    | cons other others =>
      obtain ⟨hfragment, hfragments⟩ := WireFragment.tokens_inj h
      rw [hfragment, ih hfragments]

/-- The tokens of a document determine what it names. -/
theorem WireDocument.tokens_inj {document other : WireDocument}
    (h : document.tokens = other.tokens) : document = other := by
  obtain ⟨operation, selections, fragments⟩ := document
  obtain ⟨otherOperation, others, otherFragments⟩ := other
  simp only [WireDocument.tokens, List.cons.injEq, Token.word.injEq, true_and] at h
  obtain ⟨hkeyword, hroots⟩ := h
  obtain ⟨hselections, hfragments⟩ := rootTokens_inj hroots
  have hoperation : operation = otherOperation := by
    cases operation <;> cases otherOperation <;> simp_all [OperationType.keyword]
  rw [hoperation, hselections, fragmentTokens_inj hfragments]

/-- Two trees with the same text, whatever the values of their arguments, name the same on the wire:
the same heads, items and fragments, with the same arguments and the same nesting, in the same
order. -/
theorem exists_wireDocument_of_same_text {operation otherOperation : OperationType}
    {selections others : List Selection} {fragments otherFragments : List Fragment} {text : String}
    (written : document operation selections fragments = .ok text)
    (otherWritten : document otherOperation others otherFragments = .ok text)
    (words : ∀ node ∈ emittedNodes operation selections fragments,
      ∀ name ∈ node.names, IsWord name)
    (otherWords : ∀ node ∈ emittedNodes otherOperation others otherFragments,
      ∀ name ∈ node.names, IsWord name) :
    ∃ wire, wireDocument operation selections fragments = .ok wire ∧
      wireDocument otherOperation others otherFragments = .ok wire := by
  obtain ⟨wire, hwire, htext⟩ := document_eq_ok_iff.mp written
  obtain ⟨other, hother, hotherText⟩ := document_eq_ok_iff.mp otherWritten
  rw [emittedNodes_eq hwire] at words
  rw [emittedNodes_eq hother] at otherWords
  have lexes := WireDocument.lexes words
  have otherLexes := WireDocument.lexes otherWords
  rw [htext] at lexes
  rw [hotherText] at otherLexes
  have hsame : wire = other := WireDocument.tokens_inj (lexes.unique otherLexes)
  exact ⟨wire, hwire, hsame ▸ hother⟩

/-- A type of books with their authors. -/
def bookType : ObjectType where
  name := "book"
  typename := "Book"
  queryRoot := "books"
  fields := [
    { name := some "name", queryName := some "title" },
    { name := some "authors", queryName := some "writers", target := .object "author" }]

/-- Books by a phrase, with one item more than the names of their authors. -/
def booksByPhrase (phrase : String) (item : Item) : List Selection :=
  [⟨.operation (.argument (.type bookType) [("phrase", phrase)]), [
    item,
    .selection ⟨.field (bookType.fields.getD 1 default), [.name "name"]⟩,
    .operation (.fragmentRef "on")]⟩]

/-- A field has the text of its wire name, and names the same. -/
theorem booksByPhrase_same_text :
    ∃ wire,
      wireDocument .query (booksByPhrase "\")\x7b" (.field (bookType.fields.getD 0 default))) [] =
        .ok wire ∧
      wireDocument .query (booksByPhrase "\")\x7b" (.name "title")) [] = .ok wire :=
  exists_wireDocument_of_same_text rfl rfl (by decide) (by decide)

end TypedQuery.Query
