import TypedQuery.Proofs.Query.Wire

/-!
# The text of a document as tokens

The text of an erased tree is a row of words, marks and string literals (`WireDocument.text_eq`).
The words are the names that the tree emits, apart from a few keywords, and the literals are the
values of its arguments (`WireDocument.emitted`). What is said of the text later on is said of this
row.
-/

namespace TypedQuery.Query

/-! ## Tokens -/

/-- Punctuation, the blanks and commas between words included. -/
inductive Mark where
  | openBrace
  | closeBrace
  | openParen
  | closeParen
  | colon
  | comma
  | blank
  | ellipsis
deriving DecidableEq

/-- The text of a mark. -/
def Mark.text : Mark → String
  | openBrace => "\x7b"
  | closeBrace => "\x7d"
  | openParen => "("
  | closeParen => ")"
  | colon => ":"
  | comma => ","
  | blank => " "
  | ellipsis => "..."

/-- A part of a document text. -/
inductive Token where
  | word (name : String)
  | mark (sign : Mark)
  /-- A string literal, by its value. -/
  | literal (value : String)
deriving DecidableEq

namespace Token

/-- The text of a token. -/
def text : Token → String
  | .word name => name
  | .mark sign => sign.text
  | .literal value => Query.literal value

/-- Whether a token is a mark. -/
def IsMark : Token → Prop
  | .mark _ => True
  | _ => False

end Token

/-- The text of a row of tokens. -/
def tokensText (tokens : List Token) : String := joined Token.text tokens

/-- The texts of two rows of parts stand one after the other. -/
theorem joined_append {α : Type} (text : α → String) (first rest : List α) :
    joined text (first ++ rest) = joined text first ++ joined text rest := by
  induction first with
  | nil => simp [joined]
  | cons part first ih => rw [List.cons_append, joined, joined, ih, String.append_assoc]

@[simp] theorem tokensText_nil : tokensText [] = "" := rfl

@[simp] theorem tokensText_cons (token : Token) (rest : List Token) :
    tokensText (token :: rest) = token.text ++ tokensText rest := rfl

/-- Rows of tokens are written one after the other. -/
@[simp] theorem tokensText_append (first rest : List Token) :
    tokensText (first ++ rest) = tokensText first ++ tokensText rest :=
  joined_append Token.text first rest

/-! ## The tokens of a tree -/

/-- The tokens of the arguments after the first, and of what closes them. -/
def moreArgumentTokens : List (String × String) → List Token
  | [] => [.mark .closeParen]
  | (key, value) :: rest =>
    .mark .comma :: .word key :: .mark .colon :: .literal value :: moreArgumentTokens rest

/-- The tokens of arguments, from behind the parenthesis that opens them. -/
def argumentTokens : List (String × String) → List Token
  | [] => [.mark .closeParen]
  | (key, value) :: rest =>
    .word key :: .mark .colon :: .literal value :: moreArgumentTokens rest

/-- The tokens of a head. -/
def WireHead.tokens : WireHead → List Token
  | .name key => [.word key]
  | .call key arguments => .word key :: .mark .openParen :: argumentTokens arguments
  | .on typename =>
    [.mark .ellipsis, .mark .blank, .word "on", .mark .blank, .word typename]

/-- What stands before the first item of a list: nothing, or a comma if there is no item. -/
def leadingTokens : List WireItem → List Token
  | [] => [.mark .comma]
  | _ :: _ => []

mutual

/-- The tokens of an item. -/
def WireItem.tokens : WireItem → List Token
  | .name key => [.word key]
  | .spread fragment => [.mark .ellipsis, .word fragment]
  | .selection inner => inner.tokens

/-- The tokens of a selection. -/
def WireSelection.tokens : WireSelection → List Token
  | ⟨head, items⟩ => head.tokens ++ .mark .openBrace :: (leadingTokens items ++ wireTokens items)

/-- The tokens of items, each with a comma after it, and of the end of their list. -/
def wireTokens : List WireItem → List Token
  | [] => [.word discriminator, .mark .closeBrace]
  | item :: rest => item.tokens ++ .mark .comma :: wireTokens rest

end

/-- The tokens of a fragment definition. -/
def WireFragment.tokens (fragment : WireFragment) : List Token :=
  .word "fragment" :: .mark .blank :: .word fragment.name :: .mark .blank :: .word "on" ::
    .mark .blank :: .word fragment.typename :: .mark .openBrace ::
    (leadingTokens fragment.items ++ wireTokens fragment.items)

/-- The tokens of a document. -/
def WireDocument.tokens (document : WireDocument) : List Token :=
  .word document.operation.keyword :: .mark .openBrace ::
    (document.selections.flatMap WireSelection.tokens ++ .mark .closeBrace ::
      document.fragments.flatMap WireFragment.tokens)

/-! ## The text of the tokens -/

/-- Arguments behind the first are written with a comma before each, and then closed. -/
theorem tokensText_moreArgumentTokens (arguments : List (String × String)) :
    tokensText (moreArgumentTokens arguments) =
      joined (fun argument => "," ++ argument.1 ++ ":" ++ literal argument.2) arguments ++ ")" := by
  induction arguments with
  | nil => rfl
  | cons argument rest ih =>
    simp [moreArgumentTokens, joined, ih, Token.text, Mark.text, String.append_assoc]

/-- Arguments in parentheses are written as their tokens, an empty list of them included. -/
theorem tokensText_argumentTokens (arguments : List (String × String)) :
    tokensText (.mark .openParen :: argumentTokens arguments) = argumentsText arguments := by
  -- A list between commas is its first part and then the others, each after a comma.
  have hrest : ∀ (first : String) (rest : List (String × String)),
      ",".intercalate (first :: rest.map fun argument => argument.1 ++ ":" ++ literal argument.2) =
        first ++ joined (fun argument => "," ++ argument.1 ++ ":" ++ literal argument.2) rest := by
    intro first rest
    induction rest generalizing first with
    | nil => simp [joined]
    | cons argument rest ih =>
      rw [List.map_cons, String.intercalate_cons_cons, ih, joined]
      simp [String.append_assoc]
  cases arguments with
  | nil => rfl
  | cons argument rest =>
    rw [argumentsText, List.map_cons, hrest]
    simp [argumentTokens, tokensText_moreArgumentTokens, Token.text, Mark.text, String.append_assoc]

/-- A head is written as its tokens; the blanks around `on` are tokens of their own. -/
theorem WireHead.text_eq (head : WireHead) : head.text = tokensText head.tokens := by
  cases head with
  | name key => simp [WireHead.text, WireHead.tokens, Token.text]
  | call key arguments =>
    rw [WireHead.text, WireHead.tokens, tokensText_cons, tokensText_argumentTokens, Token.text]
  | on typename =>
    have hon : "... on " = "..." ++ " " ++ "on" ++ " " := rfl
    simp only [WireHead.text, WireHead.tokens, tokensText_cons, tokensText_nil, Token.text,
      Mark.text, hon, String.append_empty, String.append_assoc]

mutual

/-- An item is written as its tokens. -/
theorem WireItem.text_eq : ∀ item : WireItem, item.text = tokensText item.tokens
  | .name key => by simp [WireItem.text, WireItem.tokens, Token.text]
  | .spread fragment => by simp [WireItem.text, WireItem.tokens, Token.text, Mark.text]
  | .selection inner => by rw [WireItem.text, WireItem.tokens, inner.text_eq]

/-- A selection is written as its tokens. -/
theorem WireSelection.text_eq : ∀ selection : WireSelection,
    selection.text = tokensText selection.tokens
  | ⟨head, items⟩ => by
    rw [WireSelection.text, WireSelection.tokens, tokensText_append, head.text_eq,
      braced_wireTexts items]

/-- Items in braces are written as their tokens, the discriminator that stands last included. -/
theorem braced_wireTexts : ∀ items : List WireItem, braced (wireTexts items) =
    tokensText (.mark .openBrace :: (leadingTokens items ++ wireTokens items))
  | [] => rfl
  | item :: rest => by
    -- The brace that closes the list comes after the discriminator, so it is looked for behind the
    -- other items and not behind this one.
    have hrest := closed_moreWireTexts rest
    simp only [String.append_assoc] at hrest
    simp only [wireTexts, braced, leadingTokens, wireTokens, List.nil_append, tokensText_cons,
      tokensText_append, item.text_eq, String.append_assoc, hrest]
    rfl

/-- Items behind the first are written as their tokens, up to the brace that closes their list. -/
theorem closed_moreWireTexts : ∀ items : List WireItem,
    moreWireTexts items ++ "," ++ discriminator ++ "\x7d" =
      tokensText (.mark .comma :: wireTokens items)
  | [] => rfl
  | item :: rest => by
    have hrest := closed_moreWireTexts rest
    simp only [String.append_assoc] at hrest
    simp only [moreWireTexts, wireTokens, tokensText_cons, tokensText_append, item.text_eq,
      String.append_assoc, hrest]
    rfl

end

/-- A fragment definition is written as its tokens; the blanks around its words are tokens too. -/
theorem WireFragment.text_eq (fragment : WireFragment) :
    fragment.text = tokensText fragment.tokens := by
  have hkeyword : "fragment " = "fragment" ++ " " := rfl
  have hon : " on " = " " ++ "on" ++ " " := rfl
  rw [WireFragment.text, braced_wireTexts, hkeyword, hon]
  simp only [WireFragment.tokens, tokensText_cons, Token.text, Mark.text, String.append_assoc]

/-- If each part is written as its tokens, so is a row of parts. -/
theorem joined_eq_tokensText {α : Type} {text : α → String} {tokens : α → List Token}
    (h : ∀ part, text part = tokensText (tokens part)) (parts : List α) :
    joined text parts = tokensText (parts.flatMap tokens) := by
  induction parts with
  | nil => rfl
  | cons part rest ih => rw [joined, List.flatMap_cons, tokensText_append, h, ih]

/-- The text of a document is the text of its tokens. -/
theorem WireDocument.text_eq (document : WireDocument) :
    document.text = tokensText document.tokens := by
  rw [WireDocument.text, joined_eq_tokensText WireSelection.text_eq,
    joined_eq_tokensText WireFragment.text_eq]
  simp [WireDocument.tokens, Token.text, Mark.text, String.append_assoc]

/-- A document has just the text of the tokens of its erased tree, if the tree can be erased. -/
theorem document_eq_ok_iff {operation : OperationType} {selections : List Selection}
    {fragments : List Fragment} {text : String} :
    document operation selections fragments = .ok text ↔
      ∃ wire, wireDocument operation selections fragments = .ok wire ∧
        tokensText wire.tokens = text := by
  simp only [document_eq, Checked.map_eq_ok, WireDocument.text_eq]

/-! ## What a tree names -/

/-- A part of a tree without the items below it. -/
inductive Node where
  | item (key : String)
  | spread (fragment : String)
  | head (head : WireHead)
  | definition (name typename : String)

/-- The names that a part of a tree emits. -/
def Node.names : Node → List String
  | .item key => [key]
  | .spread fragment => [fragment]
  | .head (.name key) => [key]
  | .head (.call key arguments) => key :: arguments.map Prod.fst
  | .head (.on typename) => [typename]
  | .definition name typename => [name, typename]

/-- The name of a fragment that a part of a tree uses or defines. -/
def Node.fragmentName? : Node → Option String
  | .spread fragment => some fragment
  | .definition name _ => some name
  | _ => none

/-- The arguments of a head that has any, be it an empty list. -/
def Node.arguments? : Node → Option (List (String × String))
  | .head (.call _ arguments) => some arguments
  | _ => none

mutual

/-- The parts of an item. -/
def WireItem.nodes : WireItem → List Node
  | .name key => [.item key]
  | .spread fragment => [.spread fragment]
  | .selection inner => inner.nodes

/-- The parts of a selection. -/
def WireSelection.nodes : WireSelection → List Node
  | ⟨head, items⟩ => .head head :: wireNodes items

/-- The parts of a list of items. -/
def wireNodes : List WireItem → List Node
  | [] => []
  | item :: rest => item.nodes ++ wireNodes rest

end

/-- The parts of a fragment definition. -/
def WireFragment.nodes (fragment : WireFragment) : List Node :=
  .definition fragment.name fragment.typename :: wireNodes fragment.items

/-- The parts of a document, in the order of its text. -/
def WireDocument.nodes (document : WireDocument) : List Node :=
  document.selections.flatMap WireSelection.nodes ++ document.fragments.flatMap WireFragment.nodes

/-- The parts of what is written for a tree; there are none if nothing is written. -/
def emittedNodes (operation : OperationType) (selections : List Selection)
    (fragments : List Fragment) : List Node :=
  match wireDocument operation selections fragments with
  | .ok document => document.nodes
  | .error _ => []

/-- A tree that is erased emits the parts of the erased tree. -/
theorem emittedNodes_eq {operation : OperationType} {selections : List Selection}
    {fragments : List Fragment} {wire : WireDocument}
    (h : wireDocument operation selections fragments = .ok wire) :
    emittedNodes operation selections fragments = wire.nodes := by
  rw [emittedNodes, h]

/-- The words that every text may have, whatever its tree names. -/
def keywords : List String := ["query", "mutation", "fragment", "on", discriminator]

/-- Whether a word is a keyword or a name that some part of a list emits. -/
def Emitted (nodes : List Node) (name : String) : Prop :=
  name ∈ keywords ∨ ∃ node ∈ nodes, name ∈ node.names

/-- What some parts emit is emitted by more parts as well. -/
theorem Emitted.mono {nodes more : List Node} {name : String} (emitted : Emitted nodes name)
    (sub : nodes ⊆ more) : Emitted more name :=
  emitted.imp_right fun ⟨node, hnode, hname⟩ => ⟨node, sub hnode, hname⟩

/-- A word among the arguments behind the first is the key of one of them: their values are
literals. -/
theorem mem_of_word_mem_moreArgumentTokens {arguments : List (String × String)} {name : String}
    (h : .word name ∈ moreArgumentTokens arguments) : name ∈ arguments.map Prod.fst := by
  induction arguments with
  | nil => simp [moreArgumentTokens] at h
  | cons argument rest ih =>
    simp only [moreArgumentTokens, List.mem_cons, reduceCtorEq, Token.word.injEq, false_or] at h
    rcases h with rfl | h
    · exact List.mem_cons_self
    · exact List.mem_cons_of_mem _ (ih h)

/-- A word among arguments is the key of one of them. -/
theorem mem_of_word_mem_argumentTokens {arguments : List (String × String)} {name : String}
    (h : .word name ∈ argumentTokens arguments) : name ∈ arguments.map Prod.fst := by
  cases arguments with
  | nil => simp [argumentTokens] at h
  | cons argument rest =>
    -- But for a comma these are the tokens of the same arguments behind others.
    have hmore : .word name ∈ moreArgumentTokens (argument :: rest) := by
      rw [moreArgumentTokens]
      exact List.mem_cons_of_mem _ h
    exact mem_of_word_mem_moreArgumentTokens hmore

/-- A word of a head is a keyword or a name that the head emits. -/
theorem WireHead.emitted {head : WireHead} {name : String} (h : .word name ∈ head.tokens) :
    Emitted [.head head] name := by
  -- Only an inline fragment has a word that it does not name.
  have hname : name = "on" ∨ name ∈ (Node.head head).names := by
    cases head with
    | name key => exact .inr (by simpa [WireHead.tokens, Node.names] using h)
    | call key arguments =>
      simp only [WireHead.tokens, List.mem_cons, Token.word.injEq, reduceCtorEq, false_or] at h
      rcases h with rfl | h
      · exact .inr List.mem_cons_self
      · exact .inr (List.mem_cons_of_mem _ (mem_of_word_mem_argumentTokens h))
    | on typename => simpa [WireHead.tokens, Node.names] using h
  refine hname.imp (fun heq => ?_) fun hname => ⟨_, List.mem_singleton_self _, hname⟩
  simp [keywords, heq]

/-- No word stands between the brace that opens a list and the first item. -/
theorem not_word_mem_leadingTokens {items : List WireItem} {name : String} :
    .word name ∉ leadingTokens items := by
  cases items <;> simp [leadingTokens]

mutual

/-- A word of an item is a keyword or a name that some part of the item emits. -/
theorem WireItem.emitted {name : String} : ∀ {item : WireItem},
    .word name ∈ item.tokens → Emitted item.nodes name
  | .name key, h =>
    .inr ⟨_, List.mem_singleton_self _, by simpa [WireItem.tokens, Node.names] using h⟩
  | .spread fragment, h =>
    .inr ⟨_, List.mem_singleton_self _, by simpa [WireItem.tokens, Node.names] using h⟩
  | .selection inner, h => @WireSelection.emitted name inner h

/-- A word of a selection is a keyword or a name that some part of the selection emits. -/
theorem WireSelection.emitted {name : String} : ∀ {selection : WireSelection},
    .word name ∈ selection.tokens → Emitted selection.nodes name
  | ⟨head, items⟩, h => by
    rw [WireSelection.tokens, List.mem_append, List.mem_cons, List.mem_append] at h
    rcases h with h | h | h | h
    · exact (WireHead.emitted h).mono (by simp [WireSelection.nodes])
    · cases h
    · exact absurd h not_word_mem_leadingTokens
    · exact (emitted_of_word_mem_wireTokens h).mono (List.subset_cons_self _ _)

/-- A word of a list of items is the discriminator or a name that some part of the list emits. -/
theorem emitted_of_word_mem_wireTokens {name : String} : ∀ {items : List WireItem},
    .word name ∈ wireTokens items → Emitted (wireNodes items) name
  | [], h => .inl (by
      have hname : name = discriminator := by simpa [wireTokens] using h
      simp [keywords, hname])
  | item :: rest, h => by
    rw [wireTokens, List.mem_append, List.mem_cons] at h
    rcases h with h | h | h
    · exact (WireItem.emitted h).mono (List.subset_append_left _ _)
    · cases h
    · exact (emitted_of_word_mem_wireTokens h).mono (List.subset_append_right _ _)

end

/-- A word of a fragment definition is a keyword or a name that some part of it emits. -/
theorem WireFragment.emitted {fragment : WireFragment} {name : String}
    (h : .word name ∈ fragment.tokens) : Emitted fragment.nodes name := by
  simp only [WireFragment.tokens, List.mem_cons, List.mem_append, reduceCtorEq, Token.word.injEq,
    not_word_mem_leadingTokens, false_or] at h
  -- In the order of the text: `fragment`, the name, `on`, the typename and the items.
  rcases h with h | h | h | h | h
  · exact .inl (by simp [keywords, h])
  · exact .inr ⟨_, List.mem_cons_self, by simp [Node.names, h]⟩
  · exact .inl (by simp [keywords, h])
  · exact .inr ⟨_, List.mem_cons_self, by simp [Node.names, h]⟩
  · exact (emitted_of_word_mem_wireTokens h).mono (List.subset_cons_self _ _)

/-- If the words of each part are emitted by its nodes, so are those of a row of parts. -/
theorem emitted_of_word_mem_flatMap {α : Type} {tokens : α → List Token} {nodes : α → List Node}
    {name : String} (emitted : ∀ {part}, .word name ∈ tokens part → Emitted (nodes part) name)
    {parts : List α} (h : .word name ∈ parts.flatMap tokens) :
    Emitted (parts.flatMap nodes) name := by
  obtain ⟨part, hpart, h⟩ := List.mem_flatMap.mp h
  exact (emitted h).mono fun node hnode => List.mem_flatMap.mpr ⟨part, hpart, hnode⟩

/-- The words of a text are keywords and the names that its tree emits. -/
theorem WireDocument.emitted {document : WireDocument} {name : String}
    (h : .word name ∈ document.tokens) : Emitted document.nodes name := by
  simp only [WireDocument.tokens, List.mem_cons, List.mem_append, reduceCtorEq, Token.word.injEq,
    false_or] at h
  rcases h with h | h | h
  -- The first word is the keyword of the operation.
  · refine .inl ?_
    rw [h]
    cases document.operation <;> simp [OperationType.keyword, keywords]
  · exact (emitted_of_word_mem_flatMap WireSelection.emitted h).mono (List.subset_append_left _ _)
  · exact (emitted_of_word_mem_flatMap WireFragment.emitted h).mono (List.subset_append_right _ _)

end TypedQuery.Query
