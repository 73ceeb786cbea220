import TypedQuery.Proofs.Query.Unambiguous

/-!
# Texts and the grammar of documents

`Derives` is the grammar of documents, as far as texts use it. The text of a tree derives from it
unless a head of the tree has an empty list of arguments (`isValid_iff`): the parentheses are
written then as well, and the grammar has none without an argument.

One way follows the tree. The other way rests on what stands between parentheses: nothing that
derives opens a parenthesis and closes it at once (`Derives.filled`), and a text is one row of
tokens at most.
-/

namespace TypedQuery.Query

open Checked

/-! ## The grammar -/

/-- Whether a text is a name: a word that does not begin with a digit. -/
def IsName (name : String) : Prop := IsWord name ∧ name.toList.head?.any Char.isDigit = false

instance (name : String) : Decidable (IsName name) := inferInstanceAs (Decidable (_ ∧ _))

/-- Whether a mark counts. Commas and blanks only keep others apart. -/
def Mark.counts : Mark → Bool
  | comma | blank => false
  | _ => true

/-- Whether a token counts. -/
def Token.counts : Token → Bool
  | .mark sign => sign.counts
  | _ => true

/-- The tokens that count. -/
def significant (tokens : List Token) : List Token := tokens.filter Token.counts

/-- What the grammar speaks of. -/
inductive Part where
  | argument
  /-- Arguments in parentheses, or nothing. -/
  | arguments
  | selection
  | selectionSet
  /-- A selection set, or nothing. -/
  | subselection
  | fragment
  | document

/-- The grammar of documents. -/
inductive Derives : Part → List Token → Prop
  | argument {name value : String} (isName : IsName name) :
      Derives .argument [.word name, .mark .colon, .literal value]
  | noArguments : Derives .arguments []
  | arguments {parts : List (List Token)} (nonempty : parts ≠ [])
      (each : ∀ part ∈ parts, Derives .argument part) :
      Derives .arguments (.mark .openParen :: (parts.flatten ++ [.mark .closeParen]))
  | field {name : String} {arguments items : List Token} (isName : IsName name)
      (called : Derives .arguments arguments) (selected : Derives .subselection items) :
      Derives .selection (.word name :: (arguments ++ items))
  | spread {fragment : String} (isName : IsName fragment) (notOn : fragment ≠ "on") :
      Derives .selection [.mark .ellipsis, .word fragment]
  | inlineFragment {typename : String} {items : List Token} (isName : IsName typename)
      (selected : Derives .selectionSet items) :
      Derives .selection (.mark .ellipsis :: .word "on" :: .word typename :: items)
  | selectionSet {parts : List (List Token)} (nonempty : parts ≠ [])
      (each : ∀ part ∈ parts, Derives .selection part) :
      Derives .selectionSet (.mark .openBrace :: (parts.flatten ++ [.mark .closeBrace]))
  | noSubselection : Derives .subselection []
  | subselection {items : List Token} (selected : Derives .selectionSet items) :
      Derives .subselection items
  | fragment {name typename : String} {items : List Token} (isName : IsName name)
      (notOn : name ≠ "on") (isTypename : IsName typename)
      (selected : Derives .selectionSet items) :
      Derives .fragment (.word "fragment" :: .word name :: .word "on" :: .word typename :: items)
  | document (operation : OperationType) {items : List Token} {parts : List (List Token)}
      (selected : Derives .selectionSet items) (each : ∀ part ∈ parts, Derives .fragment part) :
      Derives .document (.word operation.keyword :: (items ++ parts.flatten))

/-- Whether a text is a document: it is taken apart into tokens, and those that count derive from
the grammar. -/
def IsValid (text : String) : Prop :=
  ∃ tokens, Lexes text.toList tokens ∧ Derives .document (significant tokens)

/-! ## The tokens that count -/

@[simp] theorem significant_append (first rest : List Token) :
    significant (first ++ rest) = significant first ++ significant rest :=
  List.filter_append first rest

@[simp] theorem significant_word (name : String) (rest : List Token) :
    significant (.word name :: rest) = .word name :: significant rest := rfl

@[simp] theorem significant_literal (value : String) (rest : List Token) :
    significant (.literal value :: rest) = .literal value :: significant rest := rfl

@[simp] theorem significant_mark (sign : Mark) (rest : List Token) :
    significant (.mark sign :: rest) =
      if sign.counts then .mark sign :: significant rest else significant rest :=
  List.filter_cons

/-- What counts of a row of parts is what counts of each of them. -/
theorem significant_flatMap {α : Type} (tokens : α → List Token) (parts : List α) :
    significant (parts.flatMap tokens) =
      (parts.map fun part => significant (tokens part)).flatten := by
  induction parts with
  | nil => rfl
  | cons part rest ih =>
    rw [List.flatMap_cons, significant_append, ih, List.map_cons, List.flatten_cons]

/-- What counts of the arguments behind the first: the arguments, without the commas before them. -/
theorem significant_moreArgumentTokens (arguments : List (String × String)) :
    significant (moreArgumentTokens arguments) =
      (arguments.map fun (key, value) => [.word key, .mark .colon, .literal value]).flatten ++
        [.mark .closeParen] := by
  induction arguments with
  | nil => rfl
  | cons argument rest ih => simp [moreArgumentTokens, ih, Mark.counts]

/-- What counts of arguments: their keys and values, and the parenthesis that closes them. -/
theorem significant_argumentTokens (arguments : List (String × String)) :
    significant (argumentTokens arguments) =
      (arguments.map fun (key, value) => [.word key, .mark .colon, .literal value]).flatten ++
        [.mark .closeParen] := by
  cases arguments with
  | nil => rfl
  | cons argument rest =>
    simp [argumentTokens, significant_moreArgumentTokens, Mark.counts]

/-- The comma of an empty list does not count. -/
theorem significant_leadingTokens (items : List WireItem) :
    significant (leadingTokens items) = [] := by
  cases items <;> rfl

/-- What counts of a list of items: the items, without the commas between them, and its end. -/
theorem significant_wireTokens (items : List WireItem) :
    significant (wireTokens items) =
      (items.map fun item => significant item.tokens).flatten ++
        [.word discriminator, .mark .closeBrace] := by
  induction items with
  | nil => rfl
  | cons item rest ih => simp [wireTokens, ih, Mark.counts]

/-! ## Texts that derive -/

/-- What the grammar asks of a part of a tree. -/
structure Node.IsLegal (node : Node) : Prop where
  names : ∀ name ∈ node.names, IsName name
  notOn : node.fragmentName? ≠ some "on"
  arguments : node.arguments? ≠ some []

/-- Arguments in parentheses derive if there are any and their keys are names. -/
theorem derives_arguments {arguments : List (String × String)} (nonempty : arguments ≠ [])
    (names : ∀ name ∈ arguments.map Prod.fst, IsName name) :
    Derives .arguments (significant (.mark .openParen :: argumentTokens arguments)) := by
  have hopen : significant (.mark .openParen :: argumentTokens arguments) =
      .mark .openParen :: significant (argumentTokens arguments) := rfl
  rw [hopen, significant_argumentTokens]
  refine .arguments (by simpa using nonempty) fun part hpart => ?_
  obtain ⟨argument, hargument, rfl⟩ := List.mem_map.mp hpart
  exact .argument (names _ (List.mem_map_of_mem hargument))

/-- A list of selections derives, as the discriminator is one that always stands there. -/
theorem derives_selectionSet {items : List WireItem}
    (each : ∀ item ∈ items, Derives .selection (significant item.tokens)) :
    Derives .selectionSet
      (significant (.mark .openBrace :: (leadingTokens items ++ wireTokens items))) := by
  have hdiscriminator : Derives .selection [.word discriminator] :=
    .field (by decide) .noArguments .noSubselection
  have h : Derives .selectionSet (.mark .openBrace ::
      ((items.map (fun item : WireItem => significant item.tokens) ++
        [[Token.word discriminator]]).flatten ++
        [.mark .closeBrace])) := by
    -- The selections of the list are its items and then the discriminator, so there is always one.
    refine .selectionSet (by simp) fun part hpart => ?_
    rcases List.mem_append.mp hpart with hpart | hpart
    · obtain ⟨item, hitem, rfl⟩ := List.mem_map.mp hpart
      exact each item hitem
    · rw [List.mem_singleton.mp hpart]
      exact hdiscriminator
  simpa [significant_leadingTokens, significant_wireTokens, Mark.counts] using h

/-- A head and its items derive as one selection. -/
theorem derives_of_head {head : WireHead} {items : List Token}
    (legal : (Node.head head).IsLegal) (set : Derives .selectionSet items) :
    Derives .selection (significant head.tokens ++ items) := by
  cases head with
  | name key =>
    exact .field (legal.names key (by simp [Node.names])) .noArguments (.subselection set)
  | call key arguments =>
    have nonempty : arguments ≠ [] := fun h => legal.arguments (by rw [Node.arguments?, h])
    have harguments := derives_arguments nonempty fun name h =>
      legal.names name (List.mem_cons_of_mem _ h)
    exact .field (legal.names key (by simp [Node.names])) harguments (.subselection set)
  | on typename => exact .inlineFragment (legal.names typename (by simp [Node.names])) set

mutual

/-- An item derives as a selection if all its parts are legal. -/
theorem WireItem.derives : ∀ {item : WireItem}, (∀ node ∈ item.nodes, node.IsLegal) →
    Derives .selection (significant item.tokens)
  | .name key, legal => by
    have h := legal (.item key) (by simp [WireItem.nodes])
    exact .field (h.names key (by simp [Node.names])) .noArguments .noSubselection
  | .spread fragment, legal => by
    have h := legal (.spread fragment) (by simp [WireItem.nodes])
    exact .spread (h.names fragment (by simp [Node.names])) fun hon => h.notOn (congrArg some hon)
  | .selection inner, legal => @WireSelection.derives inner legal

/-- A selection derives if all its parts are legal. -/
theorem WireSelection.derives : ∀ {selection : WireSelection},
    (∀ node ∈ selection.nodes, node.IsLegal) → Derives .selection (significant selection.tokens)
  | ⟨head, items⟩, legal => by
    rw [WireSelection.nodes, List.forall_mem_cons] at legal
    rw [WireSelection.tokens, significant_append]
    exact derives_of_head legal.1 (derives_selectionSet (derives_of_mem legal.2))

/-- Each item of a list derives as a selection if all parts of the list are legal. -/
theorem derives_of_mem : ∀ {items : List WireItem}, (∀ node ∈ wireNodes items, node.IsLegal) →
    ∀ item ∈ items, Derives .selection (significant item.tokens)
  | [], _ => by simp
  | first :: rest, legal => by
    rw [wireNodes, List.forall_mem_append] at legal
    rw [List.forall_mem_cons]
    exact ⟨WireItem.derives legal.1, derives_of_mem legal.2⟩

end

/-- A fragment definition derives if all its parts are legal. -/
theorem WireFragment.derives {fragment : WireFragment}
    (legal : ∀ node ∈ fragment.nodes, node.IsLegal) :
    Derives .fragment (significant fragment.tokens) := by
  rw [WireFragment.nodes, List.forall_mem_cons] at legal
  obtain ⟨hdefinition, hitems⟩ := legal
  exact .fragment (hdefinition.names fragment.name (by simp [Node.names]))
    (fun hon => hdefinition.notOn (congrArg some hon))
    (hdefinition.names fragment.typename (by simp [Node.names]))
    (derives_selectionSet (derives_of_mem hitems))

/-- A document with a selection derives if every part of it is legal. -/
theorem WireDocument.derives {document : WireDocument} (nonempty : document.selections ≠ [])
    (legal : ∀ node ∈ document.nodes, node.IsLegal) :
    Derives .document (significant document.tokens) := by
  rw [WireDocument.nodes, List.forall_mem_append] at legal
  have hroots : Derives .selectionSet (.mark .openBrace ::
      ((document.selections.map fun selection => significant selection.tokens).flatten ++
        [.mark .closeBrace])) := by
    -- The roots have no discriminator behind them, so here it matters that there is one.
    refine .selectionSet (by simpa using nonempty) fun part hpart => ?_
    obtain ⟨selection, hselection, rfl⟩ := List.mem_map.mp hpart
    exact WireSelection.derives fun node hnode =>
      legal.1 node (List.mem_flatMap.mpr ⟨selection, hselection, hnode⟩)
  have hfragments : ∀ part ∈ document.fragments.map fun fragment => significant fragment.tokens,
      Derives .fragment part := by
    intro part hpart
    obtain ⟨fragment, hfragment, rfl⟩ := List.mem_map.mp hpart
    exact WireFragment.derives fun node hnode =>
      legal.2 node (List.mem_flatMap.mpr ⟨fragment, hfragment, hnode⟩)
  simpa [WireDocument.tokens, significant_flatMap, Mark.counts] using
    Derives.document document.operation hroots hfragments

/-! ## Texts that do not derive -/

/-- Nothing opens a parenthesis and closes it at once, neither among the tokens nor if a parenthesis
is opened before them. -/
def Filled (tokens : List Token) : Prop :=
  (.mark .openParen :: tokens).IsChain fun a b => a = .mark .openParen → b ≠ .mark .closeParen

theorem filled_nil : Filled [] := .singleton _

/-- Rows without empty parentheses can follow one another: the second does not begin with a closed
one, even if the first ends with an open one. -/
theorem Filled.append {first rest : List Token} (hfirst : Filled first) (hrest : Filled rest) :
    Filled (first ++ rest) := by
  rw [Filled, List.isChain_cons] at hrest
  rw [Filled, ← List.cons_append]
  -- What comes behind the first tokens does not begin with a closed parenthesis.
  exact List.IsChain.append hfirst hrest.2 fun _ _ next hnext _ => hrest.1 next hnext rfl

/-- Any token but a closed parenthesis may stand in front. -/
theorem Filled.cons {token : Token} {rest : List Token} (hrest : Filled rest)
    (notClose : token ≠ .mark .closeParen := by simp) : Filled (token :: rest) := by
  rw [Filled, List.isChain_cons] at hrest
  refine List.isChain_cons_cons.mpr ⟨fun _ => notClose, List.isChain_cons.mpr ⟨?_, hrest.2⟩⟩
  exact fun next hnext _ => hrest.1 next hnext rfl

/-- A parenthesis is closed behind a literal. -/
theorem filled_closeParen {value : String} : Filled [.literal value, .mark .closeParen] := by
  simp [Filled]

/-- Many rows without empty parentheses can follow one another. -/
theorem filled_flatten {parts : List (List Token)} (each : ∀ part ∈ parts, Filled part) :
    Filled parts.flatten := by
  induction parts with
  | nil => exact filled_nil
  | cons part rest ih =>
    rw [List.forall_mem_cons] at each
    exact each.1.append (ih each.2)

/-- Nothing that derives has parentheses without an argument. -/
theorem Derives.filled {part : Part} {tokens : List Token} (derives : Derives part tokens) :
    Filled tokens := by
  -- No part begins with a closed parenthesis, so parts may follow one another, and an open
  -- parenthesis.
  induction derives with
  | argument _ => exact filled_nil.cons.cons.cons
  | noArguments => exact filled_nil
  | @arguments parts nonempty each ih =>
    obtain rfl | ⟨init, last, rfl⟩ := List.eq_nil_or_concat parts
    · exact absurd rfl nonempty
    · -- The last argument ends with its value, and the parenthesis is closed behind it.
      rw [List.concat_eq_append] at each ih ⊢
      rw [List.forall_mem_append, List.forall_mem_singleton] at each ih
      cases each.2 with
      | argument _ =>
        simpa using ((filled_flatten ih.1).append filled_closeParen.cons.cons).cons
  | field _ _ _ hcalled hselected => exact (hcalled.append hselected).cons
  | spread _ _ => exact filled_nil.cons.cons
  | inlineFragment _ _ ih => exact ih.cons.cons.cons
  | selectionSet _ _ ih => exact ((filled_flatten ih).append filled_nil.cons).cons
  | noSubselection => exact filled_nil
  | subselection _ ih => exact ih
  | fragment _ _ _ _ ih => exact ih.cons.cons.cons.cons
  | document _ _ _ hselected ih => exact (hselected.append (filled_flatten ih)).cons

/-- Parentheses without an argument. -/
def emptyParens : List Token := [.mark .openParen, .mark .closeParen]

/-- Such a row has no empty parentheses anywhere. -/
theorem Filled.not_emptyParens {tokens : List Token} (filled : Filled tokens) :
    ¬ emptyParens <:+: tokens := by
  intro h
  have hchain := List.IsChain.infix filled (h.trans (List.suffix_cons _ _).isInfix)
  simp [emptyParens] at hchain

/-- Only a head with arguments can have an empty list of them. -/
theorem Node.exists_of_arguments?_eq {node : Node} (h : node.arguments? = some []) :
    ∃ key, node = .head (.call key []) := by
  rcases node with _ | _ | (_ | ⟨key, arguments⟩ | _) | _
  case head.call =>
    obtain rfl : arguments = [] := by simpa [Node.arguments?] using h
    exact ⟨key, rfl⟩
  all_goals simp [Node.arguments?] at h

mutual

/-- An item with an empty list of arguments in it has empty parentheses in its text. -/
theorem WireItem.emptyParens_infix {key : String} : ∀ {item : WireItem},
    .head (.call key []) ∈ item.nodes → emptyParens <:+: item.tokens
  | .name _, h => by simp [WireItem.nodes] at h
  | .spread _, h => by simp [WireItem.nodes] at h
  | .selection inner, h => @WireSelection.emptyParens_infix key inner h

/-- A selection with an empty list of arguments in it has empty parentheses in its text. -/
theorem WireSelection.emptyParens_infix {key : String} : ∀ {selection : WireSelection},
    .head (.call key []) ∈ selection.nodes → emptyParens <:+: selection.tokens
  | ⟨head, items⟩, h => by
    rw [WireSelection.nodes, List.mem_cons, Node.head.injEq] at h
    rcases h with rfl | h
    · exact ⟨[.word key], _, rfl⟩
    · have hset : wireTokens items <:+ (WireSelection.mk head items).tokens :=
        (List.suffix_append _ _).trans ((List.suffix_cons _ _).trans (List.suffix_append _ _))
      exact (emptyParens_infix_wireTokens h).trans hset.isInfix

/-- A list of items with an empty list of arguments in it has empty parentheses in its text. -/
theorem emptyParens_infix_wireTokens {key : String} : ∀ {items : List WireItem},
    .head (.call key []) ∈ wireNodes items → emptyParens <:+: wireTokens items
  | [], h => by simp [wireNodes] at h
  | item :: rest, h => by
    rw [wireNodes, List.mem_append] at h
    rcases h with h | h
    · exact (WireItem.emptyParens_infix h).trans (List.prefix_append _ _).isInfix
    · have hrest : wireTokens rest <:+ wireTokens (item :: rest) :=
        (List.suffix_cons _ _).trans (List.suffix_append _ _)
      exact (emptyParens_infix_wireTokens h).trans hrest.isInfix

end

/-- A fragment with an empty list of arguments in it has empty parentheses in its text. -/
theorem WireFragment.emptyParens_infix {key : String} {fragment : WireFragment}
    (h : .head (.call key []) ∈ fragment.nodes) : emptyParens <:+: fragment.tokens := by
  have hitems : .head (.call key []) ∈ wireNodes fragment.items := by
    simpa [WireFragment.nodes] using h
  have hset : wireTokens fragment.items <:+ fragment.tokens := by
    simp [WireFragment.tokens, List.suffix_cons_iff]
  exact (emptyParens_infix_wireTokens hitems).trans hset.isInfix

/-- A part of a row stands in its text. -/
theorem infix_flatMap {α : Type} {tokens : α → List Token} {part : α} {parts : List α}
    (h : part ∈ parts) : tokens part <:+: parts.flatMap tokens := by
  rw [List.flatMap_def]
  exact List.infix_of_mem_flatten (List.mem_map_of_mem h)

/-- An empty list of arguments is written all the same. -/
theorem WireDocument.emptyParens_infix {document : WireDocument} {key : String}
    (h : .head (.call key []) ∈ document.nodes) : emptyParens <:+: document.tokens := by
  rw [WireDocument.nodes, List.mem_append, List.mem_flatMap, List.mem_flatMap] at h
  rcases h with ⟨selection, hselection, h⟩ | ⟨fragment, hfragment, h⟩
  · have hroots : document.selections.flatMap WireSelection.tokens <:+: document.tokens :=
      ⟨[.word document.operation.keyword, .mark .openBrace], _, rfl⟩
    exact (WireSelection.emptyParens_infix h).trans ((infix_flatMap hselection).trans hroots)
  · have hfragments : document.fragments.flatMap WireFragment.tokens <:+ document.tokens :=
      (List.suffix_cons _ _).trans (((List.suffix_append _ _).trans (List.suffix_cons _ _)).trans
        (List.suffix_cons _ _))
    exact (WireFragment.emptyParens_infix h).trans
      ((infix_flatMap hfragment).trans hfragments.isInfix)

/-- The text of a tree whose names are words is no document if a list of arguments is empty. -/
theorem WireDocument.not_isValid {document : WireDocument}
    (words : ∀ node ∈ document.nodes, ∀ name ∈ node.names, IsWord name) {node : Node}
    (hnode : node ∈ document.nodes) (h : node.arguments? = some []) :
    ¬ IsValid (tokensText document.tokens) := by
  rintro ⟨tokens, hlexes, hderives⟩
  obtain rfl : tokens = document.tokens := hlexes.unique (WireDocument.lexes words)
  obtain ⟨key, rfl⟩ := Node.exists_of_arguments?_eq h
  have hinfix := (WireDocument.emptyParens_infix hnode).filter Token.counts
  exact hderives.filled.not_emptyParens hinfix

/-- A text has a root selection. -/
theorem selections_ne_nil_of_wireDocument {operation : OperationType} {selections : List Selection}
    {fragments : List Fragment} {wire : WireDocument}
    (h : wireDocument operation selections fragments = .ok wire) : wire.selections ≠ [] := by
  cases selections with
  | nil => cases h
  | cons selection rest =>
    simp only [wireDocument, List.isEmpty_cons, Bool.false_eq_true, if_false, bind_eq_ok,
      pure_eq_ok, mapM_eq_ok_iff] at h
    obtain ⟨roots, hroots, definitions, -, rfl⟩ := h
    cases hroots
    exact List.cons_ne_nil _ _

/-- The text of a tree whose names are names of the grammar is a document exactly when no head has
an empty list of arguments. -/
theorem isValid_iff {operation : OperationType} {selections : List Selection}
    {fragments : List Fragment} {text : String}
    (written : document operation selections fragments = .ok text)
    (names : ∀ node ∈ emittedNodes operation selections fragments,
      ∀ name ∈ node.names, IsName name)
    (notOn : ∀ node ∈ emittedNodes operation selections fragments,
      node.fragmentName? ≠ some "on") :
    IsValid text ↔
      ∀ node ∈ emittedNodes operation selections fragments, node.arguments? ≠ some [] := by
  obtain ⟨wire, hwire, rfl⟩ := document_eq_ok_iff.mp written
  rw [emittedNodes_eq hwire] at names notOn ⊢
  have words : ∀ node ∈ wire.nodes, ∀ name ∈ node.names, IsWord name :=
    fun node hnode name hname => (names node hnode name hname).1
  constructor
  -- A text derives through any tokens that it can be taken apart into, and there are no others than
  -- those of the tree.
  · intro valid node hnode h
    exact WireDocument.not_isValid words hnode h valid
  · intro filled
    have legal : ∀ node ∈ wire.nodes, node.IsLegal :=
      fun node hnode => ⟨names node hnode, notOn node hnode, filled node hnode⟩
    exact ⟨wire.tokens, WireDocument.lexes words,
      WireDocument.derives (selections_ne_nil_of_wireDocument hwire) legal⟩

/-- Books by arguments. -/
def booksBy (arguments : List (String × String)) (items : List Item) : List Selection :=
  [⟨.operation (.argument (.type bookType) arguments), items⟩]

/-- The names of the authors of a book. -/
def authorsFragment : Fragment :=
  ⟨.fragment "authors" bookType, [
    .selection ⟨.field (bookType.fields.getD 1 default), [.name "name"]⟩]⟩

/-- Books by two arguments with one field of their authors are a document. -/
theorem booksBy_isValid :
    IsValid ("query\x7bbooks(phrase:\"\\\")\x7b\",after:\"\")\x7b" ++
      "title,...authors,__typename\x7d\x7d" ++
      "fragment authors on Book\x7bwriters\x7bname,__typename\x7d,__typename\x7d") :=
  (@isValid_iff .query
    (booksBy [("phrase", "\")\x7b"), ("after", "")]
      [.name "title", .operation (.fragmentRef "authors")])
    [authorsFragment] _ rfl (by decide) (by decide)).mpr (by decide)

/-- All names are names of the grammar here, and still the text is no document. -/
theorem booksBy_not_isValid :
    document .query (booksBy [] [.name "title"]) [] =
      .ok "query\x7bbooks()\x7btitle,__typename\x7d\x7d" ∧
    (∀ node ∈ emittedNodes .query (booksBy [] [.name "title"]) [],
      (∀ name ∈ node.names, IsName name) ∧ node.fragmentName? ≠ some "on") ∧
    ¬ IsValid "query\x7bbooks()\x7btitle,__typename\x7d\x7d" := by
  refine ⟨rfl, by decide, ?_⟩
  have hnode : Node.head (.call "books" []) ∈
      (WireDocument.mk .query [⟨.call "books" [], [.name "title"]⟩] []).nodes := List.mem_cons_self
  exact WireDocument.not_isValid (by decide) hnode rfl

end TypedQuery.Query
