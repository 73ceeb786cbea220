import TypedQuery.Proofs.Query.Unambiguous

/-!
# Argument values stay in their literals

Trees that differ in the values of their arguments only are refused alike, or have texts that are
the same outside of string literals (`scan_document`). A scanner that goes through a text from
literal to literal finds every value in one literal of its own, whatever the value holds: each
character of it is written so that the scanner stays inside.

The tree with all values emptied is the form that such trees fill. Each construct of the text is
compared with the form (`Fills`), and as the constructs follow one another, so do the values.
-/

namespace TypedQuery

/-! ## Trees and their values -/

/-- Arguments with their values emptied. -/
def blankArguments (arguments : List (String × String)) : List (String × String) :=
  arguments.map fun (key, _) => (key, "")

/-- An operation with its values emptied. -/
def Operation.blank : Operation → Operation
  | .argument target arguments => .argument target (blankArguments arguments)
  | other => other

/-- A head with its values emptied. -/
def Head.blank : Head → Head
  | .operation inner => .operation inner.blank
  | other => other

mutual

/-- An item with its values emptied. -/
def Item.blank : Item → Item
  | .selection selection => .selection selection.blank
  | .operation inner => .operation inner.blank
  | .field field => .field field
  | .name name => .name name

/-- A selection with its values emptied. -/
def Selection.blank : Selection → Selection
  | ⟨head, items⟩ => ⟨head.blank, blankItems items⟩

/-- Items with their values emptied. -/
def blankItems : List Item → List Item
  | [] => []
  | item :: rest => item.blank :: blankItems rest

end

/-- A fragment definition with its values emptied. -/
def Fragment.blank (fragment : Fragment) : Fragment :=
  ⟨fragment.key.blank, blankItems fragment.items⟩

/-- The argument values of an operation. -/
def Operation.values : Operation → List String
  | .argument _ arguments => arguments.map Prod.snd
  | _ => []

/-- The argument values of a head. -/
def Head.values : Head → List String
  | .operation inner => inner.values
  | _ => []

mutual

/-- The argument values of an item. -/
def Item.values : Item → List String
  | .selection selection => selection.values
  | .operation inner => inner.values
  | .field _ | .name _ => []

/-- The argument values of a selection. -/
def Selection.values : Selection → List String
  | ⟨head, items⟩ => head.values ++ itemValues items

/-- The argument values of items. -/
def itemValues : List Item → List String
  | [] => []
  | item :: rest => item.values ++ itemValues rest

end

/-- The argument values of a fragment definition. -/
def Fragment.values (fragment : Fragment) : List String :=
  fragment.key.values ++ itemValues fragment.items

namespace Query

open Checked

/-- The argument values of all selections and fragments, in the order of the text. -/
def documentValues (selections : List Selection) (fragments : List Fragment) : List String :=
  selections.flatMap Selection.values ++ fragments.flatMap Fragment.values

/-! ## Scanning -/

/-- Where a scanner is in a text, with the text outside of literals, quotes included, and what
stands between the quotes of each literal. -/
inductive Scan where
  | outside (text : List Char) (literals : List (List Char))
  /-- In a literal, of which the body has been read. -/
  | inside (text : List Char) (literals : List (List Char)) (body : List Char)
  /-- In a literal, behind a backslash. -/
  | escaped (text : List Char) (literals : List (List Char)) (body : List Char)
deriving DecidableEq

/-- Reads one character. A literal runs from a quote to the next quote that no backslash escapes. -/
def Scan.step : Scan → Char → Scan
  | outside text literals, c =>
    if c = '"' then inside (text ++ [c]) literals [] else outside (text ++ [c]) literals
  | inside text literals body, c =>
    if c = '"' then outside (text ++ [c]) (literals ++ [body])
    else if c = '\\' then escaped text literals (body ++ [c])
    else inside text literals (body ++ [c])
  | escaped text literals body, c => inside text literals (body ++ [c])

/-- Reads a row of characters. -/
def Scan.steps (scan : Scan) (chars : List Char) : Scan := chars.foldl Scan.step scan

/-- Reads a text. -/
def scan (text : String) : Scan := (Scan.outside [] []).steps text.toList

/-- A scanner reads a row of characters in parts. -/
theorem Scan.steps_append (scan : Scan) (first rest : List Char) :
    scan.steps (first ++ rest) = (scan.steps first).steps rest := List.foldl_append

variable {text : List Char} {literals : List (List Char)}

/-- Nothing but a quote leads into a literal. -/
theorem Scan.steps_outside {chars : List Char} (noQuote : '"' ∉ chars) :
    (outside text literals).steps chars = outside (text ++ chars) literals := by
  induction chars generalizing text with
  | nil => rw [List.append_nil]; rfl
  | cons c rest ih =>
    rw [List.mem_cons, not_or] at noQuote
    have hstep : (outside text literals).step c = outside (text ++ [c]) literals :=
      if_neg (Ne.symm noQuote.1)
    rw [steps, List.foldl_cons, hstep, ← steps, ih noQuote.2, List.append_assoc]
    rfl

/-- A hexadecimal digit means nothing to a scanner, and ends no line. -/
theorem plain_of_hexDigit? {d : Char} (h : (Json.hexDigit? d).isSome) :
    d ≠ '"' ∧ d ≠ '\\' ∧ ¬ IsLineTerminator d := by
  refine ⟨?_, ?_, ?_⟩
  · rintro rfl
    exact absurd h (by decide)
  · rintro rfl
    exact absurd h (by decide)
  · rintro (rfl | rfl) <;> exact absurd h (by decide)

/-- No character of a value leads out of its literal, in the way it is written. -/
theorem Scan.steps_inside_of_writes {body : List Char} {c : Char} {written : List Char}
    (h : Writes c written) :
    (inside text literals body).steps written = inside text literals (body ++ written) := by
  cases h with
  | plain noQuote noBackslash _ => simp [steps, step, noQuote, noBackslash]
  | short _ => simp [steps, step]
  | long hfirst hsecond _ =>
    simp [steps, step, plain_of_hexDigit? hfirst, plain_of_hexDigit? hsecond]

/-- A scanner that is in a literal stays in it through all that is written for a value. -/
theorem Scan.steps_literalBody (value : String) {body : List Char} :
    (inside text literals body).steps (literalBody value) =
      inside text literals (body ++ literalBody value) := by
  rw [literalBody]
  induction value.toList generalizing body with
  | nil => rw [List.flatMap_nil, List.append_nil]; rfl
  | cons c value ih =>
    rw [List.flatMap_cons, steps_append, steps_inside_of_writes (writes_escapedChar c), ih,
      List.append_assoc]

/-- A literal leads back to where it began. -/
theorem Scan.steps_literal (value : String) :
    (outside text literals).steps (literal value).toList =
      outside (text ++ ['"', '"']) (literals ++ [literalBody value]) := by
  have hopen : (outside text literals).steps ['"'] = inside (text ++ ['"']) literals [] := rfl
  have hclose : (inside (text ++ ['"']) literals (literalBody value)).steps ['"'] =
      outside (text ++ ['"'] ++ ['"']) (literals ++ [literalBody value]) := rfl
  rw [toList_literal, ← List.singleton_append, steps_append, hopen, steps_append,
    steps_literalBody, List.nil_append, hclose, List.append_assoc]
  rfl

/-- No line ends in a literal. -/
theorem not_isLineTerminator_of_mem_literalBody {value : String} {d : Char}
    (h : d ∈ literalBody value) : ¬ IsLineTerminator d := by
  obtain ⟨c, -, hd⟩ := List.mem_flatMap.mp h
  have hwrites := writes_escapedChar c
  generalize Json.escapedChar c = written at hd hwrites
  -- A character that stands for itself is no control character, and an escape is spelled in others.
  cases hwrites with
  | plain _ _ printed =>
    obtain rfl := List.mem_singleton.mp hd
    rintro (rfl | rfl) <;> exact absurd printed (by decide)
  | @short letter hletter =>
    simp only [List.mem_cons, List.not_mem_nil, or_false] at hd
    rcases hd with rfl | rfl
    · decide
    · rintro (rfl | rfl) <;> cases hletter
  | long hfirst hsecond _ =>
    simp only [List.mem_cons, List.not_mem_nil, or_false] at hd
    rcases hd with rfl | rfl | rfl | rfl | rfl | rfl
    · decide
    · decide
    · decide
    · decide
    · exact (plain_of_hexDigit? hfirst).2.2
    · exact (plain_of_hexDigit? hsecond).2.2

/-- The text of a token outside of literals. -/
def Token.outer : Token → List Char
  | .literal _ => ['"', '"']
  | token => token.text.toList

/-- The value of a literal; other tokens have none. -/
def Token.values : Token → List String
  | .literal value => [value]
  | _ => []

/-- Scanning the text of a row of tokens finds its literals, if no word has a quote in it. -/
theorem Scan.steps_tokensText {tokens : List Token}
    (words : ∀ name, .word name ∈ tokens → '"' ∉ name.toList) :
    (outside text literals).steps (tokensText tokens).toList =
      outside (text ++ tokens.flatMap Token.outer)
        (literals ++ (tokens.flatMap Token.values).map literalBody) := by
  induction tokens generalizing text literals with
  | nil => simp [steps]
  | cons token rest ih =>
    have words_rest := fun name h => words name (List.mem_cons_of_mem _ h)
    rw [tokensText_cons, String.toList_append, steps_append]
    -- Words and marks are read outside of literals. A literal leads back outside with one more
    -- body.
    cases token with
    | word name =>
      have noQuote : '"' ∉ name.toList := words name List.mem_cons_self
      rw [Token.text, steps_outside noQuote, ih words_rest]
      simp [Token.outer, Token.values, Token.text]
    | mark sign =>
      have noQuote : '"' ∉ sign.text.toList := by cases sign <;> decide
      rw [Token.text, steps_outside noQuote, ih words_rest]
      simp [Token.outer, Token.values, Token.text]
    | literal value =>
      rw [Token.text, steps_literal, ih words_rest]
      simp [Token.outer, Token.values]

/-! ## Forms -/

/-- A token with its value emptied. -/
def Token.blank : Token → Token
  | .literal _ => .literal ""
  | token => token

/-- What a token shows outside of literals does not depend on its value. -/
theorem Token.outer_blank (token : Token) : token.blank.outer = token.outer := by
  cases token <;> rfl

/-- Whether tokens fill a form with values: they are the tokens of the form, but for the literals,
and the values of these are the values. -/
structure Fills (form tokens : List Token) (values : List String) : Prop where
  blank : tokens.map Token.blank = form
  values : tokens.flatMap Token.values = values

namespace Fills

variable {form tokens otherForm others : List Token} {values otherValues : List String}

theorem nil : Fills [] [] [] := ⟨rfl, rfl⟩

/-- Forms that follow one another are filled with their values one after the other. -/
theorem append (h : Fills form tokens values) (h' : Fills otherForm others otherValues) :
    Fills (form ++ otherForm) (tokens ++ others) (values ++ otherValues) :=
  ⟨by rw [List.map_append, h.blank, h'.blank], by rw [List.flatMap_append, h.values, h'.values]⟩

theorem mark (sign : Mark) (h : Fills form tokens values) :
    Fills (.mark sign :: form) (.mark sign :: tokens) values :=
  ⟨by rw [List.map_cons, h.blank]; rfl, h.values⟩

theorem word (name : String) (h : Fills form tokens values) :
    Fills (.word name :: form) (.word name :: tokens) values :=
  ⟨by rw [List.map_cons, h.blank]; rfl, h.values⟩

theorem literal (value : String) (h : Fills form tokens values) :
    Fills (.literal "" :: form) (.literal value :: tokens) (value :: values) :=
  ⟨by rw [List.map_cons, h.blank]; rfl, congrArg (value :: ·) h.values⟩

/-- Tokens have the words of their form. -/
theorem word_mem_iff (h : Fills form tokens values) {name : String} :
    .word name ∈ form ↔ .word name ∈ tokens := by
  have hblank : ∀ token : Token, token.blank = .word name ↔ token = .word name := by
    rintro (_ | _ | _) <;> simp [Token.blank]
  simp [← h.blank, hblank]

end Fills

/-- Arguments behind the first fill their form with their values. -/
theorem fills_moreArgumentTokens (arguments : List (String × String)) :
    Fills (moreArgumentTokens (blankArguments arguments)) (moreArgumentTokens arguments)
      (arguments.map Prod.snd) := by
  induction arguments with
  | nil => exact Fills.nil.mark _
  | cons argument rest ih => exact (((ih.literal _).mark _).word _).mark _

/-- Arguments fill their form with their values, in order. -/
theorem fills_argumentTokens (arguments : List (String × String)) :
    Fills (argumentTokens (blankArguments arguments)) (argumentTokens arguments)
      (arguments.map Prod.snd) := by
  cases arguments with
  | nil => exact Fills.nil.mark _
  | cons argument rest => exact (((fills_moreArgumentTokens rest).literal _).mark _).word _

theorem fills_name (key : String) :
    Fills (WireHead.name key).tokens (WireHead.name key).tokens [] := Fills.nil.word key

/-- A head with arguments fills its form with their values. -/
theorem fills_call (key : String) (arguments : List (String × String)) :
    Fills (WireHead.call key (blankArguments arguments)).tokens (WireHead.call key arguments).tokens
      (arguments.map Prod.snd) :=
  ((fills_argumentTokens arguments).mark _).word key

theorem fills_on (typename : String) :
    Fills (WireHead.on typename).tokens (WireHead.on typename).tokens [] :=
  ((((Fills.nil.word typename).mark _).word _).mark _).mark _

/-- A head fills its form, or is refused as its form is. -/
theorem wireRootHead_blank (operation : OperationType) (head : Head) :
    Alike (fun wire form => Fills form.tokens wire.tokens head.values)
      (wireRootHead operation head) (wireRootHead operation head.blank) := by
  cases head with
  | type type => exact .map_same (rootName operation type) fills_name
  | operation inner =>
    cases inner with
    | argument target arguments =>
      cases target with
      | type type => exact .map_same (rootName operation type) fun root => fills_call root arguments
      | field field => exact .error _
    | on type => exact .ok (fills_on type.typename)
    | _ => exact .error _
  | _ => exact .error _

/-- A head below the root fills its form, or is refused as its form is. -/
theorem wireNestedHead_blank (head : Head) :
    Alike (fun wire form => Fills form.tokens wire.tokens head.values)
      (wireNestedHead head) (wireNestedHead head.blank) := by
  cases head with
  | field field => exact .map_same (objectFieldName field) fills_name
  | operation inner =>
    cases inner with
    | argument target arguments =>
      cases target with
      | type type => exact .map_same (rootName .query type) fun root => fills_call root arguments
      | field field => exact .ok (fills_call field.wireQueryName arguments)
    | on type => exact .ok (fills_on type.typename)
    | _ => exact .error _
  | _ => exact .error _

/-- A head in front of items. -/
theorem fills_selection {head formHead : WireHead} {items form : List WireItem}
    {values itemValues : List String} (hhead : Fills formHead.tokens head.tokens values)
    (hitems : Fills (leadingTokens form ++ wireTokens form)
      (leadingTokens items ++ wireTokens items) itemValues) :
    Fills (WireSelection.mk formHead form).tokens (WireSelection.mk head items).tokens
      (values ++ itemValues) := by
  rw [WireSelection.tokens, WireSelection.tokens]
  exact hhead.append (hitems.mark _)

/-- An item in front of others. -/
theorem fills_cons {item form : WireItem} {rest formRest : List WireItem}
    {values restValues : List String} (hitem : Fills form.tokens item.tokens values)
    (hrest : Fills (wireTokens formRest) (wireTokens rest) restValues) :
    Fills (wireTokens (form :: formRest)) (wireTokens (item :: rest)) (values ++ restValues) := by
  rw [wireTokens, wireTokens]
  exact hitem.append (hrest.mark _)

mutual

/-- An item fills its form, or is refused as its form is. -/
theorem wireItem_blank : ∀ item : Item,
    Alike (fun wire form => Fills form.tokens wire.tokens item.values)
      (wireItem item) (wireItem item.blank)
  | .field field => .ok (by rw [WireItem.tokens]; exact Fills.nil.word _)
  | .name name => .ok (by rw [WireItem.tokens]; exact Fills.nil.word _)
  | .selection selection => by
    rw [Item.blank, wireItem, wireItem, Item.values]
    refine (wireNested_blank selection).map fun wire form h => ?_
    rw [WireItem.tokens, WireItem.tokens]
    exact h
  | .operation (.fragmentRef name) => .ok (by
      rw [WireItem.tokens]
      exact (Fills.nil.word _).mark _)
  | .operation (.argument _ _) => .error _
  | .operation (.on _) => .error _
  | .operation (.fragment _ _) => .error _

/-- A selection below the root fills its form, or is refused as its form is. -/
theorem wireNested_blank : ∀ selection : Selection,
    Alike (fun wire form => Fills form.tokens wire.tokens selection.values)
      (wireNested selection) (wireNested selection.blank)
  | ⟨head, items⟩ => by
    rw [Selection.blank, wireNested, wireNested, Selection.values]
    refine (wireNestedHead_blank head).bind fun wire form hhead => ?_
    refine (wireItems_blank items).bind fun wires forms hitems => ?_
    exact .ok (fills_selection hhead hitems)

/-- A list of items fills its form, or is refused as its form is. -/
theorem wireItems_blank : ∀ items : List Item,
    Alike (fun wires forms => Fills (leadingTokens forms ++ wireTokens forms)
      (leadingTokens wires ++ wireTokens wires) (itemValues items))
      (wireItems items) (wireItems (blankItems items))
  | [] => .error _
  | item :: rest => by
    rw [blankItems, wireItems, wireItems, itemValues]
    refine (wireItem_blank item).bind fun wire form hitem => ?_
    refine (moreWireItems_blank rest).bind fun wires forms hrest => ?_
    exact .ok (fills_cons hitem hrest)

/-- The items behind the first fill their form, or are refused as their form is. -/
theorem moreWireItems_blank : ∀ items : List Item,
    Alike (fun wires forms => Fills (wireTokens forms) (wireTokens wires) (itemValues items))
      (moreWireItems items) (moreWireItems (blankItems items))
  | [] => .ok ((Fills.nil.mark _).word _)
  | item :: rest => by
    rw [blankItems, moreWireItems, moreWireItems, itemValues]
    refine (wireItem_blank item).bind fun wire form hitem => ?_
    refine (moreWireItems_blank rest).bind fun wires forms hrest => ?_
    exact .ok (fills_cons hitem hrest)

end

/-- A root selection fills its form, or is refused as its form is. -/
theorem wireRoot_blank (operation : OperationType) (selection : Selection) :
    Alike (fun wire form => Fills form.tokens wire.tokens selection.values)
      (wireRoot operation selection) (wireRoot operation selection.blank) := by
  obtain ⟨head, items⟩ := selection
  rw [Selection.blank, wireRoot, wireRoot, Selection.values]
  refine (wireRootHead_blank operation head).bind fun wire form hhead => ?_
  refine (wireItems_blank items).bind fun wires forms hitems => ?_
  exact .ok (fills_selection hhead hitems)

/-- A fragment definition fills its form, or is refused as its form is. -/
theorem wireFragment_blank (fragment : Fragment) :
    Alike (fun wire form => Fills form.tokens wire.tokens fragment.values)
      (wireFragment fragment) (wireFragment fragment.blank) := by
  obtain ⟨key, items⟩ := fragment
  cases key with
  | fragment name type =>
    refine (wireItems_blank items).bind fun wires forms hitems => .ok ?_
    exact (((((((hitems.mark _).word _).mark _).word _).mark _).word _).mark _).word _
  | argument target arguments => exact .error _
  | on type => exact .error _
  | fragmentRef name => exact .error _

/-- Parts one after the other fill their forms one after the other. -/
theorem mapM_blank {α β : Type} {wire : α → Except QueryError β} {blank : α → α}
    {tokens : β → List Token} {values : α → List String}
    (each : ∀ part, Alike (fun wire form => Fills (tokens form) (tokens wire) (values part))
      (wire part) (wire (blank part))) (parts : List α) :
    Alike (fun wires forms => Fills (forms.flatMap tokens) (wires.flatMap tokens)
      (parts.flatMap values)) (parts.mapM wire) ((parts.map blank).mapM wire) := by
  induction parts with
  | nil => exact .ok .nil
  | cons part rest ih =>
    rw [List.map_cons, List.mapM_cons, List.mapM_cons, List.flatMap_cons]
    refine (each part).bind fun first form hfirst => ?_
    refine ih.bind fun wires forms hrest => .ok ?_
    rw [List.flatMap_cons, List.flatMap_cons]
    exact hfirst.append hrest

/-- A tree fills its form with its values, or is refused as its form is. -/
theorem wireDocument_blank (operation : OperationType) (selections : List Selection)
    (fragments : List Fragment) :
    Alike (fun wire form => Fills form.tokens wire.tokens (documentValues selections fragments))
      (wireDocument operation selections fragments)
      (wireDocument operation (selections.map Selection.blank) (fragments.map Fragment.blank)) := by
  cases selections with
  | nil => exact .error _
  | cons selection rest =>
    have hroots := mapM_blank (wireRoot_blank operation) (selection :: rest)
    refine hroots.bind fun roots rootForms hroots => ?_
    refine (mapM_blank wireFragment_blank fragments).bind fun definitions forms hfragments => .ok ?_
    rw [documentValues]
    exact ((hroots.append (hfragments.mark _)).mark _).word _

/-! ## Texts of one form -/

/-- Whether scanning a text leaves what is outside of its literals, and finds the values in them:
the text ends outside, the literals stand for the values, in order, and no line ends in one of
them. -/
def Shows (text : String) (outside : List Char) (values : List String) : Prop :=
  ∃ literals, scan text = .outside outside literals ∧
    literals.map unescape = values.map some ∧
    ∀ body ∈ literals, ∀ c ∈ body, ¬ IsLineTerminator c

/-- The text of tokens that fill a form shows the values. -/
theorem Fills.shows {form tokens : List Token} {values : List String}
    (fills : Fills form tokens values) (words : ∀ name, .word name ∈ form → '"' ∉ name.toList) :
    Shows (tokensText tokens) (form.flatMap Token.outer) values := by
  have words : ∀ name, .word name ∈ tokens → '"' ∉ name.toList :=
    fun name h => words name (fills.word_mem_iff.mpr h)
  have houter : form.flatMap Token.outer = tokens.flatMap Token.outer := by
    rw [← fills.blank, List.flatMap_map]
    simp only [Token.outer_blank]
  refine ⟨values.map literalBody, ?_, ?_, ?_⟩
  · rw [scan, Scan.steps_tokensText words, fills.values, houter]
    rfl
  · rw [List.map_map]
    exact List.map_congr_left fun value _ => unescape_literalBody value
  · intro body hbody c hc
    obtain ⟨value, -, rfl⟩ := List.mem_map.mp hbody
    exact not_isLineTerminator_of_mem_literalBody hc

/-- The values of arguments do not change what the text of a tree says outside of literals. Trees
that differ in them only are refused with the same error, or have texts that scan alike, each to its
own values. -/
theorem scan_document {operation : OperationType} {selections others : List Selection}
    {fragments otherFragments : List Fragment}
    (sameSelections : selections.map Selection.blank = others.map Selection.blank)
    (sameFragments : fragments.map Fragment.blank = otherFragments.map Fragment.blank)
    (noQuote : ∀ node ∈ emittedNodes operation selections fragments,
      ∀ name ∈ node.names, '"' ∉ name.toList) :
    (∃ error, document operation selections fragments = .error error ∧
      document operation others otherFragments = .error error) ∨
    ∃ text otherText outside, document operation selections fragments = .ok text ∧
      document operation others otherFragments = .ok otherText ∧
      Shows text outside (documentValues selections fragments) ∧
      Shows otherText outside (documentValues others otherFragments) := by
  have halike := wireDocument_blank operation selections fragments
  have hother := wireDocument_blank operation others otherFragments
  rw [← sameSelections, ← sameFragments] at hother
  rw [document_eq, document_eq]
  -- Both trees go with the one form.
  generalize hwire : wireDocument operation selections fragments = written at halike
  generalize wireDocument operation others otherFragments = otherWritten at hother
  generalize wireDocument operation (selections.map Selection.blank)
    (fragments.map Fragment.blank) = formWritten at halike hother
  cases halike with
  | error error =>
    cases hother
    exact .inl ⟨error, rfl, rfl⟩
  | @ok wire form fills =>
    cases hother with
    | @ok other _ otherFills =>
      rw [emittedNodes_eq hwire] at noQuote
      have words : ∀ name, .word name ∈ form.tokens → '"' ∉ name.toList := by
        intro name h
        -- The words are named by one of the trees, and the other tree has the same ones by the
        -- form.
        rcases WireDocument.emitted (fills.word_mem_iff.mp h) with hkeyword | ⟨node, hnode, hname⟩
        · have hall : ∀ name ∈ keywords, '"' ∉ name.toList := by decide
          exact hall name hkeyword
        · exact noQuote node hnode name hname
      have hshows := fills.shows words
      have hotherShows := otherFills.shows words
      rw [← WireDocument.text_eq] at hshows hotherShows
      exact .inr ⟨wire.text, other.text, _, rfl, rfl, hshows, hotherShows⟩

/-- Books by two phrases, each with its authors by a name. -/
def booksAndAuthors (phrase after name : String) : List Selection :=
  [⟨.operation (.argument (.type bookType) [("phrase", phrase), ("after", after)]), [
    .name "title",
    .selection ⟨
      .operation (.argument (.field (bookType.fields.getD 1 default)) [("name", name)]),
      [.name "name"]⟩]⟩]

/-- Values with quotes, a backslash and a line end are found as they are, and the two texts do not
differ outside of their literals. -/
theorem booksAndAuthors_scan :
    ∃ text otherText outside,
      document .query (booksAndAuthors "\")\x7b" "\\" "\n") [] = .ok text ∧
      document .query (booksAndAuthors "" "a:\"b\"" "é") [] = .ok otherText ∧
      Shows text outside ["\")\x7b", "\\", "\n"] ∧
      Shows otherText outside ["", "a:\"b\"", "é"] :=
  (@scan_document .query (booksAndAuthors "\")\x7b" "\\" "\n")
    (booksAndAuthors "" "a:\"b\"" "é") [] [] rfl rfl (by decide)).resolve_left
    fun ⟨_, h, _⟩ => by cases h

end Query

end TypedQuery
