import TypedQuery.Proofs.Query.Values

/-!
# Braces and the discriminator

Outside of string literals the braces of a text are balanced, one pair for each selection and each
fragment besides the pair around the roots, and every list of items ends with the discriminator:
only the brace that closes the roots stands behind something else (`braces_document`).

This is a property of rows of tokens (`Blocks`), in which a block is a list of items between braces.
Each construct of a tree is such a row, with as many blocks as it has selections. The text is taken
back to its tokens at the braces: a scanner that is outside of literals before a brace stands before
a token, since nothing that is written for a value leads out of its literal.
-/

namespace TypedQuery

/-! ## Selections at every depth -/

mutual

/-- The selections in an item, at every depth. -/
def Item.selections : Item → List Selection
  | .selection selection => selection.selections
  | .field _ | .name _ | .operation _ => []

/-- A selection and the selections in it, at every depth. -/
def Selection.selections : Selection → List Selection
  | ⟨head, items⟩ => ⟨head, items⟩ :: itemSelections items

/-- The selections in a list of items, at every depth. -/
def itemSelections : List Item → List Selection
  | [] => []
  | item :: rest => item.selections ++ itemSelections rest

end

/-- The selections in a fragment definition, at every depth. -/
def Fragment.selections (fragment : Fragment) : List Selection := itemSelections fragment.items

namespace Query

open Checked

/-- The selections of a document, at every depth, those in fragments included. -/
def allSelections (selections : List Selection) (fragments : List Fragment) : List Selection :=
  selections.flatMap Selection.selections ++ fragments.flatMap Fragment.selections

/-! ## Braces of a text -/

/-- The part of a text outside of literals that a scanner has read. -/
def Scan.text : Scan → List Char
  | outside text _ | inside text _ _ | escaped text _ _ => text

/-- Whether a scanner is in a literal. -/
def Scan.IsInside : Scan → Prop
  | outside _ _ => False
  | inside _ _ _ | escaped _ _ _ => True

/-- Whether what follows the beginning of a text stands outside of literals. -/
def Outside (before : List Char) : Prop := ¬ ((Scan.outside [] []).steps before).IsInside

/-- What of a text stands outside of literals, the quotes of literals included. -/
def outer (chars : List Char) : List Char := ((Scan.outside [] []).steps chars).text

/-- Characters with braces in pairs, one inside the other or one after the other. -/
inductive Nested : List Char → Prop
  | nil : Nested []
  | plain {c : Char} {rest : List Char} (notOpen : c ≠ '\x7b') (notClose : c ≠ '\x7d')
      (h : Nested rest) : Nested (c :: rest)
  | pair {inner rest : List Char} (hinner : Nested inner) (hrest : Nested rest) :
      Nested ('\x7b' :: (inner ++ '\x7d' :: rest))

/-- Whether literals end and braces outside of them are balanced. -/
structure Balanced (chars : List Char) : Prop where
  outside : Outside chars
  nested : Nested (outer chars)

/-- A name without braces and quotes. -/
def IsPlain (name : String) : Prop :=
  '"' ∉ name.toList ∧ '\x7b' ∉ name.toList ∧ '\x7d' ∉ name.toList

instance (name : String) : Decidable (IsPlain name) := inferInstanceAs (Decidable (_ ∧ _))

/-- Braces in pairs are in pairs if more such braces follow. -/
theorem Nested.append {first rest : List Char} (hfirst : Nested first) (hrest : Nested rest) :
    Nested (first ++ rest) := by
  induction hfirst with
  | nil => exact hrest
  | plain notOpen notClose _ ih => exact .plain notOpen notClose ih
  | pair hinner _ _ ih =>
    rw [List.cons_append, List.append_assoc, List.cons_append]
    exact .pair hinner ih

/-- Where there are no braces, they are in pairs. -/
theorem nested_of_no_brace {chars : List Char} (noOpen : '\x7b' ∉ chars)
    (noClose : '\x7d' ∉ chars) : Nested chars := by
  induction chars with
  | nil => exact .nil
  | cons c rest ih =>
    rw [List.mem_cons, not_or] at noOpen noClose
    exact .plain (Ne.symm noOpen.1) (Ne.symm noClose.1) (ih noOpen.2 noClose.2)

/-! ## Rows of blocks -/

/-- Whether a token is a brace. -/
def Token.IsBrace (token : Token) : Prop := token = .mark .openBrace ∨ token = .mark .closeBrace

instance (token : Token) : Decidable token.IsBrace := inferInstanceAs (Decidable (_ ∨ _))

/-- Only a brace has braces outside of literals, if the words have none. -/
theorem Token.no_brace_outer {token : Token} (noBrace : ¬ token.IsBrace)
    (plain : ∀ name, token = .word name → IsPlain name) :
    '\x7b' ∉ token.outer ∧ '\x7d' ∉ token.outer := by
  cases token with
  | word name => exact (plain name rfl).2
  | mark sign =>
    revert noBrace
    cases sign <;> decide
  | literal value =>
    have hquotes : '\x7b' ∉ ['"', '"'] ∧ '\x7d' ∉ ['"', '"'] := by decide
    exact hquotes

/-- The end of a list of items. -/
def listEnd : List Token := [.mark .comma, .word discriminator, .mark .closeBrace]

/-- Tokens with a number of blocks, one inside the other or one after the other. A block is closed
behind the discriminator. -/
inductive Blocks : Nat → List Token → Prop
  | nil : Blocks 0 []
  | plain {token : Token} {rest : List Token} {n : Nat} (noBrace : ¬ token.IsBrace)
      (h : Blocks n rest) : Blocks n (token :: rest)
  | block {inner rest : List Token} {m n : Nat} (hinner : Blocks m inner) (hrest : Blocks n rest) :
      Blocks (1 + m + n) (.mark .openBrace :: (inner ++ (listEnd ++ rest)))

namespace Blocks

variable {tokens first rest : List Token} {m n : Nat}

/-- The blocks of rows that follow one another add up. -/
theorem append (hfirst : Blocks m first) (hrest : Blocks n rest) :
    Blocks (m + n) (first ++ rest) := by
  induction hfirst with
  | nil => rwa [Nat.zero_add]
  | plain noBrace _ ih => exact .plain noBrace ih
  | @block inner others m k hinner _ _ ih =>
    rw [List.cons_append, List.append_assoc, List.append_assoc, Nat.add_assoc]
    exact .block hinner ih

theorem word (name : String) (h : Blocks n rest) : Blocks n (.word name :: rest) :=
  .plain (by simp [Token.IsBrace]) h

theorem literal (value : String) (h : Blocks n rest) : Blocks n (.literal value :: rest) :=
  .plain (by simp [Token.IsBrace]) h

theorem mark {sign : Mark} (h : Blocks n rest) (noBrace : ¬ (Token.mark sign).IsBrace) :
    Blocks n (.mark sign :: rest) := .plain noBrace h

/-- The rows of a list of parts, one after the other. -/
theorem flatMap {α β : Type} {parts : List α} {wires : List β} {tokens : β → List Token}
    {selections : α → List Selection} {extra : Nat}
    (each : List.Forall₂ (fun part wire => Blocks (extra + (selections part).length) (tokens wire))
      parts wires) :
    Blocks (extra * parts.length + (parts.flatMap selections).length) (wires.flatMap tokens) := by
  induction each with
  | nil => simpa using Blocks.nil
  | @cons part wire parts wires hpart _ ih =>
    rw [List.flatMap_cons, List.flatMap_cons, List.length_append, List.length_cons]
    have hcount : extra * (parts.length + 1) +
        ((selections part).length + (parts.flatMap selections).length) =
        extra + (selections part).length +
          (extra * parts.length + (parts.flatMap selections).length) := by
      rw [Nat.mul_succ]
      omega
    rw [hcount]
    exact hpart.append ih

/-! ### What a row shows -/

/-- The braces of the text of a row are balanced outside of literals. -/
theorem nested_outer (blocks : Blocks n tokens)
    (words : ∀ name, .word name ∈ tokens → IsPlain name) : Nested (tokens.flatMap Token.outer) := by
  induction blocks with
  | nil => exact .nil
  | @plain token rest n noBrace _ ih =>
    have hrest := ih fun name h => words name (List.mem_cons_of_mem _ h)
    have hfree := Token.no_brace_outer noBrace fun name h => words name (h ▸ List.mem_cons_self)
    rw [List.flatMap_cons]
    exact (nested_of_no_brace hfree.1 hfree.2).append hrest
  -- The discriminator before the closing brace is a word without braces.
  | @block inner rest m n _ _ ihInner ihRest =>
    have hinner := ihInner fun name h => words name (by simp [h])
    have hrest := ihRest fun name h => words name (by simp [h])
    have hend : Nested (",".toList ++ discriminator.toList) :=
      nested_of_no_brace (by decide) (by decide)
    have hblock := Nested.pair (hinner.append hend) hrest
    rw [List.append_assoc] at hblock
    rw [List.flatMap_cons, List.flatMap_append, List.flatMap_append]
    exact hblock

/-- Outside of literals a row has one opening brace for each block. -/
theorem count_outer (blocks : Blocks n tokens)
    (words : ∀ name, .word name ∈ tokens → IsPlain name) :
    (tokens.flatMap Token.outer).count '\x7b' = n := by
  induction blocks with
  | nil => rfl
  | @plain token rest n noBrace _ ih =>
    have hrest := ih fun name h => words name (List.mem_cons_of_mem _ h)
    have hfree := Token.no_brace_outer noBrace fun name h => words name (h ▸ List.mem_cons_self)
    rw [List.flatMap_cons, List.count_append, hrest, List.count_eq_zero.mpr hfree.1, Nat.zero_add]
  | @block inner rest m n _ _ ihInner ihRest =>
    have hinner := ihInner fun name h => words name (by simp [h])
    have hrest := ihRest fun name h => words name (by simp [h])
    have hopen : (Token.mark .openBrace).outer.count '\x7b' = 1 := rfl
    have hend : (listEnd.flatMap Token.outer).count '\x7b' = 0 := rfl
    rw [List.flatMap_cons, List.flatMap_append, List.flatMap_append, List.count_append,
      List.count_append, List.count_append, hopen, hinner, hend, hrest, Nat.zero_add, Nat.add_assoc]

end Blocks

/-! ## The rows of a tree -/

/-- The arguments behind the first have no block: a brace in a value stands in a literal. -/
theorem blocks_moreArgumentTokens (arguments : List (String × String)) :
    Blocks 0 (moreArgumentTokens arguments) := by
  induction arguments with
  | nil => exact Blocks.nil.mark (by decide)
  | cons argument rest ih => exact (((ih.literal _).mark (by decide)).word _).mark (by decide)

/-- Arguments have no block. -/
theorem blocks_argumentTokens (arguments : List (String × String)) :
    Blocks 0 (argumentTokens arguments) := by
  cases arguments with
  | nil => exact Blocks.nil.mark (by decide)
  | cons argument rest =>
    exact (((blocks_moreArgumentTokens rest).literal _).mark (by decide)).word _

/-- A head has no block. -/
theorem WireHead.blocks (head : WireHead) : Blocks 0 head.tokens := by
  cases head with
  | name key => exact Blocks.nil.word key
  | call key arguments => exact ((blocks_argumentTokens arguments).mark (by decide)).word key
  | on typename =>
    exact ((((Blocks.nil.word typename).mark (by decide)).word "on").mark (by decide)).mark
      (by decide)

/-- Whether a row is the rest of a list of items, with a number of blocks before its end. -/
def EndsList (n : Nat) (tokens : List Token) : Prop :=
  ∃ inner, Blocks n inner ∧ tokens = inner ++ listEnd

/-- What stands before a list of items, and the list between its braces. -/
theorem Blocks.block_list {first tokens : List Token} {n : Nat} (hfirst : Blocks 0 first)
    (hlist : EndsList n tokens) : Blocks (1 + n) (first ++ .mark .openBrace :: tokens) := by
  obtain ⟨inner, hinner, rfl⟩ := hlist
  have hblock := Blocks.block hinner Blocks.nil
  rw [List.append_nil] at hblock
  simpa using hfirst.append hblock

/-- An item in front of the rest of its list. -/
theorem EndsList.cons {first tokens : List Token} {m n : Nat} (hfirst : Blocks m first)
    (hlist : EndsList n tokens) : EndsList (m + n) (first ++ tokens) := by
  obtain ⟨inner, hinner, rfl⟩ := hlist
  exact ⟨first ++ inner, hfirst.append hinner, (List.append_assoc ..).symm⟩

/-- A comma in front of an item, or of the discriminator. -/
theorem EndsList.comma {first tokens : List Token} {m n : Nat} (hfirst : Blocks m first)
    (hlist : EndsList n tokens) : EndsList (m + n) (.mark .comma :: (first ++ tokens)) :=
  EndsList.cons (hfirst.mark (by decide)) hlist

mutual

/-- An item has a block for each selection in it. -/
theorem blocks_wireItem : ∀ {item : Item} {wire : WireItem}, wireItem item = .ok wire →
    Blocks item.selections.length wire.tokens
  | .field field, wire, h => by
    cases h
    rw [WireItem.tokens]
    exact Blocks.nil.word _
  | .name name, wire, h => by
    cases h
    rw [WireItem.tokens]
    exact Blocks.nil.word _
  | .selection selection, wire, h => by
    rw [wireItem, map_eq_ok] at h
    obtain ⟨inner, hinner, rfl⟩ := h
    rw [WireItem.tokens, Item.selections]
    exact blocks_wireNested hinner
  | .operation (.fragmentRef name), wire, h => by
    cases h
    rw [WireItem.tokens]
    exact (Blocks.nil.word _).mark (by decide)
  | .operation (.argument _ _), wire, h => nomatch h
  | .operation (.on _), wire, h => nomatch h
  | .operation (.fragment _ _), wire, h => nomatch h

/-- A selection has a block for itself and for each selection in it. -/
theorem blocks_wireNested : ∀ {selection : Selection} {wire : WireSelection},
    wireNested selection = .ok wire → Blocks selection.selections.length wire.tokens
  | ⟨head, items⟩, wire, h => by
    rw [wireNested, bind_eq_ok] at h
    obtain ⟨wireHead, -, h⟩ := h
    rw [bind_eq_ok] at h
    obtain ⟨wires, hitems, h⟩ := h
    cases h
    rw [WireSelection.tokens, Selection.selections, List.length_cons, Nat.add_comm]
    exact wireHead.blocks.block_list (endsList_wireItems hitems)

/-- A list of items, from its opening brace on, has a block for each selection in it and then its
end. -/
theorem endsList_wireItems : ∀ {items : List Item} {wires : List WireItem},
    wireItems items = .ok wires →
      EndsList (itemSelections items).length (leadingTokens wires ++ wireTokens wires)
  | [], wires, h => nomatch h
  | item :: rest, wires, h => by
    rw [wireItems, bind_eq_ok] at h
    obtain ⟨first, hfirst, h⟩ := h
    rw [bind_eq_ok] at h
    obtain ⟨others, hrest, h⟩ := h
    cases h
    rw [itemSelections, List.length_append, leadingTokens, List.nil_append, wireTokens]
    exact (endsList_moreWireItems hrest).cons (blocks_wireItem hfirst)

/-- So has what follows an item of a list, the comma in between included. -/
theorem endsList_moreWireItems : ∀ {items : List Item} {wires : List WireItem},
    moreWireItems items = .ok wires →
      EndsList (itemSelections items).length (.mark .comma :: wireTokens wires)
  | [], wires, h => by
    cases h
    rw [wireTokens]
    exact ⟨[], .nil, rfl⟩
  | item :: rest, wires, h => by
    rw [moreWireItems, bind_eq_ok] at h
    obtain ⟨first, hfirst, h⟩ := h
    rw [bind_eq_ok] at h
    obtain ⟨others, hrest, h⟩ := h
    cases h
    rw [itemSelections, List.length_append, wireTokens]
    exact (endsList_moreWireItems hrest).comma (blocks_wireItem hfirst)

end

/-- A root selection has a block for itself and for each selection in it. -/
theorem blocks_wireRoot {operation : OperationType} {selection : Selection} {wire : WireSelection}
    (h : wireRoot operation selection = .ok wire) :
    Blocks selection.selections.length wire.tokens := by
  obtain ⟨head, items⟩ := selection
  rw [wireRoot, bind_eq_ok] at h
  obtain ⟨wireHead, -, h⟩ := h
  rw [bind_eq_ok] at h
  obtain ⟨wires, hitems, h⟩ := h
  cases h
  rw [WireSelection.tokens, Selection.selections, List.length_cons, Nat.add_comm]
  exact wireHead.blocks.block_list (endsList_wireItems hitems)

/-- A fragment has a block for its items and one for each selection in them. -/
theorem blocks_wireFragment {fragment : Fragment} {wire : WireFragment}
    (h : wireFragment fragment = .ok wire) :
    Blocks (1 + fragment.selections.length) wire.tokens := by
  obtain ⟨key, items⟩ := fragment
  cases key with
  | fragment name on =>
    rw [wireFragment, bind_eq_ok] at h
    obtain ⟨wires, hitems, h⟩ := h
    cases h
    have hwords : Blocks 0 [.word "fragment", .mark .blank, .word name, .mark .blank, .word "on",
        .mark .blank, .word on.typename] :=
      ((((((Blocks.nil.word _).mark (by decide)).word _).mark (by decide)).word _).mark
        (by decide)).word _
    exact hwords.block_list (endsList_wireItems hitems)
  | argument target arguments => cases h
  | on type => cases h
  | fragmentRef name => cases h

/-! ## Closing braces -/

/-- Whether each closing brace stands behind the discriminator. -/
def Marked (tokens : List Token) : Prop :=
  ∀ before after, tokens = before ++ .mark .closeBrace :: after →
    [.mark .comma, .word discriminator] <:+ before

namespace Marked

variable {first rest : List Token}

/-- A token in front changes nothing, unless it is a closing brace itself. -/
theorem cons {token : Token} (h : Marked rest) (noClose : token ≠ .mark .closeBrace) :
    Marked (token :: rest) := by
  intro before after heq
  rw [List.cons_eq_append_iff] at heq
  rcases heq with ⟨-, heq⟩ | ⟨before, rfl, heq⟩
  · rw [List.cons.injEq] at heq
    exact absurd heq.1.symm noClose
  · exact (h before after heq).trans (List.suffix_cons _ _)

/-- What is asked of closing braces holds of rows that follow one another. -/
theorem append (hfirst : Marked first) (hrest : Marked rest) : Marked (first ++ rest) := by
  intro before after heq
  rw [List.append_eq_append_iff] at heq
  -- The brace stands in the second row, or it stands in the first one.
  rcases heq with ⟨more, rfl, heq⟩ | ⟨more, rfl, heq⟩
  · exact (hrest more after heq).trans (List.suffix_append _ _)
  · cases more with
    | nil =>
      have h := hrest [] after heq.symm
      simp at h
    | cons token more =>
      rw [List.cons_append, List.cons.injEq] at heq
      obtain ⟨rfl, -⟩ := heq
      exact hfirst before more rfl

/-- The brace at the end of a list of items stands behind the discriminator. -/
theorem listEnd : Marked listEnd := by
  intro before after heq
  match before, heq with
  | [], heq => cases heq
  | [_], heq => cases heq
  | [_, _], heq => cases heq; exact List.suffix_rfl
  | _ :: _ :: _ :: _, heq => simp [Query.listEnd] at heq

/-- Of the closing braces in a row, one may stand where nothing is asked of it. -/
theorem eq_or_suffix {before after : List Token} (hfirst : Marked first) (hrest : Marked rest)
    (heq : first ++ .mark .closeBrace :: rest = before ++ .mark .closeBrace :: after) :
    before = first ∨ [.mark .comma, .word discriminator] <:+ before := by
  rw [List.append_eq_append_iff] at heq
  -- The two braces are the same, or the second stands behind the first, or before it.
  rcases heq with ⟨more, rfl, heq⟩ | ⟨more, rfl, heq⟩
  · cases more with
    | nil => exact .inl (List.append_nil _)
    | cons token more =>
      rw [List.cons_append, List.cons.injEq] at heq
      exact .inr ((hrest more after heq.2).trans
        ((List.suffix_cons _ _).trans (List.suffix_append _ _)))
  · cases more with
    | nil => exact .inl (List.append_nil _).symm
    | cons token more =>
      rw [List.cons_append, List.cons.injEq] at heq
      obtain ⟨rfl, -⟩ := heq
      exact .inr (hfirst before more rfl)

end Marked

/-- In a row of blocks every closing brace stands behind the discriminator. -/
theorem Blocks.marked {tokens : List Token} {n : Nat} (blocks : Blocks n tokens) :
    Marked tokens := by
  induction blocks with
  | nil =>
    intro before after heq
    simp at heq
  | plain noBrace _ ih => exact ih.cons fun heq => noBrace (.inr heq)
  | block _ _ ihInner ihRest =>
    exact (ihInner.append (Marked.listEnd.append ihRest)).cons (by simp)

/-! ## From the text to its tokens -/

/-- What a scanner has read outside of literals never gets shorter. -/
theorem Scan.text_length_le (scan : Scan) (chars : List Char) :
    scan.text.length ≤ (scan.steps chars).text.length := by
  induction chars generalizing scan with
  | nil => exact Nat.le_refl _
  | cons c rest ih =>
    refine Nat.le_trans ?_ (ih (scan.step c))
    cases scan with
    | outside text literals =>
      simp only [step]
      split_ifs <;> simp [Scan.text]
    | inside text literals body =>
      simp only [step]
      split_ifs <;> simp [Scan.text]
    | escaped text literals body => exact Nat.le_refl _

/-- A scanner that has not read anything outside of literals has been in one all the time. -/
theorem Scan.isInside_steps {scan : Scan} {before after : List Char} (inside : scan.IsInside)
    (same : (scan.steps (before ++ after)).text.length = scan.text.length) :
    (scan.steps before).IsInside := by
  induction before generalizing scan with
  | nil => exact inside
  | cons c before ih =>
    -- One character reads no more outside of literals than all of them do, which is nothing.
    have hle : (scan.step c).text.length ≤ scan.text.length :=
      same ▸ (scan.step c).text_length_le (before ++ after)
    have hstep : (scan.step c).IsInside ∧ (scan.step c).text.length = scan.text.length := by
      cases scan with
      | outside text literals => exact inside.elim
      | inside text literals body =>
        by_cases hquote : c = '"'
        · -- Leaving the literal reads its last quote.
          have hquoted : ((Scan.inside text literals body).step c).text = text ++ [c] := by
            simp [step, hquote, Scan.text]
          rw [hquoted, List.length_append] at hle
          exact absurd hle (Nat.not_succ_le_self _)
        · by_cases hbackslash : c = '\\' <;>
            simp [step, hquote, hbackslash, Scan.IsInside, Scan.text]
      | escaped text literals body => exact ⟨trivial, rfl⟩
    exact ih hstep.1 (Eq.trans same hstep.2.symm)

/-- A scanner is in a literal before each character of it but the first. -/
theorem Scan.isInside_of_literal {value : String} {text before after : List Char}
    {literals : List (List Char)} {c : Char}
    (h : literalBody value ++ ['"'] = before ++ c :: after) :
    ((inside text literals []).steps before).IsInside := by
  have hlength := congrArg List.length h
  simp only [List.length_append, List.length_cons, List.length_nil] at hlength
  obtain ⟨more, hmore⟩ : before <+: literalBody value :=
    List.prefix_of_prefix_length_le ⟨_, h.symm⟩ (List.prefix_append _ _) (by omega)
  refine @isInside_steps _ before more trivial ?_
  rw [hmore, steps_literalBody]
  rfl

/-- The one token that has a closing brace outside of literals is that brace. -/
theorem Token.eq_closeBrace {token : Token} {text before after : List Char}
    {literals : List (List Char)} (plain : ∀ name, token = .word name → IsPlain name)
    (h : token.text.toList = before ++ '\x7d' :: after)
    (outside : ¬ ((Scan.outside text literals).steps before).IsInside) :
    token = .mark .closeBrace ∧ before = [] := by
  have hmem : '\x7d' ∈ token.text.toList := h ▸ List.mem_append_right _ List.mem_cons_self
  cases token with
  | word name => exact absurd hmem (plain name rfl).2.2
  | mark sign =>
    obtain rfl : sign = .closeBrace := by
      revert hmem
      cases sign <;> decide
    have hbefore : before = [] ∧ after = [] := by
      simpa [Token.text, Mark.text, List.singleton_eq_append_iff] using h
    exact ⟨rfl, hbefore.1⟩
  | literal value =>
    -- The brace is not the first quote, and behind that quote the scanner is in the literal.
    rw [Token.text, toList_literal] at h
    cases before with
    | nil => simp at h
    | cons d before =>
      rw [List.cons_append, List.cons.injEq] at h
      obtain ⟨rfl, h⟩ := h
      exact absurd (Scan.isInside_of_literal h) outside

/-- A closing brace outside of literals is a token, if the words have no braces and quotes. -/
theorem exists_tokens_of_outside {tokens : List Token} {text before after : List Char}
    {literals : List (List Char)} (words : ∀ name, .word name ∈ tokens → IsPlain name)
    (h : (tokensText tokens).toList = before ++ '\x7d' :: after)
    (outside : ¬ ((Scan.outside text literals).steps before).IsInside) :
    ∃ first rest, tokens = first ++ .mark .closeBrace :: rest ∧
      before = (tokensText first).toList := by
  induction tokens generalizing text literals before with
  | nil => simp at h
  | cons token tokens ih =>
    have plain : ∀ name, token = .word name → IsPlain name :=
      fun name h => words name (h ▸ List.mem_cons_self)
    have words_rest := fun name h => words name (List.mem_cons_of_mem _ h)
    -- Behind the token a scanner is outside again.
    have later : ∀ {more}, before = token.text.toList ++ more →
        (tokensText tokens).toList = more ++ '\x7d' :: after →
        ∃ first rest, token :: tokens = first ++ .mark .closeBrace :: rest ∧
          before = (tokensText first).toList := by
      intro more hbefore hrest
      have htoken := @Scan.steps_tokensText text literals [token] fun name h =>
        (plain name (List.mem_singleton.mp h).symm).1
      rw [tokensText_cons, tokensText_nil, String.append_empty] at htoken
      rw [hbefore, Scan.steps_append, htoken] at outside
      obtain ⟨first, rest, rfl, rfl⟩ := ih words_rest hrest outside
      refine ⟨token :: first, rest, rfl, ?_⟩
      rw [hbefore, tokensText_cons, String.toList_append]
    rw [tokensText_cons, String.toList_append, List.append_eq_append_iff] at h
    -- The brace stands behind the first token, or the first token holds it.
    rcases h with ⟨more, hbefore, hrest⟩ | ⟨more, htoken, hrest⟩
    · exact later hbefore hrest
    · cases more with
      | nil =>
        rw [List.append_nil] at htoken
        exact @later [] (by rw [htoken, List.append_nil]) hrest.symm
      | cons c more =>
        rw [List.cons_append, List.cons.injEq] at hrest
        obtain ⟨rfl, -⟩ := hrest
        obtain ⟨rfl, rfl⟩ := Token.eq_closeBrace plain htoken outside
        exact ⟨[], tokens, rfl, rfl⟩

/-- At the end of a row all literals have ended, if the words have no quotes. -/
theorem outside_tokensText {tokens : List Token}
    (words : ∀ name, .word name ∈ tokens → IsPlain name) : Outside (tokensText tokens).toList := by
  rw [Outside, Scan.steps_tokensText fun name h => (words name h).1]
  exact id

/-- Outside of literals the text of a row is that of its tokens, one after the other. -/
theorem outer_tokensText {tokens : List Token}
    (words : ∀ name, .word name ∈ tokens → IsPlain name) :
    outer (tokensText tokens).toList = tokens.flatMap Token.outer := by
  rw [outer, Scan.steps_tokensText fun name h => (words name h).1]
  rfl

/-- The text of a row is balanced. -/
theorem Blocks.balanced {tokens : List Token} {n : Nat} (blocks : Blocks n tokens)
    (words : ∀ name, .word name ∈ tokens → IsPlain name) : Balanced (tokensText tokens).toList := by
  refine ⟨outside_tokensText words, ?_⟩
  rw [outer_tokensText words]
  exact blocks.nested_outer words

/-! ## Documents -/

/-- The names of a text have no braces and quotes if those that its tree emits have none. -/
theorem WireDocument.isPlain {document : WireDocument}
    (plain : ∀ node ∈ document.nodes, ∀ name ∈ node.names, IsPlain name) {name : String}
    (h : .word name ∈ document.tokens) : IsPlain name := by
  rcases WireDocument.emitted h with hkeyword | ⟨node, hnode, hname⟩
  · have hall : ∀ name ∈ keywords, IsPlain name := by decide
    exact hall name hkeyword
  · exact plain node hnode name hname

/-- The tokens of a document, given those of its roots and those of its fragments. -/
def documentTokens (keyword : String) (roots rest : List Token) : List Token :=
  [.word keyword, .mark .openBrace] ++ roots ++ .mark .closeBrace :: rest

/-- A document is a keyword, the block of its roots and the fragments. -/
theorem blocks_wireDocument {operation : OperationType} {selections : List Selection}
    {fragments : List Fragment} {wire : WireDocument}
    (h : wireDocument operation selections fragments = .ok wire) :
    ∃ roots rest, wire.tokens = documentTokens operation.keyword roots rest ∧
      Blocks (selections.flatMap Selection.selections).length roots ∧
      Blocks (fragments.length + (fragments.flatMap Fragment.selections).length) rest := by
  rw [wireDocument] at h
  split at h
  · cases h
  · rw [bind_eq_ok] at h
    obtain ⟨roots, hroots, h⟩ := h
    rw [bind_eq_ok] at h
    obtain ⟨definitions, hdefinitions, h⟩ := h
    cases h
    rw [mapM_eq_ok_iff] at hroots hdefinitions
    -- A root counts its own block among its selections. A fragment has one besides its selections.
    have rootBlocks := @Blocks.flatMap _ _ _ _ WireSelection.tokens Selection.selections 0
      (hroots.imp fun selection wire h => by
        rw [Nat.zero_add]
        exact blocks_wireRoot h)
    have fragmentBlocks := @Blocks.flatMap _ _ _ _ WireFragment.tokens Fragment.selections 1
      (hdefinitions.imp fun fragment wire h => blocks_wireFragment h)
    rw [Nat.zero_mul, Nat.zero_add] at rootBlocks
    rw [Nat.one_mul] at fragmentBlocks
    exact ⟨_, _, rfl, rootBlocks, fragmentBlocks⟩

section

variable {keyword : String} {roots rest : List Token} {m n : Nat}

/-- The words of a document are its keyword and the words of its two rows. -/
theorem word_mem_documentTokens {name : String} :
    .word name ∈ documentTokens keyword roots rest ↔
      name = keyword ∨ .word name ∈ roots ∨ .word name ∈ rest := by
  simp [documentTokens]

/-- The text of a document, around the braces of the roots. -/
theorem toList_documentTokens :
    (tokensText (documentTokens keyword roots rest)).toList = keyword.toList ++
      '\x7b' :: ((tokensText roots).toList ++ '\x7d' :: (tokensText rest).toList) := by
  simp [documentTokens, Token.text, Mark.text]

/-- What of a document stands outside of literals, around the braces of the roots. -/
theorem outer_documentTokens
    (words : ∀ name, .word name ∈ documentTokens keyword roots rest → IsPlain name) :
    outer (tokensText (documentTokens keyword roots rest)).toList = keyword.toList ++
      '\x7b' :: (roots.flatMap Token.outer ++ '\x7d' :: rest.flatMap Token.outer) := by
  rw [outer_tokensText words]
  simp [documentTokens, Token.outer, Token.text, Mark.text]

/-- The braces of a document are balanced if both of its rows are rows of blocks. -/
theorem balanced_documentTokens (hroots : Blocks m roots) (hrest : Blocks n rest)
    (words : ∀ name, .word name ∈ documentTokens keyword roots rest → IsPlain name) :
    Balanced (tokensText (documentTokens keyword roots rest)).toList := by
  refine ⟨outside_tokensText words, ?_⟩
  rw [outer_documentTokens words]
  simp only [word_mem_documentTokens, or_imp, forall_and, forall_eq] at words
  obtain ⟨keywordPlain, rootWords, restWords⟩ := words
  have keywordNested := nested_of_no_brace keywordPlain.2.1 keywordPlain.2.2
  exact keywordNested.append (.pair (hroots.nested_outer rootWords) (hrest.nested_outer restWords))

/-- A document has one opening brace for the roots and one for each block of its rows. -/
theorem count_documentTokens (hroots : Blocks m roots) (hrest : Blocks n rest)
    (words : ∀ name, .word name ∈ documentTokens keyword roots rest → IsPlain name) :
    (outer (tokensText (documentTokens keyword roots rest)).toList).count '\x7b' = 1 + m + n := by
  rw [outer_documentTokens words]
  simp only [word_mem_documentTokens, or_imp, forall_and, forall_eq] at words
  obtain ⟨keywordPlain, rootWords, restWords⟩ := words
  have hkeyword : keyword.toList.count '\x7b' = 0 := List.count_eq_zero.mpr keywordPlain.2.1
  rw [List.count_append, hkeyword, List.count_cons_self, List.count_append,
    hroots.count_outer rootWords, List.count_cons_of_ne (by decide), hrest.count_outer restWords]
  omega

/-- What stands before a closing brace: the keyword and the roots, or the discriminator. -/
theorem before_closeBrace (hroots : Blocks m roots) (hrest : Blocks n rest)
    (words : ∀ name, .word name ∈ documentTokens keyword roots rest → IsPlain name)
    {before after : List Char}
    (heq : (tokensText (documentTokens keyword roots rest)).toList = before ++ '\x7d' :: after)
    (outside : Outside before) :
    before = keyword.toList ++ '\x7b' :: (tokensText roots).toList ∨
      ("," ++ discriminator).toList <:+ before := by
  obtain ⟨first, others, hfirst, rfl⟩ := exists_tokens_of_outside words heq outside
  have marked : Marked ([.word keyword, .mark .openBrace] ++ roots) :=
    (hroots.marked.cons (by simp)).cons (by simp)
  refine (marked.eq_or_suffix hrest.marked hfirst).imp (fun h => ?_) fun h => ?_
  · rw [h]
    simp [Token.text, Mark.text]
  · obtain ⟨more, rfl⟩ := h
    have hmark : (tokensText [.mark .comma, .word discriminator]).toList =
        ("," ++ discriminator).toList := rfl
    rw [← hmark, tokensText_append, String.toList_append]
    exact List.suffix_append _ _

end

/-- Outside of literals the braces of a document text are balanced. There is one pair around the
roots, one for each selection and one for each fragment, and each closing brace stands behind the
discriminator, except for the one that closes the roots. -/
theorem braces_document {operation : OperationType} {selections : List Selection}
    {fragments : List Fragment} {text : String}
    (written : document operation selections fragments = .ok text)
    (plain : ∀ node ∈ emittedNodes operation selections fragments,
      ∀ name ∈ node.names, IsPlain name) :
    Balanced text.toList ∧
    (outer text.toList).count '\x7b' =
      1 + (allSelections selections fragments).length + fragments.length ∧
    ∃ root rest,
      text.toList = operation.keyword.toList ++ '\x7b' :: (root ++ '\x7d' :: rest) ∧
      Balanced root ∧
      ∀ before after, text.toList = before ++ '\x7d' :: after → Outside before →
        before = operation.keyword.toList ++ '\x7b' :: root ∨
        ("," ++ discriminator).toList <:+ before := by
  obtain ⟨wire, hwire, rfl⟩ := document_eq_ok_iff.mp written
  rw [emittedNodes_eq hwire] at plain
  obtain ⟨roots, rest, htokens, hroots, hrest⟩ := blocks_wireDocument hwire
  have words : ∀ name, .word name ∈ documentTokens operation.keyword roots rest → IsPlain name :=
    fun name h => WireDocument.isPlain plain (htokens ▸ h)
  have rootWords : ∀ name, .word name ∈ roots → IsPlain name :=
    fun name h => words name (word_mem_documentTokens.mpr (.inr (.inl h)))
  have hcount : 1 + (allSelections selections fragments).length + fragments.length =
      1 + (selections.flatMap Selection.selections).length +
        (fragments.length + (fragments.flatMap Fragment.selections).length) := by
    rw [allSelections, List.length_append]
    omega
  rw [htokens, hcount]
  exact ⟨balanced_documentTokens hroots hrest words, count_documentTokens hroots hrest words,
    _, _, toList_documentTokens, hroots.balanced rootWords,
    fun _ _ => before_closeBrace hroots hrest words⟩

/-- Books by a phrase that would close their block and open another, if it were not in a literal. -/
def booksByBraces : List Selection :=
  booksByPhrase ",__typename\x7d\"\x7b" (.selection ⟨.operation (.on bookType), [.name "title"]⟩)

/-- The books, the two selections in them, a fragment and the roots. -/
theorem booksByBraces_braces :
    ∃ text, document .query booksByBraces [⟨.fragment "on" bookType, [.name "title"]⟩] = .ok text ∧
      Balanced text.toList ∧ (outer text.toList).count '\x7b' = 5 ∧
      ∃ root rest, text.toList = "query".toList ++ '\x7b' :: (root ++ '\x7d' :: rest) ∧
        Balanced root ∧
        ∀ before after, text.toList = before ++ '\x7d' :: after → Outside before →
          before = "query".toList ++ '\x7b' :: root ∨ ("," ++ discriminator).toList <:+ before :=
  ⟨_, rfl, @braces_document .query booksByBraces [⟨.fragment "on" bookType, [.name "title"]⟩] _ rfl
    (by decide)⟩

end Query

end TypedQuery
