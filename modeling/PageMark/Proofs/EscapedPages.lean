import PageMark.Proofs.PlainPages
import PageMark.Proofs.SketchedTrees

/-!
# Escaped numbers on pages

The point of a number is escaped on the page as it is written, so in the texts that are
read from it no digit has a point and a space behind it, unless a reference stood for
one of them.  What the texts make together is another matter: a line end that becomes a
space, a tag or a comment between the characters, or a space put beside an element can
still make a line that begins like an item, and the sketch of the collapsed body has
all such lines.
-/

namespace PageMark

namespace Html

/-! ## Where texts come from -/

/-- The content stands in the text as it is, or there is a stretch of the text that it is what
references make of. -/
def StandsIn (text content : Text) : Prop :=
  ∃ written, written <:+: text ∧ (content = written ∨ content = decodeReferences false written)

theorem StandsIn.mono {part text content : Text} (stands : StandsIn part content)
    (inside : part <:+: text) : StandsIn text content := by
  obtain ⟨written, within, known⟩ := stands
  exact ⟨written, within.trans inside, known⟩

/-! ### What is left behind markup -/

theorem suffix_cons_of_suffix {rest text : Text} (suffix : rest <:+ text) (character : Char) :
    rest <:+ character :: text :=
  suffix.trans (List.suffix_cons character text)

theorem drop_dropWhile_suffix (condition : Char → Bool) (count : Nat) (text : Text) :
    (text.dropWhile condition).drop count <:+ text :=
  (List.drop_suffix _ _).trans (List.dropWhile_suffix _)

theorem skipSpace_suffix (text : Text) : skipSpace text <:+ text :=
  List.dropWhile_suffix _

theorem withoutByteOrderMarks_suffix (text : Text) : withoutByteOrderMarks text <:+ text := by
  unfold withoutByteOrderMarks
  split
  · exact ⟨['\uFEFF', '\uFEFF'], rfl⟩
  · exact ⟨['\uFEFF'], rfl⟩
  · exact List.suffix_rfl

theorem readValue_suffix {text value after : Text} (read : readValue text = some (value, after)) :
    after <:+ text := by
  have behind {quote : Char} {rest : Text} {closing : Char} {after : Text}
      (found : rest.dropWhile (· != quote) = closing :: after) : after <:+ quote :: rest := by
    have whole := List.dropWhile_suffix (l := rest) (· != quote)
    rw [found] at whole
    exact suffix_cons_of_suffix ((List.suffix_cons closing after).trans whole) quote
  unfold readValue at read
  split at read
  · split at read
    · cases read
    · next found =>
        cases read
        exact behind found
  · split at read
    · cases read
    · next found =>
        cases read
        exact behind found
  · cases read
    exact List.dropWhile_suffix _

theorem suffix_of_skipSpace {text shape rest : Text} (found : skipSpace text = shape)
    (suffix : rest <:+ shape) : rest <:+ text :=
  (found ▸ suffix).trans (skipSpace_suffix text)

theorem readAttributes_suffix {fuel : Nat} {attributes others : List (Text × Text)}
    {text after : Text} {closes : Bool}
    (read : readAttributes fuel attributes text = some (others, closes, after)) :
    after <:+ text := by
  fun_induction readAttributes fuel attributes text with
  | case1 => cases read
  | case2 => cases read
  | case3 _ _ _ rest found =>
      cases read
      exact suffix_of_skipSpace found (List.suffix_cons '>' _)
  | case4 _ _ _ rest found =>
      cases read
      exact suffix_of_skipSpace found (suffix_cons_of_suffix (List.suffix_cons '>' _) '/')
  | case5 _ _ _ rest _ found ih =>
      exact suffix_of_skipSpace found (suffix_cons_of_suffix (ih read) '/')
  | case6 _ _ _ first rest _ _ _ found _ own equals _ value known ih =>
      have behind := ((ih read).trans (readValue_suffix known)).trans (skipSpace_suffix own)
      have inRest := suffix_of_skipSpace equals (suffix_cons_of_suffix behind '=')
      exact suffix_of_skipSpace found
        (suffix_cons_of_suffix (inRest.trans (List.dropWhile_suffix _)) first)
  | case7 => cases read
  | case8 _ _ _ first rest _ _ _ found _ _ ih =>
      have inRest := ((ih read).trans (skipSpace_suffix _)).trans (List.dropWhile_suffix _)
      exact suffix_of_skipSpace found (suffix_cons_of_suffix inRest first)

theorem readTag_suffix {text after : Text} {tag : StartTag}
    (read : readTag text = some (tag, after)) : after <:+ text := by
  rw [readTag, Option.map_eq_some_iff] at read
  obtain ⟨⟨attributes, closes, rest⟩, known, same⟩ := read
  cases same
  exact (readAttributes_suffix known).trans (List.dropWhile_suffix _)

/-! ### The rest behind other markup -/

theorem readCommentBody_suffix (text : Text) : (readCommentBody text).2 <:+ text := by
  fun_induction readCommentBody text with
  | case1 => exact List.suffix_rfl
  | case2 rest => exact ⟨"-->".toList, rfl⟩
  | case3 rest => exact ⟨"--!>".toList, rfl⟩
  | case4 => exact List.nil_suffix
  | case5 => exact List.nil_suffix
  | case6 => exact List.nil_suffix
  | case7 first rest _ _ _ _ _ content after known ih =>
      rw [known] at ih
      exact suffix_cons_of_suffix ih first

theorem readComment_suffix (text : Text) : (readComment text).2 <:+ text := by
  unfold readComment
  split
  · exact List.suffix_cons '>' _
  · exact ⟨"->".toList, rfl⟩
  · exact readCommentBody_suffix text

theorem readBogusComment_suffix (text : Text) : (readBogusComment text).2 <:+ text :=
  drop_dropWhile_suffix _ _ text

theorem readLiteral_suffix {text literal after : Text}
    (read : readLiteral text = some (literal, after)) : after <:+ text := by
  have behind (endsLiteral : Char → Bool) (quote : Char) (rest : Text) :
      (if (rest.dropWhile endsLiteral).head? == some quote then (rest.dropWhile endsLiteral).drop 1
        else rest.dropWhile endsLiteral) <:+ quote :: rest := by
    refine suffix_cons_of_suffix ?_ quote
    split
    · exact drop_dropWhile_suffix _ 1 rest
    · exact List.dropWhile_suffix _
  unfold readLiteral at read
  split at read
  · cases read
    exact behind _ '"' _
  · cases read
    exact behind _ '\'' _
  · cases read

theorem readIdentifiers_suffix (text : Text) : (readIdentifiers text).2 <:+ text := by
  have keyword {rest : Text} (suffix : rest <:+ skipSpace (text.drop 6)) : rest <:+ text :=
    (suffix.trans (skipSpace_suffix _)).trans (List.drop_suffix 6 text)
  unfold readIdentifiers
  split
  · split
    · exact List.suffix_rfl
    · next known =>
        have behind := readLiteral_suffix known
        split
        · exact keyword behind
        · next known' =>
            exact keyword
              (((readLiteral_suffix known').trans (skipSpace_suffix _)).trans behind)
  · split
    · split
      · exact List.suffix_rfl
      · next known => exact keyword (readLiteral_suffix known)
    · exact List.suffix_rfl

theorem readDoctype_suffix (text : Text) : (readDoctype text).2 <:+ text := by
  have rest := skipSpace_suffix
    ((skipSpace text).dropWhile fun character => !endsUnquoted character)
  exact (drop_dropWhile_suffix _ _ _).trans <| (readIdentifiers_suffix _).trans <|
    (rest.trans (List.dropWhile_suffix _)).trans (skipSpace_suffix text)

/-! ### Texts that are not markup -/

theorem splitAtEndTag_append (name text : Text) :
    (splitAtEndTag name text).1 ++ (splitAtEndTag name text).2 = text := by
  fun_induction splitAtEndTag name text with
  | case1 => rfl
  | case2 => rfl
  | case3 first rest _ content after known ih =>
      rw [known] at ih
      exact congrArg (first :: ·) ih

theorem splitScript_append (state : ScriptState) (text : Text) :
    (splitScript state text).1 ++ (splitScript state text).2 = text := by
  fun_induction splitScript state text with
  | case1 => rfl
  | case2 => rfl
  | case3 state first rest _ content after known ih =>
      rw [known] at ih
      exact congrArg (first :: ·) ih

theorem mem_textToken_iff {content text : Text} :
    Token.text content ∈ textToken text ↔ content = text ∧ text ≠ [] := by
  rw [textToken]
  split
  · next empty => simp [List.isEmpty_iff.1 empty]
  · next some => simp [List.isEmpty_iff.not.1 some]

/-- Each text among the tokens stands in the text that they are read from, and the rest is the
end of it. -/
structure AreReadFrom (text : Text) (tokens : List Token) (rest : Text) : Prop where
  stands : ∀ content, Token.text content ∈ tokens → StandsIn text content
  suffix : rest <:+ text

theorem AreReadFrom.of_suffix {part text rest : Text} {tokens : List Token}
    (read : AreReadFrom part tokens rest) (suffix : part <:+ text) :
    AreReadFrom text tokens rest where
  stands content member := (read.stands content member).mono suffix.isInfix
  suffix := read.suffix.trans suffix

theorem areReadFrom_of_append {text front rest : Text} (whole : front ++ rest = text) :
    AreReadFrom text (textToken front) rest where
  stands _ member :=
    ⟨front, ⟨[], rest, whole⟩, .inl (mem_textToken_iff.1 member).1⟩
  suffix := ⟨front, whole⟩

theorem areReadFrom_textToken {text front rest : Text} (whole : front ++ rest = text) :
    AreReadFrom text (textToken (decodeReferences false front)) rest where
  stands _ member :=
    ⟨front, ⟨[], rest, whole⟩, .inr (mem_textToken_iff.1 member).1⟩
  suffix := ⟨front, whole⟩

theorem areReadFrom_splitContent (name text : Text) :
    AreReadFrom text (textToken (splitContent name text).1) (splitContent name text).2 := by
  unfold splitContent
  split
  · exact areReadFrom_of_append (List.nil_append text)
  · exact areReadFrom_textToken (splitAtEndTag_append name text)
  · exact areReadFrom_of_append (splitAtEndTag_append name text)
  · exact areReadFrom_of_append (splitScript_append .plain text)
  · exact areReadFrom_of_append (List.append_nil text)

theorem areReadFrom_startTokens (tag : StartTag) (text : Text) :
    AreReadFrom text (startTokens tag text).1 (startTokens tag text).2 := by
  unfold startTokens
  split
  · exact ⟨fun content member => by simp [textToken] at member, List.suffix_rfl⟩
  · have own := areReadFrom_splitContent tag.name text
    refine ⟨fun content member => own.stands content ?_, own.suffix⟩
    exact (List.mem_cons.1 member).resolve_left Token.noConfusion

theorem areReadFrom_of_suffix {text rest : Text} {tokens : List Token}
    (none : ∀ content, Token.text content ∉ tokens) (suffix : rest <:+ text) :
    AreReadFrom text tokens rest where
  stands content member := absurd member (none content)
  suffix := suffix

theorem areReadFrom_readMarkup {text rest : Text} {tokens : List Token}
    (read : readMarkup text = some (tokens, rest)) : AreReadFrom text tokens rest := by
  have behind {front text rest : Text} {tokens : List Token}
      (none : ∀ content, Token.text content ∉ tokens) (suffix : rest <:+ text) : AreReadFrom (front ++ text) tokens rest :=
    areReadFrom_of_suffix none (suffix.trans (List.suffix_append front text))
  unfold readMarkup at read
  split at read
  · cases read
    exact @behind "!--".toList _ _ _ (by simp) (readComment_suffix _)
  · split at read
    · cases read
      exact @behind ['!'] _ _ _ (by simp) ((readDoctype_suffix _).trans (List.drop_suffix 7 _))
    · cases read
      exact @behind ['!'] _ _ _ (by simp) (readBogusComment_suffix _)
  · cases read
    exact areReadFrom_of_suffix (by simp) (readBogusComment_suffix _)
  · cases read
    exact @behind "/>".toList _ _ _ (by simp) List.suffix_rfl
  · split at read
    · split at read
      · next known =>
          cases read
          exact @behind ['/'] _ _ _ (by simp) (readTag_suffix known)
      · cases read
        exact areReadFrom_of_suffix (by simp) List.nil_suffix
    · cases read
      exact @behind ['/'] _ _ _ (by simp) (readBogusComment_suffix _)
  · split at read
    · split at read
      · next tag after known =>
          have whole := areReadFrom_startTokens tag after
          rw [Option.some.inj read] at whole
          exact whole.of_suffix (readTag_suffix known)
      · cases read
        exact areReadFrom_of_suffix (by simp) List.nil_suffix
    · cases read
  · cases read

/-- Every text among the tokens stands in what has been collected and is still to be read. -/
theorem standsIn_of_mem_readTokens {fuel : Nat} {collected text content : Text}
    (member : Token.text content ∈ readTokens fuel collected text) :
    StandsIn (collected.reverse ++ text) content := by
  have collectedFirst {collected text content : Text}
      (member : Token.text content ∈ readText collected) :
      StandsIn (collected.reverse ++ text) content :=
    ⟨collected.reverse, (List.prefix_append _ _).isInfix, .inr (mem_textToken_iff.1 member).1⟩
  fun_induction readTokens fuel collected text with
  | case1 => exact collectedFirst member
  | case2 => exact collectedFirst member
  | case3 fuel collected rest tokens after read ih =>
      have markup := (areReadFrom_readMarkup read).of_suffix
        (suffix_cons_of_suffix List.suffix_rfl '<')
      have behind := List.suffix_append collected.reverse ('<' :: rest)
      rcases List.mem_append.1 member with own | later
      · rcases List.mem_append.1 own with before | inMarkup
        · exact collectedFirst before
        · exact (markup.stands content inMarkup).mono behind.isInfix
      · exact (ih later).mono (markup.suffix.trans behind).isInfix
  -- a character that begins no markup goes over to what has been collected
  | case4 fuel collected rest _ ih =>
      have longer := ih member
      rwa [List.reverse_cons, List.append_assoc] at longer
  | case5 fuel collected first rest _ ih =>
      have longer := ih member
      rwa [List.reverse_cons, List.append_assoc] at longer

theorem standsIn_of_mem_readPage {fuel : Nat} {seen : Bool} {text content : Text}
    (member : Token.text content ∈ readPage fuel seen text) : StandsIn text content := by
  fun_induction readPage fuel seen text with
  | case1 => cases member
  | case2 fuel seen text rest found content' after read ih =>
      have behind := readComment_suffix rest
      rw [read] at behind
      have later := ih ((List.mem_cons.1 member).resolve_left Token.noConfusion)
      exact later.mono
        (suffix_of_skipSpace found (behind.trans (List.suffix_append "<!--".toList rest))).isInfix
  | case3 fuel seen text rest found content' after read ih =>
      have behind := readBogusComment_suffix ('?' :: rest)
      rw [read] at behind
      have later := ih ((List.mem_cons.1 member).resolve_left Token.noConfusion)
      exact later.mono (suffix_of_skipSpace found (suffix_cons_of_suffix behind '<')).isInfix
  | case4 fuel seen text rest _ found _ content' after read ih =>
      have behind := (readDoctype_suffix (rest.drop 7)).trans (List.drop_suffix 7 rest)
      rw [read] at behind
      have later := ih ((List.mem_cons.1 member).resolve_left Token.noConfusion)
      exact later.mono
        (suffix_of_skipSpace found (behind.trans (List.suffix_append "<!".toList rest))).isInfix
  | case5 fuel seen text rest _ found _ =>
      have inside := standsIn_of_mem_readTokens member
      exact inside.mono (suffix_of_skipSpace found List.suffix_rfl).isInfix
  | case6 fuel seen text _ _ _ =>
      have inside := standsIn_of_mem_readTokens member
      exact inside.mono (skipSpace_suffix text).isInfix

/-- Every text of a page stands in it, when its line ends have been read. -/
theorem standsIn_of_mem_tokensOf {page content : Text}
    (member : Token.text content ∈ tokensOf page) :
    StandsIn (normalizeLines (withoutByteOrderMarks page)) content :=
  standsIn_of_mem_readPage member

/-! ### Line ends -/

section Kept

variable {part : Text}
  (kept : ∀ character ∈ part, character ≠ '\n' ∧ character ≠ replacementCharacter)

include kept

theorem eq_nil_of_prefix_break {rest : Text} (inFront : part <+: '\n' :: rest) : part = [] := by
  cases part with
  | nil => rfl
  | cons first others =>
      exact absurd (List.cons_prefix_cons.1 inFront).1 (kept first List.mem_cons_self).1

theorem prefix_of_prefix_normalizeLines {text : Text} (inFront : part <+: normalizeLines text) :
    part <+: text := by
  fun_induction normalizeLines text generalizing part with
  | case1 => exact inFront
  | case2 rest _ => exact eq_nil_of_prefix_break kept inFront ▸ List.nil_prefix
  | case3 rest _ _ => exact eq_nil_of_prefix_break kept inFront ▸ List.nil_prefix
  | case4 first rest _ _ ih =>
      cases part with
      | nil => exact List.nil_prefix
      | cons character others =>
          obtain ⟨own, unmarked⟩ := List.forall_mem_cons.1 kept
          obtain ⟨same, later⟩ := List.cons_prefix_cons.1 inFront
          split at same
          · exact absurd same own.2
          · exact List.cons_prefix_cons.2 ⟨same, ih unmarked later⟩

/-- Reading the line ends brings nothing together. -/
theorem infix_of_infix_normalizeLines {text : Text} (inside : part <:+: normalizeLines text) :
    part <:+: text := by
  fun_induction normalizeLines text with
  | case1 => exact inside
  | case2 rest ih =>
      rcases List.infix_cons_iff.1 inside with inFront | later
      · exact eq_nil_of_prefix_break kept inFront ▸ List.nil_infix
      · exact (ih later).trans (List.suffix_append "\r\n".toList rest).isInfix
  | case3 rest _ ih =>
      rcases List.infix_cons_iff.1 inside with inFront | later
      · exact eq_nil_of_prefix_break kept inFront ▸ List.nil_infix
      · exact (ih later).trans (List.suffix_cons '\r' rest).isInfix
  | case4 first rest pair single ih =>
      rcases List.infix_cons_iff.1 inside with inFront | later
      · have whole : normalizeLines (first :: rest) =
            (if first = '\x00' then replacementCharacter else first) :: normalizeLines rest := by
          rw [normalizeLines]
          · exact pair
          · exact single
        rw [← whole] at inFront
        exact (prefix_of_prefix_normalizeLines kept inFront).isInfix
      · exact (ih later).trans (List.suffix_cons first rest).isInfix

end Kept

/-- In the texts of an escaped page a digit has a point and a space behind it only where a
reference has been replaced. -/
theorem exists_reference_of_mem_tokensOf {page content : Text} {digit : Char}
    (member : Token.text content ∈ tokensOf (escapeNumbers page))
    (decimal : Text.isDecimalDigit digit = true) (number : [digit, '.', ' '] <:+: content) :
    ∃ written, written <:+: normalizeLines (withoutByteOrderMarks (escapeNumbers page)) ∧
      '&' ∈ written ∧ content = decodeReferences false written := by
  obtain ⟨written, inside, known⟩ := standsIn_of_mem_tokensOf member
  have kept : ∀ character ∈ [digit, '.', ' '],
      character ≠ '\n' ∧ character ≠ replacementCharacter := by
    have digitKept : digit ≠ '\n' ∧ digit ≠ replacementCharacter := by
      constructor
      all_goals
        rintro rfl
        exact absurd decimal (by decide)
    simpa using ⟨digitKept, by decide, by decide⟩
  -- neither reading line ends nor dropping marks brings the three together
  have escaped : ¬ [digit, '.', ' '] <:+: written := fun within =>
    not_infix_escapeNumbers decimal page
      ((infix_of_infix_normalizeLines kept (within.trans inside)).trans
        (withoutByteOrderMarks_suffix _).isInfix)
  have decoded := known.resolve_left fun same => escaped (same ▸ number)
  refine ⟨written, inside, ?_, decoded⟩
  by_contra none
  rw [decodeReferences_of_not_mem none] at decoded
  exact escaped (decoded ▸ number)

end Html

/-! ## Items on pages -/

/-- The lines of a page's Markdown that begin like items.

In the texts that are read from the escaped page, a digit has a point and a space behind it only
where a reference has been replaced.  A page without items and preformatted elements is converted,
and has such a line only if there is one in the sketch of its collapsed body, where the texts stand
together as their elements put them.  A page of plain text has one exactly if it begins with a
number whose point is followed by a tab or a line end, and then by something to see: the escape has
seen no space behind that point, and squeezing makes one. -/
theorem page_items_sketched (page : Text) (gfm : Bool) :
    (∀ content digit, Html.Token.text content ∈ Html.tokensOf (escapeNumbers page) →
      Text.isDecimalDigit digit = true → [digit, '.', ' '] <:+: content →
        ∃ written,
          written <:+: Html.normalizeLines (Html.withoutByteOrderMarks (escapeNumbers page)) ∧
            '&' ∈ written ∧ content = Html.decodeReferences false written) ∧
    (∀ document body, pageDocument? page = some document → document.body? = some body →
      (∀ node ∈ nodesWithin body.node.children, node.KeepsLines) →
        ∃ left markdown, document.collapse.body? = some left ∧
          convertPage page { gfm := gfm } [] = .ok markdown ∧
          ((∃ line ∈ Text.lines markdown, Text.StartsItem line) →
            ∃ line ∈ Text.lines (sketchOf gfm left.node.children), Text.BeginsItem line)) ∧
    ('<' ∉ page → '&' ∉ page →
      ∃ markdown, convertPage page { gfm := gfm } [] = .ok markdown ∧
        ((∃ line ∈ Text.lines markdown, Text.StartsItem line) ↔
          ∃ digits separator rest,
            Html.skipSpace (Html.withoutByteOrderMarks page) =
              digits ++ '.' :: separator :: rest ∧
            digits ≠ [] ∧ (∀ digit ∈ digits, digit.isDigit = true) ∧
            separator ∈ ['\t', '\n', '\r'] ∧ Text.isAllBlank rest = false)) := by
  refine ⟨fun content digit => Html.exists_reference_of_mem_tokensOf, ?_, fun noTag noReference =>
    plainPage_startsItem_iff noTag noReference gfm⟩
  intro document body parsed found keeps
  obtain ⟨left, conversion, again, converted, sketched⟩ :=
    Document.exists_convert_sketched gfm found keeps
  refine ⟨left, conversion.markdown, again, ?_, sketched⟩
  rw [convertPage, parsed]
  dsimp only
  rw [converted]
  rfl

section Broken

def brokenNumber : Text :=
  "1.\nx".toList

/-- A reference stands for the space behind the point. -/
def referredNumber : Text :=
  "<p>1.&#32;x</p>".toList

def referredBody : List Node :=
  [.element (Document.plainTag "p") [.text .plain "1. x".toList]]

theorem referredNumber_sketched :
    (∃ written, '&' ∈ written ∧ "1. x".toList = Html.decodeReferences false written) ∧
      (∃ left markdown, (Document.pageOf referredBody).collapse.body? = some left ∧
        convertPage referredNumber {} [] = .ok markdown ∧
        ((∃ line ∈ Text.lines markdown, Text.StartsItem line) →
          ∃ line ∈ Text.lines (sketchOf false left.node.children), Text.BeginsItem line)) ∧
      ∃ markdown, convertPage brokenNumber {} [] = .ok markdown ∧
        ∃ line ∈ Text.lines markdown, Text.StartsItem line := by
  obtain ⟨references, sketched, -⟩ := page_items_sketched referredNumber false
  obtain ⟨-, -, plain⟩ := page_items_sketched brokenNumber false
  have read : Html.Token.text "1. x".toList ∈ Html.tokensOf (escapeNumbers referredNumber) := by
    decide +kernel
  obtain ⟨written, -, refers, known⟩ :=
    references "1. x".toList '1' read (by decide) ⟨[], ['x'], rfl⟩
  have parsed : pageDocument? referredNumber = some (Document.pageOf referredBody) := by
    have nodes : (pageDocument? referredNumber).map Document.nodes =
        some (Document.pageOf referredBody).nodes := by
      decide +kernel
    obtain ⟨document, known, same⟩ := Option.map_eq_some_iff.1 nodes
    rw [known, ← show Document.mk document.nodes = document from rfl, same]
  have keeps : ∀ node ∈ nodesWithin referredBody, node.KeepsLines := by
    decide
  obtain ⟨body, found, inside⟩ : ∃ body, (Document.pageOf referredBody).body? = some body ∧
      body.node.children = referredBody := ⟨_, rfl, rfl⟩
  obtain ⟨markdown, converted, starts⟩ := plain (by decide) (by decide)
  refine ⟨⟨written, refers, known⟩, sketched _ body parsed found (inside.symm ▸ keeps), markdown,
    converted, ?_⟩
  exact starts.2 ⟨['1'], '\n', ['x'], by decide, by decide, List.forall_mem_singleton.2 rfl,
    by decide, by decide⟩

/-- A comment, an element that leaves nothing and a reference keep the number from being escaped
as a line end does. -/
def scatteredNumbers : List Text :=
  [brokenNumber, referredNumber, "<p>1<!-- -->. x</p>".toList, "<p>1<span></span>. x</p>".toList]

/-- Whether the body of the page has elements of these names. -/
def bodyHas (names : List String) (page : Text) : Bool :=
  (((pageDocument? page).bind Document.body?).map fun body =>
    (nodesWithin body.node.children).any fun node => names.contains node.kind).getD false

/-- There is nothing but a text in the first body.  The number is not escaped, as its point ends a
line, and begins an item, and so do the others. -/
theorem brokenNumber_starts_item :
    pageDocument? brokenNumber = some (Document.pageOf [.text .plain brokenNumber]) ∧
      (∀ page ∈ scatteredNumbers, bodyHas ["li", "pre", "code"] page = false ∧
        convertPage page {} [] = .ok "1. x".toList) ∧
      "1. x".toList ∈ Text.lines "1. x".toList ∧ Text.StartsItem "1. x".toList :=
  ⟨rfl, by decide +kernel, by decide, 0, ['1'], ['x'], by decide, by decide, by decide,
    List.forall_mem_singleton.2 rfl⟩

end Broken

end PageMark
