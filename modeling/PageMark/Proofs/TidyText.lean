import PageMark.Conversion.Page
import PageMark.Proofs.BlankLines

/-!
# Tidy Markdown

A text is tidy if each pass of the cleanup leaves it as it is.  Whatever is
cleaned up comes out tidy: where white space between line feeds is gone there
is no run of line feeds left to shorten, and nothing is changed at the edges.
-/

namespace PageMark.Text

/-- Two line feeds with only white space between them are neighbours. -/
def IsSettled (text : Text) : Prop :=
  ∀ middle, '\n' :: (middle ++ ['\n']) <:+: text → isAllBlank middle = true → middle = []

/-- The text does not begin with what is stripped at the start of Markdown. -/
def OpensFlush (text : Text) : Prop :=
  ∀ first ∈ text.head?, isLineSpacing first = false

/-! ## From one visible character to the next -/

/-- A text is blank, or it is blank up to a visible character with a text behind. -/
theorem visible_induction {motive : Text → Prop}
    (blank : ∀ text, isAllBlank text = true → motive text)
    (visible : ∀ margin character rest, isAllBlank margin = true → isBlank character = false →
      motive rest → motive (margin ++ character :: rest))
    (text : Text) : motive text := by
  induction size : text.length using Nat.strong_induction_on generalizing text with
  | _ size ih =>
      cases seen : isAllBlank text with
      | true => exact blank text seen
      | false =>
          obtain ⟨margin, character, rest, rfl, marginBlank, characterVisible⟩ :=
            exists_first_visible seen
          refine visible margin character rest marginBlank characterVisible (ih _ ?_ rest rfl)
          rw [← size, List.length_append, List.length_cons]
          omega

theorem settleRuns_of_blank {text : Text} (blank : isAllBlank text = true) (run : Text) :
    settleRuns run text = settleRun (run.reverse ++ text) := by
  induction text generalizing run with
  | nil => rw [settleRuns, List.append_nil]
  | cons character rest ih =>
      rw [isAllBlank_cons, Bool.and_eq_true] at blank
      rw [settleRuns, if_pos blank.1, ih blank.2, List.reverse_cons, List.append_assoc]
      rfl

theorem emptyBlankLines_of_blank {text : Text} (blank : isAllBlank text = true) :
    emptyBlankLines text = settleRun text :=
  settleRuns_of_blank blank []

theorem emptyBlankLines_append_cons {margin : Text} (blank : isAllBlank margin = true)
    {character : Char} (visible : isBlank character = false) (rest : Text) :
    emptyBlankLines (margin ++ character :: rest) =
      settleRun margin ++ character :: emptyBlankLines rest :=
  settleRuns_append_of_blank blank visible [] rest

/-! ## Settled texts -/

theorem isSettled_of_not_mem {text : Text} (noBreak : '\n' ∉ text) : IsSettled text := by
  intro middle inside
  exact absurd (inside.subset List.mem_cons_self) noBreak

theorem IsSettled.of_infix {text part : Text} (settled : IsSettled text) (inside : part <:+: text) :
    IsSettled part :=
  fun middle within => settled middle (within.trans inside)

/-- What does not have the character lies before it or behind it. -/
theorem infix_or_infix_of_not_mem {part : Text} {character : Char} (without : character ∉ part)
    {left right : Text} (inside : part <:+: left ++ character :: right) :
    part <:+: left ∨ part <:+: right := by
  have early : ∀ {front : Text}, part <+: front ++ character :: right → part <+: front := by
    intro front atFront
    rcases List.prefix_or_prefix_of_prefix atFront (List.prefix_append front _) with before | longer
    · exact before
    · obtain ⟨tail, rfl⟩ := longer
      rw [List.prefix_append_right_inj] at atFront
      cases tail with
      | nil =>
          exact ⟨[], by rw [List.append_nil, List.append_nil]⟩
      | cons first rest =>
          obtain ⟨rfl, -⟩ := List.cons_prefix_cons.1 atFront
          exact absurd (List.mem_append_right front List.mem_cons_self) without
  induction left with
  | nil =>
      rcases List.infix_cons_iff.1 inside with atFront | behind
      · exact .inl (@early [] atFront).isInfix
      · exact .inr behind
  | cons first rest ih =>
      rcases List.infix_cons_iff.1 inside with atFront | behind
      · exact .inl (early atFront).isInfix
      · rcases ih behind with before | after
        · exact .inl (List.infix_cons before)
        · exact .inr after

/-- A visible character keeps apart what is settled on its own. -/
theorem isSettled_append_cons {left right : Text} (settled : IsSettled left)
    (settled' : IsSettled right) {character : Char} (visible : isBlank character = false) :
    IsSettled (left ++ character :: right) := by
  intro middle inside blank
  have without : character ∉ '\n' :: (middle ++ ['\n']) := by
    have allBlank : isAllBlank ('\n' :: (middle ++ ['\n'])) = true := by
      rw [isAllBlank_cons, isAllBlank_append, blank]
      rfl
    intro member
    rw [List.all_eq_true.1 allBlank character member] at visible
    cases visible
  rcases infix_or_infix_of_not_mem without inside with before | behind
  · exact settled middle before blank
  · exact settled' middle behind blank

/-- With one line feed there is nothing between two. -/
theorem isSettled_single {front back : Text} (noFront : '\n' ∉ front) (noBack : '\n' ∉ back) :
    IsSettled (front ++ '\n' :: back) := by
  intro middle inside
  have counted := inside.sublist.count_le '\n'
  simp only [List.count_append, List.count_cons_self,
    List.count_eq_zero_of_not_mem noFront, List.count_eq_zero_of_not_mem noBack] at counted
  omega

/-- Two line feeds next to each other have nothing between them. -/
theorem isSettled_pair {front back : Text} (noFront : '\n' ∉ front) (noBack : '\n' ∉ back) :
    IsSettled (front ++ '\n' :: '\n' :: back) := by
  rintro middle ⟨before, behind, whole⟩ -
  have counted := congrArg (List.count '\n') whole
  simp only [List.count_append, List.count_cons_self,
    List.count_eq_zero_of_not_mem noFront, List.count_eq_zero_of_not_mem noBack] at counted
  have noBefore : '\n' ∉ before := List.count_eq_zero.1 (by omega)
  have noMiddle : '\n' ∉ middle := List.count_eq_zero.1 (by omega)
  have fromFirst := congrArg (List.dropWhile (· != '\n')) whole
  rw [List.append_assoc, List.cons_append, dropWhile_ne_break noBefore,
    dropWhile_ne_break noFront, List.cons.injEq, List.append_assoc] at fromFirst
  have between := congrArg (List.takeWhile (· != '\n')) fromFirst.2
  rw [List.singleton_append, takeWhile_ne_break noMiddle] at between
  exact between

theorem isSettled_settleRun (run : Text) : IsSettled (settleRun run) := by
  by_cases feed : '\n' ∈ run
  · obtain ⟨front, rest, rfl, noFront⟩ := List.eq_append_cons_of_mem feed
    by_cases again : '\n' ∈ rest
    · obtain ⟨middle, back, rfl, noBack⟩ := exists_last_break again
      rw [settleRun_between noFront noBack]
      exact isSettled_pair noFront noBack
    · rw [settleRun_single noFront again]
      exact isSettled_single noFront again
  · rw [settleRun_of_not_mem feed]
    exact isSettled_of_not_mem feed

/-- White space between line feeds is gone when it has been dropped once. -/
theorem isSettled_emptyBlankLines (text : Text) : IsSettled (emptyBlankLines text) := by
  induction text using visible_induction with
  | blank text blank =>
      rw [emptyBlankLines_of_blank blank]
      exact isSettled_settleRun text
  | visible margin character rest blank visible ih =>
      rw [emptyBlankLines_append_cons blank visible]
      exact isSettled_append_cons (isSettled_settleRun margin) ih visible

/-! ## Nothing left to do -/

theorem settleRun_of_isSettled {run : Text} (settled : IsSettled run)
    (blank : isAllBlank run = true) : settleRun run = run := by
  by_cases feed : '\n' ∈ run
  · obtain ⟨front, rest, rfl, noFront⟩ := List.eq_append_cons_of_mem feed
    by_cases again : '\n' ∈ rest
    · obtain ⟨middle, back, rfl, noBack⟩ := exists_last_break again
      simp only [isAllBlank_append, isAllBlank_cons, Bool.and_eq_true] at blank
      have empty : middle = [] := settled middle ⟨front, back, by simp⟩ blank.2.2.1
      rw [settleRun_between noFront noBack, empty]
      rfl
    · exact settleRun_single noFront again
  · exact settleRun_of_not_mem feed

theorem emptyBlankLines_of_isSettled {text : Text} (settled : IsSettled text) :
    emptyBlankLines text = text := by
  induction text using visible_induction with
  | blank text blank =>
      rw [emptyBlankLines_of_blank blank]
      exact settleRun_of_isSettled settled blank
  | visible margin character rest blank visible ih =>
      have before : IsSettled margin := settled.of_infix (List.prefix_append _ _).isInfix
      have behind : IsSettled rest := settled.of_infix ⟨margin ++ [character], [], by simp⟩
      rw [emptyBlankLines_append_cons blank visible, settleRun_of_isSettled before blank,
        ih behind]

theorem IsSettled.noThreeBreaks {text : Text} (settled : IsSettled text) :
    ¬ ['\n', '\n', '\n'] <:+: text := by
  intro inside
  have empty := settled ['\n'] inside rfl
  cases empty

/-- Where no three line feeds are next to each other, none are dropped. -/
theorem capBreaksAfter_of_noThreeBreaks {count : Nat} {text : Text}
    (noThree : ¬ ['\n', '\n', '\n'] <:+: List.replicate count '\n' ++ text) :
    capBreaksAfter count text = text := by
  fun_induction capBreaksAfter count text with
  | case1 count => rfl
  | case2 count rest fits ih =>
      rw [ih]
      rwa [List.replicate_succ', List.append_assoc]
  | case3 count rest full ih =>
      obtain ⟨more, rfl⟩ := Nat.exists_eq_add_of_le (Nat.le_of_not_lt full)
      refine absurd ⟨List.replicate more '\n', rest, ?_⟩ noThree
      rw [Nat.add_comm, List.replicate_add]
      simp
  | case4 count character rest other ih =>
      rw [ih]
      intro inside
      exact noThree (inside.trans ⟨List.replicate count '\n' ++ [character], [], by simp⟩)

theorem capBreaks_of_isSettled {text : Text} (settled : IsSettled text) :
    capBreaks text = text :=
  @capBreaksAfter_of_noThreeBreaks 0 text settled.noThreeBreaks

/-- When white space between line feeds has been dropped, no line feed is left to drop. -/
theorem settle_eq_emptyBlankLines (text : Text) : settle text = emptyBlankLines text :=
  capBreaks_of_isSettled (isSettled_emptyBlankLines text)

/-! ## Edges -/

theorem endsSeen_dropTrailing (text : Text) : EndsSeen (dropTrailing isBlank text) := by
  intro last member
  rw [dropTrailing, List.getLast?_reverse, Option.mem_def] at member
  have kept := List.head?_dropWhile_not isBlank text.reverse
  rw [member] at kept
  simpa using kept

theorem opensFlush_dropWhile (text : Text) : OpensFlush (text.dropWhile isLineSpacing) := by
  intro first member
  have kept := List.head?_dropWhile_not isLineSpacing text
  rw [Option.mem_def.1 member] at kept
  simpa using kept

theorem OpensFlush.of_front {text part : Text} (opens : OpensFlush text) (front : part <+: text) :
    OpensFlush part := by
  obtain ⟨tail, rfl⟩ := front
  intro first member
  refine opens first ?_
  rw [List.head?_append, Option.mem_def.1 member]
  rfl

theorem opensFlush_stripEdges (text : Text) : OpensFlush (stripEdges text) := by
  obtain ⟨tail, whole, -⟩ := exists_dropped isBlank (text.dropWhile isLineSpacing)
  exact (opensFlush_dropWhile text).of_front ⟨tail, whole.symm⟩

theorem stripEdges_of_edges {text : Text} (opens : OpensFlush text) (ends : EndsSeen text) :
    stripEdges text = text := by
  have front : text.dropWhile isLineSpacing = text := by
    cases text with
    | nil => rfl
    | cons first rest => exact List.dropWhile_cons_of_neg (by simp [opens first rfl])
  rw [stripEdges_eq, front]
  rcases List.eq_nil_or_concat' text with rfl | ⟨before, last, rfl⟩
  · rfl
  · have visible := ends last (by simp)
    simp [dropTrailing, visible]

/-- The first character of a run stays if it is no line feed. -/
theorem head?_settleRun {run : Text} (opens : run.head? ≠ some '\n') :
    (settleRun run).head? = run.head? := by
  by_cases feed : '\n' ∈ run
  · obtain ⟨front, rest, rfl, noFront⟩ := List.eq_append_cons_of_mem feed
    cases front with
    | nil => exact absurd rfl opens
    | cons first others =>
        by_cases again : '\n' ∈ rest
        · obtain ⟨middle, back, rfl, noBack⟩ := exists_last_break again
          rw [settleRun_between noFront noBack]
          rfl
        · rw [settleRun_single noFront again]
  · rw [settleRun_of_not_mem feed]

theorem head?_emptyBlankLines {text : Text} (opens : text.head? ≠ some '\n') :
    (emptyBlankLines text).head? = text.head? := by
  cases seen : isAllBlank text with
  | true =>
      rw [emptyBlankLines_of_blank seen]
      exact head?_settleRun opens
  | false =>
      obtain ⟨margin, character, rest, rfl, blank, visible⟩ := exists_first_visible seen
      rw [emptyBlankLines_append_cons blank visible]
      cases margin with
      | nil => rfl
      | cons first others =>
          have kept := @head?_settleRun (first :: others) opens
          rw [List.head?_append, kept]
          rfl

theorem OpensFlush.emptyBlankLines {text : Text} (opens : OpensFlush text) :
    OpensFlush (emptyBlankLines text) := by
  have other : text.head? ≠ some '\n' := by
    intro feed
    have flush := opens '\n' feed
    cases flush
  rw [OpensFlush, head?_emptyBlankLines other]
  exact opens

theorem EndsSeen.emptyBlankLines {text : Text} (ends : EndsSeen text) :
    EndsSeen (emptyBlankLines text) := by
  rcases List.eq_nil_or_concat' text with rfl | ⟨before, last, rfl⟩
  · exact ends
  · have visible := ends last (by simp)
    obtain ⟨settled, same⟩ := exists_settleRuns_snoc visible [] before
    rw [Text.emptyBlankLines, same]
    intro final member
    obtain rfl : last = final := by simpa using member
    exact visible

/-! ## Tidy texts -/

/-- Every pass of the cleanup leaves the text as it is, and what the passes take out
is not there. -/
structure IsTidy (text : Text) : Prop where
  edges : stripEdges text = text
  blankLines : emptyBlankLines text = text
  breaks : capBreaks text = text
  whole : cleanUp text = text
  noThreeBreaks : ¬ ['\n', '\n', '\n'] <:+: text
  noBlankLine : IsSettled text
  noTrailing : EndsSeen text

theorem isTidy_cleanUp (text : Text) : IsTidy (cleanUp text) := by
  have same : cleanUp text = emptyBlankLines (stripEdges text) :=
    settle_eq_emptyBlankLines (stripEdges text)
  have settled : IsSettled (cleanUp text) := by
    rw [same]
    exact isSettled_emptyBlankLines _
  have ends : EndsSeen (cleanUp text) := by
    rw [same]
    exact (endsSeen_dropTrailing _).emptyBlankLines
  have opens : OpensFlush (cleanUp text) := by
    rw [same]
    exact (opensFlush_stripEdges text).emptyBlankLines
  have edges := stripEdges_of_edges opens ends
  have blankLines := emptyBlankLines_of_isSettled settled
  refine {
    edges := edges
    blankLines := blankLines
    breaks := capBreaks_of_isSettled settled
    whole := ?_
    noThreeBreaks := settled.noThreeBreaks
    noBlankLine := settled
    noTrailing := ends }
  rw [cleanUp_eq_settle, edges, settle_eq_emptyBlankLines, blankLines]

end PageMark.Text

namespace PageMark

theorem Registry.isTidy_convertBelow {registry : Registry} {document : Document} {body : Position}
    {conversion : Conversion} (converted : registry.convertBelow document body = .ok conversion) :
    conversion.markdown.IsTidy := by
  unfold convertBelow at converted
  split at converted
  · cases converted
  · obtain ⟨content, -, ⟨⟩⟩ := bind_eq_ok_iff.1 converted
    exact Text.isTidy_cleanUp content

theorem Document.isTidy_convert {document : Document} {flavor : Flavor}
    {definitions : List Definition} {conversion : Conversion}
    (converted : document.convert flavor definitions = .ok conversion) :
    conversion.markdown.IsTidy := by
  unfold convert convertCollapsed at converted
  split at converted
  · cases converted
    exact Text.isTidy_cleanUp []
  · obtain ⟨registry, -, below⟩ := bind_eq_ok_iff.1 converted
    exact registry.isTidy_convertBelow below

/-- Whatever is cleaned up comes out tidy, and so does the Markdown of every document and
of every page, whichever rules it was made with. -/
theorem markdown_tidy :
    (∀ text, (Text.cleanUp text).IsTidy) ∧
    (∀ (registry : Registry) document body conversion,
      registry.convertBelow document body = .ok conversion → conversion.markdown.IsTidy) ∧
    (∀ (document : Document) flavor definitions conversion,
      document.convert flavor definitions = .ok conversion → conversion.markdown.IsTidy) ∧
    ∀ page flavor definitions markdown,
      convertPage page flavor definitions = .ok markdown → markdown.IsTidy := by
  refine ⟨Text.isTidy_cleanUp, ?_, ?_, ?_⟩
  · intro registry document body conversion converted
    exact Registry.isTidy_convertBelow converted
  · intro document flavor definitions conversion converted
    exact Document.isTidy_convert converted
  · intro page flavor definitions markdown converted
    unfold convertPage at converted
    split at converted
    · cases converted
      exact Text.isTidy_cleanUp []
    · obtain ⟨conversion, made, ⟨⟩⟩ := bind_eq_ok_iff.1 converted
      exact Document.isTidy_convert made

theorem twoBlocks_tidy :
    convertPage "<h1>a</h1> <p>b </p>".toList { gfm := true } [] = .ok "# a\n\nb".toList ∧
      Text.IsTidy "# a\n\nb".toList := by
  have converted :
      convertPage "<h1>a</h1> <p>b </p>".toList { gfm := true } [] = .ok "# a\n\nb".toList := by
    decide +kernel
  exact ⟨converted, markdown_tidy.2.2.2 _ _ _ _ converted⟩

end PageMark
