import Mathlib.Data.List.Chain
import PageMark.Failure
import PageMark.Slug

/-!
# Slugs are safe names

A slug is made of the words of a name, with an underscore between neighbours, and
is cut off after a hundred characters.  No name brings other characters, an
underscore at the start or two underscores in a row into it.  An underscore at
the end comes from the cut, when that falls right behind the underscore between
two words.
-/

namespace PageMark

namespace Slug

/-! ## Words -/

/-- The words of a name: its letters and digits, without what stands between. -/
def words (name : Text) : List Text :=
  Text.pieces (fun character => !isKept character) name

/-- There is something in each of these, letters and digits only. -/
def AreWords (texts : List Text) : Prop :=
  ∀ word ∈ texts, word ≠ [] ∧ ∀ character ∈ word, isKept character = true

theorem areWords_words (name : Text) : AreWords (words name) := by
  intro word member
  refine ⟨Text.ne_nil_of_mem_pieces member, fun character within => ?_⟩
  simpa using Text.not_isSeparator_of_mem_pieces member within

theorem flatten_words (name : Text) : (words name).flatten = name.filter isKept := by
  simp [words, Text.flatten_pieces]

/-- A name without letters and digits has no words. -/
theorem words_eq_nil_iff {name : Text} :
    words name = [] ↔ ∀ character ∈ name, isKept character = false := by
  have filled : [] ∉ words name := fun member => (areWords_words name [] member).1 rfl
  calc words name = [] ↔ (words name).flatten = [] := by
        rw [List.flatten_eq_nil_iff]
        exact ⟨fun nothing => by simp [nothing], fun empty =>
          List.eq_nil_iff_forall_not_mem.2 fun word member => filled (empty word member ▸ member)⟩
    _ ↔ ∀ character ∈ name, isKept character = false := by
        simp [flatten_words]

theorem isKept_iff {character : Char} :
    isKept character = true ↔ character.isAlphanum = true := by
  have upper : character.isUpper = decide ('A' ≤ character ∧ character ≤ 'Z') := rfl
  have lower : character.isLower = ('a' ≤ character && character ≤ 'z') := rfl
  have digit : character.isDigit = ('0' ≤ character && character ≤ '9') := rfl
  have whole : character.isAlphanum =
      (character.isUpper || character.isLower || character.isDigit) := rfl
  rw [whole, upper, lower, digit, isKept, Bool.decide_and]
  simp only [Bool.or_eq_true]
  exact or_congr_left or_comm

theorem ne_underscore {character : Char} (kept : isKept character = true) : character ≠ '_' := by
  rintro rfl
  exact absurd kept (by decide)

theorem not_mem_underscore {word : Text} (kept : ∀ character ∈ word, isKept character = true) :
    '_' ∉ word :=
  fun member => ne_underscore (kept _ member) rfl

/-! ## Words with underscores between them -/

def joined (texts : List Text) : Text :=
  Text.joinWith ['_'] texts

theorem joined_cons (word : Text) {others : List Text} (some : others ≠ []) :
    joined (word :: others) = word ++ '_' :: joined others := by
  rw [joined, Text.joinWith_cons word some, List.append_assoc]
  rfl

theorem joined_append {first others : List Text} (some : first ≠ []) (more : others ≠ []) :
    joined (first ++ others) = joined first ++ '_' :: joined others := by
  induction first with
  | nil => exact absurd rfl some
  | cons word rest ih =>
      cases rest with
      | nil => exact joined_cons word more
      | cons next later =>
          rw [List.cons_append, joined_cons word (by simp), ih (by simp),
            joined_cons word (by simp), List.append_assoc, List.cons_append]

/-- Behind a text without underscores the first one is found. -/
theorem eq_or_exists_of_append_eq {word rest front back : Text} (free : '_' ∉ word)
    (same : word ++ '_' :: rest = front ++ '_' :: back) :
    word = front ∧ rest = back ∨
      ∃ beyond, front = word ++ '_' :: beyond ∧ rest = beyond ++ '_' :: back := by
  rcases List.append_eq_append_iff.1 same with ⟨beyond, rfl, shape⟩ | ⟨within, rfl, shape⟩
  · cases beyond with
    | nil => exact .inl ⟨by simp, by simpa using shape⟩
    | cons character beyond =>
        simp only [List.cons_append, List.cons.injEq] at shape
        obtain ⟨rfl, shape⟩ := shape
        exact .inr ⟨beyond, rfl, shape⟩
  · cases within with
    | nil => exact .inl ⟨by simp, by simpa using shape.symm⟩
    | cons character within =>
        simp only [List.cons_append, List.cons.injEq] at shape
        exact absurd (List.mem_append_right front (shape.1 ▸ List.mem_cons_self)) free

section Words

variable {texts : List Text} (areWords : AreWords texts)

include areWords

theorem joined_ne_nil (some : texts ≠ []) : joined texts ≠ [] := by
  cases texts with
  | nil => exact absurd rfl some
  | cons word others =>
      have filled := (areWords word List.mem_cons_self).1
      cases others with
      | nil => exact filled
      | cons next later =>
          rw [joined_cons word (by simp)]
          exact List.append_ne_nil_of_left_ne_nil filled _

theorem isKept_or_of_mem_joined {character : Char} (member : character ∈ joined texts) :
    isKept character = true ∨ character = '_' := by
  induction texts with
  | nil => cases member
  | cons word others ih =>
      obtain ⟨⟨-, kept⟩, areWords'⟩ := List.forall_mem_cons.1 areWords
      cases others with
      | nil => exact .inl (kept character member)
      | cons next later =>
          rw [joined_cons word (by simp), List.mem_append, List.mem_cons] at member
          rcases member with inWord | rfl | later
          · exact .inl (kept character inWord)
          · exact .inr rfl
          · exact ih areWords' later

/-- An underscore among the joined words stands between two of them. -/
theorem exists_split_of_joined_eq {front back : Text}
    (shape : joined texts = front ++ '_' :: back) :
    ∃ first others, texts = first ++ others ∧ first ≠ [] ∧ others ≠ [] ∧
      joined first = front ∧ joined others = back := by
  induction texts generalizing front with
  | nil => simp [joined, Text.joinWith] at shape
  | cons word others ih =>
      obtain ⟨⟨-, kept⟩, areWords'⟩ := List.forall_mem_cons.1 areWords
      have free := not_mem_underscore kept
      cases others with
      | nil =>
          have own : word = front ++ '_' :: back := shape
          exact absurd (own ▸ List.mem_append_right front List.mem_cons_self) free
      | cons next later =>
          rw [joined_cons word (by simp)] at shape
          rcases eq_or_exists_of_append_eq free shape with ⟨rfl, rfl⟩ | ⟨beyond, rfl, rest⟩
          · exact ⟨[word], next :: later, rfl, by simp, by simp, rfl, rfl⟩
          · obtain ⟨first, others, whole, some, more, rfl, rfl⟩ := ih areWords' rest
            exact ⟨word :: first, others, by rw [whole, List.cons_append], by simp, more,
              joined_cons word some, rfl⟩

end Words

/-! ## No underscores at the edges or in a row -/

/-- Neither at the edges nor next to each other are there underscores. -/
structure IsSpaced (text : Text) : Prop where
  start : text.head? ≠ some '_'
  finish : text.getLast? ≠ some '_'
  single : text.IsChain fun left right => ¬ (left = '_' ∧ right = '_')

theorem isSpaced_of_not_mem {text : Text} (free : '_' ∉ text) : IsSpaced text where
  start := fun start => free (List.mem_of_head? start)
  finish := fun finish => free (List.mem_of_getLast? finish)
  single := by
    refine (List.pairwise_of_forall_mem_list fun left member _ _ => ?_).isChain
    rintro ⟨rfl, -⟩
    exact free member

theorem IsSpaced.append {left right : Text} (spaced : IsSpaced left) (spaced' : IsSpaced right)
    (someLeft : left ≠ []) (someRight : right ≠ []) : IsSpaced (left ++ '_' :: right) where
  start := by
    rw [List.head?_append_of_ne_nil left someLeft]
    exact spaced.start
  finish := by
    rw [List.getLast?_append_of_ne_nil left (List.cons_ne_nil _ _),
      List.getLast?_cons_of_ne_nil someRight]
    exact spaced'.finish
  single := by
    refine List.isChain_append.2 ⟨spaced.single, List.isChain_cons.2 ⟨?_, spaced'.single⟩, ?_⟩
    · rintro next first ⟨-, rfl⟩
      exact spaced'.start first
    · rintro last final next - ⟨rfl, -⟩
      exact spaced.finish final

theorem isSpaced_joined {texts : List Text} (areWords : AreWords texts) :
    IsSpaced (joined texts) := by
  induction texts with
  | nil => exact isSpaced_of_not_mem List.not_mem_nil
  | cons word others ih =>
      obtain ⟨⟨filled, kept⟩, areWords'⟩ := List.forall_mem_cons.1 areWords
      have own := isSpaced_of_not_mem (not_mem_underscore kept)
      cases others with
      | nil => exact own
      | cons next later =>
          rw [joined_cons word (by simp)]
          exact own.append (ih areWords') filled (joined_ne_nil areWords' (by simp))

/-! ## Step by step -/

/-- Every character but letters and digits becomes an underscore. -/
def marked (name : Text) : Text :=
  name.map fun character => if isKept character then character else '_'

/-- Of underscores in a row one stays. -/
def squeezed : Text → Text
  | [] => []
  | character :: rest =>
      if character = '_' ∧ rest.head? = some '_' then squeezed rest
      else character :: squeezed rest

/-- Underscores at both ends go. -/
def stripped (text : Text) : Text :=
  Text.dropTrailing (· == '_') (text.dropWhile (· == '_'))

/-- At most one underscore is left at the start. -/
theorem squeezed_eq (text : Text) :
    squeezed text =
      (if text.head? = some '_' then ['_'] else []) ++ (squeezed text).dropWhile (· == '_') := by
  induction text with
  | nil => rfl
  | cons character rest ih =>
      by_cases gap : character = '_'
      · subst gap
        by_cases again : rest.head? = some '_'
        · simpa [squeezed, again] using ih
        · simpa [squeezed, again] using ih
      · simp [squeezed, gap]

/-- Dropping underscores at the end keeps the one at the start if anything stands behind it. -/
theorem dropTrailing_squeezed (text : Text) :
    Text.dropTrailing (· == '_') (squeezed text) =
      if text.head? = some '_' ∧ stripped (squeezed text) ≠ [] then '_' :: stripped (squeezed text)
      else stripped (squeezed text) := by
  have start := squeezed_eq text
  by_cases gap : text.head? = some '_'
  · rw [if_pos gap, List.singleton_append] at start
    refine (congrArg _ start).trans ?_
    rw [Text.dropTrailing_cons rfl, ← stripped]
    by_cases nothing : stripped (squeezed text) = [] <;> simp [gap, nothing]
  · rw [if_neg gap, List.nil_append] at start
    rw [if_neg (fun both => gap both.1), stripped, ← start]

theorem words_cons_of_gap {character : Char} (gap : isKept character = false) (rest : Text) :
    words (character :: rest) = words rest := by
  simp [words, Text.pieces, gap]

theorem head?_marked_iff {name : Text} :
    (marked name).head? = some '_' ↔
      (name.head?.any fun character => !isKept character) = true := by
  cases name with
  | nil => simp [marked]
  | cons character rest =>
      cases kept : isKept character with
      | false => simp [marked, kept]
      | true => simp [marked, kept, ne_underscore kept]

/-- What the first letter of a name adds to the joined words. -/
theorem joined_words_cons {character : Char} (kept : isKept character = true) (rest : Text) :
    joined (words (character :: rest)) =
      character ::
        if (marked rest).head? = some '_' ∧ joined (words rest) ≠ [] then
          '_' :: joined (words rest)
        else joined (words rest) := by
  have solid : (!isKept character) = false := by simp [kept]
  rw [words, Text.pieces_cons_of_solid solid, ← words]
  have areWords := areWords_words rest
  cases shape : words rest with
  | nil => simp [joined, Text.joinWith]
  | cons word others =>
      have filled : joined (word :: others) ≠ [] := joined_ne_nil (shape ▸ areWords) (by simp)
      by_cases gap : (marked rest).head? = some '_'
      · have apart := joined_cons [character] (List.cons_ne_nil word others)
        rw [if_pos ⟨gap, filled⟩]
        simpa [head?_marked_iff.1 gap] using apart
      · rw [if_neg fun both => gap both.1]
        have solid' := mt head?_marked_iff.2 gap
        simp only [solid']
        cases others <;> simp [joined, Text.joinWith]

/-- Joining the words comes to the same as marking what stands between them, squeezing and
stripping the marks. -/
theorem joined_words (name : Text) : joined (words name) = stripped (squeezed (marked name)) := by
  induction name with
  | nil => rfl
  | cons character rest ih =>
      cases kept : isKept character with
      | false =>
          have shape : marked (character :: rest) = '_' :: marked rest := by simp [marked, kept]
          rw [words_cons_of_gap kept, ih, shape, squeezed]
          split
          · rfl
          · simp [stripped]
      | true =>
          have other := ne_underscore kept
          have shape : marked (character :: rest) = character :: marked rest := by
            simp [marked, kept]
          have own : stripped (character :: squeezed (marked rest)) =
              character :: Text.dropTrailing (· == '_') (squeezed (marked rest)) := by
            rw [stripped, List.dropWhile_cons_of_neg (by simpa using other),
              Text.dropTrailing_cons_of_not (by simpa using other)]
          have step : squeezed (character :: marked rest) = character :: squeezed (marked rest) :=
            if_neg fun both => other both.1
          rw [joined_words_cons kept, shape, step, own, dropTrailing_squeezed, ih]

/-! ## The cut -/

/-- The first words have ninety-nine characters with the underscores between them, and there are
others. -/
def IsCutBehindGap (texts : List Text) : Prop :=
  ∃ first others, texts = first ++ others ∧ others ≠ [] ∧ (joined first).length = 99

theorem getLast?_take_joined_iff {texts : List Text} (areWords : AreWords texts) :
    ((joined texts).take limit).getLast? = some '_' ↔ IsCutBehindGap texts := by
  constructor
  · intro finish
    obtain ⟨front, cut⟩ := List.getLast?_eq_some_iff.1 finish
    have shape : joined texts = front ++ '_' :: (joined texts).drop limit := by
      rw [← List.singleton_append, ← List.append_assoc, ← cut, List.take_append_drop]
    obtain ⟨first, others, rfl, -, more, rfl, back⟩ := exists_split_of_joined_eq areWords shape
    have areOthers : AreWords others :=
      fun word member => areWords word (List.mem_append_right first member)
    -- As something was cut off, the slug is as long as it may be.
    have left : (joined (first ++ others)).drop limit ≠ [] :=
      back ▸ joined_ne_nil areOthers more
    have beyond : limit < (joined (first ++ others)).length :=
      Nat.lt_of_not_le fun short => left (List.drop_eq_nil_of_le short)
    have long : ((joined (first ++ others)).take limit).length = limit :=
      List.length_take_of_le beyond.le
    rw [cut, List.length_append] at long
    exact ⟨first, others, rfl, more, Nat.succ.inj long⟩
  · rintro ⟨first, others, rfl, more, length⟩
    have some : first ≠ [] := by
      rintro rfl
      cases length
    have front : (joined first ++ ['_']).length = limit := by
      rw [List.length_append, length]
      rfl
    have shape : joined (first ++ others) = (joined first ++ ['_']) ++ joined others := by
      rw [joined_append some more, List.append_assoc, List.singleton_append]
    rw [shape, List.take_left' front, List.getLast?_concat]

/-! ## Slugs -/

/-- Letters, digits and single underscores, at least one and at most a hundred of them, and no
underscore at the start. -/
structure IsSafe (slug : Text) : Prop where
  filled : slug ≠ []
  short : slug.length ≤ 100
  characters : ∀ character ∈ slug, character.isAlphanum = true ∨ character = '_'
  single : slug.IsChain fun left right => ¬ (left = '_' ∧ right = '_')
  start : slug.head? ≠ some '_'

/-- What a slug has of a name: its letters and digits with an underscore for whatever stands between
them, as far as a hundred characters go. -/
structure IsMadeOf (slug name : Text) : Prop where
  spelled : (∃ character ∈ name, isKept character = true) →
    slug = (stripped (squeezed (marked name))).take 100
  wordless : (∀ character ∈ name, isKept character = false) → slug = "page".toList
  finish : slug.getLast? = some '_' ↔ IsCutBehindGap (words name)

theorem ofText_of_wordless {name : Text} (wordless : words name = []) :
    ofText name = fallback := by
  have nothing : joined (words name) = [] := by rw [wordless]; rfl
  exact if_pos (List.isEmpty_iff.2 nothing)

theorem ofText_of_words {name : Text} (some : words name ≠ []) :
    ofText name = (joined (words name)).take limit :=
  if_neg fun nothing =>
    joined_ne_nil (areWords_words name) some (List.isEmpty_iff.1 nothing)

theorem isSafe_ofText (name : Text) : IsSafe (ofText name) := by
  by_cases wordless : words name = []
  · rw [ofText_of_wordless wordless]
    have kept := List.all_eq_true.1 (rfl : fallback.all isKept = true)
    have spaced := isSpaced_of_not_mem (not_mem_underscore kept)
    exact ⟨by simp [fallback], by simp [fallback],
      fun character member => .inl (isKept_iff.1 (kept character member)), spaced.single,
      spaced.start⟩
  · have areWords := areWords_words name
    have spaced := isSpaced_joined areWords
    rw [ofText_of_words wordless]
    refine ⟨?_, List.length_take_le _ _, fun character member => ?_, spaced.single.take _, ?_⟩
    · simpa [limit] using joined_ne_nil areWords wordless
    · exact (isKept_or_of_mem_joined areWords (List.mem_of_mem_take member)).imp_left isKept_iff.1
    · rw [List.head?_take, if_neg (by decide)]
      exact spaced.start

theorem isMadeOf_ofText (name : Text) : IsMadeOf (ofText name) name := by
  by_cases wordless : words name = []
  · have none : ¬ ∃ character ∈ name, isKept character = true := by
      simpa using words_eq_nil_iff.1 wordless
    rw [ofText_of_wordless wordless]
    refine ⟨fun some => absurd some none, fun _ => rfl, ?_⟩
    constructor
    · intro finish
      exact absurd finish (by decide)
    · rintro ⟨first, others, split, more, -⟩
      rw [wordless] at split
      exact absurd (List.append_eq_nil_iff.1 split.symm).2 more
  · rw [ofText_of_words wordless]
    refine ⟨fun _ => ?_, fun none => ?_, getLast?_take_joined_iff (areWords_words name)⟩
    · rw [joined_words, limit]
    · exact absurd (words_eq_nil_iff.2 none) wordless

/-- The name that a slug is made from: the location and the path of an address, or the stem of a
file. -/
inductive Names (source : Text) : Text → Prop
  | page {rest : Text} {parts : AddressParts} (onNetwork : networkAddress? source = some rest)
      (read : AddressParts.ofRest rest = .ok parts) :
      Names source (parts.location ++ parts.path)
  | file (offNetwork : networkAddress? source = none) : Names source (FilePath.stem source)

theorem ofSource_eq_ok_iff {source slug : Text} :
    ofSource source = .ok slug ↔ ∃ name, Names source name ∧ slug = ofText name := by
  constructor
  · intro made
    cases place : networkAddress? source with
    | none =>
        rw [ofSource, place] at made
        exact ⟨_, .file place, (Except.ok.inj made).symm⟩
    | some rest =>
        rw [ofSource, place] at made
        obtain ⟨parts, read, made⟩ := bind_eq_ok_iff.1 made
        exact ⟨_, .page place read, (Except.ok.inj made).symm⟩
  · rintro ⟨name, names, rfl⟩
    cases names with
    | page onNetwork read => simp [ofSource, onNetwork, read]
    | file offNetwork => simp [ofSource, offNetwork]

/-- Every slug is safe and spells its name as far as it goes.  It ends in an underscore exactly if
it is cut off behind the one between two words. -/
theorem ofSource_isSafe {source slug : Text} (made : ofSource source = .ok slug) :
    IsSafe slug ∧ ∃ name, Names source name ∧ IsMadeOf slug name := by
  obtain ⟨name, names, rfl⟩ := ofSource_eq_ok_iff.1 made
  exact ⟨isSafe_ofText name, name, names, isMadeOf_ofText name⟩

/-- The location and the path have eighteen words, and the first seventeen take ninety-nine
characters. -/
def longAddress : Text :=
  "https://example.org/handbook/reading-a-long-page-of-hypertext-in-my-terminal/".toList ++
    "with-headings-lists-tables-and-quotations?print=1".toList

def longSlug : Text :=
  "example_org_handbook_reading_a_long_page_of_hypertext_in_my_terminal_".toList ++
    "with_headings_lists_tables_and_".toList

theorem ofSource_longAddress : ofSource longAddress = .ok longSlug := by
  decide +kernel

theorem longAddress_isSafe :
    ofSource longAddress = .ok longSlug ∧ IsSafe longSlug ∧
      ∃ name, Names longAddress name ∧ IsMadeOf longSlug name :=
  ⟨ofSource_longAddress, ofSource_isSafe ofSource_longAddress⟩

/-- A cut right behind a gap leaves its underscore at the end. -/
theorem longAddress_ends_in_underscore :
    ofSource longAddress = .ok longSlug ∧ longSlug.length = 100 ∧
      longSlug.getLast? = some '_' ∧
      ¬ ∀ source slug, ofSource source = .ok slug → slug.getLast? ≠ some '_' := by
  have finish : longSlug.getLast? = some '_' := by decide +kernel
  exact ⟨ofSource_longAddress, by decide +kernel, finish,
    fun always => always _ _ ofSource_longAddress finish⟩

end Slug

end PageMark
