import PageMark.Proofs.InlineCharacters

/-!
# Content between tags

An element is written around a content by putting that between the brackets where its opening tag
ends and its closing tag begins.  No value of an attribute has a closing bracket when it is written,
so these are the first two brackets that meet, whatever the values are.
-/

namespace PageMark

namespace Text

/-- What stands before the first occurrence of a pair is kept, and so is what stands behind. -/
theorem replaceFirst_append_pair {first : Char} {front : Text} (free : first ∉ front)
    (second : Char) (replacement back : Text) :
    replaceFirst [first, second] replacement (front ++ first :: second :: back) =
      front ++ replacement ++ back := by
  induction front with
  | nil => simp [replaceFirst]
  | cons character rest ih =>
      rw [List.mem_cons, not_or] at free
      rw [List.cons_append, replaceFirst, if_neg (by simp [free.1]), ih free.2]
      rfl

/-- Without the second character behind it the first one is no occurrence of a pair. -/
theorem replaceFirst_snoc_of_not_mem {first : Char} {front : Text} (free : first ∉ front)
    (second : Char) (replacement : Text) :
    replaceFirst [first, second] replacement (front ++ [first]) = front ++ [first] := by
  induction front with
  | nil => simp [replaceFirst]
  | cons character rest ih =>
      rw [List.mem_cons, not_or] at free
      rw [List.cons_append, replaceFirst, if_neg (by simp [free.1]), ih free.2]

end Text

theorem not_mem_bracket_escapeMarkup (text : Text) : '>' ∉ escapeMarkup text := by
  intro member
  obtain ⟨character, -, written⟩ := List.mem_flatMap.1 member
  unfold escapeChar at written
  split at written
  · exact absurd written (by decide)
  · exact absurd written (by decide)
  · exact absurd written (by decide)
  · next other => exact other (List.mem_singleton.1 written).symm

theorem not_mem_quoteValue {character : Char} (unwritten : character ∉ "'\"&quot;".toList)
    {value : Text} (free : character ∉ value) : character ∉ quoteValue value := by
  have unwritten' : character ∉ "&quot;".toList := fun member =>
    unwritten (List.mem_cons_of_mem _ (List.mem_cons_of_mem _ member))
  have single : character ≠ '\'' := List.ne_of_not_mem_cons unwritten
  have double : character ≠ '"' := List.ne_of_not_mem_cons (List.not_mem_of_not_mem_cons unwritten)
  rw [quoteValue]
  split
  · split
    · simp only [List.cons_append, List.mem_cons, List.mem_append, List.mem_flatMap, not_or,
        List.not_mem_nil, not_false_eq_true, and_true]
      refine ⟨double, ?_, double⟩
      rintro ⟨own, inValue, written⟩
      split at written
      · exact unwritten' written
      · rw [List.mem_singleton.1 written] at free
        exact free inValue
    · simp [single, free]
  · simp [double, free]

theorem Tag.not_mem_heading {tag : Tag} {character : Char} (unwritten : character ∉ [' ', '='])
    (name : character ∉ tag.name.toList)
    (attributes : ∀ entry ∈ tag.attributes, character ∉ entry.name.toList ∧
      character ∉ quoteValue (escapeMarkup (tag.writtenValue entry))) :
    character ∉ tag.heading := by
  simp only [List.mem_cons, List.not_mem_nil, or_false, not_or] at unwritten
  rw [heading, List.mem_append, not_or]
  refine ⟨name, fun written => ?_⟩
  obtain ⟨entry, listed, written⟩ := List.mem_flatMap.1 written
  obtain ⟨key, value⟩ := attributes entry (List.mem_mergeSort.1 listed)
  simp [attributeMarkup, unwritten, key, value] at written

namespace Tag

/-- Neither the name of the element nor those of its attributes have a closing bracket. -/
structure HasPlainNames (tag : Tag) : Prop where
  name : '>' ∉ tag.name.toList
  names : ∀ entry ∈ tag.attributes, '>' ∉ entry.name.toList

section Plain

variable {tag : Tag} (plain : tag.HasPlainNames)

include plain

theorem HasPlainNames.not_mem_heading : '>' ∉ tag.heading := by
  refine Tag.not_mem_heading (by decide) plain.name fun entry member =>
    ⟨plain.names entry member, ?_⟩
  exact not_mem_quoteValue (by decide) (not_mem_bracket_escapeMarkup _)

theorem HasPlainNames.around_eq (solid : tag.isVoid = false) (content : Text) :
    tag.around content = tag.opening ++ content ++ tag.closing := by
  have free : '>' ∉ '<' :: tag.heading :=
    List.not_mem_cons_of_ne_of_not_mem (by decide) plain.not_mem_heading
  have shell : tag.shell =
      ('<' :: tag.heading) ++ '>' :: '<' :: ('/' :: tag.name.toList ++ ['>']) := by
    rw [Tag.shell, solid]
    simp [opening, closing]
  rw [around, shell, Text.replaceFirst_append_pair free]
  simp [opening, closing]

theorem HasPlainNames.around_eq_selfClosing (void : tag.isVoid = true) (content : Text) :
    tag.around content = tag.selfClosing := by
  have free : '>' ∉ '<' :: tag.heading ++ ['/'] := by
    simp [plain.not_mem_heading]
  have shell : tag.shell = ('<' :: tag.heading ++ ['/']) ++ ['>'] := by
    rw [Tag.shell, if_pos void]
    simp [selfClosing]
  rw [around, shell, Text.replaceFirst_snoc_of_not_mem free]
  simp [selfClosing]

/-- An element is written around any content as its opening tag, the content as it is and its
closing tag; the content of a void one is ignored.  Around its own content an element is written as
it is, if it is not void by either list of names. -/
theorem around_splices :
    (tag.isVoid = false → ∀ content, tag.around content = tag.opening ++ content ++ tag.closing) ∧
    (tag.isVoid = true → ∀ content other, tag.around content = tag.around other) ∧
    (tag.isVoid = false → selfClosingNames.contains tag.name = false →
      ∀ children, tag.around (Node.element tag children).innerMarkup =
        (Node.element tag children).markup) := by
  refine ⟨plain.around_eq, fun void content other => ?_, fun solid other children => ?_⟩
  · rw [plain.around_eq_selfClosing void, plain.around_eq_selfClosing void]
  · rw [plain.around_eq solid, Node.markup, Node.markupIn, other, Bool.and_false,
      if_neg Bool.false_ne_true]
    rfl

end Plain

/-- A value with brackets that meet, with both quotes and with a reference. -/
def trickyTag (name : String) : Tag where
  name := name
  attributes := [{ name := "a", value := .single "x><'\"&gt;".toList }]

theorem trickyTag_around :
    (trickyTag "span").HasPlainNames ∧ (trickyTag "IMG").HasPlainNames ∧
      (trickyTag "span").around "<p>t</p>".toList =
        "<span a=\"x&gt;&lt;'&quot;&amp;gt;\"><p>t</p></span>".toList ∧
      (trickyTag "IMG").around "t".toList = (trickyTag "IMG").around [] ∧
      (trickyTag "span").around (Node.element (trickyTag "span") [.text .plain ['<']]).innerMarkup =
        (Node.element (trickyTag "span") [.text .plain ['<']]).markup := by
  have plain (name : String) (free : '>' ∉ name.toList) : (trickyTag name).HasPlainNames :=
    ⟨free, List.forall_mem_singleton.2 (by decide)⟩
  have span := plain "span" (by decide)
  have image := plain "IMG" (by decide)
  exact ⟨span, image, ((around_splices span).1 rfl _).trans (by decide +kernel),
    (around_splices image).2.1 rfl _ _, (around_splices span).2.2 rfl rfl _⟩

end Tag

end PageMark
