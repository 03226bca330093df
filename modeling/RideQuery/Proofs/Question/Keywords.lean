import Mathlib.Data.Finset.Card
import Mathlib.Order.WellFounded
import RideQuery.Proofs.Text.Search
import RideQuery.Question.Analysis

/-!
# Keywords that share their letters

A text that does not open like a question is accepted if it holds two keywords.  The
keywords are looked for as parts of words and each for itself, so that two of them may be
found in the same letters.  The texts that hold two words of a vocabulary are told apart:
in some, two different words stand apart; in all others, everything that is found is one
tangle of words that share letters.
-/

namespace RideQuery.Question

open RideQuery.Text

variable {vocabulary : List String} {text stretch : List Char}

/-! ## Words in a text -/

/-- What neither begins before a stretch of a text nor ends behind it lies in the stretch. -/
theorem exists_inside {front back before middle behind : List Char}
    (same : front ++ (stretch ++ back) = before ++ (middle ++ behind))
    (begins : front.length ≤ before.length) (ends : back.length ≤ behind.length) :
    ∃ lead trail, stretch = lead ++ (middle ++ trail) := by
  obtain ⟨lead, rfl⟩ := List.prefix_of_prefix_length_le ⟨_, rfl⟩ ⟨_, same.symm⟩ begins
  rw [List.append_assoc, List.append_cancel_left_eq] at same
  have suffixes : back <:+ lead ++ (middle ++ behind) ∧ behind <:+ lead ++ (middle ++ behind) :=
    ⟨⟨stretch, same⟩, ⟨lead ++ middle, List.append_assoc ..⟩⟩
  obtain ⟨trail, rfl⟩ := List.suffix_of_suffix_length_le suffixes.1 suffixes.2 ends
  rw [← List.append_assoc middle, ← List.append_assoc lead] at same
  exact ⟨lead, trail, List.append_cancel_right same⟩

/-- A word of a vocabulary that is met in a text, with the text around it. -/
structure Occurrence (vocabulary : List String) (text : List Char) where
  word : String
  member : word ∈ vocabulary
  front : List Char
  back : List Char
  text_eq : text = front ++ (word.toList ++ back)

/-- Two different words of a vocabulary are met in a text, maybe in the same letters. -/
def HoldsTwo (vocabulary : List String) (text : List Char) : Prop :=
  ∃ first ∈ vocabulary, ∃ second ∈ vocabulary,
    first ≠ second ∧ first.toList <:+: text ∧ second.toList <:+: text

/-- One word is met in a text behind another, and they have no letter in common. -/
def StandApart (first second text : List Char) : Prop :=
  ∃ front between back, text = front ++ (first ++ (between ++ (second ++ back)))

/-- Two different words of a vocabulary stand apart in a text. -/
def HasTwoPieces (vocabulary : List String) (text : List Char) : Prop :=
  ∃ first ∈ vocabulary, ∃ second ∈ vocabulary,
    first ≠ second ∧ StandApart first.toList second.toList text

/-- A stretch of text that words of a vocabulary make up, each sharing letters with the next. -/
inductive IsEntangled (vocabulary : List String) : List Char → Prop
  /-- A single word, which may have another one inside. -/
  | alone {word : String} (member : word ∈ vocabulary) : IsEntangled vocabulary word.toList
  /-- A word whose end is the beginning of another one. -/
  | blended {first second : String} (member : first ∈ vocabulary) (other : second ∈ vocabulary)
      {front shared back : List Char} (nonempty : shared ≠ [])
      (first_eq : first.toList = front ++ shared) (second_eq : second.toList = shared ++ back) :
      IsEntangled vocabulary (front ++ (shared ++ back))
  /-- The same word twice, with one between that begins in the first and ends in the second. -/
  | linked {outer inner : String} (member : outer ∈ vocabulary) (other : inner ∈ vocabulary)
      {front opening between closing back : List Char}
      (opens : opening ≠ []) (closes : closing ≠ [])
      (first_eq : outer.toList = front ++ opening) (second_eq : outer.toList = closing ++ back)
      (inner_eq : inner.toList = opening ++ (between ++ closing)) :
      IsEntangled vocabulary (front ++ (inner.toList ++ back))

/-- A stretch of text that holds two words of a vocabulary, but only in shared letters. -/
structure IsTangle (vocabulary : List String) (stretch : List Char) : Prop where
  entangled : IsEntangled vocabulary stretch
  several : HoldsTwo vocabulary stretch
  inseparable : ¬ HasTwoPieces vocabulary stretch

/-- A stretch of a text that all words of a vocabulary lie in that are met in the text. -/
structure Encloses (vocabulary : List String) (text front stretch back : List Char) : Prop where
  text_eq : text = front ++ (stretch ++ back)
  inside : ∀ met : Occurrence vocabulary text,
    front.length ≤ met.front.length ∧ back.length ≤ met.back.length

/-- All words of a vocabulary that are met in a text lie in a single tangle. -/
def IsTangled (vocabulary : List String) (text : List Char) : Prop :=
  ∃ front stretch back, Encloses vocabulary text front stretch back ∧ IsTangle vocabulary stretch

theorem Occurrence.isPrefix_front (met : Occurrence vocabulary text) : met.front <+: text :=
  ⟨met.word.toList ++ met.back, met.text_eq.symm⟩

theorem Occurrence.isSuffix_back (met : Occurrence vocabulary text) : met.back <:+ text :=
  ⟨met.front ++ met.word.toList, by rw [List.append_assoc, ← met.text_eq]⟩

theorem isInfix_of_standApart {first second : List Char} (apart : StandApart first second text) :
    first <:+: text ∧ second <:+: text := by
  obtain ⟨front, between, back, rfl⟩ := apart
  constructor
  · exact ⟨front, between ++ (second ++ back), by simp only [List.append_assoc]⟩
  · exact ⟨front ++ (first ++ between), back, by simp only [List.append_assoc]⟩

theorem HasTwoPieces.holdsTwo (pieces : HasTwoPieces vocabulary text) :
    HoldsTwo vocabulary text := by
  obtain ⟨first, firstMember, second, secondMember, different, apart⟩ := pieces
  exact ⟨first, firstMember, second, secondMember, different, isInfix_of_standApart apart⟩

/-- A text that holds every word that another one holds has two with it. -/
theorem HoldsTwo.mono {other : List Char} (several : HoldsTwo vocabulary text)
    (within : ∀ word ∈ vocabulary, word.toList <:+: text → word.toList <:+: other) :
    HoldsTwo vocabulary other := by
  obtain ⟨first, firstMember, second, secondMember, different, firstMet, secondMet⟩ := several
  exact ⟨first, firstMember, second, secondMember, different, within first firstMember firstMet,
    within second secondMember secondMet⟩

theorem exists_occurrence {word : String} (member : word ∈ vocabulary)
    (met : word.toList <:+: text) : ∃ found : Occurrence vocabulary text, found.word = word := by
  obtain ⟨front, back, text_eq⟩ := met
  exact ⟨{ word, member, front, back, text_eq := by rw [← text_eq, List.append_assoc] }, rfl⟩

theorem HoldsTwo.nonempty_occurrence (several : HoldsTwo vocabulary text) :
    Nonempty (Occurrence vocabulary text) := by
  obtain ⟨word, member, -, -, -, met, -⟩ := several
  obtain ⟨found, -⟩ := exists_occurrence member met
  exact ⟨found⟩

/-! ## Tangles -/

/-- If one word begins and ends a stretch, another one that is not apart from it links the two. -/
theorem isEntangled_of_twice {outer : String} {between : List Char} (member : outer ∈ vocabulary)
    (same : stretch = outer.toList ++ (between ++ outer.toList))
    (several : HoldsTwo vocabulary stretch) (inseparable : ¬ HasTwoPieces vocabulary stretch) :
    IsEntangled vocabulary stretch := by
  obtain ⟨inner, other, different, before, behind, met⟩ :
      ∃ inner ∈ vocabulary, inner ≠ outer ∧ inner.toList <:+: stretch := by
    obtain ⟨first, firstMember, second, secondMember, different, firstMet, secondMet⟩ := several
    by_cases first_eq : first = outer
    · exact ⟨second, secondMember, first_eq ▸ different.symm, secondMet⟩
    · exact ⟨first, firstMember, first_eq, firstMet⟩
  rw [List.append_assoc] at met
  obtain ⟨gap, before_eq, -⟩ | ⟨opening, opens, outer_eq, -⟩ :=
    apart_or_overlap (same.symm.trans met.symm)
  · -- Otherwise the word stands at the beginning, apart from the other one.
    refine absurd ?_ inseparable
    refine ⟨outer, member, inner, other, different.symm, [], gap, behind, ?_⟩
    rw [← met, before_eq, List.nil_append, List.append_assoc]
  have ends : (before ++ inner.toList) ++ behind = (outer.toList ++ between) ++ outer.toList := by
    rw [List.append_assoc, List.append_assoc, met, same]
  obtain ⟨gap, -, behind_eq⟩ | ⟨closing, closes, met_eq, outer_eq'⟩ := apart_or_overlap ends
  · -- Otherwise it stands at the end, apart from the other one.
    refine absurd ?_ inseparable
    refine ⟨inner, other, outer, member, different, before, gap, [], ?_⟩
    rw [← met, behind_eq, List.append_nil]
  have inner_eq : inner.toList = opening ++ (between ++ closing) := by
    rw [outer_eq] at met_eq
    simpa only [List.append_assoc, List.append_cancel_left_eq] using met_eq
  rw [← met]
  exact .linked member other opens closes outer_eq outer_eq' inner_eq

/-- A stretch that words begin and end is entangled, unless two different words stand apart. -/
theorem isEntangled_of_framed {first last : String} {before behind : List Char}
    (member : first ∈ vocabulary) (other : last ∈ vocabulary)
    (opens : stretch = first.toList ++ behind) (closes : stretch = before ++ last.toList)
    (several : HoldsTwo vocabulary stretch) (inseparable : ¬ HasTwoPieces vocabulary stretch) :
    IsEntangled vocabulary stretch := by
  obtain ⟨between, rfl, rfl⟩ | ⟨shared, nonempty, first_eq, last_eq⟩ :=
    apart_or_overlap (opens.symm.trans closes)
  · by_cases same : first = last
    · subst same
      exact isEntangled_of_twice member opens several inseparable
    · refine absurd ⟨first, member, last, other, same, [], between, [], ?_⟩ inseparable
      rw [List.nil_append, List.append_nil, opens]
  · by_cases leads : before = []
    · rw [closes, leads, List.nil_append]
      exact .alone other
    · rw [closes, last_eq]
      exact .blended member other nonempty first_eq last_eq

namespace Encloses

variable {front back : List Char}

theorem isInfix (encloses : Encloses vocabulary text front stretch back) : stretch <:+: text :=
  ⟨front, back, by rw [encloses.text_eq, List.append_assoc]⟩

theorem holdsTwo_iff (encloses : Encloses vocabulary text front stretch back) :
    HoldsTwo vocabulary stretch ↔ HoldsTwo vocabulary text := by
  constructor
  · intro several
    exact several.mono fun word _ met => met.trans encloses.isInfix
  · intro several
    apply several.mono
    intro word member met
    obtain ⟨found, rfl⟩ := exists_occurrence member met
    obtain ⟨begins, ends⟩ := encloses.inside found
    obtain ⟨lead, trail, stretch_eq⟩ :=
      exists_inside (encloses.text_eq.symm.trans found.text_eq) begins ends
    exact ⟨lead, trail, by rw [stretch_eq, List.append_assoc]⟩

theorem hasTwoPieces_iff (encloses : Encloses vocabulary text front stretch back) :
    HasTwoPieces vocabulary stretch ↔ HasTwoPieces vocabulary text := by
  constructor
  · rintro ⟨first, firstMember, second, secondMember, different, lead, between, trail, rfl⟩
    refine ⟨first, firstMember, second, secondMember, different, front ++ lead, between,
      trail ++ back, ?_⟩
    rw [encloses.text_eq]
    simp only [List.append_assoc]
  · rintro ⟨first, firstMember, second, secondMember, different, before, between, behind, met⟩
    let opening : Occurrence vocabulary text :=
      { word := first, member := firstMember, front := before
        back := between ++ (second.toList ++ behind), text_eq := met }
    let closing : Occurrence vocabulary text :=
      { word := second, member := secondMember, front := before ++ (first.toList ++ between)
        back := behind, text_eq := by rw [met]; simp only [List.append_assoc] }
    have same : front ++ (stretch ++ back) =
        before ++ ((first.toList ++ (between ++ second.toList)) ++ behind) := by
      rw [← encloses.text_eq, met]
      simp only [List.append_assoc]
    obtain ⟨lead, trail, stretch_eq⟩ :=
      exists_inside same (encloses.inside opening).1 (encloses.inside closing).2
    refine ⟨first, firstMember, second, secondMember, different, lead, between, trail, ?_⟩
    rw [stretch_eq]
    simp only [List.append_assoc]

end Encloses

/-- What is met in a text lies between the word that begins first and the word that ends last. -/
theorem exists_encloses (found : Occurrence vocabulary text) :
    ∃ front stretch back, Encloses vocabulary text front stretch back ∧
      ∃ first ∈ vocabulary, ∃ last ∈ vocabulary, ∃ before behind,
        stretch = first.toList ++ behind ∧ stretch = before ++ last.toList := by
  have : Nonempty (Occurrence vocabulary text) := ⟨found⟩
  let first : Occurrence vocabulary text := Function.argmin fun met => met.front.length
  let last : Occurrence vocabulary text := Function.argmin fun met => met.back.length
  have begins (met : Occurrence vocabulary text) : first.front.length ≤ met.front.length :=
    Function.argmin_le (fun met : Occurrence vocabulary text => met.front.length) met
  have ends (met : Occurrence vocabulary text) : last.back.length ≤ met.back.length :=
    Function.argmin_le (fun met : Occurrence vocabulary text => met.back.length) met
  obtain ⟨before, front_eq⟩ : first.front <+: last.front :=
    List.prefix_of_prefix_length_le first.isPrefix_front last.isPrefix_front (begins last)
  obtain ⟨behind, back_eq⟩ : last.back <:+ first.back :=
    List.suffix_of_suffix_length_le last.isSuffix_back first.isSuffix_back (ends first)
  have text_eq : text = first.front ++ ((first.word.toList ++ behind) ++ last.back) := by
    rw [List.append_assoc, back_eq, ← first.text_eq]
  have stretch_eq : first.word.toList ++ behind = before ++ last.word.toList := by
    have same : first.front ++ ((first.word.toList ++ behind) ++ last.back) =
        first.front ++ ((before ++ last.word.toList) ++ last.back) := by
      rw [← text_eq, List.append_assoc before, ← List.append_assoc, front_eq, ← last.text_eq]
    exact List.append_cancel_right (List.append_cancel_left same)
  exact ⟨first.front, first.word.toList ++ behind, last.back,
    ⟨text_eq, fun met => ⟨begins met, ends met⟩⟩,
    first.word, first.member, last.word, last.member, before, behind, rfl, stretch_eq⟩

/-- A text that holds two words of a vocabulary has two pieces or is tangled. -/
theorem holdsTwo_iff : HoldsTwo vocabulary text ↔
    HasTwoPieces vocabulary text ∨ IsTangled vocabulary text := by
  constructor
  · intro several
    by_cases pieces : HasTwoPieces vocabulary text
    · exact .inl pieces
    right
    obtain ⟨found⟩ := several.nonempty_occurrence
    obtain ⟨front, stretch, back, encloses, first, firstMember, last, lastMember, before, behind,
      opens, closes⟩ := exists_encloses found
    have inseparable := mt encloses.hasTwoPieces_iff.mp pieces
    have severalThere := encloses.holdsTwo_iff.mpr several
    exact ⟨front, stretch, back, encloses,
      isEntangled_of_framed firstMember lastMember opens closes severalThere inseparable,
      severalThere, inseparable⟩
  · rintro (pieces | ⟨front, stretch, back, encloses, tangle⟩)
    · exact pieces.holdsTwo
    · exact encloses.holdsTwo_iff.mp tangle.several

/-- The words of a tangled text do not stand apart. -/
theorem IsTangled.not_hasTwoPieces (tangled : IsTangled vocabulary text) :
    ¬ HasTwoPieces vocabulary text := by
  obtain ⟨front, stretch, back, encloses, tangle⟩ := tangled
  exact mt encloses.hasTwoPieces_iff.mpr tangle.inseparable

/-! ## Acceptance -/

/-- The characters of a question in which its keywords are looked for. -/
def Asked.searched (asked : Asked) : List Char :=
  lower (trim asked.chars)

theorem two_le_length_iff {α : Type} [DecidableEq α] {list : List α} (nodup : list.Nodup) :
    2 ≤ list.length ↔ ∃ first ∈ list, ∃ second ∈ list, first ≠ second := by
  rw [← List.toFinset_card_of_nodup nodup]
  exact Finset.one_lt_card.trans (by simp only [List.mem_toFinset])

theorem minKeywords_le_length_keywords_iff (text : List Char) :
    minKeywords ≤ (keywords text).length ↔ HoldsTwo domainKeywords (lower text) := by
  have nodup : domainKeywords.Nodup := by decide
  refine (two_le_length_iff (nodup.filter _)).trans ?_
  simp only [List.mem_filter, occursIn_iff]
  constructor
  · rintro ⟨first, ⟨firstMember, firstMet⟩, second, ⟨secondMember, secondMet⟩, different⟩
    exact ⟨first, firstMember, second, secondMember, different, firstMet, secondMet⟩
  · rintro ⟨first, firstMember, second, secondMember, different, firstMet, secondMet⟩
    exact ⟨first, ⟨firstMember, firstMet⟩, second, ⟨secondMember, secondMet⟩, different⟩

/-- No keyword is met in an empty text, which does not open like a question either. -/
theorem not_holdsTwo_nil : ¬ HoldsTwo domainKeywords [] := by
  rintro ⟨first, firstMember, -, -, -, firstMet, -⟩
  have nonempty : ∀ word ∈ domainKeywords, word.toList ≠ [] := by decide
  exact nonempty first firstMember (List.eq_nil_of_infix_nil firstMet)

theorem isValid_iff (asked : Asked) :
    isValid asked = true ↔
      opensLikeQuestion (trim asked.chars) = true ∨ HoldsTwo domainKeywords asked.searched := by
  rw [Asked.searched, ← minKeywords_le_length_keywords_iff]
  cases shown : trim asked.chars with
  | nil =>
      have opens : opensLikeQuestion [] = false := rfl
      have holds : ¬ minKeywords ≤ (keywords []).length :=
        mt (minKeywords_le_length_keywords_iff []).mp not_holdsTwo_nil
      simp only [isValid, shown, opens, holds]
      decide
  | cons c rest =>
      simp only [isValid, shown, List.isEmpty_cons, Bool.not_false, Bool.true_and,
        Bool.or_eq_true, decide_eq_true_iff]

/--
A question that does not open like one is accepted where two different keywords stand
apart in it, and where all keywords that it holds are one tangle; it is never both.
-/
theorem isValid_iff_hasTwoPieces_or_isTangled (asked : Asked) :
    (isValid asked = true ↔
      opensLikeQuestion (trim asked.chars) = true ∨
        HasTwoPieces domainKeywords asked.searched ∨ IsTangled domainKeywords asked.searched) ∧
      ¬ (HasTwoPieces domainKeywords asked.searched ∧
        IsTangled domainKeywords asked.searched) := by
  constructor
  · rw [isValid_iff, holdsTwo_iff]
  · rintro ⟨pieces, tangled⟩
    exact tangled.not_hasTwoPieces pieces

/-- A text of one word is accepted, although no two keywords stand apart in it. -/
theorem not_standApart_grainy :
    opensLikeQuestion (trim (Asked.chars (some "grainy"))) = false ∧
      isValid (some "grainy") = true ∧
      ∀ first ∈ domainKeywords, ∀ second ∈ domainKeywords,
        ¬ StandApart first.toList second.toList (Asked.searched (some "grainy")) := by
  refine ⟨by decide +kernel, by decide +kernel, ?_⟩
  have searched_eq : Asked.searched (some "grainy") = "grainy".toList := by decide +kernel
  have long : ∀ word ∈ domainKeywords,
      occursIn word.toList "grainy".toList = true → 4 ≤ word.toList.length := by
    decide +kernel
  intro first firstMember second secondMember apart
  rw [searched_eq] at apart
  obtain ⟨firstMet, secondMet⟩ := isInfix_of_standApart apart
  have firstLong := long first firstMember (occursIn_iff.mpr firstMet)
  have secondLong := long second secondMember (occursIn_iff.mpr secondMet)
  obtain ⟨front, between, back, text_eq⟩ := apart
  have length_eq := congrArg List.length text_eq
  have six : "grainy".toList.length = 6 := rfl
  simp only [List.length_append] at length_eq
  omega

end RideQuery.Question
