import RideQuery.Proofs.Question.Phrase

/-!
# The place that a text names

The first phrase with a preposition names a place by its words up to the last that is no
month.  Only if it names nothing is the first street looked at.  A place is taken from the
text as it is written there, up to case and to the blanks between its words.  A phrase behind
the first one is not looked at, so that a place can be overlooked.
-/

namespace RideQuery.Question

open RideQuery.Text

/-! ## Months -/

/-- The name of a month, up to case and with nothing but stops behind it. -/
def IsMonthName (word : List Char) : Prop :=
  ∃ month ∈ months, ∃ stops, lower word = month.toList ++ stops ∧ ∀ c ∈ stops, isStop c = true

theorem isStop_of_isCapital {c : Char} (capital : IsCapital c) : isStop c = false := by
  simp only [isStop, Bool.or_eq_false_iff, beq_eq_false_iff_ne]
  refine ⟨⟨⟨?_, ?_⟩, ?_⟩, ?_⟩
  all_goals
    rintro rfl
    exact absurd capital (by decide)

theorem isStop_toLower : ∀ c : Char, c.toNat < 128 → isStop c.toLower = isStop c :=
  forall_ascii (by decide +kernel)

theorem toNat_of_isCapital {c : Char} (capital : IsCapital c) : c.toNat < 128 := by
  have range := toNat_of_isAlphanum (isAlphanum_of_isCapital capital)
  omega

namespace IsCapitalised

theorem head?_append {word : List Char} (capitalised : IsCapitalised word) (rest : List Char) :
    ∀ c ∈ (word ++ rest).head?, isStop c = false := by
  rcases capitalised with ⟨c, others, rfl, capital, _⟩
  rintro d ⟨⟩
  exact isStop_of_isCapital capital

theorem head?_lower {word : List Char} (capitalised : IsCapitalised word) :
    ∀ c ∈ (lower word).head?, isStop c = false := by
  rcases capitalised with ⟨c, rest, rfl, capital, _⟩
  have ascii := toNat_of_isCapital capital
  rw [lower, lowerFrom, lowerIn_of_ascii ascii]
  rintro d ⟨⟩
  rw [isStop_toLower c ascii]
  exact isStop_of_isCapital capital

/-- A capitalised word is still one without the stops at its end. -/
theorem dropStops {word : List Char} (capitalised : IsCapitalised word) :
    IsCapitalised (dropRightWhile isStop word) := by
  rcases capitalised with ⟨c, rest, rfl, capital, others⟩
  have kept : ∀ d ∈ [c].getLast?, isStop d = false := by
    rintro d ⟨⟩
    exact isStop_of_isCapital capital
  exact ⟨c, dropRightWhile isStop rest, dropRightWhile_append kept rest, capital,
    fun d inside => others d (mem_of_mem_dropRightWhile inside)⟩

end IsCapitalised

theorem isMonth_iff {word : List Char} (capitalised : IsCapitalised word) :
    isMonth word = true ↔ IsMonthName word := by
  rw [isMonth, List.contains_iff_mem, stripWhile, dropWhile_eq_self capitalised.head?_lower]
  constructor
  · intro known
    rcases exists_dropRightWhile_append isStop (lower word) with ⟨stops, whole, areStops⟩
    exact ⟨_, known, stops, by rwa [String.toList_ofList], areStops⟩
  · rintro ⟨month, known, stops, same, areStops⟩
    have letters : ∀ month ∈ months, ∀ c ∈ month.toList, isStop c = false := by decide
    have ends := fun c final => letters month known c (List.mem_of_mem_getLast? final)
    rw [same, dropRightWhile_append_of_all ends areStops, String.ofList_toList]
    exact known

/-! ## What a phrase names -/

/-- A run with a word that is no month keeps its words up to the last such word. -/
theorem exists_dropMonths {run : List (List Char)}
    (names : ∃ word ∈ run, isMonth word = false) :
    ∃ front last behind, run = front ++ [last] ++ behind ∧ isMonth last = false ∧
      dropMonths run = front ++ [last] := by
  have nonempty : List.rdropWhile isMonth run ≠ [] := by
    rw [Ne, List.rdropWhile_eq_nil_iff]
    intro all
    rcases names with ⟨word, inside, other⟩
    exact absurd (all word inside) (Bool.eq_false_iff.mp other)
  rcases List.rdropWhile_prefix isMonth (l := run) with ⟨behind, whole⟩
  have split := List.dropLast_append_getLast nonempty
  refine ⟨_, _, behind, ?_, ?_, split.symm⟩
  · rw [split, whole]
  · exact Bool.eq_false_iff.mpr (List.rdropWhile_last_not isMonth run nonempty)

/-- Stops are taken off the last of some words, and off no other. -/
theorem stripWhile_unwords {front : List (List Char)} {last : List Char}
    (capitalised : ∀ word ∈ front ++ [last], IsCapitalised word) :
    stripWhile isStop (unwords (front ++ [last])) =
      unwords (front ++ [dropRightWhile isStop last]) := by
  have begins : ∀ c ∈ (unwords (front ++ [last])).head?, isStop c = false := by
    rw [unwords_append_singleton]
    cases front with
    | nil =>
        rw [← List.append_nil last]
        exact (capitalised last (by simp)).head?_append []
    | cons word front =>
        rw [List.flatMap_cons, List.append_assoc, List.append_assoc]
        exact (capitalised word List.mem_cons_self).head?_append _
  have spaced : ∀ c ∈ (front.flatMap fun other => other ++ [' ']).getLast?, isStop c = false := by
    rcases List.eq_nil_or_concat front with rfl | ⟨front, word, rfl⟩
    · simp
    · simp [isStop]
  rw [stripWhile, dropWhile_eq_self begins, unwords_append_singleton, unwords_append_singleton,
    dropRightWhile_append spaced]

/-- Not all words of the phrase are months. -/
def Phrase.Names {text : List Char} (phrase : Phrase text) : Prop :=
  ∃ word ∈ phrase.run, ¬IsMonthName word

/-- The words by which a phrase names a place: its run up to a word that is no month. -/
structure Phrase.Keeps {text : List Char} (phrase : Phrase text) (front : List (List Char))
    (last stops : List Char) (behind : List (List Char)) : Prop where
  run_eq : phrase.run = front ++ [last ++ stops] ++ behind
  capitalised : ∀ word ∈ front ++ [last], IsCapitalised word
  ends : ∀ c ∈ last.getLast?, isStop c = false
  areStops : ∀ c ∈ stops, isStop c = true
  notMonth : ¬IsMonthName (last ++ stops)
  place_eq : placeOfRun phrase.run = unwords (front ++ [last])

theorem Phrase.Names.exists_keeps {text : List Char} {phrase : Phrase text}
    (names : phrase.Names) : ∃ front last stops behind, phrase.Keeps front last stops behind := by
  have capitalised := phrase.isRun.capitalised
  have kept : ∃ word ∈ phrase.run, isMonth word = false := by
    rcases names with ⟨word, inside, other⟩
    rw [← isMonth_iff (capitalised word inside), Bool.not_eq_true] at other
    exact ⟨word, inside, other⟩
  rcases exists_dropMonths kept with ⟨front, last, behind, whole, other, dropped⟩
  rcases exists_dropRightWhile_append isStop last with ⟨stops, cut, areStops⟩
  have own : ∀ word ∈ front ++ [last], IsCapitalised word := by
    intro word inside
    exact capitalised word (whole ▸ List.mem_append_left _ inside)
  have lastOwn : IsCapitalised last := own last (by simp)
  refine ⟨front, dropRightWhile isStop last, stops, behind, ?_, ?_, getLast?_dropRightWhile,
    areStops, ?_, ?_⟩
  · rwa [← cut]
  · rw [List.forall_mem_append, List.forall_mem_singleton]
    exact ⟨(List.forall_mem_append.mp own).1, lastOwn.dropStops⟩
  · rw [← cut, ← isMonth_iff lastOwn, other]
    exact Bool.false_ne_true
  · rw [placeOfRun, dropped, stripWhile_unwords own]

theorem Phrase.Names.placeOfRun_ne_nil {text : List Char} {phrase : Phrase text}
    (names : phrase.Names) : placeOfRun phrase.run ≠ [] := by
  rcases names.exists_keeps with ⟨front, last, stops, behind, keeps⟩
  rw [keeps.place_eq, unwords_append_singleton]
  exact List.append_ne_nil_of_right_ne_nil _ (keeps.capitalised last (by simp)).isWord.1

theorem Phrase.placeOfRun_eq_nil {text : List Char} {phrase : Phrase text}
    (nothing : ¬phrase.Names) : placeOfRun phrase.run = [] := by
  have all : ∀ word ∈ phrase.run, isMonth word = true := by
    intro word inside
    rw [isMonth_iff (phrase.isRun.capitalised word inside)]
    by_contra other
    exact nothing ⟨word, inside, other⟩
  have dropped : dropMonths phrase.run = [] := List.rdropWhile_eq_nil_iff.mpr all
  rw [placeOfRun, dropped]
  rfl

/-- The place behind a preposition is the one that the first phrase names. -/
theorem prepositionalPlace?_eq_some_iff {text place : List Char} :
    prepositionalPlace? text = some place ↔
      ∃ phrase : Phrase text, phrase.IsFirst ∧ phrase.Names ∧ place = placeOfRun phrase.run := by
  rw [prepositionalPlace?]
  constructor
  · intro named
    split at named
    · rename_i run search
      rcases findFirst_prepositional_eq_some_iff.mp search with ⟨phrase, first, rfl⟩
      dsimp only at named
      split at named
      · contradiction
      · rename_i nonempty
        refine ⟨phrase, first, ?_, (Option.some.inj named).symm⟩
        by_contra nothing
        rw [phrase.placeOfRun_eq_nil nothing] at nonempty
        exact nonempty rfl
    · contradiction
  · rintro ⟨phrase, first, names, rfl⟩
    rw [findFirst_prepositional_eq_some_iff.mpr ⟨phrase, first, rfl⟩]
    dsimp only
    rw [if_neg (mt List.isEmpty_iff.mp names.placeOfRun_ne_nil)]

/-! ## What a street names -/

/-- A street as it is shown: in title case, unless it is written with a capital letter. -/
def shownStreet (name suffix : List Char) : List Char :=
  if (name ++ ' ' :: suffix).any isUpper then name ++ ' ' :: suffix
  else title (name ++ ' ' :: suffix)

/-- The word in front of the suffix is no determiner. -/
def Street.Names {text : List Char} (found : Street text) : Prop :=
  ∀ word ∈ determiners, lower found.name ≠ word.toList

theorem placeOfStreet?_eq_some_iff {name suffix place : List Char} :
    placeOfStreet? name suffix = some place ↔
      (∀ word ∈ determiners, lower name ≠ word.toList) ∧ place = shownStreet name suffix := by
  have known : determiners.contains (String.ofList (lower name)) = true ↔
      ∃ word ∈ determiners, lower name = word.toList := by
    rw [List.contains_iff_mem]
    constructor
    · intro known
      exact ⟨_, known, String.toList_ofList.symm⟩
    · rintro ⟨word, known, same⟩
      rwa [same, String.ofList_toList]
  rw [placeOfStreet?]
  split
  · rename_i determiner
    rcases known.mp determiner with ⟨word, inside, same⟩
    constructor
    · intro named
      contradiction
    · rintro ⟨others, _⟩
      exact absurd same (others word inside)
  · rename_i other
    constructor
    · intro named
      refine ⟨?_, (Option.some.inj named).symm⟩
      intro word inside same
      exact other (known.mpr ⟨word, inside, same⟩)
    · rintro ⟨_, rfl⟩
      rfl

/-- The place in front of a street suffix is the one that the first street names. -/
theorem streetPlace?_eq_some_iff {text place : List Char} :
    streetPlace? text = some place ↔
      ∃ found : Street text, found.IsFirst ∧ found.Names ∧
        place = shownStreet found.name found.suffix := by
  rw [streetPlace?]
  constructor
  · intro named
    split at named
    · rename_i name suffix search
      rcases findFirst_street_eq_some_iff.mp search with ⟨found, first, same⟩
      obtain ⟨rfl, rfl⟩ := Prod.mk.inj same
      exact ⟨found, first, placeOfStreet?_eq_some_iff.mp named⟩
    · contradiction
  · rintro ⟨found, first, names, rfl⟩
    rw [findFirst_street_eq_some_iff.mpr ⟨found, first, rfl⟩]
    exact placeOfStreet?_eq_some_iff.mpr ⟨names, rfl⟩

theorem shownStreet_ne_nil (name suffix : List Char) : shownStreet name suffix ≠ [] := by
  rw [shownStreet, title_append_space]
  split
  all_goals simp

/-! ## Places that are overlooked -/

theorem prepositionalPlace?_eq_none_iff {text : List Char} :
    prepositionalPlace? text = none ↔ ∀ phrase : Phrase text, phrase.IsFirst → ¬phrase.Names := by
  rw [Option.eq_none_iff_forall_ne_some]
  simp only [ne_eq, prepositionalPlace?_eq_some_iff, not_exists, not_and]
  constructor
  · intro nothing phrase first names
    exact nothing _ phrase first names rfl
  · intro nothing place phrase first names
    exact absurd names (nothing phrase first)

theorem streetPlace?_eq_none_iff {text : List Char} :
    streetPlace? text = none ↔ ∀ found : Street text, found.IsFirst → ¬found.Names := by
  rw [Option.eq_none_iff_forall_ne_some]
  simp only [ne_eq, streetPlace?_eq_some_iff, not_exists, not_and]
  constructor
  · intro nothing found first names
    exact nothing _ found first names rfl
  · intro nothing place found first names
    exact absurd names (nothing found first)

/-- A place comes from the first phrase or, if that names nothing, from the first street. -/
theorem place?_cases {text place : List Char} (named : place? text = some place) :
    (∃ phrase : Phrase text, phrase.IsFirst ∧ phrase.Names ∧ place = placeOfRun phrase.run) ∨
      ∃ found : Street text, found.IsFirst ∧ found.Names ∧
        place = shownStreet found.name found.suffix := by
  rw [place?] at named
  split at named
  · rename_i own search
    obtain rfl := Option.some.inj named
    exact .inl (prepositionalPlace?_eq_some_iff.mp search)
  · exact .inr (streetPlace?_eq_some_iff.mp named)

theorem place?_ne_nil {text place : List Char} (named : place? text = some place) :
    place ≠ [] := by
  rcases place?_cases named with ⟨phrase, _, names, rfl⟩ | ⟨found, _, _, rfl⟩
  · exact names.placeOfRun_ne_nil
  · exact shownStreet_ne_nil _ _

theorem place?_eq_none_iff {text : List Char} :
    place? text = none ↔
      (∀ phrase : Phrase text, phrase.IsFirst → ¬phrase.Names) ∧
        ∀ found : Street text, found.IsFirst → ¬found.Names := by
  rw [← prepositionalPlace?_eq_none_iff, ← streetPlace?_eq_none_iff, place?]
  cases prepositionalPlace? text <;> simp

/--
A text with a phrase that names a place is left without a place exactly if another phrase in
front of it comes first with nothing but months, and the first street of the text, if there
is one, has a determiner for a name.
-/
theorem place?_eq_none_iff_of_names {text : List Char} {phrase : Phrase text}
    (names : phrase.Names) :
    (∀ place, place? text = some place → place ≠ []) ∧
      (place? text = none ↔
        (∃ first : Phrase text, first.IsFirst ∧ first.front.length < phrase.front.length ∧
          ∀ word ∈ first.run, IsMonthName word) ∧
        ∀ found : Street text, found.IsFirst →
          ∃ word ∈ determiners, lower found.name = word.toList) := by
  have only {first : Phrase text} : (∀ word ∈ first.run, IsMonthName word) ↔ ¬first.Names := by
    simp [Phrase.Names]
  have determined {found : Street text} :
      (∃ word ∈ determiners, lower found.name = word.toList) ↔ ¬found.Names := by
    simp [Street.Names]
  simp only [only, determined]
  refine ⟨fun place => place?_ne_nil, ?_⟩
  rw [place?_eq_none_iff]
  constructor
  · rintro ⟨nothing, streets⟩
    rcases phrase.exists_isFirst with ⟨first, isFirst⟩
    refine ⟨⟨first, isFirst, ?_, nothing first isFirst⟩, streets⟩
    refine Nat.lt_of_le_of_ne (isFirst phrase) ?_
    intro same
    apply nothing first isFirst
    rwa [Phrase.Names, Phrase.run_eq same]
  · rintro ⟨⟨first, isFirst, _, nothing⟩, streets⟩
    refine ⟨?_, streets⟩
    intro other otherFirst names
    have same := Nat.le_antisymm (isFirst other) (otherFirst first)
    apply nothing
    rwa [Phrase.Names, Phrase.run_eq same]

/-- A question with two phrases, of which only the second names a place. -/
def juneText (place : String) : List Char :=
  "How many rides from June ".toList ++ ("near ".toList ++ place.toList)

theorem place?_eq_none_iff_of_names_congress :
    ∃ phrase : Phrase (juneText "Congress Avenue"), phrase.Names ∧
      place? (juneText "Congress Avenue") ≠ none := by
  have recognised : prepositional "How many rides from June ".toList.getLast?
      ("near ".toList ++ "Congress Avenue".toList) =
        some ["Congress".toList, "Avenue".toList] := by decide +kernel
  rcases exists_phrase rfl recognised with ⟨phrase, _, run⟩
  have inside : "Congress".toList ∈ phrase.run := by simp [run]
  have names : phrase.Names := by
    refine ⟨_, inside, ?_⟩
    rw [← isMonth_iff (phrase.isRun.capitalised _ inside)]
    decide +kernel
  refine ⟨phrase, names, ?_⟩
  intro nothing
  have streets := ((place?_eq_none_iff_of_names names).2.mp nothing).2
  have search : findFirst street none (juneText "Congress Avenue") =
      some ("Congress".toList, "Avenue".toList) := by decide +kernel
  rcases findFirst_street_eq_some_iff.mp search with ⟨found, first, same⟩
  rcases streets found first with ⟨word, determiner, lowered⟩
  rw [(Prod.mk.inj same).1] at lowered
  have others : ∀ word ∈ determiners, lower "Congress".toList ≠ word.toList := by decide +kernel
  exact others word determiner lowered

/-- A place behind a preposition that is overlooked because a month comes first. -/
theorem overlooks_zilker :
    ∃ phrase : Phrase (juneText "Zilker?"), phrase.Names ∧ place? (juneText "Zilker?") = none := by
  have recognised : prepositional "How many rides from June ".toList.getLast?
      ("near ".toList ++ "Zilker?".toList) = some ["Zilker".toList] := by decide +kernel
  rcases exists_phrase rfl recognised with ⟨phrase, _, run⟩
  have inside : "Zilker".toList ∈ phrase.run := by simp [run]
  refine ⟨phrase, ⟨_, inside, ?_⟩, by decide +kernel⟩
  rw [← isMonth_iff (phrase.isRun.capitalised _ inside)]
  decide +kernel

/-! ## Places are taken from the text -/

/-- Words that stand one after the other in a text, up to case and to the blanks between. -/
def StandsIn (row : List (List Char)) (text : List Char) : Prop :=
  ∃ own written, IsSpaced own written ∧ written <:+: text ∧
    List.Forall₂ (fun word other => lower word = lower other) row own

/-- A place by which the first phrase goes on directly behind its preposition. -/
structure IsBehindPreposition (text place : List Char) : Prop where
  source : ∃ phrase : Phrase text, phrase.IsFirst ∧
    ∃ own behind, phrase.written = own ++ behind ∧ IsSpaced (words place) own
  capitalised : ∀ word ∈ words place, IsCapitalised word
  notMonth : ∀ word ∈ (words place).getLast?, ¬IsMonthName word
  noPeriod : place.getLast? ≠ some '.'

/-- A place of two words, the name and the suffix of the first street of a text. -/
structure IsStreetPlace (text place name suffix : List Char) : Prop where
  words_eq : words place = [name, suffix]
  spaced : place = name ++ ' ' :: suffix
  source : ∃ found : Street text, found.IsFirst ∧ lower name = lower found.name ∧
    lower suffix = lower found.suffix
  known : ∃ word ∈ streetSuffixes, lower suffix = word.toList
  other : ∀ word ∈ determiners, lower name ≠ word.toList
  capital : ∃ c ∈ place, IsCapital c

namespace Phrase.Keeps

variable {text : List Char} {phrase : Phrase text} {front : List (List Char)}
  {last stops : List Char} {behind : List (List Char)}

theorem words_eq (keeps : phrase.Keeps front last stops behind) :
    words (placeOfRun phrase.run) = front ++ [last] := by
  rw [keeps.place_eq, words_unwords (fun word inside => (keeps.capitalised word inside).isWord)]

theorem getLast?_eq (keeps : phrase.Keeps front last stops behind) :
    (placeOfRun phrase.run).getLast? = last.getLast? := by
  rw [keeps.place_eq, unwords_append_singleton]
  exact List.getLast?_append_of_ne_nil _ (keeps.capitalised last (by simp)).isWord.1

/-- The words that are kept stand at the front of what is written. -/
theorem exists_spaced (keeps : phrase.Keeps front last stops behind) :
    ∃ own behind, phrase.written = own ++ behind ∧ IsSpaced (front ++ [last]) own := by
  have all := phrase.isRun.spaced
  rw [keeps.run_eq] at all
  rcases all.exists_front (by simp) with ⟨ahead, behind, written, kept⟩
  rcases kept.exists_cut with ⟨own, rfl, spaced⟩
  exact ⟨own, stops ++ behind, by rw [written, List.append_assoc], spaced⟩

theorem not_isMonthName (keeps : phrase.Keeps front last stops behind) (ascii : IsAscii text) :
    ¬IsMonthName last := by
  rintro ⟨month, known, ends, same, areEnds⟩
  have inside : last ++ stops ∈ phrase.run := by simp [keeps.run_eq]
  have within := (phrase.isRun.spaced.infix_of_mem inside).trans phrase.isInfix_written
  have whole : IsAscii (last ++ stops) := fun c member => ascii c (within.subset member)
  obtain ⟨lastAscii, stopsAscii⟩ := isAscii_append.mp whole
  refine keeps.notMonth ⟨month, known, ends ++ stops.map Char.toLower, ?_, ?_⟩
  · rw [lower_of_isAscii lastAscii] at same
    rw [lower_of_isAscii whole, List.map_append, same, List.append_assoc]
  · rw [List.forall_mem_append, List.forall_mem_map]
    refine ⟨areEnds, ?_⟩
    intro c member
    rw [isStop_toLower c (stopsAscii c member)]
    exact keeps.areStops c member

theorem isBehindPreposition (keeps : phrase.Keeps front last stops behind)
    (first : phrase.IsFirst) (ascii : IsAscii text) :
    IsBehindPreposition text (placeOfRun phrase.run) := by
  rcases keeps.exists_spaced with ⟨own, behind, written, spaced⟩
  refine ⟨⟨phrase, first, own, behind, written, ?_⟩, ?_, ?_, ?_⟩
  · rwa [keeps.words_eq]
  · rw [keeps.words_eq]
    exact keeps.capitalised
  · rw [keeps.words_eq, List.getLast?_concat]
    rintro word ⟨⟩
    exact keeps.not_isMonthName ascii
  · rw [keeps.getLast?_eq]
    intro period
    exact absurd (keeps.ends '.' period) (by decide)

end Phrase.Keeps

/-- The words of a place behind a preposition stand in the text as they are. -/
theorem IsBehindPreposition.standsIn {text place : List Char}
    (behind : IsBehindPreposition text place) : StandsIn (words place) text := by
  rcases behind.source with ⟨phrase, _, own, left, written, spaced⟩
  have ahead : own <+: phrase.written := written ▸ List.prefix_append own left
  exact ⟨words place, own, spaced, ahead.isInfix.trans phrase.isInfix_written,
    List.forall₂_same.mpr fun _ _ => rfl⟩

/-! ## Streets -/

theorem isBlank_toLower : ∀ c : Char, c.toNat < 128 → isBlank c.toLower = isBlank c :=
  forall_ascii (by decide +kernel)

theorem isCapital_toUpper : ∀ c : Char, c.toNat < 128 → c.isAlpha = true → IsCapital c.toUpper :=
  forall_ascii (by decide +kernel)

/-- Whether an ASCII text is a word does not depend on its case. -/
theorem isWord_of_lower_eq {word other : List Char} (ascii : IsAscii word)
    (otherAscii : IsAscii other) (same : lower word = lower other) (isWord : IsWord other) :
    IsWord word := by
  rw [lower_of_isAscii ascii, lower_of_isAscii otherAscii] at same
  refine ⟨?_, ?_⟩
  · rintro rfl
    exact isWord.1 (List.map_eq_nil_iff.mp same.symm)
  · intro c inside
    have folded : c.toLower ∈ other.map Char.toLower := same ▸ List.mem_map_of_mem inside
    rcases List.mem_map.mp folded with ⟨d, member, alike⟩
    rw [← isBlank_toLower c (ascii c inside), ← alike, isBlank_toLower d (otherAscii d member)]
    exact isWord.2 d member

/-- A street is shown as two words that are its own up to case. -/
theorem exists_shownStreet {name suffix : List Char} (nameAscii : IsAscii name)
    (suffixAscii : IsAscii suffix) :
    ∃ shown ending, shownStreet name suffix = shown ++ ' ' :: ending ∧
      (IsAscii shown ∧ lower shown = lower name) ∧
      IsAscii ending ∧ lower ending = lower suffix := by
  rw [shownStreet]
  split
  · exact ⟨name, suffix, rfl, ⟨nameAscii, rfl⟩, suffixAscii, rfl⟩
  · exact ⟨title name, title suffix, title_append_space .., ⟨isAscii_title nameAscii,
      lower_title nameAscii⟩, isAscii_title suffixAscii, lower_title suffixAscii⟩

theorem isAlpha_of_isFoldedLetter {c : Char} (ascii : c.toNat < 128)
    (letter : isFoldedLetter c = true) : c.isAlpha = true := by
  simp only [isFoldedLetter, Bool.or_eq_true, beq_iff_eq] at letter
  rcases letter with (((alpha | rfl) | rfl) | rfl) | rfl
  · exact alpha
  all_goals exact absurd ascii (by decide)

theorem exists_isCapital_shownStreet {name suffix : List Char} (isName : IsStreetName name)
    (nameAscii : IsAscii name) (suffixAscii : IsAscii suffix) :
    ∃ c ∈ shownStreet name suffix, IsCapital c := by
  rw [shownStreet]
  split
  · rename_i upper
    rcases List.any_eq_true.mp upper with ⟨c, inside, raised⟩
    have ascii : IsAscii (name ++ ' ' :: suffix) :=
      isAscii_append.mpr ⟨nameAscii, List.forall_mem_cons.mpr ⟨by decide, suffixAscii⟩⟩
    rw [isUpper, if_pos (ascii c inside), isUpper_iff_isCapital] at raised
    exact ⟨c, inside, raised⟩
  · rcases isName with ⟨c, rest, rfl, letter, _⟩
    have ascii : c.toNat < 128 := nameAscii c List.mem_cons_self
    have capital := isCapital_toUpper c ascii (isAlpha_of_isFoldedLetter ascii letter)
    refine ⟨c.toUpper, ?_, capital⟩
    rw [List.cons_append, title, titleFrom, if_neg Bool.false_ne_true, (cases_of_ascii c ascii).1]
    exact List.mem_append_left _ (List.mem_singleton_self _)

theorem Street.exists_isStreetPlace {text : List Char} {found : Street text}
    (first : found.IsFirst) (names : found.Names) (ascii : IsAscii text) :
    ∃ name suffix, IsStreetPlace text (shownStreet found.name found.suffix) name suffix := by
  have whole := found.whole
  rw [whole] at ascii
  simp only [isAscii_append] at ascii
  obtain ⟨_, nameAscii, _, suffixAscii, _⟩ := ascii
  rcases exists_shownStreet nameAscii suffixAscii with
    ⟨name, suffix, shown, ⟨nameOwn, nameSame⟩, suffixOwn, suffixSame⟩
  have nameWord := isWord_of_lower_eq nameOwn nameAscii nameSame found.isName.isWord
  have suffixWord := isWord_of_lower_eq suffixOwn suffixAscii suffixSame found.isSuffix.isWord
  refine ⟨name, suffix, ?_, shown, ⟨found, first, nameSame, suffixSame⟩, ?_, ?_,
    exists_isCapital_shownStreet found.isName nameAscii suffixAscii⟩
  · rw [shown, words_append_blank rfl, words_of_isWord nameWord, words_of_isWord suffixWord]
    rfl
  · rcases found.isSuffix with ⟨word, known, spells⟩
    have letters : ∀ word ∈ streetSuffixes, ∀ letter ∈ word.toList,
        letter.toLower = letter ∧ letter.toUpper.toLower = letter := by decide
    refine ⟨word, known, ?_⟩
    rw [suffixSame, lower_of_isAscii suffixAscii]
    exact map_toLower_of_spells spells (letters word known) suffixAscii
  · intro word determiner
    rw [nameSame]
    exact names word determiner

/-- The words of a street's place stand in the text up to case. -/
theorem IsStreetPlace.standsIn {text place name suffix : List Char}
    (isStreet : IsStreetPlace text place name suffix) : StandsIn (words place) text := by
  rcases isStreet.source with ⟨found, _, nameSame, suffixSame⟩
  refine ⟨[found.name, found.suffix], found.name ++ (found.gap ++ found.suffix),
    .cons found.name found.isGap (.single found.suffix), ⟨found.front, found.left, ?_⟩, ?_⟩
  · simp [found.whole]
  · rw [isStreet.words_eq]
    exact .cons nameSame (.cons suffixSame .nil)

/-- A place that is named in ASCII is taken from the first phrase or from the first street. -/
theorem standsIn_of_place? {text place : List Char} (ascii : IsAscii text)
    (named : place? text = some place) :
    place ≠ [] ∧ StandsIn (words place) text ∧
      (IsBehindPreposition text place ∨ ∃ name suffix, IsStreetPlace text place name suffix) := by
  refine ⟨place?_ne_nil named, ?_⟩
  rcases place?_cases named with ⟨phrase, first, names, rfl⟩ | ⟨found, first, names, rfl⟩
  · rcases names.exists_keeps with ⟨front, last, stops, behind, keeps⟩
    have taken := keeps.isBehindPreposition first ascii
    exact ⟨taken.standsIn, .inl taken⟩
  · rcases found.exists_isStreetPlace first names ascii with ⟨name, suffix, isStreet⟩
    exact ⟨isStreet.standsIn, .inr ⟨name, suffix, isStreet⟩⟩

/-- A question that writes a street in small letters, behind a preposition and an article. -/
def dockText : List Char :=
  "rides near the congress avenue dock".toList

theorem standsIn_of_place?_dock :
    place? dockText = some "Congress Avenue".toList ∧
      StandsIn ["Congress".toList, "Avenue".toList] dockText := by
  have named : place? dockText = some "Congress Avenue".toList := by decide +kernel
  have parts : words "Congress Avenue".toList = ["Congress".toList, "Avenue".toList] := by
    decide +kernel
  have taken := standsIn_of_place? (by decide +kernel) named
  rw [parts] at taken
  exact ⟨named, taken.2.1⟩

end RideQuery.Question
