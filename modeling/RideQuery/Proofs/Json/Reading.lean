import RideQuery.Proofs.Json.Grammar
import RideQuery.Proofs.Json.RoundTrip

/-!
# What is read as JSON

The texts that are read are exactly the documents of the grammar, and the failures other than
a malformed text come up exactly for the texts that exceed the limit in question.  Both are
shown for every part at once, by what the reader leaves of a text that begins with one.
-/

namespace RideQuery.Json

open RideQuery.Text RideQuery.Number

/-! ## What the reader leaves -/

/-- What is left of a text behind an entry that it begins with. -/
def leftOfEntry (fuel room : Nat) : List Char → Except ReadError (List Char)
  | '"' :: text => do
    let (_, left) ← readText text
    match skipSpace left with
    | ':' :: left => (readValue fuel room (skipSpace left)).map Prod.snd
    | _ => .error .malformed
  | _ => .error .malformed

/-- What is left of a text behind the part that it begins with. -/
def Part.leftOf (part : Part) (fuel room : Nat) (text : List Char) :
    Except ReadError (List Char) :=
  match part with
  | .value => (readValue fuel room text).map Prod.snd
  | .member .list => (readValue fuel room text).map Prod.snd
  | .member .dict => leftOfEntry fuel room text
  | .closing .list => (readItems fuel room text).map Prod.snd
  | .closing .dict => (readEntries fuel room text).map Prod.snd

theorem leftOf_entry (fuel room : Nat) (text : List Char) :
    (Part.member .dict).leftOf fuel room text = leftOfEntry fuel room text :=
  rfl

/-- What is left behind the members of which one has been read. -/
def Bracket.leftBehind (bracket : Bracket) (fuel room : Nat) (text : List Char) :
    Except ReadError (List Char) :=
  match skipSpace text with
  | [] => .error .malformed
  | c :: left =>
    if c = bracket.right then .ok left
    else if c = ',' then (Part.closing bracket).leftOf fuel room (skipSpace left)
    else .error .malformed

theorem leftOf_closing_list (fuel room : Nat) (text : List Char) :
    (Part.closing .list).leftOf (fuel + 1) room text =
      (Part.member .list).leftOf fuel room text >>= Bracket.list.leftBehind fuel room := by
  change (readItems (fuel + 1) room text).map Prod.snd =
    (readValue fuel room text).map Prod.snd >>= _
  rw [readItems]
  cases readValue fuel room text with
  | error failure => rfl
  | ok found =>
      change _ = Bracket.list.leftBehind fuel room found.2
      rw [Bracket.leftBehind, ok_bind]
      dsimp only
      cases skipSpace found.2 with
      | nil => rfl
      | cons c left =>
          by_cases closes : c = ']'
          · subst closes
            rfl
          · by_cases separates : c = ','
            · subst separates
              change Except.map _ (readItems fuel room (skipSpace left) >>= _) =
                (readItems fuel room (skipSpace left)).map Prod.snd
              cases readItems fuel room (skipSpace left) <;> rfl
            · simp [closes, separates, Bracket.right, Except.map]

theorem leftOf_readBehind (fuel room : Nat) (member : List Letter × Document)
    (text : List Char) :
    (readBehind fuel room member text).map Prod.snd =
      Bracket.dict.leftBehind fuel room text := by
  rw [readBehind, Bracket.leftBehind]
  cases skipSpace text with
  | nil => rfl
  | cons c left =>
      by_cases closes : c = '\x7d'
      · subst closes
        rfl
      · by_cases separates : c = ','
        · subst separates
          change Except.map _ (readEntries fuel room (skipSpace left) >>= _) =
            (readEntries fuel room (skipSpace left)).map Prod.snd
          cases readEntries fuel room (skipSpace left) <;> rfl
        · simp [closes, separates, Bracket.right, Except.map]

theorem leftOf_closing_dict (fuel room : Nat) (text : List Char) :
    (Part.closing .dict).leftOf (fuel + 1) room text =
      (Part.member .dict).leftOf fuel room text >>= Bracket.dict.leftBehind fuel room := by
  change (readEntries (fuel + 1) room text).map Prod.snd = leftOfEntry fuel room text >>= _
  cases text with
  | nil => rfl
  | cons c text =>
      by_cases mark : c = '"'
      · subst mark
        rw [readEntries, leftOfEntry]
        cases readText text with
        | error failure => rfl
        | ok quoted =>
            rw [ok_bind, ok_bind]
            dsimp only
            cases skipSpace quoted.2 with
            | nil => rfl
            | cons c left =>
                by_cases colon : c = ':'
                · subst colon
                  change Except.map _ (readValue fuel room (skipSpace left) >>= fun valued =>
                      readBehind fuel room (quoted.1, valued.1) valued.2) =
                    (readValue fuel room (skipSpace left)).map Prod.snd >>= _
                  cases readValue fuel room (skipSpace left) with
                  | error failure => rfl
                  | ok found =>
                      exact leftOf_readBehind fuel room (quoted.1, found.1) found.2
                · simp [colon, Except.map]
      · simp [readEntries, leftOfEntry, mark, Except.map]

theorem leftOf_closing (bracket : Bracket) (fuel room : Nat) (text : List Char) :
    (Part.closing bracket).leftOf (fuel + 1) room text =
      (Part.member bracket).leftOf fuel room text >>= bracket.leftBehind fuel room := by
  cases bracket
  · exact leftOf_closing_list fuel room text
  · exact leftOf_closing_dict fuel room text

theorem head?_ne_some {text : List Char} {c : Char} (other : ∀ left, text = c :: left → False) :
    text.head? ≠ some c :=
  fun begins => (List.head?_eq_some_iff.mp begins).elim other

/-- What is left of a text that begins with an opening bracket. -/
theorem leftOf_bracket (bracket : Bracket) (fuel room : Nat) (text : List Char) :
    Part.value.leftOf (fuel + 1) (room + 1) (bracket.left :: text) =
      if (skipSpace text).head? = some bracket.right then .ok (skipSpace text).tail
      else (Part.closing bracket).leftOf fuel room (skipSpace text) := by
  cases bracket with
  | list =>
      change (readValue (fuel + 1) (room + 1) ('[' :: text)).map Prod.snd =
        if (skipSpace text).head? = some Bracket.list.right then .ok (skipSpace text).tail
        else (readItems fuel room (skipSpace text)).map Prod.snd
      rw [readValue]
      generalize skipSpace text = first
      split
      · rfl
      · rename_i other
        have opens : first.head? ≠ some Bracket.list.right := head?_ne_some other
        rw [if_neg opens]
        cases readItems fuel room first <;> rfl
  | dict =>
      change (readValue (fuel + 1) (room + 1) ('\x7b' :: text)).map Prod.snd =
        if (skipSpace text).head? = some Bracket.dict.right then .ok (skipSpace text).tail
        else (readEntries fuel room (skipSpace text)).map Prod.snd
      rw [readValue]
      generalize skipSpace text = first
      split
      · rfl
      · rename_i other
        have opens : first.head? ≠ some Bracket.dict.right := head?_ne_some other
        rw [if_neg opens]
        cases readEntries fuel room first <;> rfl

theorem leftOf_deep (bracket : Bracket) (fuel : Nat) (text : List Char) :
    Part.value.leftOf (fuel + 1) 0 (bracket.left :: text) =
      .error (.tooDeep bracket.activity) := by
  cases bracket <;> rfl

theorem leftOf_quotation (fuel room : Nat) (text : List Char) :
    Part.value.leftOf (fuel + 1) room ('"' :: text) = (readText text).map Prod.snd := by
  rw [Part.leftOf, readValue]
  cases readText text <;> rfl

theorem leftOf_scalar {text : List Char} (mark : text.head? ≠ some '"')
    (bracket : ∀ bracket : Bracket, text.head? ≠ some bracket.left) (fuel room : Nat) :
    Part.value.leftOf (fuel + 1) room text = (readScalar room text).map Prod.snd := by
  cases text with
  | nil => rfl
  | cons c text =>
      have list : c ≠ '[' := by simpa [Bracket.left] using bracket .list
      have dict : c ≠ '\x7b' := by simpa [Bracket.left] using bracket .dict
      rw [Part.leftOf, readValue_of_scalar (by simpa using mark) list dict]

/-! ## Names and numerals -/

theorem mem_names_of_readName? {text rest : List Char} {name : Name}
    (read : readName? text = some (name, rest)) :
    name ∈ names ∧ text = name.letters.toList ++ rest := by
  rw [readName?] at read
  obtain ⟨own, known, found⟩ := List.exists_of_findSome?_eq_some read
  split at found
  · rename_i front
    obtain ⟨left, rfl⟩ := List.isPrefixOf_iff_prefix.mp front
    obtain ⟨rfl, same⟩ := Prod.mk.inj (Option.some.inj found)
    refine ⟨known, ?_⟩
    rw [← same, ← String.length_toList, List.drop_left]
  · contradiction

/-- A name means something, unless it is looked up where there is no room for that. -/
theorem Name.document_cases (name : Name) (room : Nat) :
    (name.document room = .ok name.meaning ∧ (name.isLookedUp = true → room ≠ 0)) ∨
      (name.document room = .error (.tooDeep .calling) ∧ name.isLookedUp = true ∧ room = 0) := by
  rw [Name.document]
  split
  · rename_i refused
    rw [Bool.and_eq_true, beq_iff_eq] at refused
    exact .inr ⟨rfl, refused⟩
  · rename_i allowed
    rw [Bool.and_eq_true, beq_iff_eq, not_and] at allowed
    exact .inl ⟨rfl, allowed⟩

/-- No numeral begins as a name does. -/
theorem readName?_numeral_append (numeral : Numeral) (rest : List Char) :
    readName? (numeral.text ++ rest) = none := by
  obtain ⟨c, others, begins, digit⟩ := numeral.exists_unsigned_eq_cons
  have letters : ∀ letter ∈ ['n', 't', 'f', 'N', 'I', '-'], letter ≠ c := by
    have all : ∀ letter ∈ ['n', 't', 'f', 'N', 'I', '-'], letter.isDigit = false := by decide
    rintro letter member rfl
    rw [all letter member] at digit
    contradiction
  simp only [List.forall_mem_cons] at letters
  obtain ⟨n, t, f, notNumber, infinity, minus, _⟩ := letters
  rw [Numeral.text, begins]
  cases numeral.negative
  · simp [withSign, readName?, names, n, t, f, notNumber, infinity, minus]
  · simp [withSign, readName?, names, infinity]

/-! ## Only parts are read -/

/-- What may be left of a text that is to begin with a part. -/
inductive IsLeft (part : Part) (room : Nat) (text : List Char) :
    Except ReadError (List Char) → Prop
  | behind {span rest : List Char} (split : text = span ++ rest)
      (isPart : IsPart part room span) : IsLeft part room text (.ok rest)
  | exceeds {error : ReadError} (exceeds : Exceeds error part room text) :
      IsLeft part room text (.error error)
  | malformed : IsLeft part room text (.error .malformed)

/-- A part that ends like another one leaves what the other one leaves. -/
theorem IsLeft.map {part whole : Part} {room outer : Nat} {text outside : List Char}
    {run : Except ReadError (List Char)} (isLeft : IsLeft part room text run)
    (parts : ∀ span rest, text = span ++ rest → IsPart part room span →
      ∃ around, outside = around ++ rest ∧ IsPart whole outer around)
    (exceeding : ∀ error, Exceeds error part room text → Exceeds error whole outer outside) :
    IsLeft whole outer outside run := by
  cases isLeft with
  | behind split isPart =>
      obtain ⟨around, same, isWhole⟩ := parts _ _ split isPart
      exact .behind same isWhole
  | exceeds exceeds => exact .exceeds (exceeding _ exceeds)
  | malformed => exact .malformed

theorem isLeft_readScalar (room : Nat) (text : List Char) :
    IsLeft .value room text ((readScalar room text).map Prod.snd) := by
  rw [readScalar]
  cases named : readName? text with
  | some found =>
      obtain ⟨known, split⟩ := mem_names_of_readName? named
      rcases found.1.document_cases room with ⟨meant, fits⟩ | ⟨refused, lookedUp, rfl⟩
      · dsimp only
        rw [meant]
        exact .behind split (.name known fits)
      · dsimp only
        rw [refused, split]
        exact .exceeds (.name known lookedUp found.2)
  | none =>
      dsimp only
      by_cases refused : readNumber text = .error .malformed
      · rw [refused]
        exact .malformed
      · obtain ⟨numeral, rest, split, reading, ends⟩ := Numeral.exists_numeral refused
        rw [reading]
        by_cases long : numeral.IsLong
        · rw [numeral.reading_of_isLong long, split]
          exact .exceeds (.numeral numeral long (ends long))
        · obtain ⟨value, read⟩ := numeral.exists_reading long rest
          rw [read]
          exact .behind split (.numeral numeral long)

theorem readText_cases (text : List Char) :
    readText text = .error .malformed ∨ ∃ span chars rest, text = span ++ rest ∧
      IsQuotation span ∧ readText text = .ok (chars, rest) := by
  rw [readText]
  cases read : readTextFrom (text.length + 1) text with
  | none => exact .inl rfl
  | some found =>
      obtain ⟨span, split, quotation⟩ := exists_of_readTextFrom read
      exact .inr ⟨span, found.1, found.2, split, quotation, rfl⟩

section Steps

variable {fuel room : Nat}

theorem isLeft_leftOfEntry
    (values : ∀ text, IsLeft .value room text (Part.value.leftOf fuel room text))
    (text : List Char) :
    IsLeft (.member .dict) room text (leftOfEntry fuel room text) := by
  unfold leftOfEntry
  split
  · rename_i text
    rcases readText_cases text with refused | ⟨key, chars, rest, split, quotation, read⟩
    · rw [refused]
      exact .malformed
    · rw [read, ok_bind]
      dsimp only
      obtain ⟨before, splitBefore, blankBefore⟩ := exists_blanks_append rest
      split
      · rename_i left colon
        obtain ⟨behind, splitBehind, blankBehind⟩ := exists_blanks_append left
        have whole : '"' :: text = '"' :: (key ++ (before ++ ':' :: (behind ++ skipSpace left))) := by
          rw [← splitBehind, ← colon, ← splitBefore, ← split]
        rw [whole]
        refine (values (skipSpace left)).map (fun span rest split isPart => ?_) fun error exceeds =>
          .entry quotation blankBefore blankBehind exceeds
        exact ⟨_, by simp [split], .entry quotation blankBefore blankBehind isPart⟩
      · exact .malformed
  · exact .malformed

theorem isLeft_member (bracket : Bracket)
    (values : ∀ text, IsLeft .value room text (Part.value.leftOf fuel room text))
    (text : List Char) :
    IsLeft (.member bracket) room text ((Part.member bracket).leftOf fuel room text) := by
  cases bracket with
  | list =>
      exact (values text).map (fun span _ split isPart => ⟨span, split, .item isPart⟩)
        fun _ exceeds => .item exceeds
  | dict => exact isLeft_leftOfEntry values text

theorem isLeft_closing {bracket : Bracket}
    (members : ∀ text, IsLeft (.member bracket) room text
      ((Part.member bracket).leftOf fuel room text))
    (closings : ∀ text, IsLeft (.closing bracket) room text
      ((Part.closing bracket).leftOf fuel room text)) (text : List Char) :
    IsLeft (.closing bracket) room text
      ((Part.closing bracket).leftOf (fuel + 1) room text) := by
  rw [leftOf_closing]
  have member := members text
  generalize (Part.member bracket).leftOf fuel room text = run at member ⊢
  cases member with
  | exceeds exceeds => exact .exceeds (.first exceeds)
  | malformed => exact .malformed
  | @behind span rest split isPart =>
      rw [ok_bind, Bracket.leftBehind]
      obtain ⟨before, splitBefore, blankBefore⟩ := exists_blanks_append rest
      cases found : skipSpace rest with
      | nil => exact .malformed
      | cons c left =>
          rw [found] at splitBefore
          dsimp only
          split
          · rename_i closes
            refine .behind ?_ (.last isPart blankBefore)
            rw [split, splitBefore, closes]
            simp
          · split
            · rename_i separates
              obtain ⟨behind, splitBehind, blankBehind⟩ := exists_blanks_append left
              have whole : text = span ++ (before ++ ',' :: (behind ++ skipSpace left)) := by
                rw [← splitBehind, ← separates, ← splitBefore, split]
              rw [whole]
              refine (closings (skipSpace left)).map (fun members rest split closing => ?_)
                fun error exceeds => .later isPart blankBefore blankBehind exceeds
              exact ⟨_, by simp [split], .more isPart blankBefore blankBehind closing⟩
            · exact .malformed

theorem isLeft_value (closings : ∀ bracket room text,
    IsLeft (.closing bracket) room text ((Part.closing bracket).leftOf fuel room text))
    (text : List Char) :
    IsLeft .value room text (Part.value.leftOf (fuel + 1) room text) := by
  by_cases mark : text.head? = some '"'
  · obtain ⟨text, rfl⟩ := List.head?_eq_some_iff.mp mark
    rw [leftOf_quotation]
    rcases readText_cases text with refused | ⟨span, chars, rest, split, quotation, read⟩
    · rw [refused]
      exact .malformed
    · rw [read, split]
      exact .behind rfl (.quotation quotation)
  · by_cases opens : ∃ bracket : Bracket, text.head? = some bracket.left
    · obtain ⟨bracket, opens⟩ := opens
      obtain ⟨text, rfl⟩ := List.head?_eq_some_iff.mp opens
      cases room with
      | zero =>
          rw [leftOf_deep]
          exact .exceeds (.deep bracket text)
      | succ room =>
          obtain ⟨blanks, splitBlanks, blank⟩ := exists_blanks_append text
          rw [leftOf_bracket]
          split
          · rename_i closes
            obtain ⟨rest, found⟩ := List.head?_eq_some_iff.mp closes
            rw [found, List.tail_cons]
            rw [found] at splitBlanks
            have empty : IsPart .value (room + 1)
                (bracket.left :: (blanks ++ [bracket.right])) := .empty blank
            exact .behind (by simp [splitBlanks]) empty
          · refine (closings bracket room (skipSpace text)).map
              (fun members rest split closing => ?_) fun error exceeds => ?_
            · rw [split] at splitBlanks
              exact ⟨_, by simp [splitBlanks], .brackets blank closing⟩
            · rw [splitBlanks]
              exact .brackets blank exceeds
    · rw [leftOf_scalar mark fun bracket opening => opens ⟨bracket, opening⟩]
      exact isLeft_readScalar room text

end Steps

/-- What is left of a text is behind a part, unless the text exceeds a limit or is malformed. -/
theorem isLeft_leftOf (part : Part) (fuel room : Nat) (text : List Char) :
    IsLeft part room text (part.leftOf fuel room text) := by
  induction fuel generalizing part room text with
  | zero =>
      have values : ∀ text, IsLeft .value room text (Part.value.leftOf 0 room text) :=
        fun _ => .malformed
      cases part with
      | value => exact values text
      | member bracket => exact isLeft_member bracket values text
      | closing bracket => cases bracket <;> exact .malformed
  | succ fuel inductionHypothesis =>
      have values : ∀ text, IsLeft .value room text (Part.value.leftOf (fuel + 1) room text) :=
        isLeft_value fun bracket => inductionHypothesis (.closing bracket)
      cases part with
      | value => exact values text
      | member bracket => exact isLeft_member bracket values text
      | closing bracket =>
          exact isLeft_closing (inductionHypothesis (.member bracket) room)
            (inductionHypothesis (.closing bracket) room) text

/-! ## Every part is read -/

section Beginnings

variable {fuel room : Nat} {bracket : Bracket} {before behind text : List Char}

theorem leftOf_bracket_append (blank : IsBlanks before) (starts : Starts text) :
    Part.value.leftOf (fuel + 1) (room + 1) (bracket.left :: (before ++ text)) =
      (Part.closing bracket).leftOf fuel room text := by
  rw [leftOf_bracket, skipSpace_append blank starts]
  obtain ⟨c, rest, rfl, _, list, dict⟩ := starts
  have opens : (c :: rest).head? ≠ some bracket.right := by
    cases bracket
    · exact fun closes => list (Option.some.inj closes)
    · exact fun closes => dict (Option.some.inj closes)
  rw [if_neg opens]

theorem leftOf_bracket_empty (blank : IsBlanks before) (rest : List Char) :
    Part.value.leftOf (fuel + 1) (room + 1)
      (bracket.left :: (before ++ bracket.right :: rest)) = .ok rest := by
  have solid : isSpace bracket.right = false := by cases bracket <;> rfl
  rw [leftOf_bracket, skipSpace_append_cons blank solid, List.head?_cons, if_pos rfl,
    List.tail_cons]

theorem leftBehind_right (blank : IsBlanks before) (rest : List Char) :
    bracket.leftBehind fuel room (before ++ bracket.right :: rest) = .ok rest := by
  have solid : isSpace bracket.right = false := by cases bracket <;> rfl
  rw [Bracket.leftBehind, skipSpace_append_cons blank solid]
  exact if_pos rfl

theorem leftBehind_comma (blankBefore : IsBlanks before) (blankBehind : IsBlanks behind)
    (starts : Starts text) :
    bracket.leftBehind fuel room (before ++ ',' :: (behind ++ text)) =
      (Part.closing bracket).leftOf fuel room text := by
  have other : ',' ≠ bracket.right := by cases bracket <;> decide
  rw [Bracket.leftBehind, skipSpace_append_cons blankBefore (by decide)]
  dsimp only
  rw [if_neg other, if_pos rfl, skipSpace_append blankBehind starts]

theorem exists_readText {key : List Char} (quotation : IsQuotation key) (rest : List Char) :
    ∃ chars, readText (key ++ rest) = .ok (chars, rest) := by
  have enough : key.length ≤ (key ++ rest).length + 1 := by
    rw [List.length_append]
    omega
  obtain ⟨chars, read⟩ := exists_readTextFrom quotation enough rest
  exact ⟨chars, by rw [readText, read]⟩

theorem leftOfEntry_append {key : List Char} (quotation : IsQuotation key)
    (blankBefore : IsBlanks before) (blankBehind : IsBlanks behind) (starts : Starts text) :
    leftOfEntry fuel room ('"' :: (key ++ (before ++ ':' :: (behind ++ text)))) =
      Part.value.leftOf fuel room text := by
  obtain ⟨chars, read⟩ := exists_readText quotation (before ++ ':' :: (behind ++ text))
  rw [leftOfEntry, read, ok_bind]
  dsimp only
  rw [skipSpace_append_cons blankBefore (by decide)]
  change Part.value.leftOf fuel room (skipSpace (behind ++ text)) = _
  rw [skipSpace_append blankBehind starts]

end Beginnings

theorem leftOf_name {name : Name} (known : name ∈ names) (fuel room : Nat) (rest : List Char) :
    Part.value.leftOf (fuel + 1) room (name.letters.toList ++ rest) =
      (name.document room).map fun _ => rest := by
  simp only [names, List.mem_cons, List.not_mem_nil, or_false] at known
  rcases known with rfl | rfl | rfl | rfl | rfl | rfl <;> cases room <;> rfl

theorem leftOf_numeral (numeral : Numeral) {rest : List Char} (ends : Ends rest)
    (fuel room : Nat) :
    Part.value.leftOf (fuel + 1) room (numeral.text ++ rest) =
      (numeral.reading rest).map Prod.snd := by
  have first : ∃ c others, numeral.text = c :: others ∧ IsNeutral c := by
    obtain ⟨c, others, begins, digit⟩ := numeral.exists_unsigned_eq_cons
    rw [Numeral.text, begins]
    cases numeral.negative
    · exact ⟨c, others, rfl, isNeutral_of_isDigit digit⟩
    · exact ⟨'-', c :: others, rfl, by decide⟩
  have scalar : readScalar room (numeral.text ++ rest) = numeral.reading rest := by
    rw [readScalar, readName?_numeral_append, numeral.readNumber_text_append ends]
  obtain ⟨c, others, begins, mark, list, dict, _⟩ := first
  rw [← scalar, begins, List.cons_append, Part.leftOf, readValue_of_scalar mark list dict]

/-- The step that members take more than the first of them. -/
def Part.cost : Part → Nat
  | .closing _ => 1
  | _ => 0

/-- A part is read in front of everything that ends a numeral. -/
theorem leftOf_append {part : Part} {fuel room : Nat} {text rest : List Char}
    (isPart : IsPart part room text) (enough : 2 * text.length + part.cost < fuel)
    (ends : Ends rest) : part.leftOf fuel room (text ++ rest) = .ok rest := by
  -- Members and the closings around them take turns, which costs two steps for each character.
  induction isPart generalizing fuel rest with
  | @name room name known fits =>
      obtain ⟨fuel, rfl⟩ := Nat.exists_eq_add_one_of_ne_zero (Nat.ne_zero_of_lt enough)
      rw [leftOf_name known]
      rcases name.document_cases room with ⟨meant, _⟩ | ⟨_, lookedUp, none⟩
      · rw [meant]
        rfl
      · exact absurd none (fits lookedUp)
  | numeral numeral short =>
      obtain ⟨fuel, rfl⟩ := Nat.exists_eq_add_one_of_ne_zero (Nat.ne_zero_of_lt enough)
      obtain ⟨value, read⟩ := numeral.exists_reading short rest
      rw [leftOf_numeral numeral ends, read]
      rfl
  | quotation quotation =>
      obtain ⟨fuel, rfl⟩ := Nat.exists_eq_add_one_of_ne_zero (Nat.ne_zero_of_lt enough)
      obtain ⟨chars, read⟩ := exists_readText quotation rest
      rw [List.cons_append, leftOf_quotation, read]
      rfl
  | empty blank =>
      obtain ⟨fuel, rfl⟩ := Nat.exists_eq_add_one_of_ne_zero (Nat.ne_zero_of_lt enough)
      rw [List.cons_append, List.append_assoc]
      exact leftOf_bracket_empty blank rest
  | brackets blank closing inductionHypothesis =>
      obtain ⟨fuel, rfl⟩ := Nat.exists_eq_add_one_of_ne_zero (Nat.ne_zero_of_lt enough)
      simp only [List.length_cons, List.length_append, Part.cost] at enough inductionHypothesis
      rw [List.cons_append, List.append_assoc,
        leftOf_bracket_append blank (closing.starts.append rest)]
      exact inductionHypothesis (by omega) ends
  | item value inductionHypothesis => exact inductionHypothesis enough ends
  | entry quotation blankBefore blankBehind value inductionHypothesis =>
      simp only [List.length_cons, List.length_append, Part.cost] at enough inductionHypothesis
      simp only [List.cons_append, List.append_assoc]
      rw [leftOf_entry, leftOfEntry_append quotation blankBefore blankBehind (value.starts.append rest)]
      exact inductionHypothesis (by omega) ends
  | @last room bracket text blanks member blank inductionHypothesis =>
      obtain ⟨fuel, rfl⟩ := Nat.exists_eq_add_one_of_ne_zero (Nat.ne_zero_of_lt enough)
      simp only [List.length_append, List.length_singleton, Part.cost]
        at enough inductionHypothesis
      rw [List.append_assoc, List.append_assoc, List.singleton_append, leftOf_closing,
        inductionHypothesis (by omega) (ends_append_cons blank bracket.isEnd_right rest), ok_bind,
        leftBehind_right blank]
  | more member blankBefore blankBehind closing memberHypothesis closingHypothesis =>
      obtain ⟨fuel, rfl⟩ := Nat.exists_eq_add_one_of_ne_zero (Nat.ne_zero_of_lt enough)
      simp only [List.length_append, List.length_cons, Part.cost]
        at enough memberHypothesis closingHypothesis
      simp only [List.append_assoc, List.cons_append]
      rw [leftOf_closing, memberHypothesis (by omega)
        (ends_append_cons blankBefore (by decide) _), ok_bind,
        leftBehind_comma blankBefore blankBehind (closing.starts.append rest)]
      exact closingHypothesis (by omega) ends

/-- A text that exceeds a limit fails for it. -/
theorem leftOf_of_exceeds {error : ReadError} {part : Part} {fuel room : Nat}
    {text : List Char} (exceeds : Exceeds error part room text)
    (enough : 2 * text.length + part.cost < fuel) : part.leftOf fuel room text = .error error := by
  induction exceeds generalizing fuel with
  | numeral numeral long ends =>
      obtain ⟨fuel, rfl⟩ := Nat.exists_eq_add_one_of_ne_zero (Nat.ne_zero_of_lt enough)
      rw [leftOf_numeral numeral ends, numeral.reading_of_isLong long]
      rfl
  | name known lookedUp rest =>
      obtain ⟨fuel, rfl⟩ := Nat.exists_eq_add_one_of_ne_zero (Nat.ne_zero_of_lt enough)
      rw [leftOf_name known, Name.document, lookedUp]
      rfl
  | deep bracket rest =>
      obtain ⟨fuel, rfl⟩ := Nat.exists_eq_add_one_of_ne_zero (Nat.ne_zero_of_lt enough)
      exact leftOf_deep bracket _ rest
  | brackets blank closing inductionHypothesis =>
      obtain ⟨fuel, rfl⟩ := Nat.exists_eq_add_one_of_ne_zero (Nat.ne_zero_of_lt enough)
      simp only [List.length_cons, List.length_append, Part.cost] at enough inductionHypothesis
      rw [leftOf_bracket_append blank closing.starts]
      exact inductionHypothesis (by omega)
  | item value inductionHypothesis => exact inductionHypothesis enough
  | entry quotation blankBefore blankBehind value inductionHypothesis =>
      simp only [List.length_cons, List.length_append, Part.cost] at enough inductionHypothesis
      rw [leftOf_entry, leftOfEntry_append quotation blankBefore blankBehind value.starts]
      exact inductionHypothesis (by omega)
  | first member inductionHypothesis =>
      obtain ⟨fuel, rfl⟩ := Nat.exists_eq_add_one_of_ne_zero (Nat.ne_zero_of_lt enough)
      simp only [Part.cost] at enough inductionHypothesis
      rw [leftOf_closing, inductionHypothesis (by omega), error_bind]
  | later member blankBefore blankBehind closing inductionHypothesis =>
      obtain ⟨fuel, rfl⟩ := Nat.exists_eq_add_one_of_ne_zero (Nat.ne_zero_of_lt enough)
      simp only [List.length_append, List.length_cons, Part.cost] at enough inductionHypothesis
      rw [leftOf_closing, leftOf_append member (by simp only [Part.cost]; omega)
        (ends_append_cons blankBefore (by decide) _), ok_bind,
        leftBehind_comma blankBefore blankBehind closing.starts]
      exact inductionHypothesis (by omega)

/-! ## Documents -/

/-- A text is read exactly if it is a document. -/
theorem exists_readWithin_iff {room : Nat} {text : List Char} :
    (∃ value, readWithin room text = .ok value) ↔ IsDocument room text := by
  constructor
  · rintro ⟨value, read⟩
    obtain ⟨⟨found, left⟩, valued, done⟩ := bind_eq_ok_iff.mp read
    have blankBack : IsBlanks left := by
      by_contra solid
      rw [← skipSpace_eq_nil_iff, ← List.isEmpty_iff] at solid
      dsimp only at done
      rw [if_neg solid] at done
      contradiction
    obtain ⟨front, split, blankFront⟩ := exists_blanks_append text
    have isLeft := isLeft_leftOf .value (stepsFor text) room (skipSpace text)
    rw [Part.leftOf, valued] at isLeft
    cases isLeft with
    | behind inner isPart =>
        rw [split, inner]
        exact .value blankFront isPart blankBack
  · rintro ⟨blankFront, value, blankBack⟩
    rename_i front text back
    have enough : 2 * text.length + Part.value.cost < stepsFor (front ++ (text ++ back)) := by
      simp only [Part.cost, stepsFor, List.length_append]
      omega
    have left := leftOf_append value enough (ends_of_isBlanks blankBack)
    obtain ⟨⟨found, _⟩, read, rfl⟩ := map_eq_ok_iff.mp left
    refine ⟨found, ?_⟩
    rw [readWithin, skipSpace_append blankFront (value.starts.append _), read, ok_bind]
    dsimp only
    rw [skipSpace_eq_nil_iff.mpr blankBack]
    rfl

/-- A text fails for a limit exactly if it exceeds the limit before it turns out malformed. -/
theorem readWithin_eq_error_iff {error : ReadError} (limit : error ≠ .malformed) {room : Nat}
    {text : List Char} :
    readWithin room text = .error error ↔ ExceedsDocument error room text := by
  constructor
  · intro read
    obtain ⟨front, split, blankFront⟩ := exists_blanks_append text
    have isLeft := isLeft_leftOf .value (stepsFor text) room (skipSpace text)
    rw [Part.leftOf] at isLeft
    rw [readWithin] at read
    cases valued : readValue (stepsFor text) room (skipSpace text) with
    | ok found =>
        rw [valued, ok_bind] at read
        dsimp only at read
        split at read
        · contradiction
        · exact absurd (Except.error.inj read).symm limit
    | error failure =>
        rw [valued, error_bind] at read
        obtain rfl := Except.error.inj read
        rw [valued] at isLeft
        cases isLeft with
        | exceeds exceeds =>
            rw [split]
            exact .value blankFront exceeds
        | malformed => contradiction
  · rintro ⟨blankFront, exceeds⟩
    rename_i front text
    have enough : 2 * text.length + Part.value.cost < stepsFor (front ++ text) := by
      simp only [Part.cost, stepsFor, List.length_append]
      omega
    have failed := leftOf_of_exceeds exceeds enough
    rw [readWithin, skipSpace_append blankFront exceeds.starts]
    change (readValue _ _ _).map _ = _ at failed
    cases valued : readValue (stepsFor (front ++ text)) room text with
    | ok found =>
        rw [valued] at failed
        contradiction
    | error failure =>
        rw [valued] at failed
        obtain rfl := Except.error.inj failed
        rfl

end RideQuery.Json
