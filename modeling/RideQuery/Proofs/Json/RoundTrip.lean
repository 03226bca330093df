import RideQuery.Proofs.Json.Document
import RideQuery.Proofs.Json.Token

/-!
# Reading back what was written

A value that has a form of its own in JSON is written on one line exactly if there is room for
its brackets inside each other.  The line is read back as the value, by any reader that has as
much room.
-/

namespace RideQuery.Json

open RideQuery.Text RideQuery.Number

/-! ## Plain values -/

/-- Values that have forms of their own in JSON, with at most so many brackets inside each other. -/
inductive IsPlain : Nat → Value → Prop
  | null {nesting : Nat} : IsPlain nesting .null
  | bool {nesting : Nat} (b : Bool) : IsPlain nesting (.bool b)
  | int {nesting : Nat} {n : Int} (short : digitCount n.natAbs ≤ maxDigits) :
      IsPlain nesting (.int n)
  | text {nesting : Nat} (s : String) : IsPlain nesting (.text s)
  | list {nesting : Nat} {items : List Value} (members : ∀ item ∈ items, IsPlain nesting item) :
      IsPlain (nesting + 1) (.list items)
  | dict {nesting : Nat} {entries : Dict} (keys : ∀ entry ∈ entries, ∃ key, entry.1 = .text key)
      (distinct : entries.Pairwise fun entry next => Value.sameKey entry.1 next.1 = false)
      (members : ∀ entry ∈ entries, IsPlain nesting entry.2) :
      IsPlain (nesting + 1) (.dict entries)

/-- A deeper limit allows every value that a lower one allows. -/
theorem IsPlain.mono {nesting deeper : Nat} {value : Value} (plain : IsPlain nesting value)
    (below : nesting ≤ deeper) : IsPlain deeper value := by
  induction plain generalizing deeper with
  | null => exact .null
  | bool b => exact .bool b
  | int short => exact .int short
  | text s => exact .text s
  | list members inductionHypothesis =>
      obtain ⟨rest, rfl⟩ := Nat.exists_eq_add_of_lt (Nat.lt_of_succ_le below)
      exact .list fun item member => inductionHypothesis item member (by omega)
  | dict keys distinct members inductionHypothesis =>
      obtain ⟨rest, rfl⟩ := Nat.exists_eq_add_of_lt (Nat.lt_of_succ_le below)
      exact .dict keys distinct fun entry member =>
        inductionHypothesis entry member (by omega)

/-- A record is plain if its fields have different names and plain values. -/
theorem IsPlain.record {nesting : Nat} (fields : List (String × Value))
    (distinct : (fields.map Prod.fst).Nodup)
    (members : ∀ field ∈ fields, IsPlain nesting field.2) :
    IsPlain (nesting + 1) (.dict (fields.map fun field => (.text field.1, field.2))) := by
  refine .dict ?_ ?_ ?_
  · rw [List.forall_mem_map]
    exact fun field _ => ⟨field.1, rfl⟩
  · rw [List.pairwise_map]
    apply (List.pairwise_map.mp distinct).imp
    intro field next apart
    rw [Value.sameKey_text]
    exact beq_eq_false_iff_ne.mpr apart
  · rw [List.forall_mem_map]
    exact members

/-! ## Texts that are read back -/

/-- A text that stands for a document wherever a value may stand. -/
structure StandsFor (nesting : Nat) (document : Document) (text : List Char) : Prop where
  /-- It does not begin like an end or a blank. -/
  begins : ∃ c rest, text = c :: rest ∧ isSpace c = false ∧ c ≠ ']'
  /-- It controls no line. -/
  visible : ∀ c ∈ text, IsVisible c
  /-- It is read as the document where there is room, in front of whatever may follow one. -/
  read : ∀ fuel room rest, 2 * text.length ≤ fuel → nesting ≤ room → Closes rest →
    readValue fuel room (text ++ rest) = .ok (document, rest)

/-- The text of a member: its key, a colon, and a text that stands for its document. -/
def MemberStandsFor (nesting : Nat) (member : List Letter × Document) (text : List Char) : Prop :=
  ∃ key body, member.1 = key.map Letter.char ∧
    text = writeText false key ++ (Style.log.colon ++ body) ∧
    StandsFor nesting member.2 body

theorem readValue_of_scalar {c : Char} (mark : c ≠ '"') (bracket : c ≠ '[') (brace : c ≠ '\x7b')
    (fuel room : Nat) (rest : List Char) :
    readValue (fuel + 1) room (c :: rest) = readScalar room (c :: rest) := by
  unfold readValue
  split
  · rename_i same
    exact absurd (List.cons.inj same).1 mark
  · rename_i same
    exact absurd (List.cons.inj same).1 bracket
  · rename_i same
    exact absurd (List.cons.inj same).1 brace
  · rfl

/-- Characters in quotation marks stand for themselves. -/
theorem standsFor_text (nesting : Nat) (chars : List Char) :
    StandsFor nesting (.text (chars.map .char)) (writeText false chars) := by
  refine ⟨⟨'"', _, rfl, by decide, by decide⟩, fun c => isVisible_of_mem_writeText, ?_⟩
  intro fuel room rest enough _ _
  cases fuel with
  | zero => simp [writeText] at enough
  | succ fuel =>
      rw [writeText, List.cons_append, List.cons_append, List.append_assoc, List.singleton_append,
        readValue, readText_writeText]
      rfl

/-- A name without digits, marks and brackets in front stands for its meaning. -/
theorem standsFor_of_readScalar {nesting : Nat} {document : Document} {c : Char} {behind : List Char}
    (mark : c ≠ '"') (bracket : c ≠ '[') (brace : c ≠ '\x7b')
    (begins : isSpace c = false ∧ c ≠ ']') (visible : ∀ d ∈ c :: behind, IsVisible d)
    (read : ∀ room rest, Closes rest →
      readScalar room (c :: behind ++ rest) = .ok (document, rest)) :
    StandsFor nesting document (c :: behind) := by
  refine ⟨⟨c, behind, rfl, begins⟩, visible, ?_⟩
  intro fuel room rest enough _ closes
  cases fuel with
  | zero => simp at enough
  | succ fuel =>
      rw [List.cons_append, readValue_of_scalar mark bracket brace]
      exact read room rest closes

theorem standsFor_null (nesting : Nat) : StandsFor nesting .null "null".toList := by
  refine standsFor_of_readScalar (by decide) (by decide) (by decide) (by decide) (by decide) ?_
  intro room rest _
  change readScalar room ("null".toList ++ rest) = _
  simp [readScalar, readName?, names, Name.document, ← String.length_toList]

theorem standsFor_bool (nesting : Nat) (b : Bool) :
    StandsFor nesting (.bool b) (writeBool b) := by
  cases b
  · refine standsFor_of_readScalar (by decide) (by decide) (by decide) (by decide) (by decide) ?_
    intro room rest _
    change readScalar room ("false".toList ++ rest) = _
    simp [readScalar, readName?, names, Name.document, ← String.length_toList]
  · refine standsFor_of_readScalar (by decide) (by decide) (by decide) (by decide) (by decide) ?_
    intro room rest _
    change readScalar room ("true".toList ++ rest) = _
    simp [readScalar, readName?, names, Name.document, ← String.length_toList]

/-- Characters that neither control a line nor open, close or separate anything. -/
def IsNeutral (c : Char) : Prop :=
  c ≠ '"' ∧ c ≠ '[' ∧ c ≠ '\x7b' ∧ (isSpace c = false ∧ c ≠ ']') ∧ IsVisible c

instance (c : Char) : Decidable (IsNeutral c) :=
  inferInstanceAs (Decidable (_ ∧ _ ∧ _ ∧ _ ∧ _))

theorem isNeutral_of_isDigit {c : Char} (digit : c.isDigit = true) : IsNeutral c := by
  have bounds := toNat_bounds_of_isDigit digit
  have all : ∀ code < 58, 48 ≤ code → IsNeutral (Char.ofNat code) := by decide
  rw [← Char.ofNat_toNat c]
  exact all c.toNat (by omega) bounds.1

/-- The digits of an integer stand for it. -/
theorem standsFor_int (nesting : Nat) {n : Int} (short : digitCount n.natAbs ≤ maxDigits) :
    StandsFor nesting (.int n) (integerText n).toList := by
  have neutral : ∀ c ∈ (integerText n).toList, IsNeutral c := by
    obtain ⟨sign, written, signs⟩ := exists_integerText n
    rw [written]
    intro c member
    rcases List.mem_append.mp member with inSign | inDigits
    · rcases signs with rfl | rfl
      · contradiction
      · rw [List.mem_singleton.mp inSign]
        decide
    · exact isNeutral_of_isDigit (isDigit_of_mem_repr inDigits)
  obtain ⟨c, digits, written⟩ := List.exists_cons_of_ne_nil (NumberText.integerText n).1
  have read : ∀ room rest, Closes rest →
      readScalar room ((integerText n).toList ++ rest) = .ok (.int n, rest) :=
    fun room rest => readScalar_integerText room short
  rw [written] at neutral read ⊢
  obtain ⟨mark, bracket, brace, begins, _⟩ := neutral c List.mem_cons_self
  exact standsFor_of_readScalar mark bracket brace begins
    (fun d member => (neutral d member).2.2.2.2) read

/-! ## Members -/

/-- Texts of members, separated as in a log line. -/
def joined (texts : List (List Char)) : List Char :=
  Style.log.comma.intercalate texts

@[simp]
theorem joined_singleton (text : List Char) : joined [text] = text := by
  simp [joined]

theorem joined_cons_cons (text next : List Char) (texts : List (List Char)) :
    joined (text :: next :: texts) = text ++ ',' :: ' ' :: joined (next :: texts) := by
  simp [joined, Style.comma, Style.log]

theorem skipSpace_cons {c : Char} (solid : isSpace c = false) (rest : List Char) :
    skipSpace (c :: rest) = c :: rest := by
  simp [skipSpace, solid]

@[simp]
theorem skipSpace_blank (rest : List Char) : skipSpace (' ' :: rest) = skipSpace rest := by
  simp [skipSpace, isSpace]

/-- Members begin as the first of them does. -/
theorem exists_joined_eq_cons {text : List Char} {c : Char} {behind : List Char}
    (begins : text = c :: behind) (texts : List (List Char)) :
    ∃ more, joined (text :: texts) = c :: more := by
  cases texts with
  | nil => exact ⟨behind, by simp [begins]⟩
  | cons next texts => exact ⟨_, by rw [joined_cons_cons, begins, List.cons_append]⟩

theorem readItems_joined {nesting room : Nat} {items : List Document} {texts : List (List Char)}
    (standing : List.Forall₂ (StandsFor nesting) items texts) (nonempty : items ≠ [])
    (fits : nesting ≤ room) (fuel : Nat) (rest : List Char)
    (enough : 2 * (joined texts).length + 1 ≤ fuel) :
    readItems fuel room (joined texts ++ ']' :: rest) = .ok (items, rest) := by
  -- Each step leaves one unit of fuel less to the members behind, which the separator makes up for.
  induction standing generalizing fuel with
  | nil => contradiction
  | @cons item text items texts first others inductionHypothesis =>
      cases fuel with
      | zero => omega
      | succ fuel =>
          cases others with
          | nil =>
              rw [joined_singleton] at enough ⊢
              rw [readItems,
                first.read fuel room (']' :: rest) (by omega) fits (closes_cons (by decide) rest)]
              rfl
          | @cons next nextText items texts second others =>
              obtain ⟨c, behind, begins, solid, _⟩ := second.begins
              obtain ⟨more, same⟩ := exists_joined_eq_cons begins texts
              rw [joined_cons_cons, List.length_append, List.length_cons, List.length_cons]
                at enough
              have read := inductionHypothesis (List.cons_ne_nil _ _) fuel (by omega)
              rw [joined_cons_cons, List.append_assoc, List.cons_append, List.cons_append,
                readItems, first.read fuel room _ (by omega) fits (closes_cons (by decide) _)]
              rw [same, List.cons_append] at read ⊢
              simp only [ok_bind, skipSpace_cons (by decide : isSpace ',' = false)]
              rw [skipSpace_blank, skipSpace_cons solid, read]
              rfl

/-- What is read of an object when an entry has been read: its end, or the entries behind. -/
def readBehind (fuel room : Nat) (member : List Letter × Document) (rest : List Char) :
    Except ReadError (Members × List Char) :=
  match skipSpace rest with
  | '\x7d' :: left => .ok ([member], left)
  | ',' :: left => do
    let (members, left) ← readEntries fuel room (skipSpace left)
    .ok (member :: members, left)
  | _ => .error .malformed

/-- A member is read up to whatever separates it from the next one or ends the object. -/
theorem readEntries_member {nesting room : Nat} {member : List Letter × Document}
    {text : List Char} (stands : MemberStandsFor nesting member text) {fuel : Nat}
    {rest : List Char} (enough : 2 * text.length ≤ fuel) (fits : nesting ≤ room)
    (closes : Closes rest) :
    readEntries (fuel + 1) room (text ++ rest) = readBehind fuel room member rest := by
  obtain ⟨_, document⟩ := member
  obtain ⟨key, body, rfl, rfl, stands⟩ := stands
  obtain ⟨c, behind, begins, solid, _⟩ := stands.begins
  have read : readValue fuel room (skipSpace (' ' :: (body ++ rest))) =
      .ok (document, rest) := by
    have within : 2 * body.length ≤ fuel := by
      rw [List.length_append, List.length_append] at enough
      omega
    rw [skipSpace_blank, begins, List.cons_append, skipSpace_cons solid, ← List.cons_append,
      ← begins]
    exact stands.read fuel room rest within fits closes
  rw [writeText, List.cons_append, List.cons_append, List.cons_append, List.append_assoc,
    List.append_assoc, List.singleton_append, readEntries, readText_writeText]
  change (readValue fuel room (skipSpace (' ' :: (body ++ rest))) >>= fun valued =>
    readBehind fuel room (key.map Letter.char, valued.1) valued.2) = _
  rw [read]
  rfl

theorem readEntries_joined {nesting room : Nat} {members : Members} {texts : List (List Char)}
    (standing : List.Forall₂ (MemberStandsFor nesting) members texts) (nonempty : members ≠ [])
    (fits : nesting ≤ room) (fuel : Nat) (rest : List Char)
    (enough : 2 * (joined texts).length + 1 ≤ fuel) :
    readEntries fuel room (joined texts ++ '\x7d' :: rest) = .ok (members, rest) := by
  induction standing generalizing fuel with
  | nil => contradiction
  | @cons member text members texts first others inductionHypothesis =>
      cases fuel with
      | zero => omega
      | succ fuel =>
          cases others with
          | nil =>
              rw [joined_singleton] at enough ⊢
              rw [readEntries_member first (by omega) fits (closes_cons (by decide) rest)]
              rfl
          | @cons next nextText members texts second others =>
              obtain ⟨key, body, _, begins, _⟩ := second
              obtain ⟨more, same⟩ := exists_joined_eq_cons begins texts
              rw [joined_cons_cons, List.length_append, List.length_cons, List.length_cons]
                at enough
              have read := inductionHypothesis (List.cons_ne_nil _ _) fuel (by omega)
              rw [joined_cons_cons, List.append_assoc, List.cons_append, List.cons_append,
                readEntries_member first (by omega) fits (closes_cons (by decide) _)]
              rw [same, List.cons_append] at read ⊢
              simp only [readBehind, skipSpace_cons (by decide : isSpace ',' = false)]
              rw [skipSpace_blank, skipSpace_cons (by decide), read]
              rfl

/-! ## Brackets -/

theorem isVisible_of_mem_joined {texts : List (List Char)}
    (visible : ∀ text ∈ texts, ∀ c ∈ text, IsVisible c) : ∀ c ∈ joined texts, IsVisible c := by
  induction texts with
  | nil => simp [joined]
  | cons text texts inductionHypothesis =>
      obtain ⟨first, others⟩ := List.forall_mem_cons.mp visible
      cases texts with
      | nil => simpa using first
      | cons next texts =>
          rw [joined_cons_cons, List.forall_mem_append, List.forall_mem_cons, List.forall_mem_cons]
          exact ⟨first, by decide, by decide, inductionHypothesis others⟩

theorem bracketed_eq (level : Nat) (left right : Char) (texts : List (List Char)) :
    Style.log.bracketed level left right texts = left :: (joined texts ++ [right]) := by
  cases texts with
  | nil => rfl
  | cons text texts => rfl

theorem isVisible_of_mem_bracketed {level : Nat} {left right : Char} {texts : List (List Char)}
    (leftVisible : IsVisible left) (rightVisible : IsVisible right)
    (visible : ∀ text ∈ texts, ∀ c ∈ text, IsVisible c) :
    ∀ c ∈ Style.log.bracketed level left right texts, IsVisible c := by
  rw [bracketed_eq, List.forall_mem_cons, List.forall_mem_append, List.forall_mem_singleton]
  exact ⟨leftVisible, isVisible_of_mem_joined visible, rightVisible⟩

theorem MemberStandsFor.visible {nesting : Nat} {member : List Letter × Document}
    {text : List Char} (stands : MemberStandsFor nesting member text) : ∀ c ∈ text, IsVisible c := by
  obtain ⟨key, body, _, rfl, body_stands⟩ := stands
  rw [List.forall_mem_append, List.forall_mem_append]
  exact ⟨fun c => isVisible_of_mem_writeText, by decide, body_stands.visible⟩

/-- Members in brackets stand for their list. -/
theorem standsFor_list {nesting : Nat} {items : List Document} {texts : List (List Char)}
    (standing : List.Forall₂ (StandsFor nesting) items texts) (level : Nat) :
    StandsFor (nesting + 1) (.list items) (Style.log.bracketed level '[' ']' texts) := by
  have visible : ∀ text ∈ texts, ∀ c ∈ text, IsVisible c := by
    intro text member
    obtain ⟨item, _, stands⟩ := exists_of_mem_forall₂ standing text member
    exact stands.visible
  refine ⟨⟨'[', _, bracketed_eq .., by decide, by decide⟩,
    isVisible_of_mem_bracketed (by decide) (by decide) visible, ?_⟩
  intro fuel room rest enough fits _
  rw [bracketed_eq] at enough ⊢
  obtain ⟨inside, rfl⟩ := Nat.exists_eq_add_one_of_ne_zero (Nat.ne_zero_of_lt fits)
  cases fuel with
  | zero => simp at enough
  | succ fuel =>
      cases standing with
      | nil => rfl
      | @cons item text items texts first others =>
          obtain ⟨c, behind, begins, solid, noEnd⟩ := first.begins
          obtain ⟨more, same⟩ := exists_joined_eq_cons begins texts
          have within : 2 * (joined (text :: texts)).length + 1 ≤ fuel := by
            rw [List.length_cons, List.length_append, List.length_singleton] at enough
            omega
          have read := readItems_joined (.cons first others) (List.cons_ne_nil _ _)
            (Nat.le_of_succ_le_succ fits) fuel rest within
          rw [List.cons_append, List.append_assoc, List.singleton_append]
          rw [same, List.cons_append] at read ⊢
          unfold readValue
          simp only [skipSpace_cons solid]
          split
          · rename_i same
            exact absurd (List.cons.inj same).1 noEnd
          · rw [read]
            rfl

/-- Members in braces stand for what they make when they are written one after the other. -/
theorem standsFor_dict {nesting : Nat} {members : Members} {texts : List (List Char)}
    (standing : List.Forall₂ (MemberStandsFor nesting) members texts) (level : Nat) :
    StandsFor (nesting + 1) (.dict (Document.ofMembers members))
      (Style.log.bracketed level '\x7b' '\x7d' texts) := by
  have visible : ∀ text ∈ texts, ∀ c ∈ text, IsVisible c := by
    intro text member
    obtain ⟨_, _, stands⟩ := exists_of_mem_forall₂ standing text member
    exact stands.visible
  refine ⟨⟨'\x7b', _, bracketed_eq .., by decide, by decide⟩,
    isVisible_of_mem_bracketed (by decide) (by decide) visible, ?_⟩
  intro fuel room rest enough fits _
  rw [bracketed_eq] at enough ⊢
  obtain ⟨inside, rfl⟩ := Nat.exists_eq_add_one_of_ne_zero (Nat.ne_zero_of_lt fits)
  cases fuel with
  | zero => simp at enough
  | succ fuel =>
      cases standing with
      | nil => rfl
      | @cons member text members texts first others =>
          obtain ⟨key, body, _, begins, _⟩ := id first
          obtain ⟨more, same⟩ := exists_joined_eq_cons begins texts
          have within : 2 * (joined (text :: texts)).length + 1 ≤ fuel := by
            rw [List.length_cons, List.length_append, List.length_singleton] at enough
            omega
          have read := readEntries_joined (.cons first others) (List.cons_ne_nil _ _)
            (Nat.le_of_succ_le_succ fits) fuel rest within
          rw [List.cons_append, List.append_assoc, List.singleton_append]
          rw [same, List.cons_append] at read ⊢
          unfold readValue
          simp only [skipSpace_cons (by decide : isSpace '"' = false)]
          split
          · rename_i same
            exact absurd (List.cons.inj same).1 (by decide)
          · rw [read]
            rfl

/-! ## Values -/

/-- A text that stands for a document that is an open value. -/
def Tells (nesting : Nat) (value : Value) (text : List Char) : Prop :=
  ∃ document, document.value? = some value ∧ StandsFor nesting document text

theorem exists_writeItems {nesting level room : Nat} {items : List Value}
    (written : ∀ item ∈ items, ∃ text,
      writeAt Style.log level room item = .ok text ∧ Tells nesting item text) :
    ∃ texts documents, writeItems Style.log level room items = .ok texts ∧
      Document.values? documents = some items ∧
      List.Forall₂ (StandsFor nesting) documents texts := by
  induction items with
  | nil => exact ⟨[], [], rfl, rfl, .nil⟩
  | cons item items inductionHypothesis =>
      obtain ⟨⟨text, first, document, valued, stands⟩, others⟩ := List.forall_mem_cons.mp written
      obtain ⟨texts, documents, rest, values, standing⟩ := inductionHypothesis others
      refine ⟨text :: texts, document :: documents, ?_, ?_, .cons stands standing⟩
      · rw [writeItems, first, rest]
        rfl
      · rw [Document.values?, valued, values]
        rfl

theorem exists_writeEntries {nesting level room : Nat} {entries : Dict}
    (keys : ∀ entry ∈ entries, ∃ key, entry.1 = .text key)
    (written : ∀ entry ∈ entries, ∃ text,
      writeAt Style.log level room entry.2 = .ok text ∧ Tells nesting entry.2 text) :
    ∃ texts members, writeEntries Style.log level room entries = .ok texts ∧
      Document.entries? members = some entries ∧
      List.Forall₂ (MemberStandsFor nesting) members (texts.map Prod.snd) := by
  induction entries with
  | nil => exact ⟨[], [], rfl, rfl, .nil⟩
  | cons entry entries inductionHypothesis =>
      obtain ⟨_, value⟩ := entry
      obtain ⟨⟨key, rfl⟩, otherKeys⟩ := List.forall_mem_cons.mp keys
      obtain ⟨⟨text, first, document, valued, stands⟩, others⟩ := List.forall_mem_cons.mp written
      obtain ⟨texts, members, rest, values, standing⟩ := inductionHypothesis otherKeys others
      refine ⟨(.text key, writeText false key.toList ++ Style.log.colon ++ text) :: texts,
        (key.toList.map .char, document) :: members, ?_, ?_,
        .cons ⟨key.toList, text, rfl, List.append_assoc .., stands⟩ standing⟩
      · rw [writeEntries, keyText, first, rest]
        rfl
      · exact Document.entries?_cons_eq_some_iff.mpr
          ⟨key, value, entries, Document.text?_eq_some_iff.mpr rfl, valued, values, rfl⟩

/-- A plain value is written as a text that tells it, where there is room for it. -/
theorem exists_writeAt_of_isPlain {nesting room : Nat} {value : Value}
    (plain : IsPlain nesting value) (fits : nesting ≤ room) (level : Nat) :
    ∃ text, writeAt Style.log level room value = .ok text ∧ Tells nesting value text := by
  induction plain generalizing level room with
  | null => exact ⟨_, by rw [writeAt], _, rfl, standsFor_null _⟩
  | bool b => exact ⟨_, by rw [writeAt], _, rfl, standsFor_bool _ b⟩
  | @int nesting n short =>
      refine ⟨_, ?_, .int n, rfl, standsFor_int nesting short⟩
      rw [writeAt, writeInt, writeInteger, if_pos short]
  | text s =>
      refine ⟨_, by rw [writeAt]; rfl, _, ?_, standsFor_text _ s.toList⟩
      rw [Document.value?, Document.text?_eq_some_iff.mpr rfl]
      rfl
  | list members inductionHypothesis =>
      obtain ⟨inside, rfl⟩ := Nat.exists_eq_add_one_of_ne_zero (Nat.ne_zero_of_lt fits)
      obtain ⟨texts, documents, written, values, standing⟩ := exists_writeItems fun item member =>
        inductionHypothesis item member (Nat.le_of_succ_le_succ fits) (level + 1)
      refine ⟨_, ?_, .list documents, ?_, standsFor_list standing level⟩
      · rw [writeAt_list, written]
        rfl
      · rw [Document.value?, values]
        rfl
  | dict keys distinct members inductionHypothesis =>
      obtain ⟨inside, rfl⟩ := Nat.exists_eq_add_one_of_ne_zero (Nat.ne_zero_of_lt fits)
      obtain ⟨texts, documents, written, values, standing⟩ :=
        exists_writeEntries keys fun entry member =>
          inductionHypothesis entry member (Nat.le_of_succ_le_succ fits) (level + 1)
      refine ⟨_, ?_, .dict (Document.ofMembers documents), ?_, standsFor_dict standing level⟩
      · rw [writeAt_dict, written]
        rfl
      · rw [Document.value?, Document.entries?_ofMembers values,
          Value.ofEntries_of_pairwise distinct]
        rfl

/-! ## Texts that are read everywhere -/

/-- Texts that tell a value to every reader that has room for so many levels. -/
def IsReadAs (nesting : Nat) (text : String) (value : Value) : Prop :=
  ∃ document, document.value? = some value ∧
    ∀ room, nesting ≤ room → readWithin room text.toList = .ok document

theorem IsReadAs.mono {nesting deeper : Nat} {text : String} {value : Value}
    (isRead : IsReadAs nesting text value) (below : nesting ≤ deeper) :
    IsReadAs deeper text value := by
  obtain ⟨document, valued, read⟩ := isRead
  exact ⟨document, valued, fun room fits => read room (below.trans fits)⟩

theorem readScalar_succ (room other : Nat) : readScalar (room + 1) = readScalar (other + 1) := by
  funext text
  simp [readScalar, Name.document]

/-- Each step goes down one level at most, so that more room than steps makes no difference. -/
theorem read_congr_room {fuel room other : Nat} (enough : fuel ≤ room) (also : fuel ≤ other) :
    readValue fuel room = readValue fuel other ∧ readItems fuel room = readItems fuel other ∧
      readEntries fuel room = readEntries fuel other := by
  induction fuel generalizing room other with
  | zero =>
      refine ⟨?_, ?_, ?_⟩ <;> funext text
      · rw [readValue, readValue]
      · rw [readItems, readItems]
      · rw [readEntries, readEntries]
  | succ fuel inductionHypothesis =>
      obtain ⟨inside, rfl⟩ := Nat.exists_eq_add_one_of_ne_zero (Nat.ne_zero_of_lt enough)
      obtain ⟨within, rfl⟩ := Nat.exists_eq_add_one_of_ne_zero (Nat.ne_zero_of_lt also)
      have deeper := inductionHypothesis (Nat.le_of_succ_le_succ enough)
        (Nat.le_of_succ_le_succ also)
      have level := inductionHypothesis (Nat.le_of_succ_le enough) (Nat.le_of_succ_le also)
      refine ⟨?_, ?_, ?_⟩ <;> funext text
      · simp only [readValue, deeper.2.1, deeper.2.2, readScalar_succ inside within]
      · simp only [readItems, level.1, level.2.1]
      · simp only [readEntries, level.1, level.2.2]

/-- What every reader with enough room reads as a value is read so with all the room it takes. -/
theorem IsReadAs.read? {nesting : Nat} {text : String} {value : Value}
    (isRead : IsReadAs nesting text value) : Json.read? text = some value := by
  obtain ⟨document, valued, read⟩ := isRead
  have steps :=
    (read_congr_room (Nat.le_max_right nesting (stepsFor text.toList)) le_rfl).1
  have ample := read (max nesting (stepsFor text.toList)) (Nat.le_max_left _ _)
  rw [readWithin, steps] at ample
  rw [Json.read?, readWithin, ample]
  exact valued

/-- A plain value is written on one line where there is room for it, and read back as it was. -/
theorem exists_write_of_isPlain {nesting room : Nat} {value : Value}
    (plain : IsPlain nesting value) (fits : nesting ≤ room) :
    ∃ text, write Style.log room value = .ok text ∧ (∀ c ∈ text.toList, IsVisible c) ∧
      IsReadAs nesting text value := by
  obtain ⟨text, written, document, valued, stands⟩ := exists_writeAt_of_isPlain plain fits 0
  refine ⟨String.ofList text, ?_, ?_, document, valued, ?_⟩
  · rw [write, written]
    rfl
  · rw [String.toList_ofList]
    exact stands.visible
  · intro deeper below
    obtain ⟨c, behind, begins, solid, _⟩ := stands.begins
    have enough : 2 * text.length ≤ stepsFor text := Nat.le_add_right _ 2
    have read := stands.read (stepsFor text) deeper [] enough below closes_nil
    have trimmed : skipSpace text = text := by rw [begins, skipSpace_cons solid]
    rw [List.append_nil] at read
    rw [String.toList_ofList, readWithin, trimmed, read]
    rfl

end RideQuery.Json
