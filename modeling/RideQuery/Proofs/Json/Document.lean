import Mathlib.Data.List.Basic
import RideQuery.Json.Document
import RideQuery.Proofs.Dictionary

/-!
# Documents as open values

A text of a document is a text exactly if it is made from the characters of one.  Members that
are the entries of a dictionary, written one after the other, make the dictionary that is
written so.
-/

namespace RideQuery.Json.Document

/-! ## Texts -/

theorem mapM_char?_eq_some_iff {letters : List Letter} {chars : List Char} :
    letters.mapM Letter.char? = some chars ↔ letters = chars.map .char := by
  induction letters generalizing chars with
  | nil => simp [eq_comm]
  | cons letter letters inductionHypothesis =>
      cases letter with
      | half place => cases chars <;> simp [Letter.char?]
      | char c =>
          simp only [List.mapM_cons, Letter.char?, Option.pure_def, Option.bind_eq_bind,
            Option.bind_some, Option.bind_eq_some_iff, inductionHypothesis, Option.some.injEq]
          cases chars with
          | nil => simp
          | cons d chars =>
              rw [List.map_cons, List.cons.injEq, Letter.char.injEq]
              constructor
              · rintro ⟨_, rfl, same⟩
                obtain ⟨rfl, rfl⟩ := List.cons.inj same
                exact ⟨rfl, rfl⟩
              · rintro ⟨rfl, rfl⟩
                exact ⟨chars, rfl, rfl⟩

theorem text?_eq_some_iff {letters : List Letter} {text : String} :
    text? letters = some text ↔ letters = text.toList.map .char := by
  rw [text?, Option.map_eq_some_iff]
  constructor
  · rintro ⟨chars, read, rfl⟩
    rw [mapM_char?_eq_some_iff.mp read, String.toList_ofList]
  · intro written
    exact ⟨text.toList, mapM_char?_eq_some_iff.mpr written, String.ofList_toList⟩

/-! ## Members -/

theorem entries?_cons_eq_some_iff {member : List Letter × Document} {members : Members}
    {entries : Dict} :
    entries? (member :: members) = some entries ↔
      ∃ name value rest, text? member.1 = some name ∧ member.2.value? = some value ∧
        entries? members = some rest ∧ entries = (.text name, value) :: rest := by
  rw [entries?]
  simp only [Option.bind_eq_bind, Option.bind_eq_some_iff, Option.some.injEq]
  constructor
  · rintro ⟨name, named, value, valued, rest, read, rfl⟩
    exact ⟨name, value, rest, named, valued, read, rfl⟩
  · rintro ⟨name, value, rest, named, valued, read, rfl⟩
    exact ⟨name, named, value, valued, rest, read, rfl⟩

/-- To write a member is to write the entry that it is. -/
theorem entries?_insert {members : Members} {entries : Dict} {key : List Letter} {name : String}
    {document : Document} {value : Value} (known : entries? members = some entries)
    (named : text? key = some name) (valued : document.value? = some value) :
    entries? (insert members key document) = some (Value.insert entries (.text name) value) := by
  induction members generalizing entries with
  | nil =>
      obtain rfl := Option.some.inj known
      exact entries?_cons_eq_some_iff.mpr ⟨name, value, [], named, valued, rfl, rfl⟩
  | cons member members inductionHypothesis =>
      obtain ⟨own, first, rest, ownNamed, ownValued, others, rfl⟩ :=
        entries?_cons_eq_some_iff.mp known
      have same : member.1 = key ↔ own = name := by
        rw [text?_eq_some_iff.mp ownNamed, text?_eq_some_iff.mp named]
        constructor
        · intro letters
          have apart : Function.Injective Letter.char := fun _ _ => Letter.char.inj
          exact String.toList_inj.mp (apart.list_map letters)
        · rintro rfl
          rfl
      rw [insert, Value.insert, Value.sameKey_text]
      by_cases replaced : own = name
      · rw [if_pos (same.mpr replaced), if_pos (beq_iff_eq.mpr replaced)]
        exact entries?_cons_eq_some_iff.mpr ⟨own, value, rest, ownNamed, valued, others, rfl⟩
      · rw [if_neg fun letters => replaced (same.mp letters),
          if_neg fun equal => replaced (beq_iff_eq.mp equal)]
        exact entries?_cons_eq_some_iff.mpr
          ⟨own, first, _, ownNamed, ownValued, inductionHypothesis others, rfl⟩

theorem entries?_ofMembers {members : Members} {entries : Dict}
    (read : entries? members = some entries) :
    entries? (ofMembers members) = some (Value.ofEntries entries) := by
  suffices general : ∀ (known : Members) (written : Dict), entries? known = some written →
      entries? (members.foldl (fun all member => insert all member.1 member.2) known) =
        some (entries.foldl (fun dict entry => Value.insert dict entry.1 entry.2) written) from
    general [] [] rfl
  induction members generalizing entries with
  | nil =>
      obtain rfl := Option.some.inj read
      exact fun _ _ known => known
  | cons member members inductionHypothesis =>
      obtain ⟨name, value, rest, named, valued, others, rfl⟩ := entries?_cons_eq_some_iff.mp read
      intro known written same
      exact inductionHypothesis others _ _ (entries?_insert same named valued)

end RideQuery.Json.Document
