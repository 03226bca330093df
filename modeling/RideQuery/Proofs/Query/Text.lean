import RideQuery.Proofs.Sql.Guard
import RideQuery.Query.Statement

/-!
# Texts of statements

A statement whose names and literals are solid shows exactly the placeholders of its
conditions, in order, and its text begins and ends in such a way that it is executed
as it stands.
-/

namespace RideQuery.Query

open RideQuery.Text RideQuery.Number RideQuery.Schema RideQuery.Sql

/-! ## References -/

/-- References whose names open nothing and hold no blank. -/
def Reference.IsPlain (reference : Reference) : Prop :=
  Solid reference.qualifier.toList ∧ Solid reference.name.toList

theorem Reference.IsPlain.solid_text {reference : Reference} (plain : reference.IsPlain) :
    Solid reference.text := by
  constructor
  · simp [Reference.text]
  · intro c member
    rcases List.mem_append.mp member with member | member
    · exact plain.1.2 c member
    · rcases List.mem_cons.mp member with rfl | member
      · exact ⟨by decide, by decide, by decide⟩
      · exact plain.2.2 c member

theorem inert_dayOf {reference : Reference} (plain : reference.IsPlain) :
    Inert (dayOf reference) := by
  unfold dayOf
  simp only [inert_append]
  exact ⟨⟨by decide, plain.solid_text.inert⟩, by decide⟩

/-! ## Outputs and joins -/

/-- Expressions over plain references. -/
def Expression.IsPlain : Expression → Prop
  | .column reference => reference.IsPlain
  | .countAll => True
  | .averageMinutes last first => last.IsPlain ∧ first.IsPlain
  | .total reference => reference.IsPlain

theorem Expression.IsPlain.inert_text {expression : Expression} (plain : expression.IsPlain) :
    Inert expression.text := by
  cases expression with
  | column reference => exact Reference.IsPlain.solid_text plain |>.inert
  | countAll => exact (by decide : Inert "COUNT(*)".toList)
  | averageMinutes last first =>
      unfold Expression.text
      simp only [inert_append]
      exact ⟨⟨⟨⟨by decide, plain.1.solid_text.inert⟩, by decide⟩, plain.2.solid_text.inert⟩,
        by decide⟩
  | total reference =>
      unfold Expression.text
      simp only [inert_append]
      exact ⟨⟨by decide, Reference.IsPlain.solid_text plain |>.inert⟩, by decide⟩

/-- Members of the SELECT list with a plain expression and a solid name. -/
def Output.IsPlain (output : Output) : Prop :=
  output.expression.IsPlain ∧ ∀ label ∈ output.label, Solid label.toList

theorem Output.IsPlain.inert_text {output : Output} (plain : output.IsPlain) :
    Inert output.text := by
  obtain ⟨expression, label⟩ := output
  have inert := plain.1.inert_text
  cases label with
  | none => exact inert
  | some label =>
      unfold Output.text
      simp only [inert_append]
      exact ⟨⟨inert, by decide⟩, (plain.2 label rfl).inert⟩

/-- Joins over plain references. -/
def Join.IsPlain : Join → Prop
  | .weather start => start.IsPlain
  | _ => True

theorem Join.IsPlain.inert_text {join : Join} (plain : join.IsPlain) : Inert join.text := by
  cases join with
  | stations => exact (by decide : Inert (Join.text .stations))
  | users => exact (by decide : Inert (Join.text .users))
  | weather start =>
      unfold Join.text
      simp only [inert_append]
      exact ⟨⟨by decide, inert_dayOf plain⟩, by decide⟩

theorem Join.text_ne_nil (join : Join) : join.text ≠ [] := by
  cases join with
  | stations => decide
  | users => decide
  | weather start =>
      exact List.append_ne_nil_of_right_ne_nil _ (by decide : " = w.weather_date".toList ≠ [])

theorem Join.firm_text (join : Join) : Firm join.text := by
  cases join with
  | stations => exact (by decide : Firm (Join.text .stations))
  | users => exact (by decide : Firm (Join.text .users))
  | weather start =>
      exact Firm.prepend ("JOIN daily_weather w ON ".toList ++ dayOf start)
        (by decide : " = w.weather_date".toList ≠ []) (by decide)

/-! ## Conditions -/

/-- Conditions over plain references, with solid literals and without quotes in dates. -/
def Condition.IsPlain : Condition → Prop
  | .compare target _ (.placeholder _) => target.IsPlain
  | .compare target _ (.literal text) => target.IsPlain ∧ Solid text
  | .anyOf target _ => target.IsPlain
  | .oneOf target literals => target.IsPlain ∧ ∀ text ∈ literals, Solid text
  | .between start first last =>
    start.IsPlain ∧ singleQuote ∉ first.toList ∧ singleQuote ∉ last.toList
  | .inMonth start _ => start.IsPlain
  | .inYear start _ => start.IsPlain

/-- The numbers of the placeholders that a condition has. -/
def Condition.numbers : Condition → List Nat
  | .compare _ _ (.placeholder number) => [number]
  | .anyOf _ number => [number]
  | _ => []

theorem inert_wording (operator : Operator) :
    Inert (' ' :: (Worded.wording operator).toList) := by
  cases operator <;> decide

theorem shows_quotedLiteral {text : String} (unquoted : singleQuote ∉ text.toList) :
    Shows (quotedLiteral text) [] :=
  Shows.literal unquoted

theorem Condition.IsPlain.shows_text {condition : Condition} (plain : condition.IsPlain) :
    Shows condition.text condition.numbers := by
  cases condition with
  | compare target operator operand =>
      have compared : ∀ {numbers : List Nat}, target.IsPlain → Shows operand.text numbers →
          Shows (Condition.text (.compare target operator operand)) numbers := by
        intro numbers isPlain shows
        have inert : Inert (target.text ++ ' ' :: (Worded.wording operator).toList) :=
          inert_append.mpr ⟨isPlain.solid_text.inert, inert_wording operator⟩
        exact (shows.inert_append (by decide : Inert [' '])).inert_append inert
      cases operand with
      | placeholder number => exact compared plain (Shows.placeholder number)
      | literal text => exact compared plain.1 (Shows.of_inert plain.2.inert)
  | anyOf target number =>
      have inert : Inert (target.text ++ " = ANY(".toList) :=
        inert_append.mpr ⟨Reference.IsPlain.solid_text plain |>.inert, by decide⟩
      have closed : Shows (placeholderText number ++ ")".toList) [number] :=
        (Shows.placeholder number).append (Shows.of_inert (by decide)) (by decide)
      change Shows (target.text ++ " = ANY(".toList ++ placeholderText number ++ ")".toList)
        [number]
      rw [List.append_assoc]
      exact closed.inert_append inert
  | oneOf target literals =>
      have list : Inert (listed literals) :=
        inert_intercalate (by decide) fun text member => (plain.2 text member).inert
      apply Shows.of_inert
      unfold Condition.text
      simp only [inert_append]
      exact ⟨⟨⟨plain.1.solid_text.inert, by decide⟩, list⟩, by decide⟩
  | between start first last =>
      obtain ⟨startPlain, firstUnquoted, lastUnquoted⟩ := plain
      have inert : Inert (dayOf start ++ " BETWEEN ".toList) :=
        inert_append.mpr ⟨inert_dayOf startPlain, by decide⟩
      have rest : Shows (" AND ".toList ++ quotedLiteral last) [] :=
        (shows_quotedLiteral lastUnquoted).inert_append (by decide)
      have separates : Separates (" AND ".toList ++ quotedLiteral last) :=
        (by decide : Separates " AND ".toList)
      have both := (shows_quotedLiteral firstUnquoted).append rest separates
      change Shows (dayOf start ++ " BETWEEN ".toList ++ quotedLiteral first ++ " AND ".toList ++
        quotedLiteral last) []
      rw [List.append_assoc _ _ (quotedLiteral last), List.append_assoc _ (quotedLiteral first)]
      exact both.inert_append inert
  | inMonth start month =>
      apply Shows.of_inert
      unfold Condition.text
      simp only [inert_append]
      exact ⟨⟨⟨by decide, Reference.IsPlain.solid_text plain |>.inert⟩, by decide⟩,
        (solid_of_numberText (.repr month)).inert⟩
  | inYear start year =>
      apply Shows.of_inert
      unfold Condition.text
      simp only [inert_append]
      exact ⟨⟨⟨by decide, Reference.IsPlain.solid_text plain |>.inert⟩, by decide⟩,
        (solid_of_numberText (.repr year)).inert⟩

theorem Condition.IsPlain.firm_text {condition : Condition} (plain : condition.IsPlain) :
    condition.text ≠ [] ∧ Firm condition.text := by
  have ends : ∀ {text other : List Char}, other ≠ [] → Firm other →
      text ++ other ≠ [] ∧ Firm (text ++ other) := by
    intro text other nonempty firm
    constructor
    · exact List.append_ne_nil_of_right_ne_nil _ nonempty
    · exact Firm.prepend _ nonempty firm
  have number : ∀ n : Nat, Firm (Nat.repr n).toList :=
    fun n => (solid_of_numberText (.repr n)).firm
  cases condition with
  | compare target operator operand =>
      cases operand with
      | placeholder number' =>
          have operand : Firm (placeholderText number') :=
            .prepend ['$'] (toList_repr_ne_nil number') (number number')
          exact ends (by simp) (.prepend [' '] (by simp [placeholderText]) operand)
      | literal text => exact ends (by simp) (.prepend [' '] plain.2.1 plain.2.firm)
  | anyOf target number' => exact ends (by decide) (by decide)
  | oneOf target literals => exact ends (by decide) (by decide)
  | between start first last =>
      have quoted : Firm (quotedLiteral last) := .prepend _ (by decide) (by decide)
      exact ends (by simp [quotedLiteral]) quoted
  | inMonth start month => exact ends (toList_repr_ne_nil month) (number month)
  | inYear start year => exact ends (toList_repr_ne_nil year) (number year)

/-! ## Statements -/

/-- Statements all of whose members are plain. -/
structure Statement.IsPlain (statement : Statement) : Prop where
  outputs : ∀ output ∈ statement.outputs, output.IsPlain
  joins : ∀ join ∈ statement.joins, join.IsPlain
  conditions : ∀ condition ∈ statement.conditions, condition.IsPlain
  groupBy : ∀ name ∈ statement.groupBy, Solid name.toList

theorem inert_listed {texts : List (List Char)} (inert : ∀ text ∈ texts, Inert text) :
    Inert (listed texts) :=
  inert_intercalate (by decide) inert

namespace Statement

variable {statement : Statement}

/-- The numbers of the placeholders that a statement has, in order. -/
def numbers (statement : Statement) : List Nat :=
  statement.conditions.flatMap Condition.numbers

/-- Every statement begins with its first word. -/
theorem exists_text_eq (statement : Statement) :
    ∃ rest, statement.text = "SELECT ".toList ++ rest := by
  unfold text headText
  simp only [List.append_assoc]
  exact ⟨_, rfl⟩

namespace IsPlain

theorem inert_headText (plain : statement.IsPlain) : Inert statement.headText := by
  have outputs : ∀ text ∈ statement.outputs.map Output.text, Inert text :=
    List.forall_mem_map.mpr fun output member => (plain.outputs output member).inert_text
  unfold headText
  simp only [inert_append]
  exact ⟨⟨⟨⟨by decide, inert_listed outputs⟩, by decide⟩, by decide⟩, by decide⟩

theorem inert_joinText (plain : statement.IsPlain) : Inert statement.joinText := by
  intro c member
  obtain ⟨join, inside, written⟩ := List.mem_flatMap.mp member
  have inert : Inert (' ' :: join.text) :=
    inert_cons.mpr ⟨by decide, (plain.joins join inside).inert_text⟩
  exact inert c written

theorem shows_conditions {conditions : List Condition}
    (plain : ∀ condition ∈ conditions, condition.IsPlain) :
    Shows (" AND ".toList.intercalate (conditions.map Condition.text))
      (conditions.flatMap Condition.numbers) := by
  have shown : List.Forall₂ Shows (conditions.map Condition.text)
      (conditions.map Condition.numbers) := by
    rw [List.forall₂_map_left_iff, List.forall₂_map_right_iff, List.forall₂_same]
    exact fun condition member => (plain condition member).shows_text
  exact Shows.intercalate (by decide) (by decide) (by decide) shown

theorem shows_whereText (plain : statement.IsPlain) :
    Shows statement.whereText statement.numbers := by
  rw [whereText]
  split
  · have none : statement.conditions = [] := List.isEmpty_iff.mp ‹_›
    simp only [numbers, none]
    exact Shows.nil
  · exact (shows_conditions plain.conditions).inert_append (by decide)

theorem shows_groupText (plain : statement.IsPlain) : Shows statement.groupText [] := by
  have names : ∀ text ∈ statement.groupBy.map String.toList, Inert text :=
    List.forall_mem_map.mpr fun name member => (plain.groupBy name member).inert
  rw [groupText]
  split
  · exact Shows.nil
  · exact Shows.of_inert (inert_append.mpr ⟨by decide, inert_listed names⟩)

end IsPlain

theorem separates_groupText (statement : Statement) : Separates statement.groupText := by
  rw [groupText]
  split
  · exact separates_nil
  · exact (by decide : Separates " GROUP BY ".toList)

theorem shows_orderText (statement : Statement) : Shows statement.orderText [] := by
  rw [orderText]
  split
  · exact Shows.of_inert (by decide)
  · exact Shows.nil

theorem separates_orderText (statement : Statement) : Separates statement.orderText := by
  rw [orderText]
  split <;> decide

/-- A plain statement shows the placeholders of its conditions and no others. -/
theorem IsPlain.shows_text (plain : statement.IsPlain) :
    Shows statement.text statement.numbers := by
  have front := inert_append.mpr ⟨plain.inert_headText, plain.inert_joinText⟩
  have conditions := plain.shows_whereText.inert_append front
  have grouped := conditions.append plain.shows_groupText (separates_groupText statement)
  have ordered := grouped.append (shows_orderText statement) (separates_orderText statement)
  simpa only [text, List.append_nil] using ordered

theorem firm_joinText (statement : Statement) : Firm statement.joinText := by
  rw [joinText]
  induction statement.joins with
  | nil => decide
  | cons join joins inductionHypothesis =>
      rw [List.flatMap_cons]
      exact (Firm.prepend [' '] join.text_ne_nil join.firm_text).append inductionHypothesis

theorem IsPlain.firm_whereText (plain : statement.IsPlain) : Firm statement.whereText := by
  apply Firm.clause " WHERE ".toList " AND ".toList
  intro condition member
  exact (plain.conditions condition member).firm_text

theorem IsPlain.firm_groupText (plain : statement.IsPlain) : Firm statement.groupText := by
  apply Firm.clause " GROUP BY ".toList ", ".toList
  intro name member
  exact ⟨(plain.groupBy name member).1, (plain.groupBy name member).firm⟩

/-- Nothing is trimmed off the end of a plain statement. -/
theorem IsPlain.firm_text (plain : statement.IsPlain) : Firm statement.text := by
  have head : Firm statement.headText :=
    .prepend _ (by decide) (by decide : Firm (' ' :: factAlias.toList))
  have order : Firm statement.orderText := by
    rw [orderText]
    split <;> decide
  exact (((head.append (firm_joinText statement)).append plain.firm_whereText).append
    plain.firm_groupText).append order

end Statement

end RideQuery.Query
