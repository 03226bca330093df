import RideQuery.Proofs.Query.Execution
import RideQuery.Surroundings.Sql.Grammar

/-!
# Scope

A statement brings in the trips and the dimensions that it joins, each under a name of its
own, and every reference in it uses one of these names.  A column of a table that is known
in advance is written under the name of that table; a column of any other table is written
as if it were one of the trips.
-/

namespace RideQuery.Query

open RideQuery.Schema

/-! ## Tables with their names -/

/-- A table with the name that it goes by in a statement. -/
structure Binding where
  table : String
  qualifier : String
  deriving DecidableEq

namespace Binding

/-- The trips under their name. -/
def facts : Binding :=
  { table := factTable, qualifier := factAlias }

/-- A dimension under its name. -/
def ofDimension (dimension : Dimension) : Binding :=
  { table := dimension.table, qualifier := dimension.shortName }

/-- The table of a column under the name that its columns are written with. -/
def ofColumn (column : Column) : Binding :=
  { table := column.table, qualifier := aliasOf column.table }

/-- How a table is brought in: its name, and the one that it goes by. -/
def text (binding : Binding) : List Char :=
  binding.table.toList ++ ' ' :: binding.qualifier.toList

end Binding

/-- Texts in which a table is brought in under its name. -/
def Introduces (text : List Char) (binding : Binding) : Prop :=
  ∃ keyword ∈ [" FROM ", " JOIN "], keyword.toList ++ binding.text <:+: text

theorem Join.exists_text_eq (join : Join) :
    ∃ rest, ' ' :: join.text =
      " JOIN ".toList ++ (Binding.ofDimension join.dimension).text ++ rest := by
  cases join with
  | stations => exact ⟨" ON t.start_station_id = s.station_id".toList, by decide⟩
  | users => exact ⟨" ON t.user_id = u.user_id".toList, by decide⟩
  | weather start =>
      have opening : ' ' :: "JOIN daily_weather w ON ".toList =
          " JOIN ".toList ++ (Binding.ofDimension .weather).text ++ " ON ".toList := by decide
      refine ⟨" ON ".toList ++ (dayOf start ++ " = w.weather_date".toList), ?_⟩
      unfold text dimension
      simp only [← List.append_assoc]
      rw [← opening]
      simp only [List.append_assoc, List.cons_append]

/-- A member of a list of texts stands in the list as it is written. -/
theorem infix_intercalate {separator text : List Char} {texts : List (List Char)}
    (member : text ∈ texts) : text <:+: separator.intercalate texts := by
  induction texts with
  | nil => contradiction
  | cons first texts inductionHypothesis =>
      cases texts with
      | nil =>
          obtain rfl := List.mem_singleton.mp member
          rewrite [List.intercalate_singleton]
          exact List.infix_rfl
      | cons second texts =>
          rw [List.intercalate_cons_cons, List.append_assoc]
          rcases List.mem_cons.mp member with rfl | member
          · exact (List.prefix_append ..).isInfix
          · rw [← List.append_assoc]
            exact (inductionHypothesis member).trans (List.infix_append_right ..)

namespace Statement

variable {statement : Statement}

/-- The tables that a statement brings in. -/
def bindings (statement : Statement) : List Binding :=
  .facts :: statement.joins.map fun join => .ofDimension join.dimension

theorem output_infix_text {output : Output} (member : output ∈ statement.outputs) :
    output.text <:+: statement.text := by
  have inside : output.text <:+: listed (statement.outputs.map Output.text) :=
    infix_intercalate (List.mem_map_of_mem member)
  unfold text headText
  simp only [List.append_assoc]
  exact inside.trans (List.infix_append' ..)

theorem condition_infix_text {condition : Condition}
    (member : condition ∈ statement.conditions) : condition.text <:+: statement.text := by
  have some : ¬statement.conditions.isEmpty = true := by
    rw [List.isEmpty_iff]
    exact List.ne_nil_of_mem member
  have inside : condition.text <:+: statement.whereText := by
    rw [whereText, if_neg some]
    exact (infix_intercalate (List.mem_map_of_mem member)).trans (List.infix_append_right ..)
  unfold text
  simp only [List.append_assoc]
  exact inside.trans ((List.infix_append' ..).trans (List.infix_append_right ..))

/-- What a statement brings in stands in its text. -/
theorem introduces_text {binding : Binding} (member : binding ∈ statement.bindings) :
    Introduces statement.text binding := by
  rcases List.mem_cons.mp member with rfl | member
  · refine ⟨" FROM ", List.mem_cons_self, ?_⟩
    have inside : " FROM ".toList ++ Binding.facts.text <:+: statement.headText := by
      unfold headText Binding.facts Binding.text
      simp only [List.append_assoc]
      exact (List.suffix_append _ _).isInfix.trans (List.infix_append_right ..)
    unfold text
    simp only [List.append_assoc]
    exact inside.trans (List.prefix_append ..).isInfix
  · obtain ⟨join, joined, rfl⟩ := List.mem_map.mp member
    obtain ⟨rest, written⟩ := join.exists_text_eq
    refine ⟨" JOIN ", List.mem_cons_of_mem _ List.mem_cons_self, ?_⟩
    have inside : " JOIN ".toList ++ (Binding.ofDimension join.dimension).text <:+:
        statement.joinText := by
      have own : ' ' :: join.text <:+: statement.joinText :=
        List.infix_of_mem_flatten (List.mem_map_of_mem joined)
      rw [written] at own
      exact (List.prefix_append ..).isInfix.trans own
    unfold text
    simp only [List.append_assoc]
    exact inside.trans (List.infix_append' ..)

end Statement

/-! ## Columns as they are written -/

/-- Tables that something is known of in advance. -/
def IsKnown (table : String) : Prop :=
  table = factTable ∨ ∃ dimension : Dimension, dimension.table = table

theorem aliasOf_factTable : aliasOf factTable = factAlias := by
  decide

theorem aliasOf_of_not_isKnown {table : String} (unknown : ¬IsKnown table) :
    aliasOf table = factAlias := by
  have none : Dimension.ofTable? table = none := by
    rw [Dimension.ofTable?, List.find?_eq_none]
    intro dimension _ same
    exact unknown (.inr ⟨dimension, beq_iff_eq.mp same⟩)
  rw [aliasOf, none]

/-- Texts that begin with a reference, which a blank or the end of the text closes. -/
def LeadsWith (reference : Reference) (text : List Char) : Prop :=
  ∃ rest, text = reference.text ++ rest ∧ ∀ c ∈ rest.head?, c = ' '

theorem leadsWith_text (reference : Reference) : LeadsWith reference reference.text :=
  ⟨[], (List.append_nil _).symm, nofun⟩

theorem leadsWith_blank (reference : Reference) (rest : List Char) :
    LeadsWith reference (reference.text ++ ' ' :: rest) :=
  ⟨' ' :: rest, rfl, by simp⟩

theorem leadsWith_groupOutput (aggregation : Aggregation) (column : Column) :
    LeadsWith (.ofColumn column) (groupOutput aggregation column).text := by
  have keyword : " AS ".toList = ' ' :: "AS ".toList := by decide
  rw [groupOutput, Output.text]
  split
  · simp only [keyword, List.append_assoc, List.cons_append]
    exact leadsWith_blank ..
  · exact leadsWith_text _

/--
A part of a statement is on a column.  It begins with the column: under the name that the
statement brings in the column's table by if the table is known, and else as if the column
were one of the trips.
-/
structure Statement.Writes (statement : Statement) (column : Column) (text : List Char) :
    Prop where
  inside : text <:+: statement.text
  leads : LeadsWith (.ofColumn column) text
  known : IsKnown column.table → Binding.ofColumn column ∈ statement.bindings
  unknown : ¬IsKnown column.table → LeadsWith (.fact column.name) text

/-! ## References -/

/-- The columns that an expression is made from. -/
def Expression.references : Expression → List Reference
  | .column reference => [reference]
  | .countAll => []
  | .averageMinutes last first => [last, first]
  | .total reference => [reference]

/-- The columns of the catalog that a join goes by. -/
def Join.references : Join → List Reference
  | .weather start => [start]
  | _ => []

/-- The column that a condition is put on. -/
def Condition.subject : Condition → Reference
  | .compare target .. => target
  | .anyOf target _ => target
  | .oneOf target _ => target
  | .between start .. => start
  | .inMonth start _ => start
  | .inYear start _ => start

/-- Conditions that are put on a column and begin with it. -/
def OnColumn (column : Column) (condition : Condition) : Prop :=
  condition.subject = .ofColumn column ∧ LeadsWith (.ofColumn column) condition.text

theorem onColumn_compare (column : Column) (operator : Operator) (operand : Operand) :
    OnColumn column (.compare (.ofColumn column) operator operand) := by
  refine ⟨rfl, ?_⟩
  unfold Condition.text
  simp only [List.append_assoc, List.cons_append]
  exact leadsWith_blank ..

theorem onColumn_conjunct (filter : Filter) (column : Column) (number : Nat) :
    OnColumn column (conjunct filter column number) := by
  have keyword : " = ANY(".toList = ' ' :: "= ANY(".toList := by decide
  rw [conjunct]
  split
  · refine ⟨rfl, ?_⟩
    unfold Condition.text
    simp only [keyword, List.append_assoc, List.cons_append]
    exact leadsWith_blank ..
  · exact onColumn_compare ..

theorem IsInlined.onColumn {column : Column} {condition : Condition}
    (inlined : IsInlined column condition) : OnColumn column condition := by
  have keyword : " IN (".toList = ' ' :: "IN (".toList := by decide
  unfold IsInlined at inlined
  split at inlined
  · obtain ⟨rfl, _⟩ := inlined
    exact onColumn_compare ..
  · obtain ⟨rfl, _⟩ := inlined
    refine ⟨rfl, ?_⟩
    unfold Condition.text
    simp only [keyword, List.append_assoc, List.cons_append]
    exact leadsWith_blank ..
  · contradiction

/-- Each filter is a condition on the column that its name stands for. -/
theorem Numbered.onColumn {columns : List Column} {number : Nat} {filters : List Filter}
    {conditions : List Condition} {parameters : List Value}
    (numbered : Numbered columns number filters conditions parameters) :
    List.Forall₂ (fun filter condition =>
      ∃ column, findColumn columns filter.column = some column ∧ OnColumn column condition)
      filters conditions := by
  induction numbered with
  | nil => exact .nil
  | @passed number filter _ column _ _ _ found _ inductionHypothesis =>
      exact .cons ⟨column, found, onColumn_conjunct filter column number⟩ inductionHypothesis
  | @inlined _ _ _ column _ _ _ _ found literal _ inductionHypothesis =>
      exact .cons ⟨column, found, literal.onColumn⟩ inductionHypothesis

namespace Statement

/-- Every column that a statement refers to. -/
def references (statement : Statement) : List Reference :=
  statement.outputs.flatMap (fun output => output.expression.references) ++
    statement.joins.flatMap Join.references ++ statement.conditions.map Condition.subject

/-- References under a name that a statement brings a table in by. -/
def Binds (statement : Statement) (reference : Reference) : Prop :=
  ∃ binding ∈ statement.bindings, binding.qualifier = reference.qualifier

theorem binds_of_fact (statement : Statement) {reference : Reference}
    (fact : reference.qualifier = factAlias) : statement.Binds reference :=
  ⟨.facts, List.mem_cons_self, fact.symm⟩

end Statement

variable {columns : List Column} {intent : Intent}

theorem qualifier_of_requireColumn {column : Option Column} {needed : Needed}
    {reference : Reference} (required : requireColumn column needed = .ok reference) :
    reference.qualifier = factAlias := by
  obtain ⟨found, _, rfl⟩ := requireColumn_eq_ok_iff.mp required
  rfl

theorem qualifier_of_aggregateOutput {aggregation : Aggregation} {output : Output}
    (made : aggregateOutput columns aggregation = .ok output) :
    ∀ reference ∈ output.expression.references, reference.qualifier = factAlias := by
  intro reference member
  cases isAggregate_of_aggregateOutput made with
  | average => rcases List.mem_pair.mp member with rfl | rfl <;> rfl
  | distance =>
      obtain rfl := List.mem_singleton.mp member
      rfl
  | _ => contradiction

theorem qualifier_of_joinOf {dimension : Dimension} {join : Join}
    (made : joinOf columns dimension = .ok join) :
    ∀ reference ∈ join.references, reference.qualifier = factAlias := by
  cases dimension with
  | weather =>
      obtain ⟨start, required, done⟩ := bind_eq_ok_iff.mp made
      obtain rfl := pure_eq_ok_iff.mp done
      intro reference member
      obtain rfl := List.mem_singleton.mp member
      exact qualifier_of_requireColumn required
  | _ =>
      obtain rfl := pure_eq_ok_iff.mp made
      nofun

theorem OnStart.qualifier_eq {condition : Condition} (onStart : OnStart columns condition) :
    condition.subject.qualifier = factAlias := by
  cases onStart with
  | between required => exact qualifier_of_requireColumn required
  | inMonth required => exact qualifier_of_requireColumn required
  | inYear required => exact qualifier_of_requireColumn required

/-! ## Statements in scope -/

/-- What is asked of the statement of an intent, its groups being given. -/
structure IsScoped (columns : List Column) (intent : Intent) (groups : List Column)
    (statement : Statement) : Prop where
  /-- Each filter is a condition that is written on its column. -/
  conditions : ∃ conditions dates, statement.conditions = conditions ++ dates ∧
    List.Forall₂ (fun filter condition => ∃ column,
      findColumn columns filter.column = some column ∧ statement.Writes column condition.text)
      intent.filters conditions
  /-- Each group is a member of the SELECT list that is written on its column. -/
  outputs : ∃ outputs aggregate, statement.outputs = outputs ++ [aggregate] ∧
    List.Forall₂ (fun column output => statement.Writes column output.text) groups outputs
  /-- No dimension is joined twice, and they are joined in one order. -/
  order : (statement.joins.map Join.dimension).Sublist Dimension.all
  /-- A dimension is joined exactly if a filter or a group is on one of its columns. -/
  joined : ∀ dimension : Dimension, dimension ∈ statement.joins.map Join.dimension ↔
    (∃ filter ∈ intent.filters, ∃ column, findColumn columns filter.column = some column ∧
      column.table = dimension.table) ∨ ∃ column ∈ groups, column.table = dimension.table
  introduced : ∀ binding ∈ statement.bindings, Introduces statement.text binding
  /-- No two tables are brought in under one name. -/
  distinct : (statement.bindings.map Binding.qualifier).Nodup
  bound : ∀ reference ∈ statement.references, statement.Binds reference

namespace Layout.Of

variable {layout : Layout}

theorem mem_bindings (isOf : layout.Of columns intent) (conditions : List Condition)
    {column : Column} (used : column ∈ layout.used) (known : IsKnown column.table) :
    Binding.ofColumn column ∈ (layout.statement intent.aggregation conditions).bindings := by
  rcases known with fact | ⟨dimension, table⟩
  · have own : Binding.ofColumn column = .facts := by
      rw [Binding.ofColumn, fact, aliasOf_factTable, Binding.facts]
    rw [own]
    exact List.mem_cons_self
  · have own : Binding.ofColumn column = .ofDimension dimension := by
      rw [Binding.ofColumn, ← table, aliasOf_table, Binding.ofDimension]
    have needed : dimension ∈ layout.joins.map Join.dimension := by
      rw [isOf.dimensions]
      exact mem_dimensionsOf_iff.mpr ⟨column, used, table.symm⟩
    obtain ⟨join, joined, rfl⟩ := List.mem_map.mp needed
    rw [own]
    exact List.mem_cons_of_mem _ (List.mem_map.mpr ⟨join, joined, rfl⟩)

theorem writes (isOf : layout.Of columns intent) {conditions : List Condition}
    {column : Column} (used : column ∈ layout.used) {text : List Char}
    (inside : text <:+: (layout.statement intent.aggregation conditions).text)
    (leads : LeadsWith (.ofColumn column) text) :
    (layout.statement intent.aggregation conditions).Writes column text where
  inside := inside
  leads := leads
  known := isOf.mem_bindings conditions used
  unknown := by
    intro unknown
    rw [Reference.ofColumn, aliasOf_of_not_isKnown unknown] at leads
    exact leads

theorem binds_ofColumn (isOf : layout.Of columns intent) (conditions : List Condition)
    {column : Column} (used : column ∈ layout.used) :
    (layout.statement intent.aggregation conditions).Binds (.ofColumn column) := by
  by_cases known : IsKnown column.table
  · exact ⟨.ofColumn column, isOf.mem_bindings conditions used known, rfl⟩
  · exact Statement.binds_of_fact _ (aliasOf_of_not_isKnown known)

theorem order (isOf : layout.Of columns intent) :
    (layout.joins.map Join.dimension).Sublist Dimension.all := by
  rw [isOf.dimensions]
  exact List.filter_sublist

theorem distinct (isOf : layout.Of columns intent) (conditions : List Condition) :
    ((layout.statement intent.aggregation conditions).bindings.map Binding.qualifier).Nodup := by
  have names : (layout.statement intent.aggregation conditions).bindings.map Binding.qualifier =
      factAlias :: (layout.joins.map Join.dimension).map Dimension.shortName := by
    simp only [Statement.bindings, statement, List.map_cons, List.map_map]
    rfl
  have all : (factAlias :: Dimension.all.map Dimension.shortName).Nodup := by decide
  rw [names]
  exact all.sublist ((isOf.order.map Dimension.shortName).cons_cons factAlias)

/-- Every reference of a completed layout is under a name of the statement. -/
theorem bound (isOf : layout.Of columns intent) {conditions dates : List Condition}
    {parameters : List Value}
    (numbered : Numbered columns 1 intent.filters conditions parameters)
    (dated : optionalDateConditions columns intent.dateRange = .ok dates) :
    ∀ reference ∈ (layout.statement intent.aggregation (conditions ++ dates)).references,
      (layout.statement intent.aggregation (conditions ++ dates)).Binds reference := by
  intro reference member
  simp only [Statement.references, statement, List.flatMap_append, List.map_append,
    List.mem_append, List.mem_flatMap, List.mem_map, List.mem_singleton] at member
  rcases member with ((⟨output, ⟨column, grouped, rfl⟩, inside⟩ | ⟨output, rfl, inside⟩) |
    ⟨join, joined, inside⟩) | ⟨condition, inside, rfl⟩ | ⟨condition, inside, rfl⟩
  · obtain rfl := List.mem_singleton.mp inside
    exact isOf.binds_ofColumn _ (List.mem_append_right _ grouped)
  · exact Statement.binds_of_fact _ (qualifier_of_aggregateOutput isOf.aggregate reference inside)
  · exact Statement.binds_of_fact _
      (qualifier_of_joinOf (isOf.joins join joined) reference inside)
  · obtain ⟨filter, filtered, column, found, subject, _⟩ :=
      exists_of_mem_forall₂ numbered.onColumn condition inside
    rw [subject]
    exact isOf.binds_ofColumn _ (isOf.mem_used_iff.mpr (.inl ⟨filter, filtered, found⟩))
  · exact Statement.binds_of_fact _
      (onStart_of_optionalDateConditions dated condition inside).qualifier_eq

theorem joined (isOf : layout.Of columns intent) (dimension : Dimension) :
    dimension ∈ layout.joins.map Join.dimension ↔
      (∃ filter ∈ intent.filters, ∃ column, findColumn columns filter.column = some column ∧
        column.table = dimension.table) ∨
          ∃ column ∈ layout.groups, column.table = dimension.table := by
  rw [isOf.dimensions, mem_dimensionsOf_iff]
  constructor
  · rintro ⟨column, used, table⟩
    rcases isOf.mem_used_iff.mp used with ⟨filter, filtered, found⟩ | grouped
    · exact .inl ⟨filter, filtered, column, found, table⟩
    · exact .inr ⟨column, grouped, table⟩
  · rintro (⟨filter, filtered, column, found, table⟩ | ⟨column, grouped, table⟩)
    · exact ⟨column, isOf.mem_used_iff.mpr (.inl ⟨filter, filtered, found⟩), table⟩
    · exact ⟨column, List.mem_append_right _ grouped, table⟩

/-- Completing a layout makes a statement that is in scope. -/
theorem isScoped (isOf : layout.Of columns intent) {conditions dates : List Condition}
    {parameters : List Value}
    (numbered : Numbered columns 1 intent.filters conditions parameters)
    (dated : optionalDateConditions columns intent.dateRange = .ok dates) :
    IsScoped columns intent layout.groups
      (layout.statement intent.aggregation (conditions ++ dates)) where
  conditions := by
    refine ⟨conditions, dates, rfl, forall₂_of_mem numbered.onColumn ?_⟩
    rintro filter filtered condition inside ⟨column, found, _, leads⟩
    have used := isOf.mem_used_iff.mpr (.inl ⟨filter, filtered, found⟩)
    refine ⟨column, found, isOf.writes used (Statement.condition_infix_text ?_) leads⟩
    exact List.mem_append_left dates inside
  outputs := by
    refine ⟨layout.groups.map (groupOutput intent.aggregation), layout.aggregate, rfl, ?_⟩
    rw [List.forall₂_map_right_iff, List.forall₂_same]
    intro column grouped
    refine isOf.writes (List.mem_append_right _ grouped) (Statement.output_infix_text ?_)
      (leadsWith_groupOutput intent.aggregation column)
    exact List.mem_append_left _ (List.mem_map_of_mem grouped)
  order := isOf.order
  joined := isOf.joined
  introduced _ := Statement.introduces_text
  distinct := isOf.distinct _
  bound := isOf.bound numbered dated

end Layout.Of

/-! ## From an intent to a statement in scope -/

/--
The statement of an intent is in scope.  A filter is a condition and a group is a member of
the SELECT list, and each begins with its column.  If the table of the column is known, the
column is under the name that the statement brings that table in by, which is that of the
trips or of a dimension that is joined; if it is not known, the column is written as one of
the trips.  Dimensions are joined in one order, each of them at most once, and exactly if a
filter or a group is on one of its columns.
-/
theorem isScoped_of_buildWith {wellFormed : List Char → Bool} {generated : Generated}
    (built : buildWith wellFormed intent.toDraft columns = .ok generated) :
    ∃ groups, groupColumns columns intent.aggregation intent.groupBy = .ok groups ∧
      IsScoped columns intent groups generated.statement := by
  obtain ⟨bound, bindStep, _, statement_eq, _⟩ := exists_bound_of_buildWith built
  obtain ⟨layout, conditions, dates, isOf, numbered, dated, own⟩ :=
    Layout.exists_of_bind bindStep
  rw [statement_eq, own]
  exact ⟨layout.groups, isOf.groups, isOf.isScoped numbered dated⟩

theorem isScoped_of_buildWith_sample :
    ∃ generated, buildWith (fun _ => true) sampleIntent.toDraft sampleColumns = .ok generated ∧
      ∃ groups, groupColumns sampleColumns sampleIntent.aggregation sampleIntent.groupBy =
          .ok groups ∧
        IsScoped sampleColumns sampleIntent groups generated.statement := by
  obtain ⟨generated, built⟩ : ∃ generated,
      buildWith (fun _ => true) sampleIntent.toDraft sampleColumns = .ok generated :=
    exists_eq_ok_of_isOk (by decide +kernel)
  exact ⟨generated, built, isScoped_of_buildWith built⟩

/-- A column of a table that nothing is known of. -/
def amountColumn : Column :=
  { table := "payments", name := "amount", dataType := some "numeric", nullable := true }

/-- A count of the trips of more than a given amount. -/
def amountIntent : Intent :=
  { filters := [{ column := "amount", operator := .greater, value := .int 5 }] }

/-- The statement that counts them. -/
def amountStatement : Statement :=
  { outputs := [{ expression := .countAll, label := some countLabel }]
    joins := []
    conditions := [.compare (.fact "amount") .greater (.placeholder 1)]
    groupBy := []
    topOnly := false }

/-- A column of a table that nothing is known of is written without its table. -/
theorem not_introduces_payments :
    findColumn [amountColumn] "amount" = some amountColumn ∧
      ∃ generated, buildWith Sql.Grammar.accepts amountIntent.toDraft [amountColumn] =
          .ok generated ∧
        generated.sql = "SELECT COUNT(*) AS total_count FROM trips t WHERE t.amount > $1" ∧
        ∀ qualifier, ¬Introduces generated.statement.text
          { table := amountColumn.table, qualifier } := by
  have computed : (buildWith Sql.Grammar.accepts amountIntent.toDraft [amountColumn]).map
      Generated.statement = .ok amountStatement := by decide +kernel
  have absent : ¬amountColumn.table.toList <:+: amountStatement.text := by decide +kernel
  obtain ⟨generated, built, own⟩ := map_eq_ok_iff.mp computed
  refine ⟨by decide, generated, built, ?_, ?_⟩
  · rw [Generated.sql, own]
    decide +kernel
  · rintro qualifier ⟨keyword, _, brought⟩
    rw [own] at brought
    refine absurd (List.IsInfix.trans ?_ brought) absent
    exact List.infix_append' ..

end RideQuery.Query
